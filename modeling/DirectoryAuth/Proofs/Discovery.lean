import DirectoryAuth.Discovery
import DirectoryAuth.Proofs.Network.Rehearsal
import Mathlib

/-!
# The order of announced servers

The records of an answer are ranked by priority and weight, and many may share a rank. Their order
is told here without sorting: it is a rearrangement in which no record stands in front of one that
is to be tried before it, and the records of a rank follow one another as they did in the answer.
There is only one such order. The URLs are those of the records that name a host.
-/

namespace DirectoryAuth.Discovery

open Operation

variable {a b : ServiceRecord} {records ordered other : List ServiceRecord}

/-! ## Ranks -/

/-- The first record is not to be tried after the second: its priority is lower, or the same with a
weight that is at least as high. -/
def NotAfter (a b : ServiceRecord) : Prop :=
  a.priority < b.priority ∨ a.priority = b.priority ∧ b.weight ≤ a.weight

theorem precedes_iff : precedes a b = true ↔ NotAfter a b := by
  simp [precedes, NotAfter]

theorem NotAfter.trans {c : ServiceRecord} (first : NotAfter a b) (second : NotAfter b c) :
    NotAfter a c := by
  unfold NotAfter at *
  omega

theorem notAfter_total (a b : ServiceRecord) : NotAfter a b ∨ NotAfter b a := by
  unfold NotAfter
  omega

theorem NotAfter.antisymm (first : NotAfter a b) (second : NotAfter b a) :
    a.priority = b.priority ∧ a.weight = b.weight := by
  unfold NotAfter at *
  omega

def ranked (priority weight : Int) (records : List ServiceRecord) : List ServiceRecord :=
  records.filter fun r => r.priority = priority ∧ r.weight = weight

theorem mem_ranked : a ∈ ranked a.priority a.weight records ↔ a ∈ records := by
  simp [ranked]

theorem ranked_cons_self (a : ServiceRecord) (records : List ServiceRecord) :
    ranked a.priority a.weight (a :: records) = a :: ranked a.priority a.weight records := by
  simp [ranked]

/-- Records of one rank are in order, whatever order they are in. -/
theorem pairwise_ranked (priority weight : Int) (records : List ServiceRecord) :
    (ranked priority weight records).Pairwise fun a b => precedes a b = true := by
  apply List.pairwise_of_forall_mem_list
  intro a first b second
  simp only [ranked, List.mem_filter, decide_eq_true_eq] at first second
  rw [precedes_iff]
  unfold NotAfter
  omega

/-! ## The order -/

/-- The records of an answer, in the order in which they are to be tried. -/
structure InOrder (records ordered : List ServiceRecord) : Prop where
  perm : ordered.Perm records
  sorted : ordered.Pairwise NotAfter
  stable : ∀ priority weight, ranked priority weight ordered = ranked priority weight records

theorem inOrder_mergeSort (records : List ServiceRecord) :
    InOrder records (records.mergeSort precedes) := by
  have trans : ∀ a b c, precedes a b = true → precedes b c = true → precedes a c = true := by
    intro a b c first second
    rw [precedes_iff] at *
    exact first.trans second
  have total : ∀ a b, (precedes a b || precedes b a) = true := by
    intro a b
    rw [Bool.or_eq_true, precedes_iff, precedes_iff]
    exact notAfter_total a b
  have perm : (records.mergeSort precedes).Perm records := List.mergeSort_perm records precedes
  refine ⟨perm, ?_, fun priority weight => ?_⟩
  · apply (List.pairwise_mergeSort trans total records).imp
    intro a b
    exact precedes_iff.mp
  · have kept : (ranked priority weight records).Sublist (records.mergeSort precedes) :=
      List.sublist_mergeSort trans total (pairwise_ranked priority weight records)
        List.filter_sublist
    have within : (ranked priority weight records).Sublist
        (ranked priority weight (records.mergeSort precedes)) := by
      have filtered := kept.filter fun r => r.priority = priority ∧ r.weight = weight
      simpa only [ranked, List.filter_filter, Bool.and_self] using filtered
    exact (within.eq_of_length (perm.filter _).length_eq.symm).symm

/-- The records of each rank are all records. -/
theorem mem_iff_of_ranked
    (same : ∀ priority weight, ranked priority weight ordered = ranked priority weight other) :
    a ∈ ordered ↔ a ∈ other := by
  rw [← mem_ranked, same, mem_ranked]

/-- Sorted records are told by the records of each rank. -/
theorem eq_of_sorted (sorted : ordered.Pairwise NotAfter) (sorted' : other.Pairwise NotAfter)
    (same : ∀ priority weight, ranked priority weight ordered = ranked priority weight other) :
    ordered = other := by
  induction ordered generalizing other with
  | nil =>
    cases other with
    | nil => rfl
    | cons b rest' =>
      exact absurd ((mem_iff_of_ranked same).mpr List.mem_cons_self) List.not_mem_nil
  | cons a rest ih =>
    cases other with
    | nil => exact absurd ((mem_iff_of_ranked same).mp List.mem_cons_self) List.not_mem_nil
    | cons b rest' =>
      obtain ⟨front, later⟩ := List.pairwise_cons.mp sorted
      obtain ⟨front', later'⟩ := List.pairwise_cons.mp sorted'
      have heads : a = b := by
        by_contra differ
        -- Each of the two stands somewhere behind the other, so they have one rank.
        have behind : b ∈ rest := by
          have member := (mem_iff_of_ranked same).mpr List.mem_cons_self
          exact (List.mem_cons.mp member).resolve_left (Ne.symm differ)
        have behind' : a ∈ rest' := by
          have member := (mem_iff_of_ranked same).mp List.mem_cons_self
          exact (List.mem_cons.mp member).resolve_left differ
        obtain ⟨priority, weight⟩ := (front b behind).antisymm (front' a behind')
        have first := same a.priority a.weight
        rw [ranked_cons_self, priority, weight, ranked_cons_self] at first
        exact differ (List.cons.inj first).1
      subst heads
      have tails : rest = rest' := by
        apply ih later later'
        intro priority weight
        have whole := same priority weight
        by_cases first : a.priority = priority ∧ a.weight = weight
        · simpa [ranked, first] using whole
        · simpa [ranked, first] using whole
      rw [tails]

theorem InOrder.unique (first : InOrder records ordered) (second : InOrder records other) :
    ordered = other := by
  apply eq_of_sorted first.sorted second.sorted
  intro priority weight
  exact (first.stable priority weight).trans (second.stable priority weight).symm

/-! ## URLs -/

/-- The target is the name of the host, with or without the dot that ends a complete name. The root
is the name of no host. -/
structure Names (target host : String) : Prop where
  named : target ∉ rootTargets
  written : target = host ++ "." ∨ target = host ∧ host.toList.getLast? ≠ some '.'

theorem host?_eq_some_iff {target host : String} :
    host? target = some host ↔ Names target host := by
  rw [host?]
  by_cases root : target ∈ rootTargets
  · rw [if_pos (List.contains_iff_mem.mpr root)]
    exact ⟨nofun, fun names => absurd root names.named⟩
  · rw [if_neg (by simpa using root)]
    by_cases dotted : target.toList.getLast? = some '.'
    · obtain ⟨front, whole⟩ := List.getLast?_eq_some_iff.mp dotted
      have complete : target = String.ofList front ++ "." := by
        apply String.toList_injective
        rw [whole, String.toList_append, String.toList_ofList]
        rfl
      rw [if_pos (by simp [dotted]), whole, List.dropLast_concat, Option.some_inj]
      constructor
      · rintro rfl
        exact ⟨root, .inl complete⟩
      · rintro ⟨-, same | ⟨rfl, other⟩⟩
        · rw [complete] at same
          exact (String.append_left_inj ".").mp same
        · exact absurd dotted other
    · rw [if_neg (by simpa using dotted), Option.some_inj]
      constructor
      · rintro rfl
        exact ⟨root, .inr ⟨rfl, dotted⟩⟩
      · rintro ⟨-, rfl | ⟨rfl, -⟩⟩
        · exact absurd (by simp) dotted
        · rfl

def Announces (record : ServiceRecord) (url : String) : Prop :=
  ∃ host, Names record.target host ∧ url = s!"ldap://{host}:{record.port}"

theorem url?_eq_some_iff {url : String} : url? a = some url ↔ Announces a url := by
  rw [url?, Option.map_eq_some_iff]
  apply exists_congr
  intro host
  rw [host?_eq_some_iff, eq_comm (a := url)]

/-- The URLs of an answer: one for each record whose target is not the root, in their order. -/
def Announced (records : List ServiceRecord) (urls : List String) : Prop :=
  ∃ ordered, InOrder records ordered ∧
    List.Forall₂ Announces (ordered.filter fun r => r.target ∉ rootTargets) urls

theorem url?_eq_none_iff : url? a = none ↔ a.target ∈ rootTargets := by
  rw [url?, Option.map_eq_none_iff, host?]
  by_cases root : a.target ∈ rootTargets
  · simp [root]
  · simp only [List.contains_iff_mem, root, if_false, iff_false]
    split <;> simp

theorem announces_iff {urls : List String} :
    List.Forall₂ Announces (ordered.filter fun r => r.target ∉ rootTargets) urls ↔
      urls = ordered.filterMap url? := by
  induction ordered generalizing urls with
  | nil => simp
  | cons a rest ih =>
    by_cases root : a.target ∈ rootTargets
    · have none := url?_eq_none_iff.mpr root
      rw [List.filter_cons_of_neg (by simpa using root), List.filterMap_cons_none none]
      exact ih
    · obtain ⟨found, some⟩ := Option.ne_none_iff_exists'.mp (mt url?_eq_none_iff.mp root)
      rw [List.filter_cons_of_pos (by simpa using root), List.filterMap_cons_some some]
      constructor
      · intro announce
        cases announce with
        | @cons _ url _ urls first later =>
          have same := some.symm.trans (url?_eq_some_iff.mpr first)
          rw [Option.some.inj same, ih.mp later]
      · rintro rfl
        exact .cons (url?_eq_some_iff.mp some) (ih.mpr rfl)

/-- The URLs are in the one order there is. -/
theorem announced_iff {urls : List String} :
    Announced records urls ↔ urls = Discovery.urls records := by
  rw [Discovery.urls]
  constructor
  · rintro ⟨ordered, order, announce⟩
    rw [announces_iff.mp announce, order.unique (inOrder_mergeSort records)]
  · rintro rfl
    exact ⟨_, inOrder_mergeSort records, announces_iff.mpr rfl⟩

/-! ## Discovery -/

section

variable {σ : Type} {network : Network σ} {world : World σ} {realm : String}

def answer (network : Network σ) (world : World σ) (realm : String) :
    Except Fault (List ServiceRecord) :=
  (network.answer (.lookUpService (serviceName realm)) world.network).1

/-- The world once the name service was asked, with a record of what came of it. -/
def asked (network : Network σ) (world : World σ) (realm message : String) : World σ :=
  (world.called network (.lookUpService (serviceName realm))).noted
    (.logged ⟨.debug, .discovery, message⟩)

theorem run_discover_of_records (answered : answer network world realm = .ok records) :
    ∃ message, (discover realm).run network world =
      (.ok (urls records), asked network world realm message) := by
  rw [answer] at answered
  rw [discover, run_attempt_bind, run_perform, answered]
  exact ⟨_, rfl⟩

theorem run_discover_of_denial {text : String}
    (answered : answer network world realm = .error (.nameService text)) :
    ∃ message, (discover realm).run network world =
      (.ok [], asked network world realm message) := by
  rw [answer] at answered
  rw [discover, run_attempt_bind, run_perform, answered]
  exact ⟨_, rfl⟩

/-- Where URLs are found, the name service answered, and its answer announces them. -/
theorem discover_eq_ok {urls : List String} {after : World σ} (some : urls ≠ [])
    (ran : (discover realm).run network world = (.ok urls, after)) :
    ∃ records, World.Happened (.exchange (.lookUpService (serviceName realm)) (.ok records))
      world after ∧ Announced records urls := by
  cases answered : answer network world realm with
  | error fault =>
    cases fault with
    | nameService text =>
      obtain ⟨message, there⟩ := run_discover_of_denial answered
      cases ran.symm.trans there
      exact absurd rfl some
    | _ =>
      rw [answer] at answered
      rw [discover, run_attempt_bind, run_perform, answered] at ran
      cases ran
  | ok records =>
    obtain ⟨message, there⟩ := run_discover_of_records answered
    cases ran.symm.trans there
    rw [answer] at answered
    have history : (asked network world realm message).history = world.history ++
        [.exchange (.lookUpService (serviceName realm)) (.ok records),
          .logged ⟨.debug, .discovery, message⟩] := by
      simp [asked, World.noted, World.called, answered]
    exact ⟨records, ⟨_, history, List.mem_cons_self⟩, announced_iff.mpr rfl⟩

/-- Whatever the name service answers, the URLs are those that the answer announces, and no others
are: one for each record whose target is not the root, by priority and then by weight, where records
that are equal in both stay in the order of the answer. A name service that reports an error of its
own announces none. -/
theorem discover_in_order (realm : String) (network : Network σ) (world : World σ) :
    let outcome := ((discover realm).run network world).1
    (∀ records, answer network world realm = .ok records →
      ∃ urls, outcome = .ok urls ∧ ∀ others, Announced records others ↔ others = urls) ∧
      ∀ text, answer network world realm = .error (.nameService text) → outcome = .ok [] := by
  intro outcome
  constructor
  · intro records answered
    obtain ⟨message, ran⟩ := run_discover_of_records answered
    exact ⟨urls records, congrArg Prod.fst ran, fun others => announced_iff⟩
  · intro text answered
    obtain ⟨message, ran⟩ := run_discover_of_denial answered
    exact congrArg Prod.fst ran

end

/-- An answer with records out of order, two of one rank, a host that is named twice, and the root;
and a realm that the name service knows nothing of. -/
theorem discover_in_order_tied :
    let records : List ServiceRecord := [⟨10, 0, 389, "backup.x."⟩, ⟨0, 10, 389, "b.x"⟩,
      ⟨0, 0, 389, "."⟩, ⟨0, 10, 636, "a.x."⟩, ⟨0, 100, 3268, "b.x"⟩]
    let script : Script :=
      { Script.empty with announcements := [("_ldap._tcp.x", .ok records)] }
    let world : World Script := .start script
    let outcome (realm : String) := ((discover realm).run Script.network world).1
    let urls := ["ldap://b.x:3268", "ldap://b.x:389", "ldap://a.x:636", "ldap://backup.x:389"]
    answer Script.network world " x. " = .ok records ∧
      answer Script.network world "y" = .error (.nameService "scripted") ∧
      outcome " x. " = .ok urls ∧ (∀ others, Announced records others ↔ others = urls) ∧
      outcome "y" = .ok [] := by
  intro records script world outcome urls
  have known : answer Script.network world " x. " = .ok records := by
    have name : serviceName " x. " = "_ldap._tcp.x" := by decide +kernel
    rw [answer, name]
    rfl
  have unknown : answer Script.network world "y" = .error (.nameService "scripted") := by
    have name : serviceName "y" = "_ldap._tcp.y" := by decide +kernel
    rw [answer, name]
    rfl
  have announced : Announced records urls := announced_iff.mpr (by cbv)
  obtain ⟨found, ran, only⟩ := (discover_in_order " x. " Script.network world).1 records known
  have same : urls = found := (only urls).mp announced
  rw [← same] at ran only
  exact ⟨known, unknown, ran, only,
    (discover_in_order "y" Script.network world).2 "scripted" unknown⟩

end DirectoryAuth.Discovery
