import DirectoryAuth.Proofs.Groups.BreadthFirst
import DirectoryAuth.Proofs.Search.Offers
import Mathlib.Data.List.Dedup
import Mathlib.Data.List.Perm.Subperm

/-!
# Groups of users come to an end

A walk through groups puts every name in its queue once at most. Where a network has only so many
names to answer with, the walk is through after so many members, whatever the groups list: each
other, themselves, the user, or names that nobody can read. The walk is told here without a limit;
what it comes to with a limit is the same once the limit allows for all names.
-/

namespace DirectoryAuth

namespace Groups

open Operation World

variable {σ : Type} {network : Network σ} {world after : World σ} {m : GroupMapping}
  {user member : Entry} {names : List String}

/-! ## Names -/

def listedNames (m : GroupMapping) (member : Entry) : List String :=
  (m.memberOf.map member.values).getD []

def listedKeys (m : GroupMapping) (member : Entry) : List String :=
  (listedNames m member).map Text.lower

/-- Whatever a network may answer searches on a connection with, its names are among `names`: those
of entries, and those of the groups that entries list. -/
def NamesWithin (network : Network σ) (m : GroupMapping) (connection : Connection) (state : σ)
    (names : List String) : Prop :=
  ∀ entry, network.Offers connection state entry →
    entry.key ∈ names ∧ listedKeys m entry ⊆ names

/-- A group that cannot be read lists no others. -/
theorem listedKeys_unreadable (m : GroupMapping) (name : String) :
    listedKeys m ⟨name, .empty⟩ = [] := by
  cases memberOf : m.memberOf with
  | none => simp [listedKeys, listedNames, memberOf]
  | some label =>
    simp [listedKeys, listedNames, memberOf, Entry.values, Attributes.get?, Attributes.empty]

theorem listing_within {c : Connector} {search : MemberSearch} {session : Session}
    {groups : List Entry}
    (within : NamesWithin network m session.connection world.network names)
    (ran : (listing c m search session member).run network world = (.ok groups, after)) :
    ∀ group ∈ groups, group.key ∈ names ∧ listedKeys m group ⊆ names := by
  intro group found
  obtain ⟨values, next, stood, ran⟩ := run_bind_eq_ok ran
  have steps : Steps network (Call.IsSearchOn session.connection) world next :=
    (parameters_searched _ search.names member).callsOnly.steps stood
  cases values with
  | none =>
    cases ran
    cases found
  | some values =>
    exact within group ((SearchRequest.all_offered ran found).earlier steps.later)

theorem listedBy_within {session : Session} {groups : List Entry}
    (within : NamesWithin network m session.connection world.network names)
    (listed : listedKeys m member ⊆ names)
    (ran : (listedBy m session member).run network world = (.ok groups, after)) :
    ∀ group ∈ groups, group.key ∈ names ∧ listedKeys m group ⊆ names := by
  intro group found
  rw [listedBy] at ran
  cases memberOf : m.memberOf with
  | none =>
    rw [memberOf] at ran
    cases ran
    cases found
  | some label =>
    rw [memberOf] at ran
    obtain ⟨name, isListed, before, next, steps, ran⟩ :=
      mapM_eq_ok (fun name => (named_searched m session name).callsOnly) ran found
    obtain ⟨read, _, reading, ran⟩ := run_bind_eq_ok ran
    cases ran
    cases read with
    | some entry =>
      exact within entry ((SearchRequest.readEntry_offered reading).earlier steps.later)
    | none =>
      refine ⟨listed (List.mem_map.mpr ⟨name, ?_, rfl⟩), ?_⟩
      · rw [listedNames, memberOf]
        exact isListed
      · rw [Option.getD_none, listedKeys_unreadable]
        exact List.nil_subset _

/-- The direct groups of a member have names that the network answers with or the member lists. -/
theorem direct_within {c : Connector} {session : Session} {groups : List Entry}
    (within : NamesWithin network m session.connection world.network names)
    (listed : listedKeys m member ⊆ names)
    (ran : (direct c m session member).run network world = (.ok groups, after)) :
    ∀ group ∈ groups, group.key ∈ names ∧ listedKeys m group ⊆ names := by
  intro group found
  rw [direct] at ran
  cases searched : m.listing with
  | none =>
    rw [searched] at ran
    obtain ⟨_, _, nothing, ran⟩ := run_bind_eq_ok ran
    cases nothing
    obtain ⟨groups, _, second, ran⟩ := run_bind_eq_ok ran
    cases ran
    exact listedBy_within within listed second group found
  | some search =>
    rw [searched] at ran
    obtain ⟨front, next, first, ran⟩ := run_bind_eq_ok ran
    obtain ⟨back, _, second, ran⟩ := run_bind_eq_ok ran
    cases ran
    rcases List.mem_append.mp found with early | late
    · exact listing_within within first group early
    · have steps := (listing_searched c m search session member).callsOnly.steps first
      have still : NamesWithin network m session.connection next.network names :=
        fun entry offered => within entry (offered.earlier steps.later)
      exact listedBy_within still listed second group late

/-! ## Walks without a limit -/

variable {direct : Entry → Operation σ (List Entry)} {asked : List Entry} {w : Walk}
  {outcome : Except Failure (List String)}

/-- A walk, taken up in a world, asks for the groups of some members in turn, and comes to an
outcome. It is through when nobody is left to ask, or when asking failed. -/
inductive Walk.Ends (network : Network σ) (m : GroupMapping)
    (direct : Entry → Operation σ (List Entry)) :
    World σ → Walk → List Entry → Except Failure (List String) → World σ → Prop
  | done {world : World σ} {seen ids : List String} :
      Ends network m direct world ⟨seen, ids, []⟩ [] (.ok ids) world
  | failed {world after : World σ} {seen ids : List String} {member : Entry} {queue : List Entry}
      {failure : Failure}
      (refused : (direct member).run network world = (.error failure, after)) :
      Ends network m direct world ⟨seen, ids, member :: queue⟩ [member] (.error failure) after
  | ask {world next after : World σ} {seen ids : List String} {member : Entry}
      {queue groups asked : List Entry} {outcome : Except Failure (List String)}
      (answered : (direct member).run network world = (.ok groups, next))
      (rest : Ends network m direct next (groups.foldl (Walk.meet m) ⟨seen, ids, queue⟩)
        asked outcome after) :
      Ends network m direct world ⟨seen, ids, member :: queue⟩ (member :: asked) outcome after

/-- A limit makes no difference to a walk that asks no more members than that. -/
theorem Walk.Ends.finish (ends : Ends network m direct world w asked outcome after) {limit : Nat}
    (enough : asked.length ≤ limit) :
    (w.finish m direct limit).run network world = (outcome, after) := by
  induction ends generalizing limit with
  | done => cases limit <;> rfl
  | failed refused =>
    cases limit with
    | zero => cases enough
    | succ limit => exact run_bind_of_error refused
  | ask answered rest ih =>
    cases limit with
    | zero => cases enough
    | succ limit =>
      rw [Walk.finish, run_bind_of_ok answered]
      exact ih (Nat.le_of_succ_le_succ enough)

/-! ## Walks among few names -/

/-- Members were asked in the course of a walk. Everybody has one turn, under a name that was met,
and all names are among `names`. -/
structure Walk.Proper (m : GroupMapping) (names : List String) (asked : List Entry) (w : Walk) :
    Prop where
  ids : ∃ known, w.ids = distinctIds m known
  distinct : w.seen.Nodup
  seen : w.seen ⊆ names
  turns : (keys (asked ++ w.queue)).Nodup
  met : keys (asked ++ w.queue) ⊆ w.seen
  listed : ∀ member ∈ w.queue, listedKeys m member ⊆ names

/-- How many members a walk may still ask: those in the queue and all names that it has not met. -/
def Walk.ahead (names : List String) (w : Walk) : Nat :=
  names.dedup.length - w.seen.length + w.queue.length

theorem length_le_of_subset {seen : List String} (distinct : seen.Nodup) (within : seen ⊆ names) :
    seen.length ≤ names.dedup.length :=
  (distinct.subperm fun _ member => List.mem_dedup.mpr (within member)).length_le

/-- Asking a member leaves a walk proper, and fewer members ahead. -/
theorem Walk.Proper.ask {seen ids : List String} {queue groups : List Entry}
    (proper : Proper m names asked ⟨seen, ids, member :: queue⟩)
    (known : ∀ group ∈ groups, group.key ∈ names ∧ listedKeys m group ⊆ names) :
    Proper m names (asked ++ [member]) (groups.foldl (meet m) ⟨seen, ids, queue⟩) ∧
      ahead names (groups.foldl (meet m) ⟨seen, ids, queue⟩) <
        ahead names ⟨seen, ids, member :: queue⟩ := by
  obtain ⟨⟨old, rfl⟩, distinct, within, turns, met, listed⟩ := proper
  dsimp only at distinct within turns met listed
  rw [foldl_meet]
  have isNew : ∀ group ∈ fresh seen groups, group ∈ groups ∧ group.key ∉ seen :=
    fun group found => mem_of_mem_fresh found
  have newKeys : ∀ key ∈ keys (fresh seen groups), key ∈ names ∧ key ∉ seen := by
    intro key found
    obtain ⟨group, new, rfl⟩ := mem_keys.mp found
    exact ⟨(known group (isNew group new).1).1, (isNew group new).2⟩
  have distinct' : (seen ++ keys (fresh seen groups)).Nodup := by
    refine List.nodup_append.mpr ⟨distinct, nodup_keys_fresh seen groups, ?_⟩
    rintro key before _ found rfl
    exact (newKeys key found).2 before
  have within' : seen ++ keys (fresh seen groups) ⊆ names :=
    List.append_subset.mpr ⟨within, fun key found => (newKeys key found).1⟩
  have fits := length_le_of_subset distinct' within'
  rw [List.length_append, keys, List.length_map] at fits
  -- Whoever is new gets a turn where groups are nested, and nobody does otherwise.
  have grows : ∃ more, more <+: fresh seen groups ∧
      (if m.nested = true then queue ++ fresh seen groups else queue) = queue ++ more := by
    cases m.nested with
    | true => exact ⟨_, List.prefix_refl _, rfl⟩
    | false => exact ⟨[], List.nil_prefix, (List.append_nil queue).symm⟩
  obtain ⟨more, begins, queued⟩ := grows
  rw [queued]
  have moreKeys : keys more <+: keys (fresh seen groups) := begins.map _
  have order : asked ++ [member] ++ (queue ++ more) = asked ++ member :: queue ++ more := by
    simp only [List.append_assoc, List.cons_append, List.nil_append]
  refine ⟨⟨⟨_, rfl⟩, distinct', within', ?_, ?_, ?_⟩, ?_⟩
  · rw [order, keys_append, List.nodup_append]
    refine ⟨turns, (nodup_keys_fresh seen groups).sublist moreKeys.sublist, ?_⟩
    rintro key before _ found rfl
    exact (newKeys key (moreKeys.subset found)).2 (met before)
  · rw [order, keys_append]
    refine List.append_subset.mpr ⟨List.Subset.trans met (List.subset_append_left _ _), ?_⟩
    exact List.Subset.trans moreKeys.subset (List.subset_append_right _ _)
  · intro other waiting
    rcases List.mem_append.mp waiting with before | found
    · exact listed other (List.mem_cons_of_mem _ before)
    · exact (known other (isNew other (begins.subset found)).1).2
  · have shorter := begins.length_le
    simp only [ahead, keys, List.length_append, List.length_map, List.length_cons]
    omega

/-- A proper walk comes to its end, and asks nobody twice. -/
theorem Walk.Proper.ends {allowed : Call → Prop}
    (calls : ∀ member, CallsOnly network allowed (direct member))
    (within : ∀ {before next : World σ} {member : Entry} {groups : List Entry},
      Steps network allowed world before → listedKeys m member ⊆ names →
        (direct member).run network before = (.ok groups, next) →
          ∀ group ∈ groups, group.key ∈ names ∧ listedKeys m group ⊆ names)
    {before : World σ} (steps : Steps network allowed world before) {limit : Nat}
    (proper : Proper m names asked w) (enough : w.ahead names ≤ limit) :
    ∃ turns outcome after, Ends network m direct before w turns outcome after ∧
      (keys (asked ++ turns)).Nodup ∧ keys turns ⊆ names ∧ turns.length ≤ limit := by
  induction limit generalizing asked w before with
  | zero =>
    obtain ⟨seen, ids, queue⟩ := w
    cases queue with
    | nil => exact ⟨[], _, _, .done, proper.turns, List.nil_subset _, Nat.le_refl 0⟩
    | cons member queue => simp [ahead] at enough
  | succ limit ih =>
    obtain ⟨seen, ids, queue⟩ := w
    cases queue with
    | nil => exact ⟨[], _, _, .done, proper.turns, List.nil_subset _, Nat.zero_le _⟩
    | cons member queue =>
      have turns := proper.turns
      have isMet : member.key ∈ names := by
        refine proper.seen (proper.met ?_)
        rw [keys_append]
        exact List.mem_append_right _ List.mem_cons_self
      have listed := proper.listed member List.mem_cons_self
      rcases ran : (direct member).run network before with ⟨outcome, next⟩
      cases outcome with
      | error failure =>
        refine ⟨[member], _, _, .failed ran, ?_, ?_, Nat.succ_le_succ (Nat.zero_le _)⟩
        · refine turns.sublist (List.Sublist.map _ (List.Sublist.append_left ?_ asked))
          exact List.singleton_sublist.mpr List.mem_cons_self
        · exact List.cons_subset.mpr ⟨isMet, List.nil_subset _⟩
      | ok groups =>
        obtain ⟨proper, fewer⟩ := proper.ask (within steps listed ran)
        obtain ⟨turns, outcome, last, ends, distinct, subset, short⟩ :=
          ih (steps.trans ((calls member).steps ran)) proper (by omega)
        refine ⟨member :: turns, outcome, last, .ask ran ends, ?_, ?_, Nat.succ_le_succ short⟩
        · rw [List.append_assoc] at distinct
          exact distinct
        · exact List.cons_subset.mpr ⟨isMet, subset⟩

theorem Walk.proper_start (listed : listedKeys m user ⊆ names) :
    Proper m (user.key :: names) [] (.start user) := by
  refine ⟨⟨[], rfl⟩, List.nodup_singleton _, ?_, List.nodup_singleton _, List.Subset.refl _, ?_⟩
  · exact List.cons_subset.mpr ⟨List.mem_cons_self, List.nil_subset _⟩
  · intro member first
    rw [List.mem_singleton.mp first]
    exact List.Subset.trans listed (List.subset_cons_self _ _)

theorem Walk.ahead_start (user : Entry) (names : List String) :
    (start user).ahead (user.key :: names) ≤ 1 + names.dedup.length := by
  rw [ahead]
  change (user.key :: names).dedup.length - 1 + 1 ≤ _
  by_cases old : user.key ∈ names
  · rw [List.dedup_cons_of_mem old]
    omega
  · rw [List.dedup_cons_of_notMem old, List.length_cons]
    omega

/-- Where a network has finitely many names to answer with, resolving the groups of a user comes to
an end. The groups of nobody are asked for twice, so that there are at most as many to be asked as
there are names, and the user. With a bound of the network that allows for the names, that is what
the resolution comes to. -/
theorem resolve_terminates {c : Connector} {session : Session}
    (within : NamesWithin network m session.connection world.network names)
    (listed : listedKeys m user ⊆ names) :
    ∃ asked outcome after,
      Walk.Ends network m (Groups.direct c m session) world (.start user) asked outcome after ∧
      (keys asked).Nodup ∧ keys asked ⊆ user.key :: names ∧
      asked.length ≤ 1 + names.dedup.length ∧
      (names.dedup.length ≤ network.bound world.network + (listedNames m user).length →
        (resolve c m session user).run network world = (outcome, after)) := by
  have more : names ⊆ user.key :: names := List.subset_cons_self _ _
  have direct : ∀ {before next : World σ} {member : Entry} {groups : List Entry},
      Steps network (Call.IsSearchOn session.connection) world before →
        listedKeys m member ⊆ user.key :: names →
        (Groups.direct c m session member).run network before = (.ok groups, next) →
          ∀ group ∈ groups, group.key ∈ user.key :: names ∧
            listedKeys m group ⊆ user.key :: names := by
    intro before next member groups steps listed ran
    refine direct_within ?_ listed ran
    intro entry offered
    obtain ⟨own, others⟩ := within entry (offered.earlier steps.later)
    exact ⟨more own, List.Subset.trans others more⟩
  obtain ⟨asked, outcome, after, ends, distinct, subset, short⟩ :=
    (Walk.proper_start listed).ends (direct_callsOnly c m session) direct (.refl world)
      (Walk.ahead_start user names)
  refine ⟨asked, outcome, after, ends, distinct, subset, short, ?_⟩
  intro enough
  have limited : (limit m user).run network world =
      (.ok (network.bound world.network + (listedNames m user).length + 1), world) := rfl
  rw [resolve, run_bind_of_ok limited]
  exact ends.finish (by omega)

/-! ## Scripts -/

end Groups

/-- The names in an item, as they are told apart. Any value may be the name of a group. -/
def Item.keys (item : Item) : List String :=
  item.entry.key :: item.attributes.flatMap fun (_, values) =>
    values.map fun value => Text.lower value.text

/-- No attribute has values that it was not given. -/
theorem Attributes.mem_ofList {given : List (String × List String)} {entry : String × List String}
    (member : entry ∈ (ofList given).entries) : ∃ name, (name, entry.2) ∈ given := by
  have from_any : ∀ (a : Attributes) (given : List (String × List String)),
      entry ∈ (given.foldl (fun a pair => a.insert pair.1 pair.2) a).entries →
        entry ∈ a.entries ∨ ∃ name, (name, entry.2) ∈ given := by
    intro a given
    induction given generalizing a with
    | nil => exact .inl
    | cons first rest ih =>
      obtain ⟨name, values⟩ := first
      intro member
      rcases ih (a.insert name values) member with inserted | ⟨other, later⟩
      · rw [insert] at inserted
        split at inserted
        · obtain ⟨old, known, rfl⟩ := List.mem_map.mp inserted
          split
          · exact .inr ⟨name, List.mem_cons_self⟩
          · exact .inl known
        · rcases List.mem_append.mp inserted with known | new
          · exact .inl known
          · rw [List.mem_singleton.mp new]
            exact .inr ⟨name, List.mem_cons_self⟩
      · exact .inr ⟨other, List.mem_cons_of_mem _ later⟩
  rcases from_any empty given member with none | found
  · cases none
  · exact found

theorem Item.values_keys {item : Item} {name value : String}
    (listed : value ∈ item.entry.values name) : Text.lower value ∈ item.keys := by
  rw [Entry.values, Attributes.get?] at listed
  cases known : item.entry.attributes.entries.find? fun entry =>
      Attributes.key entry.1 == Attributes.key name with
  | none =>
    rw [known] at listed
    cases listed
  | some entry =>
    rw [known] at listed
    obtain ⟨label, given⟩ := Attributes.mem_ofList (List.mem_of_find?_eq_some known)
    obtain ⟨raw, member, same⟩ := List.mem_map.mp given
    have values : entry.2 = raw.2.map (·.text) := (congrArg Prod.snd same).symm
    rw [Option.map_some, Option.getD_some, values] at listed
    obtain ⟨written, isRaw, rfl⟩ := List.mem_map.mp listed
    exact List.mem_cons_of_mem _
      (List.mem_flatMap.mpr ⟨raw, member, List.mem_map.mpr ⟨written, isRaw, rfl⟩⟩)

namespace Script

def names (script : Script) : List String := script.items.flatMap Item.keys

theorem names_within (m : GroupMapping) (connection : Connection) (script : Script) :
    Groups.NamesWithin Script.network m connection script script.names := by
  intro entry offered
  obtain ⟨item, member, rfl⟩ := offers_items offered
  have keys : ∀ key ∈ item.keys, key ∈ script.names :=
    fun key named => List.mem_flatMap.mpr ⟨item, member, named⟩
  refine ⟨keys _ List.mem_cons_self, ?_⟩
  intro key named
  obtain ⟨name, listed, rfl⟩ := List.mem_map.mp named
  change name ∈ (m.memberOf.map item.entry.values).getD [] at listed
  cases memberOf : m.memberOf with
  | none =>
    rw [memberOf] at listed
    cases listed
  | some label =>
    rw [memberOf] at listed
    exact keys _ (Item.values_keys listed)

theorem length_flatMap {α β : Type} (f : α → List β) (items : List α) :
    (items.flatMap f).length = total (items.map (f · |>.length)) := by
  rw [List.length_flatMap]
  exact List.sum_eq_foldl

/-- The bound of a script allows for all names in it. -/
theorem length_names (script : Script) : script.names.length = script.size := by
  have item : ∀ item : Item,
      item.keys.length = 1 + total (item.attributes.map (·.2.length)) := by
    intro item
    simp [-List.length_flatMap, Item.keys, length_flatMap, Nat.add_comm]
  have rule : ∀ rule : Rule, total (rule.items.map (·.keys.length)) = rule.size := by
    intro rule
    simp [Rule.size, item]
  simp [-List.length_flatMap, names, items, size, List.flatMap_assoc, length_flatMap, rule]

end Script

namespace Groups

section Rehearsal

open Rehearsal

def listingBoth : GroupMapping := { listingNames with memberOf := some "memberOf" }

/-- Two groups list each other, one of them itself and the other the user, all in another letter
case. A third one cannot be read. -/
def entangled : Script :=
  script { Script.Directory.empty with
    rules := [
      { Script.Rule.empty with
        filter := some "(member=u)"
        items := [item (some "cn=A") [("memberOf", "CN=B")]] },
      { Script.Rule.empty with
        filter := some "(member=cn=A)"
        items := [item (some "CN=a") [], item (some "cn=b") [("memberOf", "CN=A")]] },
      { Script.Rule.empty with
        base := some "CN=B"
        items := [item (some "CN=B") [("memberOf", "U")]] }] }

theorem resolve_entangled :
    let c : Connector := ⟨server .simple .none (some listingBoth)⟩
    let s := session c.server
    let user : Entry := ⟨"u", .ofList [("memberOf", ["cn=hidden"])]⟩
    let start := World.start entangled
    let names := entangled.names ++ listedKeys listingBoth user
    NamesWithin Script.network listingBoth s.connection start.network names ∧
      listedKeys listingBoth user ⊆ names ∧
      names.dedup.length ≤
        Script.network.bound start.network + (listedNames listingBoth user).length ∧
      ∃ asked outcome after,
        Walk.Ends Script.network listingBoth (direct c listingBoth s) start (.start user) asked
          outcome after ∧
        (keys asked).Nodup ∧ keys asked ⊆ user.key :: names ∧
        asked.length ≤ 1 + names.dedup.length ∧
        (resolve c listingBoth s user).run Script.network start = (outcome, after) ∧
        outcome.toOption.isSome = true := by
  intro c s user start names
  have within : NamesWithin Script.network listingBoth s.connection start.network names := by
    intro entry offered
    obtain ⟨own, listed⟩ := Script.names_within listingBoth s.connection entangled entry offered
    exact ⟨List.mem_append_left _ own, List.Subset.trans listed (List.subset_append_left _ _)⟩
  have listed : listedKeys listingBoth user ⊆ names := List.subset_append_right _ _
  have enough : names.dedup.length ≤
      Script.network.bound start.network + (listedNames listingBoth user).length := by
    refine Nat.le_trans (List.dedup_sublist names).length_le ?_
    rw [List.length_append, Script.length_names, listedKeys, List.length_map]
    exact Nat.le_refl _
  have found : ((resolve c listingBoth s user).run Script.network start).1.toOption.isSome =
      true := by
    decide +kernel
  obtain ⟨asked, outcome, after, ends, distinct, subset, short, resolved⟩ :=
    resolve_terminates within listed
  refine ⟨within, listed, enough, asked, outcome, after, ends, distinct, subset, short,
    resolved enough, ?_⟩
  rw [resolved enough] at found
  exact found

end Rehearsal

end Groups

end DirectoryAuth
