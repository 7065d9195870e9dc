import DirectoryAuth.Proofs.Network.Steady
import DirectoryAuth.Proofs.Search.Paging
import DirectoryAuth.Proofs.Search.Turns

/-!
# Searches that are read by turns do not disturb each other

While their session is open, sequences that are read by turns give what each gives when it is read
alone, although all of them leave the report and the items of their latest search in one place, at
the connection. A sequence looks there only in the turn that sends its request, and what it finds is
the reply to that request. Where answers depend on nothing but what is searched for, what a sequence
has left to give is therefore settled before its request is sent, and from then on no turn but its
own changes it.
-/

namespace DirectoryAuth

open Operation World

variable {σ ι : Type}

namespace Network

variable {network : Network σ} {kind : Call → Prop} {a b : World σ}

/-- What is steady stays so. -/
theorem Steady.after (steady : network.Steady kind a.network)
    (steps : World.Steps network kind a b) : network.Steady kind b.network := by
  intro later reached call same
  rw [steady later (steps.later.trans reached) call same, steady _ steps.later call same]

end Network

/-! ## What is left to give -/

namespace Findings

/-- What a wish gets from what is left, and what is then left. Of a sequence that has ended nothing
is left, not even its end. -/
def grant : Option Findings → Wish → Option Delivery × Option Findings
  | _, .stop => (none, none)
  | none, .next => (some (.ok none), none)
  | some ⟨entry :: entries, failure⟩, .next => (some (.ok (some entry)), some ⟨entries, failure⟩)
  | some ⟨[], none⟩, .next => (some (.ok none), none)
  | some ⟨[], some failure⟩, .next => (some (.error failure), none)

def deliveries : Option Findings → List Wish → List Delivery
  | _, [] => []
  | left, wish :: wishes => (grant left wish).1.toList ++ deliveries (grant left wish).2 wishes

end Findings

namespace Sequence

variable {network : Network σ} {a b : World σ} {s : Session} {q : Sequence}

def left (network : Network σ) (world : World σ) : Sequence → Option Findings
  | live c => some (c.left network world)
  | ended => none

/-- Where answers are steady, searches change nothing of what a sequence has left. -/
theorem left_after (on : q.IsOn s) (isOpen : s.IsOpen a)
    (steady : network.Steady (Call.IsSearchOn s.connection) a.network)
    (steps : World.Steps network (Call.IsSearchOn s.connection) a b) :
    q.left network b = q.left network a := by
  cases q with
  | ended => rfl
  | live c =>
    cases (show c.session = s from on)
    refine congrArg some ?_
    by_cases idle : c.progress = .idle
    · rw [Cursor.left_of_open idle isOpen, Cursor.left_of_open idle (isOpen.after_searches steps)]
      have whole : Call.IsSearchOn c.session.connection (.search c.session.connection c.query) :=
        rfl
      have paged : Call.IsSearchOn c.session.connection
          (.pagedSearch c.session.connection c.query c.pageSize) := rfl
      rw [steady.answer_after steps whole, steady.answer_after steps paged]
    · rw [Cursor.left_of_begun network a idle, Cursor.left_of_begun network b idle]

/-- While its session is open, a sequence gives what it has left. -/
theorem grant_left (on : q.IsOn s) (isOpen : s.IsOpen a) (wish : Wish) :
    let granted := q.grant network a wish
    Findings.grant (q.left network a) wish =
      (granted.given, granted.rest.left network granted.world) := by
  intro granted
  cases q with
  | ended => cases wish <;> rfl
  | live c =>
    cases wish with
    | stop => rfl
    | next =>
      cases (show c.session = s from on)
      have gives := c.next_gives network isOpen
      rcases ran : c.next.run network a with ⟨outcome, after⟩
      rw [ran] at gives
      match outcome with
      | .ok (some (entry, rest)) =>
        obtain ⟨progress, begun, same, known⟩ := gives
        have restBegun : rest.progress ≠ .idle := by rw [same]; exact begun
        simp only [granted, grant_of_entry ran, left, known, Findings.grant,
          Cursor.left_of_begun network after restBegun]
      | .ok none =>
        have ended : c.left network a = ⟨[], none⟩ := gives
        simp only [granted, grant_of_end ran, left, ended, Findings.grant]
      | .error failure =>
        have failed : c.left network a = .failed failure := gives
        simp only [granted, grant_of_failure ran, left, failed, Findings.failed, Findings.grant]

end Sequence

/-! ## Turns -/

namespace Readings

variable [DecidableEq ι] {network : Network σ} {s : Session} {t : Readings σ ι}

/-- Sequences of an open session, against a directory whose answers to searches are steady. -/
structure Undisturbed (network : Network σ) (s : Session) (t : Readings σ ι) : Prop where
  on : t.IsOn s
  isOpen : s.IsOpen t.world
  steady : network.Steady (Call.IsSearchOn s.connection) t.world.network

theorem Undisturbed.use (quiet : t.Undisturbed network s) (i : ι) (wish : Wish) :
    (t.use network s (.of i wish)).Undisturbed network s where
  on := quiet.on.use _
  isOpen := quiet.isOpen.after_searches (use_steps quiet.on i wish)
  steady := quiet.steady.after (use_steps quiet.on i wish)

/-- While the session is open, a sequence gives in its own turns what it has left, whatever turns
there are in between. -/
theorem delivered_useAll (quiet : t.Undisturbed network s) {uses : List (Use ι)}
    (unclosed : .close ∉ uses) (i : ι) :
    (t.useAll network s uses).delivered i = t.delivered i ++
      Findings.deliveries ((t.sequences i).left network t.world) (uses.filterMap (·.wish? i)) := by
  induction uses generalizing t with
  | nil => exact (List.append_nil _).symm
  | cons use rest ih =>
    cases use with
    | close => exact absurd List.mem_cons_self unclosed
    | of j wish =>
      have later : .close ∉ rest := fun member => unclosed (List.mem_cons_of_mem _ member)
      rw [useAll_cons, ih (quiet.use j wish) later]
      by_cases same : i = j
      · subst same
        have granted : Findings.grant ((t.sequences i).left network t.world) wish = _ :=
          Sequence.grant_left (quiet.on i) quiet.isOpen wish
        have wished : Use.wish? i (.of i wish) = some wish := if_pos rfl
        rw [delivered_use_self, sequences_use_self, List.filterMap_cons_some wished,
          Findings.deliveries, granted, List.append_assoc]
        rfl
      · have unwished : Use.wish? i (.of j wish) = none := if_neg same
        rw [delivered_use_other same, sequences_use_other same,
          Sequence.left_after (quiet.on i) quiet.isOpen quiet.steady (use_steps quiet.on j wish),
          List.filterMap_cons_none unwished]

/-- The turns of one sequence make the same wishes of it as all turns do. -/
theorem wishes_of_own (uses : List (Use ι)) (i : ι) :
    (uses.filter (·.isOf i)).filterMap (·.wish? i) = uses.filterMap (·.wish? i) := by
  rw [List.filterMap_filter]
  congr 1
  funext use
  cases use with
  | close => rfl
  | of j wish =>
    by_cases same : i = j
    · simp [Use.isOf, same]
    · simp [Use.isOf, Use.wish?, same]

/-- While their session stays open, sequences that are read by turns each give, in the same order,
the entries, the end or the failure that they give where no turns are taken but their own. -/
theorem delivered_alone (steady : network.Steady (Call.IsSearchOn s.connection) t.world.network)
    (isOpen : s.IsOpen t.world) (on : t.IsOn s) {uses : List (Use ι)} (unclosed : .close ∉ uses)
    (i : ι) :
    (t.useAll network s uses).delivered i =
      (t.useAll network s (uses.filter (·.isOf i))).delivered i := by
  have quiet : t.Undisturbed network s := ⟨on, isOpen, steady⟩
  have unclosedOwn : .close ∉ uses.filter (·.isOf i) :=
    fun member => unclosed (List.mem_of_mem_filter member)
  rw [delivered_useAll quiet unclosed, delivered_useAll quiet unclosedOwn, wishes_of_own]

end Readings

namespace Rehearsal

/-- What a directory answers where every search finds two people below its base. -/
def populous : (call : Call) → Except Fault call.Reply
  | .search _ query => .ok ⟨some Script.successReport, people query⟩
  | .pagedSearch _ query _ => .ok ⟨some Script.successReport, people query, none⟩
  | _ => .error (.internal "not rehearsed")
where
  people (query : Query) : List Item :=
    [item (some ("uid=jdoe," ++ query.base)) [], item (some ("uid=rroe," ++ query.base)) []]

def crowd : Network Unit := ⟨fun call _ => (populous call, ()), fun _ => 0⟩

def below (base : String) : Query := ⟨base, "(uid=*)", .subtree, none, 0, 0⟩

/-- Three searches on one session, below a base each: two are answered whole, one in pages. -/
def three : Readings Unit (Fin 3) where
  world := .start ()
  sequences i := match i with
    | 0 => .live ⟨searching, below "dc=x", 0, .idle⟩
    | 1 => .live ⟨searching, below "dc=y", 0, .idle⟩
    | 2 => .live ⟨searching, below "dc=z", 2, .idle⟩
  receipts := []

def byTurns : List (Use (Fin 3)) :=
  [.of 0 .next, .of 1 .next, .of 2 .next, .of 0 .next, .of 2 .stop, .of 1 .next, .of 0 .next]

end Rehearsal

open Rehearsal

/-- The first of three searches gives both of its people and comes to its end, although by then the
connection has what the last of them found, and nothing of the first. -/
theorem Readings.delivered_alone_of_three :
    let read := three.useAll crowd searching byTurns
    three.IsOn searching ∧ .close ∉ byTurns ∧
    (∀ i, read.delivered i =
      (three.useAll crowd searching (byTurns.filter (·.isOf i))).delivered i) ∧
    (read.delivered 0).map (·.toOption) =
      (Item.entries (populous.people (below "dc=x"))).map (fun entry => some (some entry)) ++
        [some none] ∧
    (read.world.latest searching.connection.number).items = populous.people (below "dc=z") := by
  intro read
  have on : three.IsOn searching := by
    intro i
    match i with
    | 0 => rfl
    | 1 => rfl
    | 2 => rfl
  have steady : crowd.Steady (Call.IsSearchOn searching.connection) three.world.network :=
    fun _ _ _ _ => rfl
  have unclosed : .close ∉ byTurns := by decide
  refine ⟨on, unclosed, delivered_alone steady List.not_mem_nil on unclosed, ?_, ?_⟩
  · decide +kernel
  · decide +kernel

end DirectoryAuth
