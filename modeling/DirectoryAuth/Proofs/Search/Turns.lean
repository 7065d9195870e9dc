import DirectoryAuth.Proofs.Search.Findings
import DirectoryAuth.Proofs.Session.Lifetime
import DirectoryAuth.Search.Sequence
import Mathlib.Logic.Function.Basic

/-!
# Sequences that are read by turns

On one session, several sequences may be read by turns, in any order: each may be asked for its next
entry or be stopped, and the session may be closed in between. For each turn there is a receipt of
what was given and of what happened, and the receipts of one sequence tell its story.
-/

namespace DirectoryAuth

open Operation World

variable {σ ι : Type}

inductive Wish where
  | next | stop
  deriving DecidableEq, Repr

/-- A turn: a wish is put to one of the sequences, or their session is closed. -/
inductive Use (ι : Type) where
  | of (i : ι) (wish : Wish)
  | close
  deriving DecidableEq, Repr

/-- What a sequence gives when it is asked for its next entry. -/
abbrev Delivery := Except Failure (Option Entry)

structure Receipt (ι : Type) where
  use : Use ι
  /-- What was given, where a next entry was asked for. -/
  given : Option Delivery
  events : List Event

def World.since (after before : World σ) : List Event := after.history.drop before.history.length

theorem World.since_eq {before after : World σ} {events : List Event}
    (history : after.history = before.history ++ events) : after.since before = events := by
  rw [since, history, List.drop_left]

/-! ## Single sequences -/

structure Grant (σ : Type) where
  given : Option Delivery
  rest : Sequence
  world : World σ

namespace Sequence

def grant (network : Network σ) (world : World σ) (q : Sequence) : Wish → Grant σ
  | .next =>
    match q.next.run network world with
    | (.ok (found, rest), after) => ⟨some (.ok found), rest, after⟩
    | (.error failure, after) => ⟨some (.error failure), .ended, after⟩
  | .stop => ⟨none, .ended, (q.stop.run network world).2⟩

variable {network : Network σ} {world after : World σ} {c : Cursor}

theorem grant_ended (wish : Wish) :
    (ended.grant network world wish).rest = ended ∧
      (ended.grant network world wish).world = world := by
  cases wish <;> exact ⟨rfl, rfl⟩

theorem grant_of_entry {entry : Entry} {rest : Cursor}
    (ran : c.next.run network world = (.ok (some (entry, rest)), after)) :
    (live c).grant network world .next = ⟨some (.ok (some entry)), live rest, after⟩ := by
  have next : (live c).next.run network world = (.ok (some entry, live rest), after) :=
    run_bind_of_ok ran
  rw [grant, next]

theorem grant_of_end (ran : c.next.run network world = (.ok none, after)) :
    (live c).grant network world .next = ⟨some (.ok none), ended, after⟩ := by
  have next : (live c).next.run network world = (.ok (none, ended), after) := run_bind_of_ok ran
  rw [grant, next]

theorem grant_of_failure {failure : Failure}
    (ran : c.next.run network world = (.error failure, after)) :
    (live c).grant network world .next = ⟨some (.error failure), ended, after⟩ := by
  have next : (live c).next.run network world = (.error failure, after) := run_bind_of_error ran
  rw [grant, next]

/-- The sequence has ended, or its entries come from a session. -/
def IsOn (s : Session) : Sequence → Prop
  | live c => c.session = s
  | ended => True

/-- Nothing is sent for a wish but searches on the session. -/
theorem grant_steps {s : Session} {q : Sequence} (on : q.IsOn s) (world : World σ) (wish : Wish) :
    World.Steps network (Call.IsSearchOn s.connection) world
      (q.grant network world wish).world := by
  cases q with
  | ended =>
    rw [(grant_ended wish).2]
    exact .refl world
  | live c =>
    cases (show c.session = s from on)
    cases wish with
    | stop => exact c.stop_callsOnly world
    | next =>
      have steps : World.Steps network _ world (c.next.run network world).2 :=
        c.next_callsOnly world
      rcases ran : c.next.run network world with ⟨outcome, after⟩
      rw [ran] at steps
      match outcome with
      | .ok (some (entry, rest)) => rw [grant_of_entry ran]; exact steps
      | .ok none => rw [grant_of_end ran]; exact steps
      | .error failure => rw [grant_of_failure ran]; exact steps

theorem grant_isOn {s : Session} {q : Sequence} (on : q.IsOn s) (world : World σ) (wish : Wish) :
    (q.grant network world wish).rest.IsOn s := by
  cases q with
  | ended =>
    rw [(grant_ended wish).1]
    trivial
  | live c =>
    cases wish with
    | stop => trivial
    | next =>
      rcases ran : c.next.run network world with ⟨outcome, after⟩
      match outcome with
      | .ok (some (entry, rest)) =>
        rw [grant_of_entry ran]
        exact (Cursor.next_session ran).trans on
      | .ok none => rw [grant_of_end ran]; trivial
      | .error failure => rw [grant_of_failure ran]; trivial

end Sequence

/-! ## Several sequences -/

/-- Sequences that are read by turns, and the receipts of the turns that there were. -/
structure Readings (σ ι : Type) where
  world : World σ
  sequences : ι → Sequence
  receipts : List (Receipt ι)

variable [DecidableEq ι]

def Use.isOf (i : ι) : Use ι → Bool
  | of j _ => i = j
  | close => false

def Use.wish? (i : ι) : Use ι → Option Wish
  | of j wish => if i = j then some wish else none
  | close => none

namespace Readings

def own (t : Readings σ ι) (i : ι) : List (Receipt ι) := t.receipts.filter (·.use.isOf i)

def delivered (t : Readings σ ι) (i : ι) : List Delivery := (t.own i).filterMap (·.given)

variable (network : Network σ) (s : Session)

def use (t : Readings σ ι) : Use ι → Readings σ ι
  | .of i wish =>
    let grant := (t.sequences i).grant network t.world wish
    { world := grant.world
      sequences := Function.update t.sequences i grant.rest
      receipts := t.receipts ++ [⟨.of i wish, grant.given, grant.world.since t.world⟩] }
  | .close =>
    let world := (s.close.run network t.world).2
    { world := world
      sequences := t.sequences
      receipts := t.receipts ++ [⟨.close, none, world.since t.world⟩] }

def useAll (t : Readings σ ι) (uses : List (Use ι)) : Readings σ ι := uses.foldl (use network s) t

variable {network : Network σ} {s : Session} {t : Readings σ ι} {i j : ι} {wish : Wish}

theorem useAll_cons (use : Use ι) (uses : List (Use ι)) :
    t.useAll network s (use :: uses) = (t.use network s use).useAll network s uses := rfl

/-! ## What a turn changes -/

theorem own_use_self :
    (t.use network s (.of i wish)).own i = t.own i ++
      [⟨.of i wish, ((t.sequences i).grant network t.world wish).given,
        ((t.sequences i).grant network t.world wish).world.since t.world⟩] := by
  simp [own, use, Use.isOf]

theorem own_use_other (different : i ≠ j) :
    (t.use network s (.of j wish)).own i = t.own i := by
  simp [own, use, Use.isOf, different]

theorem own_use_close : (t.use network s .close).own i = t.own i := by
  simp [own, use, Use.isOf]

theorem delivered_use_self :
    (t.use network s (.of i wish)).delivered i =
      t.delivered i ++ ((t.sequences i).grant network t.world wish).given.toList := by
  rw [delivered, own_use_self, List.filterMap_append, delivered]
  cases ((t.sequences i).grant network t.world wish).given <;> rfl

theorem delivered_use_other (different : i ≠ j) :
    (t.use network s (.of j wish)).delivered i = t.delivered i := by
  rw [delivered, own_use_other different, delivered]

theorem sequences_use_self :
    (t.use network s (.of i wish)).sequences i =
      ((t.sequences i).grant network t.world wish).rest :=
  Function.update_self ..

theorem sequences_use_other (different : i ≠ j) :
    (t.use network s (.of j wish)).sequences i = t.sequences i :=
  Function.update_of_ne different ..

def IsOn (t : Readings σ ι) (s : Session) : Prop := ∀ i, (t.sequences i).IsOn s

theorem IsOn.use (on : t.IsOn s) (use : Use ι) : (t.use network s use).IsOn s := by
  intro j
  cases use with
  | close => exact on j
  | of i wish =>
    by_cases same : j = i
    · subst same
      rw [sequences_use_self]
      exact Sequence.grant_isOn (on j) _ _
    · rw [sequences_use_other same]
      exact on j

/-- A turn of a sequence sends nothing but searches on the session. -/
theorem use_steps (on : t.IsOn s) (i : ι) (wish : Wish) :
    World.Steps network (Call.IsSearchOn s.connection) t.world
      (t.use network s (.of i wish)).world :=
  Sequence.grant_steps (on i) _ _

end Readings

end DirectoryAuth
