import DirectoryAuth.Proofs.Composition
import DirectoryAuth.Proofs.Parallel
import DirectoryAuth.Proofs.Tasks

/-!
# Sessions that fail to close

That the connection of a session cannot be given up is only logged, for whoever looks for defects.
Run against a network where giving up some connections fails, and against the same network where it
succeeds, every operation comes to the same outcome, makes the same calls in the same order and
writes the same records but those for debugging. This holds of each step that operations are
composed of, and so of every operation.
-/

namespace DirectoryAuth

open Operation

variable {σ α β : Type}

/-! ## Networks that forgive -/

/-- The answer to an unbind without such a fault as closing a session puts up with. -/
def forgiven : Except Fault Unit → Except Fault Unit
  | .ok () => .ok ()
  | .error fault => if fault.isDirectory || fault.isSystem then .ok () else .error fault

/-- The network where giving up the chosen connections succeeds, unless it fails in a way that
closing a session does not put up with. -/
def Network.forgiving (network : Network σ) (chosen : Connection → Bool) : Network σ where
  answer
    | .unbind connection, state =>
      let (answer, next) := network.answer (.unbind connection) state
      (if chosen connection then forgiven answer else answer, next)
    | call, state => network.answer call state
  bound := network.bound

theorem Network.forgiving_answer {call : Call} (kept : ¬ call.IsUnbind) (network : Network σ)
    (chosen : Connection → Bool) (state : σ) :
    (network.forgiving chosen).answer call state = network.answer call state := by
  cases call with
  | unbind connection => exact absurd trivial kept
  | _ => rfl

/-! ## What lasts of a history -/

namespace Event

/-- The event without what tells how closing went: an unbind is seen, but not how it was answered,
and a record for debugging is not seen. -/
def lasting? : Event → Option Event
  | .exchange (.unbind connection) _ => some (.exchange (.unbind connection) (.ok ()))
  | .logged record => if record.level = .debug then none else some (.logged record)
  | event => some event

/-- The record of the event, unless it is one for debugging. -/
def prominent? (event : Event) : Option LogRecord :=
  event.record?.filter fun record => Level.debug.rank < record.level.rank

theorem lasting?_call (event : Event) : event.lasting?.bind call? = event.call? := by
  cases event with
  | exchange call answer => cases call <;> rfl
  | page search step => rfl
  | printed stream text => rfl
  | logged record =>
    rw [lasting?]
    split
    · rfl
    · rfl

theorem lasting?_prominent (event : Event) : event.lasting?.bind prominent? = event.prominent? := by
  cases event with
  | exchange call answer => cases call <;> rfl
  | page search step => rfl
  | printed stream text => rfl
  | logged record =>
    obtain ⟨level, component, message⟩ := record
    cases level <;> rfl

end Event

namespace World

variable {a b : World σ}

def lasting (world : World σ) : List Event := world.history.filterMap Event.lasting?

def prominent (world : World σ) : List LogRecord :=
  world.records.filter fun record => Level.debug.rank < record.level.rank

theorem calls_lasting (world : World σ) : world.calls = world.lasting.filterMap Event.call? := by
  rw [lasting, List.filterMap_filterMap, calls]
  simp only [Event.lasting?_call]

theorem prominent_lasting (world : World σ) :
    world.prominent = world.lasting.filterMap Event.prominent? := by
  rw [lasting, List.filterMap_filterMap, prominent, records, List.filter_filterMap]
  simp only [Event.lasting?_prominent]
  rfl

/-- The worlds differ in nothing but how closing went. -/
structure Akin (a b : World σ) : Prop where
  network : a.network = b.network
  numbers : a.numbers = b.numbers
  lasting : a.lasting = b.lasting

theorem Akin.refl (world : World σ) : Akin world world := ⟨rfl, rfl, rfl⟩

theorem Akin.calls (akin : a.Akin b) : a.calls = b.calls := by
  rw [calls_lasting, calls_lasting, akin.lasting]

theorem Akin.prominent (akin : a.Akin b) : a.prominent = b.prominent := by
  rw [prominent_lasting, prominent_lasting, akin.lasting]

/-- What is seen of one event. -/
theorem lasting_append {world after : World σ} {event : Event}
    (history : after.history = world.history ++ [event]) :
    after.lasting = world.lasting ++ event.lasting?.toList := by
  rw [lasting, history, List.filterMap_append, lasting]
  cases seen : event.lasting? <;> simp [seen]

theorem lasting_noted (world : World σ) (event : Event) :
    (world.noted event).lasting = world.lasting ++ event.lasting?.toList :=
  lasting_append rfl

theorem lasting_called (world : World σ) (network : Network σ) (call : Call) :
    (world.called network call).lasting = world.lasting ++
      (Event.exchange call (network.answer call world.network).1).lasting?.toList :=
  lasting_append rfl

end World

/-! ## Operations -/

namespace Operation

/-- Run against either network, in worlds that differ in how closing went, the operation comes to
the same outcome, and to such worlds again. -/
def Indifferent (network other : Network σ) (x : Operation σ α) : Prop :=
  ∀ a b : World σ, a.Akin b →
    (x.run network a).1 = (x.run other b).1 ∧ (x.run network a).2.Akin (x.run other b).2

namespace Indifferent

variable {network other : Network σ}

theorem ofOutcome (outcome : Except Failure α) :
    Indifferent network other (Operation.ofOutcome outcome) :=
  fun _ _ akin => ⟨rfl, akin⟩

theorem record (event : Event) : Indifferent network other (Operation.record event) := by
  intro a b akin
  refine ⟨rfl, akin.network, akin.numbers, ?_⟩
  rw [run_record, run_record, World.lasting_noted, World.lasting_noted, akin.lasting]

theorem attempt {x : Operation σ α} (hx : Indifferent network other x) :
    Indifferent network other x.attempt := by
  intro a b akin
  obtain ⟨same, akin⟩ := hx a b akin
  exact ⟨congrArg Except.ok same, akin⟩

/-- The operation runs in parallel with itself. -/
theorem parallel {x : Operation σ α} (hx : Indifferent network other x) :
    Parallel network other World.Akin Eq x x :=
  fun a b akin => ⟨.of_eq (hx a b akin).1, (hx a b akin).2⟩

theorem of_parallel {x : Operation σ α} (hx : Parallel network other World.Akin Eq x x) :
    Indifferent network other x :=
  fun a b akin => ⟨(hx a b akin).1.eq, (hx a b akin).2⟩

theorem bind {x : Operation σ α} {f : α → Operation σ β} (hx : Indifferent network other x)
    (hf : ∀ a, Indifferent network other (f a)) : Indifferent network other (x >>= f) :=
  of_parallel (hx.parallel.bind_same fun a => (hf a).parallel)

theorem numbering (same : network.bound = other.bound)
    (step : Nat → World.Numbers → α × World.Numbers) :
    Indifferent network other (Operation.numbering step) := by
  intro a b akin
  have stepped : step (network.bound a.network) a.numbers =
      step (other.bound b.network) b.numbers := by
    rw [same, akin.network, akin.numbers]
  refine ⟨?_, akin.network, congrArg (·.2) stepped, akin.lasting⟩
  exact congrArg (fun p : α × World.Numbers => Except.ok p.1) stepped

variable {chosen : Connection → Bool}

theorem perform {call : Call} (kept : ¬ call.IsUnbind) :
    Indifferent network (network.forgiving chosen) (Operation.perform call) := by
  intro a b akin
  have answered : (network.forgiving chosen).answer call b.network =
      network.answer call a.network := by
    rw [network.forgiving_answer kept, akin.network]
  rw [run_perform, run_perform, answered]
  refine ⟨rfl, congrArg (·.2) answered.symm, akin.numbers, ?_⟩
  rw [World.lasting_called, World.lasting_called, akin.lasting, answered]

/-- However an unbind is answered in the two networks, the worlds behind it are akin. -/
theorem called_akin {a b : World σ} (akin : a.Akin b) (connection : Connection) :
    (a.called network (.unbind connection)).Akin
      (b.called (network.forgiving chosen) (.unbind connection)) := by
  refine ⟨?_, akin.numbers, ?_⟩
  · change (network.answer (.unbind connection) a.network).2 =
      (network.answer (.unbind connection) b.network).2
    rw [akin.network]
  · rw [World.lasting_called, World.lasting_called, akin.lasting]
    rfl

/-- A record for debugging is not seen. -/
theorem akin_noted {a b : World σ} (akin : a.Akin b) (component : Component) (message : String) :
    (a.noted (.logged ⟨.debug, component, message⟩)).Akin b := by
  refine ⟨akin.network, akin.numbers, ?_⟩
  rw [World.lasting_noted, ← akin.lasting]
  exact List.append_nil _

theorem release (s : Session) :
    Indifferent network (network.forgiving chosen) (s.release : Operation σ Unit) := by
  intro a b akin
  have later : (a.called network (.unbind s.connection)).Akin
      (b.called (network.forgiving chosen) (.unbind s.connection)) :=
    called_akin akin s.connection
  have answered : ((network.forgiving chosen).answer (.unbind s.connection) b.network).1 =
      let answer := (network.answer (.unbind s.connection) a.network).1
      if chosen s.connection then forgiven answer else answer := by
    rw [akin.network]
    rfl
  rw [Session.release, run_attempt_bind, run_attempt_bind, run_perform, run_perform, answered]
  cases (network.answer (.unbind s.connection) a.network).1 with
  | ok _ =>
    dsimp only [forgiven]
    rw [ite_self]
    exact ⟨rfl, later⟩
  | error fault =>
    dsimp only [forgiven]
    by_cases expected : (fault.isDirectory || fault.isSystem) = true
    · rw [if_pos expected]
      by_cases picked : chosen s.connection = true
      · rw [if_pos picked]
        dsimp only [Except.mapError]
        rw [if_pos expected]
        exact ⟨rfl, akin_noted later _ _⟩
      · rw [if_neg picked]
        dsimp only [Except.mapError]
        rw [if_pos expected]
        exact record _ _ _ later
    · rw [if_neg expected, ite_self]
      dsimp only [Except.mapError]
      rw [if_neg expected]
      exact ⟨rfl, later⟩

end Indifferent

/-- No operation depends on how giving up connections goes, within what closing puts up with. -/
theorem Composed.indifferent {x : Operation σ α} (composed : Composed x) (network : Network σ)
    (chosen : Connection → Bool) : Indifferent network (network.forgiving chosen) x := by
  induction composed with
  | ofOutcome outcome => exact .ofOutcome outcome
  | record quiet => exact .record _
  | perform kept => exact .perform kept
  | numbering step => exact .numbering rfl step
  | release s => exact .release s
  | attempt _ ih => exact ih.attempt
  | bind _ _ ih ih' => exact ih.bind ih'

end Operation

/-! ## Tasks -/

namespace Task

/-- What a task comes to, if it does not fail. Setting up a realm gives the realm back even so. -/
@[reducible] def Outcome : Task → Type
  | setUp _ => Realm × Except Failure Unit
  | authenticate _ _ _ => Bool
  | fetchDetails _ _ => Details
  | fetchGroups _ _ => List String
  | check _ _ _ => Attempt
  | test _ => Unit

def operation : (task : Task) → Operation σ task.Outcome
  | setUp realm => realm.setUp
  | authenticate realm login password => realm.authenticate login password
  | fetchDetails realm login => realm.fetchDetails login
  | fetchGroups realm login => realm.fetchGroups login
  | check connector login password => Login.check connector login password
  | test connector => connector.test

theorem after_eq_run (network : Network σ) (world : World σ) (task : Task) :
    task.after network world = (task.operation.run network world).2 := by
  cases task <;> rfl

theorem operation_composed (task : Task) :
    Composed (task.operation : Operation σ task.Outcome) := by
  cases task with
  | setUp realm => exact realm.setUp_composed
  | authenticate realm login password => exact realm.authenticate_composed login password
  | fetchDetails realm login => exact realm.fetchDetails_composed login
  | fetchGroups realm login => exact realm.fetchGroups_composed login
  | check connector login password => exact Login.check_composed connector login password
  | test connector => exact connector.test_composed

/-- Whatever was asked for before, the worlds of a host differ in nothing but how closing went. -/
theorem afterAll_akin (network : Network σ) (chosen : Connection → Bool) (state : σ)
    (tasks : List Task) :
    (afterAll network state tasks).Akin (afterAll (network.forgiving chosen) state tasks) := by
  suffices kept : ∀ a b : World σ, a.Akin b →
      (tasks.foldl (after network) a).Akin (tasks.foldl (after (network.forgiving chosen)) b) from
    kept _ _ (.refl _)
  induction tasks with
  | nil => exact fun _ _ akin => akin
  | cons task rest ih =>
    intro a b akin
    refine ih _ _ ?_
    rw [after_eq_run, after_eq_run]
    exact (task.operation_composed.indifferent network chosen a b akin).2

/-- Where giving up some connections fails, in ways that closing a session puts up with, a task
comes to the outcome that it has where giving them up succeeds. It makes the same calls, writes the
same records above those for debugging, and reads pages in the same way. -/
theorem unmoved_by_closing (network : Network σ) (chosen : Connection → Bool) (state : σ)
    (earlier : List Task) (task : Task) :
    let failing := task.operation.run network (afterAll network state earlier)
    let closing := task.operation.run (network.forgiving chosen)
      (afterAll (network.forgiving chosen) state earlier)
    failing.1 = closing.1 ∧ failing.2.calls = closing.2.calls ∧
      failing.2.prominent = closing.2.prominent ∧ failing.2.lasting = closing.2.lasting := by
  intro failing closing
  obtain ⟨outcome, akin⟩ := task.operation_composed.indifferent network chosen _ _
    (afterAll_akin network chosen state earlier)
  exact ⟨outcome, akin.calls, akin.prominent, akin.lasting⟩

end Task

end DirectoryAuth
