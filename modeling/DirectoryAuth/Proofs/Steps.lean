import DirectoryAuth.Proofs.Run
import Mathlib.Logic.Relation

/-!
# Steps of a run

Whatever an operation does, it does in steps of five kinds, and which calls it may make says which
steps are open to it. Sessions are begun and ended, and pages are read, only along with calls of
their own. What every step preserves, every run preserves; so one statement for each operation, on
the calls that it makes, is enough for all that runs of it preserve.
-/

namespace DirectoryAuth

namespace Event

def IsPage : Event → Prop
  | .page _ _ => True
  | _ => False

end Event

/-- Paged searches may be made where the `allowed` calls may. -/
def MayPage (allowed : Call → Prop) : Prop :=
  ∃ connection query size, allowed (.pagedSearch connection query size)

variable {allowed more : Call → Prop}

theorem MayPage.mono (wider : ∀ call, allowed call → more call) (may : MayPage allowed) :
    MayPage more := by
  obtain ⟨connection, query, size, may⟩ := may
  exact ⟨connection, query, size, wider _ may⟩

theorem MayPage.anywhere : MayPage fun _ => True := by
  let connection : Connection := ⟨0, "", ⟨true, .ofNat 0, .anonymous⟩⟩
  let query : Query := ⟨"", "", .base, none, 0, 0⟩
  exact ⟨connection, query, 0, trivial⟩

namespace Event

/-- The event may happen where the `allowed` calls may be made: if it is a call, as one of them, and
if it reads a page, along with paged searches. -/
structure Within (allowed : Call → Prop) (event : Event) : Prop where
  calls : ∀ call, event.call? = some call → allowed call
  pages : event.IsPage → MayPage allowed

theorem Within.mono (wider : ∀ call, allowed call → more call) {event : Event}
    (within : event.Within allowed) : event.Within more :=
  ⟨fun call made => wider _ (within.calls call made), fun page => (within.pages page).mono wider⟩

/-- Where every call may be made, everything may happen. -/
theorem Within.anywhere {event : Event} : event.Within fun _ => True :=
  ⟨fun _ _ => trivial, fun _ => .anywhere⟩

/-- A record or an output may happen anywhere. -/
theorem within_of_silent {event : Event} (quiet : event.call? = none) (silent : ¬ event.IsPage) :
    event.Within allowed := by
  refine ⟨fun call made => ?_, fun page => absurd page silent⟩
  rw [quiet] at made
  cases made

end Event

namespace World

variable {σ : Type}

/-- One step of a run that may make the `allowed` calls. A number for a new connection is taken
only where connections may be made, one for a paged search only where such searches may be made, and
a session is marked as closed only where its connection may be given up. -/
inductive Step (network : Network σ) (allowed : Call → Prop) : World σ → World σ → Prop
  | call {world : World σ} {call : Call} (may : allowed call) :
      Step network allowed world (world.called network call)
  | note {world : World σ} {event : Event} (quiet : event.call? = none)
      (within : event.Within allowed) : Step network allowed world (world.noted event)
  | page {world : World σ} (may : MayPage allowed) :
      Step network allowed world { world with pagedSearches := world.pagedSearches + 1 }
  | number {world : World σ} {connection : Connection} (may : allowed (.connect connection)) :
      Step network allowed world { world with connections := world.connections + 1 }
  | mark {world : World σ} {connection : Connection} (may : allowed (.unbind connection)) :
      Step network allowed world { world with closed := connection.number :: world.closed }

def Steps (network : Network σ) (allowed : Call → Prop) : World σ → World σ → Prop :=
  Relation.ReflTransGen (Step network allowed)

namespace Steps

variable {network : Network σ} {a b c : World σ}

theorem refl (world : World σ) : Steps network allowed world world := Relation.ReflTransGen.refl

theorem single (step : Step network allowed a b) : Steps network allowed a b :=
  Relation.ReflTransGen.single step

theorem trans (first : Steps network allowed a b) (second : Steps network allowed b c) :
    Steps network allowed a c :=
  Relation.ReflTransGen.trans first second

instance : IsPreorder (World σ) (Steps network allowed) :=
  inferInstanceAs (IsPreorder (World σ) (Relation.ReflTransGen (Step network allowed)))

theorem mono (wider : ∀ call, allowed call → more call) (steps : Steps network allowed a b) :
    Steps network more a b := by
  refine Relation.ReflTransGen.mono ?_ _ _ steps
  intro before after step
  cases step with
  | call may => exact .call (wider _ may)
  | note quiet within => exact .note quiet (within.mono wider)
  | page may => exact .page (may.mono wider)
  | number may => exact .number (wider _ may)
  | mark may => exact .mark (wider _ may)

/-- Nothing is ever taken out of a history. -/
theorem history_grows (steps : Steps network allowed a b) : a.history <+: b.history := by
  induction steps with
  | refl => exact List.prefix_refl _
  | tail _ step ih =>
    cases step with
    | call may => exact ih.trans (List.prefix_append _ _)
    | note quiet => exact ih.trans (List.prefix_append _ _)
    | page may => exact ih
    | number may => exact ih
    | mark may => exact ih

/-- What a run adds to the history may happen where its calls may be made. -/
theorem events_within (steps : Steps network allowed a b) :
    ∃ events, b.history = a.history ++ events ∧ ∀ event ∈ events, event.Within allowed := by
  induction steps with
  | refl => exact ⟨[], by simp, by simp⟩
  | @tail middle after earlier step ih =>
    obtain ⟨events, history, within⟩ := ih
    cases step with
    | @call call may =>
      refine ⟨events ++ [.exchange call (network.answer call middle.network).1],
        by simp [called, history], ?_⟩
      intro event member
      rcases List.mem_append.mp member with old | new
      · exact within event old
      · rw [List.mem_singleton.mp new]
        exact ⟨fun made same => Option.some.inj same ▸ may, False.elim⟩
    | @note event quiet here =>
      refine ⟨events ++ [event], by simp [noted, history], ?_⟩
      intro other member
      rcases List.mem_append.mp member with old | new
      · exact within other old
      · rw [List.mem_singleton.mp new]
        exact here
    | page may => exact ⟨events, history, within⟩
    | number may => exact ⟨events, history, within⟩
    | mark may => exact ⟨events, history, within⟩

/-- The calls in what a run adds to the history are allowed ones. -/
theorem calls_allowed (steps : Steps network allowed a b) :
    ∃ events, b.history = a.history ++ events ∧
      ∀ event ∈ events, ∀ call, event.call? = some call → allowed call := by
  obtain ⟨events, history, within⟩ := steps.events_within
  exact ⟨events, history, fun event member => (within event member).calls⟩

/-- A call that happened in a run is an allowed one. -/
theorem allowed_of_happened (steps : Steps network allowed a b) {call : Call}
    {answer : Except Fault call.Reply} (happened : Happened (.exchange call answer) a b) :
    allowed call := by
  obtain ⟨events, history, calls⟩ := steps.calls_allowed
  obtain ⟨others, sameHistory, member⟩ := happened
  have same : events = others := List.append_cancel_left (history.symm.trans sameHistory)
  exact calls _ (same ▸ member) call rfl

/-- Where no connection may be given up, no session is closed. -/
theorem closed_eq (never : ∀ connection, ¬ allowed (.unbind connection))
    (steps : Steps network allowed a b) : b.closed = a.closed := by
  induction steps with
  | refl => rfl
  | tail _ step ih =>
    cases step with
    | call may => exact ih
    | note quiet => exact ih
    | page may => exact ih
    | number may => exact ih
    | mark may => exact absurd may (never _)

/-- Where no connection may be made, none is numbered. -/
theorem connections_eq (never : ∀ connection, ¬ allowed (.connect connection))
    (steps : Steps network allowed a b) : b.connections = a.connections := by
  induction steps with
  | refl => rfl
  | tail _ step ih =>
    cases step with
    | call may => exact ih
    | note quiet => exact ih
    | page may => exact ih
    | number may => exact absurd may (never _)
    | mark may => exact ih

/-- Where no paged search may be made, none is numbered. -/
theorem pagedSearches_eq (never : ¬ MayPage allowed) (steps : Steps network allowed a b) :
    b.pagedSearches = a.pagedSearches := by
  induction steps with
  | refl => rfl
  | tail _ step ih =>
    cases step with
    | call may => exact ih
    | note quiet => exact ih
    | page may => exact absurd may never
    | number may => exact ih
    | mark may => exact ih

/-- No number of a paged search is given out again. -/
theorem pagedSearches_le (steps : Steps network allowed a b) :
    a.pagedSearches ≤ b.pagedSearches := by
  induction steps with
  | refl => exact Nat.le_refl _
  | tail _ step ih =>
    cases step with
    | call may => exact ih
    | note quiet => exact ih
    | page may => exact Nat.le_succ_of_le ih
    | number may => exact ih
    | mark may => exact ih

end Steps

end World

namespace Operation

variable {σ α β : Type} {network : Network σ}

/-! ## What every run keeps -/

def Keeps (network : Network σ) (R : World σ → World σ → Prop) (operation : Operation σ α) : Prop :=
  ∀ world, R world (operation.run network world).2

namespace Keeps

variable {R : World σ → World σ → Prop}

theorem attempt {x : Operation σ α} (hx : Keeps network R x) : Keeps network R x.attempt :=
  hx

theorem translating {x : Operation σ α} {translate : Fault → Failure} (hx : Keeps network R x) :
    Keeps network R (x.translating translate) := by
  intro world
  rw [run_translating]
  exact hx world

theorem ite {condition : Prop} [Decidable condition] {x y : Operation σ α}
    (hx : Keeps network R x) (hy : Keeps network R y) :
    Keeps network R (if condition then x else y) := by
  split
  · exact hx
  · exact hy

variable [IsPreorder (World σ) R]

theorem pure (a : α) : Keeps network R (Pure.pure a : Operation σ α) :=
  fun world => refl world

theorem throw (failure : Failure) :
    Keeps network R (MonadExcept.throw failure : Operation σ α) :=
  fun world => refl world

theorem ofOutcome (outcome : Except Failure α) : Keeps network R (Operation.ofOutcome outcome) :=
  fun world => refl world

/-- The second part is run only on values that the first part gives. -/
theorem bind_value {x : Operation σ α} {f : α → Operation σ β} (hx : Keeps network R x)
    (hf : ∀ world a next, x.run network world = (.ok a, next) → Keeps network R (f a)) :
    Keeps network R (x >>= f) := by
  intro world
  have first := hx world
  rcases ran : x.run network world with ⟨outcome, next⟩
  rw [ran] at first
  cases outcome with
  | ok a =>
    rw [run_bind_of_ok ran]
    exact IsTrans.trans _ _ _ first (hf world a next ran next)
  | error failure =>
    rw [run_bind_of_error ran]
    exact first

theorem bind {x : Operation σ α} {f : α → Operation σ β} (hx : Keeps network R x)
    (hf : ∀ a, Keeps network R (f a)) : Keeps network R (x >>= f) :=
  hx.bind_value fun _ a _ _ => hf a

theorem mapM {f : α → Operation σ β} {items : List α} (hf : ∀ a, Keeps network R (f a)) :
    Keeps network R (items.mapM f) := by
  induction items with
  | nil => exact pure _
  | cons a rest ih =>
    rw [List.mapM_cons]
    exact bind (hf a) fun _ => bind ih fun _ => pure _

theorem forM {f : α → Operation σ PUnit} {items : List α}
    (hf : ∀ a ∈ items, Keeps network R (f a)) : Keeps network R (items.forM f) := by
  induction items with
  | nil => exact pure _
  | cons a rest ih =>
    exact bind (hf a List.mem_cons_self) fun _ =>
      ih fun other member => hf other (List.mem_cons_of_mem _ member)

end Keeps

/-! ## Which calls are made -/

/-- Every run of the operation takes only steps that are open to the `allowed` calls. -/
abbrev CallsOnly (network : Network σ) (allowed : Call → Prop) (operation : Operation σ α) : Prop :=
  Keeps network (World.Steps network allowed) operation

/-- The steps of a run that is known. -/
theorem CallsOnly.steps {x : Operation σ α} (hx : CallsOnly network allowed x)
    {world after : World σ} {outcome : Except Failure α}
    (ran : x.run network world = (outcome, after)) : World.Steps network allowed world after := by
  have steps := hx world
  rw [ran] at steps
  exact steps

/-- Along a run, the history grows. -/
theorem CallsOnly.grows {x : Operation σ α} (hx : CallsOnly network allowed x)
    {world after : World σ} {outcome : Except Failure α}
    (ran : x.run network world = (outcome, after)) : world.history <+: after.history :=
  (hx.steps ran).history_grows

theorem CallsOnly.widen (wider : ∀ call, allowed call → more call) {x : Operation σ α}
    (hx : CallsOnly network allowed x) : CallsOnly network more x :=
  fun world => (hx world).mono wider

/-- Each result of asking for many things was given by one of them, in a world on the way. -/
theorem mapM_eq_ok {f : α → Operation σ β} {items : List α} {results : List β}
    {world after : World σ} (calls : ∀ a, CallsOnly network allowed (f a))
    (ran : (items.mapM f).run network world = (.ok results, after)) {b : β}
    (member : b ∈ results) :
    ∃ a ∈ items, ∃ before next, World.Steps network allowed world before ∧
      (f a).run network before = (.ok b, next) := by
  induction items generalizing world results with
  | nil =>
    cases ran
    cases member
  | cons a rest ih =>
    rw [List.mapM_cons] at ran
    obtain ⟨first, next, here, ran⟩ := run_bind_eq_ok ran
    obtain ⟨others, last, there, ran⟩ := run_bind_eq_ok ran
    cases ran
    rcases List.mem_cons.mp member with rfl | later
    · exact ⟨a, List.mem_cons_self, world, next, .refl world, here⟩
    · obtain ⟨other, listed, before, final, steps, gave⟩ := ih there later
      refine ⟨other, List.mem_cons_of_mem _ listed, before, final, ?_, gave⟩
      exact ((calls a).steps here).trans steps

namespace Keeps

theorem record {event : Event} (quiet : event.call? = none) (within : event.Within allowed) :
    CallsOnly network allowed (Operation.record event) :=
  fun _ => .single (.note quiet within)

theorem log (level : Level) (component : Component) (message : String) :
    CallsOnly network allowed (Operation.log level component message) :=
  record rfl (Event.within_of_silent rfl id)

/-- Pages are read where the paged search may be made. -/
theorem page {connection : Connection} {query : Query} {size : Int}
    (may : allowed (.pagedSearch connection query size)) (search : Nat) (step : PageStep) :
    CallsOnly network allowed (Operation.record (.page search step)) :=
  record rfl ⟨fun _ made => (nomatch made), fun _ => ⟨connection, query, size, may⟩⟩

theorem perform {call : Call} (may : allowed call) :
    CallsOnly network allowed (Operation.perform call) :=
  fun _ => .single (.call may)

end Keeps

end Operation

end DirectoryAuth
