import DirectoryAuth.Network.Operation

/-!
# Runs of operations

How the run of an operation follows from the runs of its parts. An operation that is through has an
outcome and a world; both are determined by the network and the world before it. What a composed
operation did before it gave its value is read off by the lemmas on outcomes that are values.
-/

namespace DirectoryAuth

namespace World

variable {σ : Type}

def noted (world : World σ) (event : Event) : World σ :=
  { world with history := world.history ++ [event] }

def called (world : World σ) (network : Network σ) (call : Call) : World σ :=
  let (answer, state) := network.answer call world.network
  { world with
    network := state
    history := world.history ++ [.exchange call answer]
    latest := call.leaving world.latest answer }

def Happened (event : Event) (before after : World σ) : Prop :=
  ∃ events, after.history = before.history ++ events ∧ event ∈ events

namespace Happened

variable {event : Event} {a b c : World σ}

theorem since (earlier : a.history <+: b.history) (happened : Happened event b c) :
    Happened event a c := by
  obtain ⟨front, before⟩ := earlier
  obtain ⟨events, history, member⟩ := happened
  refine ⟨front ++ events, ?_, List.mem_append_right _ member⟩
  rw [history, ← before, List.append_assoc]

theorem upTo (happened : Happened event a b) (later : b.history <+: c.history) :
    Happened event a c := by
  obtain ⟨back, after⟩ := later
  obtain ⟨events, history, member⟩ := happened
  refine ⟨events ++ back, ?_, List.mem_append_left _ member⟩
  rw [← after, history, List.append_assoc]

/-- What happened on the way happened before some point on it or after that. -/
theorem split (happened : Happened event a c) (first : a.history <+: b.history)
    (second : b.history <+: c.history) : Happened event a b ∨ Happened event b c := by
  obtain ⟨front, before⟩ := first
  obtain ⟨back, after⟩ := second
  obtain ⟨events, history, member⟩ := happened
  have whole : a.history ++ events = a.history ++ (front ++ back) := by
    rw [← history, ← after, ← before, List.append_assoc]
  have same : events = front ++ back := List.append_cancel_left whole
  rcases List.mem_append.mp (same ▸ member) with early | late
  · exact .inl ⟨front, before.symm, early⟩
  · exact .inr ⟨back, after.symm, late⟩

end Happened

end World

namespace Operation

variable {σ α β : Type} {network : Network σ} {world after : World σ}

/-! ## Single steps -/

@[simp] theorem run_pure (a : α) : (pure a : Operation σ α).run network world = (.ok a, world) :=
  rfl

@[simp] theorem run_throw (failure : Failure) :
    (throw failure : Operation σ α).run network world = (.error failure, world) := rfl

@[simp] theorem run_ofOutcome (outcome : Except Failure α) :
    (ofOutcome outcome : Operation σ α).run network world = (outcome, world) := rfl

@[simp] theorem run_record (event : Event) :
    (record event).run network world = (.ok (), world.noted event) := rfl

@[simp] theorem run_log (level : Level) (component : Component) (message : String) :
    (log level component message).run network world =
      (.ok (), world.noted (.logged ⟨level, component, message⟩)) := rfl

@[simp] theorem run_perform (call : Call) :
    (perform call).run network world =
      ((network.answer call world.network).1.mapError .outside, world.called network call) := rfl

@[simp] theorem run_attempt (operation : Operation σ α) :
    operation.attempt.run network world =
      (.ok (operation.run network world).1, (operation.run network world).2) := rfl

/-- A call that gave a reply adds to the history that it did. -/
theorem perform_history {call : Call} {reply : call.Reply}
    (h : (perform call).run network world = (.ok reply, after)) :
    after.history = world.history ++ [.exchange call (.ok reply)] := by
  rw [run_perform] at h
  cases answered : (network.answer call world.network).1 with
  | error fault =>
    rw [answered] at h
    cases h
  | ok given =>
    rw [answered] at h
    cases h
    simp only [World.called, answered]

/-- A call that gave a reply is in the history with it. -/
theorem perform_eq_ok {call : Call} {reply : call.Reply}
    (h : (perform call).run network world = (.ok reply, after)) :
    World.Happened (.exchange call (.ok reply)) world after :=
  ⟨_, perform_history h, List.mem_singleton_self _⟩

/-- An outcome is known where its value is; of failures nothing needs to be compared. -/
theorem eq_ok_of_toOption {ε : Type} {outcome : Except ε α} {a : α}
    (h : outcome.toOption = some a) : outcome = .ok a := by
  cases outcome with
  | ok b => exact congrArg Except.ok (Option.some.inj h)
  | error failure => cases h

def failure? : Except Failure α → Option Failure
  | .ok _ => none
  | .error failure => some failure

theorem eq_error_of_failure? {outcome : Except Failure α} {failure : Failure}
    (h : failure? outcome = some failure) : outcome = .error failure := by
  cases outcome with
  | ok a => cases h
  | error other => exact congrArg Except.error (Option.some.inj h)

theorem run_eq_of_toOption {x : Operation σ α} {a : α}
    (h : (x.run network world).1.toOption = some a) :
    x.run network world = (.ok a, (x.run network world).2) :=
  Prod.ext (eq_ok_of_toOption h) rfl

/-! ## Composition -/

theorem run_bind (x : Operation σ α) (f : α → Operation σ β) :
    (x >>= f).run network world =
      match x.run network world with
      | (.ok a, next) => (f a).run network next
      | (.error failure, next) => (.error failure, next) := by
  change ExceptT.bindCont (fun a => f a network) (x network world).1 (x network world).2 = _
  change _ = match x network world with | (.ok a, next) => _ | (.error failure, next) => _
  rcases x network world with ⟨outcome, next⟩
  cases outcome with
  | ok a => rfl
  | error failure => rfl

theorem run_bind_of_ok {x : Operation σ α} {f : α → Operation σ β} {a : α} {next : World σ}
    (first : x.run network world = (.ok a, next)) :
    (x >>= f).run network world = (f a).run network next := by
  rw [run_bind, first]

theorem run_bind_of_error {x : Operation σ α} {f : α → Operation σ β} {failure : Failure}
    {next : World σ} (first : x.run network world = (.error failure, next)) :
    (x >>= f).run network world = (.error failure, next) := by
  rw [run_bind, first]

/-- Something is made of the value at the end. -/
theorem run_bind_pure (x : Operation σ α) (f : α → β) :
    (x >>= fun a => pure (f a)).run network world =
      ((x.run network world).1.map f, (x.run network world).2) := by
  rw [run_bind]
  rcases x.run network world with ⟨outcome, next⟩
  cases outcome with
  | ok a => rfl
  | error failure => rfl

/-- Where the second part only adds to a history, so does all of it to that of the first part. -/
theorem run_bind_grows {x : Operation σ α} {f : α → Operation σ β}
    (rest : ∀ a next, next.history <+: ((f a).run network next).2.history) :
    (x.run network world).2.history <+: ((x >>= f).run network world).2.history := by
  rw [run_bind]
  rcases x.run network world with ⟨outcome, next⟩
  cases outcome with
  | ok a => exact rest a next
  | error failure => exact List.prefix_refl _

/-- A composed operation that gave a value had a value from its first part. -/
theorem run_bind_eq_ok {x : Operation σ α} {f : α → Operation σ β} {b : β}
    (h : (x >>= f).run network world = (.ok b, after)) :
    ∃ a next, x.run network world = (.ok a, next) ∧ (f a).run network next = (.ok b, after) := by
  rw [run_bind] at h
  rcases hx : x.run network world with ⟨outcome, next⟩
  rw [hx] at h
  cases outcome with
  | ok a => exact ⟨a, next, rfl, h⟩
  | error failure => cases h

/-- A composed operation failed in its first part, or went on with the value of that. -/
theorem run_bind_cases {x : Operation σ α} {f : α → Operation σ β} {outcome : Except Failure β}
    (h : (x >>= f).run network world = (outcome, after)) :
    (∃ failure, x.run network world = (.error failure, after) ∧ outcome = .error failure) ∨
      ∃ a next, x.run network world = (.ok a, next) ∧
        (f a).run network next = (outcome, after) := by
  rcases hx : x.run network world with ⟨first, next⟩
  cases first with
  | ok a =>
    rw [run_bind_of_ok hx] at h
    exact .inr ⟨a, next, rfl, h⟩
  | error failure =>
    rw [run_bind_of_error hx] at h
    cases h
    exact .inl ⟨failure, rfl, rfl⟩

/-- What each single result shows, the results of a whole list show in order. -/
theorem run_mapM_eq_ok {γ : Type} {f : α → Operation σ β} {shown : β → γ} {image : α → γ}
    (each : ∀ a b before next, (f a).run network before = (.ok b, next) → shown b = image a)
    {items : List α} {results : List β}
    (h : (items.mapM f).run network world = (.ok results, after)) :
    results.map shown = items.map image := by
  induction items generalizing results world with
  | nil =>
    cases h
    rfl
  | cons a rest ih =>
    rw [List.mapM_cons] at h
    obtain ⟨b, next, first, h⟩ := run_bind_eq_ok h
    obtain ⟨others, last, there, h⟩ := run_bind_eq_ok h
    cases h
    rw [List.map_cons, List.map_cons, each _ _ _ _ first, ih there]

/-- Where the first part is only attempted, the second part always runs. -/
theorem run_attempt_bind (x : Operation σ α) (f : Except Failure α → Operation σ β) :
    (x.attempt >>= f).run network world =
      (f (x.run network world).1).run network (x.run network world).2 :=
  run_bind_of_ok (run_attempt x)

/-- What ends with the outcome of an attempt might as well not have attempted it. -/
theorem run_attempt_ofOutcome (x : Operation σ α) (f : α → Operation σ β) :
    (x.attempt >>= fun outcome => ofOutcome outcome >>= f).run network world =
      (x >>= f).run network world := by
  rw [run_attempt_bind]
  rcases ran : x.run network world with ⟨outcome, next⟩
  cases outcome with
  | ok a =>
    rw [run_bind_of_ok ran]
    rfl
  | error failure =>
    rw [run_bind_of_error ran]
    rfl

theorem run_andFinally (x : Operation σ α) (last : Operation σ Unit) :
    (x.andFinally last).run network world =
      match last.run network (x.run network world).2 with
      | (.ok (), next) => ((x.run network world).1, next)
      | (.error failure, next) => (.error failure, next) := by
  rw [andFinally, run_attempt_bind, run_bind]
  rcases last.run network (x.run network world).2 with ⟨outcome, next⟩
  cases outcome with
  | ok a => rfl
  | error failure => rfl

/-- What comes last has a say in the outcome only where it fails. -/
theorem run_andFinally_bind (x : Operation σ α) (last : Operation σ Unit) :
    (x.andFinally last).run network world =
      ((last.run network (x.run network world).2).1.bind fun _ => (x.run network world).1,
        (last.run network (x.run network world).2).2) := by
  rw [run_andFinally]
  rcases last.run network (x.run network world).2 with ⟨outcome, next⟩
  cases outcome with
  | ok a => rfl
  | error failure => rfl

/-- What `translating` makes of an outcome. -/
def translated (translate : Fault → Failure) : Except Failure α → Except Failure α
  | .ok value => .ok value
  | .error (.outside fault) =>
    .error (if fault.isDirectory then translate fault else .outside fault)
  | .error failure => .error failure

theorem translated_eq_ok {translate : Fault → Failure} {outcome : Except Failure α} {a : α}
    (h : translated translate outcome = .ok a) : outcome = .ok a := by
  cases outcome with
  | ok b => exact h
  | error failure => cases failure <;> cases h

theorem run_translating (x : Operation σ α) (translate : Fault → Failure) :
    (x.translating translate).run network world =
      (translated translate (x.run network world).1, (x.run network world).2) := by
  rw [translating, run_attempt_bind]
  rcases x.run network world with ⟨outcome, next⟩
  cases outcome with
  | ok a => rfl
  | error failure => cases failure <;> rfl

end Operation

end DirectoryAuth
