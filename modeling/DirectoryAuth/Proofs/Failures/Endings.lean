import DirectoryAuth.Proofs.Run
import DirectoryAuth.Search

/-!
# How operations end

The services that the library calls tell with which faults their calls may end: the directory client
with faults of its own, the ticket service with refusals. As long as no call ends with any other
fault, an operation ends with a value or with a failure of the kinds that it is known for. There
are two calls whose faults nothing translates, the making of a connection and the beginning of a
paged search; these faults escape every operation.
-/

namespace DirectoryAuth

/-! ## Faults that callers are told of -/

def Fault.isTicket : Fault → Bool
  | .ticket _ _ => true
  | _ => false

/-- May a call end with a fault, by what its service tells? -/
def Call.mayReport (call : Call) (fault : Fault) : Bool :=
  match call with
  | .prepareTicket _ | .acquireTicket _ _ => fault.isTicket
  | .connect _ | .openSocket _ | .startTls _ | .bind _ | .unbind _ | .search _ _
  | .pagedSearch _ _ _ => fault.isDirectory
  | _ => true

/-- The directory client fails with faults of its own. -/
theorem Call.mayReport_of_client {call : Call} (client : call.connection?.isSome = true)
    (fault : Fault) : call.mayReport fault = fault.isDirectory := by
  cases call with
  | connect | openSocket | startTls | bind | unbind | search | pagedSearch => rfl
  | _ => cases client

/-- Is the fault in an event, if there is one, such as callers are told of? A paged answer may also
end with a fault. -/
def Event.isTold : Event → Bool
  | .exchange call (.error fault) => call.mayReport fault
  | .exchange (.pagedSearch _ _ _) (.ok reply) => reply.fault.all (·.isDirectory)
  | _ => true

/-- The faults of a call become failures as they are. -/
def Call.IsUntranslated : Call → Prop
  | .connect _ | .pagedSearch _ _ _ => True
  | _ => False

namespace World

variable {σ : Type} {before middle after : World σ}

/-- Every fault between two worlds is such as callers are told of. -/
def AsTold (before after : World σ) : Prop :=
  ∀ event, Happened event before after → event.isTold = true

theorem AsTold.start (told : AsTold before after) (later : middle.history <+: after.history) :
    AsTold before middle :=
  fun event happened => told event (happened.upTo later)

theorem AsTold.rest (told : AsTold before after) (earlier : before.history <+: middle.history) :
    AsTold middle after :=
  fun event happened => told event (happened.since earlier)

theorem AsTold.of_history (told : after.history.all Event.isTold = true) :
    AsTold before after := by
  rintro event ⟨events, history, member⟩
  rw [history, List.all_append] at told
  exact List.all_eq_true.mp (Bool.and_eq_true_iff.mp told).2 event member

def Escaped (before after : World σ) (failure : Failure) : Prop :=
  ∃ call fault, call.IsUntranslated ∧
    Happened (.exchange call (.error fault)) before after ∧ failure = .outside fault

theorem Escaped.since {failure : Failure} (escaped : Escaped middle after failure)
    (earlier : before.history <+: middle.history) : Escaped before after failure := by
  obtain ⟨call, fault, untranslated, happened, same⟩ := escaped
  exact ⟨call, fault, untranslated, happened.since earlier, same⟩

theorem Escaped.upTo {failure : Failure} (escaped : Escaped before middle failure)
    (later : middle.history <+: after.history) : Escaped before after failure := by
  obtain ⟨call, fault, untranslated, happened, same⟩ := escaped
  exact ⟨call, fault, untranslated, happened.upTo later, same⟩

end World

/-! ## Operations that end as they are known to -/

open World

namespace Operation

variable {σ α β : Type}

/-- As long as every fault is such as callers are told of, each failure of the operation is of a
kind, or it is a fault that escaped. -/
structure EndsIn (network : Network σ) (kind : Failure → Prop) (x : Operation σ α) : Prop where
  grows : ∀ world, world.history <+: (x.run network world).2.history
  fails : ∀ world, AsTold world (x.run network world).2 →
    ∀ failure, (x.run network world).1 = .error failure →
      kind failure ∨ Escaped world (x.run network world).2 failure

def never : Failure → Prop := fun _ => False

/-- What may still come of a failure that was attempted. If it is one of those that were `met`, it
is made into some other; otherwise it may be passed on. -/
def PassedOr (met kind : Failure → Prop) (failure : Failure) : Failure → Prop :=
  fun ending => kind ending ∨ ending = failure ∧ ¬ met failure

namespace EndsIn

variable {network : Network σ} {kind wider met : Failure → Prop} {x : Operation σ α}

/-! ### Known runs -/

theorem grows_of_run (hx : EndsIn network kind x) {world after : World σ}
    {outcome : Except Failure α} (ran : x.run network world = (outcome, after)) :
    world.history <+: after.history := by
  have grows := hx.grows world
  rw [ran] at grows
  exact grows

theorem fails_of_run (hx : EndsIn network kind x) {world after : World σ} {failure : Failure}
    (ran : x.run network world = (.error failure, after)) (told : AsTold world after) :
    kind failure ∨ Escaped world after failure := by
  have fails := hx.fails world
  rw [ran] at fails
  exact fails told failure rfl

/-! ### Rules -/

theorem widen (hx : EndsIn network kind x) (more : ∀ failure, kind failure → wider failure) :
    EndsIn network wider x := by
  refine ⟨hx.grows, fun world told failure failed => ?_⟩
  exact (hx.fails world told failure failed).imp_left (more failure)

theorem pure (a : α) : EndsIn network kind (Pure.pure a : Operation σ α) :=
  ⟨fun _ => List.prefix_refl _, fun _ _ _ failed => nomatch failed⟩

theorem throw {failure : Failure} (known : kind failure) :
    EndsIn network kind (MonadExcept.throw failure : Operation σ α) := by
  refine ⟨fun _ => List.prefix_refl _, fun world _ other failed => ?_⟩
  cases failed
  exact .inl known

theorem ofOutcome {outcome : Except Failure α}
    (known : ∀ failure, outcome = .error failure → kind failure) :
    EndsIn network kind (Operation.ofOutcome outcome) :=
  ⟨fun _ => List.prefix_refl _, fun _ _ failure failed => .inl (known failure failed)⟩

/-- A failure that nobody met is passed on. -/
theorem pass {failure : Failure} (passed : met failure → kind failure) :
    EndsIn network (PassedOr met kind failure) (MonadExcept.throw failure : Operation σ α) := by
  apply throw
  by_cases known : met failure
  · exact .inl (passed known)
  · exact .inr ⟨rfl, known⟩

/-- What cannot fail and leaves the history as it is. -/
theorem silent {value : World σ → α} {next : World σ → World σ}
    (ran : ∀ world, x.run network world = (.ok (value world), next world))
    (quiet : ∀ world, (next world).history = world.history) : EndsIn network kind x := by
  constructor
  · intro world
    rw [ran]
    exact (List.prefix_refl _).trans (quiet world ▸ List.prefix_refl _)
  · intro world _ failure failed
    rw [ran] at failed
    cases failed

theorem record (event : Event) : EndsIn network kind (Operation.record event) :=
  ⟨fun _ => List.prefix_append _ _, fun _ _ _ failed => nomatch failed⟩

theorem log (level : Level) (component : Component) (message : String) :
    EndsIn network kind (Operation.log level component message) :=
  record _

theorem bind {f : α → Operation σ β} (hx : EndsIn network kind x)
    (hf : ∀ a, EndsIn network kind (f a)) : EndsIn network kind (x >>= f) := by
  constructor
  · intro world
    have first := hx.grows world
    rcases ran : x.run network world with ⟨outcome, next⟩
    rw [ran] at first
    cases outcome with
    | error failure =>
      rw [run_bind_of_error ran]
      exact first
    | ok a =>
      rw [run_bind_of_ok ran]
      exact first.trans ((hf a).grows next)
  · intro world told failure failed
    rcases ran : x.run network world with ⟨outcome, next⟩
    cases outcome with
    | error other =>
      rw [run_bind_of_error ran] at told failed ⊢
      cases failed
      exact hx.fails_of_run ran told
    | ok a =>
      rw [run_bind_of_ok ran] at told failed ⊢
      have here := hx.grows_of_run ran
      exact ((hf a).fails next (told.rest here) failure failed).imp_right (·.since here)

/-- An operation that is attempted: what it is known to fail with is met, all else escaped. -/
theorem attempt_bind {f : Except Failure α → Operation σ β} (hx : EndsIn network met x)
    (ok : ∀ a, EndsIn network kind (f (.ok a)))
    (failed : ∀ failure, EndsIn network (PassedOr met kind failure) (f (.error failure))) :
    EndsIn network kind (x.attempt >>= f) := by
  constructor
  · intro world
    have first := hx.grows world
    rw [run_attempt_bind]
    cases (x.run network world).1 with
    | ok a => exact first.trans ((ok a).grows _)
    | error failure => exact first.trans ((failed failure).grows _)
  · intro world told ending ended
    rw [run_attempt_bind] at told ended ⊢
    rcases ran : x.run network world with ⟨outcome, next⟩
    rw [ran] at told ended
    have first := hx.grows_of_run ran
    cases outcome with
    | ok a => exact ((ok a).fails next (told.rest first) ending ended).imp_right (·.since first)
    | error failure =>
      have last := (failed failure).grows next
      rcases (failed failure).fails next (told.rest first) ending ended with
        (known | ⟨rfl, unmet⟩) | escaped
      · exact .inl known
      · have escaped := (hx.fails_of_run ran (told.start last)).resolve_left unmet
        exact .inr (escaped.upTo last)
      · exact .inr (escaped.since first)

theorem ite {condition : Prop} [Decidable condition] {x y : Operation σ α}
    (hx : EndsIn network kind x) (hy : EndsIn network kind y) :
    EndsIn network kind (if condition then x else y) := by
  split
  · exact hx
  · exact hy

theorem mapM {f : α → Operation σ β} {items : List α} (hf : ∀ a, EndsIn network kind (f a)) :
    EndsIn network kind (items.mapM f) := by
  induction items with
  | nil => exact pure _
  | cons a rest ih =>
    rw [List.mapM_cons]
    exact bind (hf a) fun _ => bind ih fun _ => pure _

theorem andFinally {last : Operation σ Unit} (hx : EndsIn network kind x)
    (hlast : EndsIn network never last) : EndsIn network kind (x.andFinally last) := by
  refine attempt_bind hx ?_ ?_
  · intro a
    exact bind (hlast.widen fun _ => False.elim) fun _ => ofOutcome fun _ failed => nomatch failed
  · intro failure
    refine bind (hlast.widen fun _ => False.elim) fun _ => ?_
    exact pass id

/-! ### Calls -/

theorem called_of_answer {call : Call} {world : World σ} {fault : Fault}
    (answered : (network.answer call world.network).1 = .error fault) :
    Happened (.exchange call (.error fault)) world (world.called network call) := by
  refine ⟨[.exchange call (.error fault)], ?_, List.mem_singleton_self _⟩
  simp only [World.called, answered]

/-- The faults of a call that nothing translates escape. -/
theorem perform {call : Call} (untranslated : call.IsUntranslated) :
    EndsIn network kind (Operation.perform call) := by
  refine ⟨fun _ => List.prefix_append _ _, fun world _ failure failed => .inr ?_⟩
  rw [run_perform] at failed ⊢
  cases answered : (network.answer call world.network).1 with
  | ok reply =>
    rw [answered] at failed
    cases failed
  | error fault =>
    rw [answered] at failed
    cases failed
    exact ⟨call, fault, untranslated, called_of_answer answered, rfl⟩

/-- A call that is attempted: it fails only with a fault that its service tells of. -/
theorem perform_bind {call : Call} {f : Except Failure call.Reply → Operation σ β}
    (ok : ∀ reply, EndsIn network kind (f (.ok reply)))
    (failed : ∀ failure, EndsIn network
      (fun ending => (∃ fault, call.mayReport fault ∧ failure = .outside fault) → kind ending)
      (f (.error failure))) :
    EndsIn network kind ((Operation.perform call).attempt >>= f) := by
  have first : ∀ world : World σ, world.history <+: (world.called network call).history :=
    fun _ => List.prefix_append _ _
  constructor
  · intro world
    rw [run_attempt_bind, run_perform]
    cases (network.answer call world.network).1 with
    | ok reply => exact (first world).trans ((ok reply).grows _)
    | error fault => exact (first world).trans ((failed (.outside fault)).grows _)
  · intro world told ending ended
    rw [run_attempt_bind, run_perform] at told ended ⊢
    cases answered : (network.answer call world.network).1 with
    | ok reply =>
      rw [answered] at told ended
      exact ((ok reply).fails _ (told.rest (first world)) ending ended).imp_right
        (·.since (first world))
    | error fault =>
      rw [answered] at told ended
      have last := (failed (.outside fault)).grows (world.called network call)
      have may : call.mayReport fault = true :=
        told (.exchange call (.error fault)) ((called_of_answer answered).upTo last)
      rcases (failed (.outside fault)).fails _ (told.rest (first world)) ending ended with
        known | escaped
      · exact .inl (known ⟨fault, may, rfl⟩)
      · exact .inr (escaped.since (first world))

/-- A call to the directory client fails with a translated fault. -/
theorem perform_translating {call : Call} (client : call.connection?.isSome = true)
    {translate : Fault → Failure} (known : ∀ fault, kind (translate fault)) :
    EndsIn network kind ((Operation.perform call).translating translate) := by
  refine perform_bind (fun _ => pure _) fun failure => ?_
  cases failure with
  | outside fault =>
    refine throw ?_
    rintro ⟨_, may, same⟩
    cases same
    rw [Call.mayReport_of_client client] at may
    rw [if_pos may]
    exact known fault
  | _ => exact throw fun ⟨_, _, same⟩ => nomatch same

end EndsIn

end Operation

end DirectoryAuth
