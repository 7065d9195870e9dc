import DirectoryAuth.Proofs.Secrecy.Masks

/-!
# Pairs of runs

Two operations are run side by side, in worlds that differ in secrets only, and what they ask for
is answered alike. The operations are alike where the two runs then come to outcomes that look the
same in some view, and to worlds that again differ in secrets only. One rule for each way to compose
operations carries this over from the parts to the whole.
-/

namespace DirectoryAuth

variable {σ α β γ δ : Type} {network : Network σ}

/-- The worlds differ in the secrets of their histories only; what the network is like in each of
them is left open. -/
structure World.Alike (world world' : World σ) : Prop where
  history : world.history.map Event.masked = world'.history.map Event.masked
  closed : world.closed = world'.closed
  connections : world.connections = world'.connections
  pagedSearches : world.pagedSearches = world'.pagedSearches

theorem World.Alike.length_eq {world world' : World σ} (alike : world.Alike world') :
    world.history.length = world'.history.length := by
  have same := congrArg List.length alike.history
  rwa [List.length_map, List.length_map] at same

/-- The records of worlds that are alike are the same. -/
theorem World.Alike.records_eq {world world' : World σ} (alike : world.Alike world') :
    world.records = world'.records := by
  have told : Event.record? ∘ Event.masked = Event.record? := funext Event.record?_masked
  have same := congrArg (List.filterMap Event.record?) alike.history
  rwa [List.filterMap_map, List.filterMap_map, told] at same

/-- The network has one bound on the members of a resolution, whatever calls it answers in either
of two states. -/
def Network.SameBounds (network : Network σ) (state state' : σ) : Prop :=
  ∀ later later', network.Later (fun _ => True) state later →
    network.Later (fun _ => True) state' later' → network.bound later = network.bound later'

theorem Network.SameBounds.after {allowed allowed' : Call → Prop} {a a' b b' : World σ}
    (bounds : network.SameBounds a.network a'.network)
    (steps : World.Steps network allowed a b) (steps' : World.Steps network allowed' a' b') :
    network.SameBounds b.network b'.network := by
  intro later later' reached reached'
  have whole := (steps.mono fun _ _ => trivial).later.trans reached
  have whole' := (steps'.mono fun _ _ => trivial).later.trans reached'
  exact bounds later later' whole whole'

/-- Outcomes with the same view are values with the same view, or one failure. -/
theorem outcomes_alike {ε : Type} {view : α → β} {outcome outcome' : Except ε α}
    (same : outcome.map view = outcome'.map view) :
    (∃ a a', outcome = .ok a ∧ outcome' = .ok a' ∧ view a = view a') ∨
      ∃ failure, outcome = .error failure ∧ outcome' = .error failure := by
  cases outcome with
  | ok a =>
    cases outcome' with
    | ok a' => exact .inl ⟨a, a', rfl, rfl, Except.ok.inj same⟩
    | error failure' => cases same
  | error failure =>
    cases outcome' with
    | ok a' => cases same
    | error failure' => exact .inr ⟨failure, rfl, by rw [Except.error.inj same]⟩

namespace Operation

/-- Runs of the operations in worlds that are alike, with the same answers, come to outcomes with
the same view and to worlds that are alike. -/
structure Alike (network : Network σ) (view : α → β) (x x' : Operation σ α) : Prop where
  calls : CallsOnly network (fun _ => True) x
  calls' : CallsOnly network (fun _ => True) x'
  runs : ∀ world world', world.Alike world' →
    network.SameBounds world.network world'.network →
    SameAnswers (x.run network world).2.history (x'.run network world').2.history →
    (x.run network world).1.map view = (x'.run network world').1.map view ∧
      (x.run network world).2.Alike (x'.run network world').2

namespace Alike

variable {view : α → γ} {look : β → γ}

/-! ## Single steps -/

theorem ofOutcome {outcome outcome' : Except Failure α}
    (same : outcome.map view = outcome'.map view) :
    Alike network view (Operation.ofOutcome outcome) (Operation.ofOutcome outcome') where
  calls := .ofOutcome _
  calls' := .ofOutcome _
  runs _ _ alike _ _ := ⟨same, alike⟩

theorem pure {a a' : α} (same : view a = view a') :
    Alike network view (Pure.pure a : Operation σ α) (Pure.pure a') :=
  ofOutcome (congrArg Except.ok same)

theorem throw (failure : Failure) :
    Alike network view (MonadExcept.throw failure : Operation σ α) (MonadExcept.throw failure) :=
  ofOutcome rfl

/-- The same event that is no call, noted in both runs. -/
theorem record {event : Event} (quiet : event.call? = none) :
    Alike network id (Operation.record event) (Operation.record event) where
  calls := .record quiet .anywhere
  calls' := .record quiet .anywhere
  runs world world' alike _ _ := by
    refine ⟨rfl, ?_, alike.closed, alike.connections, alike.pagedSearches⟩
    simp only [run_record, World.noted, List.map_append, alike.history]

theorem log (level : Level) (component : Component) (message : String) :
    Alike network id (Operation.log level component message)
      (Operation.log level component message) :=
  record rfl

/-- The outcome of a call, seen as one of a call with the same kind of reply. -/
theorem run_perform_cast {call call' : Call} (reply : call'.Reply = call.Reply)
    (world : World σ) :
    (reply ▸ perform call' : Operation σ call.Reply).run network world =
      (reply ▸ (network.answer call' world.network).1.mapError Failure.outside,
        world.called network call') := by
  generalize call.Reply = other at reply
  subst reply
  rfl

/-- The same answer ends two calls alike. -/
theorem outcome_cast {ρ ρ' : Type} (reply : ρ' = ρ) {answer : Except Fault ρ}
    {answer' : Except Fault ρ'} (answered : HEq answer answer') :
    answer.mapError Failure.outside = reply ▸ answer'.mapError Failure.outside := by
  subst reply
  rw [eq_of_heq answered]

/-- The same call but for its secrets, made in both runs. -/
theorem perform (call call' : Call) (same : call.masked = call'.masked)
    (reply : call'.Reply = call.Reply) :
    Alike network id (Operation.perform call) (reply ▸ Operation.perform call') where
  calls := .perform trivial
  calls' world := by
    rw [run_perform_cast]
    exact .single (.call trivial)
  runs world world' alike _ answers := by
    rw [run_perform_cast, run_perform] at answers ⊢
    -- The histories before the call are of one length, so the answers stand at the same place.
    have here := List.getElem?_concat_length (l := world'.history)
      (a := .exchange call' (network.answer call' world'.network).1)
    rw [← alike.length_eq] at here
    have answered := answers world.history.length call call' _ _ List.getElem?_concat_length here
      same
    refine ⟨?_, ?_, alike.closed, alike.connections, alike.pagedSearches⟩
    · exact congrArg (Except.map id) (outcome_cast reply answered)
    · simp only [World.called, List.map_append, alike.history, List.map_cons, List.map_nil,
        Event.masked_exchange same answered]

/-- The same call without secrets, made in both runs. -/
theorem perform_same (call : Call) :
    Alike network id (Operation.perform call) (Operation.perform call) :=
  perform call call rfl rfl

/-! ## Composition -/

/-- The second parts need to be alike on values with the same view only. -/
theorem bind {x x' : Operation σ α} {f f' : α → Operation σ β} {view : α → δ}
    (hx : Alike network view x x')
    (hf : ∀ a a', view a = view a' → Alike network look (f a) (f' a')) :
    Alike network look (x >>= f) (x' >>= f') where
  calls := .bind hx.calls fun a => (hf a a rfl).calls
  calls' := .bind hx.calls' fun a => (hf a a rfl).calls'
  runs world world' alike bounds answers := by
    have steps := hx.calls world
    have steps' := hx.calls' world'
    -- What the first parts did is the beginning of the whole histories.
    have first : SameAnswers (x.run network world).2.history (x'.run network world').2.history :=
      answers.of_prefix
        (run_bind_grows fun a next => ((hf a a rfl).calls next).history_grows)
        (run_bind_grows fun a next => ((hf a a rfl).calls' next).history_grows)
    obtain ⟨same, alike⟩ := hx.runs world world' alike bounds first
    rcases ran : x.run network world with ⟨outcome, next⟩
    rcases ran' : x'.run network world' with ⟨outcome', next'⟩
    rw [ran] at steps same alike
    rw [ran'] at steps' same alike
    rcases outcomes_alike same with ⟨a, a', rfl, rfl, values⟩ | ⟨failure, rfl, rfl⟩
    · rw [run_bind_of_ok ran, run_bind_of_ok ran'] at answers ⊢
      exact (hf a a' values).runs next next' alike (bounds.after steps steps') answers
    · rw [run_bind_of_error ran, run_bind_of_error ran']
      exact ⟨rfl, alike⟩

/-- Where the first parts come to the same value, the second parts need to be alike on it only. -/
theorem bind_same {x x' : Operation σ α} {f f' : α → Operation σ β} (hx : Alike network id x x')
    (hf : ∀ a, Alike network look (f a) (f' a)) : Alike network look (x >>= f) (x' >>= f') :=
  hx.bind fun a a' same => (show a = a' from same) ▸ hf a

/-- The same record is written first in both runs. -/
theorem logged {x x' : Operation σ α} {level : Level} {component : Component} {message : String}
    (hx : Alike network view x x') :
    Alike network view (do Operation.log level component message; x)
      (do Operation.log level component message; x') :=
  (log level component message).bind_same fun _ => hx

theorem attempt {x x' : Operation σ α} (hx : Alike network view x x') :
    Alike network (Except.map view) x.attempt x'.attempt where
  calls := .attempt hx.calls
  calls' := .attempt hx.calls'
  runs world world' alike bounds answers := by
    obtain ⟨same, alike⟩ := hx.runs world world' alike bounds answers
    exact ⟨congrArg Except.ok same, alike⟩

/-- Attempts end with values of the same view, or with the same failure. -/
theorem attempt_bind {x x' : Operation σ α} {f f' : Except Failure α → Operation σ β}
    {view : α → δ} (hx : Alike network view x x')
    (hok : ∀ a a', view a = view a' → Alike network look (f (.ok a)) (f' (.ok a')))
    (herror : ∀ failure, Alike network look (f (.error failure)) (f' (.error failure))) :
    Alike network look (x.attempt >>= f) (x'.attempt >>= f') := by
  refine hx.attempt.bind fun outcome outcome' same => ?_
  rcases outcomes_alike same with ⟨a, a', rfl, rfl, values⟩ | ⟨failure, rfl, rfl⟩
  · exact hok a a' values
  · exact herror failure

theorem attempt_bind_same {x x' : Operation σ α} {f f' : Except Failure α → Operation σ β}
    (hx : Alike network id x x') (hf : ∀ outcome, Alike network look (f outcome) (f' outcome)) :
    Alike network look (x.attempt >>= f) (x'.attempt >>= f') :=
  hx.attempt_bind (fun a a' same => (show a = a' from same) ▸ hf (.ok a))
    fun failure => hf (.error failure)

theorem andFinally {x x' : Operation σ α} {last last' : Operation σ Unit}
    (hx : Alike network view x x') (hlast : Alike network id last last') :
    Alike network view (x.andFinally last) (x'.andFinally last') :=
  hx.attempt.bind fun _ _ same => hlast.bind fun _ _ _ => ofOutcome same

theorem translating {x x' : Operation σ α} (hx : Alike network view x x')
    (translate : Fault → Failure) :
    Alike network view (x.translating translate) (x'.translating translate) := by
  refine hx.attempt_bind (fun a a' same => pure same) fun failure => ?_
  cases failure <;> exact throw _

theorem ite {condition : Prop} [Decidable condition] {x x' y y' : Operation σ α}
    (hx : Alike network view x x') (hy : Alike network view y y') :
    Alike network view (if condition then x else y) (if condition then x' else y') := by
  split
  · exact hx
  · exact hy

/-! ## Lists -/

variable {items items' : List α} {view : α → δ}

theorem mapM {f f' : α → Operation σ β} (same : items.map view = items'.map view)
    (hf : ∀ a a', view a = view a' → Alike network look (f a) (f' a')) :
    Alike network (List.map look) (items.mapM f) (items'.mapM f') := by
  induction items generalizing items' with
  | nil =>
    rw [List.map_eq_nil_iff.mp same.symm]
    exact pure rfl
  | cons a rest ih =>
    obtain ⟨a', rest', rfl, one, others⟩ := List.map_eq_cons_iff.mp same.symm
    rw [List.mapM_cons, List.mapM_cons]
    refine (hf a a' one.symm).bind fun b b' here => ?_
    refine (ih others.symm).bind fun bs bs' there => ?_
    exact pure (by rw [List.map_cons, List.map_cons, here, there])

theorem forM {f f' : α → Operation σ PUnit} (same : items.map view = items'.map view)
    (hf : ∀ a a', view a = view a' → Alike network id (f a) (f' a')) :
    Alike network id (items.forM f) (items'.forM f') := by
  induction items generalizing items' with
  | nil =>
    rw [List.map_eq_nil_iff.mp same.symm]
    exact pure rfl
  | cons a rest ih =>
    obtain ⟨a', rest', rfl, one, others⟩ := List.map_eq_cons_iff.mp same.symm
    exact (hf a a' one.symm).bind_same fun _ => ih others.symm

/-- Over the same list, the parts are alike as a whole where each two of them are. -/
theorem mapM_same {f f' : α → Operation σ β} (hf : ∀ a, Alike network look (f a) (f' a)) :
    Alike network (List.map look) (items.mapM f) (items.mapM f') :=
  mapM (congrArg (List.map id) rfl) fun a a' same => (show a = a' from same) ▸ hf a

theorem forM_same {f f' : α → Operation σ PUnit} (hf : ∀ a, Alike network id (f a) (f' a)) :
    Alike network id (items.forM f) (items.forM f') :=
  forM (congrArg (List.map id) rfl) fun a a' same => (show a = a' from same) ▸ hf a

end Alike

end Operation

end DirectoryAuth
