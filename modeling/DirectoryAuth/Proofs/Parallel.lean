import DirectoryAuth.Proofs.Run
import Mathlib.Data.List.Forall2

/-!
# Operations side by side

Two operations run side by side, each in a world of its own and against a network of its own. The
worlds match in some way before they run. They run in parallel where they come to the same failure,
or to values that are alike, and to worlds that match again. One rule for each way to compose
operations carries this over from the parts to the whole.
-/

namespace DirectoryAuth.Operation

variable {σ τ α β γ δ : Type}

/-- Both outcomes are the same failure, or both are values that are alike. -/
def Concur (view : α → β → Prop) : Except Failure α → Except Failure β → Prop
  | .ok value, .ok other => view value other
  | .error failure, .error other => failure = other
  | _, _ => False

theorem Concur.eq {outcome other : Except Failure α} (alike : Concur Eq outcome other) :
    outcome = other := by
  cases outcome <;> cases other <;> simp_all [Concur]

theorem Concur.of_eq {outcome other : Except Failure α} (same : outcome = other) :
    Concur Eq outcome other := by
  subst same
  cases outcome with
  | ok value => rfl
  | error failure => rfl

/-- Run in worlds that match, the operations come to outcomes that are alike and to worlds that
match again. -/
def Parallel (network : Network σ) (other : Network τ) (matched : World σ → World τ → Prop)
    (view : α → β → Prop) (x : Operation σ α) (y : Operation τ β) : Prop :=
  ∀ a b, matched a b →
    Concur view (x.run network a).1 (y.run other b).1 ∧
      matched (x.run network a).2 (y.run other b).2

namespace Parallel

variable {network : Network σ} {other : Network τ} {matched : World σ → World τ → Prop}
variable {view : α → β → Prop} {look : γ → δ → Prop} {x : Operation σ α} {y : Operation τ β}

theorem ofOutcome {outcome : Except Failure α} {outcome' : Except Failure β}
    (alike : Concur view outcome outcome') :
    Parallel network other matched view (Operation.ofOutcome outcome)
      (Operation.ofOutcome outcome') :=
  fun _ _ before => ⟨alike, before⟩

theorem pure {value : α} {value' : β} (alike : view value value') :
    Parallel network other matched view (Pure.pure value) (Pure.pure value') :=
  fun _ _ before => ⟨alike, before⟩

theorem throw (failure : Failure) :
    Parallel network other matched view (MonadExcept.throw failure)
      (MonadExcept.throw failure) :=
  fun _ _ before => ⟨rfl, before⟩

theorem bind {f : α → Operation σ γ} {g : β → Operation τ δ}
    (first : Parallel network other matched view x y)
    (second : ∀ value value', view value value' →
      Parallel network other matched look (f value) (g value')) :
    Parallel network other matched look (x >>= f) (y >>= g) := by
  intro a b before
  obtain ⟨alike, between⟩ := first a b before
  rcases ran : x.run network a with ⟨outcome, c⟩
  rcases ran' : y.run other b with ⟨outcome', d⟩
  rw [ran, ran'] at alike between
  match outcome, outcome' with
  | .ok value, .ok value' =>
    rw [run_bind_of_ok ran, run_bind_of_ok ran']
    exact second value value' alike c d between
  | .error failure, .error failure' =>
    rw [run_bind_of_error ran, run_bind_of_error ran']
    exact ⟨alike, between⟩
  | .ok _, .error _ => exact alike.elim
  | .error _, .ok _ => exact alike.elim

/-- Where the first parts come to the same value, the second parts need to be alike on it only. -/
theorem bind_same {x : Operation σ α} {y : Operation τ α} {f : α → Operation σ γ}
    {g : α → Operation τ δ} (first : Parallel network other matched Eq x y)
    (second : ∀ value, Parallel network other matched look (f value) (g value)) :
    Parallel network other matched look (x >>= f) (y >>= g) :=
  first.bind fun value _ same => same ▸ second value

/-- Values that are alike in one way may be so in another one. -/
theorem mono {view' : α → β → Prop} (parallel : Parallel network other matched view x y)
    (weaker : ∀ value value', view value value' → view' value value') :
    Parallel network other matched view' x y := by
  intro a b before
  obtain ⟨alike, after⟩ := parallel a b before
  refine ⟨?_, after⟩
  revert alike
  cases (x.run network a).1 <;> cases (y.run other b).1
  · exact id
  · exact False.elim
  · exact False.elim
  · exact weaker _ _

theorem attempt (parallel : Parallel network other matched view x y) :
    Parallel network other matched (Concur view) x.attempt y.attempt :=
  fun a b before => parallel a b before

/-- Attempts end with values that are alike, or with the same failure. -/
theorem attempt_bind {f : Except Failure α → Operation σ γ} {g : Except Failure β → Operation τ δ}
    (first : Parallel network other matched view x y)
    (succeeded : ∀ value value', view value value' →
      Parallel network other matched look (f (.ok value)) (g (.ok value')))
    (failed : ∀ failure,
      Parallel network other matched look (f (.error failure)) (g (.error failure))) :
    Parallel network other matched look (x.attempt >>= f) (y.attempt >>= g) := by
  refine first.attempt.bind fun outcome outcome' alike => ?_
  match outcome, outcome' with
  | .ok value, .ok value' => exact succeeded value value' alike
  | .error failure, .error failure' =>
    cases (show failure = failure' from alike)
    exact failed failure
  | .ok _, .error _ => exact alike.elim
  | .error _, .ok _ => exact alike.elim

theorem ite {condition : Prop} [Decidable condition] {x' : Operation σ α} {y' : Operation τ β}
    (holds : Parallel network other matched view x y)
    (fails : Parallel network other matched view x' y') :
    Parallel network other matched view (if condition then x else x')
      (if condition then y else y') := by
  split
  · exact holds
  · exact fails

theorem andFinally {last : Operation σ Unit} {last' : Operation τ Unit}
    (parallel : Parallel network other matched view x y)
    (close : Parallel network other matched Eq last last') :
    Parallel network other matched view (x.andFinally last) (y.andFinally last') :=
  parallel.attempt.bind fun _ _ alike => close.bind_same fun _ => ofOutcome alike

theorem translating {translate : Fault → Failure}
    (parallel : Parallel network other matched view x y) :
    Parallel network other matched view (x.translating translate) (y.translating translate) := by
  refine parallel.attempt_bind (fun _ _ alike => pure alike) fun failure => ?_
  cases failure <;> exact throw _

theorem mapM {f : α → Operation σ γ} {g : β → Operation τ δ} {items : List α} {items' : List β}
    (alike : List.Forall₂ view items items')
    (each : ∀ item item', view item item' →
      Parallel network other matched look (f item) (g item')) :
    Parallel network other matched (List.Forall₂ look) (items.mapM f) (items'.mapM g) := by
  induction alike with
  | nil => exact pure .nil
  | cons here there ih =>
    rw [List.mapM_cons, List.mapM_cons]
    refine (each _ _ here).bind fun _ _ first => ih.bind fun _ _ rest => ?_
    exact pure (.cons first rest)

/-- Over the same list, the parts are alike as a whole where each two of them are. -/
theorem mapM_same {f : α → Operation σ γ} {g : α → Operation τ δ} {items : List α}
    (each : ∀ item, Parallel network other matched look (f item) (g item)) :
    Parallel network other matched (List.Forall₂ look) (items.mapM f) (items.mapM g) :=
  mapM (List.forall₂_same.mpr fun _ _ => rfl) fun item _ (same : item = _) => same ▸ each item

/-- Parts that come to the same values do so as a whole. -/
theorem mapM_eq {f : α → Operation σ γ} {g : α → Operation τ γ} {items : List α}
    (each : ∀ item, Parallel network other matched Eq (f item) (g item)) :
    Parallel network other matched Eq (items.mapM f) (items.mapM g) :=
  (mapM_same each).mono fun _ _ same => by rwa [List.forall₂_eq_eq_eq] at same

theorem forM_same {f : α → Operation σ PUnit} {g : α → Operation τ PUnit} {items : List α}
    (each : ∀ item, Parallel network other matched Eq (f item) (g item)) :
    Parallel network other matched Eq (items.forM f) (items.forM g) := by
  induction items with
  | nil => exact pure rfl
  | cons item rest ih => exact (each item).bind_same fun _ => ih

end Parallel

end DirectoryAuth.Operation
