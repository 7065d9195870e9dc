import DirectoryAuth.Proofs.Steps

/-!
# Steady networks

A network may answer one call differently from time to time. It is steady where it does not: no
call of some kind changes the answer to another one of that kind. What an operation comes to that
makes such calls only is then the same whenever it is run.
-/

namespace DirectoryAuth

variable {σ α β : Type} {network : Network σ} {kind more : Call → Prop} {a b : World σ}

namespace Network

/-- The states that a network may come to by answering calls of a kind. -/
def Later (network : Network σ) (kind : Call → Prop) : σ → σ → Prop :=
  Relation.ReflTransGen fun before after =>
    ∃ call, kind call ∧ after = (network.answer call before).2

/-- However many calls of a kind come before it, a call of that kind has the same answer. -/
def Steady (network : Network σ) (kind : Call → Prop) (state : σ) : Prop :=
  ∀ later, network.Later kind state later → ∀ call, kind call →
    (network.answer call later).1 = (network.answer call state).1

end Network

theorem World.Steps.later (steps : World.Steps network kind a b) :
    network.Later kind a.network b.network := by
  induction steps with
  | refl => exact .refl
  | tail _ step ih =>
    cases step with
    | call may => exact ih.tail ⟨_, may, rfl⟩
    | note quiet => exact ih
    | page => exact ih
    | number may => exact ih
    | mark may => exact ih

/-- What a steady network answers does not change in the course of a run. -/
theorem Network.Steady.answer_after (steady : network.Steady kind a.network)
    (steps : World.Steps network kind a b) {call : Call} (same : kind call) :
    (network.answer call b.network).1 = (network.answer call a.network).1 :=
  steady _ steps.later call same

namespace Operation

/-- The operation makes calls of a kind only, and comes to the same outcome after any such calls. -/
structure Lasting (network : Network σ) (kind : Call → Prop) (world : World σ)
    (x : Operation σ α) : Prop where
  calls : CallsOnly network kind x
  outcome : ∀ after, World.Steps network kind world after →
    (x.run network after).1 = (x.run network world).1

namespace Lasting

variable {world : World σ}

theorem pure (a : α) : Lasting network kind world (Pure.pure a : Operation σ α) :=
  ⟨.pure a, fun _ _ => rfl⟩

theorem throw (failure : Failure) :
    Lasting network kind world (MonadExcept.throw failure : Operation σ α) :=
  ⟨.throw failure, fun _ _ => rfl⟩

theorem log (level : Level) (component : Component) (message : String) :
    Lasting network kind world (Operation.log level component message) :=
  ⟨.log _ _ _, fun _ _ => rfl⟩

theorem attempt {x : Operation σ α} (hx : Lasting network kind world x) :
    Lasting network kind world x.attempt :=
  ⟨.attempt hx.calls, fun after steps => congrArg Except.ok (hx.outcome after steps)⟩

theorem bind {x : Operation σ α} {f : α → Operation σ β} (hx : Lasting network kind world x)
    (hf : ∀ a, Lasting network kind world (f a)) : Lasting network kind world (x >>= f) := by
  refine ⟨.bind hx.calls fun a => (hf a).calls, ?_⟩
  intro after steps
  have same := hx.outcome after steps
  rcases now : x.run network world with ⟨outcome, next⟩
  rcases later : x.run network after with ⟨outcome', next'⟩
  rw [now, later] at same
  dsimp only at same
  subst same
  cases outcome' with
  | error failure => rw [run_bind_of_error now, run_bind_of_error later]
  | ok a =>
    rw [run_bind_of_ok now, run_bind_of_ok later, (hf a).outcome next (hx.calls.steps now)]
    exact (hf a).outcome next' (steps.trans (hx.calls.steps later))

theorem mapM {f : α → Operation σ β} {items : List α}
    (hf : ∀ a, Lasting network kind world (f a)) :
    Lasting network kind world (items.mapM f) := by
  induction items with
  | nil => exact pure _
  | cons a rest ih =>
    rw [List.mapM_cons]
    exact bind (hf a) fun _ => bind ih fun _ => pure _

end Lasting

end Operation

end DirectoryAuth
