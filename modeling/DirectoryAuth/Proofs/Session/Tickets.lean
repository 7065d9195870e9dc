import DirectoryAuth.Proofs.Run
import DirectoryAuth.Session

/-!
# How a ticket is got

Getting a ticket takes two calls: one makes the ticket service ready, and one gives it the password.
Between the two the password is put into UTF-8. That fails for one that is no text, with a failure
that no fault of the service comes to.
-/

namespace DirectoryAuth.Connector

variable {σ : Type} {network : Network σ} {world after : World σ} {principal : String}

open Operation

theorem run_askTickets (principal : String) (call : Call) :
    (askTickets principal call).run network world =
      ((network.answer call world.network).1.mapError (ticketFailure principal),
        world.called network call) := by
  rw [askTickets, run_attempt_bind, run_perform]
  cases (network.answer call world.network).1 with
  | ok reply => rfl
  | error fault => rfl

theorem askTickets_eq_ok {call : Call} {reply : call.Reply}
    (h : (askTickets principal call).run network world = (.ok reply, after)) :
    (perform call).run network world = (.ok reply, after) := by
  rw [run_askTickets] at h
  rw [run_perform]
  cases answered : (network.answer call world.network).1 with
  | ok given =>
    rw [answered] at h
    exact h
  | error fault =>
    rw [answered] at h
    cases h

/-- What is sent of a password is the text that it is. -/
theorem sentText_eq_ok {password : Password} {text : String}
    (h : (sentText password).run network world = (.ok text, after)) :
    password = .ofText text ∧ after = world := by
  rw [sentText] at h
  cases read : password.text? with
  | none =>
    rw [read] at h
    cases h
  | some given =>
    rw [read] at h
    cases h
    exact ⟨Password.eq_ofText read, rfl⟩

/-- A ticket was issued for the text of the password. -/
theorem acquireTicket_eq_ok {ticket : String} {password : Password}
    (h : (acquireTicket principal (some password)).run network world = (.ok ticket, after)) :
    ∃ text, password = .ofText text ∧
      World.Happened (.exchange (.acquireTicket principal text) (.ok ticket)) world after := by
  rw [acquireTicket] at h
  by_cases blank : password = .blank
  · simp only [blank] at h
    cases h
  · rw [Option.filter_some_pos (by simpa using blank)] at h
    obtain ⟨_, ready, prepared, h⟩ := run_bind_eq_ok h
    obtain ⟨text, sending, sent, issued⟩ := run_bind_eq_ok h
    obtain ⟨given, rfl⟩ := sentText_eq_ok sent
    have started := perform_history (askTickets_eq_ok prepared)
    refine ⟨text, given, (perform_eq_ok (askTickets_eq_ok issued)).since ?_⟩
    rw [started]
    exact List.prefix_append _ _

end DirectoryAuth.Connector
