import DirectoryAuth.Proofs.Run
import DirectoryAuth.Search

/-!
# What a connection has of its latest search

All searches on one connection leave what they come to in the same place: one report and one list of
items. A search that is answered whole takes both from there before anything else can be searched
for, so what it reads is the reply to its own call. Other connections keep what they have.
-/

namespace DirectoryAuth

variable {σ : Type} {network : Network σ} {world : World σ}

namespace Call

variable {latest : Nat → SearchReply}

theorem leaving_search (connection : Connection) (query : Query) (reply : SearchReply) :
    (Call.search connection query).leaving latest (.ok reply) connection.number = reply :=
  if_pos rfl

end Call

namespace Session

variable {α : Type} {reply : SearchReply}

theorem run_latestReport_bind {s : Session} (h : world.latest s.connection.number = reply)
    (f : Option Report → Operation σ α) :
    (s.latestReport >>= f).run network world = (f reply.report).run network world := by
  rw [← h]
  exact Operation.run_bind_of_ok rfl

theorem run_latestItems_bind {s : Session} (h : world.latest s.connection.number = reply)
    (f : List Item → Operation σ α) :
    (s.latestItems >>= f).run network world = (f reply.items).run network world := by
  rw [← h]
  exact Operation.run_bind_of_ok rfl

end Session

namespace Cursor

/-- What a cursor makes of the reply to its search. -/
def take (c : Cursor) (reply : SearchReply) : Operation σ Progress :=
  match c.query.refusal? reply.report with
  | some error => throw (.search error)
  | none => do
    if Query.codeOf reply.report = some Query.sizeLimitExceeded then
      Operation.log .warning .search
        s!"Size limit exceeded searching {c.query.base} with filter {c.query.filter}"
    return .reading reply.items

/-- The reply to the search of a cursor, or the failure that its fault becomes. -/
def asked (c : Cursor) : Operation σ SearchReply :=
  (Operation.perform (.search c.session.connection c.query)).translating
    fun fault => .search (.failed c.query.base c.query.filter fault)

open Operation

/-- Whoever searched on the connection before, the reply is what the connection has next. -/
theorem latest_asked {c : Cursor} {reply : SearchReply} {after : World σ}
    (h : c.asked.run network world = (.ok reply, after)) :
    after.latest c.session.connection.number = reply := by
  rw [asked, run_translating, run_perform, Prod.mk.injEq] at h
  obtain ⟨outcome, rfl⟩ := h
  have given := translated_eq_ok outcome
  cases answer : (network.answer (.search c.session.connection c.query) world.network).1 with
  | error fault =>
    rw [answer] at given
    cases given
  | ok other =>
    rw [answer] at given
    cases given
    simp only [World.called, answer]
    exact Call.leaving_search c.session.connection c.query reply

/-- A cursor that asks for a whole answer goes by the reply to its own call. -/
theorem askWhole_eq (c : Cursor) : (c.askWhole : Operation σ Progress) = c.asked >>= c.take := by
  funext network world
  change c.askWhole.run network world = (c.asked >>= c.take).run network world
  cases ran : c.asked.run network world with
  | mk outcome after =>
    cases outcome with
    | error failure =>
      have sent : c.send.run network world = (.error failure, after) := run_bind_of_error ran
      rw [run_bind_of_error ran, askWhole, run_bind_of_error sent]
    | ok reply =>
      have sent : c.send.run network world = (.ok (), after) := run_bind_of_ok ran
      have left := latest_asked ran
      rw [run_bind_of_ok ran, askWhole, run_bind_of_ok sent, Session.run_latestReport_bind left,
        take]
      cases c.query.refusal? reply.report with
      | some error => rfl
      | none =>
        dsimp only
        split
        · -- The record that is written first leaves the items where they are.
          rw [run_bind_of_ok (run_log _ _ _), run_bind_of_ok (run_log _ _ _)]
          have kept event : (after.noted event).latest c.session.connection.number = reply := left
          exact Session.run_latestItems_bind (kept _) _
        · exact Session.run_latestItems_bind left _

end Cursor

end DirectoryAuth
