import DirectoryAuth.Proofs.Search.Latest
import DirectoryAuth.Proofs.Steps

/-!
# The calls of searches

Whatever is done with a cursor, and whatever comes of it, nothing is sent but searches on the
connection of its session. A session is therefore as open after a search as before.
-/

namespace DirectoryAuth

def Call.IsSearchOn (connection : Connection) : Call → Prop
  | .search on _ | .pagedSearch on _ _ => on = connection
  | _ => False

def Session.IsOpen {σ : Type} (s : Session) (world : World σ) : Prop :=
  s.connection.number ∉ world.closed

variable {σ : Type} {network : Network σ} {world : World σ}

/-- Searches leave a session open. -/
theorem Session.IsOpen.after_searches {s : Session} {connection : Connection} {after : World σ}
    (isOpen : s.IsOpen world)
    (steps : World.Steps network (Call.IsSearchOn connection) world after) : s.IsOpen after := by
  rw [IsOpen, steps.closed_eq fun _ => id]
  exact isOpen

namespace Cursor

open Operation

theorem checkOpen_callsOnly (c : Cursor) (allowed : Call → Prop) :
    CallsOnly network allowed c.checkOpen := by
  refine .bind (fun world => .refl world) fun closed => ?_
  cases closed with
  | true => exact .throw _
  | false => exact .pure _

theorem askWhole_callsOnly (c : Cursor) :
    CallsOnly network (Call.IsSearchOn c.session.connection) c.askWhole := by
  rw [askWhole_eq]
  refine .bind (.translating (.perform rfl)) fun reply => ?_
  rw [take]
  cases c.query.refusal? reply.report with
  | some error => exact .throw _
  | none =>
    dsimp only
    split
    · exact .bind (.log _ _ _) fun _ => .pure _
    · exact .pure _

theorem askPaged_callsOnly (c : Cursor) :
    CallsOnly network (Call.IsSearchOn c.session.connection) c.askPaged := by
  refine .bind (.perform rfl) fun reply => ?_
  have may : MayPage (Call.IsSearchOn c.session.connection) := ⟨_, c.query, c.pageSize, rfl⟩
  exact .bind (fun _ => .single (.page may)) fun _ => .pure _

theorem started_callsOnly (c : Cursor) :
    CallsOnly network (Call.IsSearchOn c.session.connection) c.started := by
  rw [started]
  cases c.progress with
  | reading items => exact .pure _
  | paging search position items fault => exact .pure _
  | idle =>
    refine .bind (c.checkOpen_callsOnly _) fun _ => ?_
    refine .ite ?_ ?_
    · exact .bind c.askWhole_callsOnly fun _ => .pure _
    · exact .bind c.askPaged_callsOnly fun _ => .pure _

theorem nextRead_callsOnly (c : Cursor) (allowed : Call → Prop) (items : List Item) :
    CallsOnly network allowed (c.nextRead items) := by
  induction items with
  | nil => exact .pure _
  | cons item items ih =>
    exact .bind (c.checkOpen_callsOnly _) fun _ => .ite (.pure _) ih

/-- Steps through pages belong to the paged search of the cursor. -/
theorem page_callsOnly (c : Cursor) (search : Nat) (step : PageStep) :
    CallsOnly network (Call.IsSearchOn c.session.connection)
      (record (.page search step) : Operation σ Unit) := by
  have may : Call.IsSearchOn c.session.connection
      (.pagedSearch c.session.connection c.query c.pageSize) := rfl
  exact .page may _ _

theorem nextPaged_callsOnly (c : Cursor) (search : Nat) (fault : Option Fault) (position : Nat)
    (items : List Item) :
    CallsOnly network (Call.IsSearchOn c.session.connection)
      (c.nextPaged search fault position items) := by
  induction items generalizing position with
  | nil =>
    cases fault with
    | some fault => exact .bind (c.page_callsOnly _ _) fun _ => .throw _
    | none => exact .bind (c.page_callsOnly _ _) fun _ => .pure _
  | cons item items ih =>
    refine .bind (c.page_callsOnly _ _) fun _ => .bind (c.checkOpen_callsOnly _) fun _ => ?_
    exact .ite (.pure _) (ih _)

theorem stop_callsOnly (c : Cursor) :
    CallsOnly network (Call.IsSearchOn c.session.connection) (c.stop : Operation σ Unit) := by
  rw [stop]
  cases c.progress with
  | idle => exact .pure _
  | reading items => exact .pure _
  | paging search position items fault => exact c.page_callsOnly _ _

theorem started_session {c begun : Cursor} {after : World σ}
    (h : c.started.run network world = (.ok begun, after)) : begun.session = c.session := by
  rw [started] at h
  cases hp : c.progress with
  | reading items => rw [hp] at h; cases h; rfl
  | paging search position items fault => rw [hp] at h; cases h; rfl
  | idle =>
    rw [hp] at h
    obtain ⟨_, _, _, h⟩ := run_bind_eq_ok h
    dsimp only at h
    split at h
    · obtain ⟨_, _, _, h⟩ := run_bind_eq_ok h
      cases h
      rfl
    · obtain ⟨_, _, _, h⟩ := run_bind_eq_ok h
      cases h
      rfl

theorem next_callsOnly (c : Cursor) :
    CallsOnly network (Call.IsSearchOn c.session.connection) c.next := by
  refine .bind_value c.started_callsOnly fun _ begun _ ran => ?_
  rw [← started_session ran]
  cases begun.progress with
  | idle => exact .pure _
  | reading items => exact .bind (nextRead_callsOnly _ _ _) fun _ => .pure _
  | paging search position items fault =>
    refine .bind (.attempt (begun.nextPaged_callsOnly _ _ _ _)) fun outcome => ?_
    match outcome with
    | .ok (some _) => exact .pure _
    | .ok none => exact .bind (begun.page_callsOnly _ _) fun _ => .pure _
    | .error _ => exact .bind (begun.page_callsOnly _ _) fun _ => .throw _

/-- A cursor stays with its session. -/
theorem next_session {c rest : Cursor} {entry : Entry} {after : World σ}
    (h : c.next.run network world = (.ok (some (entry, rest)), after)) :
    rest.session = c.session := by
  obtain ⟨begun, next, started, h⟩ := run_bind_eq_ok h
  rw [← started_session started]
  cases hp : begun.progress with
  | idle => rw [hp] at h; cases h
  | reading items =>
    simp only [hp] at h
    obtain ⟨found, _, _, h⟩ := run_bind_eq_ok h
    cases found with
    | none => cases h
    | some _ => cases h; rfl
  | paging search position items fault =>
    simp only [hp] at h
    rw [run_attempt_bind] at h
    match outcome : ((begun.nextPaged search fault position items).run network next).1 with
    | .ok (some _) => rw [outcome] at h; cases h; rfl
    | .ok none => rw [outcome] at h; cases h
    | .error _ => rw [outcome] at h; cases h

theorem collect_callsOnly (limit : Nat) (c : Cursor) :
    CallsOnly network (Call.IsSearchOn c.session.connection) (collect limit c) := by
  induction limit generalizing c with
  | zero => exact .pure _
  | succ limit ih =>
    refine .bind_value c.next_callsOnly fun _ found _ ran => ?_
    match found with
    | none => exact .pure _
    | some (entry, rest) =>
      rw [← next_session ran]
      exact .bind (ih rest) fun _ => .pure _

theorem drain_callsOnly (c : Cursor) :
    CallsOnly network (Call.IsSearchOn c.session.connection) c.drain := by
  refine .bind_value c.started_callsOnly fun _ begun _ ran => ?_
  rw [← started_session ran]
  exact collect_callsOnly _ _

end Cursor

namespace SearchRequest

open Operation

theorem start_callsOnly (r : SearchRequest) (session : Session) (allowed : Call → Prop) :
    CallsOnly network allowed (r.start session) :=
  .bind (.ofOutcome _) fun _ => .bind (.log _ _ _) fun _ => .pure _

theorem start_session {r : SearchRequest} {session : Session} {c : Cursor} {after : World σ}
    (h : (r.start session).run network world = (.ok c, after)) : c.session = session := by
  obtain ⟨_, _, _, h⟩ := run_bind_eq_ok h
  cases h
  rfl

/-- Finding one entry takes searches on the session only. -/
theorem unique_callsOnly (r : SearchRequest) (session : Session) :
    CallsOnly network (Call.IsSearchOn session.connection) (r.unique session) := by
  refine .bind_value (r.start_callsOnly _ _) fun _ c _ begun => ?_
  rw [← start_session begun]
  refine .bind_value c.next_callsOnly fun _ found _ ran => ?_
  match found with
  | none => exact .pure _
  | some (entry, rest) =>
    rw [← Cursor.next_session ran]
    refine .bind_value rest.next_callsOnly fun _ second _ ran => ?_
    match second with
    | none => exact .pure _
    | some (_, last) =>
      rw [← Cursor.next_session ran]
      refine .bind last.stop_callsOnly fun _ => ?_
      cases r.filter with
      | ok filter => exact .throw _
      | error failure => exact .throw _

/-- Finding all entries takes searches on the session only. -/
theorem all_callsOnly (r : SearchRequest) (session : Session) :
    CallsOnly network (Call.IsSearchOn session.connection) (r.all session) := by
  refine .bind_value (r.start_callsOnly _ _) fun _ c _ begun => ?_
  rw [← start_session begun]
  exact c.drain_callsOnly

end SearchRequest

end DirectoryAuth
