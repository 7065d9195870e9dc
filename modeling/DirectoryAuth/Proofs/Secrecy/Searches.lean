import DirectoryAuth.Proofs.Search.Latest
import DirectoryAuth.Proofs.Secrecy.Sessions

/-!
# Secrets of searches

A search is sent on a connection that carries the secrets of its terms, and its cursor keeps the
session. What is asked for, the entries that are given, the failures and the records depend on the
answers only. So do lookups of users and resolutions of groups, which are made of searches.
-/

namespace DirectoryAuth

open Operation

variable {σ α β : Type} {network : Network σ}

/-! ## Cursors -/

namespace Cursor

variable {c c' : Cursor}

theorem checkOpen_alike (same : c.masked = c'.masked) :
    Alike network id c.checkOpen c'.checkOpen := by
  obtain ⟨session', sessions, rfl⟩ := eq_session same
  rw [checkOpen, checkOpen, Session.server_eq sessions]
  exact (Session.isClosed_alike sessions).bind_same fun closed => .ite (.throw _) (.pure rfl)

theorem askWhole_alike (same : c.masked = c'.masked) :
    Alike network id c.askWhole c'.askWhole := by
  obtain ⟨session', sessions, rfl⟩ := eq_session same
  have asked : Alike network id (perform (.search c.session.connection c.query))
      (perform (.search session'.connection c.query)) :=
    .perform (.search _ _) (.search _ _)
      (congrArg (Call.search · c.query) (Session.connection_masked sessions)) rfl
  rw [askWhole_eq, askWhole_eq]
  refine (asked.translating _).bind_same fun reply => ?_
  change Alike network id (c.take reply) (c.take reply)
  rw [take]
  cases c.query.refusal? reply.report with
  | some error => exact .throw _
  | none => exact .ite (.logged (.pure rfl)) (.pure rfl)

theorem nextPagedSearch_alike :
    Alike network id (nextPagedSearch : Operation σ Nat) nextPagedSearch where
  calls _ := .single (.page .anywhere)
  calls' _ := .single (.page .anywhere)
  runs world world' alike _ _ := by
    refine ⟨congrArg Except.ok alike.pagedSearches, alike.history, alike.closed,
      alike.connections, ?_⟩
    exact congrArg (· + 1) alike.pagedSearches

theorem askPaged_alike (same : c.masked = c'.masked) :
    Alike network id c.askPaged c'.askPaged := by
  obtain ⟨session', sessions, rfl⟩ := eq_session same
  have asked : Alike network id (perform (.pagedSearch c.session.connection c.query c.pageSize))
      (perform (.pagedSearch session'.connection c.query c.pageSize)) :=
    .perform (.pagedSearch _ _ _) (.pagedSearch _ _ _)
      (congrArg (Call.pagedSearch · c.query c.pageSize) (Session.connection_masked sessions)) rfl
  exact asked.bind_same fun reply => nextPagedSearch_alike.bind_same fun search => .pure rfl

/-- Cursors that differ in secrets only still do so once both have come to the same point. -/
theorem masked_progress {session session' : Session} (same : session.masked = session'.masked)
    (query : Query) (pageSize : Int) (progress : Progress) :
    masked ⟨session, query, pageSize, progress⟩ = masked ⟨session', query, pageSize, progress⟩ :=
  congrArg (Cursor.mk · query pageSize progress) same

theorem started_alike (same : c.masked = c'.masked) :
    Alike network masked c.started c'.started := by
  have opened : Alike network id c.checkOpen c'.checkOpen := checkOpen_alike same
  have whole : Alike network id c.askWhole c'.askWhole := askWhole_alike same
  have paged : Alike network id c.askPaged c'.askPaged := askPaged_alike same
  obtain ⟨session', sessions, rfl⟩ := eq_session same
  obtain ⟨session, query, pageSize, progress⟩ := c
  cases progress with
  | idle =>
    have behind := masked_progress sessions query pageSize
    refine opened.bind_same fun _ => .ite ?_ ?_
    · exact whole.bind_same fun progress => .pure (behind progress)
    · exact paged.bind_same fun progress => .pure (behind progress)
  | reading items => exact .pure same
  | paging search position items fault => exact .pure same

theorem nextRead_alike (same : c.masked = c'.masked) (items : List Item) :
    Alike network id (c.nextRead items) (c'.nextRead items) := by
  induction items with
  | nil => exact .pure rfl
  | cons item items ih =>
    exact (checkOpen_alike same).bind_same fun _ => .ite (.pure rfl) ih

theorem nextPaged_alike (same : c.masked = c'.masked) (search : Nat) (fault : Option Fault)
    (position : Nat) (items : List Item) :
    Alike network id (c.nextPaged search fault position items)
      (c'.nextPaged search fault position items) := by
  induction items generalizing position with
  | nil =>
    obtain ⟨session', sessions, rfl⟩ := eq_session same
    cases fault with
    | some fault => exact (Alike.record rfl).bind_same fun _ => .throw _
    | none => exact (Alike.record rfl).bind_same fun _ => .pure rfl
  | cons item items ih =>
    refine (Alike.record rfl).bind_same fun _ => ?_
    exact (checkOpen_alike same).bind_same fun _ => .ite (.pure rfl) (ih (position + 1))

/-- The view of what a cursor gives: all but the secrets of the cursor behind it. -/
def given : Option (Entry × Cursor) → Option (Entry × Cursor) := Option.map (Prod.map id masked)

/-- Cursors that look the same are both at their end, or give the same entry. -/
theorem given_alike {found found' : Option (Entry × Cursor)} (same : given found = given found') :
    (found = none ∧ found' = none) ∨
      ∃ entry rest rest', found = some (entry, rest) ∧ found' = some (entry, rest') ∧
        rest.masked = rest'.masked := by
  match found, found' with
  | none, none => exact .inl ⟨rfl, rfl⟩
  | some (entry, rest), some (entry', rest') =>
    obtain ⟨rfl, rests⟩ := Prod.mk.inj (Option.some.inj same)
    exact .inr ⟨entry, rest, rest', rfl, rfl, rests⟩
  | none, some _ => cases same
  | some _, none => cases same

/-- The next entry does not depend on secrets. -/
theorem next_alike (same : c.masked = c'.masked) : Alike network given c.next c'.next := by
  refine (started_alike same).bind fun c c' same => ?_
  have read (items : List Item) : Alike network id (c.nextRead items) (c'.nextRead items) :=
    nextRead_alike same items
  have paged (search position : Nat) (items : List Item) (fault : Option Fault) :
      Alike network id (c.nextPaged search fault position items)
        (c'.nextPaged search fault position items) :=
    nextPaged_alike same search fault position items
  obtain ⟨session', sessions, rfl⟩ := eq_session same
  obtain ⟨session, query, pageSize, progress⟩ := c
  have behind (progress : Progress) (entry : Entry) :
      given (some (entry, ⟨session, query, pageSize, progress⟩)) =
        given (some (entry, ⟨session', query, pageSize, progress⟩)) :=
    congrArg (fun c => some (entry, c)) (masked_progress sessions query pageSize progress)
  cases progress with
  | idle => exact .pure rfl
  | reading items =>
    refine (read items).bind_same fun found => .pure ?_
    cases found with
    | none => rfl
    | some found => exact behind (.reading found.2) found.1
  | paging search position items fault =>
    refine (paged search position items fault).attempt_bind_same fun outcome => ?_
    match outcome with
    | .ok (some (entry, position, rest)) => exact .pure (behind _ entry)
    | .ok none => exact (Alike.record rfl).bind_same fun _ => .pure rfl
    | .error failure => exact (Alike.record rfl).bind_same fun _ => .throw _

theorem stop_alike (same : c.masked = c'.masked) : Alike network id c.stop c'.stop := by
  obtain ⟨session', sessions, rfl⟩ := eq_session same
  obtain ⟨session, query, pageSize, progress⟩ := c
  cases progress with
  | idle => exact .pure rfl
  | reading items => exact .pure rfl
  | paging search position items fault => exact .record rfl

theorem collect_alike (limit : Nat) (same : c.masked = c'.masked) :
    Alike network id (collect limit c) (collect limit c') := by
  induction limit generalizing c c' with
  | zero => exact .pure rfl
  | succ limit ih =>
    refine (next_alike same).bind fun found found' same => ?_
    rcases given_alike same with ⟨rfl, rfl⟩ | ⟨entry, rest, rest', rfl, rfl, rests⟩
    · exact .pure rfl
    · exact (ih rests).bind_same fun entries => .pure rfl

theorem drain_alike (same : c.masked = c'.masked) : Alike network id c.drain c'.drain := by
  refine (started_alike same).bind fun c c' same => ?_
  have unread : c.unread = c'.unread := by
    obtain ⟨session', sessions, rfl⟩ := eq_session same
    rfl
  rw [unread]
  exact collect_alike _ same

end Cursor

/-! ## Searches -/

namespace SearchRequest

variable {s s' : Session}

theorem start_alike (r : SearchRequest) (same : s.masked = s'.masked) :
    Alike network Cursor.masked (r.start s) (r.start s') := by
  refine .bind_same (.ofOutcome rfl) fun filter => ?_
  exact .logged (.pure (Cursor.masked_progress same _ _ _))

theorem all_alike (r : SearchRequest) (same : s.masked = s'.masked) :
    Alike network id (r.all s) (r.all s') :=
  (r.start_alike same).bind fun _ _ same => Cursor.drain_alike same

theorem unique_alike (r : SearchRequest) (same : s.masked = s'.masked) :
    Alike network id (r.unique s) (r.unique s') := by
  refine (r.start_alike same).bind fun c c' same => ?_
  refine (Cursor.next_alike same).bind fun found found' same => ?_
  rcases Cursor.given_alike same with ⟨rfl, rfl⟩ | ⟨entry, rest, rest', rfl, rfl, rests⟩
  · exact .pure rfl
  refine (Cursor.next_alike rests).bind fun second second' same => ?_
  rcases Cursor.given_alike same with ⟨rfl, rfl⟩ | ⟨other, last, last', rfl, rfl, lasts⟩
  · exact .pure rfl
  refine (Cursor.stop_alike lasts).bind_same fun _ => ?_
  cases r.filter with
  | ok filter => exact .throw _
  | error failure => exact .throw _

theorem readEntry_alike (same : s.masked = s'.masked) (name : String)
    (attributes : List String) :
    Alike network id (readEntry s name attributes) (readEntry s' name attributes) := by
  refine ((ofName name attributes).unique_alike same).attempt_bind_same fun outcome => ?_
  match outcome with
  | .ok entry => exact .pure rfl
  | .error failure =>
    cases failure with
    | search error => exact .ite (.logged (.pure rfl)) (.throw _)
    | _ => exact .throw _

end SearchRequest

end DirectoryAuth
