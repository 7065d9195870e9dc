import DirectoryAuth.Proofs.Search.Reading

/-!
# Searches send one request

A search sends its request once. What comes before is logged, and what comes after is read from the
answer; neither asks anything more of the network, nor does it close a session.
-/

namespace DirectoryAuth

open Operation World

variable {σ α β : Type} {network : Network σ} {world a b c : World σ}

/-! ## Quiet steps -/

/-- Nothing is asked of the network between two worlds, and no session is closed. -/
structure World.Quiet (a b : World σ) : Prop where
  network : b.network = a.network
  closed : b.closed = a.closed
  silent : ∃ events, b.history = a.history ++ events ∧ ∀ event ∈ events, event.call? = none

namespace World.Quiet

theorem refl (a : World σ) : Quiet a a :=
  ⟨rfl, rfl, [], (List.append_nil _).symm, fun _ member => absurd member List.not_mem_nil⟩

theorem trans (first : Quiet a b) (second : Quiet b c) : Quiet a c := by
  obtain ⟨events, history, silent⟩ := first.silent
  obtain ⟨more, history', silent'⟩ := second.silent
  refine ⟨second.network.trans first.network, second.closed.trans first.closed, events ++ more, ?_,
    fun event member => ?_⟩
  · rw [history', history, List.append_assoc]
  · exact (List.mem_append.mp member).elim (silent event) (silent' event)

theorem noted (a : World σ) {event : Event} (silent : event.call? = none) :
    Quiet a (a.noted event) := by
  refine ⟨rfl, rfl, [event], rfl, fun other member => ?_⟩
  rw [List.mem_singleton.mp member]
  exact silent

instance : IsPreorder (World σ) Quiet where
  refl := refl
  trans _ _ _ := trans

/-- Sessions are as open as before. -/
theorem isOpen_iff (quiet : Quiet a b) (s : Session) : s.IsOpen b ↔ s.IsOpen a := by
  rw [Session.IsOpen, Session.IsOpen, quiet.closed]

end World.Quiet

theorem Operation.record_quiet {event : Event} (silent : event.call? = none) :
    Keeps network Quiet (record event) :=
  fun world => .noted world silent

theorem Operation.log_quiet (level : Level) (component : Component) (message : String) :
    Keeps network Quiet (log level component message) := record_quiet rfl

/-! ## Single calls -/

/-- One call is made between two worlds, and nothing else is asked. -/
def World.Asked (network : Network σ) (call : Call) (a b : World σ) : Prop :=
  ∃ before, Quiet a before ∧ Quiet (before.called network call) b

namespace World.Asked

variable {call : Call}

theorem called (network : Network σ) (call : Call) (a : World σ) :
    Asked network call a (a.called network call) := ⟨a, .refl a, .refl _⟩

theorem since (quiet : Quiet a b) (asked : Asked network call b c) : Asked network call a c :=
  asked.imp fun _ ⟨before, behind⟩ => ⟨quiet.trans before, behind⟩

theorem upTo (asked : Asked network call a b) (quiet : Quiet b c) : Asked network call a c :=
  asked.imp fun _ ⟨before, behind⟩ => ⟨before, behind.trans quiet⟩

theorem network_eq (asked : Asked network call a b) :
    b.network = (network.answer call a.network).2 := by
  obtain ⟨before, first, second⟩ := asked
  rw [second.network, ← first.network]
  rfl

theorem closed_eq (asked : Asked network call a b) : b.closed = a.closed := by
  obtain ⟨before, first, second⟩ := asked
  exact second.closed.trans first.closed

/-- Sessions are as open as before. -/
theorem isOpen_iff (asked : Asked network call a b) (s : Session) : s.IsOpen b ↔ s.IsOpen a := by
  rw [Session.IsOpen, Session.IsOpen, asked.closed_eq]

/-- The call and its answer are in the history, among what is no call. -/
theorem history (asked : Asked network call a b) :
    ∃ front back, b.history =
        a.history ++ (front ++ .exchange call (network.answer call a.network).1 :: back) ∧
      ∀ event ∈ front ++ back, event.call? = none := by
  obtain ⟨before, first, second⟩ := asked
  obtain ⟨front, history, silent⟩ := first.silent
  obtain ⟨back, history', silent'⟩ := second.silent
  refine ⟨front, back, ?_, fun event member => ?_⟩
  · rw [history']
    simp only [World.called, history, first.network, List.append_assoc, List.singleton_append]
  · exact (List.mem_append.mp member).elim (silent event) (silent' event)

theorem happened (asked : Asked network call a b) :
    Happened (.exchange call (network.answer call a.network).1) a b := by
  obtain ⟨front, back, history, -⟩ := asked.history
  exact ⟨_, history, List.mem_append_right _ List.mem_cons_self⟩

end World.Asked

/-- What follows a call may depend on its reply, but makes no further one. -/
theorem World.Asked.bind {call : Call} {x : Operation σ α} {f : α → Operation σ β}
    (first : Asked network call world (x.run network world).2)
    (rest : ∀ a next, x.run network world = (.ok a, next) → Keeps network Quiet (f a)) :
    Asked network call world ((x >>= f).run network world).2 := by
  rcases ran : x.run network world with ⟨outcome, next⟩
  rw [ran] at first
  cases outcome with
  | error failure =>
    rw [run_bind_of_error ran]
    exact first
  | ok a =>
    rw [run_bind_of_ok ran]
    exact first.upTo (rest a next ran next)

theorem Operation.perform_asked (call : Call) :
    Keeps network (Asked network call) (perform call) :=
  Asked.called network call

/-! ## Cursors -/

namespace Cursor

theorem checkOpen_quiet (c : Cursor) : Keeps network Quiet c.checkOpen := by
  intro world
  rw [run_checkOpen]
  exact .refl world

theorem nextRead_quiet (c : Cursor) (items : List Item) :
    Keeps network Quiet (c.nextRead items) := by
  intro world
  rw [run_nextRead_of_sight]
  exact .refl world

theorem nextPaged_quiet (c : Cursor) (search : Nat) (fault : Option Fault) (position : Nat)
    (items : List Item) : Keeps network Quiet (c.nextPaged search fault position items) := by
  induction items generalizing position with
  | nil =>
    cases fault with
    | some fault => exact .bind (record_quiet rfl) fun _ => .throw _
    | none => exact .bind (record_quiet rfl) fun _ => .pure _
  | cons item items ih =>
    refine .bind (record_quiet rfl) fun _ => .bind c.checkOpen_quiet fun _ => ?_
    exact .ite (.pure _) (ih _)

/-- A cursor whose answer is there asks nothing more. -/
theorem next_quiet {c : Cursor} (begun : c.progress ≠ .idle) : Keeps network Quiet c.next := by
  rw [next, started_of_begun begun, pure_bind]
  cases c.progress with
  | idle => exact .pure _
  | reading items => exact .bind (c.nextRead_quiet items) fun _ => .pure _
  | paging search position items fault =>
    refine .bind (.attempt (c.nextPaged_quiet search fault position items)) fun outcome => ?_
    rcases outcome with failure | _ | found
    · exact .bind (record_quiet rfl) fun _ => .throw _
    · exact .bind (record_quiet rfl) fun _ => .pure _
    · exact .pure _

theorem stop_quiet (c : Cursor) : Keeps network Quiet (c.stop : Operation σ Unit) := by
  rw [stop]
  cases c.progress with
  | idle => exact .pure _
  | reading items => exact .pure _
  | paging search position items fault => exact record_quiet rfl

/-- Behind an entry, the answer is there. -/
theorem next_begun {c rest : Cursor} {entry : Entry} {after : World σ}
    (ran : c.next.run network world = (.ok (some (entry, rest)), after)) :
    rest.progress ≠ .idle := by
  have reading {c : Cursor} {world : World σ} (begun : c.progress ≠ .idle)
      (ran : c.next.run network world = (.ok (some (entry, rest)), after)) :
      rest.progress ≠ .idle := by
    cases c.next_readsOn network world begun with
    | entry progress _ begun _ _ _ same =>
      cases same.symm.trans ran
      exact begun
    | shut _ _ same => cases same.symm.trans ran
    | finished _ _ same =>
      rw [same] at ran
      have ended := congrArg Prod.fst ran
      cases fault : c.progress.fault? <;> rw [fault] at ended <;> cases ended
  by_cases idle : c.progress = .idle
  · cases c.next_starts network world idle with
    | shut _ same => cases same.symm.trans ran
    | refused _ _ _ same => cases same.symm.trans ran
    | answered progress _ begun _ _ _ same => exact reading begun (same.symm.trans ran)
  · exact reading idle ran

theorem collect_quiet (limit : Nat) {c : Cursor} (begun : c.progress ≠ .idle) :
    Keeps network Quiet (collect limit c) := by
  induction limit generalizing c with
  | zero => exact .pure _
  | succ limit ih =>
    refine .bind_value (next_quiet begun) fun _ found _ ran => ?_
    rcases found with _ | ⟨entry, rest⟩
    · exact .pure _
    · exact .bind (ih (next_begun ran)) fun _ => .pure _

def call (c : Cursor) : Call :=
  if c.pageSize = 0 then .search c.session.connection c.query
  else .pagedSearch c.session.connection c.query c.pageSize

theorem askWhole_asked (c : Cursor) :
    Keeps network (Asked network (.search c.session.connection c.query)) c.askWhole := by
  rw [askWhole_eq]
  refine fun world => .bind (Keeps.translating (perform_asked _) world) fun reply _ _ => ?_
  rw [take]
  cases c.query.refusal? reply.report with
  | some error => exact .throw _
  | none => exact .ite (.bind (log_quiet _ _ _) fun _ => .pure _) (.pure _)

theorem askPaged_asked (c : Cursor) :
    Keeps network (Asked network (.pagedSearch c.session.connection c.query c.pageSize))
      c.askPaged := by
  refine fun world => .bind (perform_asked _ world) fun reply _ _ => .bind ?_ fun _ => .pure _
  exact fun world =>
    ⟨rfl, rfl, [], (List.append_nil _).symm, fun _ member => absurd member List.not_mem_nil⟩

/-- On an open session, an idle cursor makes its call, and no other. -/
theorem started_asked {c : Cursor} (idle : c.progress = .idle) (isOpen : c.session.IsOpen world) :
    Asked network c.call world (c.started.run network world).2 := by
  rw [started, idle]
  dsimp only
  rw [run_bind_of_ok (run_checkOpen_of_open isOpen), call]
  by_cases whole : c.pageSize = 0
  · rw [if_pos whole, if_pos whole]
    exact .bind (c.askWhole_asked world) fun _ _ _ => .pure _
  · rw [if_neg whole, if_neg whole]
    exact .bind (c.askPaged_asked world) fun _ _ _ => .pure _

theorem started_begun {c begun : Cursor} {after : World σ}
    (ran : c.started.run network world = (.ok begun, after)) : begun.progress ≠ .idle := by
  have begins := c.started_begins network world
  rw [ran] at begins
  exact begins.1

/-- Neither the first entry nor all of them take another call. -/
theorem next_asked {c : Cursor} (idle : c.progress = .idle) (isOpen : c.session.IsOpen world) :
    Asked network c.call world (c.next.run network world).2 := by
  refine .bind (started_asked idle isOpen) fun begun _ ran => ?_
  have quiet : Keeps network Quiet begun.next := next_quiet (started_begun ran)
  rwa [next, started_of_begun (started_begun ran), pure_bind] at quiet

theorem drain_asked {c : Cursor} (idle : c.progress = .idle) (isOpen : c.session.IsOpen world) :
    Asked network c.call world (c.drain.run network world).2 :=
  .bind (started_asked idle isOpen) fun _ _ ran => collect_quiet _ (started_begun ran)

end Cursor

/-! ## Whole searches -/

namespace SearchRequest

variable {r : SearchRequest} {session : Session} {filter : String}

/-- Taking all entries of a request makes one call. -/
theorem all_asked (valid : r.filter = .ok filter) (isOpen : session.IsOpen world) :
    Asked network (r.cursor session filter).call world ((r.all session).run network world).2 := by
  obtain ⟨record, started⟩ := run_start_of_filter network world valid session
  have logged : Quiet world (world.noted (.logged record)) := .noted world rfl
  have stillOpen : session.IsOpen (world.noted (.logged record)) := isOpen
  rw [all, run_bind_of_ok started]
  exact (Cursor.drain_asked rfl stillOpen).since logged

/-- So does taking the one entry of a request, or finding that it is not the only one. -/
theorem unique_asked (valid : r.filter = .ok filter) (isOpen : session.IsOpen world) :
    Asked network (r.cursor session filter).call world
      ((r.unique session).run network world).2 := by
  obtain ⟨record, started⟩ := run_start_of_filter network world valid session
  have logged : Quiet world (world.noted (.logged record)) := .noted world rfl
  have stillOpen : session.IsOpen (world.noted (.logged record)) := isOpen
  rw [unique, run_bind_of_ok started]
  refine (Asked.bind (Cursor.next_asked rfl stillOpen) fun found _ ran => ?_).since logged
  rcases found with _ | ⟨entry, rest⟩
  · exact .pure _
  · refine .bind (Cursor.next_quiet (Cursor.next_begun ran)) fun second => ?_
    rcases second with _ | ⟨_, last⟩
    · exact .pure _
    · refine .bind last.stop_quiet fun _ => ?_
      cases r.filter with
      | ok filter => exact .throw _
      | error failure => exact .throw _

/-- The filter of a request for one entry by its name needs no values. -/
theorem ofName_filter (name : String) (attributes : List String) :
    (ofName name attributes).filter = .ok anyEntry :=
  eq_ok_of_toOption (by decide +kernel : (Filter.format anyEntry []).toOption = some anyEntry)

/-- So does reading one entry by its name. -/
theorem readEntry_asked (isOpen : session.IsOpen world) (name : String)
    (attributes : List String) :
    Asked network (.search session.connection ((ofName name attributes).query anyEntry)) world
      ((readEntry session name attributes).run network world).2 := by
  have asked : Asked network _ world
      (((ofName name attributes).unique session).run network world).2 :=
    unique_asked (ofName_filter name attributes) isOpen
  refine asked.bind (x := ((ofName name attributes).unique session).attempt) fun outcome _ _ => ?_
  cases outcome with
  | ok entry => exact .pure _
  | error failure =>
    cases failure with
    | search error => exact .ite (.bind (log_quiet _ _ _) fun _ => .pure _) (.throw _)
    | _ => exact .throw _

end SearchRequest

end DirectoryAuth
