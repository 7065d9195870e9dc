import DirectoryAuth.Proofs.Search.Calls

/-!
# What searches find

A search on an open session gives the entries of one answer, in order, and then comes to its end or
fails. This is told here without cursors: as a list of entries and a failure, if any, which depend
on a single answer of the network. Reading a cursor step by step gives exactly that, whether the
answer came whole or in pages.
-/

namespace DirectoryAuth

def Item.entries (items : List Item) : List Entry := (items.filter (·.isEntry)).map (·.entry)

/-- What a search gives: entries, and the failure behind them, if it does not come to its end. -/
structure Findings where
  entries : List Entry
  failure : Option Failure
  deriving DecidableEq, Repr

namespace Findings

def failed (failure : Failure) : Findings := ⟨[], some failure⟩

def all (f : Findings) : Except Failure (List Entry) :=
  match f.failure with
  | some failure => .error failure
  | none => .ok f.entries

/-- The only entry, if there is one. A second entry counts before what comes behind it. -/
def unique (f : Findings) (ambiguous : Failure) : Except Failure (Option Entry) :=
  match f.entries, f.failure with
  | _ :: _ :: _, _ => .error ambiguous
  | _, some failure => .error failure
  | entries, none => .ok entries.head?

end Findings

namespace Query

/-- What a search finds whose answer comes whole. -/
def wholeFindings (q : Query) : Except Fault SearchReply → Findings
  | .error fault =>
    .failed (if fault.isDirectory then .search (.failed q.base q.filter fault) else .outside fault)
  | .ok reply =>
    match q.refusal? reply.report with
    | some error => .failed (.search error)
    | none => ⟨Item.entries reply.items, none⟩

/-- What a search finds whose answer comes page by page. -/
def pagedFindings (q : Query) : Except Fault PagedReply → Findings
  | .error fault => .failed (.outside fault)
  | .ok reply =>
    ⟨Item.entries reply.items, reply.fault.map fun fault =>
      if fault.isDirectory then .search (.pageFailed q.base q.filter fault) else .outside fault⟩

end Query

namespace Cursor

variable {σ : Type}

def known (c : Cursor) : Findings :=
  match c.progress with
  | .idle => ⟨[], none⟩
  | .reading items => ⟨Item.entries items, none⟩
  | .paging _ _ items fault => ⟨Item.entries items, fault.map c.pageFailure⟩

/-- What is left to find. Before the request is sent, that is up to the network. -/
def left (c : Cursor) (network : Network σ) (world : World σ) : Findings :=
  match c.progress with
  | .reading _ | .paging _ _ _ _ => c.known
  | .idle =>
    if world.closed.contains c.session.connection.number then
      .failed (.search (.closed c.session.server c.query.base))
    else if c.pageSize = 0 then
      c.query.wholeFindings (network.answer (.search c.session.connection c.query) world.network).1
    else
      c.query.pagedFindings
        (network.answer (.pagedSearch c.session.connection c.query c.pageSize) world.network).1

/-- The outcome of a step of a cursor is the next thing that was left to find. -/
def Gives (c : Cursor) (left : Findings) : Except Failure (Option (Entry × Cursor)) → Prop
  | .ok (some (entry, rest)) =>
    ∃ progress, progress ≠ .idle ∧ rest = { c with progress := progress } ∧
      left = ⟨entry :: rest.known.entries, rest.known.failure⟩
  | .ok none => left = ⟨[], none⟩
  | .error failure => left = .failed failure

end Cursor

namespace SearchRequest

variable {σ : Type}

def findings (r : SearchRequest) (session : Session) (network : Network σ) (world : World σ) :
    Findings :=
  match r.filter with
  | .error failure => .failed failure
  | .ok filter => Cursor.left ⟨session, r.query filter, r.limits.page, .idle⟩ network world

def ambiguity (r : SearchRequest) : Failure :=
  match r.filter with
  | .ok filter => .search (.ambiguous filter r.base)
  | .error failure => failure

end SearchRequest

/-! ## Steps of a cursor -/

open Operation World

variable {σ : Type} {network : Network σ} {world : World σ}

namespace Session

theorem run_isClosed (s : Session) :
    s.isClosed.run network world = (.ok (world.closed.contains s.connection.number), world) := rfl

end Session

namespace Item

theorem entries_cons_of_entry {item : Item} (items : List Item) (h : item.isEntry = true) :
    entries (item :: items) = item.entry :: entries items := by
  simp [entries, h]

theorem entries_cons_of_other {item : Item} (items : List Item) (h : ¬ item.isEntry = true) :
    entries (item :: items) = entries items := by
  simp [entries, h]

theorem length_entries_le (items : List Item) : (entries items).length ≤ items.length := by
  rw [entries, List.length_map]
  exact List.length_filter_le _ _

end Item

namespace Cursor

theorem run_checkOpen_of_open {c : Cursor} (isOpen : c.session.IsOpen world) :
    c.checkOpen.run network world = (.ok (), world) := by
  have shut : world.closed.contains c.session.connection.number = false := by
    simpa [Session.IsOpen] using isOpen
  rw [checkOpen, run_bind_of_ok (Session.run_isClosed _), shut]
  rfl

theorem run_checkOpen_of_closed {c : Cursor} (closed : ¬ c.session.IsOpen world) :
    c.checkOpen.run network world =
      (.error (.search (.closed c.session.server c.query.base)), world) := by
  have shut : world.closed.contains c.session.connection.number = true := by
    simpa [Session.IsOpen] using closed
  rw [checkOpen, run_bind_of_ok (Session.run_isClosed _), shut]
  rfl

/-- Reading on in a whole answer passes over items that are no entries. -/
theorem run_nextRead (network : Network σ) {c : Cursor} (isOpen : c.session.IsOpen world)
    (items : List Item) :
    ∃ found, (c.nextRead items).run network world = (.ok found, world) ∧
      Item.entries items = (found.map fun p => p.1 :: Item.entries p.2).getD [] := by
  induction items with
  | nil => exact ⟨none, rfl, rfl⟩
  | cons item items ih =>
    rw [nextRead, run_bind_of_ok (run_checkOpen_of_open isOpen)]
    by_cases h : item.isEntry = true
    · refine ⟨some (item.entry, items), ?_, Item.entries_cons_of_entry items h⟩
      rw [if_pos h]
      rfl
    · rw [if_neg h, Item.entries_cons_of_other items h]
      exact ih

/-- Reading on in a paged answer does the same, and fails at the end where there is a fault. -/
theorem run_nextPaged (network : Network σ) {c : Cursor} (isOpen : c.session.IsOpen world)
    (search : Nat) (fault : Option Fault) (position : Nat) (items : List Item) :
    match ((c.nextPaged search fault position items).run network world).1 with
    | .ok (some (entry, _, rest)) => Item.entries items = entry :: Item.entries rest
    | .ok none => Item.entries items = [] ∧ fault = none
    | .error failure => Item.entries items = [] ∧ fault.map c.pageFailure = some failure := by
  induction items generalizing position world with
  | nil =>
    cases fault with
    | none => exact ⟨rfl, rfl⟩
    | some fault => exact ⟨rfl, rfl⟩
  | cons item items ih =>
    have stillOpen : c.session.IsOpen (world.noted (.page search (.item position))) := isOpen
    rw [nextPaged, run_bind_of_ok (run_record _), run_bind_of_ok (run_checkOpen_of_open stillOpen)]
    by_cases h : item.isEntry = true
    · rw [if_pos h]
      exact Item.entries_cons_of_entry items h
    · rw [if_neg h, Item.entries_cons_of_other items h]
      exact ih stillOpen (position + 1)

theorem started_of_begun {c : Cursor} (begun : c.progress ≠ .idle) :
    (c.started : Operation σ Cursor) = pure c := by
  obtain ⟨session, query, pageSize, progress⟩ := c
  cases progress with
  | idle => exact absurd rfl begun
  | reading items => rfl
  | paging search position items fault => rfl

theorem left_of_begun (network : Network σ) (world : World σ) {c : Cursor}
    (begun : c.progress ≠ .idle) :
    c.left network world = c.known := by
  obtain ⟨session, query, pageSize, progress⟩ := c
  cases progress with
  | idle => exact absurd rfl begun
  | reading items => rfl
  | paging search position items fault => rfl

/-- A cursor whose answer is there gives what is left of it. -/
theorem next_gives_known (network : Network σ) {c : Cursor} (begun : c.progress ≠ .idle)
    (isOpen : c.session.IsOpen world) : c.Gives c.known (c.next.run network world).1 := by
  obtain ⟨session, query, pageSize, progress⟩ := c
  cases progress with
  | idle => exact absurd rfl begun
  | reading items =>
    obtain ⟨found, ran, entries⟩ := run_nextRead network isOpen items
    have next : (next ⟨session, query, pageSize, .reading items⟩).run network world =
        (.ok (found.map fun p => (p.1, ⟨session, query, pageSize, .reading p.2⟩)), world) :=
      run_bind_of_ok ran
    rw [next]
    cases found with
    | none => exact congrArg (Findings.mk · none) entries
    | some p => exact ⟨.reading p.2, by simp, rfl, congrArg (Findings.mk · none) entries⟩
  | paging search position items fault =>
    have paged := run_nextPaged network isOpen search fault position items
    rw [Cursor.next, started, pure_bind, run_attempt_bind]
    rcases ran : (nextPaged ⟨session, query, pageSize, .paging search position items fault⟩
      search fault position items).run network world with ⟨outcome, after⟩
    rw [ran] at paged
    cases outcome with
    | ok found =>
      cases found with
      | some found =>
        obtain ⟨entry, position, rest⟩ := found
        exact ⟨.paging search position rest fault, by simp, rfl,
          congrArg (Findings.mk · _) paged⟩
      | none =>
        obtain ⟨entries, rfl⟩ := paged
        exact congrArg (Findings.mk · none) entries
    | error failure =>
      obtain ⟨entries, failed⟩ := paged
      change Findings.mk _ _ = _
      rw [entries, failed]
      rfl

/-- The outcome of sending a request: an answer to read, or the failure that is left to find. -/
def Sent (c : Cursor) (left : Findings) : Except Failure Progress → Prop
  | .ok progress => progress ≠ .idle ∧ left = known { c with progress := progress }
  | .error failure => left = .failed failure

theorem askWhole_sent (c : Cursor) :
    c.Sent (c.query.wholeFindings
        (network.answer (.search c.session.connection c.query) world.network).1)
      (c.askWhole.run network world).1 := by
  rw [askWhole_eq, run_bind, asked, run_translating, run_perform]
  cases (network.answer (.search c.session.connection c.query) world.network).1 with
  | error fault => rfl
  | ok reply =>
    change Sent c _ (run _ network _).1
    unfold Query.wholeFindings take
    dsimp only
    cases c.query.refusal? reply.report with
    | some error => rfl
    | none =>
      dsimp only
      split
      · exact ⟨by simp, rfl⟩
      · exact ⟨by simp, rfl⟩

theorem askPaged_sent (c : Cursor) :
    c.Sent (c.query.pagedFindings
        (network.answer (.pagedSearch c.session.connection c.query c.pageSize) world.network).1)
      (c.askPaged.run network world).1 := by
  rw [askPaged, run_bind, run_perform]
  cases (network.answer (.pagedSearch c.session.connection c.query c.pageSize) world.network).1 with
  | error fault => rfl
  | ok reply => exact ⟨by simp, rfl⟩

/-- A cursor is begun with the answer, or what is left to find is a failure. -/
def Begins (c : Cursor) (left : Findings) : Except Failure Cursor → Prop
  | .ok begun => begun.progress ≠ .idle ∧ left = begun.known ∧
      ∃ progress, begun = { c with progress := progress }
  | .error failure => left = .failed failure

theorem Sent.begins {c : Cursor} {left : Findings} {ask : Operation σ Progress}
    (sent : c.Sent left (ask.run network world).1) :
    c.Begins left
      ((ask >>= fun progress => pure { c with progress := progress }).run network world).1 := by
  rcases ran : ask.run network world with ⟨outcome, after⟩
  rw [ran] at sent
  cases outcome with
  | ok progress =>
    rw [run_bind_of_ok ran]
    exact ⟨sent.1, sent.2, progress, rfl⟩
  | error failure =>
    rw [run_bind_of_error ran]
    exact sent

/-- Sending the request of a cursor makes known what was left to the network. -/
theorem started_begins (network : Network σ) (world : World σ) (c : Cursor) :
    c.Begins (c.left network world) (c.started.run network world).1 := by
  obtain ⟨session, query, pageSize, progress⟩ := c
  cases progress with
  | reading items => exact ⟨by simp, rfl, _, rfl⟩
  | paging search position items fault => exact ⟨by simp, rfl, _, rfl⟩
  | idle =>
    by_cases isOpen : session.IsOpen world
    · have shut : world.closed.contains session.connection.number = false := by
        simpa [Session.IsOpen] using isOpen
      rw [started, run_bind_of_ok (run_checkOpen_of_open isOpen)]
      simp only [left, shut]
      by_cases whole : pageSize = 0
      · simp only [whole, if_true]
        exact (askWhole_sent ⟨session, query, 0, .idle⟩).begins
      · simp only [whole, if_false]
        exact (askPaged_sent ⟨session, query, pageSize, .idle⟩).begins
    · have shut : world.closed.contains session.connection.number = true := by
        simpa [Session.IsOpen] using isOpen
      rw [started, run_bind_of_error (run_checkOpen_of_closed isOpen)]
      simp only [left, shut]
      rfl

theorem left_of_open {c : Cursor} (idle : c.progress = .idle) (isOpen : c.session.IsOpen world) :
    c.left network world =
      if c.pageSize = 0 then
        c.query.wholeFindings
          (network.answer (.search c.session.connection c.query) world.network).1
      else
        c.query.pagedFindings
          (network.answer (.pagedSearch c.session.connection c.query c.pageSize)
            world.network).1 := by
  have shut : world.closed.contains c.session.connection.number = false := by
    simpa [Session.IsOpen] using isOpen
  simp only [left, idle, shut, Bool.false_eq_true, if_false]

/-- A step of a cursor gives the next thing that is left to find, if its session is open. -/
theorem next_gives (network : Network σ) {c : Cursor} (isOpen : c.session.IsOpen world) :
    c.Gives (c.left network world) (c.next.run network world).1 := by
  have begins := c.started_begins network world
  rcases ran : c.started.run network world with ⟨outcome, after⟩
  have steps := c.started_callsOnly.steps ran
  rw [ran] at begins
  cases outcome with
  | error failure =>
    rw [next, run_bind_of_error ran]
    exact begins
  | ok begun =>
    obtain ⟨some, known, progress, rfl⟩ := begins
    have rest := next_gives_known network some (isOpen.after_searches steps)
    rw [next, run_bind_of_ok ran, known]
    rw [next, started_of_begun some, pure_bind] at rest
    exact rest

theorem run_stop (network : Network σ) (world : World σ) (c : Cursor) :
    ∃ after, c.stop.run network world = (.ok (), after) := by
  rw [stop]
  cases c.progress with
  | idle => exact ⟨_, rfl⟩
  | reading items => exact ⟨_, rfl⟩
  | paging search position items fault => exact ⟨_, rfl⟩

/-- Collecting gives all that is left, with a limit above the number of entries. -/
theorem collect_outcome {limit : Nat} {c : Cursor} (isOpen : c.session.IsOpen world)
    (enough : (c.left network world).entries.length < limit) :
    ((collect limit c).run network world).1 = (c.left network world).all := by
  induction limit generalizing c world with
  | zero => omega
  | succ limit ih =>
    have gives := next_gives network isOpen
    rcases ran : c.next.run network world with ⟨outcome, after⟩
    have steps := c.next_callsOnly.steps ran
    rw [ran] at gives
    match outcome with
    | .error failure =>
      rw [collect, run_bind_of_error ran, gives]
      rfl
    | .ok none =>
      rw [collect, run_bind_of_ok ran, gives]
      rfl
    | .ok (some (entry, rest)) =>
      obtain ⟨progress, begun, same, left⟩ := gives
      have tailBegun : rest.progress ≠ .idle := by rw [same]; exact begun
      have tailKnown := left_of_begun network after tailBegun
      have restOpen : rest.session.IsOpen after := by
        rw [same]
        exact isOpen.after_searches steps
      have tail := ih restOpen (by rw [left, List.length_cons] at enough; rw [tailKnown]; omega)
      rw [tailKnown] at tail
      rw [collect, run_bind_of_ok ran, left]
      rcases collected : (collect limit rest).run network after with ⟨outcome, last⟩
      rw [collected] at tail
      dsimp only at tail ⊢
      cases failed : rest.known.failure with
      | none =>
        rw [Findings.all, failed] at tail
        subst tail
        rw [run_bind_of_ok collected]
        rfl
      | some failure =>
        rw [Findings.all, failed] at tail
        subst tail
        rw [run_bind_of_error collected]
        rfl

theorem length_known_le (c : Cursor) : c.known.entries.length ≤ c.unread := by
  obtain ⟨session, query, pageSize, progress⟩ := c
  cases progress with
  | idle => exact Nat.le_refl _
  | reading items => exact Item.length_entries_le items
  | paging search position items fault => exact Item.length_entries_le items

/-- Draining a cursor gives all that is left. -/
theorem drain_outcome {c : Cursor} (isOpen : c.session.IsOpen world) :
    (c.drain.run network world).1 = (c.left network world).all := by
  have begins := c.started_begins network world
  rcases ran : c.started.run network world with ⟨outcome, after⟩
  have steps := c.started_callsOnly.steps ran
  rw [ran] at begins
  cases outcome with
  | error failure =>
    rw [drain, run_bind_of_error ran, begins]
    rfl
  | ok begun =>
    obtain ⟨some, left, progress, same⟩ := begins
    have known := left_of_begun network after some
    rw [drain, run_bind_of_ok ran, left, ← known]
    refine collect_outcome (same ▸ isOpen.after_searches steps) ?_
    rw [known]
    exact Nat.lt_succ_of_le begun.length_known_le

/-- Nothing is sent on a session that is closed. -/
theorem run_started_of_closed (network : Network σ) {c : Cursor} (idle : c.progress = .idle)
    (closed : ¬ c.session.IsOpen world) :
    c.started.run network world =
        (.error (.search (.closed c.session.server c.query.base)), world) ∧
      c.left network world = .failed (.search (.closed c.session.server c.query.base)) := by
  have shut : world.closed.contains c.session.connection.number = true := by
    simpa [Session.IsOpen] using closed
  constructor
  · rw [started, idle]
    exact run_bind_of_error (run_checkOpen_of_closed closed)
  · rw [left, idle]
    simp only [shut, if_true]

end Cursor

namespace SearchRequest

def cursor (r : SearchRequest) (session : Session) (filter : String) : Cursor :=
  ⟨session, r.query filter, r.limits.page, .idle⟩

theorem run_start_of_filter (network : Network σ) (world : World σ) {r : SearchRequest}
    {filter : String} (valid : r.filter = .ok filter) (session : Session) :
    ∃ record, (r.start session).run network world =
      (.ok (r.cursor session filter), world.noted (.logged record)) := by
  rw [start, valid]
  exact ⟨_, rfl⟩

theorem run_start_of_failure {r : SearchRequest} {failure : Failure}
    (invalid : r.filter = .error failure) (session : Session) :
    (r.start session).run network world = (.error failure, world) := by
  rw [start, invalid]
  rfl

theorem findings_of_filter {r : SearchRequest} {filter : String} (valid : r.filter = .ok filter)
    (session : Session) :
    r.findings session network world = (r.cursor session filter).left network world := by
  rw [findings, valid]
  rfl

theorem findings_of_failure {r : SearchRequest} {failure : Failure}
    (invalid : r.filter = .error failure) (session : Session) :
    r.findings session network world = .failed failure := by
  rw [findings, invalid]

/-- Taking all entries of a request. -/
theorem all_outcome (r : SearchRequest) (session : Session) :
    ((r.all session).run network world).1 = (r.findings session network world).all := by
  cases valid : r.filter with
  | error failure =>
    rw [all, run_bind_of_error (run_start_of_failure valid session), findings_of_failure valid]
    rfl
  | ok filter =>
    obtain ⟨record, started⟩ := run_start_of_filter network world valid session
    rw [all, run_bind_of_ok started, findings_of_filter valid]
    by_cases isOpen : session.IsOpen world
    · have begunOpen : session.IsOpen (world.noted (.logged record)) := isOpen
      exact Cursor.drain_outcome (c := r.cursor session filter) begunOpen
    · have begunClosed : ¬ session.IsOpen (world.noted (.logged record)) := isOpen
      have closed := Cursor.run_started_of_closed network (c := r.cursor session filter) rfl
        begunClosed
      rw [Cursor.drain, run_bind_of_error closed.1]
      exact (congrArg Findings.all closed.2).symm

/-- Taking the one entry of a request. -/
theorem unique_outcome (r : SearchRequest) (session : Session) :
    ((r.unique session).run network world).1 =
      (r.findings session network world).unique r.ambiguity := by
  cases valid : r.filter with
  | error failure =>
    rw [unique, run_bind_of_error (run_start_of_failure valid session), findings_of_failure valid]
    rfl
  | ok filter =>
    obtain ⟨record, started⟩ := run_start_of_filter network world valid session
    rw [unique, run_bind_of_ok started, findings_of_filter valid]
    by_cases isOpen : session.IsOpen world
    · let c := r.cursor session filter
      have begunOpen : c.session.IsOpen (world.noted (.logged record)) := isOpen
      have first := Cursor.next_gives network begunOpen
      change c.Gives (c.left network world) _ at first
      change _ = (c.left network world).unique _
      rcases ran : c.next.run network (world.noted (.logged record)) with ⟨outcome, after⟩
      have steps := c.next_callsOnly.steps ran
      rw [ran] at first
      match outcome with
      | .error failure =>
        rw [run_bind_of_error ran, first]
        rfl
      | .ok none =>
        rw [run_bind_of_ok ran, first]
        rfl
      | .ok (some (entry, rest)) =>
        -- Whether the entry is the only one is known from a second step.
        obtain ⟨progress, begun, same, left⟩ := first
        have restOpen : rest.session.IsOpen after := by
          rw [same]
          exact begunOpen.after_searches steps
        have second := Cursor.next_gives network restOpen
        rw [Cursor.left_of_begun _ _ (by rw [same]; exact begun)] at second
        rw [run_bind_of_ok ran, left]
        dsimp only
        rcases ranAgain : rest.next.run network after with ⟨outcome, last⟩
        rw [ranAgain] at second
        match outcome with
        | .error failure =>
          rw [run_bind_of_error ranAgain, second]
          rfl
        | .ok none =>
          rw [run_bind_of_ok ranAgain, second]
          rfl
        | .ok (some (other, rest)) =>
          obtain ⟨_, _, _, more⟩ := second
          obtain ⟨stopped, ranStop⟩ := rest.run_stop network last
          rw [run_bind_of_ok ranAgain, more]
          dsimp only
          rw [run_bind_of_ok ranStop, ambiguity, valid]
          rfl
    · have begunClosed : ¬ session.IsOpen (world.noted (.logged record)) := isOpen
      have closed := Cursor.run_started_of_closed network (c := r.cursor session filter) rfl
        begunClosed
      rw [Cursor.next, bind_assoc, run_bind_of_error closed.1]
      exact (congrArg (Findings.unique · r.ambiguity) closed.2).symm

end SearchRequest

end DirectoryAuth
