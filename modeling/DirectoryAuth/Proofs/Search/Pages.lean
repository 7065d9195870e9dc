import DirectoryAuth.Proofs.Search.Calls

/-!
# The connections that pages are read on

A step in reading a paged answer names the answer by its number: answers are numbered in the order
in which they are in the history. A search reads on in its own answer only. So each page is read on
the connection of the search, and none is read once the search is through.
-/

namespace DirectoryAuth

open Operation World

variable {σ α β : Type} {network : Network σ} {connection : Connection} {a b world : World σ}

/-! ## Numbers of answers -/

def Event.paged? : Event → Option Connection
  | .exchange (.pagedSearch connection _ _) (.ok _) => some connection
  | _ => none

def pagedOn (history : List Event) : List Connection := history.filterMap Event.paged?

@[simp] theorem pagedOn_append (before after : List Event) :
    pagedOn (before ++ after) = pagedOn before ++ pagedOn after :=
  List.filterMap_append

/-- An answer keeps its number. -/
theorem pagedOn_later {before after : List Event} (grows : before <+: after) {search : Nat}
    (known : (pagedOn before)[search]? = some connection) :
    (pagedOn after)[search]? = some connection := by
  obtain ⟨events, rfl⟩ := grows
  have earlier : search < (pagedOn before).length := (List.getElem?_eq_some_iff.mp known).1
  rw [pagedOn_append, List.getElem?_append_left earlier]
  exact known

/-- The next number is that of the next paged answer. -/
def World.Paged (world : World σ) : Prop := world.pagedSearches = (pagedOn world.history).length

theorem World.start_paged (state : σ) : (World.start state).Paged := rfl

/-- Steps that make no paged search leave the numbers as they are. -/
theorem World.Steps.paged {allowed : Call → Prop} (never : ¬ MayPage allowed)
    (steps : Steps network allowed a b) (paged : a.Paged) : b.Paged := by
  obtain ⟨events, history, within⟩ := steps.events_within
  have none : pagedOn events = [] := by
    refine List.filterMap_eq_nil_iff.mpr fun event member => ?_
    have calls := (within event member).calls
    cases event with
    | exchange call answer =>
      cases call with
      | pagedSearch on query size => exact absurd ⟨on, query, size, calls _ rfl⟩ never
      | _ => rfl
    | _ => rfl
  rw [World.Paged, steps.pagedSearches_eq never, history, pagedOn_append, none, List.append_nil]
  exact paged

/-! ## Reading -/

/-- From a world to a later one, no pages are read but those of answers on one connection. -/
structure World.Read (connection : Connection) (a b : World σ) : Prop where
  grows : a.history <+: b.history
  paged : b.Paged
  pages : ∀ search step, Happened (.page search step) a b →
    (pagedOn b.history)[search]? = some connection

namespace World.Read

theorem of_events {events : List Event} (history : b.history = a.history ++ events)
    (paged : b.Paged) (pages : ∀ search step, .page search step ∈ events →
      (pagedOn b.history)[search]? = some connection) : Read connection a b := by
  refine ⟨⟨events, history.symm⟩, paged, ?_⟩
  rintro search step ⟨others, same, member⟩
  have same : events = others := List.append_cancel_left (history.symm.trans same)
  exact pages search step (same ▸ member)

theorem refl (paged : a.Paged) : Read connection a a :=
  of_events (List.append_nil _).symm paged fun _ _ member => nomatch member

theorem trans {c : World σ} (first : Read connection a b) (second : Read connection b c) :
    Read connection a c := by
  refine ⟨first.grows.trans second.grows, second.paged, fun search step happened => ?_⟩
  rcases happened.split first.grows second.grows with early | late
  · exact pagedOn_later second.grows (first.pages search step early)
  · exact second.pages search step late

/-- An event that neither reads a page nor is a paged answer. -/
theorem plain {event : Event} (paged : a.Paged) (history : b.history = a.history ++ [event])
    (same : b.pagedSearches = a.pagedSearches) (silent : ¬ event.IsPage)
    (unpaged : event.paged? = none) : Read connection a b := by
  refine of_events history ?_ ?_
  · rw [World.Paged, history, pagedOn_append, same]
    simp only [pagedOn, List.filterMap_cons, unpaged, List.filterMap_nil, List.append_nil]
    exact paged
  · intro search step member
    rw [← List.mem_singleton.mp member] at silent
    exact absurd trivial silent

theorem page (paged : a.Paged) {search : Nat} (step : PageStep)
    (known : (pagedOn a.history)[search]? = some connection) :
    Read connection a (a.noted (.page search step)) := by
  have same : pagedOn (a.noted (.page search step)).history = pagedOn a.history := by
    rw [noted, pagedOn_append]
    exact List.append_nil _
  refine of_events rfl ?_ ?_
  · rw [World.Paged, same]
    exact paged
  · intro search step member
    cases List.mem_singleton.mp member
    rw [same]
    exact known

end World.Read

/-- A run reads no pages but on one connection, and what it gives is `good` in the history then. -/
structure World.Reading (network : Network σ) (connection : Connection)
    (good : α → List Event → Prop) (x : Operation σ α) (world : World σ) : Prop where
  read : Read connection world (x.run network world).2
  gives : ∀ value after, x.run network world = (.ok value, after) → good value after.history

namespace World.Reading

variable {x : Operation σ α} {good : α → List Event → Prop} {fine : β → List Event → Prop}

theorem pure (paged : world.Paged) {value : α} (known : good value world.history) :
    Reading network connection good (Pure.pure value) world := by
  refine ⟨.refl paged, fun other after ran => ?_⟩
  cases ran
  exact known

theorem throw (paged : world.Paged) (failure : Failure) :
    Reading network connection good (MonadExcept.throw failure) world :=
  ⟨.refl paged, fun _ _ ran => nomatch ran⟩

theorem ofOutcome (paged : world.Paged) {outcome : Except Failure α}
    (known : ∀ value, outcome = .ok value → good value world.history) :
    Reading network connection good (Operation.ofOutcome outcome) world := by
  refine ⟨.refl paged, fun value after ran => ?_⟩
  cases ran
  exact known value rfl

/-- What is attempted is read on from either way. -/
theorem attempt_bind {f : Except Failure α → Operation σ β}
    (first : Reading network connection good x world)
    (ok : ∀ value next, next.Paged → world.history <+: next.history → good value next.history →
      Reading network connection fine (f (.ok value)) next)
    (failed : ∀ failure next, next.Paged → world.history <+: next.history →
      Reading network connection fine (f (.error failure)) next) :
    Reading network connection fine (x.attempt >>= f) world := by
  obtain ⟨read, gives⟩ := first
  rcases ran : x.run network world with ⟨outcome, next⟩
  have whole : (x.attempt >>= f).run network world = (f outcome).run network next := by
    rw [run_attempt_bind, ran]
  rw [ran] at read
  cases outcome with
  | ok value =>
    have rest := ok value next read.paged read.grows (gives value next ran)
    refine ⟨?_, fun other after gave => rest.gives other after (whole ▸ gave)⟩
    rw [whole]
    exact read.trans rest.read
  | error failure =>
    have rest := failed failure next read.paged read.grows
    refine ⟨?_, fun other after gave => rest.gives other after (whole ▸ gave)⟩
    rw [whole]
    exact read.trans rest.read

theorem bind {f : α → Operation σ β} (first : Reading network connection good x world)
    (rest : ∀ value next, next.Paged → world.history <+: next.history →
      good value next.history → Reading network connection fine (f value) next) :
    Reading network connection fine (x >>= f) world := by
  have attempted : Reading network connection fine
      (x.attempt >>= fun outcome => Operation.ofOutcome outcome >>= f) world :=
    first.attempt_bind rest fun failure next paged _ => throw paged failure
  obtain ⟨read, gives⟩ := attempted
  rw [run_attempt_ofOutcome] at read gives
  exact ⟨read, gives⟩

theorem log (paged : world.Paged) (level : Level) (component : Component) (message : String) :
    Reading network connection (fun _ _ => True) (Operation.log level component message) world :=
  ⟨.plain paged rfl rfl id rfl, fun _ _ _ => trivial⟩

theorem page (paged : world.Paged) {search : Nat} (step : PageStep)
    (known : (pagedOn world.history)[search]? = some connection) :
    Reading network connection (fun _ _ => True) (Operation.record (.page search step)) world :=
  ⟨.page paged step known, fun _ _ _ => trivial⟩

theorem search (paged : world.Paged) (on : Connection) (query : Query)
    (translate : Fault → Failure) :
    Reading network connection (fun _ _ => True)
      ((Operation.perform (.search on query)).translating translate) world := by
  refine ⟨?_, fun _ _ _ => trivial⟩
  rw [run_translating]
  exact .plain paged rfl rfl id rfl

end World.Reading

/-! ## Cursors -/

/-- The cursor is on the connection, and if it is reading pages, so is their answer. -/
structure Cursor.On (connection : Connection) (c : Cursor) (history : List Event) : Prop where
  session : c.session.connection = connection
  pages : ∀ search position items fault, c.progress = .paging search position items fault →
    (pagedOn history)[search]? = some connection

namespace Cursor

variable {c : Cursor}

/-- Without pages, it is enough that the session is on the connection. -/
theorem On.unpaged {history : List Event} (same : c.session.connection = connection)
    (none : ∀ search position items fault, c.progress ≠ .paging search position items fault) :
    c.On connection history :=
  ⟨same, fun _ _ _ _ paging => absurd paging (none _ _ _ _)⟩

theorem checkOpen_reading (c : Cursor) (paged : world.Paged) :
    Reading network connection (fun _ _ => True) c.checkOpen world := by
  have asked : Reading network connection (fun _ _ => True) c.session.isClosed world :=
    ⟨.refl paged, fun _ _ _ => trivial⟩
  refine .bind asked fun closed next paged _ _ => ?_
  cases closed with
  | true => exact .throw paged _
  | false => exact .pure paged trivial

theorem askWhole_reading (c : Cursor) (paged : world.Paged) :
    Reading network connection (fun progress _ => ∃ items, progress = .reading items)
      c.askWhole world := by
  rw [askWhole_eq]
  refine .bind (.search paged _ _ _) fun reply next paged _ _ => ?_
  rw [take]
  cases c.query.refusal? reply.report with
  | some error => exact .throw paged _
  | none =>
    dsimp only
    split
    · exact .bind (.log paged _ _ _) fun _ next paged _ _ => .pure paged ⟨_, rfl⟩
    · exact .pure paged ⟨_, rfl⟩

/-- A paged answer gets the number that it has in the history. -/
theorem askPaged_reading (c : Cursor) (paged : world.Paged) :
    Reading network c.session.connection
      (fun progress => On c.session.connection { c with progress := progress }) c.askPaged
      world := by
  cases answered : (network.answer (.pagedSearch c.session.connection c.query c.pageSize)
    world.network).1 with
  | error fault =>
    have ran : (askPaged c).run network world = (.error (.outside fault),
        world.called network (.pagedSearch c.session.connection c.query c.pageSize)) := by
      rw [askPaged, run_bind, run_perform, answered]
      rfl
    constructor
    · rw [ran]
      refine .plain paged rfl rfl id ?_
      rw [answered]
      rfl
    · intro progress after gave
      rw [ran] at gave
      cases gave
  | ok reply =>
    let after : World σ :=
      { world.called network (.pagedSearch c.session.connection c.query c.pageSize) with
        pagedSearches := world.pagedSearches + 1 }
    have ran : (askPaged c).run network world =
        (.ok (.paging world.pagedSearches 0 reply.items reply.fault), after) := by
      rw [askPaged, run_bind, run_perform, answered]
      rfl
    have history : after.history = world.history ++
        [.exchange (.pagedSearch c.session.connection c.query c.pageSize) (.ok reply)] := by
      simp only [after, called, answered]
    have on : pagedOn after.history = pagedOn world.history ++ [c.session.connection] := by
      rw [history, pagedOn_append]
      rfl
    have numbered : after.Paged := by
      rw [World.Paged, on, List.length_append]
      exact congrArg (· + 1) paged
    constructor
    · rw [ran]
      refine .of_events history numbered fun search step member => ?_
      cases List.mem_singleton.mp member
    · intro progress last gave
      rw [ran] at gave
      cases gave
      refine ⟨rfl, fun search position items fault paging => ?_⟩
      cases paging
      rw [on, paged, List.getElem?_concat_length]

theorem started_reading (paged : world.Paged) (on : c.On connection world.history) :
    Reading network connection (fun begun => begun.On connection) c.started world := by
  obtain ⟨rfl, pages⟩ := on
  rw [started]
  cases hp : c.progress with
  | reading items => exact .pure paged ⟨rfl, pages⟩
  | paging search position items fault => exact .pure paged ⟨rfl, pages⟩
  | idle =>
    refine .bind (c.checkOpen_reading paged) fun _ next paged _ _ => ?_
    split
    · refine .bind (c.askWhole_reading paged) fun progress last paged _ whole => .pure paged ?_
      obtain ⟨items, rfl⟩ := whole
      refine .unpaged rfl ?_
      intro _ _ _ _ paging
      cases paging
    · exact .bind (c.askPaged_reading paged) fun progress last paged _ on => .pure paged on

theorem nextRead_reading (c : Cursor) (paged : world.Paged) (items : List Item) :
    Reading network connection (fun _ _ => True) (c.nextRead items) world := by
  induction items generalizing world with
  | nil => exact .pure paged trivial
  | cons item items ih =>
    refine .bind (c.checkOpen_reading paged) fun _ next paged _ _ => ?_
    split
    · exact .pure paged trivial
    · exact ih paged

theorem nextPaged_reading (c : Cursor) (paged : world.Paged) {search : Nat}
    (known : (pagedOn world.history)[search]? = some connection) (fault : Option Fault)
    (position : Nat) (items : List Item) :
    Reading network connection (fun _ _ => True) (c.nextPaged search fault position items)
      world := by
  induction items generalizing world position with
  | nil =>
    cases fault with
    | some fault => exact .bind (.page paged _ known) fun _ next paged _ _ => .throw paged _
    | none => exact .bind (.page paged _ known) fun _ next paged _ _ => .pure paged trivial
  | cons item items ih =>
    refine .bind (.page paged _ known) fun _ next paged grows _ => ?_
    refine .bind (c.checkOpen_reading paged) fun _ last paged further _ => ?_
    split
    · exact .pure paged trivial
    · exact ih paged (pagedOn_later (grows.trans further) known) _

theorem next_reading (paged : world.Paged) (on : c.On connection world.history) :
    Reading network connection
      (fun found history => ∀ entry rest, found = some (entry, rest) → rest.On connection history)
      c.next world := by
  refine .bind (started_reading paged on) fun begun next paged _ on => ?_
  cases hp : begun.progress with
  | idle => exact .pure paged fun _ _ none => nomatch none
  | reading items =>
    refine .bind (begun.nextRead_reading paged items) fun found last paged _ _ => ?_
    refine .pure paged fun entry rest same => ?_
    obtain ⟨read, -, same⟩ := Option.map_eq_some_iff.mp same
    cases same
    exact .unpaged on.session fun _ _ _ _ paging => nomatch paging
  | paging search position items fault =>
    have known := on.pages search position items fault hp
    refine .attempt_bind (begun.nextPaged_reading paged known fault position items) ?_ ?_
    · intro found last paged grows _
      have known := pagedOn_later grows known
      match found with
      | some (entry, position, rest) =>
        refine .pure paged fun entry rest same => ?_
        cases same
        refine ⟨on.session, fun search position items fault paging => ?_⟩
        cases paging
        exact known
      | none =>
        refine .bind (.page paged _ known) fun _ _ paged _ _ => .pure paged ?_
        exact fun _ _ none => nomatch none
    · intro failure last paged grows
      refine .bind (.page paged _ (pagedOn_later grows known)) fun _ _ paged _ _ => ?_
      exact .throw paged _

theorem stop_reading (paged : world.Paged) (on : c.On connection world.history) :
    Reading network connection (fun _ _ => True) c.stop world := by
  rw [stop]
  cases hp : c.progress with
  | idle => exact .pure paged trivial
  | reading items => exact .pure paged trivial
  | paging search position items fault =>
    exact .page paged _ (on.pages search position items fault hp)

theorem collect_reading (limit : Nat) (paged : world.Paged)
    (on : c.On connection world.history) :
    Reading network connection (fun _ _ => True) (collect limit c) world := by
  induction limit generalizing c world with
  | zero => exact .pure paged trivial
  | succ limit ih =>
    refine .bind (next_reading paged on) fun found next paged _ on => ?_
    match found with
    | none => exact .pure paged trivial
    | some (entry, rest) =>
      exact .bind (ih paged (on entry rest rfl)) fun _ last paged _ _ => .pure paged trivial

end Cursor

/-! ## Whole searches -/

namespace SearchRequest

theorem start_reading (r : SearchRequest) (session : Session) (paged : world.Paged) :
    Reading network session.connection (fun c => c.On session.connection) (r.start session)
      world := by
  have filtered : Reading network session.connection (fun _ _ => True)
      (Operation.ofOutcome r.filter) world := .ofOutcome paged fun _ _ => trivial
  refine .bind filtered fun filter next paged _ _ => ?_
  refine .bind (.log paged _ _ _) fun _ last paged _ _ => .pure paged ?_
  exact .unpaged rfl fun _ _ _ _ paging => nomatch paging

theorem all_reading (r : SearchRequest) (session : Session) (paged : world.Paged) :
    Reading network session.connection (fun _ _ => True) (r.all session) world := by
  refine .bind (r.start_reading session paged) fun c next paged _ on => ?_
  refine .bind (Cursor.started_reading paged on) fun begun last paged _ on => ?_
  exact Cursor.collect_reading _ paged on

theorem unique_reading (r : SearchRequest) (session : Session) (paged : world.Paged) :
    Reading network session.connection (fun _ _ => True) (r.unique session) world := by
  refine .bind (r.start_reading session paged) fun c next paged _ on => ?_
  refine .bind (Cursor.next_reading paged on) fun found next paged _ on => ?_
  match found with
  | none => exact .pure paged trivial
  | some (entry, rest) =>
    refine .bind (Cursor.next_reading paged (on entry rest rfl)) fun second next paged _ on => ?_
    match second with
    | none => exact .pure paged trivial
    | some (other, last) =>
      refine .bind (Cursor.stop_reading paged (on other last rfl)) fun _ next paged _ _ => ?_
      cases r.filter with
      | ok filter => exact .throw paged _
      | error failure => exact .throw paged _

end SearchRequest

/-! ## Searches on a connection -/

/-- Searches on a connection, and pages of their answers. -/
structure World.Searched (network : Network σ) (connection : Connection) (a b : World σ) :
    Prop where
  steps : Steps network (Call.IsSearchOn connection) a b
  read : a.Paged → Read connection a b

instance : IsPreorder (World σ) (Searched network connection) where
  refl _ := ⟨.refl _, .refl⟩
  trans _ _ _ first second :=
    ⟨first.steps.trans second.steps,
      fun paged => (first.read paged).trans (second.read (first.read paged).paged)⟩

theorem Operation.Keeps.callsOnly {x : Operation σ α}
    (hx : Keeps network (Searched network connection) x) :
    CallsOnly network (Call.IsSearchOn connection) x :=
  fun world => (hx world).steps

theorem log_searched (level : Level) (component : Component) (message : String) :
    Keeps network (Searched network connection) (log level component message) :=
  fun world => ⟨Keeps.log _ _ _ world, fun paged => (Reading.log paged _ _ _).read⟩

namespace SearchRequest

variable (session : Session)

/-- Finding all entries takes a search on the session only. -/
theorem all_searched (r : SearchRequest) :
    Keeps network (Searched network session.connection) (r.all session) :=
  fun world => ⟨r.all_callsOnly session world, fun paged => (r.all_reading session paged).read⟩

/-- Finding one entry takes a search on the session only. -/
theorem unique_searched (r : SearchRequest) :
    Keeps network (Searched network session.connection) (r.unique session) :=
  fun world =>
    ⟨r.unique_callsOnly session world, fun paged => (r.unique_reading session paged).read⟩

theorem readEntry_searched (name : String) (attributes : List String) :
    Keeps network (Searched network session.connection) (readEntry session name attributes) := by
  refine .bind (.attempt (unique_searched session _)) fun outcome => ?_
  match outcome with
  | .ok entry => exact .pure _
  | .error failure =>
    cases failure with
    | search error =>
      dsimp only
      split
      · exact .bind (log_searched _ _ _) fun _ => .pure _
      · exact .throw _
    | _ => exact .throw _

end SearchRequest

end DirectoryAuth
