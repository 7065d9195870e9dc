import DirectoryAuth.Proofs.Search.Findings

/-!
# Reading on in an answer

What a step of a cursor comes to, whether its session is open or closed, and what happens meanwhile.
A cursor that is idle sends its request, and not on a closed session. From then on it reads its
answer: to the next entry, to an item that it may not read because the session was closed, or to the
end. Pages begin with the answer, and are given up in the step that gives no entry.
-/

namespace DirectoryAuth

open Operation World

variable {σ : Type}

/-! ## Items -/

/-- What reading on in the items of an answer comes to. -/
inductive Sight where
  | entry (entry : Entry) (rest : List Item)
  | shut
  | finished

namespace Item

/-- Reads on to the next entry. On a closed session no item may be read, of whatever kind. -/
def sight (closed : Bool) : List Item → Sight
  | [] => .finished
  | item :: items =>
    if closed then .shut else if item.isEntry then .entry item.entry items else sight closed items

/-- The items of an answer that are unread when so many entries were given. -/
def unread : (given : Nat) → List Item → List Item
  | 0, items => items
  | _ + 1, [] => []
  | given + 1, item :: items => unread (if item.isEntry then given else given + 1) items

@[simp] theorem unread_zero (items : List Item) : unread 0 items = items := by
  cases items <;> rfl

theorem sight_closed (items : List Item) :
    sight true items = if items.isEmpty then .finished else .shut := by
  cases items with
  | nil => rfl
  | cons item items => rfl

/-- Behind the next entry, those items are unread that are when one entry more was given. -/
theorem unread_of_sight {closed : Bool} {given : Nat} {items rest : List Item} {entry : Entry}
    (seen : sight closed (unread given items) = .entry entry rest) :
    rest = unread (given + 1) items := by
  have opened : closed = false := by
    cases closed with
    | false => rfl
    | true =>
      rw [sight_closed] at seen
      split at seen <;> cases seen
  subst opened
  induction items generalizing given with
  | nil => cases given <;> cases seen
  | cons item items ih =>
    cases given with
    | zero =>
      rw [unread_zero, sight] at seen
      by_cases isEntry : item.isEntry = true
      · simp only [isEntry, if_true, Bool.false_eq_true, if_false] at seen
        cases seen
        simp [unread, isEntry]
      · simp only [isEntry, Bool.false_eq_true, if_false] at seen
        have later : rest = unread 1 items := ih ((unread_zero items).symm ▸ seen)
        simp [unread, isEntry, later]
    | succ given =>
      rw [unread] at seen
      rw [ih seen, unread]
      split <;> rfl

end Item

namespace Progress

def items : Progress → List Item
  | .idle => []
  | .reading items | .paging _ _ items _ => items

def fault? : Progress → Option Fault
  | .idle | .reading _ => none
  | .paging _ _ _ fault => fault

def pages? : Progress → Option Nat
  | .idle | .reading _ => none
  | .paging search _ _ _ => some search

end Progress

/-! ## Events -/

namespace Event

def answer? : Event → Option (List Item × Option Fault)
  | .exchange (.search _ _) (.ok reply) => some (reply.items, none)
  | .exchange (.pagedSearch _ _ _) (.ok reply) => some (reply.items, reply.fault)
  | _ => none

def beginsPages : Event → Bool
  | .exchange (.pagedSearch _ _ _) (.ok _) => true
  | _ => false

def closesPages : Event → Bool
  | .page _ .closed => true
  | _ => false

def pages? : Event → Option Nat
  | .page search _ => some search
  | _ => none

end Event

/-- The answers in some events, how often pages begin and are given up, and the one search whose
pages are read, if any. -/
structure Tally (events : List Event) (answers : List (List Item × Option Fault))
    (begun closed : Nat) (pages : Option Nat) : Prop where
  answers : events.filterMap Event.answer? = answers
  begun : events.countP Event.beginsPages = begun
  closed : events.countP Event.closesPages = closed
  own : ∀ event ∈ events, ∀ search, event.pages? = some search → pages = some search

namespace Tally

variable {events others : List Event} {answers more : List (List Item × Option Fault)}
variable {b b' c c' : Nat} {pages : Option Nat}

theorem nil : Tally [] [] 0 0 pages := by
  refine ⟨rfl, rfl, rfl, ?_⟩
  intro event member
  cases member

theorem append (first : Tally events answers b c pages) (second : Tally others more b' c' pages) :
    Tally (events ++ others) (answers ++ more) (b + b') (c + c') pages where
  answers := by rw [List.filterMap_append, first.answers, second.answers]
  begun := by rw [List.countP_append, first.begun, second.begun]
  closed := by rw [List.countP_append, first.closed, second.closed]
  own event member search same := by
    rcases List.mem_append.mp member with early | late
    · exact first.own event early search same
    · exact second.own event late search same

/-- A step in reading pages, which does not give them up. -/
theorem page {search : Nat} {step : PageStep} (kept : step ≠ .closed) :
    Tally [.page search step] [] 0 0 (some search) := by
  refine ⟨rfl, rfl, ?_, ?_⟩
  · cases step with
    | closed => exact absurd rfl kept
    | _ => rfl
  · intro event member other same
    rw [List.mem_singleton.mp member] at same
    exact same

/-- Pages are given up once. -/
theorem closing (pages : Option Nat) :
    Tally (pages.toList.map (.page · .closed)) [] 0 pages.toList.length pages := by
  cases pages with
  | none => exact nil
  | some search =>
    refine ⟨rfl, rfl, rfl, ?_⟩
    intro event member other same
    rw [List.mem_singleton.mp member] at same
    exact same

/-- Reading on gives no answers, and its pages are those of the answer that is there. -/
theorem reading (first : Tally events answers b c pages) (more : Tally others [] 0 0 pages) :
    Tally (events ++ others) answers b c pages := by
  have both := first.append more
  rw [List.append_nil] at both
  exact both

/-- The pages of the answer that is there are given up once. -/
theorem ending (first : Tally events answers b 0 pages) (more : Tally others [] 0 0 pages) :
    Tally (events ++ (others ++ pages.toList.map (.page · .closed))) answers b
      pages.toList.length pages := by
  have whole := (first.reading more).append (closing pages)
  rw [List.append_assoc, List.append_nil, Nat.zero_add] at whole
  exact whole

/-- What has nothing to do with pages may be counted for any of them. -/
theorem of_pageless (pageless : ∀ event ∈ events, event.pages? = none)
    (given : events.filterMap Event.answer? = answers)
    (begins : events.countP Event.beginsPages = b) : Tally events answers b 0 pages := by
  refine ⟨given, begins, ?_, ?_⟩
  · rw [List.countP_eq_zero]
    intro event member closes
    have none := pageless event member
    cases event with
    | page search step => cases none
    | _ => cases closes
  · intro event member search same
    rw [pageless event member] at same
    cases same

end Tally

def World.noting (world : World σ) (events : List Event) : World σ :=
  { world with history := world.history ++ events }

theorem World.noting_nil (world : World σ) : world.noting [] = world := by
  rw [noting, List.append_nil]

theorem World.noting_append (world : World σ) (before after : List Event) :
    world.noting (before ++ after) = (world.noting before).noting after := by
  simp only [noting, List.append_assoc]

/-! ## Steps of a cursor whose answer is there -/

/-- What comes of an answer when there is nothing left to read: the fault behind its items, if there
is one. -/
def Query.ending {α : Type} (q : Query) : Option Fault → Except Failure (Option α)
  | none => .ok none
  | some fault => .error (if fault.isDirectory then .search (.pageFailed q.base q.filter fault)
      else .outside fault)

namespace Cursor

variable {network : Network σ} {world : World σ}

def shut (c : Cursor) : Failure := .search (.closed c.session.server c.query.base)

def isShut (c : Cursor) (world : World σ) : Bool :=
  world.closed.contains c.session.connection.number

theorem isShut_iff {c : Cursor} : c.isShut world = true ↔ ¬ c.session.IsOpen world := by
  rw [isShut, List.contains_iff_mem, Session.IsOpen, Decidable.not_not]

theorem run_checkOpen (c : Cursor) :
    c.checkOpen.run network world = (if c.isShut world then .error c.shut else .ok (), world) := by
  rw [checkOpen, run_bind_of_ok (Session.run_isClosed _)]
  change Operation.run (if c.isShut world = true then _ else _) _ _ = _
  cases c.isShut world <;> rfl

theorem run_nextRead_of_sight (network : Network σ) (world : World σ) (c : Cursor)
    (items : List Item) :
    (c.nextRead items).run network world =
      (match Item.sight (c.isShut world) items with
        | .entry entry rest => .ok (some (entry, rest))
        | .shut => .error c.shut
        | .finished => .ok none, world) := by
  induction items with
  | nil => rfl
  | cons item items ih =>
    rw [nextRead, run_bind, run_checkOpen, Item.sight]
    cases closed : c.isShut world with
    | true => rfl
    | false =>
      rw [closed] at ih
      simp only [Bool.false_eq_true, if_false]
      split
      · rfl
      · exact ih

def pagedOutcome (c : Cursor) (fault : Option Fault) (position : Nat) :
    Sight → Except Failure (Option (Entry × Nat × List Item))
  | .entry entry rest => .ok (some (entry, position, rest))
  | .shut => .error c.shut
  | .finished => c.query.ending fault

theorem run_nextPaged_of_sight (network : Network σ) (world : World σ) (c : Cursor) (search : Nat)
    (fault : Option Fault) (position : Nat) (items : List Item) :
    ∃ events behind, Tally events [] 0 0 (some search) ∧
      (c.nextPaged search fault position items).run network world =
        (c.pagedOutcome fault behind (Item.sight (c.isShut world) items), world.noting events) := by
  induction items generalizing position world with
  | nil =>
    cases fault with
    | none => exact ⟨[.page search .finished], position, .page nofun, rfl⟩
    | some fault => exact ⟨[.page search .fault], position, .page nofun, rfl⟩
  | cons item items ih =>
    have first : Tally [.page search (.item position)] [] 0 0 (some search) := .page nofun
    rw [nextPaged, run_bind_of_ok (run_record _), run_bind, run_checkOpen, Item.sight]
    have same : c.isShut (world.noted (.page search (.item position))) = c.isShut world := rfl
    rw [same]
    cases closed : c.isShut world with
    | true => exact ⟨_, position, first, rfl⟩
    | false =>
      simp only [Bool.false_eq_true, if_false]
      split
      · exact ⟨_, position + 1, first, rfl⟩
      · obtain ⟨events, behind, reads, ran⟩ :=
          ih (world.noted (.page search (.item position))) (position + 1)
        rw [same, closed] at ran
        refine ⟨[.page search (.item position)] ++ events, behind, first.append reads, ?_⟩
        rw [ran, World.noting_append]
        rfl

def closing (c : Cursor) : List Event := c.progress.pages?.toList.map (.page · .closed)

theorem run_stop_closing (network : Network σ) (world : World σ) (c : Cursor) :
    c.stop.run network world = (.ok (), world.noting c.closing) := by
  obtain ⟨session, query, pageSize, progress⟩ := c
  cases progress with
  | idle => exact congrArg _ world.noting_nil.symm
  | reading items => exact congrArg _ world.noting_nil.symm
  | paging search position items fault => rfl

/-- How reading on may go with a cursor whose answer is there. -/
inductive ReadsOn (network : Network σ) (c : Cursor) (world : World σ) : Prop
  | entry {entry : Entry} {events : List Event} (progress : Progress)
      (seen : Item.sight (c.isShut world) c.progress.items = .entry entry progress.items)
      (begun : progress ≠ .idle) (fault : progress.fault? = c.progress.fault?)
      (pages : progress.pages? = c.progress.pages?)
      (reads : Tally events [] 0 0 c.progress.pages?)
      (ran : c.next.run network world =
        (.ok (some (entry, { c with progress := progress })), world.noting events))
  | shut {events : List Event}
      (seen : Item.sight (c.isShut world) c.progress.items = .shut)
      (reads : Tally events [] 0 0 c.progress.pages?)
      (ran : c.next.run network world = (.error c.shut, world.noting (events ++ c.closing)))
  | finished {events : List Event}
      (seen : Item.sight (c.isShut world) c.progress.items = .finished)
      (reads : Tally events [] 0 0 c.progress.pages?)
      (ran : c.next.run network world =
        (c.query.ending c.progress.fault?, world.noting (events ++ c.closing)))

theorem reading_readsOn (network : Network σ) (world : World σ) (s : Session) (query : Query)
    (pageSize : Int) (items : List Item) :
    ReadsOn network ⟨s, query, pageSize, .reading items⟩ world := by
  let c : Cursor := ⟨s, query, pageSize, .reading items⟩
  have next : c.next.run network world =
      (((c.nextRead items).run network world).1.map
        (Option.map fun p => (p.1, { c with progress := .reading p.2 })),
        ((c.nextRead items).run network world).2) := run_bind_pure _ _
  rw [run_nextRead_of_sight] at next
  have unchanged : world.noting [] = world := world.noting_nil
  cases seen : Item.sight (c.isShut world) items with
  | entry entry rest =>
    rw [seen] at next
    exact .entry (.reading rest) seen nofun rfl rfl .nil (unchanged.symm ▸ next)
  | shut =>
    rw [seen] at next
    exact .shut seen .nil (unchanged.symm ▸ next)
  | finished =>
    rw [seen] at next
    exact .finished seen .nil (unchanged.symm ▸ next)

/-- Pages are given up in the step that gives no entry. -/
theorem run_next_of_paging (network : Network σ) (world : World σ) (c : Cursor)
    {search position : Nat} {items : List Item} {fault : Option Fault}
    (paging : c.progress = .paging search position items fault) :
    c.next.run network world =
      match (c.nextPaged search fault position items).run network world with
      | (.ok (some (entry, position, rest)), after) =>
        (.ok (some (entry, { c with progress := .paging search position rest fault })), after)
      | (.ok none, after) => (.ok none, after.noted (.page search .closed))
      | (.error failure, after) => (.error failure, after.noted (.page search .closed)) := by
  have begun : c.progress ≠ .idle := by rw [paging]; exact nofun
  rw [next, started_of_begun begun, pure_bind, paging]
  dsimp only
  rw [run_attempt_bind]
  rcases (c.nextPaged search fault position items).run network world with ⟨outcome, after⟩
  cases outcome with
  | ok found => cases found <;> rfl
  | error failure => rfl

theorem paging_readsOn (network : Network σ) (world : World σ) (s : Session) (query : Query)
    (pageSize : Int) (search position : Nat) (items : List Item) (fault : Option Fault) :
    ReadsOn network ⟨s, query, pageSize, .paging search position items fault⟩ world := by
  let c : Cursor := ⟨s, query, pageSize, .paging search position items fault⟩
  obtain ⟨events, behind, reads, read⟩ :=
    run_nextPaged_of_sight network world c search fault position items
  have next := run_next_of_paging network world c rfl
  rw [read] at next
  have closed : world.noting (events ++ c.closing) =
      (world.noting events).noted (.page search .closed) := world.noting_append _ _
  cases seen : Item.sight (c.isShut world) items with
  | entry entry rest =>
    rw [seen] at next
    exact .entry (.paging search behind rest fault) seen nofun rfl rfl reads next
  | shut =>
    rw [seen] at next
    exact .shut seen reads (closed.symm ▸ next)
  | finished =>
    rw [seen] at next
    refine .finished seen reads (closed.symm ▸ ?_)
    cases fault with
    | none => exact next
    | some fault => exact next

/-- A cursor whose answer is there reads on in it. -/
theorem next_readsOn (network : Network σ) (world : World σ) {c : Cursor}
    (begun : c.progress ≠ .idle) : c.ReadsOn network world := by
  obtain ⟨session, query, pageSize, progress⟩ := c
  cases progress with
  | idle => exact absurd rfl begun
  | reading items => exact reading_readsOn ..
  | paging search position items fault => exact paging_readsOn ..

/-- On a closed session, a cursor whose answer is there fails, unless all of its items were read. -/
theorem next_of_shut (network : Network σ) {c : Cursor} (begun : c.progress ≠ .idle)
    (shut : c.isShut world = true) :
    ∃ after, c.next.run network world =
      (if c.progress.items.isEmpty then c.query.ending c.progress.fault? else .error c.shut,
        after) := by
  cases c.next_readsOn network world begun with
  | entry progress seen =>
    rw [shut, Item.sight_closed] at seen
    split at seen <;> cases seen
  | shut seen reads ran =>
    rw [shut, Item.sight_closed] at seen
    split at seen
    · cases seen
    · exact ⟨_, by rw [if_neg ‹_›]; exact ran⟩
  | finished seen reads ran =>
    rw [shut, Item.sight_closed] at seen
    split at seen
    · exact ⟨_, by rw [if_pos ‹_›]; exact ran⟩
    · cases seen

/-! ## The first step of a cursor -/

/-- How sending a request may go: it is refused, or there is an answer to be read. Pages get a
number that was not given out before. -/
inductive Asks (network : Network σ) (ask : Operation σ Progress) (world : World σ) : Prop
  | refused {failure : Failure} {after : World σ} {events : List Event}
      {answers : List (List Item × Option Fault)} (tally : Tally events answers 0 0 none)
      (history : after.history = world.history ++ events)
      (ran : ask.run network world = (.error failure, after))
  | answered {after : World σ} {events : List Event} (progress : Progress)
      (begun : progress ≠ .idle)
      (tally : Tally events [(progress.items, progress.fault?)] progress.pages?.toList.length 0
        progress.pages?)
      (fresh : ∀ search, progress.pages? = some search →
        search = world.pagedSearches ∧ search < after.pagedSearches)
      (history : after.history = world.history ++ events)
      (ran : ask.run network world = (.ok progress, after))

theorem called_history {call : Call} {answer : Except Fault call.Reply}
    (given : (network.answer call world.network).1 = answer) :
    (world.called network call).history = world.history ++ [.exchange call answer] := by
  rw [← given]
  rfl

/-- A call, and what is logged about its answer, have nothing to do with pages. -/
theorem askWhole_asks (network : Network σ) (world : World σ) (c : Cursor) :
    Asks network c.askWhole world := by
  let call : Call := .search c.session.connection c.query
  let after := world.called network call
  have asked : c.asked.run network world = _ := run_translating _ _
  rw [run_perform] at asked
  rw [askWhole_eq]
  cases given : (network.answer call world.network).1 with
  | error fault =>
    rw [given] at asked
    refine .refused (.of_pageless ?_ rfl rfl) (called_history given) (run_bind_of_error asked)
    intro event member
    rw [List.mem_singleton.mp member]
    rfl
  | ok reply =>
    rw [given] at asked
    have history := called_history given
    have pageless : ∀ event ∈ [Event.exchange call (.ok reply)], event.pages? = none := by
      intro event member
      rw [List.mem_singleton.mp member]
      rfl
    have read : (c.asked >>= c.take).run network world = (c.take reply).run network after :=
      run_bind_of_ok asked
    rw [take] at read
    cases refusal : c.query.refusal? reply.report with
    | some error =>
      rw [refusal] at read
      exact .refused (.of_pageless pageless rfl rfl) history read
    | none =>
      rw [refusal] at read
      have begun : Progress.reading reply.items ≠ .idle := by
        intro same
        cases same
      have unpaged (search : Nat) : (Progress.reading reply.items).pages? ≠ some search := by
        intro paged
        cases paged
      dsimp only at read
      split at read
      · let warning : LogRecord := ⟨.warning, .search,
          s!"Size limit exceeded searching {c.query.base} with filter {c.query.filter}"⟩
        have later : (after.noted (.logged warning)).history =
            world.history ++ [.exchange call (.ok reply), .logged warning] := by
          change after.history ++ [.logged warning] = _
          rw [history, List.append_assoc]
          rfl
        refine .answered (.reading reply.items) begun (.of_pageless ?_ rfl rfl)
          (fun search paged => absurd paged (unpaged search)) later read
        intro event member
        rcases List.mem_cons.mp member with rfl | logged
        · rfl
        · rw [List.mem_singleton.mp logged]
          rfl
      · exact .answered (.reading reply.items) begun (.of_pageless pageless rfl rfl)
          (fun search paged => absurd paged (unpaged search)) history read

theorem askPaged_asks (network : Network σ) (world : World σ) (c : Cursor) :
    Asks network c.askPaged world := by
  let call : Call := .pagedSearch c.session.connection c.query c.pageSize
  have asked : (perform call).run network world = _ := run_perform call
  cases given : (network.answer call world.network).1 with
  | error fault =>
    rw [given] at asked
    refine .refused (.of_pageless ?_ rfl rfl) (called_history given) (run_bind_of_error asked)
    intro event member
    rw [List.mem_singleton.mp member]
    rfl
  | ok reply =>
    rw [given] at asked
    let after : World σ :=
      { world.called network call with pagedSearches := world.pagedSearches + 1 }
    have read : c.askPaged.run network world =
        (.ok (.paging world.pagedSearches 0 reply.items reply.fault), after) :=
      run_bind_of_ok asked
    have history : after.history = world.history ++ [.exchange call (.ok reply)] :=
      called_history given
    refine .answered (.paging world.pagedSearches 0 reply.items reply.fault) nofun
      (.of_pageless ?_ rfl rfl) ?_ history read
    · intro event member
      rw [List.mem_singleton.mp member]
      rfl
    · intro search same
      cases same
      exact ⟨rfl, Nat.lt_succ_self _⟩

/-- How the first step of a cursor may go. With an answer, it reads on in that. -/
inductive Starts (network : Network σ) (c : Cursor) (world : World σ) : Prop
  | shut (closed : c.isShut world = true) (ran : c.next.run network world = (.error c.shut, world))
  | refused {failure : Failure} {after : World σ} {events : List Event}
      {answers : List (List Item × Option Fault)} (isOpen : c.isShut world = false)
      (tally : Tally events answers 0 0 none) (history : after.history = world.history ++ events)
      (ran : c.next.run network world = (.error failure, after))
  | answered {after : World σ} {events : List Event} (progress : Progress)
      (isOpen : c.isShut world = false) (begun : progress ≠ .idle)
      (tally : Tally events [(progress.items, progress.fault?)] progress.pages?.toList.length 0
        progress.pages?)
      (fresh : ∀ search, progress.pages? = some search →
        search = world.pagedSearches ∧ search < after.pagedSearches)
      (history : after.history = world.history ++ events)
      (ran : c.next.run network world =
        (next { c with progress := progress }).run network after)

/-- On an open session, an idle cursor sends its request, and goes on with the answer to that. -/
theorem started_asks (network : Network σ) {c : Cursor} (idle : c.progress = .idle)
    (isOpen : c.isShut world = false) :
    ∃ ask : Operation σ Progress, Asks network ask world ∧
      c.started.run network world =
        (ask >>= fun progress => pure { c with progress := progress }).run network world := by
  obtain ⟨session, query, pageSize, progress⟩ := c
  subst idle
  let c : Cursor := ⟨session, query, pageSize, .idle⟩
  have check : c.checkOpen.run network world = _ := c.run_checkOpen
  rw [isOpen] at check
  rw [started, run_bind_of_ok check]
  by_cases whole : pageSize = 0
  · refine ⟨c.askWhole, c.askWhole_asks network world, ?_⟩
    rw [if_pos whole]
  · refine ⟨c.askPaged, c.askPaged_asks network world, ?_⟩
    rw [if_neg whole]

theorem next_starts (network : Network σ) (world : World σ) {c : Cursor}
    (idle : c.progress = .idle) : c.Starts network world := by
  cases closed : c.isShut world with
  | true =>
    refine .shut closed (run_bind_of_error ?_)
    obtain ⟨session, query, pageSize, progress⟩ := c
    subst idle
    refine run_bind_of_error ?_
    rw [run_checkOpen, closed]
    rfl
  | false =>
    obtain ⟨ask, asks, started⟩ := started_asks network idle closed
    cases asks with
    | refused tally history ran =>
      rw [run_bind_of_error ran] at started
      exact .refused closed tally history (run_bind_of_error started)
    | answered progress begun tally fresh history ran =>
      rw [run_bind_of_ok ran] at started
      refine .answered progress closed begun tally fresh history ?_
      rw [next, run_bind_of_ok started, next, started_of_begun begun, pure_bind]

end Cursor

end DirectoryAuth
