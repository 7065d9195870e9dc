import DirectoryAuth.Proofs.Search.Paging
import DirectoryAuth.Proofs.Search.Reading
import DirectoryAuth.Proofs.Search.Turns

/-!
# Sequences whose session is closed

The session of sequences may be closed between any two of their turns. A sequence then gives no more
entries: it fails at once where nothing was sent for it, and later where an item of its answer is
unread. What there is behind an answer is not withheld, be it the end or a fault. However a sequence
comes to have ended, the pages of its answer are given up in that turn.
-/

namespace DirectoryAuth

open Operation World

variable {σ ι : Type}

/-! ## What is told of a sequence -/

/-- What the receipts of a sequence tell of it. -/
structure Story where
  /-- Was it asked for an entry? -/
  asked : Bool
  /-- How many entries did it give? -/
  given : Nat
  /-- Was it stopped, did it come to its end, or did it fail? -/
  ended : Bool
  events : List Event

namespace Story

def blank : Story := ⟨false, 0, false, []⟩

def add (story : Story) (events : List Event) : Option Delivery → Story
  | some (.ok (some _)) => ⟨true, story.given + 1, story.ended, story.events ++ events⟩
  | some _ => ⟨true, story.given, true, story.events ++ events⟩
  | none => ⟨story.asked, story.given, true, story.events ++ events⟩

def Reads (story : Story) (search : Nat) : Prop :=
  ∃ event ∈ story.events, event.pages? = some search

/-- What is told of the pages of an answer: they begin at most once, not before an entry is asked
for, and they are given up as often as they begin, when the sequence has ended. -/
structure PagesClosed (story : Story) : Prop where
  once : story.events.countP Event.beginsPages ≤ 1
  unasked : story.asked = false → story.events.countP Event.beginsPages = 0
  kept : story.ended = false → story.events.countP Event.closesPages = 0
  closed : story.ended = true →
    story.events.countP Event.closesPages = story.events.countP Event.beginsPages

/-- What comes of asking for an entry, by what is told of the sequence before. -/
structure Ends (story : Story) (s : Session) (query : Query) (world : World σ) (grant : Grant σ) :
    Prop where
  /-- Of a sequence that has ended there is only the end. -/
  ended : story.ended = true → grant.given = some (.ok none) ∧ grant.world = world
  /-- There are no entries of a closed session. -/
  barren : ¬ s.IsOpen world → ∀ entry, grant.given ≠ some (.ok (some entry))
  /-- Nothing is sent on a closed session. -/
  first : ¬ s.IsOpen world → story.ended = false → story.asked = false →
    grant.given = some (.error (.search (.closed s.server query.base))) ∧ grant.world = world
  /-- No item is read on a closed session, but what there is behind them. -/
  later : ¬ s.IsOpen world → story.ended = false → story.asked = true →
    ∃ items fault, story.events.filterMap Event.answer? = [(items, fault)] ∧
      grant.given = some (if (Item.unread story.given items).isEmpty then query.ending fault
        else .error (.search (.closed s.server query.base)))

end Story

/-! ## Stages -/

/-- How far a search has come, by what is told of it, and which pages it reads. -/
inductive Stage (s : Session) (query : Query) (pageSize : Int) :
    Sequence → Story → Option Nat → Prop
  | idle : Stage s query pageSize (.live ⟨s, query, pageSize, .idle⟩) .blank none
  | reading {progress : Progress} {story : Story} {items : List Item} {pages : Option Nat}
      (begun : progress ≠ .idle) (asked : story.asked = true) (going : story.ended = false)
      (unread : progress.items = Item.unread story.given items) (same : progress.pages? = pages)
      (tally : Tally story.events [(items, progress.fault?)] pages.toList.length 0 pages) :
      Stage s query pageSize (.live ⟨s, query, pageSize, progress⟩) story pages
  | ended {story : Story} {answers : List (List Item × Option Fault)} {pages : Option Nat}
      (ended : story.ended = true) (unasked : story.asked = false → story.events = [])
      (tally : Tally story.events answers pages.toList.length pages.toList.length pages) :
      Stage s query pageSize .ended story pages

/-- The pages that are read are the same as before, or are numbered anew. -/
def Renumbered (a b : World σ) (pages later : Option Nat) : Prop :=
  later = pages ∨
    ∀ search, later = some search → search = a.pagedSearches ∧ search < b.pagedSearches

/-- The pages of different searches have different numbers, all of which were given out. -/
structure Apart (world : World σ) (pages : ι → Option Nat) : Prop where
  numbered : ∀ i search, pages i = some search → search < world.pagedSearches
  apart : ∀ i j search, pages i = some search → pages j = some search → i = j

theorem Apart.later {a b : World σ} {pages : ι → Option Nat} (apart : Apart a pages)
    (grows : a.pagedSearches ≤ b.pagedSearches) : Apart b pages where
  numbered i search same := Nat.lt_of_lt_of_le (apart.numbered i search same) grows
  apart := apart.apart

theorem Apart.update [DecidableEq ι] {a b : World σ} {pages : ι → Option Nat} {i : ι}
    {own : Option Nat} (apart : Apart a pages) (grows : a.pagedSearches ≤ b.pagedSearches)
    (renumbered : Renumbered a b (pages i) own) : Apart b (Function.update pages i own) := by
  rcases renumbered with rfl | fresh
  · rw [Function.update_eq_self]
    exact apart.later grows
  -- Pages that are numbered anew were not read by anyone before.
  have strange : ∀ j search, own = some search → pages j ≠ some search := by
    intro j search mine theirs
    have earlier := apart.numbered j search theirs
    rw [(fresh search mine).1] at earlier
    exact Nat.lt_irrefl _ earlier
  refine ⟨fun j search => ?_, fun j k search => ?_⟩
  · by_cases same : j = i
    · rw [same, Function.update_self]
      exact fun mine => (fresh search mine).2
    · rw [Function.update_of_ne same]
      exact (apart.later grows).numbered j search
  · by_cases first : j = i
    · by_cases second : k = i
      · exact fun _ _ => first.trans second.symm
      · rw [first, Function.update_self, Function.update_of_ne second]
        exact fun mine theirs => absurd theirs (strange k search mine)
    · by_cases second : k = i
      · rw [second, Function.update_self, Function.update_of_ne first]
        exact fun theirs mine => absurd theirs (strange j search mine)
      · rw [Function.update_of_ne first, Function.update_of_ne second]
        exact apart.apart j k search

theorem Query.ending_ne_entry (q : Query) (fault : Option Fault) (entry : Entry) :
    q.ending fault ≠ .ok (some entry) := by
  cases fault with
  | none => exact nofun
  | some fault => exact nofun

namespace Sequence

variable {network : Network σ} {world : World σ} {c : Cursor}

theorem grant_of_ending {query : Query} {fault : Option Fault} {after : World σ}
    (ran : c.next.run network world = (query.ending fault, after)) :
    (live c).grant network world .next = ⟨some (query.ending fault), ended, after⟩ := by
  cases fault with
  | none => exact grant_of_end ran
  | some fault => exact grant_of_failure ran

/-- On a closed session, a search whose answer is there fails, unless all of its items were read. -/
theorem given_of_closed (begun : c.progress ≠ .idle) (closed : ¬ c.session.IsOpen world) :
    ((live c).grant network world .next).given =
      some (if c.progress.items.isEmpty then c.query.ending c.progress.fault?
        else .error c.shut) := by
  obtain ⟨after, ran⟩ := c.next_of_shut network begun (Cursor.isShut_iff.mpr closed)
  by_cases all : c.progress.items.isEmpty = true
  · rw [if_pos all] at ran ⊢
    rw [grant_of_ending ran]
  · rw [if_neg all] at ran ⊢
    rw [grant_of_failure ran]

end Sequence

namespace Story

theorem add_ending (story : Story) (events : List Event) (query : Query) (fault : Option Fault) :
    story.add events (some (query.ending fault)) =
      ⟨true, story.given, true, story.events ++ events⟩ := by
  cases fault <;> rfl

/-- While the session is open, nothing is said of what a search gives before it has ended. -/
theorem Ends.of_open {story : Story} {s : Session} {query : Query} {world : World σ}
    {grant : Grant σ} (isOpen : s.IsOpen world) (going : story.ended = false) :
    story.Ends s query world grant where
  ended ended := absurd (going.symm.trans ended) nofun
  barren closed := absurd isOpen closed
  first closed := absurd isOpen closed
  later closed := absurd isOpen closed

end Story

namespace Stage

variable {network : Network σ} {world : World σ} {s : Session} {query : Query} {pageSize : Int}
variable {q : Sequence} {story : Story} {pages : Option Nat}

/-- A turn takes a search from one stage to another. -/
structure Turned (s : Session) (query : Query) (pageSize : Int) (story : Story)
    (pages : Option Nat) (world : World σ) (grant : Grant σ) (events : List Event)
    (later : Option Nat) : Prop where
  history : grant.world.history = world.history ++ events
  stage : Stage s query pageSize grant.rest (story.add events grant.given) later
  pages : Renumbered world grant.world pages later

/-- Reading on in an answer takes a search to another stage, also where that answer has only just
come, with what happened before it could be read. -/
theorem turned_of_answer {c : Cursor} {progress : Progress} {items : List Item}
    {before : List Event} {middle : World σ} (begun : progress ≠ .idle)
    (going : story.ended = false) (unread : progress.items = Item.unread story.given items)
    (tally : Tally (story.events ++ before) [(items, progress.fault?)]
      progress.pages?.toList.length 0 progress.pages?)
    (renumbered : Renumbered world middle pages progress.pages?)
    (history : middle.history = world.history ++ before)
    (same : c.next.run network world =
      (Cursor.next ⟨s, query, pageSize, progress⟩).run network middle) :
    ∃ events later, Turned s query pageSize story pages world
      ((Sequence.live c).grant network world .next) events later := by
  have whole : ∀ events, (middle.noting events).history = world.history ++ (before ++ events) := by
    intro events
    rw [← List.append_assoc, ← history]
    rfl
  let answered : Cursor := ⟨s, query, pageSize, progress⟩
  have reads : answered.ReadsOn network middle := answered.next_readsOn network middle begun
  -- What happened before the answer could be read is told along with reading on in it.
  cases reads with
  | entry later seen begun fault pages reads ran =>
    have all := tally.reading reads
    rw [List.append_assoc] at all
    have rest : later.items = Item.unread (story.given + 1) items :=
      Item.unread_of_sight (unread ▸ seen)
    rw [Sequence.grant_of_entry (same.trans ran)]
    exact ⟨_, _, whole _, .reading begun rfl going rest pages (fault ▸ all), renumbered⟩
  | shut seen reads ran =>
    have all := tally.ending reads
    rw [List.append_assoc] at all
    rw [Sequence.grant_of_failure (same.trans ran)]
    exact ⟨_, _, whole _, .ended rfl nofun all, renumbered⟩
  | finished seen reads ran =>
    have all := tally.ending reads
    rw [List.append_assoc] at all
    rw [Sequence.grant_of_ending (same.trans ran)]
    refine ⟨_, _, whole _, ?_, renumbered⟩
    rw [Story.add_ending]
    exact .ended rfl nofun all

theorem next_turned (stage : Stage s query pageSize q story pages) (network : Network σ)
    (world : World σ) :
    ∃ events later, Turned s query pageSize story pages world (q.grant network world .next) events
      later := by
  have still : world.history = world.history ++ [] := (List.append_nil _).symm
  cases stage with
  | idle =>
    let c : Cursor := ⟨s, query, pageSize, .idle⟩
    have starts : c.Starts network world := c.next_starts network world rfl
    cases starts with
    | shut closed ran =>
      rw [Sequence.grant_of_failure ran]
      exact ⟨[], none, still, .ended rfl (fun _ => rfl) .nil, .inl rfl⟩
    | refused isOpen tally history ran =>
      rw [Sequence.grant_of_failure ran]
      exact ⟨_, none, history, .ended rfl nofun tally, .inl rfl⟩
    | answered progress isOpen begun tally fresh history ran =>
      have unread : progress.items = Item.unread 0 progress.items := (Item.unread_zero _).symm
      exact turned_of_answer begun rfl unread tally (.inr fresh) history ran
  | reading begun asked going unread same tally =>
    subst same
    exact turned_of_answer begun going unread (tally.reading .nil) (.inl rfl) still rfl
  | ended ended unasked tally =>
    exact ⟨[], pages, still, .ended rfl nofun (tally.reading .nil), .inl rfl⟩

theorem stop_turned (stage : Stage s query pageSize q story pages) (network : Network σ)
    (world : World σ) :
    ∃ events later, Turned s query pageSize story pages world (q.grant network world .stop) events
      later := by
  cases stage with
  | idle =>
    exact ⟨[], none, (List.append_nil _).symm, .ended rfl (fun _ => rfl) .nil, .inl rfl⟩
  | @reading progress story items pages begun asked going unread same tally =>
    subst same
    let c : Cursor := ⟨s, query, pageSize, progress⟩
    have stopped : (Sequence.live c).grant network world .stop =
        ⟨none, .ended, world.noting c.closing⟩ :=
      congrArg (fun ran => Grant.mk none .ended ran.2) (c.run_stop_closing network world)
    have never : story.asked = false → story.events ++ c.closing = [] :=
      fun unasked => absurd (asked.symm.trans unasked) nofun
    rw [stopped]
    exact ⟨c.closing, _, rfl, .ended rfl never (tally.ending .nil), .inl rfl⟩
  | ended ended unasked tally =>
    have never : story.asked = false → story.events ++ [] = [] :=
      fun never => (List.append_nil _).trans (unasked never)
    exact ⟨[], pages, (List.append_nil _).symm, .ended rfl never (tally.reading .nil), .inl rfl⟩

theorem turned (stage : Stage s query pageSize q story pages) (network : Network σ)
    (world : World σ) (wish : Wish) :
    ∃ events later, Turned s query pageSize story pages world (q.grant network world wish) events
      later := by
  cases wish with
  | next => exact stage.next_turned network world
  | stop => exact stage.stop_turned network world

theorem isOn (stage : Stage s query pageSize q story pages) : q.IsOn s := by
  cases stage with
  | idle => rfl
  | reading => rfl
  | ended => trivial

/-- At every stage, the pages of the answer are in order. -/
theorem pagesClosed (stage : Stage s query pageSize q story pages) : story.PagesClosed := by
  have atMost : pages.toList.length ≤ 1 := by
    cases pages with
    | none => exact Nat.zero_le 1
    | some search => exact Nat.le_refl 1
  cases stage with
  | idle => exact ⟨Nat.zero_le _, fun _ => rfl, fun _ => rfl, nofun⟩
  | reading begun asked going unread same tally =>
    refine ⟨tally.begun ▸ atMost, fun unasked => ?_, fun _ => tally.closed, fun ended => ?_⟩
    · exact absurd (asked.symm.trans unasked) nofun
    · exact absurd (going.symm.trans ended) nofun
  | ended ended unasked tally =>
    refine ⟨tally.begun ▸ atMost, fun never => ?_, fun going => ?_, fun _ => ?_⟩
    · rw [unasked never]
      rfl
    · exact absurd (ended.symm.trans going) nofun
    · rw [tally.begun, tally.closed]

/-- At every stage, no pages are read but those of one answer. -/
theorem pages_of_reads (stage : Stage s query pageSize q story pages) {search : Nat}
    (reads : story.Reads search) : pages = some search := by
  obtain ⟨event, member, same⟩ := reads
  cases stage with
  | idle => cases member
  | reading begun asked going unread _ tally => exact tally.own event member search same
  | ended ended unasked tally => exact tally.own event member search same

/-- At every stage, what comes of asking for an entry is as it should be. -/
theorem ends (stage : Stage s query pageSize q story pages) (network : Network σ)
    (world : World σ) : story.Ends s query world (q.grant network world .next) := by
  cases stage with
  | idle =>
    by_cases isOpen : s.IsOpen world
    · exact .of_open isOpen rfl
    let c : Cursor := ⟨s, query, pageSize, .idle⟩
    have shut : c.isShut world = true := Cursor.isShut_iff.mpr isOpen
    have starts : c.Starts network world := c.next_starts network world rfl
    cases starts with
    | shut _ ran =>
      rw [Sequence.grant_of_failure ran]
      exact ⟨nofun, nofun, fun _ _ _ => ⟨rfl, rfl⟩, nofun⟩
    | refused isOpen => exact absurd (shut.symm.trans isOpen) nofun
    | answered progress isOpen => exact absurd (shut.symm.trans isOpen) nofun
  | @reading progress story items pages begun asked going unread same tally =>
    by_cases isOpen : s.IsOpen world
    · exact .of_open isOpen going
    let c : Cursor := ⟨s, query, pageSize, progress⟩
    have given : ((Sequence.live c).grant network world .next).given = _ :=
      Sequence.given_of_closed begun isOpen
    rw [show c.progress.items = _ from unread] at given
    refine ⟨fun ended => ?_, fun _ entry => ?_, fun _ _ unasked => ?_, fun _ _ _ => ?_⟩
    · exact absurd (going.symm.trans ended) nofun
    · rw [given, ne_eq, Option.some_inj]
      split
      · exact c.query.ending_ne_entry _ entry
      · exact nofun
    · exact absurd (asked.symm.trans unasked) nofun
    · exact ⟨items, progress.fault?, tally.answers, given⟩
  | ended ended =>
    refine ⟨fun _ => ⟨rfl, rfl⟩, nofun, fun _ going => ?_, fun _ going => ?_⟩
    · exact absurd (ended.symm.trans going) nofun
    · exact absurd (ended.symm.trans going) nofun

end Stage

/-! ## Turns -/

namespace Readings

/-- Searches on a session, by what they ask for and the sizes of their pages, before the first
turn. -/
def begin (world : World σ) (s : Session) (searches : ι → Query × Int) : Readings σ ι where
  world := world
  sequences i := .live ⟨s, (searches i).1, (searches i).2, .idle⟩
  receipts := []

variable [DecidableEq ι] {network : Network σ} {s : Session} {searches : ι → Query × Int}
variable {t : Readings σ ι} {pages : ι → Option Nat}

def story (t : Readings σ ι) (i : ι) : Story :=
  (t.own i).foldl (fun story receipt => story.add receipt.events receipt.given) .blank

theorem story_use_self {i : ι} {wish : Wish} {events : List Event}
    (history : ((t.sequences i).grant network t.world wish).world.history =
      t.world.history ++ events) :
    (t.use network s (.of i wish)).story i =
      (t.story i).add events ((t.sequences i).grant network t.world wish).given := by
  rw [story, own_use_self, List.foldl_append, World.since_eq history]
  rfl

theorem story_use_other {i j : ι} {wish : Wish} (different : i ≠ j) :
    (t.use network s (.of j wish)).story i = t.story i := by
  rw [story, own_use_other different, story]

theorem story_use_close {i : ι} : (t.use network s .close).story i = t.story i := by
  rw [story, own_use_close, story]

/-- Each search is at some stage, and no two of them read the same pages. -/
structure Staged (s : Session) (searches : ι → Query × Int) (t : Readings σ ι)
    (pages : ι → Option Nat) : Prop where
  stage : ∀ i, Stage s (searches i).1 (searches i).2 (t.sequences i) (t.story i) (pages i)
  apart : Apart t.world pages

theorem begin_staged (world : World σ) (s : Session) (searches : ι → Query × Int) :
    (begin world s searches).Staged s searches fun _ => none :=
  ⟨fun _ => .idle, nofun, nofun⟩

/-- A turn of one search takes it to another stage, and leaves the others where they are. -/
theorem Staged.use_of (staged : t.Staged s searches pages) (network : Network σ) (i : ι)
    (wish : Wish) : ∃ later, (t.use network s (.of i wish)).Staged s searches later := by
  obtain ⟨events, own, history, stage, renumbered⟩ :=
    (staged.stage i).turned network t.world wish
  have grows : t.world.pagedSearches ≤ (t.use network s (.of i wish)).world.pagedSearches :=
    (use_steps (fun j => (staged.stage j).isOn) i wish).pagedSearches_le
  refine ⟨Function.update pages i own, fun j => ?_, staged.apart.update grows renumbered⟩
  by_cases same : j = i
  · subst same
    rw [sequences_use_self, story_use_self history, Function.update_self]
    exact stage
  · rw [sequences_use_other same, story_use_other same, Function.update_of_ne same]
    exact staged.stage j

/-- Closing the session leaves every search at its stage. -/
theorem Staged.use_close (staged : t.Staged s searches pages) (network : Network σ) :
    (t.use network s .close).Staged s searches pages where
  stage i := by
    rw [story_use_close]
    exact staged.stage i
  apart := staged.apart.later (s.close_callsOnly t.world).pagedSearches_le

theorem Staged.useAll (staged : t.Staged s searches pages) (network : Network σ)
    (uses : List (Use ι)) : ∃ later, (t.useAll network s uses).Staged s searches later := by
  induction uses generalizing t pages with
  | nil => exact ⟨pages, staged⟩
  | cons use rest ih =>
    cases use with
    | close => exact ih (staged.use_close network)
    | of i wish =>
      obtain ⟨later, staged⟩ := staged.use_of network i wish
      exact ih staged

/-- The session is closed by the turns that close it, and by no others. -/
theorem isOpen_useAll (on : t.IsOn s) (uses : List (Use ι)) :
    s.IsOpen (t.useAll network s uses).world ↔ s.IsOpen t.world ∧ .close ∉ uses := by
  induction uses generalizing t with
  | nil => simp [useAll]
  | cons use rest ih =>
    rw [useAll_cons, ih (on.use use), List.mem_cons, not_or, ← and_assoc]
    refine and_congr_left fun _ => ?_
    cases use with
    | close =>
      have shut : ¬ s.IsOpen (t.use network s .close).world := s.close_shuts network t.world
      exact ⟨fun isOpen => absurd isOpen shut, fun never => absurd rfl never.2⟩
    | of i wish =>
      have steps : World.Steps network _ t.world (t.use network s (.of i wish)).world :=
        use_steps on i wish
      rw [Session.IsOpen, steps.closed_eq fun _ => id]
      have other : Use.close ≠ .of i wish := by
        intro same
        cases same
      exact ⟨fun isOpen => ⟨isOpen, other⟩, fun both => both.1⟩

/-- Closing a session ends the searches on it. Whatever turns there were, in whatever order: the
session is closed once a turn has closed it; what comes of asking a search for its next entry is
then up to what is told of it, and is no entry; the pages of a search are given up as often as they
begin, which is once at most; and no two searches read the same pages. -/
theorem ended_by_closing (network : Network σ) (world : World σ) (s : Session)
    (searches : ι → Query × Int) (uses : List (Use ι)) (i : ι) :
    let read := (begin world s searches).useAll network s uses
    (s.IsOpen read.world ↔ s.IsOpen world ∧ .close ∉ uses) ∧
    (read.story i).Ends s (searches i).1 read.world
      ((read.sequences i).grant network read.world .next) ∧
    (read.story i).PagesClosed ∧
    ∀ j search other, (read.story i).Reads search → (read.story j).Reads other →
      (search = other ↔ i = j) := by
  intro read
  have on : (begin world s searches).IsOn s := fun _ => rfl
  obtain ⟨pages, staged⟩ : ∃ pages, read.Staged s searches pages :=
    (begin_staged world s searches).useAll network uses
  refine ⟨isOpen_useAll on uses, (staged.stage i).ends network read.world,
    (staged.stage i).pagesClosed, fun j search other mine theirs => ?_⟩
  have mine := (staged.stage i).pages_of_reads mine
  have theirs := (staged.stage j).pages_of_reads theirs
  constructor
  · rintro rfl
    exact staged.apart.apart i j search mine theirs
  · rintro rfl
    exact Option.some.inj (mine.symm.trans theirs)

end Readings

namespace Rehearsal

def lost : PagedReply :=
  ⟨none, [item (some "uid=jdoe,dc=x") []], some (.directory "connection lost")⟩

def losing : Script :=
  script { Script.Directory.empty with
    otherwise := { Script.Rule.empty with
      items := lost.items
      fault := lost.fault
      faultAfter := 1 } }

/-- A search for everyone gave its person before its session was closed. -/
def interrupted : Readings Script Unit :=
  (Readings.begin (.start losing) searching fun _ => (everyone.query "(uid=*)", 2)).useAll
    Script.network searching [.of () .next, .close]

end Rehearsal

open Rehearsal

/-- Closing the session does not hide that the pages broke off: although no item is unread, the next
wish is met with a failure and not with the end. -/
theorem Readings.fails_behind_items :
    ¬ searching.IsOpen interrupted.world ∧
    (interrupted.story ()).asked = true ∧ (interrupted.story ()).ended = false ∧
    (interrupted.story ()).events.filterMap Event.answer? = [(lost.items, lost.fault)] ∧
    Item.unread (interrupted.story ()).given lost.items = [] ∧
    ((interrupted.sequences ()).grant Script.network interrupted.world .next).given =
      some (.error (.search (.pageFailed "dc=x" "(uid=*)" (.directory "connection lost")))) := by
  have closed : searching.connection.number ∈ interrupted.world.closed := by decide +kernel
  exact ⟨not_not_intro closed, by decide +kernel, by decide +kernel, rfl, by decide +kernel, rfl⟩

end DirectoryAuth
