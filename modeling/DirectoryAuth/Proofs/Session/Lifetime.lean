import DirectoryAuth.Proofs.Session.Course
import Mathlib.Data.List.Nodup

/-!
# Lifetimes of connections

A connection lives from the call that makes it to the call that gives it up. Operations take turns
with connections: each connection that is made is given up before the next one is made, by the
time the operation is through, and whatever any call on it was answered.
-/

namespace DirectoryAuth

/-! ## Turns -/

inductive Turn where
  | made (connection : Connection)
  | unbound (connection : Connection)

def Turn.made? : Turn → Option Connection
  | made connection => some connection
  | unbound _ => none

def Turn.unbound? : Turn → Option Connection
  | made _ => none
  | unbound connection => some connection

/-- A connection that could not be made has no life; one is given up by the call that says so,
whatever the answer. -/
def Event.turn? : Event → Option Turn
  | .exchange (.connect connection) (.ok _) => some (.made connection)
  | .exchange (.unbind connection) _ => some (.unbound connection)
  | _ => none

def turns (events : List Event) : List Turn := events.filterMap Event.turn?

def made (events : List Event) : List Connection := (turns events).filterMap Turn.made?

/-- The connections that were given up, as often as that was done. -/
def unbound (events : List Event) : List Connection := (turns events).filterMap Turn.unbound?

/-- Connections are made and given up one by one. -/
structure Balanced (events : List Event) : Prop where
  /-- No two connections that are made have the same number. -/
  distinct : ((made events).map (·.number)).Nodup
  /-- Each connection that is made is given up exactly once. -/
  once : ∀ connection ∈ made events, (unbound events).count connection = 1
  /-- Only what was made is given up. -/
  only : ∀ connection ∈ unbound events, connection ∈ made events
  /-- At every moment, at most one connection is made and not given up. -/
  single : ∀ front, front <+: events →
    ((made front).filter fun connection => connection ∉ unbound front).length ≤ 1

def Turn.life (connection : Connection) : List Turn := [.made connection, .unbound connection]

theorem filterMap_made_lives (connections : List Connection) :
    (connections.flatMap Turn.life).filterMap Turn.made? = connections := by
  induction connections with
  | nil => rfl
  | cons connection rest ih =>
    rw [List.flatMap_cons, List.filterMap_append, ih]
    rfl

theorem filterMap_unbound_lives (connections : List Connection) :
    (connections.flatMap Turn.life).filterMap Turn.unbound? = connections := by
  induction connections with
  | nil => rfl
  | cons connection rest ih =>
    rw [List.flatMap_cons, List.filterMap_append, ih]
    rfl

/-- In the midst of lives that follow one another, one connection may be alive. -/
theorem alive_length_le_one {connections : List Connection} {front : List Turn}
    (begun : front <+: connections.flatMap Turn.life) :
    ((front.filterMap Turn.made?).filter
      fun connection => connection ∉ front.filterMap Turn.unbound?).length ≤ 1 := by
  induction connections generalizing front with
  | nil =>
    rw [List.flatMap_nil, List.prefix_nil] at begun
    rw [begun]
    exact Nat.zero_le 1
  | cons connection rest ih =>
    rw [List.flatMap_cons] at begun
    rcases List.prefix_cons_iff.mp begun with rfl | ⟨later, rfl, given⟩
    · exact Nat.zero_le 1
    rcases List.prefix_cons_iff.mp given with rfl | ⟨later, rfl, next⟩
    · exact List.length_filter_le _ _
    -- The first connection is given up, so that only the later ones count.
    refine Nat.le_trans ?_ (ih next)
    have dropped : ∀ other : Connection,
        (other ∉ connection :: later.filterMap Turn.unbound?) →
          other ∉ later.filterMap Turn.unbound? := by
      intro other none member
      exact none (List.mem_cons_of_mem _ member)
    simp only [List.filterMap_cons, Turn.made?, Turn.unbound?, ← List.countP_eq_length_filter]
    rw [List.countP_cons_of_neg (by simp)]
    apply List.countP_mono_left
    intro other _ alive
    exact decide_eq_true (dropped other (of_decide_eq_true alive))

theorem Balanced.of_lives {events : List Event} {connections : List Connection}
    (lives : turns events = connections.flatMap Turn.life)
    (distinct : (connections.map (·.number)).Nodup) : Balanced events := by
  have made_eq : made events = connections := by
    rw [made, lives, filterMap_made_lives]
  have unbound_eq : unbound events = connections := by
    rw [unbound, lives, filterMap_unbound_lives]
  constructor
  · rw [made_eq]
    exact distinct
  · intro connection member
    rw [unbound_eq]
    rw [made_eq] at member
    exact List.count_eq_one_of_mem distinct.of_map member
  · intro connection member
    rw [unbound_eq] at member
    rw [made_eq]
    exact member
  · intro front begun
    have begun : turns front <+: turns events := begun.filterMap _
    rw [lives] at begun
    exact alive_length_le_one begun

@[simp] theorem turns_append (before after : List Event) :
    turns (before ++ after) = turns before ++ turns after :=
  List.filterMap_append

/-- Calls that have to do with no life take no turns. -/
theorem turns_eq_nil {events : List Event}
    (settled : ∀ event ∈ events, ∀ call, event.call? = some call → call.IsSettled) :
    turns events = [] := by
  apply List.filterMap_eq_nil_iff.mpr
  intro event member
  have settled := settled event member
  cases event with
  | exchange call answer =>
    have settled := settled call rfl
    cases call with
    | connect connection => exact absurd settled id
    | unbind connection => exact absurd settled id
    | _ => rfl
  | _ => rfl

/-! ## Worlds -/

variable {σ α : Type} {network : Network σ} {a b c : World σ}

/-- Sessions that were closed have numbers that were given out. -/
def World.Numbered (world : World σ) : Prop := ∀ number ∈ world.closed, number < world.connections

theorem World.start_numbered (state : σ) : (World.start state).Numbered := by
  intro number member
  cases member

/-- What happened from one world to the next takes a life each for some new connections. -/
structure Tidy (a b : World σ) : Prop where
  numbered : b.Numbered
  later : a.connections ≤ b.connections
  lives : ∃ (events : List Event) (connections : List Connection),
    b.history = a.history ++ events ∧
    turns events = connections.flatMap Turn.life ∧
    (connections.map (·.number)).Nodup ∧
    ∀ connection ∈ connections,
      a.connections ≤ connection.number ∧ connection.number < b.connections

theorem Tidy.refl (numbered : a.Numbered) : Tidy a a := by
  refine ⟨numbered, Nat.le_refl _, [], [], (List.append_nil _).symm, rfl, List.nodup_nil, ?_⟩
  intro connection member
  cases member

theorem Tidy.trans (first : Tidy a b) (second : Tidy b c) : Tidy a c := by
  obtain ⟨-, later₁, events₁, connections₁, history₁, lives₁, distinct₁, new₁⟩ := first
  obtain ⟨numbered, later₂, events₂, connections₂, history₂, lives₂, distinct₂, new₂⟩ := second
  refine ⟨numbered, Nat.le_trans later₁ later₂, events₁ ++ events₂, connections₁ ++ connections₂,
    ?_, ?_, ?_, ?_⟩
  · rw [history₂, history₁, List.append_assoc]
  · rw [turns_append, lives₁, lives₂, List.flatMap_append]
  · rw [List.map_append, List.nodup_append]
    refine ⟨distinct₁, distinct₂, ?_⟩
    intro number member other member' same
    obtain ⟨connection, old, rfl⟩ := List.mem_map.mp member
    obtain ⟨connection', young, rfl⟩ := List.mem_map.mp member'
    -- The first connections were numbered before the second ones.
    have before := (new₁ connection old).2
    have after := (new₂ connection' young).1
    omega
  · intro connection member
    rcases List.mem_append.mp member with old | young
    · exact ⟨(new₁ connection old).1, Nat.lt_of_lt_of_le (new₁ connection old).2 later₂⟩
    · exact ⟨Nat.le_trans later₁ (new₂ connection young).1, (new₂ connection young).2⟩

theorem Tidy.balanced (tidy : Tidy a b) :
    ∃ events, b.history = a.history ++ events ∧ Balanced events := by
  obtain ⟨events, connections, history, lives, distinct, -⟩ := tidy.lives
  exact ⟨events, history, .of_lives lives distinct⟩

/-- Histories only grow, and from worlds with sound numbers, what happens is tidy. -/
structure Tidies (a b : World σ) : Prop where
  grows : a.history <+: b.history
  tidy : a.Numbered → Tidy a b

instance : IsPreorder (World σ) Tidies where
  refl _ := ⟨List.prefix_refl _, Tidy.refl⟩
  trans _ _ _ first second :=
    ⟨first.grows.trans second.grows,
      fun numbered => (first.tidy numbered).trans (second.tidy (first.tidy numbered).numbered)⟩

structure Calm (a b : World σ) : Prop where
  closed : b.closed = a.closed
  connections : b.connections = a.connections
  turns : ∃ events, b.history = a.history ++ events ∧ turns events = []

theorem World.Steps.calm (steps : World.Steps network Call.IsSettled a b) : Calm a b := by
  refine ⟨steps.closed_eq fun _ => id, steps.connections_eq fun _ => id, ?_⟩
  obtain ⟨events, history, calls⟩ := steps.calls_allowed
  exact ⟨events, history, turns_eq_nil calls⟩

theorem Calm.tidies (calm : Calm a b) : Tidies a b := by
  obtain ⟨closed, connections, events, history, turns⟩ := calm
  refine ⟨⟨events, history.symm⟩, fun numbered => ?_⟩
  refine ⟨?_, Nat.le_of_eq connections.symm, events, [], history, turns, List.nodup_nil, ?_⟩
  · rw [World.Numbered, closed, connections]
    exact numbered
  · intro connection member
    cases member

open Operation

/-! ## Sessions -/

/-- From one world to the next, the connection of a session was made, and it is still alive. -/
structure Opened (a : World σ) (s : Session) (b : World σ) : Prop where
  number : s.connection.number = a.connections
  connections : b.connections = a.connections + 1
  closed : b.closed = a.closed
  turns : ∃ events, b.history = a.history ++ events ∧ turns events = [.made s.connection]

variable {s : Session}

theorem Opened.then (opened : Opened a s b) (calm : Calm b c) : Opened a s c := by
  obtain ⟨number, connections, closed, events, history, turns⟩ := opened
  obtain ⟨events', history', turns'⟩ := calm.turns
  refine ⟨number, calm.connections.trans connections, calm.closed.trans closed,
    events ++ events', ?_, ?_⟩
  · rw [history', history, List.append_assoc]
  · rw [turns_append, turns, turns', List.append_nil]

/-- Nobody closed the session yet. -/
theorem Opened.isOpen (opened : Opened a s b) (numbered : a.Numbered) : s.IsOpen b := by
  rw [Session.IsOpen, opened.closed, opened.number]
  intro member
  exact Nat.lt_irrefl _ (numbered _ member)

/-- Once the call was made that gives up its connection, there is nothing left to call. -/
theorem release_steps (network : Network σ) (s : Session) (world : World σ) :
    World.Steps network Call.IsAside (world.called network (.unbind s.connection))
      (s.release.run network world).2 := by
  rw [Session.release, run_attempt_bind, run_perform]
  dsimp only
  cases (network.answer (.unbind s.connection) world.network).1 with
  | ok _ => exact Keeps.pure (R := World.Steps network Call.IsAside) () _
  | error fault => exact Keeps.ite (R := World.Steps network Call.IsAside) (.log _ _ _) (.throw _) _

theorem run_close_of_open {world : World σ} (isOpen : s.IsOpen world) :
    s.close.run network world =
      s.release.run network { world with closed := s.connection.number :: world.closed } := by
  rw [Session.close, run_bind]
  have closed : world.closed.contains s.connection.number = false := by
    rw [Bool.eq_false_iff]
    intro member
    exact isOpen (List.contains_iff_mem.mp member)
  change Operation.run (if world.closed.contains s.connection.number = true then _ else _) _ _ = _
  rw [closed]
  rfl

theorem run_close_of_closed {world : World σ} (closed : ¬ s.IsOpen world) :
    s.close.run network world = (.ok (), world) := by
  have shut : world.closed.contains s.connection.number = true := by
    simpa [Session.IsOpen] using closed
  rw [Session.close, run_bind]
  change Operation.run (if world.closed.contains s.connection.number = true then _ else _) _ _ = _
  rw [if_pos shut]
  rfl

/-- However closing a session goes, the session is closed after it. -/
theorem Session.close_shuts (network : Network σ) (s : Session) (world : World σ) :
    ¬ s.IsOpen (s.close.run network world).2 := by
  by_cases isOpen : s.IsOpen world
  · have released :=
      release_steps network s { world with closed := s.connection.number :: world.closed }
    rw [run_close_of_open isOpen, IsOpen, released.closed_eq Option.some_ne_none]
    exact not_not_intro List.mem_cons_self
  · rw [run_close_of_closed isOpen]
    exact isOpen

/-- What is left of a session that is open is a call that gives up its connection. -/
theorem Session.close_tidy (numbered : a.Numbered) (opened : Opened a s b) :
    Tidy a (s.close.run network b).2 := by
  have released := release_steps network s { b with closed := s.connection.number :: b.closed }
  rw [← run_close_of_open (opened.isOpen numbered)] at released
  have calm := (released.mono Call.IsAside.isSettled).calm
  obtain ⟨number, connections, closed, events, history, turns⟩ := opened
  obtain ⟨closed', connections', events', history', turns'⟩ := calm
  have connections' : (s.close.run network b).2.connections = a.connections + 1 :=
    connections'.trans connections
  let answer := (network.answer (.unbind s.connection) b.network).1
  refine ⟨?_, ?_, events ++ .exchange (.unbind s.connection) answer :: events', [s.connection],
    ?_, ?_, List.nodup_singleton _, ?_⟩
  · intro number' member
    rw [closed'] at member
    rw [connections']
    rcases List.mem_cons.mp member with rfl | old
    · omega
    · rw [closed] at old
      exact Nat.lt_succ_of_lt (numbered _ old)
  · omega
  · rw [history']
    simp only [World.called, history, List.append_assoc, List.singleton_append]
    rfl
  · rw [turns_append, turns]
    change [Turn.made s.connection] ++ .unbound s.connection :: DirectoryAuth.turns events' = _
    rw [turns']
    rfl
  · intro connection member
    rw [List.mem_singleton.mp member, connections']
    omega

def Ends (a : World σ) : Except Failure Session → World σ → Prop
  | .ok s, b => Opened a s b
  | .error _, b => Tidy a b

namespace Connector

variable {c : Connector} {purpose : Purpose} {account : Option String} {m : World σ}

theorem Dials.calm (dials : c.Dials network s a m) : Calm a m :=
  (dials.prepared.mono Call.IsAside.isSettled).calm

theorem Dials.opened (dials : c.Dials network s a m)
    (made : (network.answer (.connect s.connection) m.network).1 = .ok ()) :
    Opened a s (m.dialled network s.connection) := by
  obtain ⟨closed, connections, events, history, turns⟩ := dials.calm
  refine ⟨dials.number.trans connections, congrArg (· + 1) connections, closed,
    events ++ [.exchange (.connect s.connection) (.ok ())], ?_, ?_⟩
  · simp only [World.dialled, World.called, made, history, List.append_assoc]
  · rw [turns_append, turns]
    rfl

theorem Dials.tidy_of_refused (dials : c.Dials network s a m) {fault : Fault}
    (refused : (network.answer (.connect s.connection) m.network).1 = .error fault)
    (numbered : a.Numbered) : Tidy a (m.dialled network s.connection) := by
  obtain ⟨closed, connections, events, history, turns⟩ := dials.calm
  refine ⟨?_, ?_, events ++ [.exchange (.connect s.connection) (.error fault)], [], ?_, ?_,
    List.nodup_nil, fun _ member => nomatch member⟩
  · intro number member
    change number ∈ m.closed at member
    change number < m.connections + 1
    rw [closed] at member
    rw [connections]
    exact Nat.lt_succ_of_lt (numbered number member)
  · change a.connections ≤ m.connections + 1
    omega
  · simp only [World.dialled, World.called, refused, history, List.append_assoc]
  · rw [turns_append, turns]
    rfl

/-- Opening a session leaves one connection alive, that of the session, or none. -/
theorem Opening.ends {outcome : Except Failure Session}
    (opening : Opening network c purpose account a outcome b) (numbered : a.Numbered) :
    Ends a outcome b := by
  have settled (s : Session) :
      CallsOnly network Call.IsSettled (c.establish purpose account s) :=
    (c.establish_callsOnly _ _ _).widen Call.IsEstablishing.isSettled
  cases opening with
  | unprepared steps => exact (steps.mono Call.IsAside.isSettled).calm.tidies.tidy numbered
  | unmade dials refused => exact dials.tidy_of_refused refused numbered
  | established dials made ran => exact (dials.opened made).then ((settled _).steps ran).calm
  | broken dials made ran =>
    exact Session.close_tidy numbered ((dials.opened made).then ((settled _).steps ran).calm)

end Connector

/-! ## Courses -/

namespace World

variable {visited : Connector → Prop}

/-- After a visit, no connection is alive that was not before. -/
theorem Visit.tidies {c : Connector} (visit : Visit network c a b) : Tidies a b := by
  have course : Course network (· = c) a b := .visit rfl visit
  refine ⟨course.grows, fun numbered => ?_⟩
  cases visit with
  | refused ran => exact (Connector.openSession_opening ran).ends numbered
  | held ran searched closed =>
    have opened : Opened _ _ _ := (Connector.openSession_opening ran).ends numbered
    have calm := (searched.steps.mono Call.IsSearchOn.isSettled).calm
    rw [closed]
    exact Session.close_tidy numbered (opened.then calm)

/-- What every visit preserves, every run preserves. -/
theorem Course.tidies (course : Course network visited a b) : Tidies a b := by
  induction course with
  | refl => exact refl a
  | tail _ stretch ih =>
    refine IsTrans.trans _ _ _ ih ?_
    cases stretch with
    | aside steps => exact (steps.mono Call.IsAside.isSettled).calm.tidies
    | visit known visit => exact visit.tidies

end World

end DirectoryAuth
