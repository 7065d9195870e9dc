import DirectoryAuth.Proofs.Tasks

/-!
# The order of calls on a connection

What is sent on a connection is a conversation: the connection is opened, upgraded where the server
is configured so, and bound; then searches follow, with the pages of their answers; and the
connection is given up. Where opening, upgrading or binding does not succeed, nothing follows but
giving it up. This holds of every connection that a task makes, whatever it is answered.
-/

namespace DirectoryAuth

open Operation World

variable {σ α β : Type} {network : Network σ} {a b c world : World σ}

/-! ## Conversations -/

namespace Event

/-- The call was answered in a way that lets the session go on. -/
def succeeded : Event → Bool
  | .exchange (.startTls _) (.ok reply) => reply.started
  | .exchange (.bind _) (.ok reply) => reply.accepted
  | .exchange _ (.ok _) => true
  | _ => false

/-- The event searches on a connection, or reads on in what a search was answered. -/
def Searches (connection : Connection) : Event → Prop
  | .exchange call _ => call.IsSearchOn connection
  | .page _ _ => True
  | _ => False

end Event

def Connection.stages (startTls : Bool) (c : Connection) : List Call :=
  .openSocket c :: (if startTls then [.startTls c] else []) ++ [.bind c]

/-- The calls were made in turn, and each succeeded. -/
inductive Went : List Call → List Event → Prop
  | nil : Went [] []
  | cons {call : Call} {answer : Except Fault call.Reply} {rest : List Call} {events : List Event}
      (succeeded : (Event.exchange call answer).succeeded = true) (later : Went rest events) :
      Went (call :: rest) (.exchange call answer :: events)

/-- The calls were made in turn, up to the first one that did not succeed. -/
inductive Stuck : List Call → List Event → Prop
  | here {call : Call} {answer : Except Fault call.Reply} {rest : List Call}
      (failed : (Event.exchange call answer).succeeded = false) :
      Stuck (call :: rest) [.exchange call answer]
  | later {call : Call} {answer : Except Fault call.Reply} {rest : List Call}
      {events : List Event} (succeeded : (Event.exchange call answer).succeeded = true)
      (stuck : Stuck rest events) : Stuck (call :: rest) (.exchange call answer :: events)

/-- All that is sent on a connection, from its making on. -/
inductive Conversation (startTls : Bool) (c : Connection) : List Event → Prop
  | unmade (fault : Fault) : Conversation startTls c [.exchange (.connect c) (.error fault)]
  | broken {tries : List Event} (stuck : Stuck (c.stages startTls) tries)
      (answer : Except Fault Unit) :
      Conversation startTls c
        (.exchange (.connect c) (.ok ()) :: tries ++ [.exchange (.unbind c) answer])
  | whole {stages searches : List Event} (went : Went (c.stages startTls) stages)
      (searched : ∀ event ∈ searches, event.Searches c) (answer : Except Fault Unit) :
      Conversation startTls c
        (.exchange (.connect c) (.ok ()) :: (stages ++ searches) ++ [.exchange (.unbind c) answer])

/-! ### Stages -/

theorem Went.mem_calls {calls : List Call} {events : List Event} (went : Went calls events) :
    ∀ event ∈ events, ∃ call ∈ calls, ∃ answer, event = .exchange call answer := by
  induction went with
  | nil => simp
  | cons succeeded later ih =>
    intro event member
    rcases List.mem_cons.mp member with rfl | more
    · exact ⟨_, List.mem_cons_self, _, rfl⟩
    · obtain ⟨call, listed, answer, rfl⟩ := ih event more
      exact ⟨call, List.mem_cons_of_mem _ listed, answer, rfl⟩

theorem Went.succeeds {calls : List Call} {events : List Event} (went : Went calls events) :
    ∀ call ∈ calls, ∃ answer, .exchange call answer ∈ events ∧
      (Event.exchange call answer).succeeded = true := by
  induction went with
  | nil => simp
  | cons succeeded later ih =>
    intro call listed
    rcases List.mem_cons.mp listed with rfl | more
    · exact ⟨_, List.mem_cons_self, succeeded⟩
    · obtain ⟨answer, member, succeeded⟩ := ih call more
      exact ⟨answer, List.mem_cons_of_mem _ member, succeeded⟩

theorem Went.append {first rest : List Call} {done more : List Event} (went : Went first done)
    (later : Went rest more) : Went (first ++ rest) (done ++ more) := by
  induction went with
  | nil => exact later
  | cons succeeded _ ih => exact .cons succeeded ih

theorem Went.split {first rest : List Call} {events : List Event}
    (went : Went (first ++ rest) events) :
    ∃ done more, events = done ++ more ∧ Went first done ∧ Went rest more := by
  induction first generalizing events with
  | nil => exact ⟨[], events, rfl, .nil, went⟩
  | cons call first ih =>
    cases went with
    | cons succeeded later =>
      obtain ⟨done, more, rfl, front, back⟩ := ih later
      exact ⟨_ :: done, more, rfl, .cons succeeded front, back⟩

theorem Stuck.mem_calls {calls : List Call} {events : List Event} (stuck : Stuck calls events) :
    ∀ event ∈ events, ∃ call ∈ calls, ∃ answer, event = .exchange call answer := by
  induction stuck with
  | here failed =>
    intro event member
    exact ⟨_, List.mem_cons_self, _, List.mem_singleton.mp member⟩
  | later succeeded stuck ih =>
    intro event member
    rcases List.mem_cons.mp member with rfl | more
    · exact ⟨_, List.mem_cons_self, _, rfl⟩
    · obtain ⟨call, listed, answer, rfl⟩ := ih event more
      exact ⟨call, List.mem_cons_of_mem _ listed, answer, rfl⟩

theorem Stuck.append {calls : List Call} {events : List Event} (stuck : Stuck calls events)
    (more : List Call) : Stuck (calls ++ more) events := by
  induction stuck with
  | here failed => exact .here failed
  | later succeeded _ ih => exact .later succeeded ih

theorem Stuck.after {first rest : List Call} {done more : List Event} (went : Went first done)
    (stuck : Stuck rest more) : Stuck (first ++ rest) (done ++ more) := by
  induction went with
  | nil => exact stuck
  | cons succeeded _ ih => exact .later succeeded ih

/-- It got stuck in the first part, or went through that and got stuck in the second one. -/
theorem Stuck.split {first rest : List Call} {events : List Event}
    (stuck : Stuck (first ++ rest) events) :
    Stuck first events ∨
      ∃ done more, events = done ++ more ∧ Went first done ∧ Stuck rest more := by
  induction first generalizing events with
  | nil => exact .inr ⟨[], events, rfl, .nil, stuck⟩
  | cons call first ih =>
    cases stuck with
    | here failed => exact .inl (.here failed)
    | later succeeded stuck =>
      rcases ih stuck with early | ⟨done, more, rfl, front, back⟩
      · exact .inl (.later succeeded early)
      · exact .inr ⟨_ :: done, more, rfl, .cons succeeded front, back⟩

/-! ### What comes before what -/

/-- The event presents credentials, or asks the directory for something. -/
def Event.Tells (c : Connection) (event : Event) : Prop :=
  event.call? = some (.bind c) ∨ event.Searches c

/-- On a connection that is to be upgraded, no credentials are presented and nothing is searched for
before an upgrade started; and on any connection, nothing is searched for before a bind was
accepted. -/
structure Guarded (startTls : Bool) (c : Connection) (sent : List Event) : Prop where
  upgraded : startTls = true → ∀ front event rest, sent = front ++ event :: rest →
    event.Tells c →
      ∃ reply : UpgradeReply, reply.started = true ∧ .exchange (.startTls c) (.ok reply) ∈ front
  bound : ∀ front event rest, sent = front ++ event :: rest → event.Searches c →
    ∃ reply : BindReply, reply.accepted = true ∧ .exchange (.bind c) (.ok reply) ∈ front

/-- An event that is not in the first part of a list comes after all of that part. -/
theorem prefix_of_not_mem {first second front rest : List Event} {event : Event}
    (same : first ++ second = front ++ event :: rest) (absent : event ∉ first) :
    first <+: front := by
  rcases List.append_eq_append_iff.mp same with ⟨more, rfl, -⟩ | ⟨more, rfl, behind⟩
  · exact List.prefix_append _ _
  · cases more with
    | nil => simp
    | cons head tail =>
      obtain ⟨rfl, -⟩ := List.cons.inj behind
      exact absurd (List.mem_append_right _ List.mem_cons_self) absent

namespace Conversation

variable {startTls : Bool} {connection : Connection} {sent : List Event}

/-- A connection that is only made, opened, upgraded and given up is told nothing. -/
theorem not_tells_of_early {call : Call} {answer : Except Fault call.Reply}
    (early : call ∈ [.connect connection, .unbind connection, .openSocket connection,
      .startTls connection]) : ¬ (Event.exchange call answer).Tells connection := by
  cases call with
  | bind on => simp at early
  | search on query => simp at early
  | pagedSearch on query size => simp at early
  | _ =>
    rintro (same | searches)
    · cases same
    · exact searches

/-- No stage of a session is a search. -/
theorem not_searches_of_stage {call : Call} {answer : Except Fault call.Reply}
    (stage : call ∈ .connect connection :: .unbind connection :: connection.stages startTls) :
    ¬ (Event.exchange call answer).Searches connection := by
  cases call with
  | search on query => cases startTls <;> simp [Connection.stages] at stage
  | pagedSearch on query size => cases startTls <;> simp [Connection.stages] at stage
  | _ => exact id

/-- The calls between the making of a connection and its end, with both. -/
theorem mem_calls_of_between {calls : List Call} {events : List Event}
    (between : ∀ event ∈ events, ∃ call ∈ calls, ∃ answer, event = .exchange call answer)
    (answer : Except Fault Unit) {event : Event}
    (member : event ∈ .exchange (.connect connection) (.ok ()) :: events ++
      [.exchange (.unbind connection) answer]) :
    ∃ call ∈ .connect connection :: .unbind connection :: calls,
      ∃ answer, event = .exchange call answer := by
  rcases List.mem_append.mp member with member | last
  · rcases List.mem_cons.mp member with rfl | member
    · exact ⟨_, List.mem_cons_self, _, rfl⟩
    · obtain ⟨call, listed, made⟩ := between event member
      exact ⟨call, List.mem_cons_of_mem _ (List.mem_cons_of_mem _ listed), made⟩
  · exact ⟨_, List.mem_cons_of_mem _ List.mem_cons_self, _, List.mem_singleton.mp last⟩

/-- What is told on a connection is told behind its upgrade. -/
theorem upgraded_of_went {done front rest : List Event} {event : Event}
    (went : Went [.openSocket connection, .startTls connection] done)
    (begun : .exchange (.connect connection) (.ok ()) :: done <+: sent)
    (same : sent = front ++ event :: rest) (tells : event.Tells connection) :
    ∃ reply : UpgradeReply, reply.started = true ∧
      .exchange (.startTls connection) (.ok reply) ∈ front := by
  obtain ⟨answer, listed, succeeded⟩ := went.succeeds (.startTls connection) (by simp)
  obtain ⟨more, parts⟩ := begun
  have before := prefix_of_not_mem (parts.trans same) fun early => by
    obtain ⟨call, stage, answer, rfl⟩ :=
      mem_calls_of_between went.mem_calls (.ok ()) (List.mem_append_left _ early)
    exact not_tells_of_early stage tells
  have listed := before.subset (List.mem_cons_of_mem _ listed)
  cases answer with
  | ok reply => exact ⟨reply, succeeded, listed⟩
  | error fault => cases succeeded

/-- What is searched for on a connection is searched for behind its bind. -/
theorem bound_of_went {stages front rest : List Event} {event : Event}
    (went : Went (connection.stages startTls) stages)
    (begun : .exchange (.connect connection) (.ok ()) :: stages <+: sent)
    (same : sent = front ++ event :: rest) (searches : event.Searches connection) :
    ∃ reply : BindReply, reply.accepted = true ∧
      .exchange (.bind connection) (.ok reply) ∈ front := by
  have last : .bind connection ∈ connection.stages startTls := by simp [Connection.stages]
  obtain ⟨answer, listed, succeeded⟩ := went.succeeds _ last
  obtain ⟨more, parts⟩ := begun
  have before := prefix_of_not_mem (parts.trans same) fun early => by
    obtain ⟨call, stage, answer, rfl⟩ :=
      mem_calls_of_between went.mem_calls (.ok ()) (List.mem_append_left _ early)
    exact not_searches_of_stage stage searches
  have listed := before.subset (List.mem_cons_of_mem _ listed)
  cases answer with
  | ok reply => exact ⟨reply, succeeded, listed⟩
  | error fault => cases succeeded

theorem guarded (conversation : Conversation startTls connection sent) :
    Guarded startTls connection sent := by
  constructor
  · rintro rfl front event rest same tells
    have member : event ∈ sent := by simp [same]
    cases conversation with
    | unmade fault =>
      cases List.mem_singleton.mp member
      exact absurd tells (not_tells_of_early (by simp))
    | broken stuck answer =>
      have stuck : Stuck ([.openSocket connection, .startTls connection] ++ [.bind connection]) _ :=
        stuck
      rcases stuck.split with early | ⟨done, more, rfl, went, -⟩
      · obtain ⟨call, stage, answer, rfl⟩ := mem_calls_of_between early.mem_calls _ member
        exact absurd tells (not_tells_of_early stage)
      · exact upgraded_of_went went (by simp) same tells
    | whole went searched answer =>
      have went : Went ([.openSocket connection, .startTls connection] ++ [.bind connection]) _ :=
        went
      obtain ⟨done, more, rfl, went, -⟩ := went.split
      exact upgraded_of_went went (by simp) same tells
  · intro front event rest same searches
    have member : event ∈ sent := by simp [same]
    cases conversation with
    | unmade fault =>
      cases List.mem_singleton.mp member
      exact absurd searches id
    | broken stuck answer =>
      obtain ⟨call, stage, answer, rfl⟩ := mem_calls_of_between stuck.mem_calls _ member
      exact absurd searches (not_searches_of_stage stage)
    | whole went searched answer => exact bound_of_went went (by simp) same searches

end Conversation

/-! ## What a run sends -/

def Event.isSent : Event → Bool
  | .exchange call _ => call.connection?.isSome
  | .page _ _ => true
  | _ => false

/-- From one world to a later one, these events were sent, in order. -/
def World.Sends (sent : List Event) (a b : World σ) : Prop :=
  ∃ events, b.history = a.history ++ events ∧ events.filter Event.isSent = sent

namespace World.Sends

variable {sent more : List Event}

theorem trans (first : Sends sent a b) (second : Sends more b c) :
    Sends (sent ++ more) a c := by
  obtain ⟨events, history, rfl⟩ := first
  obtain ⟨events', history', rfl⟩ := second
  refine ⟨events ++ events', ?_, List.filter_append _ _⟩
  rw [history', history, List.append_assoc]

theorem nothing (a : World σ) : Sends [] a a := ⟨[], (List.append_nil _).symm, rfl⟩

theorem then_nothing (first : Sends sent a b) (second : Sends [] b c) : Sends sent a c := by
  have whole := first.trans second
  rwa [List.append_nil] at whole

/-- What was sent happened. -/
theorem happened (sends : Sends sent a b) {event : Event} (member : event ∈ sent) :
    Happened event a b := by
  obtain ⟨events, history, rfl⟩ := sends
  exact ⟨events, history, List.mem_of_mem_filter member⟩

/-- Calls that have to do with no connection send nothing. -/
theorem of_aside (steps : Steps network Call.IsAside a b) : Sends [] a b := by
  obtain ⟨events, history, within⟩ := steps.events_within
  refine ⟨events, history, List.filter_eq_nil_iff.mpr fun event member => ?_⟩
  obtain ⟨calls, pages⟩ := within event member
  cases event with
  | exchange call answer =>
    have aside : call.connection? = none := calls call rfl
    simp [Event.isSent, aside]
  | page search step =>
    obtain ⟨connection, query, size, may⟩ := pages trivial
    cases may
  | logged record => exact Bool.false_ne_true
  | printed stream text => exact Bool.false_ne_true

/-- Searches send searches and pages only. -/
theorem of_searched {connection : Connection} (searched : Searched network connection a b) :
    ∃ sent, Sends sent a b ∧ ∀ event ∈ sent, event.Searches connection := by
  obtain ⟨events, history, within⟩ := searched.steps.events_within
  refine ⟨events.filter Event.isSent, ⟨events, history, rfl⟩, fun event member => ?_⟩
  obtain ⟨listed, sent⟩ := List.mem_filter.mp member
  cases event with
  | exchange call answer => exact (within _ listed).calls call rfl
  | page search step => trivial
  | logged record => cases sent
  | printed stream text => cases sent

theorem of_called {call : Call} (on : call.connection?.isSome = true) {a : World σ}
    {answer : Except Fault call.Reply} (answered : (network.answer call a.network).1 = answer) :
    Sends [.exchange call answer] a (a.called network call) := by
  refine ⟨[.exchange call answer], ?_, List.filter_cons_of_pos on⟩
  rw [called, ← answered]

end World.Sends

/-! ## Stages of a session -/

/-- The operation makes the calls in turn. It ends with a value where each of them succeeds, and
otherwise fails behind the first one that does not. -/
structure Performs (network : Network σ) (calls : List Call) (x : Operation σ α) : Prop where
  went : ∀ a value b, x.run network a = (.ok value, b) →
    ∃ events, Sends events a b ∧ Went calls events
  stuck : ∀ a failure b, x.run network a = (.error failure, b) →
    ∃ events, Sends events a b ∧ Stuck calls events

namespace Performs

theorem pure (value : α) : Performs network [] (Pure.pure value : Operation σ α) := by
  constructor
  · intro a _ b ran
    cases ran
    exact ⟨[], .nothing a, .nil⟩
  · intro a _ b ran
    cases ran

theorem bind {calls more : List Call} {x : Operation σ α} {f : α → Operation σ β}
    (first : Performs network calls x) (rest : ∀ value, Performs network more (f value)) :
    Performs network (calls ++ more) (x >>= f) := by
  constructor
  · intro a value c ran
    obtain ⟨middle, b, here, there⟩ := run_bind_eq_ok ran
    obtain ⟨done, sends, went⟩ := first.went a middle b here
    obtain ⟨others, sends', went'⟩ := (rest middle).went b value c there
    exact ⟨done ++ others, sends.trans sends', went.append went'⟩
  · intro a failure c ran
    rcases here : x.run network a with ⟨outcome, b⟩
    cases outcome with
    | error other =>
      rw [run_bind_of_error here] at ran
      cases ran
      obtain ⟨done, sends, stuck⟩ := first.stuck a failure c here
      exact ⟨done, sends, stuck.append more⟩
    | ok middle =>
      rw [run_bind_of_ok here] at ran
      obtain ⟨done, sends, went⟩ := first.went a middle b here
      obtain ⟨others, sends', stuck⟩ := (rest middle).stuck b failure c ran
      exact ⟨done ++ others, sends.trans sends', stuck.after went⟩

/-- A single call, where the reply decides whether the operation goes on. -/
theorem single {call : Call} (on : call.connection?.isSome = true) {translate : Fault → Failure}
    {f : call.Reply → Operation σ Unit}
    (refused : ∀ fault, (Event.exchange call (.error fault)).succeeded = false)
    (decides : ∀ reply, (Event.exchange call (.ok reply)).succeeded = true ∧
        f reply = Pure.pure () ∨
      (Event.exchange call (.ok reply)).succeeded = false ∧
        ∃ failure, f reply = MonadExcept.throw failure) :
    Performs network [call] ((perform call).translating translate >>= f) := by
  have ran (a : World σ) : ((perform call).translating translate >>= f).run network a =
      match (network.answer call a.network).1 with
      | .ok reply => (f reply).run network (a.called network call)
      | .error fault =>
        (.error (if fault.isDirectory then translate fault else .outside fault),
          a.called network call) := by
    rw [run_bind, run_translating, run_perform]
    cases (network.answer call a.network).1 with
    | ok reply => rfl
    | error fault => rfl
  constructor
  · intro a value b gave
    rw [ran] at gave
    cases answered : (network.answer call a.network).1 with
    | error fault =>
      rw [answered] at gave
      cases gave
    | ok reply =>
      rw [answered] at gave
      dsimp only at gave
      rcases decides reply with ⟨succeeded, same⟩ | ⟨-, failure, same⟩
      · rw [same] at gave
        cases gave
        exact ⟨_, .of_called on answered, .cons succeeded .nil⟩
      · rw [same] at gave
        cases gave
  · intro a failure b gave
    rw [ran] at gave
    cases answered : (network.answer call a.network).1 with
    | error fault =>
      rw [answered] at gave
      cases gave
      exact ⟨_, .of_called on answered, .here (refused fault)⟩
    | ok reply =>
      rw [answered] at gave
      dsimp only at gave
      rcases decides reply with ⟨-, same⟩ | ⟨failed, failure, same⟩
      · rw [same] at gave
        cases gave
      · rw [same] at gave
        cases gave
        exact ⟨_, .of_called on answered, .here failed⟩

end Performs

namespace Connector

theorem openSocket_performs (c : Connector) (s : Session) :
    Performs network
      (.openSocket s.connection :: if c.server.startTls then [.startTls s.connection] else [])
      (c.openSocket s) := by
  have opened : Performs network [.openSocket s.connection]
      ((perform (.openSocket s.connection)).translating
        fun fault => .connection (.notOpened c.address fault)) := by
    rw [← bind_pure (Operation.translating _ _)]
    exact .single rfl (fun _ => rfl) fun _ => .inl ⟨rfl, rfl⟩
  refine .bind opened fun _ => ?_
  cases c.server.startTls with
  | false => exact .pure ()
  | true =>
    refine .single rfl (fun _ => rfl) fun reply => ?_
    cases started : reply.started with
    | true => exact .inl ⟨started, by simp⟩
    | false => exact .inr ⟨started, by simp⟩

theorem bindAs_performs (c : Connector) (purpose : Purpose) (account : Option String)
    (s : Session) : Performs network [.bind s.connection] (c.bindAs purpose account s) := by
  refine .single rfl (fun _ => rfl) fun reply => ?_
  cases accepted : reply.accepted with
  | true => exact .inl ⟨accepted, by simp⟩
  | false => exact .inr ⟨accepted, by simp⟩

/-- A session is established in stages. -/
theorem establish_performs (c : Connector) (purpose : Purpose) (account : Option String)
    (s : Session) :
    Performs network (s.connection.stages c.server.startTls) (c.establish purpose account s) :=
  .bind (c.openSocket_performs s) fun _ => c.bindAs_performs purpose account s

end Connector

/-! ## Visits -/

/-- Between two worlds, all that was sent is a conversation on a new connection to the server. -/
structure World.Converses (server : Connector) (connection : Connection) (sent : List Event)
    (a b : World σ) : Prop where
  address : connection.address = server.address
  number : connection.number = a.connections
  connections : b.connections = a.connections + 1
  sends : Sends sent a b
  conversation : Conversation server.server.startTls connection sent
  pages : ∀ search step, .page search step ∈ sent →
    (pagedOn b.history)[search]? = some connection

theorem Session.close_sends (network : Network σ) {s : Session} (isOpen : s.IsOpen b) :
    ∃ answer, Sends [.exchange (.unbind s.connection) answer] b (s.close.run network b).2 ∧
      (s.close.run network b).2.connections = b.connections := by
  rw [run_close_of_open isOpen]
  let marked : World σ := { b with closed := s.connection.number :: b.closed }
  have steps := release_steps network s marked
  have sends : Sends [.exchange (.unbind s.connection) _] b
      (marked.called network (.unbind s.connection)) := .of_called rfl rfl
  have calm := (steps.mono Call.IsAside.isSettled).calm
  exact ⟨_, sends.then_nothing (.of_aside steps), calm.connections⟩

namespace Connector

/-- What is sent in opening a session: what establishes it, or a conversation that is over, or nothing
where no connection was made. -/
def Outset (server : Connector) (a : World σ) : Except Failure Session → World σ → Prop
  | .ok s, b => s.connection.address = server.address ∧ s.connection.number = a.connections ∧
    ∃ stages, Sends (.exchange (.connect s.connection) (.ok ()) :: stages) a b ∧
      Went (s.connection.stages server.server.startTls) stages
  | .error _, b => Sends [] a b ∨ ∃ connection sent, Converses server connection sent a b

variable {server : Connector} {purpose : Purpose} {account : Option String}

theorem Dials.sends {s : Session} {m : World σ} (dials : server.Dials network s a m)
    {answer : Except Fault Unit}
    (answered : (network.answer (.connect s.connection) m.network).1 = answer) :
    Sends [.exchange (.connect s.connection) answer] a (m.dialled network s.connection) := by
  have prepared : Sends [] a m := .of_aside dials.prepared
  have made : Sends [.exchange (.connect s.connection) answer] m
      (m.dialled network s.connection) := .of_called rfl answered
  exact prepared.trans made

theorem Opening.outset {outcome : Except Failure Session}
    (opening : Opening network server purpose account a outcome b) (numbered : a.Numbered) :
    Outset server a outcome b := by
  have performs (s : Session) : Performs network _ (server.establish purpose account s) :=
    server.establish_performs purpose account s
  have settled (s : Session) :
      CallsOnly network Call.IsSettled (server.establish purpose account s) :=
    (server.establish_callsOnly _ _ _).widen Call.IsEstablishing.isSettled
  cases opening with
  | unprepared steps => exact .inl (.of_aside steps)
  | @unmade _ fault s m dials refused =>
    have same := dials.calm.connections
    refine .inr ⟨s.connection, _, dials.address, dials.number.trans same, congrArg (· + 1) same,
      dials.sends refused, .unmade fault, fun search step member => ?_⟩
    cases List.mem_singleton.mp member
  | @established s m b dials made ran =>
    obtain ⟨stages, sends, went⟩ := (performs s).went _ _ _ ran
    exact ⟨dials.address, dials.number.trans dials.calm.connections, stages,
      (dials.sends made).trans sends, went⟩
  | @broken failure other s m d dials made ran =>
    obtain ⟨tries, sends, stuck⟩ := (performs s).stuck _ _ _ ran
    have opened : Opened a s d := (dials.opened made).then ((settled s).steps ran).calm
    obtain ⟨answer, closing, same⟩ :=
      Session.close_sends network (opened.isOpen numbered)
    refine .inr ⟨s.connection, .exchange (.connect s.connection) (.ok ()) :: tries ++
      [.exchange (.unbind s.connection) answer], dials.address, opened.number,
      same.trans opened.connections, ((dials.sends made).trans sends).trans closing,
      .broken stuck answer, fun search step member => ?_⟩
    obtain ⟨_, _, _, made⟩ := Conversation.mem_calls_of_between stuck.mem_calls _ member
    cases made

end Connector

theorem not_mayPage_opening : ¬ MayPage Call.IsOpening := fun ⟨_, _, _, may⟩ => may

theorem not_mayPage_aside : ¬ MayPage Call.IsAside := fun ⟨_, _, _, may⟩ => nomatch may

namespace World

variable {server : Connector}

theorem Visit.paged (visit : Visit network server a b) (paged : a.Paged) : b.Paged := by
  have opening {purpose : Purpose} {account : Option String} {password : Option Password} :
      CallsOnly network Call.IsOpening (server.openSession purpose account password) :=
    server.openSession_callsOnly _ _ _
  cases visit with
  | refused ran => exact (opening.steps ran).paged not_mayPage_opening paged
  | @held _ _ _ s m n opened searched closed =>
    have begun : m.Paged := (opening.steps opened).paged not_mayPage_opening paged
    rw [closed]
    exact (s.close_callsOnly n).paged not_mayPage_opening (searched.read begun).paged

/-- All that is sent on a visit is one conversation, unless nothing is. -/
theorem Visit.converses (visit : Visit network server a b) (numbered : a.Numbered)
    (paged : a.Paged) : Sends [] a b ∨ ∃ connection sent, Converses server connection sent a b := by
  cases visit with
  | refused ran => exact (Connector.openSession_opening ran).outset numbered
  | @held purpose account password s m n ran searched closed =>
    have opening := Connector.openSession_opening ran
    have opened : Opened a s m := opening.ends numbered
    have outset : Connector.Outset server a (.ok s) m := opening.outset numbered
    obtain ⟨address, number, stages, stagesSent, went⟩ := outset
    obtain ⟨searches, searchesSent, each⟩ := Sends.of_searched searched
    have still : Opened a s n := opened.then (searched.steps.mono Call.IsSearchOn.isSettled).calm
    obtain ⟨answer, closing, same⟩ :=
      Session.close_sends network (still.isOpen numbered)
    rw [← closed] at closing same
    refine .inr ⟨s.connection, .exchange (.connect s.connection) (.ok ()) :: (stages ++ searches) ++
      [.exchange (.unbind s.connection) answer], address, number, same.trans still.connections,
      (stagesSent.trans searchesSent).trans closing, .whole went each answer, ?_⟩
    -- A page is one of those that are read between the opening and the closing.
    intro search step member
    have read : .page search step ∈ searches := by
      simp only [List.mem_append, List.mem_cons, List.not_mem_nil, or_false, reduceCtorEq,
        false_or] at member
      rcases member with stage | read
      · obtain ⟨_, _, _, made⟩ := went.mem_calls _ stage
        cases made
      · exact read
    have begun : m.Paged :=
      ((server.openSession_callsOnly _ _ _).steps ran).paged not_mayPage_opening paged
    have known := (searched.read begun).pages search step (searchesSent.happened read)
    have later : n.history <+: b.history := by
      rw [closed]
      exact (s.close_callsOnly n).history_grows
    exact pagedOn_later later known

end World

/-! ## Connections one by one -/

/-- The connection that an event is on: that of the call, or that of the answer whose page is
read. -/
def Event.on? (history : List Event) : Event → Option Connection
  | .exchange call _ => call.connection?
  | .page search _ => (pagedOn history)[search]?
  | _ => none

/-- What was sent, among some events of a history, on the connection of a number. -/
def sentOn (history : List Event) (number : Nat) (events : List Event) : List Event :=
  events.filter fun event => (event.on? history).any (·.number == number)

variable {before after events : List Event} {connection : Connection} {event : Event}

theorem Event.on?_later (grows : before <+: after) (known : event.on? before = some connection) :
    event.on? after = some connection := by
  cases event with
  | page search step => exact pagedOn_later grows known
  | _ => exact known

theorem Event.isSent_of_on? (known : event.on? before = some connection) :
    event.isSent = true := by
  cases event with
  | exchange call answer =>
    have known : call.connection? = some connection := known
    exact Option.isSome_of_eq_some known
  | page search step => rfl
  | logged record => cases known
  | printed stream text => cases known

theorem sentOn_append (history : List Event) (number : Nat) (events more : List Event) :
    sentOn history number (events ++ more) =
      sentOn history number events ++ sentOn history number more :=
  List.filter_append _ _

/-- The stages of a session, and the calls around them, are made on its connection. -/
theorem Connection.connection?_of_stage {startTls : Bool} {call : Call}
    (stage : call ∈ .connect connection :: .unbind connection :: connection.stages startTls) :
    call.connection? = some connection := by
  cases startTls with
  | false =>
    simp only [stages, Bool.false_eq_true, if_false, List.mem_cons, List.mem_append,
      List.not_mem_nil, or_false] at stage
    rcases stage with rfl | rfl | rfl | rfl <;> rfl
  | true =>
    simp only [stages, if_true, List.mem_cons, List.mem_append, List.not_mem_nil,
      or_false] at stage
    rcases stage with rfl | rfl | (rfl | rfl) | rfl <;> rfl

/-- A conversation is all on one connection. -/
theorem Conversation.on {startTls : Bool} {sent history : List Event}
    (conversation : Conversation startTls connection sent)
    (pages : ∀ search step, .page search step ∈ sent →
      (pagedOn history)[search]? = some connection) :
    ∀ event ∈ sent, event.on? history = some connection := by
  intro event member
  cases conversation with
  | unmade fault =>
    cases List.mem_singleton.mp member
    rfl
  | broken stuck answer =>
    obtain ⟨call, stage, answer, rfl⟩ := mem_calls_of_between stuck.mem_calls _ member
    exact Connection.connection?_of_stage stage
  | whole went searched answer =>
    simp only [List.mem_append, List.mem_cons, List.not_mem_nil, or_false] at member
    rcases member with (rfl | stage | search) | rfl
    · rfl
    · obtain ⟨call, listed, answer, rfl⟩ := went.mem_calls event stage
      exact Connection.connection?_of_stage
        (List.mem_cons_of_mem _ (List.mem_cons_of_mem _ listed))
    · have searches := searched event search
      cases event with
      | exchange call answer =>
        cases call with
        | search on query => exact congrArg some searches
        | pagedSearch on query size => exact congrArg some searches
        | _ => exact searches.elim
      | page number step => exact pages number step (by simp [search])
      | logged record => exact searches.elim
      | printed stream text => exact searches.elim
    · rfl

/-- Events that are on one connection are sent on the number of that one, and on no other. -/
theorem sentOn_of_on {history sent : List Event} (all : events.filter Event.isSent = sent)
    (on : ∀ event ∈ sent, event.on? history = some connection) (number : Nat) :
    sentOn history number events = if connection.number = number then sent else [] := by
  have within : sentOn history number events = sentOn history number sent := by
    rw [← all, sentOn, sentOn, List.filter_filter]
    refine List.filter_congr fun event _ => ?_
    cases known : event.on? history with
    | none => rfl
    | some other => simp [Event.isSent_of_on? known]
  rw [within, sentOn]
  split
  · rename_i same
    refine List.filter_eq_self.mpr fun event member => ?_
    simp [on event member, same]
  · rename_i other
    refine List.filter_eq_nil_iff.mpr fun event member => ?_
    simp [on event member, other]

/-- Everything sent among the events is on a connection with a number within bounds. -/
def Placed (history : List Event) (low high : Nat) (events : List Event) : Prop :=
  ∀ event ∈ events, event.isSent = true → ∃ connection, event.on? history = some connection ∧
    low ≤ connection.number ∧ connection.number < high

namespace Placed

variable {low high number : Nat}

theorem later (placed : Placed before low high events) (grows : before <+: after) {low' high' : Nat}
    (below : low' ≤ low) (above : high ≤ high') : Placed after low' high' events := by
  intro event member sent
  obtain ⟨connection, known, least, most⟩ := placed event member sent
  exact ⟨connection, Event.on?_later grows known, by omega, by omega⟩

theorem sentOn_later (placed : Placed before low high events) (grows : before <+: after)
    (number : Nat) : sentOn after number events = sentOn before number events := by
  refine List.filter_congr fun event member => ?_
  cases sent : event.isSent with
  | true =>
    obtain ⟨connection, known, -⟩ := placed event member sent
    rw [known, Event.on?_later grows known]
  | false =>
    have unsent (history : List Event) : event.on? history = none := by
      rw [Option.eq_none_iff_forall_ne_some]
      intro connection known
      rw [Event.isSent_of_on? known] at sent
      cases sent
    rw [unsent, unsent]

theorem sentOn_eq_nil (placed : Placed before low high events)
    (outside : number < low ∨ high ≤ number) : sentOn before number events = [] := by
  refine List.filter_eq_nil_iff.mpr fun event member matched => ?_
  cases known : event.on? before with
  | none =>
    rw [known] at matched
    cases matched
  | some other =>
    obtain ⟨connection, same, least, most⟩ := placed event member (Event.isSent_of_on? known)
    rw [known] at same matched
    cases same
    have here : other.number = number := by simpa using matched
    omega

end Placed

namespace World

variable {visited : Connector → Prop}

/-- Whatever is sent between two worlds is sent on connections made there, and on each of these it
is a conversation with a server that is visited. -/
structure Orderly (visited : Connector → Prop) (a b : World σ) : Prop where
  later : a.connections ≤ b.connections
  sent : ∃ events, b.history = a.history ++ events ∧
    Placed b.history a.connections b.connections events ∧
    ∀ number, sentOn b.history number events = [] ∨
      ∃ server connection, visited server ∧ connection.number = number ∧
        connection.address = server.address ∧
        Conversation server.server.startTls connection (sentOn b.history number events)

namespace Orderly

theorem of_nothing (later : a.connections ≤ b.connections) (sends : Sends [] a b) :
    Orderly visited a b := by
  obtain ⟨events, history, none⟩ := sends
  have unsent := List.filter_eq_nil_iff.mp none
  refine ⟨later, events, history, ?_, fun number => .inl ?_⟩
  · intro event member sent
    exact absurd sent (unsent event member)
  · refine List.filter_eq_nil_iff.mpr fun event member matched => ?_
    cases known : event.on? b.history with
    | none =>
      rw [known] at matched
      cases matched
    | some connection => exact unsent event member (Event.isSent_of_on? known)

theorem of_converses {server : Connector} (known : visited server) {connection : Connection}
    {sent : List Event} (converses : Converses server connection sent a b) :
    Orderly visited a b := by
  obtain ⟨address, fresh, connections, ⟨events, history, all⟩, conversation, pages⟩ := converses
  have on := conversation.on pages
  refine ⟨by omega, events, history, ?_, fun number => ?_⟩
  · intro event member isSent
    refine ⟨connection, on event (all ▸ List.mem_filter.mpr ⟨member, isSent⟩), ?_, ?_⟩
    · omega
    · omega
  · rw [sentOn_of_on all on]
    by_cases same : connection.number = number
    · rw [if_pos same]
      exact .inr ⟨server, connection, known, same, address, conversation⟩
    · rw [if_neg same]
      exact .inl rfl

theorem trans (first : Orderly visited a b) (second : Orderly visited b c) :
    Orderly visited a c := by
  obtain ⟨later, events, history, placed, each⟩ := first
  obtain ⟨later', events', history', placed', each'⟩ := second
  have grows : b.history <+: c.history := ⟨events', history'.symm⟩
  refine ⟨Nat.le_trans later later', events ++ events', ?_, ?_, fun number => ?_⟩
  · rw [history', history, List.append_assoc]
  · intro event member sent
    rcases List.mem_append.mp member with early | late
    · exact placed.later grows (Nat.le_refl _) later' event early sent
    · exact placed'.later (List.prefix_refl _) later (Nat.le_refl _) event late sent
  · -- The numbers of the first connections are below those of the second ones.
    rw [sentOn_append, placed.sentOn_later grows]
    by_cases early : number < b.connections
    · rw [placed'.sentOn_eq_nil (.inl early), List.append_nil]
      exact each number
    · rw [placed.sentOn_eq_nil (.inr (Nat.le_of_not_lt early)), List.nil_append]
      exact each' number

end Orderly

/-- From worlds whose numbers are sound, what happens is orderly. -/
structure Orders (visited : Connector → Prop) (a b : World σ) : Prop where
  tidies : Tidies a b
  paged : a.Paged → b.Paged
  orderly : a.Numbered → a.Paged → Orderly visited a b

instance : IsPreorder (World σ) (Orders visited) where
  refl world := ⟨refl world, id, fun _ _ => .of_nothing (Nat.le_refl _) (.nothing world)⟩
  trans a b c first second := by
    refine ⟨IsTrans.trans _ _ _ first.tidies second.tidies, second.paged ∘ first.paged, ?_⟩
    intro numbered paged
    exact (first.orderly numbered paged).trans
      (second.orderly (first.tidies.tidy numbered).numbered (first.paged paged))

theorem Course.orders (course : Course network visited a b) : Orders visited a b := by
  induction course with
  | refl => exact refl a
  | tail _ stretch ih =>
    refine IsTrans.trans _ _ _ ih ?_
    cases stretch with
    | aside steps =>
      have calm := (steps.mono Call.IsAside.isSettled).calm
      exact ⟨calm.tidies, steps.paged not_mayPage_aside,
        fun _ _ => .of_nothing (Nat.le_of_eq calm.connections.symm) (.of_aside steps)⟩
    | visit known visit =>
      refine ⟨visit.tidies, visit.paged, fun numbered paged => ?_⟩
      rcases visit.converses numbered paged with nothing | ⟨connection, sent, converses⟩
      · exact .of_nothing (visit.tidies.tidy numbered).later nothing
      · exact .of_converses known converses

end World

namespace Task

/-- Whatever was done before and whatever the network answers, a task sends on connections of its own
only, and all that it sends on one of them is a conversation: the connection is made to one of the
servers that the task is about, and opened; it is upgraded if and only if that server is configured
so; it is bound; searches and pages of their answers follow; and it is given up. Where opening,
upgrading or binding does not succeed, it is given up at once. So no credentials are presented and
nothing is searched for on a connection that is still to be upgraded, and nothing is searched for
before a bind was accepted. -/
theorem calls_in_order (network : Network σ) (state : σ) (earlier : List Task) (task : Task) :
    let before := afterAll network state earlier
    let after := task.after network before
    ∃ events, after.history = before.history ++ events ∧
      (∀ event ∈ events, event.isSent = true → (event.on? after.history).isSome = true) ∧
      ∀ number, sentOn after.history number events = [] ∨
        sentOn after.history number before.history = [] ∧
        ∃ server connection, task.Visits network before server ∧
          connection.number = number ∧ connection.address = server.address ∧
          Conversation server.server.startTls connection
            (sentOn after.history number events) ∧
          Guarded server.server.startTls connection (sentOn after.history number events) := by
  intro before after
  have each (world : World σ) (task : Task) :
      Orders (fun _ => True) world (task.after network world) :=
    ((after_course network world task).mono fun _ _ => trivial).orders
  have start : Orders (fun _ => True) (World.start state) before := afterAll_keeps each state earlier
  have numbered := (start.tidies.tidy (World.start_numbered state)).numbered
  have paged := start.paged (World.start_paged state)
  obtain ⟨-, old, sameHistory, oldPlaced, -⟩ :=
    start.orderly (World.start_numbered state) (World.start_paged state)
  obtain ⟨-, events, history, placed, conversations⟩ :=
    (after_course network before task).orders.orderly numbered paged
  refine ⟨events, history, ?_, fun number => ?_⟩
  · intro event member sent
    obtain ⟨connection, known, -⟩ := placed event member sent
    exact Option.isSome_of_eq_some known
  by_cases used : number < before.connections
  · exact .inl (placed.sentOn_eq_nil (.inl used))
  have all : before.history = old := sameHistory
  have unused : sentOn after.history number before.history = [] := by
    have grows : before.history <+: after.history := ⟨events, history.symm⟩
    rw [all, oldPlaced.sentOn_later grows]
    exact oldPlaced.sentOn_eq_nil (.inr (Nat.le_of_not_lt used))
  rcases conversations number with nothing | ⟨server, connection, visits, same, address, talk⟩
  · exact .inl nothing
  · exact .inr ⟨unused, server, connection, visits, same, address, talk, talk.guarded⟩

end Task

end DirectoryAuth
