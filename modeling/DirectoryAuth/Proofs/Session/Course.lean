import DirectoryAuth.Proofs.Session.Calls
import DirectoryAuth.Proofs.SettingUp

/-!
# The course of a run

A run goes from visit to visit. On a visit to a server, a session is opened, searched on and closed,
whatever came of the searches; or it cannot be opened, and nothing more is done there. Between
visits only other services are called. So what every visit preserves, every run preserves, and one
statement on the visits that an operation makes is enough for all that is said of its sessions.
-/

namespace DirectoryAuth

open Operation World

variable {σ α : Type} {network : Network σ} {visited more : Connector → Prop}

/-! ## How a session is opened -/

/-- The world after a connection was numbered and made, or could not be made. -/
def World.dialled (world : World σ) (network : Network σ) (connection : Connection) : World σ :=
  { world with connections := world.connections + 1 }.called network (.connect connection)

namespace Connector

/-- A connection is numbered and made in one go. -/
theorem run_connect (c : Connector) (terms : Terms) (world : World σ) :
    let connection : Connection := ⟨world.connections, c.address, terms⟩
    (c.connect terms).run network world =
      match (network.answer (.connect connection) world.network).1 with
      | .ok _ => (.ok ⟨connection, c.key⟩, world.dialled network connection)
      | .error fault => (.error (.outside fault), world.dialled network connection) := by
  intro connection
  refine (run_bind_of_ok (x := nextNumber) rfl).trans ?_
  have performed : (perform (.connect connection)).run network
      { world with connections := world.connections + 1 } = _ := run_perform _
  cases answered : (network.answer (.connect connection) world.network).1 with
  | ok reply =>
    rw [answered] at performed
    exact run_bind_of_ok performed
  | error fault =>
    rw [answered] at performed
    exact run_bind_of_error performed

def establish (c : Connector) (purpose : Purpose) (account : Option String) (s : Session) :
    Operation σ Unit := do
  c.openSocket s
  c.bindAs purpose account s

theorem establish_callsOnly (c : Connector) (purpose : Purpose) (account : Option String)
    (s : Session) : CallsOnly network Call.IsEstablishing (c.establish purpose account s) :=
  .bind (c.openSocket_callsOnly s) fun _ => c.bindAs_callsOnly _ _ _

structure Dials (c : Connector) (network : Network σ) (s : Session) (a m : World σ) : Prop where
  prepared : Steps network Call.IsAside a m
  number : s.connection.number = m.connections
  address : s.connection.address = c.address

/-- How opening a session may go, and what is then left of it. -/
inductive Opening (network : Network σ) (c : Connector) (purpose : Purpose)
    (account : Option String) (a : World σ) : Except Failure Session → World σ → Prop
  | unprepared {failure : Failure} {b : World σ} (steps : Steps network Call.IsAside a b) :
      Opening network c purpose account a (.error failure) b
  | unmade {failure : Failure} {fault : Fault} {s : Session} {m : World σ}
      (dials : c.Dials network s a m)
      (refused : (network.answer (.connect s.connection) m.network).1 = .error fault) :
      Opening network c purpose account a (.error failure) (m.dialled network s.connection)
  | established {s : Session} {m b : World σ} (dials : c.Dials network s a m)
      (made : (network.answer (.connect s.connection) m.network).1 = .ok ())
      (ran : (c.establish purpose account s).run network (m.dialled network s.connection) =
        (.ok (), b)) :
      Opening network c purpose account a (.ok s) b
  | broken {failure other : Failure} {s : Session} {m d : World σ}
      (dials : c.Dials network s a m)
      (made : (network.answer (.connect s.connection) m.network).1 = .ok ())
      (ran : (c.establish purpose account s).run network (m.dialled network s.connection) =
        (.error failure, d)) :
      Opening network c purpose account a (.error other) (s.close.run network d).2

theorem openSession_opening {c : Connector} {purpose : Purpose} {account : Option String}
    {password : Option Password}
    {a b : World σ} {outcome : Except Failure Session}
    (ran : (c.openSession purpose account password).run network a = (outcome, b)) :
    Opening network c purpose account a outcome b := by
  have ticketing : CallsOnly network Call.IsAside (c.ticket? purpose account password) :=
    (c.ticket?_callsOnly _ _ _).widen Call.IsTicket.isAside
  rcases run_bind_cases ran with ⟨failure, failed, rfl⟩ | ⟨ticket, n, ticketed, ran⟩
  · exact .unprepared (ticketing.steps failed)
  have first := ticketing.steps ticketed
  rcases run_bind_cases ran with ⟨failure, failed, rfl⟩ | ⟨terms, m, termed, ran⟩
  · exact .unprepared (first.trans ((c.terms_callsOnly _ _ _).steps failed))
  let s : Session := ⟨⟨m.connections, c.address, terms⟩, c.key⟩
  have dials : c.Dials network s a m :=
    ⟨first.trans ((c.terms_callsOnly _ _ _).steps termed), rfl, rfl⟩
  have connected : (c.connect terms).run network m = _ := c.run_connect terms m
  cases answered : (network.answer (.connect s.connection) m.network).1 with
  | error fault =>
    rw [answered] at connected
    rw [run_bind_of_error connected] at ran
    cases ran
    exact .unmade dials answered
  | ok made =>
    rw [answered] at connected
    rw [run_bind_of_ok connected, run_attempt_bind] at ran
    rcases established : (c.establish purpose account s).run network
      (m.dialled network s.connection) with ⟨outcome, d⟩
    rw [establish] at established
    rw [established] at ran
    cases outcome with
    | ok _ =>
      cases ran
      exact .established dials answered established
    | error failure =>
      have broken (other : Failure) :
          Opening network c purpose account a (.error other) (s.close.run network d).2 :=
        .broken dials answered established
      rcases run_bind_cases ran with ⟨_, closed, rfl⟩ | ⟨_, e, closed, ran⟩
      · rw [closed] at broken
        exact broken _
      · rw [closed] at broken
        cases ran
        exact broken _

end Connector

/-! ## Visits -/

namespace World

inductive Visit (network : Network σ) (c : Connector) (a b : World σ) : Prop
  | refused {purpose : Purpose} {account : Option String} {password : Option Password}
      {failure : Failure}
      (ran : (c.openSession purpose account password).run network a = (.error failure, b))
  | held {purpose : Purpose} {account : Option String} {password : Option Password} {s : Session}
      {m n : World σ}
      (opened : (c.openSession purpose account password).run network a = (.ok s, m))
      (searched : Searched network s.connection m n)
      (closed : b = (s.close.run network n).2)

/-- A part of a run: a visit to one of the servers, or calls that have to do with no connection. -/
inductive Stretch (network : Network σ) (visited : Connector → Prop) (a b : World σ) : Prop
  | aside (steps : Steps network Call.IsAside a b)
  | visit {c : Connector} (known : visited c) (visit : Visit network c a b)

def Course (network : Network σ) (visited : Connector → Prop) : World σ → World σ → Prop :=
  Relation.ReflTransGen (Stretch network visited)

namespace Course

variable {a b c : World σ}

instance : IsPreorder (World σ) (Course network visited) :=
  inferInstanceAs (IsPreorder (World σ) (Relation.ReflTransGen (Stretch network visited)))

theorem trans (first : Course network visited a b) (second : Course network visited b c) :
    Course network visited a c :=
  Relation.ReflTransGen.trans first second

theorem single (stretch : Stretch network visited a b) : Course network visited a b :=
  Relation.ReflTransGen.single stretch

theorem aside (steps : Steps network Call.IsAside a b) : Course network visited a b :=
  single (.aside steps)

theorem visit {server : Connector} (known : visited server) (visit : Visit network server a b) :
    Course network visited a b :=
  single (.visit known visit)

theorem mono (wider : ∀ c, visited c → more c) (course : Course network visited a b) :
    Course network more a b := by
  refine Relation.ReflTransGen.mono ?_ _ _ course
  intro before after stretch
  cases stretch with
  | aside steps => exact .aside steps
  | visit known visit => exact .visit (wider _ known) visit

/-- A run takes steps, whatever it visits. -/
theorem steps (course : Course network visited a b) : Steps network (fun _ => True) a b := by
  induction course with
  | refl => exact .refl _
  | tail _ stretch ih =>
    refine ih.trans ?_
    cases stretch with
    | aside steps => exact steps.mono fun _ _ => trivial
    | visit known visit =>
      have opening {c : Connector} {purpose : Purpose} {account : Option String}
          {password : Option Password} :
          Operation.CallsOnly network (fun _ => True) (c.openSession purpose account password) :=
        (c.openSession_callsOnly _ _ _).widen fun _ _ => trivial
      cases visit with
      | refused ran => exact opening.steps ran
      | @held _ _ _ s _ _ opened searched closed =>
        have closing : Operation.CallsOnly network (fun _ => True) s.close :=
          s.close_callsOnly.widen fun _ _ => trivial
        have searching : Steps network (fun _ => True) _ _ :=
          searched.steps.mono fun _ _ => trivial
        rw [closed]
        exact (opening.steps opened).trans (searching.trans (closing _))

/-- Histories only grow. -/
theorem grows (course : Course network visited a b) : a.history <+: b.history :=
  course.steps.history_grows

end Course

end World

theorem Operation.Keeps.grows {x : Operation σ α} (hx : Keeps network (Course network visited) x)
    {a b : World σ} {outcome : Except Failure α} (ran : x.run network a = (outcome, b)) :
    a.history <+: b.history := by
  have course := hx a
  rw [ran] at course
  exact course.grows

/-! ## Operations that visit servers -/

theorem Operation.CallsOnly.course {x : Operation σ α} (calls : CallsOnly network Call.IsAside x) :
    Keeps network (Course network visited) x :=
  fun world => .aside (calls world)

theorem log_course (level : Level) (component : Component) (message : String) :
    Keeps network (Course network visited) (log level component message) :=
  CallsOnly.course (.log _ _ _)

/-- Given a session that is open, the operation searches on it and closes it. -/
def Session.Finishes (network : Network σ) (s : Session) (x : Operation σ α) : Prop :=
  ∀ m, ∃ n, Searched network s.connection m n ∧
    (x.run network m).2 = (s.close.run network n).2

theorem Session.close_finishes (s : Session) : s.Finishes network s.close :=
  fun m => ⟨m, refl m, rfl⟩

theorem Session.during_finishes {s : Session} {body : Operation σ α}
    (searches : Keeps network (Searched network s.connection) body) :
    s.Finishes network (s.during body) := by
  intro m
  refine ⟨(body.run network m).2, searches m, ?_⟩
  -- However the closing ends, the world after it is that of the whole.
  rw [Session.during, run_andFinally]
  rcases s.close.run network (body.run network m).2 with ⟨outcome, after⟩
  cases outcome with
  | ok _ => rfl
  | error failure => rfl

namespace Connector

variable {c : Connector} {purpose : Purpose} {account : Option String} {password : Option Password}

/-- What is done with the outcome of opening a session makes a visit of it. -/
theorem attempt_openSession_course {f : Except Failure Session → Operation σ α}
    (known : visited c) (used : ∀ s : Session, s.Finishes network (f (.ok s)))
    (unopened : ∀ failure, Keeps network (Course network visited) (f (.error failure))) :
    Keeps network (Course network visited)
      ((c.openSession purpose account password).attempt >>= f) := by
  intro a
  rw [run_attempt_bind]
  rcases ran : (c.openSession purpose account password).run network a with ⟨outcome, m⟩
  cases outcome with
  | ok s =>
    obtain ⟨n, searched, closed⟩ := used s m
    exact .visit known (.held ran searched closed)
  | error failure =>
    have visit : Course network visited a m := .visit known (.refused ran)
    exact visit.trans (unopened failure m)

theorem openSession_course {f : Session → Operation σ α} (known : visited c)
    (used : ∀ s : Session, s.Finishes network (f s)) :
    Keeps network (Course network visited)
      (c.openSession purpose account password >>= f) := by
  intro a
  rcases ran : (c.openSession purpose account password).run network a with ⟨outcome, m⟩
  cases outcome with
  | ok s =>
    rw [run_bind_of_ok ran]
    obtain ⟨n, searched, closed⟩ := used s m
    exact .visit known (.held ran searched closed)
  | error failure =>
    rw [run_bind_of_error ran]
    exact .visit known (.refused ran)

theorem test_course (known : visited c) : Keeps network (Course network visited) c.test := by
  refine .ite (.throw _) (.bind (.attempt ?_) ?_)
  · exact openSession_course known Session.close_finishes
  intro outcome
  match outcome with
  | .ok () => exact log_course _ _ _
  | .error failure =>
    cases failure with
    | connection error => exact .bind (log_course _ _ _) fun _ => .throw _
    | _ => exact .throw _

end Connector

/-! ## Lookups -/

namespace Lookup

theorem ask_course {c : Connector} {login : String} {attributes : List String}
    {action : Session → Entry → Operation σ α} (known : visited c)
    (acts : ∀ session entry, Keeps network (Searched network session.connection)
      (action session entry)) :
    Keeps network (Course network visited) (ask c login attributes action) := by
  refine Connector.attempt_openSession_course known ?_ ?_
  · intro session
    exact Session.during_finishes (within_searched (acts session))
  · intro failure
    cases failure with
    | connection error => exact .bind (log_course _ _ _) fun _ => .pure _
    | _ => exact .throw _

theorem lookUp_course {connectors : List Connector} {login : String}
    {attributes : Connector → List String} {action : Connector → Session → Entry → Operation σ α}
    (known : ∀ c ∈ connectors, visited c)
    (acts : ∀ c session entry, Keeps network (Searched network session.connection)
      (action c session entry)) :
    Keeps network (Course network visited) (lookUp connectors login attributes action) := by
  rw [lookUp]
  generalize none = failed
  induction connectors generalizing failed with
  | nil => exact .throw _
  | cons c rest ih =>
    have later := ih fun other member => known other (List.mem_cons_of_mem _ member)
    refine .bind (ask_course (known c List.mem_cons_self) (acts c)) fun answer => ?_
    cases answer with
    | found value => exact .pure _
    | absent => exact later _
    | failed failure => exact later _

end Lookup

variable {connectors : List Connector}

theorem Details.fetch_course (known : ∀ c ∈ connectors, visited c) (login : String) :
    Keeps network (Course network visited) (Details.fetch connectors login) :=
  .bind (log_course _ _ _) fun _ => Lookup.lookUp_course known fun _ _ _ => .pure _

theorem Groups.fetch_course (known : ∀ c ∈ connectors, visited c) (login : String) :
    Keeps network (Course network visited) (Groups.fetch connectors login) := by
  refine .bind (log_course _ _ _) fun _ => .ite (.pure _) (.bind ?_ fun _ => ?_)
  · apply Lookup.lookUp_course known
    intro c session entry
    cases c.server.groups with
    | none => exact .pure _
    | some m => exact resolve_searched c m session entry
  · exact .bind (log_course _ _ _) fun _ => .pure _

/-! ## Logins -/

namespace Login

variable {c : Connector}

theorem unconnected_course (c : Connector) (login : String) (error : ConnectionError) :
    Keeps network (Course network visited) (unconnected c login error) := by
  refine .ite ?_ ?_
  · exact .bind (log_course _ _ _) fun _ => .pure _
  · exact .bind (log_course _ _ _) fun _ => .pure _

theorem resolve_course (known : visited c) (login : String) :
    Keeps network (Course network visited) (resolve c login) := by
  refine Connector.openSession_course known fun session => ?_
  exact Session.during_finishes (Lookup.findUser_searched c session login [])

theorem checkPassword_course (known : visited c) (login : String) (password : Password)
    (entry : Entry) :
    Keeps network (Course network visited) (checkPassword c login password entry) := by
  refine .bind (.attempt ?_) fun outcome => ?_
  · exact Connector.openSession_course known Session.close_finishes
  match outcome with
  | .ok () => exact .bind (log_course _ _ _) fun _ => .pure _
  | .error failure =>
    cases failure with
    | credentials error => exact .bind (log_course _ _ _) fun _ => .pure _
    | connection error => exact unconnected_course c login error
    | _ => exact .throw _

theorem check_course (known : visited c) (login : String) (password : Password) :
    Keeps network (Course network visited) (check c login password) := by
  refine .bind (.attempt (resolve_course known login)) fun outcome => ?_
  match outcome with
  | .ok none => exact .bind (log_course _ _ _) fun _ => .pure _
  | .ok (some entry) => exact checkPassword_course known login password entry
  | .error failure =>
    cases failure with
    | connection error => exact unconnected_course c login error
    | search error => exact .bind (log_course _ _ _) fun _ => .pure _
    | _ => exact .throw _

theorem attempts_course (known : ∀ c ∈ connectors, visited c) (login : String)
    (password : Password) :
    Keeps network (Course network visited) (attempts login password connectors) := by
  induction connectors with
  | nil => exact .pure _
  | cons c rest ih =>
    have later := ih fun other member => known other (List.mem_cons_of_mem _ member)
    refine .bind (check_course (known c List.mem_cons_self) login password) fun attempt => ?_
    exact .ite (.pure _) (.bind later fun _ => .pure _)

theorem authenticate_course (known : ∀ c ∈ connectors, visited c) (login : String)
    (password : Password) :
    Keeps network (Course network visited) (authenticate connectors login password) := by
  refine .ite ?_ ?_
  · exact .bind (log_course _ _ _) fun _ => .pure _
  · exact .bind (attempts_course known login password) fun _ => .pure _

end Login

/-! ## Realms -/

namespace Realm

theorem testAll_course {servers : List Server} (known : ∀ server ∈ servers, visited ⟨server⟩) :
    Keeps network (Course network visited) (testAll servers) := by
  have made : CallsOnly network Call.IsAside (connectAll servers) :=
    .mapM Connector.ofServer_callsOnly
  refine .bind_value made.course fun _ connectors _ ran => .bind (.forM ?_) fun _ => .pure _
  intro c member
  rw [connectAll_eq_ok ran] at member
  obtain ⟨server, listed, rfl⟩ := List.mem_map.mp member
  exact Connector.test_course (known server listed)

theorem afterFailure_course (r : Realm) (failure : Failure) :
    Keeps network (Course network visited) (r.afterFailure failure) :=
  .ite (.bind (log_course _ _ _) fun _ => .pure _) (.pure _)

theorem afterSuccess_course (r : Realm) (connectors : List Connector) :
    Keeps network (Course network visited) (r.afterSuccess connectors) :=
  .bind (log_course _ _ _) fun _ => .pure _

/-- Setting up visits the servers that the roster gives there and then. -/
theorem setUp_course {r : Realm} {world : World σ}
    (known : ∀ servers, (r.roster.servers.run network world).1 = .ok servers →
      ∀ server ∈ servers, visited ⟨server⟩) :
    Course network visited world (r.setUp.run network world).2 := by
  have assembled : Course network visited world (r.roster.servers.run network world).2 :=
    r.roster.servers_callsOnly.course world
  rw [setUp, run_attempt_bind]
  dsimp only
  rcases ran : r.roster.servers.run network world with ⟨outcome, next⟩
  rw [ran] at known assembled
  refine assembled.trans ?_
  cases outcome with
  | error failure => exact Keeps.bind (afterFailure_course _ _) (fun _ => .pure _) next
  | ok servers =>
    refine Keeps.bind (.attempt (testAll_course (known servers rfl))) (fun outcome => ?_) next
    cases outcome with
    | error failure => exact .bind (afterFailure_course _ _) fun _ => .pure _
    | ok connectors => exact .bind (afterSuccess_course _ _) fun _ => .pure _

theorem checkReady_callsOnly (r : Realm) (allowed : Call → Prop) :
    CallsOnly network allowed r.checkReady :=
  .ite (.pure _) (.throw _)

theorem authenticate_course {r : Realm} (known : ∀ c ∈ r.connectors, visited c)
    (login : String) (password : Password) :
    Keeps network (Course network visited) (r.authenticate login password) := by
  refine .bind ?_ fun verdict => .ite (.pure _) (.ite (.throw _) (.pure _))
  refine .bind (CallsOnly.course (r.checkReady_callsOnly _)) fun _ => ?_
  exact Login.authenticate_course known _ _

theorem fetchDetails_course {r : Realm} (known : ∀ c ∈ r.connectors, visited c)
    (login : String) : Keeps network (Course network visited) (r.fetchDetails login) :=
  .bind (CallsOnly.course (r.checkReady_callsOnly _)) fun _ => Details.fetch_course known _

theorem fetchGroups_course {r : Realm}
    (known : ∀ connectors, r.groups = some connectors → ∀ c ∈ connectors, visited c)
    (login : String) : Keeps network (Course network visited) (r.fetchGroups login) := by
  refine .bind (CallsOnly.course (r.checkReady_callsOnly _)) fun _ => ?_
  cases mapped : r.groups with
  | none => exact .pure _
  | some connectors => exact Groups.fetch_course (known connectors mapped) _

end Realm

end DirectoryAuth
