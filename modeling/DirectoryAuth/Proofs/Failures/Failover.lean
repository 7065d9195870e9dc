import DirectoryAuth.Proofs.Failures.Tasks
import DirectoryAuth.Proofs.Network.Rehearsal
import DirectoryAuth.Proofs.Session.Lifetime

/-!
# Going on to the next server

Where no session of the service account can be had with a server, the server is passed over: a login
records the attempt and goes on to the next server, and so does a lookup. That is what becomes of
every fault in opening, upgrading or binding a connection. A fault in making the connection is not
translated, and ends the login or the lookup on the spot, whatever the servers behind it would say.
-/

namespace DirectoryAuth

open Operation World

variable {σ α : Type} {network : Network σ} {world before middle after next : World σ}

/-! ## Sessions that are there -/

/-- From one world to the other, no call on a connection failed. -/
structure World.Faultless (before after : World σ) : Prop where
  grows : before.history <+: after.history
  faultless : ∀ call fault, call.connection?.isSome = true →
    ¬ Happened (.exchange call (.error fault)) before after

theorem World.Faultless.trans (first : Faultless before middle) (second : Faultless middle after) :
    Faultless before after := by
  refine ⟨first.grows.trans second.grows, fun call fault client happened => ?_⟩
  rcases happened.split first.grows second.grows with early | late
  · exact first.faultless call fault client early
  · exact second.faultless call fault client late

theorem World.Faultless.of_calls {allowed : Call → Prop}
    (steps : Steps network allowed before after)
    (others : ∀ call, allowed call → call.connection? = none) : Faultless before after := by
  refine ⟨steps.history_grows, fun call fault client happened => ?_⟩
  have none := others call (steps.allowed_of_happened happened)
  rw [none] at client
  cases client

theorem World.Faultless.of_reply {call : Call} {reply : call.Reply}
    (replied : after.history = before.history ++ [.exchange call (.ok reply)]) :
    Faultless before after := by
  refine ⟨⟨_, replied.symm⟩, ?_⟩
  rintro other fault - ⟨events, history, member⟩
  have same : events = [.exchange call (.ok reply)] :=
    List.append_cancel_left (history.symm.trans replied)
  rw [same] at member
  cases List.mem_singleton.mp member

theorem Operation.translating_faultless {call : Call} {reply : call.Reply}
    {translate : Fault → Failure}
    (ran : ((perform call).translating translate).run network world = (.ok reply, after)) :
    Faultless world after := by
  rw [run_translating] at ran
  obtain ⟨translated, ended⟩ := Prod.mk.inj ran
  exact .of_reply (perform_history (Prod.ext (translated_eq_ok translated) ended))

namespace Connector

theorem openSocket_faultless {c : Connector} {s : Session}
    (ran : (c.openSocket s).run network world = (.ok (), after)) : Faultless world after := by
  obtain ⟨_, opened, opening, ran⟩ := run_bind_eq_ok ran
  have first := translating_faultless opening
  split at ran
  · obtain ⟨reply, upgraded, upgrading, ran⟩ := run_bind_eq_ok ran
    have second := translating_faultless upgrading
    split at ran
    · cases ran
    · cases ran
      exact first.trans second
  · cases ran
    exact first

theorem bindAs_faultless {c : Connector} {purpose : Purpose} {account : Option String}
    {s : Session} (ran : (c.bindAs purpose account s).run network world = (.ok (), after)) :
    Faultless world after := by
  obtain ⟨reply, bound, binding, ran⟩ := run_bind_eq_ok ran
  have faultless := translating_faultless binding
  split at ran
  · cases ran
  · cases ran
    exact faultless

/-- A session that is there had no fault on its connection. -/
theorem openSession_faultless {c : Connector} {purpose : Purpose}
    {account : Option String} {password : Option Password} {s : Session}
    (ran : (c.openSession purpose account password).run network world = (.ok s, after)) :
    Faultless world after := by
  cases openSession_opening ran with
  | @established s m after dials made established =>
    have prepared : Faultless world m := .of_calls dials.prepared fun _ aside => aside
    have replied : (m.dialled network s.connection).history =
        m.history ++ [.exchange (.connect s.connection) (.ok ())] := by
      simp only [dialled, called, made]
    have connected : Faultless m (m.dialled network s.connection) := .of_reply replied
    obtain ⟨_, _, opened, bound⟩ := run_bind_eq_ok established
    have established := (openSocket_faultless opened).trans (bindAs_faultless bound)
    exact prepared.trans (connected.trans established)

end Connector

/-! ## Servers that are passed over -/

def ConnectionError.status (error : ConnectionError) : LoginStatus :=
  if error.isTls then .tlsFailure else .unreachable

theorem ConnectionError.status_ne_success (error : ConnectionError) : error.status ≠ .success := by
  rw [status]
  split
  · exact nofun
  · exact nofun

theorem Login.run_unconnected (network : Network σ) (world : World σ) (c : Connector)
    (login : String) (error : ConnectionError) :
    ∃ record, (unconnected c login error).run network world =
      (.ok ⟨c.key, error.status, ""⟩, world.noted (.logged record)) := by
  rw [unconnected, ConnectionError.status]
  split
  · exact ⟨_, rfl⟩
  · exact ⟨_, rfl⟩

section Refused

variable {c : Connector} {error : ConnectionError}

/-- Where no session can be had, a login records so, and goes on to the other servers. -/
theorem Login.attempts_passes
    (refused : c.openService.run network world = (.error (.connection error), next))
    (login : String) (password : Password) : ∃ record, ∀ rest,
    (attempts login password (c :: rest)).run network world =
      let others := (attempts login password rest).run network (next.noted (.logged record))
      (others.1.map (⟨c.key, error.status, ""⟩ :: ·), others.2) := by
  obtain ⟨record, recorded⟩ := run_unconnected network next c login error
  have resolved : (resolve c login).run network world = (.error (.connection error), next) :=
    run_bind_of_error refused
  have checked : (check c login password).run network world =
      (.ok ⟨c.key, error.status, ""⟩, next.noted (.logged record)) := by
    rw [check, run_attempt_bind, resolved]
    exact recorded
  refine ⟨record, fun rest => ?_⟩
  rw [attempts, run_bind_of_ok checked, if_neg error.status_ne_success]
  exact run_bind_pure _ _

/-- Where no session can be had, a lookup notes so, and goes on to the other servers. -/
theorem Lookup.lookUpFrom_passes
    (refused : c.openService.run network world = (.error (.connection error), next))
    (login : String) (attributes : Connector → List String)
    (action : Connector → Session → Entry → Operation σ α) : ∃ record, ∀ failed rest,
    (lookUpFrom login attributes action failed (c :: rest)).run network world =
      (lookUpFrom login attributes action (some (c.key, .connection error)) rest).run network
        (next.noted (.logged record)) := by
  obtain ⟨record, asked⟩ : ∃ record,
      (ask c login (attributes c) (action c)).run network world =
        (.ok (.failed (.connection error)), next.noted (.logged record)) := by
    rw [ask, run_attempt_bind, refused]
    exact ⟨_, rfl⟩
  refine ⟨record, fun failed rest => ?_⟩
  rw [lookUpFrom, run_bind_of_ok asked]

end Refused

/-! ## Faults that stop a task -/

/-- A login meets refused sessions and failed searches alone. Whatever else looking for its entry
fails with ends the login, whatever servers are left. -/
theorem Login.attempts_stops {c : Connector} {login : String} {failure : Failure}
    (unmet : ¬ failure.OfAction never)
    (stopped : (resolve c login).run network world = (.error failure, next))
    (password : Password) (rest : List Connector) :
    (attempts login password (c :: rest)).run network world = (.error failure, next) := by
  have checked : (check c login password).run network world = (.error failure, next) := by
    rw [check, run_attempt_bind, stopped]
    cases failure with
    | connection error => exact absurd trivial unmet
    | search error => exact absurd trivial unmet
    | _ => rfl
  rw [attempts, run_bind_of_error checked]

/-- A fault that nothing translates ends a lookup, whatever servers are left. -/
theorem Lookup.lookUpFrom_stops {c : Connector} {fault : Fault}
    (escaped : c.openService.run network world = (.error (.outside fault), next))
    (login : String) (attributes : Connector → List String)
    (action : Connector → Session → Entry → Operation σ α) (failed : Option (String × Failure))
    (rest : List Connector) :
    (lookUpFrom login attributes action failed (c :: rest)).run network world =
      (.error (.outside fault), next) := by
  have asked : (ask c login (attributes c) (action c)).run network world =
      (.error (.outside fault), next) := by
    rw [ask, run_attempt_bind, escaped]
    rfl
  rw [lookUpFrom, run_bind_of_error asked]

/-! ## Realms -/

/-- A server is passed over: a login records an attempt with it and a lookup notes its failure, and
both go on with the servers behind it. -/
def Connector.IsPassedOver (c : Connector) (network : Network σ) (before after : World σ)
    (error : ConnectionError) : Prop :=
  (∀ login password, ∃ record, ∀ rest,
    (Login.attempts login password (c :: rest)).run network before =
      let others := (Login.attempts login password rest).run network (after.noted (.logged record))
      (others.1.map (⟨c.key, error.status, ""⟩ :: ·), others.2)) ∧
  (∀ {α : Type} login attributes (action : Connector → Session → Entry → Operation σ α),
    ∃ record, ∀ failed rest,
    (Lookup.lookUpFrom login attributes action failed (c :: rest)).run network before =
      (Lookup.lookUpFrom login attributes action (some (c.key, .connection error)) rest).run network
        (after.noted (.logged record)))

/-- A server stops every login and every lookup that comes to it, with a fault. -/
def Connector.Stops (c : Connector) (network : Network σ) (before after : World σ)
    (fault : Fault) : Prop :=
  (∀ login password rest, (Login.attempts login password (c :: rest)).run network before =
    (.error (.outside fault), after)) ∧
  (∀ {α : Type} login attributes (action : Connector → Session → Entry → Operation σ α) failed rest,
    (Lookup.lookUpFrom login attributes action failed (c :: rest)).run network before =
      (.error (.outside fault), after))

/-- What comes of opening a session of the service account, as long as every fault is such as
callers are told of. -/
theorem Connector.openService_outcome (c : Connector) (told : AsTold before after) :
    (∀ s, c.openService.run network before = (.ok s, after) → Faultless before after) ∧
    (∀ failure, c.openService.run network before = (.error failure, after) →
      (∃ error, failure = .connection error ∧ c.IsPassedOver network before after error) ∨
      ∃ connection fault, failure = .outside fault ∧
        Happened (.exchange (.connect connection) (.error fault)) before after ∧
        c.Stops network before after fault) := by
  constructor
  · intro s ran
    exact openSession_faultless ran
  · intro failure ran
    have ends : EndsIn network Failure.OfConnection c.openService := c.openService_ends
    rcases ends.fails_of_run ran told with refused | ⟨call, fault, untranslated, happened, rfl⟩
    · left
      cases failure with
      | connection error =>
        refine ⟨error, rfl, Login.attempts_passes ran, Lookup.lookUpFrom_passes ran⟩
      | _ => exact refused.elim
    · right
      have calls : CallsOnly network Call.IsOpening c.openService := c.openSession_callsOnly _ _ _
      have opening := (calls.steps ran).allowed_of_happened happened
      cases call with
      | connect connection =>
        refine ⟨connection, fault, rfl, happened, ?_, Lookup.lookUpFrom_stops ran⟩
        exact fun login => Login.attempts_stops id (run_bind_of_error ran)
      | pagedSearch connection query size => exact opening.elim
      | _ => exact untranslated.elim

namespace Realm

theorem run_when_ready {r : Realm} (ready : r.state = .ready) (x : Operation σ α) :
    (do r.checkReady; x) = x := by
  rw [checkReady, if_pos ready]
  rfl

/-- As long as every fault is such as callers are told of, a realm that is ready ends its tasks as
its host is told, but for markers that are too long, for passwords that are no texts where tickets
are got for them, and for faults that nothing translates. A server whose connection cannot be
opened, upgraded or bound is passed over; one whose connection cannot be made stops the task. -/
theorem ends_as_told {r : Realm} (ready : r.state = .ready) (network : Network σ)
    (login : String) (password : Password) :
    EndsIn network
      (fun failure => failure = .connection (.noAnswer login) ∨
        failure.OfLogin r.connectors password)
      (r.authenticate login password) ∧
    EndsIn network
      (Failure.OfLookupOr login (Failure.OfMarker (Connector.templates r.connectors)))
      (r.fetchDetails login) ∧
    EndsIn network
      (Failure.OfLookupOr login fun failure => failure = .unbounded ∨
        failure.OfMarker (Connector.templates (r.groups.getD [])))
      (r.fetchGroups login) ∧
    ∀ c ∈ r.connectors, ∀ before after : World σ, AsTold before after →
      (∀ s, c.openService.run network before = (.ok s, after) → Faultless before after) ∧
      (∀ failure, c.openService.run network before = (.error failure, after) →
        (∃ error, failure = .connection error ∧ c.IsPassedOver network before after error) ∨
        ∃ connection fault, failure = .outside fault ∧
          Happened (.exchange (.connect connection) (.error fault)) before after ∧
          c.Stops network before after fault) := by
  refine ⟨?_, ?_, ?_, ?_⟩
  · rw [authenticate, verdict, run_when_ready ready]
    refine .bind ((Login.authenticate_ends _ _ _).widen fun _ => .inr) fun verdict => ?_
    exact .ite (.pure _) (.ite (.throw (.inl rfl)) (.pure _))
  · rw [fetchDetails, run_when_ready ready]
    refine Details.fetch_ends fun c member failure marker => ?_
    exact marker.mono (Connector.users_of_templates member)
  · rw [fetchGroups, run_when_ready ready]
    cases r.groups with
    | none => exact .pure _
    | some connectors => exact Groups.fetch_ends
  · intro c _ before after told
    exact c.openService_outcome told

end Realm

/-- The first number of a marker that is too long to be read fails the filter. -/
theorem Filter.format_long {digits : Nat} (long : Decimal.digitLimit < digits)
    (values : List String) :
    format ("(uid=\x7b" ++ String.ofList (List.replicate digits '0') ++ "\x7d)") values =
      .error (.longMarker digits) := by
  generalize written : List.replicate digits '0' = zeros
  have digit : ∀ c ∈ zeros, Text.isDigit c = true := by
    intro c member
    rw [← written] at member
    rw [List.eq_of_mem_replicate member]
    decide
  have brace : ¬ Text.isDigit '}' = true := by decide
  have front : (zeros ++ ['}', ')']).takeWhile Text.isDigit = zeros := by
    rw [List.takeWhile_append_of_pos digit, List.takeWhile_cons_of_neg brace]
    exact List.append_nil _
  have back : (zeros ++ ['}', ')']).dropWhile Text.isDigit = ['}', ')'] := by
    rw [List.dropWhile_append_of_pos digit, List.dropWhile_cons_of_neg brace]
  have width : zeros.length = digits := by
    rw [← written, List.length_replicate]
  have filled : zeros.isEmpty = false := by
    rw [List.isEmpty_eq_false_iff, ← List.length_pos_iff, width]
    omega
  obtain ⟨number, read⟩ : ∃ number,
      readSlot (zeros ++ ['}', ')']) = some (⟨number, digits⟩, digits + 1) := by
    rw [readSlot, front, back]
    simp only [filled, width]
    exact ⟨_, rfl⟩
  have chars : ("(uid=\x7b" ++ String.ofList zeros ++ "\x7d)").toList =
      ['(', 'u', 'i', 'd', '=', '{'] ++ (zeros ++ ['}', ')']) := by
    simp
  obtain ⟨more, marked⟩ : ∃ more,
      Template.markers (parts ("(uid=\x7b" ++ String.ofList zeros ++ "\x7d)")) =
        ⟨number, digits⟩ :: more := by
    rw [parts, chars]
    simp only [List.cons_append, List.nil_append, Template.pieces, read, Char.reduceEq, if_true,
      if_false]
    exact ⟨_, rfl⟩
  rw [format]
  simp only [marked, List.findSome?_cons, failure?, long, if_true]

namespace Rehearsal

def poolExhausted : String := "no active server available in server pool"

/-- A network where no connection is made to an address without a directory, as where the directory
client finds no server of a pool. -/
def pooled : Network Script :=
  { Script.network with answer := fun call script => match call with
    | .connect connection =>
      if (script.directory? connection.address).isSome then (.ok (), script)
      else (.error (.directory poolExhausted), script)
    | call => Script.answer call script }

def ready (connectors : List Connector) : Realm :=
  ⟨.ofSettings .empty, .ready, connectors, none⟩

/-- A server of two URLs, neither of which has a directory in rehearsals. -/
def pool : Connector :=
  ⟨{ server .simple .none none with key := "pool", urls := ["ldap://a", "ldap://b"] }⟩

def absent : Connector :=
  ⟨{ server .simple .none none with key := "absent", urls := ["ldap://absent"] }⟩

def marked (digits : Nat) : Connector :=
  let request := "(uid=\x7b" ++ String.ofList (List.replicate digits '0') ++ "\x7d)"
  let plain := server .simple .none none
  ⟨{ plain with users := { plain.users with request := request } }⟩

def accounting : Script :=
  script { Script.Directory.empty with
    accounts := [("uid=jdoe,dc=x", "secret")]
    otherwise := { Script.Rule.empty with items := [item (some "uid=jdoe,dc=x") []] } }

end Rehearsal

open Rehearsal

/-- A marker that is too long stops the search for a user whom the directory would have known. No
call fails. -/
theorem Login.resolve_marked {digits : Nat} (long : Decimal.digitLimit < digits) :
    ∃ after, (resolve (marked digits) "jdoe").run pooled (.start accounting) =
      (.error (.longMarker digits), after) ∧
      AsTold (.start accounting) after ∧ Faultless (.start accounting) after := by
  let c := marked digits
  let s := session c.server
  obtain ⟨served, opened, unclosed, unchanged, told⟩ : ∃ served,
      c.openService.run pooled (.start accounting) = (.ok s, served) ∧
        served.closed = [] ∧ served.network = accounting ∧
        served.history.all Event.isTold = true :=
    ⟨_, rfl, rfl, rfl, rfl⟩
  obtain ⟨after, closed, history⟩ : ∃ after, s.close.run pooled served = (.ok (), after) ∧
      after.history = served.history ++ [.exchange (.unbind s.connection) (.ok ())] := by
    obtain ⟨network, history, closed, connections, pagedSearches, latest⟩ := served
    cases unclosed
    cases unchanged
    exact ⟨_, rfl, rfl⟩
  have invalid : (Lookup.request c "jdoe" []).filter = .error (.longMarker digits) :=
    Filter.format_long long _
  have looked : (Lookup.findUser c s "jdoe" []).run pooled served =
      (.error (.longMarker digits), served) :=
    run_bind_of_error (SearchRequest.run_start_of_failure invalid s)
  refine ⟨after, ?_, .of_history ?_, ?_⟩
  · rw [Login.resolve, run_bind_of_ok opened, Session.during, run_andFinally, looked, closed]
  · rw [history, List.all_append, told]
    rfl
  · exact (Connector.openSession_faultless opened).trans (.of_reply history)

/-- A marker that is too long ends a login, though the directory would have known the user. -/
theorem Realm.marked_escapes {digits : Nat} (long : Decimal.digitLimit < digits) :
    (((ready [marked digits]).authenticate "jdoe" "secret").run pooled (.start accounting)).1 =
      .error (.longMarker digits) := by
  obtain ⟨after, resolved, -⟩ := Login.resolve_marked long
  have judged : (Login.authenticate [marked digits] "jdoe" "secret").run pooled
      (.start accounting) = (.error (.longMarker digits), after) :=
    run_bind_of_error (Login.attempts_stops id resolved "secret" [])
  rw [Realm.authenticate, Realm.verdict, Realm.run_when_ready rfl]
  exact congrArg Prod.fst (run_bind_of_error judged)

/-- A server that cannot be reached is passed over, and the next one accepts the password. -/
theorem Realm.ends_as_told_unreachable :
    let start := World.start accounting
    let realm := ready [absent, ⟨server .simple .none none⟩]
    ∃ error next, absent.openService.run Script.network start = (.error (.connection error), next) ∧
      AsTold start next ∧ absent.IsPassedOver Script.network start next error ∧
      ((realm.authenticate "jdoe" "secret").run Script.network start).1 = .ok true := by
  intro start realm
  have failed : failure? (absent.openService.run Script.network start).1 =
      some (.connection (.notOpened "ldap://absent"
        (.directory "no directory at ldap://absent"))) := by
    decide +kernel
  have told : AsTold start (absent.openService.run Script.network start).2 :=
    .of_history (by decide +kernel)
  have refused : absent.openService.run Script.network start = (.error _, _) :=
    Prod.ext (eq_error_of_failure? failed) rfl
  have ends := (ends_as_told (r := realm) rfl Script.network "jdoe" "secret").2.2.2 absent
    List.mem_cons_self start _ told
  rcases ends.2 _ refused with ⟨error, same, passed⟩ | ⟨_, _, same, _⟩
  · cases same
    refine ⟨_, _, refused, told, passed, ?_⟩
    exact eq_ok_of_toOption (by decide +kernel)
  · cases same

/-- A pool of servers that cannot be reached stops a login that the next server would accept, and so
does a marker that is too long. -/
theorem Realm.login_stopped :
    let start := World.start accounting
    let other : Connector := ⟨server .simple .none none⟩
    let stopped := ((ready [pool, other]).authenticate "jdoe" "secret").run pooled start
    let alone := ((ready [other]).authenticate "jdoe" "secret").run pooled start
    (AsTold start stopped.2 ∧ stopped.1 = .error (.outside (.directory poolExhausted)) ∧
      alone.1 = .ok true) ∧
    (((ready [marked 4301]).authenticate "jdoe" "secret").run pooled start).1 =
      .error (.longMarker 4301) := by
  intro start other stopped alone
  refine ⟨⟨.of_history (by decide +kernel), ?_, ?_⟩, marked_escapes (by decide)⟩
  · exact eq_error_of_failure? (by decide +kernel)
  · exact eq_ok_of_toOption (by decide +kernel)

end DirectoryAuth
