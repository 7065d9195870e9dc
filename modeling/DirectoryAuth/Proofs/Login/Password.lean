import DirectoryAuth.Proofs.Network.Rehearsal
import DirectoryAuth.Proofs.Session.Tickets
import DirectoryAuth.Proofs.Tasks

/-!
# What a login proves

A login that succeeded at a server was accepted in a bind. What that bind presented follows from
the entry that was found and from how the server wants users to prove themselves. Where entries are
bound by name, one that has no name is bound as nobody, and the password is not looked at.
-/

namespace DirectoryAuth

variable {σ : Type} {network : Network σ} {world after : World σ}

open Operation World

/-! ## Opening a session of a user -/

namespace Connector

/-- Where users prove themselves with tickets, a new one was got with the password. -/
theorem ticket?_eq_ok {c : Connector} {account : String} {password : Password}
    {ticket : Option String}
    (h : (c.ticket? .user (some account) (some password)).run network world =
      (.ok ticket, after)) :
    c.server.mechanism ≠ .gssapi ∨ ∃ text issued, password = .ofText text ∧ ticket = some issued ∧
      Happened (.exchange (.acquireTicket (c.principalOf account) text) (.ok issued))
        world after := by
  by_cases gssapi : c.server.mechanism = .gssapi
  · right
    unfold ticket? at h
    rw [if_pos gssapi] at h
    by_cases blank : account = ""
    · simp only [blank] at h
      cases h
    · rw [Option.filter_some_pos (by simpa using blank)] at h
      obtain ⟨issued, next, acquired, h⟩ := run_bind_eq_ok h
      cases h
      rw [ticketFor, run_attempt_bind] at acquired
      have got : (acquireTicket (c.principalOf account) (some password)).run network world =
          (.ok issued, after) := by
        rw [← acquired]
        rfl
      obtain ⟨text, given, happened⟩ := acquireTicket_eq_ok got
      exact ⟨text, issued, given, rfl, happened⟩
  · exact .inl gssapi

theorem connect_eq_ok {c : Connector} {terms : Terms} {s : Session}
    (h : (c.connect terms).run network world = (.ok s, after)) : s.connection.terms = terms := by
  rw [run_connect] at h
  cases answered : (network.answer (.connect ⟨world.connections, c.address, terms⟩)
      world.network).1 with
  | ok reply =>
    rw [answered] at h
    cases h
    rfl
  | error fault =>
    rw [answered] at h
    cases h

/-- A session is bound once the directory has accepted what it presents. -/
theorem bindAs_eq_ok {c : Connector} {purpose : Purpose} {account : Option String} {s : Session}
    (h : (c.bindAs purpose account s).run network world = (.ok (), after)) :
    ∃ report, Happened (.exchange (.bind s.connection) (.ok ⟨true, report⟩)) world after := by
  obtain ⟨reply, next, bound, h⟩ := run_bind_eq_ok h
  rw [run_translating] at bound
  obtain ⟨translated, ended⟩ := Prod.mk.inj bound
  have happened := perform_eq_ok (Prod.ext (translated_eq_ok translated) ended)
  obtain ⟨accepted, report⟩ := reply
  cases accepted with
  | true =>
    cases h
    exact ⟨report, happened⟩
  | false => cases h

/-- A session of a user presents what is made from the account, the password and a new ticket, and
the directory has accepted that. -/
theorem openUser_eq_ok {c : Connector} {account : String} {password : Password} {s : Session}
    (h : (c.openUser (some account) (some password)).run network world = (.ok s, after)) :
    ∃ ticket,
      s.connection.terms.credentials = c.credentials (some account) (some password) ticket ∧
      (c.server.mechanism ≠ .gssapi ∨
        ∃ text issued, password = .ofText text ∧ ticket = some issued ∧
          Happened (.exchange (.acquireTicket (c.principalOf account) text) (.ok issued))
            world after) ∧
      ∃ report, Happened (.exchange (.bind s.connection) (.ok ⟨true, report⟩)) world after := by
  obtain ⟨ticket, w₁, ticketed, h⟩ := run_bind_eq_ok h
  obtain ⟨terms, w₂, termed, h⟩ := run_bind_eq_ok h
  obtain ⟨session, w₃, connected, h⟩ := run_bind_eq_ok h
  rw [run_attempt_bind] at h
  rcases established : Operation.run
      (do c.openSocket session; c.bindAs .user (some account) session) network w₃ with
    ⟨outcome, w₄⟩
  rw [established] at h
  cases outcome with
  | error failure =>
    obtain ⟨_, _, _, h⟩ := run_bind_eq_ok h
    cases h
  | ok _ =>
    cases h
    obtain ⟨_, w₅, opened, bound⟩ := run_bind_eq_ok established
    -- Each part of the opening adds to the history of the ones before it.
    have grows₁ := (c.ticket?_callsOnly _ _ _).grows ticketed
    have calls₂ : CallsOnly network Call.IsOpening
        (c.terms (some account) (some password) ticket) :=
      c.terms_callsOnly _ _ _
    have grows₂ := calls₂.grows termed
    have grows₃ := (c.connect_callsOnly _).grows connected
    have grows₄ := (c.openSocket_callsOnly _).grows opened
    have grows₅ := (c.bindAs_callsOnly _ _ _).grows bound
    refine ⟨ticket, ?_, ?_, ?_⟩
    · rw [connect_eq_ok connected]
      obtain ⟨_, _, _, termed⟩ := run_bind_eq_ok termed
      cases termed
      rfl
    · rcases ticket?_eq_ok ticketed with other | ⟨text, issued, given, same, happened⟩
      · exact .inl other
      · have grows := grows₂.trans (grows₃.trans (grows₄.trans grows₅))
        exact .inr ⟨text, issued, given, same, happened.upTo grows⟩
    · obtain ⟨report, happened⟩ := bindAs_eq_ok bound
      have grows := grows₁.trans (grows₂.trans (grows₃.trans grows₄))
      exact ⟨report, happened.since grows⟩

end Connector

namespace Login

/-! ## Checking a password -/

/-- What the bind of a session presents that was opened to check the password of an entry. A new
ticket is one that was issued for the text of the password in the course of the opening. -/
inductive Presents (c : Connector) (login : String) (password : Password) (entry : Entry)
    (before after : World σ) : Credentials → Prop
  | entry (mechanism : c.server.mechanism = .simple) (named : entry.name ≠ "") :
      Presents c login password entry before after (.simple entry.name (some password))
  | nobody (mechanism : c.server.mechanism = .simple) (nameless : entry.name = "") :
      Presents c login password entry before after .anonymous
  | login (mechanism : c.server.mechanism = .digestMd5) :
      Presents c login password entry before after
        (.digest c.server.realm (some login) (some password))
  | ticket {text issued : String} (mechanism : c.server.mechanism = .gssapi)
      (given : password = .ofText text)
      (acquired : Happened (.exchange (.acquireTicket (c.principalOf login) text)
        (.ok issued)) before after) :
      Presents c login password entry before after (.ticket (some issued))

/-- Between two worlds, an entry was found for a login in a session of the service account, a
session of the user was opened with the password, and the directory accepted what that session
presented. -/
inductive Accepted (network : Network σ) (c : Connector) (login : String) (password : Password)
    (before after : World σ) : Prop
  | intro {entry : Entry} {service session : Session}
      {start asking found opening opened : World σ} {report : Option Report}
      (starts : before.history <+: start.history)
      (serves : c.openService.run network start = (.ok service, asking))
      (finds : (Lookup.findUser c service login []).run network asking =
        (.ok (some entry), found))
      (continues : found.history <+: opening.history)
      (opens : (c.openUser (some (account c login entry)) (some password)).run network opening =
        (.ok session, opened))
      (presents : Presents c login password entry opening opened
        session.connection.terms.credentials)
      (accepts : Happened (.exchange (.bind session.connection) (.ok ⟨true, report⟩))
        opening opened)
      (ends : opened.history <+: after.history)

theorem Accepted.weaken {c : Connector} {login : String} {password : Password} {a b d e : World σ}
    (accepted : Accepted network c login password b d) (earlier : a.history <+: b.history)
    (later : d.history <+: e.history) : Accepted network c login password a e := by
  obtain ⟨starts, serves, finds, continues, opens, presents, accepts, ends⟩ := accepted
  exact .intro (earlier.trans starts) serves finds continues opens presents accepts
    (ends.trans later)

theorem account_of_simple {c : Connector} (mechanism : c.server.mechanism = .simple)
    (login : String) (entry : Entry) : account c login entry = entry.name := by
  rw [account, mechanism]
  rfl

theorem account_of_sasl {c : Connector} (sasl : c.server.mechanism.isSasl = true)
    (login : String) (entry : Entry) : account c login entry = login :=
  if_pos sasl

theorem presents_of_credentials {c : Connector} {login : String} {password : Password}
    {entry : Entry} {ticket : Option String} {before after : World σ}
    (usable : Connector.mechanismError? c.server = none)
    (ticketed : c.server.mechanism ≠ .gssapi ∨
      ∃ text issued, password = .ofText text ∧ ticket = some issued ∧
        Happened (.exchange (.acquireTicket (c.principalOf (account c login entry)) text)
          (.ok issued)) before after) :
    Presents c login password entry before after
      (c.credentials (some (account c login entry)) (some password) ticket) := by
  cases mechanism : c.server.mechanism with
  | simple =>
    rw [Connector.credentials, mechanism, account_of_simple mechanism]
    by_cases nameless : entry.name = ""
    · rw [nameless]
      exact .nobody mechanism nameless
    · rw [Option.filter_some_pos (by simpa using nameless)]
      exact .entry mechanism nameless
  | digestMd5 =>
    have sasl : c.server.mechanism.isSasl = true := by
      rw [mechanism]
      decide
    rw [Connector.credentials, mechanism, account_of_sasl sasl]
    exact .login mechanism
  | gssapi =>
    have sasl : c.server.mechanism.isSasl = true := by
      rw [mechanism]
      decide
    rcases ticketed with other | ⟨text, issued, given, rfl, happened⟩
    · exact absurd mechanism other
    · rw [account_of_sasl sasl] at happened
      rw [Connector.credentials, mechanism]
      exact .ticket mechanism given happened
  | cramMd5 =>
    rw [Connector.mechanismError?, mechanism] at usable
    cases usable
  | unknown name =>
    rw [Connector.mechanismError?, mechanism] at usable
    cases usable

theorem unconnected_status {c : Connector} {login : String} {error : ConnectionError}
    {attempt : Attempt}
    (h : (unconnected c login error).run network world = (.ok attempt, after)) :
    attempt.status ≠ .success := by
  rw [unconnected] at h
  split at h
  · obtain ⟨_, _, _, h⟩ := run_bind_eq_ok h
    cases h
    exact LoginStatus.noConfusion
  · obtain ⟨_, _, _, h⟩ := run_bind_eq_ok h
    cases h
    exact LoginStatus.noConfusion

theorem checkPassword_success {c : Connector} {login : String} {password : Password} {entry : Entry}
    {attempt : Attempt}
    (h : (checkPassword c login password entry).run network world = (.ok attempt, after))
    (success : attempt.status = .success) :
    attempt.server = c.key ∧ ∃ session opened,
      (c.openUser (some (account c login entry)) (some password)).run network world =
        (.ok session, opened) ∧ opened.history <+: after.history := by
  rw [checkPassword] at h
  dsimp only at h
  rw [run_attempt_bind] at h
  rcases opening : Operation.run (do
      (← c.openUser (some (account c login entry)) (some password)).close) network world with
    ⟨outcome, closed⟩
  rw [opening] at h
  match outcome with
  | .ok () =>
    obtain ⟨session, opened, ran, closing⟩ := run_bind_eq_ok opening
    have grows := session.close_callsOnly.grows closing
    obtain ⟨_, _, logged, h⟩ := run_bind_eq_ok h
    cases logged
    cases h
    exact ⟨rfl, session, opened, ran, grows.trans (List.prefix_append _ _)⟩
  | .error failure =>
    cases failure with
    | credentials error =>
      obtain ⟨_, _, _, h⟩ := run_bind_eq_ok h
      cases h
      cases success
    | connection error => exact absurd success (unconnected_status h)
    | _ => cases h

/-- One server records a success only for a password that its directory has accepted. -/
theorem check_success {c : Connector} {login : String} {password : Password} {attempt : Attempt}
    (usable : Connector.mechanismError? c.server = none)
    (h : (check c login password).run network world = (.ok attempt, after))
    (success : attempt.status = .success) :
    attempt.server = c.key ∧ Accepted network c login password world after := by
  rw [check] at h
  rw [run_attempt_bind] at h
  rcases resolving : (resolve c login).run network world with ⟨outcome, closed⟩
  rw [resolving] at h
  match outcome with
  | .ok none =>
    obtain ⟨_, _, _, h⟩ := run_bind_eq_ok h
    cases h
    cases success
  | .ok (some entry) =>
    obtain ⟨server, session, opened, opening, ends⟩ := checkPassword_success h success
    obtain ⟨ticket, presented, ticketed, report, accepts⟩ := Connector.openUser_eq_ok opening
    have presents := presents_of_credentials usable ticketed
    rw [← presented] at presents
    -- The entry was found in between the opening and the closing of the service session.
    obtain ⟨service, asking, serviceOpened, during⟩ := run_bind_eq_ok resolving
    rw [Session.during, run_andFinally] at during
    rcases closing : service.close.run network
      ((Lookup.findUser c service login []).run network asking).2 with ⟨outcome, final⟩
    have continues := service.close_callsOnly.grows closing
    rw [closing] at during
    cases outcome with
    | error failure => cases during
    | ok _ =>
      obtain ⟨finds, rfl⟩ := Prod.mk.inj during
      exact ⟨server, .intro (List.prefix_refl _) serviceOpened (Prod.ext finds rfl) continues opening
        presents accepts ends⟩
  | .error failure =>
    cases failure with
    | connection error => exact absurd success (unconnected_status h)
    | search error =>
      obtain ⟨_, _, _, h⟩ := run_bind_eq_ok h
      cases h
      cases success
    | _ => cases h

/-- The attempts are made with the servers in order, and each is what its server records. -/
theorem attempts_success {login : String} {password : Password} {connectors : List Connector}
    {attempts : List Attempt}
    (usable : ∀ c ∈ connectors, Connector.mechanismError? c.server = none)
    (h : (Login.attempts login password connectors).run network world = (.ok attempts, after))
    {i : Nat} {attempt : Attempt} (recorded : attempts[i]? = some attempt)
    (success : attempt.status = .success) :
    ∃ c, connectors[i]? = some c ∧ attempt.server = c.key ∧
      Accepted network c login password world after := by
  induction connectors generalizing world attempts i with
  | nil =>
    cases h
    cases recorded
  | cons c rest ih =>
    obtain ⟨first, next, checked, h⟩ := run_bind_eq_ok h
    have here := check_success (usable c List.mem_cons_self) checked
    have starts := (check_course (Eq.refl c) login password).grows checked
    split at h
    · cases h
      cases i with
      | zero =>
        cases recorded
        obtain ⟨server, accepted⟩ := here success
        exact ⟨c, rfl, server, accepted⟩
      | succ i => cases recorded
    · obtain ⟨others, last, ran, h⟩ := run_bind_eq_ok h
      cases h
      have continues :=
        (attempts_course (fun _ member => member) login password).grows ran
      cases i with
      | zero =>
        cases recorded
        obtain ⟨server, accepted⟩ := here success
        exact ⟨c, rfl, server, accepted.weaken (List.prefix_refl _) continues⟩
      | succ i =>
        obtain ⟨other, place, server, accepted⟩ :=
          ih (fun c member => usable c (List.mem_cons_of_mem _ member)) ran recorded
        exact ⟨other, place, server, accepted.weaken starts (List.prefix_refl _)⟩

/-- Where a login is recorded as a success, the directory of that server has accepted a session
opened with the password: for the name of the entry that was found, for the login, or with a ticket
that the password was given for. Only where the entry has no name, nobody in particular was
accepted. -/
theorem authenticate_success {connectors : List Connector} {login : String} {password : Password}
    {verdict : Verdict}
    (usable : ∀ c ∈ connectors, Connector.mechanismError? c.server = none)
    (ran : (authenticate connectors login password).run network world = (.ok verdict, after))
    {i : Nat} {attempt : Attempt} (recorded : verdict.attempts[i]? = some attempt)
    (success : attempt.status = .success) :
    ∃ c, connectors[i]? = some c ∧ attempt.server = c.key ∧
      Accepted network c login password world after := by
  rw [authenticate] at ran
  split at ran
  · obtain ⟨_, _, _, ran⟩ := run_bind_eq_ok ran
    cases ran
    cases recorded
  · obtain ⟨attempts, next, attempted, ran⟩ := run_bind_eq_ok ran
    cases ran
    exact attempts_success usable attempted recorded success

open Rehearsal in
/-- A user with an account and a name is accepted for that name. -/
theorem authenticate_success_named :
    let c : Connector := ⟨server .simple .none none⟩
    let user := item (some "uid=jdoe,dc=x") []
    let start := World.start (script { Script.Directory.empty with
      accounts := [("uid=jdoe,dc=x", "secret")]
      otherwise := { Script.Rule.empty with items := [user] } })
    let after := ((authenticate [c] "jdoe" "secret").run Script.network start).2
    (∀ d ∈ [c], Connector.mechanismError? d.server = none) ∧
      ((authenticate [c] "jdoe" "secret").run Script.network start).1.toOption =
        some ⟨"jdoe", [⟨c.key, .success, ""⟩]⟩ ∧
      ∃ d, [c][0]? = some d ∧ c.key = d.key ∧
        Accepted Script.network d "jdoe" "secret" start after := by
  intro c user start after
  have usable : ∀ d ∈ [c], Connector.mechanismError? d.server = none := by
    intro d member
    rw [List.mem_singleton.mp member]
    rfl
  have verdict : ((authenticate [c] "jdoe" "secret").run Script.network start).1.toOption =
      some ⟨"jdoe", [⟨c.key, .success, ""⟩]⟩ := by
    decide +kernel
  have recorded : [(⟨c.key, .success, ""⟩ : Attempt)][0]? = some ⟨c.key, .success, ""⟩ := rfl
  exact ⟨usable, verdict,
    authenticate_success usable (run_eq_of_toOption verdict) recorded rfl⟩

def presented? : Call → Option Credentials
  | .bind connection => some connection.terms.credentials
  | _ => none

open Rehearsal in
/-- Where the entry of a login has no name, a password that nobody has is recorded as a success,
and no bind presents it. -/
theorem success_of_nobody :
    let c : Connector := ⟨server .simple .none none⟩
    let start := World.start (script { Script.Directory.empty with
      otherwise := { Script.Rule.empty with items := [item none []] } })
    let after := ((authenticate [c] "jdoe" "secret").run Script.network start).2
    ((authenticate [c] "jdoe" "secret").run Script.network start).1.toOption =
        some ⟨"jdoe", [⟨c.key, .success, ""⟩]⟩ ∧
      after.calls.filterMap presented? = [.anonymous, .anonymous] := by
  decide +kernel

end Login

end DirectoryAuth
