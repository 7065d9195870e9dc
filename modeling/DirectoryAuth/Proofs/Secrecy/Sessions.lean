import DirectoryAuth.Proofs.Secrecy.Pairs
import DirectoryAuth.Realm

/-!
# Secrets of sessions

A password goes into the terms of a connection, into what a connection is bound with, and to the
ticket service. Nothing that is told of a session depends on it: neither how opening and closing
end nor what is logged on the way.
-/

namespace DirectoryAuth

open Operation

variable {σ α β γ : Type} {network : Network σ}

/-! ## Closing -/

namespace Session

variable {s s' : Session}

theorem isClosed_alike (same : s.masked = s'.masked) :
    Alike network id s.isClosed s'.isClosed where
  calls world := .refl world
  calls' world := .refl world
  runs world world' alike _ _ := by
    refine ⟨?_, alike⟩
    change Except.ok (world.closed.contains s.connection.number) =
      Except.ok (world'.closed.contains s'.connection.number)
    rw [number_eq same, alike.closed]

theorem markClosed_alike (same : s.masked = s'.masked) :
    Alike network id s.markClosed s'.markClosed where
  calls _ := .single (.mark trivial)
  calls' _ := .single (.mark trivial)
  runs world world' alike _ _ := by
    refine ⟨rfl, alike.history, ?_, alike.connections, alike.pagedSearches⟩
    change s.connection.number :: world.closed = s'.connection.number :: world'.closed
    rw [number_eq same, alike.closed]

theorem release_alike (same : s.masked = s'.masked) :
    Alike network id s.release s'.release := by
  rw [release, release, server_eq same]
  have given : Alike network id (perform (.unbind s.connection))
      (perform (.unbind s'.connection)) :=
    .perform (.unbind _) (.unbind _) (congrArg Call.unbind (connection_masked same)) rfl
  refine given.attempt_bind (fun _ _ _ => .pure rfl) fun failure => ?_
  cases failure with
  | outside fault => exact .ite (.log _ _ _) (.throw _)
  | _ => exact .throw _

theorem close_alike (same : s.masked = s'.masked) : Alike network id s.close s'.close := by
  refine (isClosed_alike same).bind_same fun closed => .ite (.pure rfl) ?_
  exact (markClosed_alike same).bind_same fun _ => release_alike same

theorem during_alike (same : s.masked = s'.masked) {view : α → β} {body body' : Operation σ α}
    (within : Alike network view body body') :
    Alike network view (s.during body) (s'.during body') :=
  within.andFinally (close_alike same)

end Session

namespace Connector

/-! ## Tickets and terms -/

theorem prepareTicket_alike (principal : String) :
    Alike network id (askTickets principal (.prepareTicket principal))
      (askTickets principal (.prepareTicket principal)) := by
  have asked : Alike network id (perform (.prepareTicket principal))
      (perform (.prepareTicket principal)) := .perform_same (.prepareTicket principal)
  refine asked.attempt_bind (fun _ _ _ => .pure rfl) fun failure => ?_
  cases failure <;> exact .throw _

theorem askForTicket_alike (principal : String) {text text' : String}
    (same : blottedText text = blottedText text') :
    Alike network id (askTickets principal (.acquireTicket principal text))
      (askTickets principal (.acquireTicket principal text')) := by
  have asked : Alike network id (perform (.acquireTicket principal text))
      (perform (.acquireTicket principal text')) :=
    .perform (.acquireTicket _ _) (.acquireTicket _ _)
      (congrArg (Call.acquireTicket principal) same) rfl
  refine asked.attempt_bind (fun _ _ same => .pure same) fun failure => ?_
  cases failure <;> exact .throw _

/-- A ticket is asked for in both runs or in none: both passwords are empty or none is, and a
password that is no text is the same in both. -/
theorem acquireTicket_alike (principal : String) {password password' : Option Password}
    (same : password.map blotted = password'.map blotted) :
    Alike network id (acquireTicket principal password) (acquireTicket principal password') := by
  cases password with
  | none =>
    rw [Option.map_eq_none_iff.mp same.symm]
    exact .throw _
  | some secret =>
    obtain ⟨secret', rfl, blot⟩ := Option.map_eq_some_iff.mp same.symm
    rw [acquireTicket, acquireTicket]
    by_cases empty : secret = .blank
    · have empty' : secret' = .blank := (eq_blank_iff_of_blotted blot).mpr empty
      rw [empty, empty']
      exact .throw _
    · have filled' : secret' ≠ .blank := mt (eq_blank_iff_of_blotted blot).mp empty
      rw [Option.filter_some_pos (by simpa using empty),
        Option.filter_some_pos (by simpa using filled')]
      refine (prepareTicket_alike principal).bind_same fun _ => ?_
      rcases texts_or_eq_of_blotted blot with ⟨text', text, rfl, rfl, texts⟩ | ⟨rfl, unsendable⟩
      · rw [sentText_ofText, sentText_ofText]
        exact askForTicket_alike principal texts.symm
      · rw [sentText, unsendable]
        exact .bind_same (.throw _) fun text => askForTicket_alike principal rfl

theorem ticketFor_alike (c : Connector) (purpose : Purpose) (account : String)
    {password password' : Option Password}
    (same : password.map blotted = password'.map blotted) :
    Alike network id (c.ticketFor purpose account password)
      (c.ticketFor purpose account password') := by
  refine (acquireTicket_alike _ same).attempt_bind_same fun outcome => ?_
  match purpose, outcome with
  | .user, outcome => exact .ofOutcome rfl
  | .service, .ok ticket => exact .ofOutcome rfl
  | .service, .error failure =>
    cases failure with
    | credentials cause => exact .throw _
    | _ => exact .ofOutcome rfl

theorem ticket?_alike (c : Connector) (purpose : Purpose) (account : Option String)
    {password password' : Option Password}
    (same : password.map blotted = password'.map blotted) :
    Alike network id (c.ticket? purpose account password)
      (c.ticket? purpose account password') := by
  unfold ticket?
  refine .ite ?_ (.pure rfl)
  match account.filter (· ≠ ""), purpose with
  | some account, purpose =>
    exact (ticketFor_alike c purpose account same).bind_same fun _ => .pure rfl
  | none, .user => exact .throw _
  | none, .service => exact .pure rfl

theorem credentials_masked (c : Connector) (account : Option String)
    {password password' : Option Password} (same : password.map blotted = password'.map blotted)
    (ticket : Option String) :
    (c.credentials account password ticket).masked =
      (c.credentials account password' ticket).masked := by
  have presented (account : String) :
      Credentials.masked (.simple account password) =
        Credentials.masked (.simple account password') := congrArg (Credentials.simple account) same
  unfold credentials
  cases c.server.mechanism with
  | digestMd5 => exact congrArg (Credentials.digest c.server.realm account) same
  | gssapi => rfl
  | simple | cramMd5 | unknown =>
    cases account.filter (· ≠ "") with
    | none => rfl
    | some account => exact presented account

theorem terms_alike (c : Connector) (account : Option String)
    {password password' : Option Password} (same : password.map blotted = password'.map blotted)
    (ticket : Option String) :
    Alike network Terms.masked (c.terms account password ticket)
      (c.terms account password' ticket) := by
  refine .logged (.pure ?_)
  exact congrArg (Terms.mk c.server.followReferrals c.server.readTimeout)
    (c.credentials_masked account same ticket)

/-! ## Opening -/

theorem nextNumber_alike (connection : Connection) :
    Alike network id (nextNumber : Operation σ Nat) nextNumber where
  calls _ := .single (@World.Step.number _ _ _ _ connection trivial)
  calls' _ := .single (@World.Step.number _ _ _ _ connection trivial)
  runs world world' alike _ _ := by
    refine ⟨congrArg Except.ok alike.connections, alike.history, alike.closed, ?_,
      alike.pagedSearches⟩
    exact congrArg (· + 1) alike.connections

theorem connect_alike (c : Connector) {terms terms' : Terms} (same : terms.masked = terms'.masked) :
    Alike network Session.masked (c.connect terms) (c.connect terms') := by
  refine (nextNumber_alike ⟨0, c.address, terms⟩).bind_same fun number => ?_
  have connection : (⟨number, c.address, terms⟩ : Connection).masked =
      (⟨number, c.address, terms'⟩ : Connection).masked :=
    congrArg (Connection.mk number c.address) same
  have made : Alike network id (perform (.connect ⟨number, c.address, terms⟩))
      (perform (.connect ⟨number, c.address, terms'⟩)) :=
    .perform (.connect _) (.connect _) (congrArg Call.connect connection) rfl
  exact made.bind_same fun _ => .pure (congrArg (Session.mk · c.key) connection)

theorem openSocket_alike (c : Connector) {s s' : Session} (same : s.masked = s'.masked) :
    Alike network id (c.openSocket s) (c.openSocket s') := by
  have connection := Session.connection_masked same
  have opened : Alike network id (perform (.openSocket s.connection))
      (perform (.openSocket s'.connection)) :=
    .perform (.openSocket _) (.openSocket _) (congrArg Call.openSocket connection) rfl
  have upgraded : Alike network id (perform (.startTls s.connection))
      (perform (.startTls s'.connection)) :=
    .perform (.startTls _) (.startTls _) (congrArg Call.startTls connection) rfl
  refine (opened.translating _).bind_same fun _ => .ite ?_ (.pure rfl)
  exact (upgraded.translating _).bind_same fun reply => .ite (.throw _) (.pure rfl)

theorem bindAs_alike (c : Connector) (purpose : Purpose) (account : Option String)
    {s s' : Session} (same : s.masked = s'.masked) :
    Alike network id (c.bindAs purpose account s) (c.bindAs purpose account s') := by
  have bound : Alike network id (perform (.bind s.connection))
      (perform (.bind s'.connection)) :=
    .perform (.bind _) (.bind _) (congrArg Call.bind (Session.connection_masked same)) rfl
  exact (bound.translating _).bind_same fun reply => .ite (.throw _) (.pure rfl)

/-- Opening a session does not tell the passwords apart. -/
theorem openSession_alike (c : Connector) (purpose : Purpose) (account : Option String)
    {password password' : Option Password}
    (same : password.map blotted = password'.map blotted) :
    Alike network Session.masked (c.openSession purpose account password)
      (c.openSession purpose account password') := by
  refine (c.ticket?_alike purpose account same).bind_same fun ticket => ?_
  refine (c.terms_alike account same ticket).bind fun terms terms' same => ?_
  refine (c.connect_alike same).bind fun s s' same => ?_
  have establish : Alike network id (do c.openSocket s; c.bindAs purpose account s)
      (do c.openSocket s'; c.bindAs purpose account s') :=
    (c.openSocket_alike same).bind_same fun _ => c.bindAs_alike purpose account same
  refine establish.attempt_bind (fun _ _ _ => .pure same) fun failure => ?_
  exact (Session.close_alike same).bind_same fun _ => .throw _

/-- The session of the service account is opened alike whatever its password is. -/
theorem openService_alike {c c' : Connector} (same : c.masked = c'.masked) :
    Alike network Session.masked c.openService c'.openService := by
  obtain ⟨password, blot, rfl⟩ := eq_withPassword same
  have texts : blotted ∘ Password.ofText = Password.ofText ∘ blottedText := funext blotted_ofText
  refine c.openSession_alike .service c.server.bindName ?_
  change (c.server.bindPassword.map .ofText).map blotted = (password.map .ofText).map blotted
  rw [Option.map_map, Option.map_map, texts, ← Option.map_map, ← Option.map_map, blot]

theorem openUser_alike {c c' : Connector} (same : c.masked = c'.masked) (account : Option String)
    {password password' : Option Password}
    (blot : password.map blotted = password'.map blotted) :
    Alike network Session.masked (c.openUser account password) (c'.openUser account password') := by
  obtain ⟨other, -, rfl⟩ := eq_withPassword same
  exact c.openSession_alike .user account blot

theorem test_alike {c c' : Connector} (same : c.masked = c'.masked) :
    Alike network id c.test c'.test := by
  have opening : Alike network id (do (← c.openService).close) (do (← c'.openService).close) :=
    (openService_alike same).bind fun _ _ same => Session.close_alike same
  obtain ⟨password, -, rfl⟩ := eq_withPassword same
  refine .ite (.throw _) (opening.attempt_bind (fun _ _ _ => .log _ _ _) fun failure => ?_)
  cases failure with
  | connection error => exact .logged (.throw _)
  | _ => exact .throw _

theorem declare_alike (server : Server) :
    Alike network id (declare server) (declare server) := by
  refine .bind_same (.forM_same fun url => .perform_same (.declareServer _)) fun _ => ?_
  exact .ite (.perform_same (.declarePool _)) (.pure rfl)

/-- Connectors are made alike for servers that differ in secrets only. -/
theorem ofServer_alike {server server' : Server} (same : server.masked = server'.masked) :
    Alike network masked (ofServer server) (ofServer server') := by
  have connector : masked ⟨server⟩ = masked ⟨server'⟩ := congrArg Connector.mk same
  obtain ⟨password, -, made⟩ := eq_withPassword connector
  cases made
  have supported : mechanismError? { server with bindPassword := password } =
    mechanismError? server := rfl
  rw [ofServer, ofServer, supported]
  cases mechanismError? server with
  | some error => exact .throw _
  | none => exact (declare_alike server).bind_same fun _ => .pure connector

end Connector

end DirectoryAuth
