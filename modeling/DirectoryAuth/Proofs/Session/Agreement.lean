import DirectoryAuth.Proofs.Network.Static
import DirectoryAuth.Proofs.Search.Findings
import DirectoryAuth.Proofs.Tasks

/-!
# Sessions in fixed networks

Where the answers to calls in sessions are fixed, it does not matter when a session is opened:
whatever was done before, it is opened in the same way, or it fails to be. Nor does it matter when a
session is closed, or a server tested.
-/

namespace DirectoryAuth

open Operation World

variable {σ : Type} {network : Network σ} {state : σ} {p q : Nat} {a b : World σ}

/-! ## Sessions -/

/-- Two sessions with one server, whose connections were made with the same terms after equally many
others. -/
structure Session.Abreast (p q : Nat) (s s' : Session) : Prop where
  server : s.server = s'.server
  plain : s.connection.plain = s'.connection.plain
  number : ∃ i, s.connection.number = p + i ∧ s'.connection.number = q + i

namespace Session

variable {s s' : Session}

theorem isClosed_agree (alike : Abreast p q s s') :
    Agree network state p q Eq s.isClosed s'.isClosed := by
  intro a b abreast
  obtain ⟨i, number, number'⟩ := alike.number
  refine ⟨?_, abreast⟩
  change a.closed.contains s.connection.number = b.closed.contains s'.connection.number
  rw [number, number', Bool.eq_iff_iff, List.contains_iff_mem, List.contains_iff_mem]
  exact abreast.closed i

theorem markClosed_agree (alike : Abreast p q s s') :
    Agree network state p q Eq s.markClosed s'.markClosed := by
  intro a b abreast
  obtain ⟨i, number, number'⟩ := alike.number
  refine ⟨rfl, abreast.left, abreast.right, abreast.connections, fun j => ?_⟩
  change p + j ∈ s.connection.number :: a.closed ↔ q + j ∈ s'.connection.number :: b.closed
  have same : p + j = p + i ↔ q + j = q + i := by omega
  rw [List.mem_cons, List.mem_cons, number, number']
  exact or_congr same (abreast.closed j)

theorem release_agree (fixed : network.Fixed Call.IsSession state) (alike : Abreast p q s s') :
    Agree network state p q Eq s.release s'.release := by
  have unbind : Agree network state p q (fun reply reply' => HEq reply reply')
      (perform (.unbind s.connection)) (perform (.unbind s'.connection)) :=
    .perform fixed trivial trivial (congrArg Call.unbind alike.plain)
  refine unbind.attempt_bind (fun _ _ _ => .pure rfl) fun failure => ?_
  cases failure with
  | outside fault => exact .ite (Agree.log _ _ _ _) (.throw _)
  | _ => exact .throw _

theorem close_agree (fixed : network.Fixed Call.IsSession state) (alike : Abreast p q s s') :
    Agree network state p q Eq s.close s'.close := by
  refine (isClosed_agree alike).bind fun closed closed' same => ?_
  cases same
  refine .ite (.pure rfl) ?_
  exact (markClosed_agree alike).bind fun _ _ _ => release_agree fixed alike

end Session

namespace Connector

theorem askTickets_agree (fixed : network.Fixed Call.IsSession state) (principal : String)
    (call : Call) (session : call.IsSession) :
    Agree network state p q Eq (askTickets principal call) (askTickets principal call) := by
  have asked : Agree network state p q (fun reply reply' => HEq reply reply')
      (perform call) (perform call) := .perform fixed session session rfl
  refine asked.attempt_bind (fun _ _ same => .pure (eq_of_heq same)) fun failure => ?_
  cases failure <;> exact .throw _

theorem acquireTicket_agree (fixed : network.Fixed Call.IsSession state) (principal : String)
    (password : Option Password) :
    Agree network state p q Eq (acquireTicket principal password)
      (acquireTicket principal password) := by
  rw [acquireTicket]
  cases password.filter (· ≠ .blank) with
  | none => exact .throw _
  | some password =>
    refine (askTickets_agree fixed principal (.prepareTicket _) trivial).bind_same fun _ => ?_
    dsimp only [sentText]
    cases password.text? with
    | none => exact .throw _
    | some text => exact askTickets_agree fixed principal (.acquireTicket _ _) trivial

theorem ticketFor_agree (fixed : network.Fixed Call.IsSession state) (c : Connector)
    (purpose : Purpose) (account : String) (password : Option Password) :
    Agree network state p q Eq (c.ticketFor purpose account password)
      (c.ticketFor purpose account password) := by
  refine (acquireTicket_agree fixed _ _).attempt.bind fun outcome outcome' same => ?_
  cases same.eq
  match purpose, outcome with
  | .user, outcome => exact .ofOutcome same
  | .service, .ok ticket => exact .ofOutcome same
  | .service, .error failure =>
    cases failure with
    | credentials cause => exact .throw _
    | _ => exact .ofOutcome same

theorem ticket?_agree (fixed : network.Fixed Call.IsSession state) (c : Connector)
    (purpose : Purpose) (account : Option String) (password : Option Password) :
    Agree network state p q Eq (c.ticket? purpose account password)
      (c.ticket? purpose account password) := by
  unfold ticket?
  refine .ite ?_ (.pure rfl)
  match account.filter (· ≠ ""), purpose with
  | some account, purpose =>
    refine (ticketFor_agree fixed c _ _ _).bind fun ticket ticket' same => ?_
    exact .pure (congrArg some same)
  | none, .user => exact .throw _
  | none, .service => exact .pure rfl

theorem terms_agree (c : Connector) (account : Option String) (password : Option Password)
    (ticket : Option String) :
    Agree network state p q Eq (c.terms account password ticket)
      (c.terms account password ticket) :=
  (Agree.log _ _ _ _).bind fun _ _ _ => .pure rfl

theorem nextNumber_agree :
    Agree network state p q (fun n m => ∃ i, n = p + i ∧ m = q + i) nextNumber nextNumber := by
  intro a b abreast
  obtain ⟨i, connections, connections'⟩ := abreast.connections
  refine ⟨⟨i, connections, connections'⟩, abreast.left, abreast.right, ⟨i + 1, ?_⟩, abreast.closed⟩
  change a.connections + 1 = _ ∧ b.connections + 1 = _
  omega

theorem connect_agree (fixed : network.Fixed Call.IsSession state) (c : Connector) (terms : Terms) :
    Agree network state p q (Session.Abreast p q) (c.connect terms) (c.connect terms) := by
  refine nextNumber_agree.bind fun n m number => ?_
  have connect : Agree network state p q (fun reply reply' => HEq reply reply')
      (perform (.connect ⟨n, c.address, terms⟩)) (perform (.connect ⟨m, c.address, terms⟩)) :=
    .perform fixed trivial trivial rfl
  exact connect.bind fun _ _ _ => .pure ⟨rfl, rfl, number⟩

variable {s s' : Session}

theorem openSocket_agree (fixed : network.Fixed Call.IsSession state) (c : Connector)
    (alike : Session.Abreast p q s s') :
    Agree network state p q Eq (c.openSocket s) (c.openSocket s') := by
  have opening : Agree network state p q (fun reply reply' => HEq reply reply')
      (perform (.openSocket s.connection)) (perform (.openSocket s'.connection)) :=
    .perform fixed trivial trivial (congrArg Call.openSocket alike.plain)
  have upgrading : Agree network state p q (fun reply reply' => HEq reply reply')
      (perform (.startTls s.connection)) (perform (.startTls s'.connection)) :=
    .perform fixed trivial trivial (congrArg Call.startTls alike.plain)
  refine opening.translating.bind fun _ _ _ => .ite ?_ (.pure rfl)
  refine upgrading.translating.bind fun reply reply' same => ?_
  cases same
  exact .ite (.throw _) (.pure rfl)

theorem bindAs_agree (fixed : network.Fixed Call.IsSession state) (c : Connector)
    (purpose : Purpose) (account : Option String) (alike : Session.Abreast p q s s') :
    Agree network state p q Eq (c.bindAs purpose account s) (c.bindAs purpose account s') := by
  have binding : Agree network state p q (fun reply reply' => HEq reply reply')
      (perform (.bind s.connection)) (perform (.bind s'.connection)) :=
    .perform fixed trivial trivial (congrArg Call.bind alike.plain)
  refine binding.translating.bind fun reply reply' same => ?_
  cases same
  exact .ite (.throw _) (.pure rfl)

theorem openSession_agree (fixed : network.Fixed Call.IsSession state) (c : Connector)
    (purpose : Purpose) (account : Option String) (password : Option Password) :
    Agree network state p q (Session.Abreast p q) (c.openSession purpose account password)
      (c.openSession purpose account password) := by
  refine (c.ticket?_agree fixed _ _ _).bind fun ticket _ same => ?_
  cases same
  refine (c.terms_agree _ _ _).bind fun terms _ same => ?_
  cases same
  refine (c.connect_agree fixed terms).bind fun s s' alike => ?_
  have establish := (c.openSocket_agree fixed alike).bind_same fun _ =>
    c.bindAs_agree fixed purpose account alike
  refine establish.attempt_bind (fun _ _ _ => .pure alike) fun failure => ?_
  exact (Session.close_agree fixed alike).bind_same fun _ => .throw _

/-- A session that is closed as soon as it was opened. -/
theorem openSession_close_agree (fixed : network.Fixed Call.IsSession state) (c : Connector)
    (purpose : Purpose) (account : Option String) (password : Option Password) :
    Agree network state p q Eq (do (← c.openSession purpose account password).close)
      (do (← c.openSession purpose account password).close) :=
  (c.openSession_agree fixed purpose account password).bind fun _ _ sessions =>
    Session.close_agree fixed sessions

theorem test_agree (fixed : network.Fixed Call.IsSession state) (c : Connector) :
    Agree network state p q Eq c.test c.test := by
  have opening := c.openSession_close_agree (p := p) (q := q) fixed .service c.server.bindName
    (c.server.bindPassword.map .ofText)
  refine .ite (.throw _) (opening.attempt_bind (fun _ _ _ => Agree.log _ _ _ _) fun failure => ?_)
  cases failure with
  | connection error => exact (Agree.log _ _ _ _).bind_same fun _ => .throw _
  | _ => exact .throw _

end Connector

end DirectoryAuth
