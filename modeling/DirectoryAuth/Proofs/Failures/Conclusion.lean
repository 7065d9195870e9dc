import DirectoryAuth.Proofs.Network.Rehearsal
import DirectoryAuth.Proofs.SettingUp

/-!
# How setting up concludes

Setting up a realm calls on services that may end a call with a fault of any kind. Most faults are
met by the operation that made the call: they become one of the failures that the library foresees,
or are passed over. The others leak. A realm whose setting up met every fault is ready or failed;
one from which a fault leaked is left as it was while it was being set up.
-/

namespace DirectoryAuth

open Operation World

variable {σ α β : Type} {network : Network σ} {a b c : World σ}

/-! ## Faults that leak -/

/-- Is a fault of the call left as it is by whoever makes the call to set up a realm? -/
def Call.leaks (call : Call) (fault : Fault) : Bool :=
  match call, fault with
  | .openSocket _, fault | .startTls _, fault | .bind _, fault => !fault.isDirectory
  | .unbind _, fault => !(fault.isDirectory || fault.isSystem)
  | .lookUpService _, .nameService _ => false
  | .prepareTicket _, .ticket _ _ | .prepareTicket _, .missingPackage _ => false
  | .acquireTicket _ _, .ticket _ _ | .acquireTicket _ _, .missingPackage _ => false
  | _, _ => true

namespace World

def Tight (a b : World σ) : Prop :=
  ∀ call fault, Happened (.exchange call (.error fault)) a b → call.leaks fault = false

def Leaked (a b : World σ) (failure : Failure) : Prop :=
  ∃ call fault, call.leaks fault = true ∧ Happened (.exchange call (.error fault)) a b ∧
    failure = .outside fault

theorem Tight.of_history {events : List Event} (history : b.history = a.history ++ events)
    (tight : ∀ call fault, .exchange call (.error fault) ∈ events → call.leaks fault = false) :
    Tight a b := by
  rintro call fault ⟨others, same, member⟩
  have same : events = others := List.append_cancel_left (history.symm.trans same)
  exact tight call fault (same ▸ member)

theorem Tight.trans (first : Tight a b) (second : Tight b c) (grows : a.history <+: b.history)
    (further : b.history <+: c.history) : Tight a c := by
  intro call fault happened
  rcases happened.split grows further with early | late
  · exact first call fault early
  · exact second call fault late

theorem Leaked.since {failure : Failure} (leaked : Leaked b c failure)
    (grows : a.history <+: b.history) : Leaked a c failure := by
  obtain ⟨call, fault, leaks, happened, same⟩ := leaked
  exact ⟨call, fault, leaks, happened.since grows, same⟩

theorem Leaked.upTo {failure : Failure} (leaked : Leaked a b failure)
    (further : b.history <+: c.history) : Leaked a c failure := by
  obtain ⟨call, fault, leaks, happened, same⟩ := leaked
  exact ⟨call, fault, leaks, happened.upTo further, same⟩

/-- Where a fault leaked, not every fault was met. -/
theorem Leaked.not_tight {failure : Failure} (leaked : Leaked a b failure) : ¬ Tight a b := by
  obtain ⟨call, fault, leaks, happened, -⟩ := leaked
  intro tight
  rw [tight call fault happened] at leaks
  cases leaks

/-! Whether a fault leaked in a single call is seen from its answer. -/

theorem Tight.called {call : Call}
    (tight : ∀ fault, (network.answer call a.network).1 = .error fault →
      call.leaks fault = false) : Tight a (a.called network call) := by
  refine .of_history rfl fun other fault member => ?_
  obtain ⟨rfl, answered⟩ := Event.exchange.inj (List.mem_singleton.mp member)
  exact tight fault (eq_of_heq answered).symm

theorem Leaked.called {call : Call} {fault : Fault}
    (answered : (network.answer call a.network).1 = .error fault)
    (leaks : call.leaks fault = true) :
    Leaked a (a.called network call) (.outside fault) := by
  refine ⟨call, fault, leaks, ⟨_, rfl, ?_⟩, rfl⟩
  rw [answered]
  exact List.mem_singleton_self _

end World

/-- How an operation ends that began in one world and is through in another: every fault was met,
and a failure is one that the library foresees; or a fault leaked, and it is the failure. -/
inductive Concludes (a b : World σ) : Except Failure α → Prop
  | met {outcome : Except Failure α} (tight : Tight a b)
      (foreseen : ∀ failure, outcome = .error failure → failure.isForeseen = true) :
      Concludes a b outcome
  | leaked {failure : Failure} (leaked : Leaked a b failure) : Concludes a b (.error failure)

theorem Concludes.since {outcome : Except Failure α} (concludes : Concludes b c outcome)
    (tight : Tight a b) (grows : a.history <+: b.history) (further : b.history <+: c.history) :
    Concludes a c outcome := by
  cases concludes with
  | met rest foreseen => exact .met (tight.trans rest grows further) foreseen
  | leaked leaked => exact .leaked (leaked.since grows)

namespace Operation

/-- However it is run, the operation meets every fault or lets one leak. -/
structure Candid (network : Network σ) (x : Operation σ α) : Prop where
  grows : ∀ a, a.history <+: (x.run network a).2.history
  concludes : ∀ a, Concludes a (x.run network a).2 (x.run network a).1

/-- The operation ends with the fault, unless another one leaks from it. -/
structure Passes (network : Network σ) (fault : Fault) (x : Operation σ α) : Prop where
  grows : ∀ a, a.history <+: (x.run network a).2.history
  passes : ∀ a, (x.run network a).1 = .error (.outside fault) ∨
    ∃ failure, (x.run network a).1 = .error failure ∧ Leaked a (x.run network a).2 failure

namespace Passes

theorem throw (fault : Fault) :
    Passes network fault (MonadExcept.throw (.outside fault) : Operation σ α) :=
  ⟨fun _ => List.prefix_refl _, fun _ => .inl rfl⟩

/-- Where a fault leaked that is passed on, some fault leaked from the whole. -/
theorem concludes {fault : Fault} {x : Operation σ α} (hx : Passes network fault x)
    (leaked : Leaked a b (.outside fault)) (grows : a.history <+: b.history) :
    Concludes a (x.run network b).2 (x.run network b).1 := by
  rcases hx.passes b with same | ⟨failure, same, later⟩
  · rw [same]
    exact .leaked (leaked.upTo (hx.grows b))
  · rw [same]
    exact .leaked (later.since grows)

end Passes

namespace Candid

variable {x : Operation σ α}

theorem of_run (hx : Candid network x) {outcome : Except Failure α}
    (ran : x.run network a = (outcome, b)) :
    a.history <+: b.history ∧ Concludes a b outcome := by
  have grows := hx.grows a
  have concludes := hx.concludes a
  rw [ran] at grows concludes
  exact ⟨grows, concludes⟩

theorem of_quiet (quiet : ∀ a, (x.run network a).2.history = a.history)
    (foreseen : ∀ a failure, (x.run network a).1 = .error failure → failure.isForeseen = true) :
    Candid network x := by
  have history (a : World σ) : (x.run network a).2.history = a.history ++ [] := by
    rw [quiet, List.append_nil]
  refine ⟨fun a => ⟨[], (history a).symm⟩, fun a => .met ?_ (foreseen a)⟩
  exact .of_history (history a) fun _ _ member => nomatch member

theorem pure (value : α) : Candid network (Pure.pure value : Operation σ α) :=
  of_quiet (fun _ => rfl) fun _ _ failed => nomatch failed

theorem throw {failure : Failure} (foreseen : failure.isForeseen = true) :
    Candid network (MonadExcept.throw failure : Operation σ α) := by
  refine of_quiet (fun _ => rfl) fun _ other failed => ?_
  cases failed
  exact foreseen

theorem ofOutcome {outcome : Except Failure α}
    (foreseen : ∀ failure, outcome = .error failure → failure.isForeseen = true) :
    Candid network (Operation.ofOutcome outcome) :=
  of_quiet (fun _ => rfl) fun _ => foreseen

theorem log (level : Level) (component : Component) (message : String) :
    Candid network (Operation.log level component message) := by
  refine ⟨fun _ => List.prefix_append _ _, fun a => .met (.of_history rfl ?_) ?_⟩
  · intro call fault member
    cases List.mem_singleton.mp member
  · intro failure failed
    cases failed

theorem ite {condition : Prop} [Decidable condition] {x y : Operation σ α}
    (hx : Candid network x) (hy : Candid network y) :
    Candid network (if condition then x else y) := by
  split
  · exact hx
  · exact hy

/-- What is attempted is gone on with, unless a fault leaked, which is passed on. -/
theorem attempt_bind {f : Except Failure α → Operation σ β} (hx : Candid network x)
    (ok : ∀ value, Candid network (f (.ok value)))
    (foreseen : ∀ failure, failure.isForeseen = true → Candid network (f (.error failure)))
    (leaked : ∀ fault, Passes network fault (f (.error (.outside fault)))) :
    Candid network (x.attempt >>= f) := by
  have parts (a : World σ) :
      a.history <+: ((x.attempt >>= f).run network a).2.history ∧
        Concludes a ((x.attempt >>= f).run network a).2 ((x.attempt >>= f).run network a).1 := by
    rw [run_attempt_bind]
    rcases ran : x.run network a with ⟨outcome, b⟩
    obtain ⟨grows, concludes⟩ := hx.of_run ran
    cases concludes with
    | met tight known =>
      have rest : Candid network (f outcome) := by
        cases outcome with
        | ok value => exact ok value
        | error failure => exact foreseen failure (known failure rfl)
      have further := rest.grows b
      exact ⟨grows.trans further, (rest.concludes b).since tight grows further⟩
    | leaked leak =>
      obtain ⟨-, fault, -, -, rfl⟩ := id leak
      have passes := leaked fault
      exact ⟨grows.trans (passes.grows b), passes.concludes leak grows⟩
  exact ⟨fun a => (parts a).1, fun a => (parts a).2⟩

theorem bind {f : α → Operation σ β} (hx : Candid network x)
    (hf : ∀ value, Candid network (f value)) : Candid network (x >>= f) := by
  have attempted : Candid network
      (x.attempt >>= fun outcome => Operation.ofOutcome outcome >>= f) :=
    hx.attempt_bind hf (fun _ known => throw known) fun fault => .throw fault
  obtain ⟨grows, concludes⟩ := attempted
  refine ⟨fun a => ?_, fun a => ?_⟩
  · rw [← run_attempt_ofOutcome]
    exact grows a
  · rw [← run_attempt_ofOutcome]
    exact concludes a

theorem mapM {f : α → Operation σ β} {items : List α} (hf : ∀ a, Candid network (f a)) :
    Candid network (items.mapM f) := by
  induction items with
  | nil => exact pure _
  | cons a rest ih =>
    rw [List.mapM_cons]
    exact bind (hf a) fun _ => bind ih fun _ => pure _

theorem forM {f : α → Operation σ PUnit} {items : List α} (hf : ∀ a, Candid network (f a)) :
    Candid network (items.forM f) := by
  induction items with
  | nil => exact pure _
  | cons a rest ih => exact bind (hf a) fun _ => ih

/-! ### Calls -/

/-- A call that is attempted: a fault that does not leak is met, any other is passed on. -/
theorem perform_bind {call : Call} {f : Except Failure call.Reply → Operation σ β}
    (ok : ∀ reply, Candid network (f (.ok reply)))
    (met : ∀ fault, call.leaks fault = false → Candid network (f (.error (.outside fault))))
    (leaked : ∀ fault, call.leaks fault = true →
      Passes network fault (f (.error (.outside fault)))) :
    Candid network ((perform call).attempt >>= f) := by
  have parts (a : World σ) :
      a.history <+: (((perform call).attempt >>= f).run network a).2.history ∧
        Concludes a (((perform call).attempt >>= f).run network a).2
          (((perform call).attempt >>= f).run network a).1 := by
    have first : a.history <+: (a.called network call).history := List.prefix_append _ _
    rw [run_attempt_bind, run_perform]
    cases answered : (network.answer call a.network).1 with
    | ok reply =>
      have tight : Tight a (a.called network call) := .called fun fault failed =>
        nomatch answered.symm.trans failed
      have further := (ok reply).grows (a.called network call)
      exact ⟨first.trans further, ((ok reply).concludes _).since tight first further⟩
    | error fault =>
      cases leaks : call.leaks fault with
      | false =>
        have tight : Tight a (a.called network call) := .called fun other failed => by
          cases answered.symm.trans failed
          exact leaks
        have further := (met fault leaks).grows (a.called network call)
        exact ⟨first.trans further, ((met fault leaks).concludes _).since tight first further⟩
      | true =>
        have passes := leaked fault leaks
        have concludes := passes.concludes (.called answered leaks) first
        exact ⟨first.trans (passes.grows _), concludes⟩
  exact ⟨fun a => (parts a).1, fun a => (parts a).2⟩

/-- A call that is not attempted: all of its faults leak. -/
theorem perform {call : Call} (leaks : ∀ fault, call.leaks fault = true) :
    Candid network (Operation.perform call) := by
  have attempted : Candid network ((Operation.perform call).attempt >>= fun outcome =>
      Operation.ofOutcome outcome >>= Pure.pure) := by
    refine perform_bind (fun reply => pure reply) (fun fault met => ?_) fun fault _ => .throw fault
    rw [leaks fault] at met
    cases met
  obtain ⟨grows, concludes⟩ := attempted
  have same (a : World σ) : (Operation.perform call).run network a =
      ((Operation.perform call).attempt >>= fun outcome =>
        Operation.ofOutcome outcome >>= Pure.pure).run network a := by
    rw [run_attempt_ofOutcome, bind_pure]
  refine ⟨fun a => ?_, fun a => ?_⟩
  · rw [same]
    exact grows a
  · rw [same]
    exact concludes a

/-- A call to the directory client, whose own faults are translated. -/
theorem perform_translating {call : Call} {translate : Fault → Failure}
    (leaks : ∀ fault, call.leaks fault = !fault.isDirectory)
    (foreseen : ∀ fault, (translate fault).isForeseen = true) :
    Candid network ((Operation.perform call).translating translate) := by
  refine perform_bind (fun reply => pure reply) (fun fault met => ?_) fun fault leaked => ?_
  · have directory : fault.isDirectory = true := by simpa [leaks] using met
    dsimp only
    rw [if_pos directory]
    exact throw (foreseen fault)
  · have other : fault.isDirectory = false := by simpa [leaks] using leaked
    dsimp only
    rw [other]
    exact .throw fault

end Candid

end Operation

/-! ## Sessions -/

/-- If closing a session fails, it is with a fault. -/
theorem Session.close_fails {s : Session} {failure : Failure}
    (ran : s.close.run network a = (.error failure, b)) : ∃ fault, failure = .outside fault := by
  rcases run_bind_cases ran with ⟨_, asked, -⟩ | ⟨closed, next, asked, ran⟩
  · cases asked
  cases asked
  split at ran
  · cases ran
  · change s.release.run network _ = _ at ran
    rw [release, run_attempt_bind, run_perform] at ran
    cases answered : (network.answer (.unbind s.connection) a.network).1 with
    | ok reply =>
      rw [answered] at ran
      cases ran
    | error fault =>
      rw [answered] at ran
      change (if _ then _ else _ : Operation σ Unit).run network _ = _ at ran
      split at ran
      · cases ran
      · cases ran
        exact ⟨fault, rfl⟩

theorem Session.close_candid (s : Session) : Candid network s.close := by
  have asked : Candid network s.isClosed :=
    .of_quiet (fun _ => rfl) fun _ _ failed => nomatch failed
  have marked : Candid network s.markClosed :=
    .of_quiet (fun _ => rfl) fun _ _ failed => nomatch failed
  refine .bind asked fun closed => .ite (.pure ()) (.bind marked fun _ => ?_)
  refine .perform_bind (fun _ => .pure ()) (fun fault met => ?_) fun fault leaked => ?_
  · have known : (fault.isDirectory || fault.isSystem) = true := by
      simpa only [Call.leaks, Bool.not_eq_false'] using met
    dsimp only
    rw [if_pos known]
    exact .log _ _ _
  · have unknown : (fault.isDirectory || fault.isSystem) = false := by
      simpa only [Call.leaks, Bool.not_eq_true'] using leaked
    dsimp only
    rw [unknown]
    exact .throw fault

/-- A fault is passed on over the closing of a session, unless closing it lets another one leak. -/
theorem Session.close_passes {s : Session} (fault : Fault) :
    Passes network fault (do s.close; throw (.outside fault) : Operation σ α) := by
  constructor
  · intro a
    have closing : a.history <+: (s.close.run network a).2.history := s.close_candid.grows a
    exact closing.trans (run_bind_grows fun _ _ => List.prefix_refl _)
  · intro a
    rcases ran : s.close.run network a with ⟨outcome, b⟩
    obtain ⟨-, concludes⟩ := s.close_candid.of_run ran
    cases outcome with
    | ok _ =>
      rw [run_bind_of_ok ran]
      exact .inl rfl
    | error failure =>
      rw [run_bind_of_error ran]
      refine .inr ⟨failure, rfl, ?_⟩
      cases concludes with
      | leaked leaked => exact leaked
      | met tight foreseen =>
        have known := foreseen failure rfl
        obtain ⟨other, rfl⟩ := s.close_fails ran
        cases known

namespace Connector

/-- The faults that the ticket service is known to have are met. -/
theorem askTickets_candid (principal : String) {call : Call}
    (leaks : ∀ fault, call.leaks fault = false ↔
      (∃ message code, fault = .ticket message code) ∨ ∃ name, fault = .missingPackage name) :
    Candid network (askTickets principal call) := by
  refine .perform_bind (fun _ => .pure _) (fun fault met => ?_) fun fault leaked => ?_
  · rcases (leaks fault).mp met with ⟨message, code, rfl⟩ | ⟨name, rfl⟩
    · refine .throw ?_
      rw [ticketFailure]
      split
      · rfl
      · rfl
    · exact .throw rfl
  · have unmet (met : call.leaks fault = false) : False := by simp [leaked] at met
    cases fault with
    | ticket message code => exact (unmet ((leaks _).mpr (.inl ⟨message, code, rfl⟩))).elim
    | missingPackage name => exact (unmet ((leaks _).mpr (.inr ⟨name, rfl⟩))).elim
    | _ => exact .throw _

/-- A password that is a text can be sent. -/
theorem acquireTicket_candid (principal : String) (password : Option String) :
    Candid network (acquireTicket principal (password.map .ofText)) := by
  rw [acquireTicket]
  cases given : (password.map Password.ofText).filter (· ≠ .blank) with
  | none => exact .throw rfl
  | some sent =>
    obtain ⟨text, -, rfl⟩ := Option.map_eq_some_iff.mp (Option.filter_eq_some_iff.mp given).1
    dsimp only
    rw [sentText_ofText]
    refine .bind (askTickets_candid principal ?_) fun _ => .bind (.pure _) fun _ =>
      askTickets_candid principal ?_
    · intro fault
      cases fault <;> simp [Call.leaks]
    · intro fault
      cases fault <;> simp [Call.leaks]

theorem ticketFor_candid (c : Connector) (purpose : Purpose) (account : String)
    (password : Option String) :
    Candid network (c.ticketFor purpose account (password.map .ofText)) := by
  refine .attempt_bind (acquireTicket_candid _ _) ?_ ?_ ?_
  · intro ticket
    cases purpose with
    | service => exact .pure ticket
    | user => exact .pure ticket
  · intro failure foreseen
    cases purpose with
    | user => exact .throw foreseen
    | service =>
      cases failure with
      | credentials cause => exact .throw rfl
      | _ => exact .throw foreseen
  · intro fault
    cases purpose with
    | user => exact .throw fault
    | service => exact .throw fault

theorem ticket?_candid (c : Connector) (purpose : Purpose) (account : Option String)
    (password : Option String) :
    Candid network (c.ticket? purpose account (password.map .ofText)) := by
  unfold ticket?
  refine .ite ?_ (.pure _)
  match account.filter (· ≠ ""), purpose with
  | some account, purpose => exact .bind (c.ticketFor_candid _ _ _) fun _ => .pure _
  | none, .user => exact .throw rfl
  | none, .service => exact .pure _

theorem connect_candid (c : Connector) (terms : Terms) : Candid network (c.connect terms) := by
  have numbered : Candid network (nextNumber : Operation σ Nat) :=
    .of_quiet (fun _ => rfl) fun _ _ failed => nomatch failed
  exact .bind numbered fun _ => .bind (.perform fun _ => rfl) fun _ => .pure _

theorem openSocket_candid (c : Connector) (s : Session) : Candid network (c.openSocket s) := by
  refine .bind (.perform_translating (fun _ => rfl) fun _ => rfl) fun _ => .ite ?_ (.pure _)
  refine .bind (.perform_translating (fun _ => rfl) fun _ => rfl) fun _ => ?_
  exact .ite (.throw rfl) (.pure _)

theorem bindAs_candid (c : Connector) (purpose : Purpose) (account : Option String)
    (s : Session) : Candid network (c.bindAs purpose account s) := by
  refine .bind (.perform_translating (fun _ => rfl) fun _ => rfl) fun _ => .ite ?_ (.pure _)
  cases purpose with
  | service => exact .throw rfl
  | user => exact .throw rfl

theorem openSession_candid (c : Connector) (purpose : Purpose) (account : Option String)
    (password : Option String) :
    Candid network (c.openSession purpose account (password.map .ofText)) := by
  refine .bind (c.ticket?_candid _ _ _) fun ticket => ?_
  refine .bind (.bind (.log _ _ _) fun _ => .pure _) fun terms => ?_
  refine .bind (c.connect_candid terms) fun s => ?_
  refine .attempt_bind (.bind (c.openSocket_candid s) fun _ => c.bindAs_candid _ _ _)
    (fun _ => .pure s) (fun failure foreseen => ?_) fun fault => s.close_passes fault
  exact .bind s.close_candid fun _ => .throw foreseen

theorem test_candid (c : Connector) : Candid network c.test := by
  refine .ite (.throw rfl) ?_
  refine .attempt_bind (.bind (c.openSession_candid _ _ _) Session.close_candid)
    (fun _ => .log _ _ _) (fun failure foreseen => ?_) fun fault => .throw fault
  cases failure with
  | connection error => exact .bind (.log _ _ _) fun _ => .throw rfl
  | _ => exact .throw foreseen

theorem ofServer_candid (server : Server) : Candid network (ofServer server) := by
  rw [ofServer]
  cases mechanismError? server with
  | some error => exact .throw rfl
  | none =>
    refine .bind (.bind (.forM fun url => .perform fun _ => rfl) fun _ => ?_) fun _ => .pure _
    exact .ite (.perform fun _ => rfl) (.pure _)

end Connector

/-! ## Settings -/

namespace Server

theorem reading_candid {outcome : Except SettingError α} :
    Candid network (reading outcome : Operation σ α) := by
  refine .ofOutcome fun failure failed => ?_
  cases outcome with
  | ok value => cases failed
  | error error =>
    cases failed
    rfl

theorem advise_candid (component : Component) (advice : Option String) :
    Candid network (advise component advice) := by
  cases advice with
  | some text => exact .log _ _ _
  | none => exact .pure _

theorem discover_candid (realm : String) : Candid network (Discovery.discover realm) := by
  refine .perform_bind (fun records => ?_) (fun fault met => ?_) fun fault leaked => ?_
  · exact .bind (.log _ _ _) fun _ => .pure _
  · cases fault with
    | nameService message => exact .bind (.log _ _ _) fun _ => .pure _
    | _ => cases met
  · cases fault with
    | nameService message => cases leaked
    | _ => exact .throw _

theorem findUrls_candid (v : View) : Candid network (findUrls v) := by
  rw [findUrls]
  cases v.text? "url" with
  | some text => exact .pure _
  | none =>
    rw [discoverUrls]
    dsimp only
    cases v.text? "realm" with
    | none => exact .throw rfl
    | some realm =>
      refine .bind (discover_candid realm) fun urls => ?_
      exact .ite (.throw rfl) (.bind (.log _ _ _) fun _ => .pure _)

theorem assemble_candid (settings : Settings) (key : String) :
    Candid network (assemble settings key) := by
  refine .bind (findUrls_candid _) fun urls => .bind ?_ fun users => .bind ?_ fun groups => ?_
  · exact .bind reading_candid fun _ => .bind (advise_candid _ _) fun _ => .pure _
  · exact .bind (advise_candid _ _) fun _ => reading_candid
  · exact .bind reading_candid fun _ => .bind (.log _ _ _) fun _ => .pure _

end Server

theorem Roster.servers_candid (r : Roster) : Candid network r.servers := by
  rw [servers]
  cases r.assembled with
  | some servers => exact .pure _
  | none => exact .bind Server.reading_candid fun _ => .mapM fun _ => Server.assemble_candid _ _

/-! ## Setting up -/

namespace Realm

theorem testAll_candid (servers : List Server) : Candid network (testAll servers) := by
  refine .bind (.mapM Connector.ofServer_candid) fun connectors => ?_
  exact .bind (.forM Connector.test_candid) fun _ => .pure _

inductive Ended (a b : World σ) : RealmState → Except Failure Unit → Prop
  | ready (tight : Tight a b) : Ended a b .ready (.ok ())
  | failed {failure : Failure} (tight : Tight a b) (foreseen : failure.isForeseen = true) :
      Ended a b .failed (.error failure)
  | unfinished {failure : Failure} (leaked : Leaked a b failure) :
      Ended a b .initializing (.error failure)

theorem tight_noted (record : LogRecord) : Tight b (b.noted (.logged record)) := by
  refine .of_history rfl fun call fault member => ?_
  cases List.mem_singleton.mp member

theorem afterFailure_ended {r r' : Realm} (begun : r.state = .initializing) {failure : Failure}
    (grows : a.history <+: b.history)
    (concludes : Concludes a b (.error failure : Except Failure α))
    (ending : (r.afterFailure failure).run network b = (.ok r', c)) :
    Ended a c r'.state (.error failure) := by
  rw [afterFailure] at ending
  cases concludes with
  | met tight foreseen =>
    rw [if_pos (foreseen failure rfl)] at ending
    cases ending
    refine .failed ?_ (foreseen failure rfl)
    exact tight.trans (tight_noted _) grows (List.prefix_append _ _)
  | leaked leaked =>
    obtain ⟨call, fault, leaks, happened, rfl⟩ := leaked
    cases ending
    rw [begun]
    exact .unfinished ⟨call, fault, leaks, happened, rfl⟩

/-- Each way to go ends as what went wrong on it has it. -/
theorem SettingUp.ended {r r' : Realm} {outcome : Except Failure Unit}
    (way : SettingUp network r a r' outcome b) : Ended a b r'.state outcome := by
  have candid : Candid network r.roster.servers := r.roster.servers_candid
  cases way with
  | unassembled assembling ending =>
    obtain ⟨grows, concludes⟩ := candid.of_run assembling
    exact afterFailure_ended rfl grows concludes ending
  | @untested servers failure _ next _ _ assembling testing ending =>
    obtain ⟨grows, assembled⟩ := candid.of_run assembling
    obtain ⟨further, concludes⟩ := (testAll_candid servers).of_run testing
    cases assembled with
    | met tight _ =>
      have whole := concludes.since tight grows further
      exact afterFailure_ended rfl (grows.trans further) whole ending
  | @tested servers connectors _ next last _ assembling testing ending =>
    obtain ⟨grows, assembled⟩ := candid.of_run assembling
    obtain ⟨further, concludes⟩ := (testAll_candid servers).of_run testing
    cases assembled with
    | met tight _ =>
      cases concludes.since tight grows further with
      | met tight _ =>
        cases ending
        refine .ready ?_
        exact tight.trans (tight_noted _) (grows.trans further) (List.prefix_append _ _)

/-- Setting up a realm always comes to an end, with a realm that is ready, failed, or unfinished. It
is ready if and only if nothing went wrong, and failed if what went wrong is a failure that the
library foresees. It is unfinished if and only if some call ended with a fault that leaked; then
such a fault is what went wrong. -/
theorem setUp_concludes (network : Network σ) (r : Realm) (world : World σ) :
    ∃ r' outcome after, r.setUp.run network world = (.ok (r', outcome), after) ∧
      (r'.state = .ready ↔ outcome = .ok ()) ∧
      (r'.state = .failed ↔ ∃ failure, outcome = .error failure ∧ failure.isForeseen = true) ∧
      (r'.state = .initializing ↔ ∃ failure, outcome = .error failure ∧
        Leaked world after failure) ∧
      (r'.state = .initializing ↔ ¬ Tight world after) ∧ r'.state ≠ .uninitialized := by
  obtain ⟨r', outcome, after, ran, way⟩ := setUp_settingUp network r world
  have ended : Ended world after r'.state outcome := way.ended
  refine ⟨r', outcome, after, ran, ?_⟩
  generalize r'.state = state at ended
  cases ended with
  | ready tight => simp [tight]
  | @failed failure tight foreseen =>
    have unleaked : ¬ Leaked world after failure := fun leaked => leaked.not_tight tight
    simp [tight, foreseen, unleaked]
  | @unfinished failure leaked =>
    have leak := leaked
    obtain ⟨call, fault, leaks, happened, rfl⟩ := leak
    simp [leaked, leaked.not_tight, Failure.isForeseen]

open Rehearsal in
/-- The fault of declaring a server leaks: the realm is left neither ready nor failed. -/
theorem setUp_unfinished :
    let realm := ofSettings ⟨[("ldap.url", .text "ldap://h"), ("ldap.user.baseDn", .text "dc=x")]⟩
    let start := World.start (script { Script.Directory.empty with
      construction := some (.directory "port must be an integer") })
    (realm.setUp.run Script.network start).1.toOption.map
      (fun (realm, outcome) => (realm.state, outcome.toOption)) = some (.initializing, none) := by
  decide +kernel

end Realm

end DirectoryAuth
