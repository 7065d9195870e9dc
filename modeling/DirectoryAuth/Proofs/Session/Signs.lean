import DirectoryAuth.Proofs.Failures.Tasks
import DirectoryAuth.Proofs.Session.Course
import DirectoryAuth.Proofs.Session.Tickets

/-!
# Signs of how a session is opened

While a session is opened, an answer may be a sign that it cannot be had, and the last one is the
sign that it can. There is one sign at most, since opening stops at the first; it decides whether
there is a session, and if not, with which failure. Without any sign, there is no session only for
somebody who has no name to get a ticket with, or no password, or one that is no text.
-/

namespace DirectoryAuth

open Operation World

variable {σ α β : Type} {network : Network σ} {a b d : World σ}

/-! ## Signs -/

inductive Sign where
  | noIssuer | ticketRefused | notOpened | notUpgraded | notBound | bindRefused | bindAccepted
  deriving DecidableEq, Repr

/-- What a refusal of the ticket service is a sign of, by its code. -/
def Sign.ofRefusal (code : Option Int) : Sign :=
  if code.any (Connector.sameCode · Connector.issuerUnreachable) then .noIssuer else .ticketRefused

def Event.sign? : Event → Option Sign
  | .exchange (.prepareTicket _) (.error (.ticket _ code))
  | .exchange (.acquireTicket _ _) (.error (.ticket _ code)) => some (.ofRefusal code)
  | .exchange (.openSocket _) (.error _) => some .notOpened
  | .exchange (.startTls _) (.error _) => some .notUpgraded
  | .exchange (.startTls _) (.ok reply) => if reply.started then none else some .notUpgraded
  | .exchange (.bind _) (.error _) => some .notBound
  | .exchange (.bind _) (.ok reply) =>
    some (if reply.accepted then .bindAccepted else .bindRefused)
  | _ => none

namespace World

def Met (sign : Sign) (a b : World σ) : Prop :=
  ∃ event, Happened event a b ∧ event.sign? = some sign

/-- Between two worlds there was the sign that is given and no other, or no sign at all. -/
structure Shows (shown : Option Sign) (a b : World σ) : Prop where
  grows : a.history <+: b.history
  met_iff : ∀ sign, Met sign a b ↔ shown = some sign

namespace Shows

variable {shown : Option Sign}

theorem of_history (event : Event) (history : b.history = a.history ++ [event]) :
    Shows event.sign? a b := by
  refine ⟨⟨_, history.symm⟩, fun sign => ⟨?_, fun is => ⟨event, ?_, is⟩⟩⟩
  · rintro ⟨other, ⟨events, same, member⟩, is⟩
    have same : events = [event] := List.append_cancel_left (same.symm.trans history)
    rw [same] at member
    rw [List.mem_singleton.mp member] at is
    exact is
  · exact ⟨_, history, List.mem_singleton_self _⟩

theorem of_steps {allowed : Call → Prop} (steps : Steps network allowed a b)
    (silent : ∀ call, allowed call → ∀ answer, (Event.exchange call answer).sign? = none) :
    Shows none a b := by
  refine ⟨steps.history_grows, fun sign => ⟨?_, nofun⟩⟩
  rintro ⟨event, happened, is⟩
  cases event with
  | exchange call answer =>
    rw [silent call (steps.allowed_of_happened happened)] at is
    cases is
  | _ => cases is

theorem unique {other : Option Sign} (first : Shows shown a b) (second : Shows other a b) :
    shown = other := by
  cases shown with
  | some sign => exact (second.met_iff sign).mp ((first.met_iff sign).mpr rfl) ▸ rfl
  | none =>
    cases other with
    | some sign => exact (first.met_iff sign).mp ((second.met_iff sign).mpr rfl)
    | none => rfl

theorem refl (a : World σ) : Shows none a a := by
  refine ⟨List.prefix_refl _, fun sign => ⟨?_, nofun⟩⟩
  rintro ⟨event, ⟨events, same, member⟩, -⟩
  rw [List.self_eq_append_right.mp same] at member
  cases member

theorem none_then (first : Shows none a b) (second : Shows shown b d) : Shows shown a d := by
  refine ⟨first.grows.trans second.grows, fun sign => ?_⟩
  rw [← second.met_iff]
  constructor
  · rintro ⟨event, happened, is⟩
    rcases happened.split first.grows second.grows with early | late
    · cases (first.met_iff sign).mp ⟨event, early, is⟩
    · exact ⟨event, late, is⟩
  · rintro ⟨event, happened, is⟩
    exact ⟨event, happened.since first.grows, is⟩

theorem then_none (first : Shows shown a b) (second : Shows none b d) : Shows shown a d := by
  refine ⟨first.grows.trans second.grows, fun sign => ?_⟩
  rw [← first.met_iff]
  constructor
  · rintro ⟨event, happened, is⟩
    rcases happened.split first.grows second.grows with early | late
    · exact ⟨event, early, is⟩
    · cases (second.met_iff sign).mp ⟨event, late, is⟩
  · rintro ⟨event, happened, is⟩
    exact ⟨event, happened.upTo second.grows, is⟩

end Shows

end World

/-! ## Operations that heed signs -/

namespace Operation

/-- How an operation ends is told by a sign: it gives a value after the `good` sign, or after none
where none is good, and its failures `blame` the sign that there was. A fault that nothing
translates may escape. -/
structure Heeds (network : Network σ) (good : Option Sign)
    (blames : Failure → Option Sign → Prop) (x : Operation σ α) : Prop where
  ok : ∀ a value b, x.run network a = (.ok value, b) → Shows good a b
  error : ∀ a failure b, x.run network a = (.error failure, b) → AsTold a b →
    Escaped a b failure ∨ ∃ shown, Shows shown a b ∧ blames failure shown

namespace Heeds

variable {good : Option Sign} {blames wider : Failure → Option Sign → Prop} {x : Operation σ α}

theorem pure (value : α) : Heeds network none blames (Pure.pure value : Operation σ α) := by
  refine ⟨fun a other b ran => ?_, fun a failure b ran => nomatch ran⟩
  cases ran
  exact .refl a

theorem throw {failure : Failure} (blamed : blames failure none) :
    Heeds network good blames (MonadExcept.throw failure : Operation σ α) := by
  refine ⟨fun a value b ran => (nomatch ran), fun a other b ran _ => ?_⟩
  cases ran
  exact .inr ⟨none, .refl a, blamed⟩

theorem ite {condition : Prop} [Decidable condition] {x y : Operation σ α}
    (hx : Heeds network good blames x) (hy : Heeds network good blames y) :
    Heeds network good blames (if condition then x else y) := by
  split
  · exact hx
  · exact hy

theorem log (level : Level) (component : Component) (message : String) :
    Heeds network none blames (Operation.log level component message) := by
  refine ⟨fun a value b ran => ?_, fun a failure b ran => nomatch ran⟩
  cases ran
  exact .of_history (.logged ⟨level, component, message⟩) rfl

theorem bind {f : α → Operation σ β} (hx : Heeds network none blames x)
    (hf : ∀ value, Heeds network good blames (f value)) :
    Heeds network good blames (x >>= f) := by
  constructor
  · intro a value b ran
    obtain ⟨first, next, here, ran⟩ := run_bind_eq_ok ran
    exact (hx.ok _ _ _ here).none_then ((hf first).ok _ _ _ ran)
  · intro a failure b ran told
    rcases run_bind_cases ran with ⟨other, failed, same⟩ | ⟨value, next, here, ran⟩
    · cases same
      exact hx.error _ _ _ failed told
    · have first := hx.ok _ _ _ here
      have later := (hf value).error _ _ _ ran (told.rest first.grows)
      rcases later with escaped | ⟨shown, shows, blamed⟩
      · exact .inl (escaped.since first.grows)
      · exact .inr ⟨shown, first.none_then shows, blamed⟩

/-- Failures may be told in other words, but for faults. -/
theorem relabel {f : Except Failure α → Operation σ α} {change : Failure → Failure}
    (hx : Heeds network good blames x) (ok : ∀ value, f (.ok value) = Pure.pure value)
    (error : ∀ failure, f (.error failure) = MonadExcept.throw (change failure))
    (outside : ∀ fault, change (.outside fault) = .outside fault)
    (changed : ∀ failure shown, blames failure shown → wider (change failure) shown) :
    Heeds network good wider (x.attempt >>= f) := by
  constructor
  · intro a value b ran
    rw [run_attempt_bind] at ran
    rcases ended : x.run network a with ⟨outcome, next⟩
    rw [ended] at ran
    cases outcome with
    | ok given =>
      rw [ok] at ran
      cases ran
      exact hx.ok _ _ _ ended
    | error failure =>
      rw [error] at ran
      cases ran
  · intro a failure b ran told
    rw [run_attempt_bind] at ran
    rcases ended : x.run network a with ⟨outcome, next⟩
    rw [ended] at ran
    cases outcome with
    | ok given =>
      rw [ok] at ran
      cases ran
    | error other =>
      rw [error] at ran
      cases ran
      rcases hx.error _ _ _ ended told with escaped | ⟨shown, shows, blamed⟩
      · obtain ⟨call, fault, untranslated, happened, rfl⟩ := escaped
        exact .inl ⟨call, fault, untranslated, happened, outside fault⟩
      · exact .inr ⟨shown, shows, changed _ _ blamed⟩

/-- An operation whose outcome is made of the answer to one call. -/
theorem single (call : Call) (result : Except Fault call.Reply → Except Failure α)
    (ran : ∀ world, x.run network world =
      (result (network.answer call world.network).1, world.called network call))
    (ok : ∀ answer value, result answer = .ok value →
      (Event.exchange call answer).sign? = good)
    (error : ∀ answer failure, (Event.exchange call answer).isTold = true →
      result answer = .error failure → blames failure (Event.exchange call answer).sign?) :
    Heeds network good blames x := by
  have shows (world : World σ) :
      Shows (Event.exchange call (network.answer call world.network).1).sign? world
        (world.called network call) :=
    .of_history _ rfl
  constructor
  · intro a value b ended
    obtain ⟨given, rfl⟩ := Prod.mk.inj ((ran a).symm.trans ended)
    rw [← ok _ _ given]
    exact shows a
  · intro a failure b ended told
    obtain ⟨given, rfl⟩ := Prod.mk.inj ((ran a).symm.trans ended)
    refine .inr ⟨_, shows a, error _ _ ?_ given⟩
    exact told _ ⟨_, rfl, List.mem_singleton_self _⟩

/-- A call to the directory client, whose reply is judged. -/
theorem judged {call : Call} (client : call.connection?.isSome = true)
    {translate : Fault → Failure} {f : call.Reply → Operation σ α}
    (verdict : call.Reply → Except Failure α) (same : ∀ reply, f reply = ofOutcome (verdict reply))
    (ok : ∀ reply value, verdict reply = .ok value →
      (Event.exchange call (.ok reply)).sign? = good)
    (refused : ∀ reply failure, verdict reply = .error failure →
      blames failure (Event.exchange call (.ok reply)).sign?)
    (failed : ∀ fault, blames (translate fault) (Event.exchange call (.error fault)).sign?) :
    Heeds network good blames ((Operation.perform call).translating translate >>= f) := by
  let result : Except Fault call.Reply → Except Failure α
    | .ok reply => verdict reply
    | .error fault => .error (if fault.isDirectory then translate fault else .outside fault)
  have ran (world : World σ) :
      ((Operation.perform call).translating translate >>= f).run network world =
        (result (network.answer call world.network).1, world.called network call) := by
    rw [run_bind, run_translating, run_perform]
    cases network.answer call world.network with
    | mk answer state =>
      cases answer with
      | ok reply => exact congrArg (fun x => x.run network (world.called network call)) (same reply)
      | error fault => rfl
  refine single call result ran ?_ ?_
  · intro answer value given
    cases answer with
    | ok reply => exact ok reply value given
    | error fault => cases given
  · intro answer failure told given
    cases answer with
    | ok reply => exact refused reply failure given
    | error fault =>
      have directory : fault.isDirectory = true :=
        (Call.mayReport_of_client client fault).symm.trans told
      simp only [result, directory, if_true] at given
      cases given
      exact failed fault

end Heeds

end Operation

/-! ## Opening a session -/

/-- Nothing is a sign in closing a session. -/
theorem Session.close_shows {s : Session} {outcome : Except Failure Unit}
    (ran : s.close.run network a = (outcome, b)) : Shows none a b := by
  refine .of_steps (s.close_unbinds.steps ran) fun call unbinding answer => ?_
  cases call with
  | unbind connection => cases answer <;> rfl
  | _ => exact unbinding.elim

def IsBlank (text : Option String) : Prop := text.filter (· ≠ "") = none

def Password.IsMissing (password : Option Password) : Prop := password.filter (· ≠ .blank) = none

theorem Password.isMissing_map {text : Option String} :
    IsMissing (text.map ofText) ↔ IsBlank text := by
  cases text with
  | none => exact iff_of_true rfl rfl
  | some text => simp [IsMissing, IsBlank, ofText_eq_blank]

namespace Connector

/-- What a failure to open a session is put down to: a sign, or that a ticket cannot be asked
for. -/
inductive Blames (c : Connector) (account : Option String) (password : Option Password) :
    Purpose → Failure → Option Sign → Prop
  | upgrade {purpose : Purpose} {error : ConnectionError} (tls : error.isTls = true) :
      Blames c account password purpose (.connection error) (some .notUpgraded)
  | unreached {purpose : Purpose} {error : ConnectionError} {sign : Sign}
      (plain : error.isTls = false)
      (cause : sign = .noIssuer ∨ sign = .notOpened ∨ sign = .notBound) :
      Blames c account password purpose (.connection error) (some sign)
  | rejected {error : ConnectionError} {sign : Sign} (plain : error.isTls = false)
      (cause : sign = .ticketRefused ∨ sign = .bindRefused) :
      Blames c account password .service (.connection error) (some sign)
  | denied {error : CredentialError} {sign : Sign}
      (cause : sign = .ticketRefused ∨ sign = .bindRefused) :
      Blames c account password .user (.credentials error) (some sign)
  | unequipped {error : ConnectionError} (plain : error.isTls = false)
      (ticketed : c.server.mechanism = .gssapi) (named : ¬ IsBlank account)
      (unproved : Password.IsMissing password) :
      Blames c account password .service (.connection error) none
  | unproved {error : CredentialError} (ticketed : c.server.mechanism = .gssapi)
      (blank : IsBlank account ∨ Password.IsMissing password) :
      Blames c account password .user (.credentials error) none
  | unsent {purpose : Purpose} {sent : Password} (ticketed : c.server.mechanism = .gssapi)
      (given : password = some sent) (unread : sent.text? = none) :
      Blames c account password purpose (.unencodable sent) none

variable {c : Connector} {purpose : Purpose} {account : Option String} {password : Option Password}

/-! ### Tickets -/

/-- What a failure to get a ticket is put down to. -/
inductive BlamesTicket (password : Option Password) : Failure → Option Sign → Prop
  | unreached {error : ConnectionError} (plain : error.isTls = false) :
      BlamesTicket password (.connection error) (some .noIssuer)
  | refused {error : CredentialError} :
      BlamesTicket password (.credentials error) (some .ticketRefused)
  | unproved {error : CredentialError} (blank : Password.IsMissing password) :
      BlamesTicket password (.credentials error) none
  | unsent {sent : Password} (given : password = some sent) (unread : sent.text? = none) :
      BlamesTicket password (.unencodable sent) none

/-- Each refusal of the ticket service is a sign. -/
theorem askTickets_heeds (principal : String) {call : Call} (ticket : call.IsTicket) :
    Heeds network none (BlamesTicket password) (askTickets principal call) := by
  refine .single call (Except.mapError (ticketFailure principal)) ?_ ?_ ?_
  · exact fun world => run_askTickets principal call
  · intro answer value given
    cases answer with
    | ok reply => cases call <;> first | rfl | exact ticket.elim
    | error fault => cases given
  · intro answer failure told given
    cases answer with
    | ok reply => cases given
    | error fault =>
      cases given
      have refusal : fault.isTicket = true := by
        cases call <;> first | exact told | exact ticket.elim
      cases fault with
      | ticket message code =>
        have signed : (Event.exchange call (.error (.ticket message code))).sign? =
            some (.ofRefusal code) := by
          cases call <;> first | rfl | exact ticket.elim
        rw [signed]
        simp only [ticketFailure, Sign.ofRefusal]
        split
        · exact .unreached rfl
        · exact .refused
      | _ => cases refusal

theorem sentText_heeds {sent : Password} (given : password = some sent) :
    Heeds network none (BlamesTicket password) (sentText sent) := by
  rw [sentText]
  cases read : sent.text? with
  | some text => exact .pure _
  | none => exact .throw (.unsent given read)

theorem acquireTicket_heeds (principal : String) (password : Option Password) :
    Heeds network none (BlamesTicket password) (acquireTicket principal password) := by
  rw [acquireTicket]
  cases given : password.filter (· ≠ .blank) with
  | none => exact .throw (.unproved given)
  | some sent =>
    have heeds : Heeds network none (BlamesTicket password) (sentText sent) :=
      sentText_heeds (Option.filter_eq_some_iff.mp given).1
    refine .bind (askTickets_heeds principal trivial) fun _ => heeds.bind fun text => ?_
    exact askTickets_heeds principal trivial

/-- What the failure to get a ticket becomes for whom the ticket is for. -/
def ticketBlame (c : Connector) (account : String) : Purpose → Failure → Failure
  | .service, .credentials cause => .connection (.serviceTicket account c.address cause)
  | _, failure => failure

theorem ticketFor_heeds (ticketed : c.server.mechanism = .gssapi) (purpose : Purpose)
    {name : String} (named : ¬ IsBlank (some name)) (password : Option Password) :
    Heeds network none (c.Blames (some name) password purpose)
      (c.ticketFor purpose name password) := by
  have changed : ∀ failure shown, BlamesTicket password failure shown →
      c.Blames (some name) password purpose (c.ticketBlame name purpose failure) shown := by
    intro failure shown blamed
    cases blamed with
    | unreached plain =>
      cases purpose with
      | service => exact .unreached plain (.inl rfl)
      | user => exact .unreached plain (.inl rfl)
    | refused =>
      cases purpose with
      | service => exact .rejected rfl (.inl rfl)
      | user => exact .denied (.inl rfl)
    | unproved blank =>
      cases purpose with
      | service => exact .unequipped rfl ticketed named blank
      | user => exact .unproved ticketed (.inr blank)
    | unsent given unread => cases purpose <;> exact .unsent ticketed given unread
  refine (acquireTicket_heeds (c.principalOf name) password).relabel ?_ ?_ ?_ changed
  · intro ticket
    cases purpose with
    | service => rfl
    | user => rfl
  · intro failure
    cases purpose with
    | service => cases failure <;> rfl
    | user => rfl
  · intro fault
    cases purpose with
    | service => rfl
    | user => rfl

theorem ticket?_heeds (c : Connector) (purpose : Purpose) (account : Option String)
    (password : Option Password) :
    Heeds network none (c.Blames account password purpose)
      (c.ticket? purpose account password) := by
  unfold ticket?
  by_cases ticketed : c.server.mechanism = .gssapi
  · rw [if_pos ticketed]
    cases given : account.filter (· ≠ "") with
    | some name =>
      have named : ¬ IsBlank (some name) := by
        have nonempty := (Option.filter_eq_some_iff.mp given).2
        have kept : (some name).filter (· ≠ "") = some name := Option.filter_some_pos nonempty
        rw [IsBlank, kept]
        exact nofun
      rw [(Option.filter_eq_some_iff.mp given).1]
      exact .bind (ticketFor_heeds ticketed purpose named password) fun _ => .pure _
    | none =>
      cases purpose with
      | service => exact .pure _
      | user => exact .throw (.unproved ticketed (.inl given))
  · rw [if_neg ticketed]
    exact .pure _

/-! ### Connections -/

theorem terms_heeds (c : Connector) (account : Option String) (password : Option Password)
    (ticket : Option String) (blames : Failure → Option Sign → Prop) :
    Heeds network none blames (c.terms account password ticket) :=
  .bind (.log _ _ _) fun _ => .pure _

theorem connect_heeds (c : Connector) (terms : Terms) (blames : Failure → Option Sign → Prop) :
    Heeds network none blames (c.connect terms) := by
  constructor
  · intro a s b ran
    rw [run_connect] at ran
    cases answered : (network.answer (.connect ⟨a.connections, c.address, terms⟩) a.network).1 with
    | error fault =>
      rw [answered] at ran
      cases ran
    | ok made =>
      rw [answered] at ran
      cases ran
      exact .of_history (.exchange (.connect ⟨a.connections, c.address, terms⟩) (.ok made))
        (by simp only [dialled, called, answered])
  · intro a failure b ran _
    rw [run_connect] at ran
    cases answered : (network.answer (.connect ⟨a.connections, c.address, terms⟩) a.network).1 with
    | ok made =>
      rw [answered] at ran
      cases ran
    | error fault =>
      rw [answered] at ran
      cases ran
      refine .inl ⟨.connect ⟨a.connections, c.address, terms⟩, fault, trivial, ?_, rfl⟩
      refine ⟨[_], ?_, List.mem_singleton_self _⟩
      simp only [dialled, called, answered]

theorem openSocket_heeds (c : Connector) (s : Session) :
    Heeds network none (c.Blames account password purpose) (c.openSocket s) := by
  have opening : Heeds network none (c.Blames account password purpose)
      ((perform (.openSocket s.connection)).translating
        fun fault => .connection (.notOpened c.address fault)) := by
    rw [← bind_pure (Operation.translating _ _)]
    refine .judged rfl .ok (fun _ => rfl) (fun _ _ _ => rfl) nofun ?_
    exact fun fault => .unreached rfl (.inr (.inl rfl))
  refine .bind opening fun _ => .ite ?_ (.pure _)
  let verdict (reply : UpgradeReply) : Except Failure Unit :=
    if reply.started then .ok ()
    else .error (.connection (.tlsRefused c.address (upgradeDescription reply.report)))
  refine .judged rfl verdict ?_ ?_ ?_ ?_
  · intro reply
    cases started : reply.started <;> simp [verdict, started] <;> rfl
  · intro reply value given
    cases started : reply.started with
    | true => simp [Event.sign?, started]
    | false => simp [verdict, started] at given
  · intro reply failure given
    cases started : reply.started with
    | true => simp [verdict, started] at given
    | false =>
      simp only [verdict, started] at given
      cases given
      simp only [Event.sign?, started]
      exact .upgrade rfl
  · exact fun fault => .upgrade rfl

theorem bindAs_heeds (c : Connector) (s : Session) :
    Heeds network (some .bindAccepted) (c.Blames account password purpose)
      (c.bindAs purpose account s) := by
  let verdict (reply : BindReply) : Except Failure Unit :=
    if reply.accepted then .ok () else .error (c.bindFailure purpose account reply.report)
  refine .judged rfl verdict ?_ ?_ ?_ ?_
  · intro reply
    cases accepted : reply.accepted <;> simp [verdict, accepted] <;> rfl
  · intro reply value given
    cases accepted : reply.accepted with
    | true => simp [Event.sign?, accepted]
    | false => simp [verdict, accepted] at given
  · intro reply failure given
    cases accepted : reply.accepted with
    | true => simp [verdict, accepted] at given
    | false =>
      simp only [verdict, accepted] at given
      cases given
      simp only [Event.sign?, accepted]
      cases purpose with
      | service => exact .rejected rfl (.inr rfl)
      | user => exact .denied (.inr rfl)
  · exact fun fault => .unreached rfl (.inr (.inr rfl))

/-- Signs decide how the opening of a session ends. -/
theorem openSession_heeds (c : Connector) (purpose : Purpose) (account : Option String)
    (password : Option Password) :
    Heeds network (some .bindAccepted) (c.Blames account password purpose)
      (c.openSession purpose account password) := by
  refine .bind (c.ticket?_heeds _ _ _) fun ticket => .bind (c.terms_heeds _ _ _ _) fun terms => ?_
  refine .bind (c.connect_heeds _ _) fun s => ?_
  have establish : Heeds network (some .bindAccepted) (c.Blames account password purpose)
      (do c.openSocket s; c.bindAs purpose account s) :=
    .bind (c.openSocket_heeds s) fun _ => c.bindAs_heeds s
  constructor
  · intro a session b ran
    rw [run_attempt_bind] at ran
    rcases ended : Operation.run (do c.openSocket s; c.bindAs purpose account s) network a with
      ⟨outcome, next⟩
    rw [ended] at ran
    cases outcome with
    | ok _ =>
      cases ran
      exact establish.ok _ _ _ ended
    | error failure =>
      obtain ⟨_, _, _, ran⟩ := run_bind_eq_ok ran
      cases ran
  · intro a failure b ran told
    rw [run_attempt_bind] at ran
    rcases ended : Operation.run (do c.openSocket s; c.bindAs purpose account s) network a with
      ⟨outcome, next⟩
    rw [ended] at ran
    cases outcome with
    | ok _ => cases ran
    | error other =>
      have begun : a.history <+: next.history :=
        (c.establish_callsOnly purpose account s).grows ended
      rcases run_bind_cases ran with ⟨_, failed, same⟩ | ⟨_, _, closed, ran⟩
      · -- Closing fails only with faults that nobody is told of.
        cases same
        rcases s.close_ends.fails_of_run failed (told.rest begun) with never | escaped
        · exact never.elim
        · exact .inl (escaped.since begun)
      · cases ran
        have silent : Shows none next b := Session.close_shows closed
        rcases establish.error _ _ _ ended (told.start silent.grows) with
          escaped | ⟨shown, shows, blamed⟩
        · exact .inl (escaped.upTo silent.grows)
        · exact .inr ⟨shown, shows.then_none silent, blamed⟩

end Connector

end DirectoryAuth
