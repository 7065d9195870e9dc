import DirectoryAuth.Proofs.Login.Checks
import DirectoryAuth.Proofs.Login.Password
import DirectoryAuth.Proofs.Session.Signs

/-!
# The statuses of logins

Each status that a server records for a login stands for something that happened while the login was
checked: a sign in one of the two sessions that were opened, or what looking for the entry came to.
The same sign may count differently in the session of the service account and in that of the user.
As long as connections can be made and every fault is such as callers are told of, the check comes
to one of the statuses. The exceptions are a marker in the template of the server that is too long,
and a password that is no text where a ticket is to be got for it.
-/

namespace DirectoryAuth

open Operation World

variable {σ : Type} {network : Network σ} {a b d : World σ}
variable {c : Connector} {login : String} {password : Password}

/-! ## Sessions -/

def Event.isMade : Event → Bool
  | .exchange (.connect _) (.error _) => false
  | _ => true

namespace World

def Connects (a b : World σ) : Prop := ∀ event, Happened event a b → event.isMade = true

namespace Connects

theorem start (connects : Connects a d) (later : b.history <+: d.history) : Connects a b :=
  fun event happened => connects event (happened.upTo later)

theorem rest (connects : Connects a d) (earlier : a.history <+: b.history) : Connects b d :=
  fun event happened => connects event (happened.since earlier)

theorem made (connects : Connects a b) {connection : Connection} {fault : Fault} :
    ¬ Happened (.exchange (.connect connection) (.error fault)) a b :=
  fun happened => Bool.false_ne_true (connects _ happened)

theorem of_history (made : b.history.all Event.isMade = true) : Connects a b := by
  rintro event ⟨events, history, member⟩
  rw [history, List.all_append] at made
  exact List.all_eq_true.mp (Bool.and_eq_true_iff.mp made).2 event member

theorem of_faultless (faultless : Faultless a b) : Connects a b := by
  intro event happened
  cases event with
  | exchange call answer =>
    cases call with
    | connect connection =>
      cases answer with
      | ok made => rfl
      | error fault => exact absurd happened (faultless.faultless (.connect connection) fault rfl)
    | _ => rfl
  | _ => rfl

end Connects

end World

/-- A session that cannot be had is put down to what there was. -/
theorem Connector.openSession_blames {purpose : Purpose} {account : Option String}
    {password : Option Password} {failure : Failure}
    (ran : (c.openSession purpose account password).run network a = (.error failure, b))
    (told : AsTold a b) (connects : Connects a b) :
    ∃ shown, Shows shown a b ∧ c.Blames account password purpose failure shown := by
  rcases (c.openSession_heeds _ _ _).error _ _ _ ran told with escaped | blamed
  · obtain ⟨call, fault, untranslated, happened, -⟩ := escaped
    have calls : CallsOnly network Call.IsOpening (c.openSession purpose account password) :=
      c.openSession_callsOnly _ _ _
    have opening := (calls.steps ran).allowed_of_happened happened
    cases call with
    | connect connection => exact absurd happened connects.made
    | pagedSearch connection query size => exact opening.elim
    | _ => exact untranslated.elim
  · exact blamed

/-- Closing fails only with faults that callers are not told of. -/
theorem Session.close_of_told {s : Session} {outcome : Except Failure Unit}
    (ran : s.close.run network a = (outcome, b)) (told : AsTold a b) : outcome = .ok () := by
  cases outcome with
  | ok _ => rfl
  | error failure =>
    rcases s.close_ends.fails_of_run ran told with never | escaped
    · exact never.elim
    · obtain ⟨call, fault, untranslated, happened, -⟩ := escaped
      have unbinding := (s.close_unbinds.steps ran).allowed_of_happened happened
      cases call with
      | unbind connection => exact untranslated.elim
      | _ => exact unbinding.elim

namespace Login

/-! ## The password of an entry -/

section Proof

variable {entry : Entry}

def opened (network : Network σ) (c : Connector) (login : String) (password : Password)
    (entry : Entry) (b : World σ) : World σ :=
  ((c.openUser (some (account c login entry)) (some password)).run network b).2

/-- What opening a session of the user shows of a login and its password. -/
inductive Proved (network : Network σ) (c : Connector) (login : String) (password : Password)
    (entry : Entry) (b : World σ) : LoginStatus → Prop
  | upgrade (met : Met .notUpgraded b (opened network c login password entry b)) :
      Proved network c login password entry b .tlsFailure
  | unreached {sign : Sign} (cause : sign = .noIssuer ∨ sign = .notOpened ∨ sign = .notBound)
      (met : Met sign b (opened network c login password entry b)) :
      Proved network c login password entry b .unreachable
  | denied {sign : Sign} (cause : sign = .ticketRefused ∨ sign = .bindRefused)
      (met : Met sign b (opened network c login password entry b)) :
      Proved network c login password entry b .invalidCredentials
  | unnamed (ticketed : c.server.mechanism = .gssapi) (blank : login = "") :
      Proved network c login password entry b .invalidCredentials
  | accepted (met : Met .bindAccepted b (opened network c login password entry b)) :
      Proved network c login password entry b .success

/-- A user without a name who is to have a ticket is refused, and nothing happens. -/
theorem openUser_of_unnamed (ticketed : c.server.mechanism = .gssapi) (blank : login = "") :
    (c.openUser (some (account c login entry)) (some password)).run network b =
      (.error (.credentials .noPrincipal), b) := by
  have sasl : c.server.mechanism.isSasl = true := by
    rw [ticketed]
    rfl
  rw [account_of_sasl sasl, blank]
  have refused : (c.ticket? .user (some "") (some password)).run network b =
      (.error (.credentials .noPrincipal), b) := by
    unfold Connector.ticket?
    rw [if_pos ticketed]
    rfl
  exact run_bind_of_error refused

theorem opened_of_unnamed (ticketed : c.server.mechanism = .gssapi) (blank : login = "") :
    opened network c login password entry b = b :=
  congrArg Prod.snd (openUser_of_unnamed ticketed blank)

def signified : Sign → LoginStatus
  | .notUpgraded => .tlsFailure
  | .noIssuer | .notOpened | .notBound => .unreachable
  | .ticketRefused | .bindRefused => .invalidCredentials
  | .bindAccepted => .success

/-- The sign that there was decides what is shown of a login. -/
theorem proved_iff_of_sign {sign : Sign}
    (shows : Shows (some sign) b (opened network c login password entry b))
    (status : LoginStatus) :
    signified sign = status ↔ Proved network c login password entry b status := by
  constructor
  · rintro rfl
    have met : Met sign b (opened network c login password entry b) := (shows.met_iff _).mpr rfl
    cases sign with
    | notUpgraded => exact .upgrade met
    | noIssuer => exact .unreached (.inl rfl) met
    | notOpened => exact .unreached (.inr (.inl rfl)) met
    | notBound => exact .unreached (.inr (.inr rfl)) met
    | ticketRefused => exact .denied (.inl rfl) met
    | bindRefused => exact .denied (.inr rfl) met
    | bindAccepted => exact .accepted met
  · intro proved
    cases proved with
    | upgrade met =>
      cases (shows.met_iff _).mp met
      rfl
    | unreached cause met =>
      cases (shows.met_iff _).mp met
      rcases cause with rfl | rfl | rfl <;> rfl
    | denied cause met =>
      cases (shows.met_iff _).mp met
      rcases cause with rfl | rfl <;> rfl
    | unnamed ticketed blank =>
      rw [opened_of_unnamed ticketed blank] at shows
      cases shows.unique (.refl b)
    | accepted met =>
      cases (shows.met_iff _).mp met
      rfl

/-- Without a name for a ticket, the credentials are recorded as refused. -/
theorem proved_iff_of_unnamed (ticketed : c.server.mechanism = .gssapi) (blank : login = "")
    (status : LoginStatus) :
    .invalidCredentials = status ↔ Proved network c login password entry b status := by
  have shows : Shows none b (opened network c login password entry b) := by
    rw [opened_of_unnamed ticketed blank]
    exact .refl b
  constructor
  · rintro rfl
    exact .unnamed ticketed blank
  · intro proved
    cases proved with
    | unnamed => rfl
    | upgrade met => cases (shows.met_iff _).mp met
    | unreached cause met => cases (shows.met_iff _).mp met
    | denied cause met => cases (shows.met_iff _).mp met
    | accepted met => cases (shows.met_iff _).mp met

/-- What is recorded in the words of a sign, is recorded rightly if the sign was shown. -/
theorem proves_of_sign {attempt : Attempt} {sign : Sign} {m : World σ}
    (shows : Shows (some sign) b (opened network c login password entry b))
    (records : Records network (checkPassword c login password entry) b attempt m)
    (server : attempt.server = c.key) (recorded : attempt.status = signified sign) :
    ∃ attempt next, (checkPassword c login password entry).run network b = (.ok attempt, next) ∧
      attempt.server = c.key ∧
      ∀ status, attempt.status = status ↔ Proved network c login password entry b status := by
  obtain ⟨record, ran⟩ := records
  refine ⟨attempt, _, ran, server, fun status => ?_⟩
  rw [recorded]
  exact proved_iff_of_sign shows status

/-- Where a password could not be sent, nothing is shown of it. -/
theorem not_proved_of_unsent {failure : Failure} {m : World σ}
    (opening : (c.openUser (some (account c login entry)) (some password)).run network b =
      (.error failure, m))
    (unmet : ¬ failure.IsRefusal) (shows : Shows none b (opened network c login password entry b))
    (status : LoginStatus) : ¬ Proved network c login password entry b status := by
  intro proved
  cases proved with
  | unnamed ticketed blank =>
    cases opening.symm.trans (openUser_of_unnamed ticketed blank)
    exact unmet trivial
  | upgrade met => cases (shows.met_iff _).mp met
  | unreached cause met => cases (shows.met_iff _).mp met
  | denied cause met => cases (shows.met_iff _).mp met
  | accepted met => cases (shows.met_iff _).mp met

/-- As long as connections can be made and callers are told of every fault, what is shown of a
login and its password is recorded, unless the password could not be sent. -/
theorem checkPassword_proves (given : password ≠ .blank)
    (told : AsTold b ((checkPassword c login password entry).run network b).2)
    (connects : Connects b ((checkPassword c login password entry).run network b).2) :
    (∃ attempt next, (checkPassword c login password entry).run network b = (.ok attempt, next) ∧
      attempt.server = c.key ∧
      ∀ status, attempt.status = status ↔ Proved network c login password entry b status) ∨
    ∃ failure next,
      (checkPassword c login password entry).run network b = (.error failure, next) ∧
        failure.OfPassword [c] password ∧
        ∀ status, ¬ Proved network c login password entry b status := by
  have within := checkPassword_grows network c login password entry b
  rcases opening : (c.openUser (some (account c login entry)) (some password)).run network b with
    ⟨outcome, m⟩
  have world : opened network c login password entry b = m := congrArg Prod.snd opening
  cases outcome with
  | ok session =>
    have shows : Shows (some .bindAccepted) b m := (c.openSession_heeds _ _ _).ok _ _ _ opening
    rcases closing : session.close.run network m with ⟨outcome, next⟩
    have proving : (prove c login password entry).run network b = (outcome, next) :=
      (run_bind_of_ok opening).trans closing
    rw [proving] at within
    cases Session.close_of_told closing ((told.start within).rest shows.grows)
    rw [← world] at shows
    exact .inl (proves_of_sign shows (checkPassword_of_proved proving) rfl rfl)
  | error failure =>
    have proving : (prove c login password entry).run network b = (.error failure, m) :=
      run_bind_of_error opening
    rw [proving] at within
    obtain ⟨shown, shows, blamed⟩ := Connector.openSession_blames opening
      (told.start within) (connects.start within)
    rw [← world] at shows
    cases blamed with
    | @upgrade _ error tls =>
      have recorded : error.status = .tlsFailure := if_pos tls
      exact .inl (proves_of_sign shows (checkPassword_of_refused proving) rfl recorded)
    | @unreached _ error sign plain cause =>
      have recorded : error.status = signified sign := by
        rw [ConnectionError.status, plain]
        rcases cause with rfl | rfl | rfl <;> rfl
      exact .inl (proves_of_sign shows (checkPassword_of_refused proving) rfl recorded)
    | @denied error sign cause =>
      have recorded : .invalidCredentials = signified sign := by
        rcases cause with rfl | rfl <;> rfl
      exact .inl (proves_of_sign shows (checkPassword_of_denied proving) rfl recorded)
    | unproved ticketed blank =>
      obtain ⟨record, ran⟩ := checkPassword_of_denied proving
      have sasl : c.server.mechanism.isSasl = true := by
        rw [ticketed]
        rfl
      have nameless : login = "" := by
        rw [account_of_sasl sasl] at blank
        simpa [IsBlank, Password.IsMissing, given] using blank
      exact .inl ⟨_, _, ran, rfl, proved_iff_of_unnamed ticketed nameless⟩
    | @unsent _ sent ticketed same unread =>
      cases same
      have unmet : ¬ (Failure.unencodable password).IsRefusal := id
      refine .inr ⟨_, m, checkPassword_of_unmet unmet proving, ?_, ?_⟩
      · exact ⟨rfl, unread, c, List.mem_singleton_self c, ticketed⟩
      · exact not_proved_of_unsent opening unmet shows

end Proof

/-! ## The entry of a login -/

/-- In a session of the service account that is closed again, looking for the entry of a login came
to an outcome. -/
inductive Looked (network : Network σ) (c : Connector) (login : String) (a : World σ) :
    Except Failure (Option Entry) → World σ → Prop
  | intro {s : Session} {m n : World σ} {found : Except Failure (Option Entry)}
      (served : c.openService.run network a = (.ok s, m))
      (looked : (Lookup.findUser c s login []).run network m = (found, n)) :
      Looked network c login a found (s.close.run network n).2

/-- What happened when a login was checked with a server stands for a status: in the session of the
service account, in looking for the entry, or in the session of the user for the entry that was
found. -/
inductive Judged (network : Network σ) (c : Connector) (login : String) (password : Password)
    (a : World σ) : LoginStatus → Prop
  | upgrade (met : Met .notUpgraded a (c.openService.run network a).2) :
      Judged network c login password a .tlsFailure
  | unserved (unserved : ∀ s b, c.openService.run network a ≠ (.ok s, b))
      (otherwise : ¬ Met .notUpgraded a (c.openService.run network a).2) :
      Judged network c login password a .unreachable
  | unsearched {error : SearchError} {b : World σ}
      (looked : Looked network c login a (.error (.search error)) b) :
      Judged network c login password a .lookupFailed
  | absent {b : World σ} (looked : Looked network c login a (.ok none) b) :
      Judged network c login password a .noSuchUser
  | proved {entry : Entry} {b : World σ} {status : LoginStatus}
      (looked : Looked network c login a (.ok (some entry)) b)
      (proved : Proved network c login password entry b status) :
      Judged network c login password a status

theorem Looked.unique {found other : Except Failure (Option Entry)} {e : World σ}
    (looked : Looked network c login a found b) (again : Looked network c login a other e) :
    other = found ∧ e = b := by
  obtain ⟨served, finding⟩ := looked
  obtain ⟨served', finding'⟩ := again
  cases served.symm.trans served'
  cases finding.symm.trans finding'
  exact ⟨rfl, rfl⟩

/-- Once the entry was looked for, the session of the service account stands for nothing. -/
theorem Judged.of_looked {found : Except Failure (Option Entry)} {status : LoginStatus}
    (judged : Judged network c login password a status)
    (looked : Looked network c login a found b) :
    (∃ error, found = .error (.search error) ∧ status = .lookupFailed) ∨
      found = .ok none ∧ status = .noSuchUser ∨
      ∃ entry, found = .ok (some entry) ∧ Proved network c login password entry b status := by
  cases judged with
  | upgrade met =>
    obtain ⟨served, -⟩ := looked
    rw [served] at met
    cases (((c.openSession_heeds _ _ _).ok _ _ _ served).met_iff _).mp met
  | unserved unserved otherwise =>
    obtain ⟨served, -⟩ := looked
    exact absurd served (unserved _ _)
  | unsearched again =>
    obtain ⟨rfl, rfl⟩ := looked.unique again
    exact .inl ⟨_, rfl, rfl⟩
  | absent again =>
    obtain ⟨rfl, rfl⟩ := looked.unique again
    exact .inr (.inl ⟨rfl, rfl⟩)
  | proved again proved =>
    obtain ⟨rfl, rfl⟩ := looked.unique again
    exact .inr (.inr ⟨_, rfl, proved⟩)

/-- The failure to get a session of the service account tells whether an upgrade failed. -/
theorem blames_service {account secret : Option String} {failure : Failure} {shown : Option Sign}
    (blamed : c.Blames account (secret.map .ofText) .service failure shown) :
    ∃ error, failure = .connection error ∧ (error.isTls = true ↔ shown = some .notUpgraded) := by
  cases blamed with
  | upgrade tls => exact ⟨_, rfl, iff_of_true tls rfl⟩
  | unreached plain cause =>
    refine ⟨_, rfl, iff_of_false (by simp [plain]) ?_⟩
    rcases cause with rfl | rfl | rfl <;> exact nofun
  | rejected plain cause =>
    refine ⟨_, rfl, iff_of_false (by simp [plain]) ?_⟩
    rcases cause with rfl | rfl <;> exact nofun
  | unequipped plain => exact ⟨_, rfl, iff_of_false (by simp [plain]) nofun⟩
  | unsent ticketed given unread => exact absurd unread (Password.text?_ne_none_of_map given)

def Unequipped (c : Connector) : Prop :=
  c.server.mechanism = .gssapi ∧ ¬ IsBlank c.server.bindName ∧ IsBlank c.server.bindPassword

theorem openService_of_unequipped (unequipped : Unequipped c) :
    ∃ failure, c.openService.run network a = (.error failure, a) := by
  obtain ⟨ticketed, named, unproved⟩ := unequipped
  obtain ⟨name, given⟩ := Option.ne_none_iff_exists'.mp named
  have unissued (principal : String) :
      (Connector.acquireTicket principal (c.server.bindPassword.map .ofText)).run network a =
        (.error (.credentials (.noPassword principal)), a) := by
    rw [Connector.acquireTicket, Password.isMissing_map.mpr unproved]
    rfl
  obtain ⟨failure, ticketless⟩ : ∃ failure,
      (c.ticketFor .service name (c.server.bindPassword.map .ofText)).run network a =
        (.error failure, a) := by
    rw [Connector.ticketFor, run_attempt_bind, unissued]
    exact ⟨_, rfl⟩
  have untried : (c.ticket? .service c.server.bindName (c.server.bindPassword.map .ofText)).run
      network a = (.error failure, a) := by
    unfold Connector.ticket?
    rw [if_pos ticketed, given]
    exact run_bind_of_error ticketless
  exact ⟨failure, run_bind_of_error untried⟩

/-- There is no session of the service account if and only if some sign was against it, or it was
not equipped for one. -/
theorem unserved_iff (told : AsTold a (c.openService.run network a).2)
    (connects : Connects a (c.openService.run network a).2) :
    (∀ s b, c.openService.run network a ≠ (.ok s, b)) ↔
      (∃ sign, sign ≠ .bindAccepted ∧ Met sign a (c.openService.run network a).2) ∨
        Unequipped c := by
  rcases serving : c.openService.run network a with ⟨outcome, m⟩
  rw [serving] at told connects
  cases outcome with
  | ok s =>
    refine iff_of_false (fun unserved => unserved s m rfl) ?_
    rintro (⟨sign, other, met⟩ | unequipped)
    · have shows : Shows (some .bindAccepted) a m := (c.openSession_heeds _ _ _).ok _ _ _ serving
      exact other (Option.some.inj ((shows.met_iff _).mp met)).symm
    · obtain ⟨failure, failed⟩ : ∃ failure, c.openService.run network a = (.error failure, a) :=
        openService_of_unequipped unequipped
      cases serving.symm.trans failed
  | error failure =>
    refine iff_of_true nofun ?_
    obtain ⟨shown, shows, blamed⟩ := Connector.openSession_blames serving told connects
    cases blamed with
    | upgrade tls => exact .inl ⟨.notUpgraded, nofun, (shows.met_iff _).mpr rfl⟩
    | unreached plain cause =>
      refine .inl ⟨_, ?_, (shows.met_iff _).mpr rfl⟩
      rcases cause with rfl | rfl | rfl <;> exact nofun
    | rejected plain cause =>
      refine .inl ⟨_, ?_, (shows.met_iff _).mpr rfl⟩
      rcases cause with rfl | rfl <;> exact nofun
    | unequipped plain ticketed named unproved =>
      exact .inr ⟨ticketed, named, Password.isMissing_map.mp unproved⟩
    | unsent ticketed given unread => exact absurd unread (Password.text?_ne_none_of_map given)

/-! ## The status of a login -/

/-- A login was checked, and what is recorded stands for what happened. -/
def Classified (network : Network σ) (c : Connector) (login : String) (password : Password)
    (a : World σ) (outcome : Except Failure Attempt) : Prop :=
  ∃ attempt, outcome = .ok attempt ∧ attempt.server = c.key ∧
    ∀ status, attempt.status = status ↔ Judged network c login password a status

/-- The check of a login stopped at a marker that is too long, at a password that is no text, or at
a paged search that could not be begun. Nothing that happened stands for a status. -/
def Unclassified (network : Network σ) (c : Connector) (login : String) (password : Password)
    (a b : World σ) (outcome : Except Failure Attempt) : Prop :=
  ∃ failure, outcome = .error failure ∧ (∀ status, ¬ Judged network c login password a status) ∧
    (failure.OfMarker [c.server.users.request] ∨ failure.OfPassword [c] password ∨
      ∃ connection query size fault, failure = .outside fault ∧
        Happened (.exchange (.pagedSearch connection query size) (.error fault)) a b)

theorem classified_of_unserved {failure : Failure}
    (serving : c.openService.run network a = (.error failure, b)) (told : AsTold a b)
    (connects : Connects a b) :
    Classified network c login password a ((check c login password).run network a).1 := by
  obtain ⟨shown, shows, blamed⟩ := Connector.openSession_blames serving told connects
  obtain ⟨error, rfl, upgrade⟩ := blames_service blamed
  have resolving : (resolve c login).run network a = (.error (.connection error), b) :=
    run_bind_of_error serving
  obtain ⟨record, ran⟩ : Records network (check c login password) a _ b :=
    check_of_refused resolving
  rw [← shows.met_iff] at upgrade
  refine ⟨_, congrArg Prod.fst ran, rfl, fun status => ⟨?_, fun judged => ?_⟩⟩
  · rintro rfl
    dsimp only
    rw [ConnectionError.status]
    split
    · rename_i tls
      refine .upgrade ?_
      rw [serving]
      exact upgrade.mp tls
    · rename_i plain
      refine .unserved ?_ ?_
      · intro s d served
        cases serving.symm.trans served
      · rw [serving]
        exact fun met => plain (upgrade.mpr met)
  · dsimp only
    cases judged with
    | upgrade met =>
      rw [serving] at met
      exact if_pos (upgrade.mpr met)
    | unserved unserved otherwise =>
      rw [serving] at otherwise
      exact if_neg fun tls => otherwise (upgrade.mp tls)
    | unsearched looked => cases looked with | intro served => cases serving.symm.trans served
    | absent looked => cases looked with | intro served => cases serving.symm.trans served
    | proved looked => cases looked with | intro served => cases serving.symm.trans served

/-- The session of the service account is closed without ado. -/
theorem resolve_of_looked {s : Session} {m n : World σ} {found : Except Failure (Option Entry)}
    (serving : c.openService.run network a = (.ok s, m))
    (looking : (Lookup.findUser c s login []).run network m = (found, n))
    (told : AsTold a ((resolve c login).run network a).2) :
    (resolve c login).run network a = (found, (s.close.run network n).2) := by
  rcases closing : s.close.run network n with ⟨closed, b⟩
  have resolving : (resolve c login).run network a = (closed.bind fun _ => found, b) := by
    rw [resolve, run_bind_of_ok serving, Session.during, run_andFinally_bind, looking, closing]
  rw [resolving] at told ⊢
  have opened : a.history <+: m.history := ((c.openSession_heeds _ _ _).ok _ _ _ serving).grows
  have searched : m.history <+: n.history :=
    (SearchRequest.unique_callsOnly (Lookup.request c login []) s).grows looking
  cases Session.close_of_told closing (told.rest (opened.trans searched))
  rfl

theorem unclassified_of_unmet {failure : Failure} (unmet : ¬ failure.OfAction never)
    (looked : Looked network c login a (.error failure) b)
    (resolving : (resolve c login).run network a = (.error failure, b))
    (cause : failure.OfMarker [c.server.users.request] ∨ failure.OfPassword [c] password ∨
      ∃ connection query size fault, failure = .outside fault ∧
        Happened (.exchange (.pagedSearch connection query size) (.error fault)) a b) :
    Unclassified network c login password a ((check c login password).run network a).2
      ((check c login password).run network a).1 := by
  rw [check_of_unmet unmet resolving]
  refine ⟨failure, rfl, fun status judged => ?_, cause⟩
  rcases judged.of_looked looked with ⟨error, same, _⟩ | ⟨same, _⟩ | ⟨_, same, _⟩
  · cases same
    exact unmet trivial
  · cases same
  · cases same

theorem classified_of_absent (looked : Looked network c login a (.ok none) b)
    (resolving : (resolve c login).run network a = (.ok none, b)) :
    Classified network c login password a ((check c login password).run network a).1 := by
  obtain ⟨record, ran⟩ : Records network (check c login password) a _ b :=
    check_of_absent resolving
  refine ⟨_, congrArg Prod.fst ran, rfl, fun status => ⟨?_, fun judged => ?_⟩⟩
  · rintro rfl
    exact .absent looked
  · rcases judged.of_looked looked with ⟨_, same, _⟩ | ⟨_, same⟩ | ⟨_, same, _⟩
    · cases same
    · exact same.symm
    · cases same

theorem classified_of_unsearched {error : SearchError}
    (looked : Looked network c login a (.error (.search error)) b)
    (resolving : (resolve c login).run network a = (.error (.search error), b)) :
    Classified network c login password a ((check c login password).run network a).1 := by
  obtain ⟨record, ran⟩ : Records network (check c login password) a _ b :=
    check_of_unsearched resolving
  refine ⟨_, congrArg Prod.fst ran, rfl, fun status => ⟨?_, fun judged => ?_⟩⟩
  · rintro rfl
    exact .unsearched looked
  · rcases judged.of_looked looked with ⟨_, _, same⟩ | ⟨same, _⟩ | ⟨_, same, _⟩
    · exact same.symm
    · cases same
    · cases same

/-- Once there is an entry, the session of the user decides. -/
theorem classified_of_entry {entry : Entry} (given : password ≠ .blank)
    (looked : Looked network c login a (.ok (some entry)) b)
    (resolving : (resolve c login).run network a = (.ok (some entry), b))
    (told : AsTold a ((check c login password).run network a).2)
    (connects : Connects a ((check c login password).run network a).2) :
    Classified network c login password a ((check c login password).run network a).1 ∨
      Unclassified network c login password a ((check c login password).run network a).2
        ((check c login password).run network a).1 := by
  have course : Keeps network (Course network (c = ·)) (resolve c login) :=
    resolve_course rfl login
  have earlier := course.grows resolving
  have judged_iff (status : LoginStatus) : Judged network c login password a status ↔
      Proved network c login password entry b status := by
    constructor
    · intro judged
      rcases judged.of_looked looked with ⟨_, same, _⟩ | ⟨same, _⟩ | ⟨_, same, proved⟩
      · cases same
      · cases same
      · cases same
        exact proved
    · exact fun proved => .proved looked proved
  rw [check_of_found resolving] at told connects ⊢
  rcases checkPassword_proves given (told.rest earlier) (connects.rest earlier) with
    ⟨attempt, next, ran, server, statuses⟩ | ⟨failure, next, ran, unsent, unproved⟩
  · refine .inl ⟨attempt, congrArg Prod.fst ran, server, fun status => ?_⟩
    rw [statuses, judged_iff]
  · refine .inr ⟨failure, congrArg Prod.fst ran, fun status => ?_, .inr (.inl unsent)⟩
    rw [judged_iff]
    exact unproved status

theorem classified_of_looked {found : Except Failure (Option Entry)} (given : password ≠ .blank)
    (looked : Looked network c login a found b)
    (resolving : (resolve c login).run network a = (found, b))
    (fails : ∀ failure, found = .error failure →
      failure.OfSearch [c.server.users.request] ∨ Escaped a b failure)
    (told : AsTold a ((check c login password).run network a).2)
    (connects : Connects a ((check c login password).run network a).2) :
    Classified network c login password a ((check c login password).run network a).1 ∨
      Unclassified network c login password a ((check c login password).run network a).2
        ((check c login password).run network a).1 := by
  have further := check_grows network c login password a
  rw [resolving] at further
  match found with
  | .ok none => exact .inl (classified_of_absent looked resolving)
  | .ok (some entry) => exact classified_of_entry given looked resolving told connects
  | .error failure =>
    rcases fails failure rfl with search | ⟨call, fault, untranslated, happened, rfl⟩
    · cases failure with
      | search error => exact .inl (classified_of_unsearched looked resolving)
      | longMarker digits => exact .inr (unclassified_of_unmet id looked resolving (.inl search))
      | _ => exact search.elim
    · cases call with
      | connect connection => exact absurd (happened.upTo further) connects.made
      | pagedSearch connection query size =>
        refine .inr (unclassified_of_unmet id looked resolving (.inr (.inr ?_)))
        exact ⟨connection, query, size, fault, rfl, happened⟩
      | _ => exact untranslated.elim

/-- As long as connections can be made and callers are told of every fault, a server records the
status that stands for what happened, and no other. Only a marker that is too long, a password that
is no text where a ticket is to be got for it, or a paged search that cannot be begun, keeps it from
recording anything. The session of the service account is missing if and only if a sign was against
it, or the account is not equipped for one. -/
theorem check_classifies (given : password ≠ .blank)
    (told : AsTold a ((check c login password).run network a).2)
    (connects : Connects a ((check c login password).run network a).2) :
    (Classified network c login password a ((check c login password).run network a).1 ∨
      Unclassified network c login password a ((check c login password).run network a).2
        ((check c login password).run network a).1) ∧
    ((∀ s b, c.openService.run network a ≠ (.ok s, b)) ↔
      (∃ sign, sign ≠ .bindAccepted ∧ Met sign a (c.openService.run network a).2) ∨
        Unequipped c) := by
  have further := check_grows network c login password a
  have told' := told.start further
  have connects' := connects.start further
  have outset : (c.openService.run network a).2.history <+:
      ((resolve c login).run network a).2.history := by
    refine run_bind_grows fun s m => ?_
    have finishes : s.Finishes network (s.during (Lookup.findUser c s login [])) :=
      Session.during_finishes (Lookup.findUser_searched c s login [])
    obtain ⟨n, searched, closed⟩ := finishes m
    rw [closed]
    exact searched.steps.history_grows.trans (s.close_callsOnly n).history_grows
  refine ⟨?_, unserved_iff (told'.start outset) (connects'.start outset)⟩
  rcases serving : c.openService.run network a with ⟨outcome, m⟩
  rw [serving] at outset
  cases outcome with
  | error failure =>
    exact .inl (classified_of_unserved serving (told'.start outset) (connects'.start outset))
  | ok s =>
    rcases looking : (Lookup.findUser c s login []).run network m with ⟨found, n⟩
    have resolving := resolve_of_looked serving looking told'
    refine classified_of_looked given (.intro serving looking) resolving ?_ told connects
    rintro failure rfl
    rw [resolving] at told'
    have ends : EndsIn network (Failure.OfSearch [c.server.users.request])
        (Lookup.findUser c s login []) :=
      SearchRequest.unique_ends (Lookup.request c login []) s
    have opened : a.history <+: m.history := ((c.openSession_heeds _ _ _).ok _ _ _ serving).grows
    have closed : n.history <+: (s.close.run network n).2.history :=
      (s.close_callsOnly n).history_grows
    rcases ends.fails_of_run looking ((told'.rest opened).start closed) with search | escaped
    · exact .inl search
    · exact .inr ((escaped.since opened).upTo closed)

open Rehearsal

/-- A user with an account is accepted, as the bind of the user's session shows. -/
theorem check_classifies_accepted :
    let c : Connector := ⟨server .simple .none none⟩
    let start := World.start accounting
    let checked := (check c "jdoe" "secret").run Script.network start
    (AsTold start checked.2 ∧ Connects start checked.2) ∧
      checked.1 = .ok ⟨c.key, .success, ""⟩ ∧
      Judged Script.network c "jdoe" "secret" start .success ∧
      ∀ sign, Met sign start (c.openService.run Script.network start).2 →
        sign = .bindAccepted := by
  intro c start checked
  have told : AsTold start checked.2 := .of_history (by decide +kernel)
  have connects : Connects start checked.2 := .of_history (by decide +kernel)
  have ran : checked.1 = .ok ⟨c.key, .success, ""⟩ := eq_ok_of_toOption (by decide +kernel)
  have served : c.openService.run Script.network start = (.ok (session c.server), _) := rfl
  obtain ⟨classified | unclassified, service⟩ := check_classifies (by decide) told connects
  · obtain ⟨attempt, same, -, statuses⟩ := classified
    cases ran.symm.trans same
    have judged := (statuses .success).mp rfl
    refine ⟨⟨told, connects⟩, ran, judged, fun sign met => ?_⟩
    by_contra other
    exact service.mpr (.inl ⟨sign, other, met⟩) _ _ served
  · obtain ⟨failure, same, -⟩ := unclassified
    cases ran.symm.trans same

/-- Where the number of a marker is too long, nothing is recorded, though no call failed. -/
theorem check_unclassified :
    let start := World.start accounting
    let checked := (check (marked 4301) "jdoe" "secret").run pooled start
    (AsTold start checked.2 ∧ Connects start checked.2) ∧
      checked.1 = .error (.longMarker 4301) ∧ ∀ attempt, checked.1 ≠ .ok attempt := by
  intro start checked
  have long : Decimal.digitLimit < 4301 := by decide
  obtain ⟨after, resolved, told, faultless⟩ := resolve_marked long
  have ran : checked = (.error (.longMarker 4301), after) := check_of_unmet id resolved
  rw [ran]
  exact ⟨⟨told, .of_faultless faultless⟩, rfl, nofun⟩

end Login

end DirectoryAuth
