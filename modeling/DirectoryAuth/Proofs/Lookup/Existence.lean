import DirectoryAuth.Proofs.Login.Verdict
import DirectoryAuth.Proofs.Lookup.Answers

/-!
# Who exists

Logins and lookups go through the servers in ways of their own: a login tries on until a password is
accepted, a lookup ends with the first server that knows the login. In a static network they agree
nevertheless on who exists, since both follow what the servers say.
-/

namespace DirectoryAuth

open Operation World

variable {σ α : Type} {network : Network σ} {state : σ} {a b : World σ}
variable {login : String} {password : Password}

/-! ## Attempts -/

theorem ConnectionError.status_unanswered (error : ConnectionError) :
    error.status.IsUnanswered := by
  rw [status]
  split
  · exact .inr (.inl rfl)
  · exact .inl rfl

def LoginStatus.IsJudged (status : LoginStatus) : Prop :=
  status = .success ∨ status = .invalidCredentials

namespace Login

/-- What is recorded of a login, by what the server says of it. -/
inductive Recorded (c : Connector) : Except Failure (Option Entry) → Attempt → Prop
  | absent : Recorded c (.ok none) ⟨c.key, .noSuchUser, ""⟩
  | failed {failure : Failure} {attempt : Attempt} (met : failure.OfAction never)
      (unanswered : attempt.status.IsUnanswered) : Recorded c (.error failure) attempt
  | found {entry : Entry} {attempt : Attempt} (known : attempt.status ≠ .noSuchUser) :
      Recorded c (.ok (some entry)) attempt

variable {c : Connector} {attempt : Attempt} {saying : Except Failure (Option Entry)}

/-- A directory that judges a password knows the login. -/
theorem Recorded.found_of (recorded : Recorded c saying attempt)
    (judged : attempt.status.IsJudged) :
    ∃ entry, saying = .ok (some entry) := by
  cases recorded with
  | absent => rcases judged with same | same <;> cases same
  | failed met unanswered =>
    rcases judged with same | same
    · simp [same, LoginStatus.IsUnanswered] at unanswered
    · simp [same, LoginStatus.IsUnanswered] at unanswered
  | found known => exact ⟨_, rfl⟩

theorem Recorded.failed_of (recorded : Recorded c saying attempt) {failure : Failure}
    (told : saying = .error failure) :
    failure.OfAction never ∧ attempt.status.IsUnanswered := by
  cases recorded with
  | failed met unanswered =>
    cases told
    exact ⟨met, unanswered⟩
  | _ => cases told

theorem Recorded.absent_iff (recorded : Recorded c saying attempt) :
    saying = .ok none ↔ attempt = ⟨c.key, .noSuchUser, ""⟩ := by
  cases recorded with
  | absent => exact iff_of_true rfl rfl
  | failed met unanswered =>
    refine iff_of_false (by simp) ?_
    rintro rfl
    simp [LoginStatus.IsUnanswered] at unanswered
  | found known =>
    refine iff_of_false (by simp) ?_
    rintro rfl
    exact known rfl

theorem checkPassword_known {entry : Entry}
    (ran : (checkPassword c login password entry).run network a = (.ok attempt, b)) :
    attempt.status ≠ .noSuchUser := by
  rcases proving : (prove c login password entry).run network a with ⟨outcome, next⟩
  cases outcome with
  | ok proved =>
    rw [(checkPassword_of_proved proving).unique ran]
    simp
  | error failure =>
    by_cases met : failure.IsRefusal
    · cases failure with
      | connection error =>
        rw [(checkPassword_of_refused proving).unique ran]
        intro same
        have unanswered := error.status_unanswered
        rw [show error.status = .noSuchUser from same] at unanswered
        simp [LoginStatus.IsUnanswered] at unanswered
      | credentials error =>
        rw [(checkPassword_of_denied proving).unique ran]
        simp
      | _ => exact met.elim
    · cases (checkPassword_of_unmet met proving).symm.trans ran

/-- A check records what the server says, whenever it is made. -/
theorem check_recorded (static : network.Static state) (settled : Settled network state a)
    (ran : (check c login password).run network a = (.ok attempt, b)) :
    Recorded c (Lookup.said network state login c) attempt := by
  rcases resolving : (resolve c login).run network a with ⟨outcome, next⟩
  have told : Lookup.said network state login c = outcome :=
    (Lookup.locate_said static settled c login []).symm.trans (congrArg Prod.fst resolving)
  rw [told]
  match outcome with
  | .ok none =>
    rw [(check_of_absent resolving).unique ran]
    exact .absent
  | .ok (some entry) =>
    rw [check_of_found resolving] at ran
    exact .found (checkPassword_known ran)
  | .error failure =>
    by_cases met : failure.OfAction never
    · cases failure with
      | connection error =>
        rw [(check_of_refused resolving).unique ran]
        exact .failed met error.status_unanswered
      | search error =>
        rw [(check_of_unsearched resolving).unique ran]
        exact .failed met (.inr (.inr rfl))
      | _ => exact met.elim
    · cases (check_of_unmet met resolving).symm.trans ran

/-- Attempts with servers in order, up to the first success, by what the servers say. -/
inductive Tried (said : Connector → Except Failure (Option Entry)) :
    List Connector → List Attempt → Prop
  | nil : Tried said [] []
  | last {c : Connector} {rest : List Connector} {attempt : Attempt}
      (recorded : Recorded c (said c) attempt) (success : attempt.status = .success) :
      Tried said (c :: rest) [attempt]
  | next {c : Connector} {rest : List Connector} {attempt : Attempt} {attempts : List Attempt}
      (recorded : Recorded c (said c) attempt) (later : Tried said rest attempts) :
      Tried said (c :: rest) (attempt :: attempts)

theorem attempts_tried (static : network.Static state) (settled : Settled network state a)
    {connectors : List Connector} {attempts : List Attempt}
    (ran : (Login.attempts login password connectors).run network a = (.ok attempts, b)) :
    Tried (Lookup.said network state login) connectors attempts := by
  induction connectors generalizing a attempts with
  | nil =>
    cases ran
    exact .nil
  | cons c rest ih =>
    obtain ⟨attempt, next, checked, ran⟩ := run_bind_eq_ok ran
    have recorded := check_recorded static settled checked
    split at ran
    · rename_i success
      cases ran
      exact .last recorded success
    · obtain ⟨others, last, tried, ended⟩ := run_bind_eq_ok ran
      cases ended
      have visits : Keeps network (Course network fun _ => True) (check c login password) :=
        check_course trivial login password
      have course := visits a
      rw [checked] at course
      exact .next recorded (ih (settled.course course) tried)

/-! ## Logins and lookups -/

section Agreement

variable {said : Connector → Except Failure (Option Entry)} {connectors : List Connector}
variable {attempts : List Attempt}

/-- No server knows the login exactly where all of them were tried and each recorded so. -/
theorem Tried.absent_iff (tried : Tried said connectors attempts) :
    (∀ c ∈ connectors, said c = .ok none) ↔
      attempts = connectors.map fun c => ⟨c.key, .noSuchUser, ""⟩ := by
  induction tried with
  | nil => simp
  | @last c rest attempt recorded success =>
    have known : attempt ≠ ⟨c.key, .noSuchUser, ""⟩ := by
      rintro rfl
      cases success
    have told := recorded.absent_iff.not.mpr known
    simp [told, known]
  | next recorded later ih => simp [recorded.absent_iff, ih]

/-- Where a login comes to its attempts, a lookup has the login, or it ends with nobody known. That
it does only where no server judged the password, and if it then puts that down to a failure, there
was no answer from some server. -/
theorem Tried.ends {found : Connector → Entry → Except Failure α → Prop}
    (gives : ∀ c entry outcome, found c entry outcome → ∃ value, outcome = .ok value)
    {failed : Option (String × Failure)} {outcome : Except Failure α}
    (tried : Tried said connectors attempts)
    (follows : Lookup.Follows login said found failed connectors outcome) :
    (∃ value, outcome = .ok value) ∨ ∃ last, outcome = .error (Lookup.unknown login last) ∧
      (∀ attempt ∈ attempts, ¬ attempt.status.IsJudged) ∧
      (last = failed ∨ ∃ attempt ∈ attempts, attempt.status.IsUnanswered) := by
  induction tried generalizing failed with
  | nil =>
    cases follows with
    | unknown => exact .inr ⟨failed, rfl, fun _ member => (nomatch member), .inl rfl⟩
  | last recorded success =>
    obtain ⟨entry, known⟩ := recorded.found_of (.inl success)
    cases follows with
    | found told finds => exact .inl (gives _ _ _ finds)
    | absent told | failed told | stopped told => cases known.symm.trans told
  | @next c rest attempt attempts recorded later ih =>
    have unjudged (told : ∀ entry, said c ≠ .ok (some entry)) : ¬ attempt.status.IsJudged := by
      intro judged
      obtain ⟨entry, known⟩ := recorded.found_of judged
      exact told entry known
    cases follows with
    | found told finds => exact .inl (gives _ _ _ finds)
    | stopped told unmet => exact absurd (recorded.failed_of told).1 unmet
    | absent told follows =>
      refine (ih follows).imp_right ?_
      rintro ⟨last, ended, others, last_eq | ⟨other, member, unanswered⟩⟩
      · refine ⟨last, ended, List.forall_mem_cons.mpr ⟨unjudged ?_, others⟩, .inl last_eq⟩
        rw [told]
        exact nofun
      · refine ⟨last, ended, List.forall_mem_cons.mpr ⟨unjudged ?_, others⟩,
          .inr ⟨other, List.mem_cons_of_mem _ member, unanswered⟩⟩
        rw [told]
        exact nofun
    | failed told met follows =>
      refine (ih follows).imp_right ?_
      rintro ⟨last, ended, others, -⟩
      refine ⟨last, ended, List.forall_mem_cons.mpr ⟨unjudged ?_, others⟩,
        .inr ⟨attempt, List.mem_cons_self, (recorded.failed_of told).2⟩⟩
      rw [told]
      exact nofun

end Agreement

end Login

/-- How a lookup of details ends follows what the servers say. -/
theorem Details.fetch_follows (static : network.Static state) (settled : Settled network state a)
    (connectors : List Connector) (login : String) :
    Lookup.Follows login (Lookup.said network state login)
      (fun c entry outcome => outcome = .ok (ofEntry c.server.users entry)) none connectors
      ((fetch connectors login).run network a).1 := by
  rw [fetch, run_bind_of_ok (run_log _ _ _)]
  refine Lookup.lookUpFrom_follows static ?_ ?_ (settled.noted _) none connectors
  · exact fun c session entry => .pure _
  · exact fun c session entry n => rfl

/-- Details of a login are not found exactly where none of the servers knows it. -/
theorem Details.fetch_unknown_iff (static : network.Static state)
    (settled : Settled network state a) (connectors : List Connector) (login : String) :
    (∃ other, ((fetch connectors login).run network a).1 = .error (.notFound other)) ↔
      ∀ c ∈ connectors, Lookup.said network state login c = .ok none := by
  have gives (c : Connector) (entry : Entry) (outcome : Except Failure Details)
      (found : outcome = .ok (ofEntry c.server.users entry)) (other : String) :
      outcome ≠ .error (.notFound other) :=
    fun failed => nomatch found.symm.trans failed
  simp [(fetch_follows static settled connectors login).notFound_iff Lookup.said_ne_notFound gives]

namespace Realm

variable {r : Realm} {v : Verdict}

/-- Logins and lookups agree about who exists, whenever each of them is made. Where a login comes to
a verdict, a lookup ends in one of three ways. It finds nobody exactly where every server was tried
and knew no such user; it has details where some server judged the password; and where it fails to
retrieve them, no server judged the password and some server gave no answer. -/
theorem lookups_agree_with_logins (ready : r.state = .ready) (static : network.Static state)
    (earlier later : List Task) (given : password ≠ .blank)
    (judged : (r.verdict login password).run network (Task.afterAll network state earlier) =
      (.ok v, b)) :
    let details := ((r.fetchDetails login).run network (Task.afterAll network state later)).1
    ((∃ found, details = .ok found) ∨ details = .error (.notFound login) ∨
      ∃ server cause, details = .error (.retrieval login server cause)) ∧
    ((∃ other, details = .error (.notFound other)) ↔
      v.attempts = r.connectors.map fun c => ⟨c.key, .noSuchUser, ""⟩) ∧
    ((∃ attempt ∈ v.attempts, attempt.status.IsJudged) → ∃ found, details = .ok found) ∧
    (∀ other server cause, details = .error (.retrieval other server cause) →
      (∀ attempt ∈ v.attempts, ¬ attempt.status.IsJudged) ∧
      ∃ attempt ∈ v.attempts, attempt.status.IsUnanswered) := by
  rw [fetchDetails, run_when_ready ready]
  intro details
  have tried : Login.Tried (Lookup.said network state login) r.connectors v.attempts := by
    rw [verdict, run_when_ready ready, Login.authenticate, if_neg given] at judged
    obtain ⟨attempts, last, ran, ended⟩ := run_bind_eq_ok judged
    cases ended
    exact Login.attempts_tried static (Task.afterAll_settled network state earlier) ran
  have follows : Lookup.Follows login (Lookup.said network state login) _ none r.connectors
      details :=
    Details.fetch_follows static (Task.afterAll_settled network state later) r.connectors login
  have ends := tried.ends (fun _ _ _ found => ⟨_, found⟩) follows
  refine ⟨?_, ?_, ?_, ?_⟩
  · refine ends.imp_right ?_
    rintro ⟨_ | ⟨server, cause⟩, ended, -⟩
    · exact .inl ended
    · exact .inr ⟨server, cause, ended⟩
  · rw [← tried.absent_iff]
    exact Details.fetch_unknown_iff static (Task.afterAll_settled network state later) _ login
  · rintro ⟨attempt, member, judged⟩
    refine ends.resolve_right ?_
    rintro ⟨last, -, unjudged, -⟩
    exact unjudged attempt member judged
  · intro other server cause ended
    rcases ends with ⟨found, fetched⟩ | ⟨last, unfetched, unjudged, nobody | unanswered⟩
    · cases ended.symm.trans fetched
    · rw [nobody] at unfetched
      cases ended.symm.trans unfetched
    · exact ⟨unjudged, unanswered⟩

open Rehearsal in
/-- A server that cannot be reached does not hide a user from whom the next one takes no
password. -/
theorem lookups_agree_with_logins_denied :
    let r := ready [absent, ⟨server .simple .none none⟩]
    let before := Task.afterAll Script.network accounting []
    let after := Task.afterAll Script.network accounting [.authenticate r "jdoe" "guess"]
    r.state = .ready ∧ Script.network.Static accounting ∧ ("guess" : Password) ≠ .blank ∧
      ∃ v b, (r.verdict "jdoe" "guess").run Script.network before = (.ok v, b) ∧
        v.attempts.map (·.status) = [.unreachable, .invalidCredentials] ∧
        ∃ found, ((r.fetchDetails "jdoe").run Script.network after).1 = .ok found := by
  intro r before after
  have static := Script.network_static accounting
  let v : Verdict := ⟨"jdoe", [⟨"absent", .unreachable, ""⟩,
    ⟨Server.defaultKey, .invalidCredentials, Diagnosis.describe none⟩]⟩
  have judged : (r.verdict "jdoe" "guess").run Script.network before = (.ok v, _) :=
    run_eq_of_toOption (by decide +kernel)
  have agree := lookups_agree_with_logins rfl static []
    [.authenticate r "jdoe" "guess"] (by decide) judged
  have member : v.attempts[1] ∈ v.attempts := List.getElem_mem _
  exact ⟨rfl, static, by decide, v, _, judged, rfl, agree.2.2.1 ⟨_, member, .inr rfl⟩⟩

end Realm

end DirectoryAuth
