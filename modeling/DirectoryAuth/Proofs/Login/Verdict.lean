import DirectoryAuth.Proofs.Login.Checks
import DirectoryAuth.Proofs.States

/-!
# The verdict of a login

Servers are tried in order until one accepts the password. So a verdict has an attempt for each
server up to the first success, and for all of them where there is none; the servers behind a
success are not visited. What a host is told of a login is decided by the attempts alone: it is
accepted by one success, denied where no server accepts it but some server knows better, and without
an answer where every server failed.
-/

namespace DirectoryAuth

open Operation World

variable {σ : Type} {network : Network σ} {a b d : World σ}
variable {login : String} {password : Password}

/-! ## Attempts in order -/

namespace Login

/-- Servers were tried one after the other, each of them in vain. -/
inductive InVain (network : Network σ) (login : String) (password : Password) :
    List Connector → World σ → World σ → Prop
  | none {a : World σ} : InVain network login password [] a a
  | next {c : Connector} {rest : List Connector} {attempt : Attempt} {a b d : World σ}
      (ran : (check c login password).run network a = (.ok attempt, b))
      (vain : attempt.status ≠ .success) (later : InVain network login password rest b d) :
      InVain network login password (c :: rest) a d

/-- A server is tried once those in front of it were tried in vain. The check with each server that
is tried comes to an attempt. -/
def Returns (network : Network σ) (login : String) (password : Password)
    (connectors : List Connector)
    (a : World σ) : Prop :=
  ∀ front c rest b, connectors = front ++ c :: rest → InVain network login password front a b →
    ∃ attempt next, (check c login password).run network b = (.ok attempt, next)

variable {c : Connector} {rest connectors : List Connector} {attempts : List Attempt}

theorem Returns.first (returns : Returns network login password (c :: rest) a) :
    ∃ attempt b, (check c login password).run network a = (.ok attempt, b) :=
  returns [] c rest a rfl .none

theorem Returns.later (returns : Returns network login password (c :: rest) a) {attempt : Attempt}
    (ran : (check c login password).run network a = (.ok attempt, b))
    (vain : attempt.status ≠ .success) : Returns network login password rest b := by
  intro front other behind d same invain
  refine returns (c :: front) other behind d ?_ (.next ran vain invain)
  rw [same, List.cons_append]

/-- Where the attempts come to an end, so did each check that was made. -/
theorem returns_of_ran
    (ran : (Login.attempts login password connectors).run network a = (.ok attempts, d)) :
    Returns network login password connectors a := by
  intro front c rest b same invain
  induction invain generalizing connectors attempts d with
  | @none a =>
    rw [same, List.nil_append] at ran
    obtain ⟨attempt, next, checked, -⟩ := run_bind_eq_ok ran
    exact ⟨attempt, next, checked⟩
  | next checked vain later ih =>
    rw [same, List.cons_append, Login.attempts, run_bind_of_ok checked, if_neg vain] at ran
    obtain ⟨others, last, ran, -⟩ := run_bind_eq_ok ran
    exact ih ran rfl

/-- The attempts are with servers in order, up to the first success. -/
inductive InOrder : List Connector → List Attempt → Prop
  | none : InOrder [] []
  | last {c : Connector} {rest : List Connector} {attempt : Attempt} (isOf : IsOf c attempt)
      (success : attempt.status = .success) : InOrder (c :: rest) [attempt]
  | next {c : Connector} {rest : List Connector} {attempt : Attempt} {attempts : List Attempt}
      (isOf : IsOf c attempt) (vain : attempt.status ≠ .success) (later : InOrder rest attempts) :
      InOrder (c :: rest) (attempt :: attempts)

namespace InOrder

theorem keys (order : InOrder connectors attempts) :
    attempts.map (·.server) <+: connectors.map Connector.key := by
  induction order with
  | none => exact List.prefix_refl _
  | @last c rest attempt isOf success =>
    rw [List.map_singleton, List.map_cons, isOf.server]
    exact ⟨rest.map Connector.key, rfl⟩
  | next isOf vain later ih =>
    rw [List.map_cons, List.map_cons, isOf.server]
    exact List.cons_prefix_cons.mpr ⟨rfl, ih⟩

theorem eq_nil_iff (order : InOrder connectors attempts) : attempts = [] ↔ connectors = [] := by
  cases order with
  | none => exact iff_of_true rfl rfl
  | last => exact iff_of_false (List.cons_ne_nil _ _) (List.cons_ne_nil _ _)
  | next => exact iff_of_false (List.cons_ne_nil _ _) (List.cons_ne_nil _ _)

/-- Only the last attempt may be a success. -/
theorem vain_of_dropLast (order : InOrder connectors attempts) :
    ∀ attempt ∈ attempts.dropLast, attempt.status ≠ .success := by
  induction order with
  | none => exact fun _ member => nomatch member
  | last => exact fun _ member => nomatch member
  | @next c rest attempt attempts isOf vain later ih =>
    intro other member
    cases attempts with
    | nil => cases member
    | cons second others =>
      rcases List.mem_cons.mp member with rfl | member
      · exact vain
      · exact ih other member

/-- Without a success, every server was tried. -/
theorem whole (order : InOrder connectors attempts)
    (vain : ∀ attempt ∈ attempts, attempt.status ≠ .success) :
    attempts.map (·.server) = connectors.map Connector.key := by
  induction order with
  | none => rfl
  | last isOf success => exact absurd success (vain _ List.mem_cons_self)
  | next isOf _ later ih =>
    rw [List.map_cons, List.map_cons, isOf.server]
    exact congrArg _ (ih fun other member => vain other (List.mem_cons_of_mem _ member))

theorem status (order : InOrder connectors attempts) :
    ∀ attempt ∈ attempts, ∀ name, attempt.status ≠ .other name := by
  induction order with
  | none => exact fun _ member => nomatch member
  | last isOf success =>
    intro other member
    rw [List.mem_singleton.mp member]
    exact isOf.status
  | next isOf vain later ih =>
    intro other member
    rcases List.mem_cons.mp member with rfl | member
    · exact isOf.status
    · exact ih other member

/-- The success, if there is one, is the last attempt. -/
theorem find?_success (order : InOrder connectors attempts) :
    attempts.find? (·.status = .success) =
      if attempts.any (·.status = .success) then attempts.getLast? else Option.none := by
  induction order with
  | none => rfl
  | last isOf success => simp [success]
  | @next c rest attempt attempts isOf vain later ih =>
    rw [List.find?_cons_of_neg (by simpa using vain), ih]
    have any : (attempt :: attempts).any (·.status = .success) =
        attempts.any (·.status = .success) := by
      simp [vain]
    rw [any]
    cases attempts with
    | nil => rfl
    | cons second others => rw [List.getLast?_cons_cons]

end InOrder

/-- What the attempts with servers come to, and whom they visit. Servers behind a success do not
matter. -/
theorem Returns.ran (returns : Returns network login password connectors a) :
    ∃ attempts b, (Login.attempts login password connectors).run network a = (.ok attempts, b) ∧
      InOrder connectors attempts ∧
      Course network (· ∈ connectors.take attempts.length) a b ∧
      ((∃ attempt ∈ attempts, attempt.status = .success) → ∀ others,
        (Login.attempts login password (connectors.take attempts.length ++ others)).run network a =
          (.ok attempts, b)) := by
  induction connectors generalizing a with
  | nil => exact ⟨[], a, rfl, .none, refl a, fun ⟨_, member, _⟩ => nomatch member⟩
  | cons c rest ih =>
    obtain ⟨attempt, b, checked⟩ := returns.first
    have isOf : IsOf c attempt := check_isOf checked
    have visit (visited : Connector → Prop) (known : visited c) : Course network visited a b := by
      have course : Keeps network (Course network visited) (check c login password) :=
        check_course known login password
      have here := course a
      rw [checked] at here
      exact here
    by_cases success : attempt.status = .success
    · have stops (others : List Connector) :
          (Login.attempts login password (c :: others)).run network a = (.ok [attempt], b) := by
        rw [Login.attempts, run_bind_of_ok checked, if_pos success]
        rfl
      exact ⟨[attempt], b, stops rest, .last isOf success, visit _ List.mem_cons_self,
        fun _ => stops⟩
    · obtain ⟨attempts, d, ran, order, course, stops⟩ := ih (returns.later checked success)
      have continues {others : List Connector} {attempts : List Attempt} {d : World σ}
          (ran : (Login.attempts login password others).run network b = (.ok attempts, d)) :
          (Login.attempts login password (c :: others)).run network a =
            (.ok (attempt :: attempts), d) := by
        rw [Login.attempts, run_bind_of_ok checked, if_neg success, run_bind_of_ok ran]
        rfl
      refine ⟨attempt :: attempts, d, continues ran, .next isOf success order, ?_, ?_⟩
      · refine (visit _ List.mem_cons_self).trans (course.mono ?_)
        exact fun other member => List.mem_cons_of_mem _ member
      · rintro ⟨other, member, succeeded⟩ others
        rcases List.mem_cons.mp member with rfl | member
        · exact absurd succeeded success
        · exact continues (stops ⟨other, member, succeeded⟩ others)

end Login

/-! ## Verdicts -/

namespace LoginStatus

def IsDenied (status : LoginStatus) : Prop := status = .noSuchUser ∨ status = .invalidCredentials

def IsUnanswered (status : LoginStatus) : Prop :=
  status = .unreachable ∨ status = .tlsFailure ∨ status = .lookupFailed

theorem isDefinitive_iff {status : LoginStatus} :
    status.isDefinitive = true ↔ status = .success ∨ status.IsDenied := by
  cases status <;> simp [isDefinitive, IsDenied]

theorem isUnanswered_iff {status : LoginStatus} (known : ∀ name, status ≠ .other name) :
    status.IsUnanswered ↔ status ≠ .success ∧ ¬ status.IsDenied := by
  cases status with
  | other name => exact absurd rfl (known name)
  | _ => simp [IsUnanswered, IsDenied]

end LoginStatus

namespace Verdict

variable {v : Verdict}

theorem isSuccess_iff : v.isSuccess = true ↔ ∃ attempt ∈ v.attempts, attempt.status = .success := by
  simp [isSuccess]

theorem reachedDirectory_iff :
    v.reachedDirectory = true ↔
      ∃ attempt ∈ v.attempts, attempt.status = .success ∨ attempt.status.IsDenied := by
  simp [reachedDirectory, LoginStatus.isDefinitive_iff]

/-- There are attempts, and none of them was answered. -/
theorem silent_iff (tried : v.attempts ≠ [])
    (known : ∀ attempt ∈ v.attempts, ∀ name, attempt.status ≠ .other name) :
    (!v.attempts.isEmpty && !v.reachedDirectory) = true ↔
      ∀ attempt ∈ v.attempts, attempt.status.IsUnanswered := by
  have unreached : (!v.reachedDirectory) = true ↔
      ∀ attempt ∈ v.attempts, attempt.status.IsUnanswered := by
    rw [Bool.not_eq_true', ← Bool.not_eq_true, reachedDirectory_iff]
    constructor
    · intro unreached attempt member
      refine (LoginStatus.isUnanswered_iff (known attempt member)).mpr ⟨?_, ?_⟩
      · exact fun success => unreached ⟨attempt, member, .inl success⟩
      · exact fun denied => unreached ⟨attempt, member, .inr denied⟩
    · rintro unanswered ⟨attempt, member, answered⟩
      have neither := (LoginStatus.isUnanswered_iff (known attempt member)).mp
        (unanswered attempt member)
      exact answered.elim neither.1 neither.2
  rw [Bool.and_eq_true, unreached]
  simp [tried]

/-- The verdict is one over servers in order, up to the first success. -/
structure IsOver (connectors : List Connector) (v : Verdict) : Prop where
  keys : v.attempts.map (·.server) <+: connectors.map Connector.key
  tried : v.attempts ≠ []
  last : ∀ attempt ∈ v.attempts.dropLast, attempt.status ≠ .success
  whole : (∀ attempt ∈ v.attempts, attempt.status ≠ .success) →
    v.attempts.map (·.server) = connectors.map Connector.key
  success : v.isSuccess = true ↔ ∃ attempt ∈ v.attempts, attempt.status = .success
  server : v.server? = if v.isSuccess then v.attempts.getLast?.map (·.server) else none
  reached : v.reachedDirectory = true ↔
    ∃ attempt ∈ v.attempts, attempt.status = .success ∨ attempt.status.IsDenied

theorem isOver_of_inOrder {connectors : List Connector} (some : connectors ≠ [])
    (order : Login.InOrder connectors v.attempts) : v.IsOver connectors := by
  refine ⟨order.keys, mt order.eq_nil_iff.mp some, order.vain_of_dropLast, order.whole,
    isSuccess_iff, ?_, reachedDirectory_iff⟩
  rw [server?, order.find?_success, isSuccess]
  split
  · rfl
  · rfl

/-- What a host is told of a verdict: whether the login is accepted, or that there is no answer. -/
structure Tells (v : Verdict) (login : String) (outcome : Except Failure Bool) : Prop where
  accepted : outcome = .ok true ↔ ∃ attempt ∈ v.attempts, attempt.status = .success
  denied : outcome = .ok false ↔ (∀ attempt ∈ v.attempts, attempt.status ≠ .success) ∧
    ∃ attempt ∈ v.attempts, attempt.status.IsDenied
  unanswered : outcome = .error (.connection (.noAnswer login)) ↔
    ∀ attempt ∈ v.attempts, attempt.status.IsUnanswered

end Verdict

namespace Realm

variable {r : Realm} {v : Verdict}

theorem authenticate_tells (tried : v.attempts ≠ [])
    (known : ∀ attempt ∈ v.attempts, ∀ name, attempt.status ≠ .other name)
    (judged : (r.verdict login password).run network a = (.ok v, b)) :
    ∃ outcome, (r.authenticate login password).run network a = (outcome, b) ∧
      v.Tells login outcome := by
  rw [authenticate, run_bind_of_ok judged]
  by_cases success : v.isSuccess = true
  · rw [if_pos success]
    obtain ⟨attempt, member, succeeded⟩ := Verdict.isSuccess_iff.mp success
    refine ⟨_, rfl, iff_of_true rfl ⟨attempt, member, succeeded⟩, iff_of_false (by simp) ?_,
      iff_of_false (by simp) ?_⟩
    · rintro ⟨vain, -⟩
      exact vain attempt member succeeded
    · intro unanswered
      have answered := (LoginStatus.isUnanswered_iff (known attempt member)).mp
        (unanswered attempt member)
      exact answered.1 succeeded
  have rejected : ¬ ∃ attempt ∈ v.attempts, attempt.status = .success :=
    fun some => success (Verdict.isSuccess_iff.mpr some)
  have vain : ∀ attempt ∈ v.attempts, attempt.status ≠ .success :=
    fun attempt member succeeded => rejected ⟨attempt, member, succeeded⟩
  rw [if_neg success]
  by_cases silent : (!v.attempts.isEmpty && !v.reachedDirectory) = true
  · have unanswered := (Verdict.silent_iff tried known).mp silent
    rw [if_pos silent]
    refine ⟨_, rfl, iff_of_false (by simp) rejected, iff_of_false (by simp) ?_,
      iff_of_true rfl unanswered⟩
    rintro ⟨-, attempt, member, denied⟩
    exact ((LoginStatus.isUnanswered_iff (known attempt member)).mp
      (unanswered attempt member)).2 denied
  · have answered := (Verdict.silent_iff tried known).not.mp silent
    rw [if_neg silent]
    refine ⟨_, rfl, iff_of_false (by simp) rejected, iff_of_true rfl ⟨vain, ?_⟩,
      iff_of_false (by simp) answered⟩
    by_contra neither
    refine answered fun attempt member => ?_
    refine (LoginStatus.isUnanswered_iff (known attempt member)).mpr ⟨vain attempt member, ?_⟩
    exact fun denied => neither ⟨attempt, member, denied⟩

theorem verdict_blank (ready : r.state = .ready) : ∃ record,
    (r.verdict login .blank).run network a = (.ok ⟨login, []⟩, a.noted (.logged record)) := by
  rw [verdict, run_when_ready ready]
  exact ⟨_, rfl⟩

theorem verdict_given (ready : r.state = .ready) (given : password ≠ .blank)
    {attempts : List Attempt}
    (ran : (Login.attempts login password r.connectors).run network a = (.ok attempts, b)) :
    (r.verdict login password).run network a = (.ok ⟨login, attempts⟩, b) := by
  rw [verdict, run_when_ready ready, Login.authenticate, if_neg given, run_bind_of_ok ran]
  rfl

/-- No server was tried, so the login is not accepted, and no server is said to be silent. -/
theorem authenticate_untried
    (judged : (r.verdict login password).run network a = (.ok ⟨login, []⟩, b)) :
    (r.authenticate login password).run network a = (.ok false, b) := by
  rw [authenticate, run_bind_of_ok judged]
  rfl

/-- The check with every server that is tried comes to an attempt. Then so does the login: with a
blank password no server is tried. Otherwise the verdict is one over the servers of the realm in
order, no server behind a success is visited or matters, and the attempts decide what the host is
told. All this is about a realm with servers, as one is that was made ready; over none there are no
attempts, and the login is not accepted. -/
theorem judges_in_order (ready : r.state = .ready)
    (returns : password ≠ .blank → Login.Returns network login password r.connectors a) :
    (password = .blank → ∃ record,
      (r.verdict login password).run network a =
        (.ok ⟨login, []⟩, a.noted (.logged record)) ∧
      (r.authenticate login password).run network a = (.ok false, a.noted (.logged record))) ∧
    (password ≠ .blank → r.connectors ≠ [] → ∃ attempts b outcome,
      (r.verdict login password).run network a = (.ok ⟨login, attempts⟩, b) ∧
      (r.authenticate login password).run network a = (outcome, b) ∧
      Verdict.IsOver r.connectors ⟨login, attempts⟩ ∧
      Verdict.Tells ⟨login, attempts⟩ login outcome ∧
      Course network (· ∈ r.connectors.take attempts.length) a b ∧
      ((∃ attempt ∈ attempts, attempt.status = .success) → ∀ others,
        ({ r with connectors := r.connectors.take attempts.length ++ others }.verdict login
          password).run network a = (.ok ⟨login, attempts⟩, b))) ∧
    (password ≠ .blank → r.connectors = [] →
      (r.verdict login password).run network a = (.ok ⟨login, []⟩, a) ∧
      (r.authenticate login password).run network a = (.ok false, a)) ∧
    (r.Reachable network → r.connectors ≠ []) := by
  refine ⟨?_, ?_, ?_, fun reachable => (reachable.when_ready ready).1⟩
  · rintro rfl
    obtain ⟨record, judged⟩ := verdict_blank ready
    exact ⟨record, judged, authenticate_untried judged⟩
  · intro given servers
    obtain ⟨attempts, b, ran, order, course, stops⟩ := (returns given).ran
    have judged := verdict_given ready given ran
    have ordered : Verdict.IsOver r.connectors ⟨login, attempts⟩ :=
      Verdict.isOver_of_inOrder servers order
    obtain ⟨outcome, told, tells⟩ := authenticate_tells ordered.tried order.status judged
    refine ⟨attempts, b, outcome, judged, told, ordered, tells, course, fun success others => ?_⟩
    have still : { r with
        connectors := r.connectors.take attempts.length ++ others }.state = .ready := ready
    exact verdict_given still given (stops success others)
  · intro given none
    have ran : (Login.attempts login password r.connectors).run network a = (.ok [], a) := by
      rw [none]
      rfl
    have judged := verdict_given ready given ran
    exact ⟨judged, authenticate_untried judged⟩

open Rehearsal in
/-- The first server cannot be reached, and the second one accepts the password. -/
theorem judges_in_order_second :
    let r := ready [absent, ⟨server .simple .none none⟩]
    let start := World.start accounting
    let attempts : List Attempt :=
      [⟨"absent", .unreachable, ""⟩, ⟨Server.defaultKey, .success, ""⟩]
    r.state = .ready ∧ Login.Returns Script.network "jdoe" "secret" r.connectors start ∧
      ∃ b, (r.verdict "jdoe" "secret").run Script.network start = (.ok ⟨"jdoe", attempts⟩, b) ∧
        (r.authenticate "jdoe" "secret").run Script.network start = (.ok true, b) := by
  intro r start attempts
  have ran : (Login.attempts "jdoe" "secret" r.connectors).run Script.network start =
      (.ok attempts, _) :=
    run_eq_of_toOption (by decide +kernel)
  have verdict : ((r.verdict "jdoe" "secret").run Script.network start).1.toOption =
      some ⟨"jdoe", attempts⟩ := by
    decide +kernel
  have returns := Login.returns_of_ran ran
  obtain ⟨others, b, outcome, judged, told, -, tells, -⟩ :=
    (judges_in_order (r := r) rfl fun _ => returns).2.1 (by decide) (by decide)
  rw [judged] at verdict
  cases verdict
  have accepted : outcome = .ok true :=
    tells.accepted.mpr ⟨_, List.mem_cons_of_mem _ List.mem_cons_self, rfl⟩
  rw [accepted] at told
  exact ⟨rfl, returns, b, judged, told⟩

open Rehearsal in
/-- No server denied a login that is not accepted: over no servers, and with a blank password. All
attempts, of which there are none, were without an answer, and yet this is not what the host is
told. -/
theorem judged_without_attempts :
    let start := World.start accounting
    let served := ready [⟨server .simple .none none⟩]
    (Login.Returns Script.network "jdoe" "secret" (ready []).connectors start ∧
      ((ready []).verdict "jdoe" "secret").run Script.network start = (.ok ⟨"jdoe", []⟩, start) ∧
      ((ready []).authenticate "jdoe" "secret").run Script.network start = (.ok false, start)) ∧
    ∃ b, (served.verdict "jdoe" .blank).run Script.network start = (.ok ⟨"jdoe", []⟩, b) ∧
      (served.authenticate "jdoe" .blank).run Script.network start = (.ok false, b) := by
  intro start served
  have ran : (Login.attempts "jdoe" "secret" (ready []).connectors).run Script.network start =
      (.ok [], start) := rfl
  exact ⟨⟨Login.returns_of_ran ran, rfl, rfl⟩, _, rfl, rfl⟩

end Realm

end DirectoryAuth
