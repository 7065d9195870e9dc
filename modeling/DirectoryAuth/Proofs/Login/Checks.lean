import DirectoryAuth.Proofs.Failures.Failover

/-!
# Checks of a login

A server checks a login in two parts: the entry of the login is looked for, and then a session of
the user is opened with the password and closed again. What is recorded follows from how the two
parts end, whatever else happened in them.
-/

namespace DirectoryAuth

def Failure.IsRefusal : Failure → Prop
  | .connection _ | .credentials _ => True
  | _ => False

namespace Login

open Operation World

variable {σ : Type} {network : Network σ} {a b : World σ} {c : Connector}
variable {login : String} {password : Password}

/-- The operation comes to an attempt from one world to another, but for a record that it writes. -/
def Records (network : Network σ) (x : Operation σ Attempt) (a : World σ) (attempt : Attempt)
    (b : World σ) : Prop :=
  ∃ record, x.run network a = (.ok attempt, b.noted (.logged record))

theorem Records.unique {x : Operation σ Attempt} {attempt other : Attempt} {d : World σ}
    (records : Records network x a attempt b) (ran : x.run network a = (.ok other, d)) :
    other = attempt := by
  obtain ⟨record, same⟩ := records
  cases ran.symm.trans same
  rfl

theorem Records.grows {x : Operation σ Attempt} {attempt : Attempt}
    (records : Records network x a attempt b) : b.history <+: (x.run network a).2.history := by
  obtain ⟨record, same⟩ := records
  rw [same]
  exact List.prefix_append _ _

/-! ## The second part -/

def prove (c : Connector) (login : String) (password : Password) (entry : Entry) :
    Operation σ Unit := do
  (← c.openUser (some (account c login entry)) (some password)).close

section Proof

variable {entry : Entry}

theorem checkPassword_of_proved
    (proved : (prove c login password entry).run network a = (.ok (), b)) :
    Records network (checkPassword c login password entry) a ⟨c.key, .success, ""⟩ b := by
  rw [prove] at proved
  rw [Records, checkPassword, run_attempt_bind, proved]
  exact ⟨_, rfl⟩

theorem checkPassword_of_denied {error : CredentialError}
    (denied : (prove c login password entry).run network a = (.error (.credentials error), b)) :
    Records network (checkPassword c login password entry) a
      ⟨c.key, .invalidCredentials, Diagnosis.describe (error.subcode?.map Int.ofNat)⟩ b := by
  rw [prove] at denied
  rw [Records, checkPassword, run_attempt_bind, denied]
  exact ⟨_, rfl⟩

theorem checkPassword_of_refused {error : ConnectionError}
    (refused : (prove c login password entry).run network a = (.error (.connection error), b)) :
    Records network (checkPassword c login password entry) a ⟨c.key, error.status, ""⟩ b := by
  rw [prove] at refused
  rw [Records, checkPassword, run_attempt_bind, refused]
  exact run_unconnected network b c login error

/-- Only refused sessions and refused credentials are recorded. -/
theorem checkPassword_of_unmet {failure : Failure} (unmet : ¬ failure.IsRefusal)
    (failed : (prove c login password entry).run network a = (.error failure, b)) :
    (checkPassword c login password entry).run network a = (.error failure, b) := by
  rw [prove] at failed
  rw [checkPassword, run_attempt_bind, failed]
  cases failure with
  | connection error => exact absurd trivial unmet
  | credentials error => exact absurd trivial unmet
  | _ => rfl

/-- What happens while the password is proved, happens while it is checked. -/
theorem checkPassword_grows (network : Network σ) (c : Connector) (login : String)
    (password : Password) (entry : Entry) (a : World σ) :
    ((prove c login password entry).run network a).2.history <+:
      ((checkPassword c login password entry).run network a).2.history := by
  rcases proving : (prove c login password entry).run network a with ⟨outcome, b⟩
  match outcome with
  | .ok () => exact (checkPassword_of_proved proving).grows
  | .error failure =>
    by_cases met : failure.IsRefusal
    · cases failure with
      | connection error => exact (checkPassword_of_refused proving).grows
      | credentials error => exact (checkPassword_of_denied proving).grows
      | _ => exact met.elim
    · simp only [checkPassword_of_unmet met proving, List.prefix_refl]

end Proof

/-! ## The first part -/

theorem check_of_refused {error : ConnectionError}
    (resolved : (resolve c login).run network a = (.error (.connection error), b)) :
    Records network (check c login password) a ⟨c.key, error.status, ""⟩ b := by
  rw [Records, check, run_attempt_bind, resolved]
  exact run_unconnected network b c login error

theorem check_of_unsearched {error : SearchError}
    (resolved : (resolve c login).run network a = (.error (.search error), b)) :
    Records network (check c login password) a ⟨c.key, .lookupFailed, ""⟩ b := by
  rw [Records, check, run_attempt_bind, resolved]
  exact ⟨_, rfl⟩

theorem check_of_absent (resolved : (resolve c login).run network a = (.ok none, b)) :
    Records network (check c login password) a ⟨c.key, .noSuchUser, ""⟩ b := by
  rw [Records, check, run_attempt_bind, resolved]
  exact ⟨_, rfl⟩

theorem check_of_found {entry : Entry}
    (resolved : (resolve c login).run network a = (.ok (some entry), b)) :
    (check c login password).run network a =
      (checkPassword c login password entry).run network b := by
  rw [check, run_attempt_bind, resolved]

/-- Only refused sessions and failed searches are recorded. -/
theorem check_of_unmet {failure : Failure} (unmet : ¬ failure.OfAction never)
    (resolved : (resolve c login).run network a = (.error failure, b)) :
    (check c login password).run network a = (.error failure, b) := by
  rw [check, run_attempt_bind, resolved]
  cases failure with
  | connection error => exact absurd trivial unmet
  | search error => exact absurd trivial unmet
  | _ => rfl

/-- What happens while the entry is looked for, happens while the login is checked. -/
theorem check_grows (network : Network σ) (c : Connector) (login : String) (password : Password)
    (a : World σ) :
    ((resolve c login).run network a).2.history <+:
      ((check c login password).run network a).2.history := by
  rcases resolving : (resolve c login).run network a with ⟨outcome, b⟩
  match outcome with
  | .ok none => exact (check_of_absent resolving).grows
  | .ok (some entry) =>
    rw [check_of_found resolving]
    have course : Keeps network (Course network (c = ·)) (checkPassword c login password entry) :=
      checkPassword_course rfl login password entry
    exact (course b).grows
  | .error failure =>
    by_cases met : failure.OfAction never
    · cases failure with
      | connection error => exact (check_of_refused resolving).grows
      | search error => exact (check_of_unsearched resolving).grows
      | _ => exact met.elim
    · simp only [check_of_unmet met resolving, List.prefix_refl]

/-! ## Both parts -/

/-- An attempt is recorded for the server that was asked, and has one of the statuses that a server
may record. -/
structure IsOf (c : Connector) (attempt : Attempt) : Prop where
  server : attempt.server = c.key
  status : ∀ name, attempt.status ≠ .other name

theorem isOf_status (c : Connector) (error : ConnectionError) :
    IsOf c ⟨c.key, error.status, ""⟩ := by
  refine ⟨rfl, fun name => ?_⟩
  change error.status ≠ .other name
  rw [ConnectionError.status]
  split <;> simp

theorem checkPassword_isOf {entry : Entry} {attempt : Attempt}
    (ran : (checkPassword c login password entry).run network a = (.ok attempt, b)) :
    IsOf c attempt := by
  rcases proving : (prove c login password entry).run network a with ⟨outcome, next⟩
  match outcome with
  | .ok () =>
    rw [(checkPassword_of_proved proving).unique ran]
    exact ⟨rfl, nofun⟩
  | .error failure =>
    by_cases met : failure.IsRefusal
    · cases failure with
      | connection error =>
        rw [(checkPassword_of_refused proving).unique ran]
        exact isOf_status c error
      | credentials error =>
        rw [(checkPassword_of_denied proving).unique ran]
        exact ⟨rfl, nofun⟩
      | _ => exact met.elim
    · cases (checkPassword_of_unmet met proving).symm.trans ran

theorem check_isOf {attempt : Attempt}
    (ran : (check c login password).run network a = (.ok attempt, b)) : IsOf c attempt := by
  rcases resolving : (resolve c login).run network a with ⟨outcome, next⟩
  match outcome with
  | .ok none =>
    rw [(check_of_absent resolving).unique ran]
    exact ⟨rfl, nofun⟩
  | .ok (some entry) =>
    rw [check_of_found resolving] at ran
    exact checkPassword_isOf ran
  | .error failure =>
    by_cases met : failure.OfAction never
    · cases failure with
      | connection error =>
        rw [(check_of_refused resolving).unique ran]
        exact isOf_status c error
      | search error =>
        rw [(check_of_unsearched resolving).unique ran]
        exact ⟨rfl, nofun⟩
      | _ => exact met.elim
    · cases (check_of_unmet met resolving).symm.trans ran

end Login

end DirectoryAuth
