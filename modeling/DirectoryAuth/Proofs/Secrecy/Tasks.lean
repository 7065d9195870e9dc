import DirectoryAuth.Proofs.Secrecy.Searches

/-!
# Secrets of tasks

Logins, details and groups are asked of connectors one after the other. Two runs of a task, over
connectors that differ in the passwords of service accounts, and in the case of a login with
different passwords of the user, come to the same results.
-/

namespace DirectoryAuth

open Operation

variable {σ α : Type} {network : Network σ}

/-! ## Lookups -/

namespace Lookup

variable {c c' : Connector} {session session' : Session}

theorem findUser_alike (sameServer : c.masked = c'.masked)
    (same : session.masked = session'.masked) (login : String) (attributes : List String) :
    Alike network id (findUser c session login attributes)
      (findUser c' session' login attributes) := by
  obtain ⟨password, -, rfl⟩ := Connector.eq_withPassword sameServer
  exact (request c login attributes).unique_alike same

theorem retrievalFailure_alike (same : c.masked = c'.masked) (login : String) (failure : Failure) :
    Alike network id (retrievalFailure c login failure) (retrievalFailure c' login failure) := by
  obtain ⟨password, -, rfl⟩ := Connector.eq_withPassword same
  cases failure with
  | connection error => exact .logged (.pure rfl)
  | search error => exact .logged (.pure rfl)
  | _ => exact .pure rfl

theorem logFailed_alike (same : c.masked = c'.masked) (login : String) (failure : Failure) :
    Alike network id (logFailed c login failure) (logFailed c' login failure) := by
  obtain ⟨password, -, rfl⟩ := Connector.eq_withPassword same
  exact .log _ _ _

variable {action action' : Session → Entry → Operation σ α}

theorem within_alike (sameServer : c.masked = c'.masked)
    (same : session.masked = session'.masked) (login : String) (attributes : List String)
    (acts : ∀ entry, Alike network id (action session entry) (action' session' entry)) :
    Alike network id (within c session login attributes action)
      (within c' session' login attributes action') := by
  refine (findUser_alike sameServer same login attributes).attempt_bind_same fun outcome => ?_
  match outcome with
  | .ok none =>
    obtain ⟨password, -, rfl⟩ := Connector.eq_withPassword sameServer
    exact .logged (.pure rfl)
  | .ok (some entry) =>
    refine (acts entry).attempt_bind_same fun outcome => ?_
    match outcome with
    | .ok value => exact .pure rfl
    | .error failure =>
      exact (retrievalFailure_alike sameServer login failure).bind_same fun _ => .throw _
  | .error failure =>
    cases failure with
    | search error => exact (logFailed_alike sameServer login _).bind_same fun _ => .pure rfl
    | _ => exact .throw _

theorem ask_alike (sameServer : c.masked = c'.masked) (login : String)
    (attributes : List String)
    (acts : ∀ s s' : Session, s.masked = s'.masked → ∀ entry,
      Alike network id (action s entry) (action' s' entry)) :
    Alike network id (ask c login attributes action) (ask c' login attributes action') := by
  refine (Connector.openService_alike sameServer).attempt_bind ?_ fun failure => ?_
  · intro s s' same
    exact Session.during_alike same (within_alike sameServer same login attributes (acts s s' same))
  · cases failure with
    | connection error => exact (logFailed_alike sameServer login _).bind_same fun _ => .pure rfl
    | _ => exact .throw _

/-- A lookup comes to the same answer, if what is done with the entry that it finds does. -/
theorem lookUpFrom_alike {connectors connectors' : List Connector}
    (same : connectors.map Connector.masked = connectors'.map Connector.masked) (login : String)
    {attributes attributes' : Connector → List String}
    {action action' : Connector → Session → Entry → Operation σ α}
    (asks : ∀ c c' : Connector, c.masked = c'.masked → attributes c = attributes' c')
    (acts : ∀ c c' : Connector, c.masked = c'.masked → ∀ s s' : Session, s.masked = s'.masked →
      ∀ entry, Alike network id (action c s entry) (action' c' s' entry))
    (failed : Option (String × Failure)) :
    Alike network id (lookUpFrom login attributes action failed connectors)
      (lookUpFrom login attributes' action' failed connectors') := by
  induction connectors generalizing connectors' failed with
  | nil =>
    rw [List.map_eq_nil_iff.mp same.symm]
    exact .throw _
  | cons c rest ih =>
    obtain ⟨c', rest', rfl, one, others⟩ := List.map_eq_cons_iff.mp same.symm
    rw [lookUpFrom, lookUpFrom, ← asks c c' one.symm]
    refine (ask_alike one.symm login (attributes c) (acts c c' one.symm)).bind_same fun answer => ?_
    match answer with
    | .found value => exact .pure rfl
    | .absent => exact ih others.symm failed
    | .failed failure =>
      obtain ⟨password, -, rfl⟩ := Connector.eq_withPassword one.symm
      exact ih others.symm _

end Lookup

/-! ## Details -/

theorem Details.fetch_alike {connectors connectors' : List Connector}
    (same : connectors.map Connector.masked = connectors'.map Connector.masked)
    (login : String) :
    Alike network id (Details.fetch connectors login) (Details.fetch connectors' login) := by
  refine .logged ?_
  refine Lookup.lookUpFrom_alike same login ?_ ?_ none
  · intro c c' same
    obtain ⟨password, -, rfl⟩ := Connector.eq_withPassword same
    rfl
  · intro c c' same s s' _ entry
    obtain ⟨password, -, rfl⟩ := Connector.eq_withPassword same
    exact .pure rfl

/-! ## Groups -/

namespace Groups

variable {s s' : Session}

theorem parameters_alike (names : List String) (member : Entry) :
    Alike network id (parameters names member) (parameters names member) := by
  rw [parameters]
  cases names.mapM (parameter member) with
  | ok values => exact .pure rfl
  | error name => exact .logged (.pure rfl)

theorem listing_alike (c : Connector) (m : GroupMapping) (search : MemberSearch)
    (same : s.masked = s'.masked) (member : Entry) :
    Alike network id (listing c m search s member) (listing c m search s' member) := by
  refine (parameters_alike _ _).bind_same fun values => ?_
  cases values with
  | none => exact .pure rfl
  | some values => exact SearchRequest.all_alike _ same

theorem named_alike (m : GroupMapping) (same : s.masked = s'.masked) (name : String) :
    Alike network id (named m s name) (named m s' name) :=
  (SearchRequest.readEntry_alike same name _).bind_same fun _ => .pure rfl

theorem listedBy_alike (m : GroupMapping) (same : s.masked = s'.masked) (member : Entry) :
    Alike network id (listedBy m s member) (listedBy m s' member) := by
  rw [listedBy, listedBy]
  cases m.memberOf with
  | none => exact .pure rfl
  | some name =>
    rw [← List.map_id_fun]
    exact .mapM_same (named_alike m same)

theorem direct_alike (c : Connector) (m : GroupMapping) (same : s.masked = s'.masked)
    (member : Entry) : Alike network id (direct c m s member) (direct c m s' member) := by
  have listed : Alike network id (listedBy m s member) (listedBy m s' member) :=
    listedBy_alike m same member
  rw [direct, direct]
  cases m.listing with
  | none =>
    exact (Alike.pure rfl).bind_same fun _ => listed.bind_same fun _ => .pure rfl
  | some search =>
    exact (listing_alike c m search same member).bind_same fun _ =>
      listed.bind_same fun _ => .pure rfl

theorem finish_alike {m : GroupMapping} {direct direct' : Entry → Operation σ (List Entry)}
    (asks : ∀ member, Alike network id (direct member) (direct' member)) (limit : Nat)
    (w : Walk) : Alike network id (w.finish m direct limit) (w.finish m direct' limit) := by
  induction limit generalizing w with
  | zero =>
    obtain ⟨seen, ids, queue⟩ := w
    cases queue with
    | nil => exact .pure rfl
    | cons member queue => exact .throw _
  | succ limit ih =>
    obtain ⟨seen, ids, queue⟩ := w
    cases queue with
    | nil => exact .pure rfl
    | cons member queue => exact (asks member).bind_same fun groups => ih _

/-- The bound of the network is the same in both runs, and no call was answered in between. -/
theorem limit_alike (m : GroupMapping) (user : Entry) :
    Alike network id (limit m user) (limit m user) where
  calls world := .refl world
  calls' world := .refl world
  runs world world' alike bounds _ := by
    refine ⟨?_, alike⟩
    have same := bounds world.network world'.network .refl .refl
    exact congrArg (fun bound => Except.ok
      (bound + ((m.memberOf.map user.values).getD []).length + 1)) same

theorem resolve_alike (c : Connector) (m : GroupMapping) (same : s.masked = s'.masked)
    (user : Entry) : Alike network id (resolve c m s user) (resolve c m s' user) :=
  (limit_alike m user).bind_same fun limit => finish_alike (direct_alike c m same) limit _

theorem fetch_alike {connectors connectors' : List Connector}
    (same : connectors.map Connector.masked = connectors'.map Connector.masked)
    (login : String) :
    Alike network id (fetch connectors login) (fetch connectors' login) := by
  have empty : connectors'.isEmpty = connectors.isEmpty := by
    rw [← List.isEmpty_map (f := Connector.masked), ← same, List.isEmpty_map]
  rw [fetch, fetch, empty]
  refine .logged (.ite (.pure rfl) ?_)
  refine (Lookup.lookUpFrom_alike same login ?_ ?_ none).bind_same fun groups =>
    .logged (.pure rfl)
  · intro c c' same
    obtain ⟨password, -, rfl⟩ := Connector.eq_withPassword same
    rfl
  · intro c c' sameServer s s' same entry
    obtain ⟨password, -, rfl⟩ := Connector.eq_withPassword sameServer
    dsimp only [Connector.withPassword]
    cases c.server.groups with
    | some m => exact resolve_alike c m same entry
    | none => exact .pure rfl

end Groups

/-! ## Logins -/

namespace Login

variable {c c' : Connector} {password password' : Password}

theorem unconnected_alike (same : c.masked = c'.masked) (login : String)
    (error : ConnectionError) :
    Alike network id (unconnected c login error) (unconnected c' login error) := by
  obtain ⟨other, -, rfl⟩ := Connector.eq_withPassword same
  refine .ite ?_ ?_
  · exact .logged (.pure rfl)
  · exact .logged (.pure rfl)

theorem resolve_alike (same : c.masked = c'.masked) (login : String) :
    Alike network id (resolve c login) (resolve c' login) := by
  refine (Connector.openService_alike same).bind fun s s' sessions => ?_
  exact Session.during_alike sessions (Lookup.findUser_alike same sessions login [])

/-- Whether a password is accepted is for the directory to say, and nothing else is told of it. -/
theorem checkPassword_alike (same : c.masked = c'.masked) (login : String)
    (blot : blotted password = blotted password') (entry : Entry) :
    Alike network id (checkPassword c login password entry)
      (checkPassword c' login password' entry) := by
  have account' : account c' login entry = account c login entry := by
    obtain ⟨other, -, rfl⟩ := Connector.eq_withPassword same
    rfl
  have opening : Alike network id
      (do (← c.openUser (some (account c login entry)) (some password)).close)
      (do (← c'.openUser (some (account c' login entry)) (some password')).close) := by
    have proved : (some password).map blotted = (some password').map blotted :=
      congrArg some blot
    rw [account']
    refine (Connector.openUser_alike same _ proved).bind ?_
    exact fun _ _ sessions => Session.close_alike sessions
  obtain ⟨other, -, rfl⟩ := Connector.eq_withPassword same
  refine opening.attempt_bind_same fun outcome => ?_
  match outcome with
  | .ok () => exact .logged (.pure rfl)
  | .error failure =>
    cases failure with
    | credentials error => exact .logged (.pure rfl)
    | connection error => exact unconnected_alike same login error
    | _ => exact .throw _

theorem check_alike (same : c.masked = c'.masked) (login : String)
    (blot : blotted password = blotted password') :
    Alike network id (check c login password) (check c' login password') := by
  refine (resolve_alike same login).attempt_bind_same fun outcome => ?_
  match outcome with
  | .ok (some entry) => exact checkPassword_alike same login blot entry
  | .ok none =>
    obtain ⟨other, -, rfl⟩ := Connector.eq_withPassword same
    exact .logged (.pure rfl)
  | .error failure =>
    cases failure with
    | connection error => exact unconnected_alike same login error
    | search error =>
      obtain ⟨other, -, rfl⟩ := Connector.eq_withPassword same
      exact .logged (.pure rfl)
    | _ => exact .throw _

theorem attempts_alike {connectors connectors' : List Connector}
    (same : connectors.map Connector.masked = connectors'.map Connector.masked)
    (login : String) (blot : blotted password = blotted password') :
    Alike network id (attempts login password connectors)
      (attempts login password' connectors') := by
  induction connectors generalizing connectors' with
  | nil =>
    rw [List.map_eq_nil_iff.mp same.symm]
    exact .pure rfl
  | cons c rest ih =>
    obtain ⟨c', rest', rfl, one, others⟩ := List.map_eq_cons_iff.mp same.symm
    refine (check_alike one.symm login blot).bind_same fun attempt => .ite (.pure rfl) ?_
    exact (ih others.symm).bind_same fun _ => .pure rfl

theorem authenticate_alike {connectors connectors' : List Connector}
    (same : connectors.map Connector.masked = connectors'.map Connector.masked)
    (login : String) (blot : blotted password = blotted password') :
    Alike network id (authenticate connectors login password)
      (authenticate connectors' login password') := by
  rw [authenticate, authenticate]
  by_cases empty : password = .blank
  · rw [if_pos empty, if_pos ((eq_blank_iff_of_blotted blot).mp empty)]
    exact .logged (.pure rfl)
  · rw [if_neg empty, if_neg (mt (eq_blank_iff_of_blotted blot).mpr empty)]
    exact (attempts_alike same login blot).bind_same fun _ => .pure rfl

end Login

end DirectoryAuth
