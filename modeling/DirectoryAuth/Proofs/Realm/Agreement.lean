import DirectoryAuth.Proofs.Lookup.Saying

/-!
# Realms in fixed networks

Where the answers to all calls that realms make are fixed, it does not matter when something is
asked of a realm. The same servers are assembled from settings, the same connectors are made and
tested, and a login is judged in the same way, whatever was done before.
-/

namespace DirectoryAuth

open Operation World

variable {σ α : Type} {network : Network σ} {state : σ} {p q : Nat} {a b : World σ}

/-- Realms make the call. Files are none of their business, nor is the terminal. -/
def Call.IsOfRealm : Call → Prop
  | .readFile _ | .writeFile _ _ | .askPassword _ => False
  | _ => True

theorem Call.IsSession.isOfRealm (call : Call) (session : call.IsSession) : call.IsOfRealm := by
  cases call <;> trivial

theorem Network.Fixed.sessions (fixed : network.Fixed Call.IsOfRealm state) :
    network.Fixed Call.IsSession state :=
  fixed.mono Call.IsSession.isOfRealm

theorem Operation.Agree.perform_same {kind : Call → Prop} (fixed : network.Fixed kind state)
    {call : Call} (may : kind call) :
    Agree network state p q Eq (Operation.perform call) (Operation.perform call) :=
  (Agree.perform fixed may may rfl).mono fun _ _ => eq_of_heq

/-! ## Servers -/

namespace Server

theorem discover_agree (fixed : network.Fixed Call.IsOfRealm state) (realm : String) :
    Agree network state p q Eq (Discovery.discover realm) (Discovery.discover realm) := by
  have asked : Agree network state p q Eq
      (perform (.lookUpService (Discovery.serviceName realm)))
      (perform (.lookUpService (Discovery.serviceName realm))) := .perform_same fixed trivial
  refine asked.attempt_bind (fun records _ same => ?_) fun failure => ?_
  · cases same
    exact (Agree.log _ _ _ _).bind_same fun _ => .pure rfl
  · cases failure with
    | outside fault =>
      cases fault with
      | nameService message => exact (Agree.log _ _ _ _).bind_same fun _ => .pure rfl
      | _ => exact .throw _
    | _ => exact .throw _

theorem findUrls_agree (fixed : network.Fixed Call.IsOfRealm state) (v : View) :
    Agree network state p q Eq (findUrls v) (findUrls v) := by
  rw [findUrls]
  cases v.text? "url" with
  | some text => exact .pure rfl
  | none =>
    rw [discoverUrls]
    dsimp only
    cases v.text? "realm" with
    | none => exact .throw _
    | some realm =>
      refine (discover_agree fixed realm).bind_same fun urls => .ite (.throw _) ?_
      exact (Agree.log _ _ _ _).bind_same fun _ => .pure rfl

theorem reading_agree (outcome : Except SettingError α) :
    Agree network state p q Eq (reading outcome) (reading outcome) :=
  .ofOutcome (.of_eq rfl)

theorem advise_agree (component : Component) (advice : Option String) :
    Agree network state p q Eq (advise component advice) (advise component advice) := by
  cases advice with
  | some text => exact .log _ _ _ _
  | none => exact .pure rfl

theorem assemble_agree (fixed : network.Fixed Call.IsOfRealm state) (settings : Settings)
    (key : String) :
    Agree network state p q Eq (assemble settings key) (assemble settings key) := by
  refine (findUrls_agree fixed _).bind_same fun urls => ?_
  refine .bind_same (.bind_same (reading_agree _) fun _ => ?_) fun users => ?_
  · exact (advise_agree _ _).bind_same fun _ => .pure rfl
  refine .bind_same (.bind_same (advise_agree _ _) fun _ => reading_agree _) fun groups => ?_
  refine (reading_agree _).bind_same fun server => ?_
  exact (Agree.log _ _ _ _).bind_same fun _ => .pure rfl

theorem assembleAll_agree (fixed : network.Fixed Call.IsOfRealm state) (settings : Settings) :
    Agree network state p q Eq (assembleAll settings) (assembleAll settings) := by
  refine (reading_agree _).bind_same fun keys => ?_
  exact .mapM_eq fun key => assemble_agree fixed settings key

end Server

theorem Roster.servers_agree (fixed : network.Fixed Call.IsOfRealm state) (r : Roster) :
    Agree network state p q Eq r.servers r.servers := by
  rw [servers]
  cases r.assembled with
  | some servers => exact .pure rfl
  | none => exact Server.assembleAll_agree fixed r.settings

/-! ## Connectors -/

theorem Connector.ofServer_agree (fixed : network.Fixed Call.IsOfRealm state) (server : Server) :
    Agree network state p q Eq (ofServer server) (ofServer server) := by
  rw [ofServer]
  cases mechanismError? server with
  | some error => exact .throw _
  | none =>
    have each (url : String) : Agree network state p q Eq
        (perform (.declareServer (endpoint server url)))
        (perform (.declareServer (endpoint server url))) := .perform_same fixed trivial
    have pool : Agree network state p q Eq (perform (.declarePool server.urls))
        (perform (.declarePool server.urls)) := .perform_same fixed trivial
    have declared : Agree network state p q Eq (declare server) (declare server) :=
      .bind_same (.forM_same each) fun _ => .ite pool (.pure rfl)
    exact declared.bind_same fun _ => .pure rfl

/-! ## Logins -/

namespace Login

theorem unconnected_agree (c : Connector) (login : String) (error : ConnectionError) :
    Agree network state p q Eq (unconnected c login error) (unconnected c login error) :=
  .ite ((Agree.log _ _ _ _).bind_same fun _ => .pure rfl)
    ((Agree.log _ _ _ _).bind_same fun _ => .pure rfl)

theorem checkPassword_agree (fixed : network.Fixed Call.IsSession state) (c : Connector)
    (login : String) (password : Password) (entry : Entry) :
    Agree network state p q Eq (checkPassword c login password entry)
      (checkPassword c login password entry) := by
  have opening := c.openSession_close_agree (p := p) (q := q) fixed .user
    (some (account c login entry)) (some password)
  refine opening.attempt_bind (fun _ _ _ => (Agree.log _ _ _ _).bind_same fun _ => .pure rfl)
    fun failure => ?_
  cases failure with
  | credentials error => exact (Agree.log _ _ _ _).bind_same fun _ => .pure rfl
  | connection error => exact unconnected_agree c login error
  | _ => exact .throw _

theorem check_agree (fixed : network.Fixed Call.IsSession state) (c : Connector)
    (login : String) (password : Password) :
    Agree network state p q Eq (check c login password) (check c login password) := by
  have resolved : Agree network state p q Eq (resolve c login) (resolve c login) :=
    Lookup.locate_agree fixed (fixed.overlooks _) c login
  refine resolved.attempt_bind (fun found _ same => ?_) fun failure => ?_
  · cases same
    cases found with
    | none => exact (Agree.log _ _ _ _).bind_same fun _ => .pure rfl
    | some entry => exact checkPassword_agree fixed c login password entry
  · cases failure with
    | connection error => exact unconnected_agree c login error
    | search error => exact (Agree.log _ _ _ _).bind_same fun _ => .pure rfl
    | _ => exact .throw _

theorem attempts_agree (fixed : network.Fixed Call.IsSession state) (login : String)
    (password : Password)
    (connectors : List Connector) :
    Agree network state p q Eq (attempts login password connectors)
      (attempts login password connectors) := by
  induction connectors with
  | nil => exact .pure rfl
  | cons c rest ih =>
    refine (check_agree fixed c login password).bind_same fun attempt => .ite (.pure rfl) ?_
    exact ih.bind_same fun _ => .pure rfl

theorem authenticate_agree (fixed : network.Fixed Call.IsSession state)
    (connectors : List Connector) (login : String) (password : Password) :
    Agree network state p q Eq (authenticate connectors login password)
      (authenticate connectors login password) := by
  refine .ite ((Agree.log _ _ _ _).bind_same fun _ => .pure rfl) ?_
  exact (attempts_agree fixed login password connectors).bind_same fun _ => .pure rfl

end Login

/-! ## Realms -/

namespace Realm

theorem connectAll_agree (fixed : network.Fixed Call.IsOfRealm state) (servers : List Server) :
    Agree network state p q Eq (connectAll servers) (connectAll servers) :=
  .mapM_eq fun server => Connector.ofServer_agree fixed server

theorem testAll_agree (fixed : network.Fixed Call.IsOfRealm state) (servers : List Server) :
    Agree network state p q Eq (testAll servers) (testAll servers) := by
  refine (connectAll_agree fixed servers).bind_same fun connectors => ?_
  refine .bind_same (.forM_same fun c => Connector.test_agree fixed.sessions c) fun _ => ?_
  exact .pure rfl

theorem setUp_agree (fixed : network.Fixed Call.IsOfRealm state) (r : Realm) :
    Agree network state p q Eq r.setUp r.setUp := by
  have failed (r : Realm) (failure : Failure) : Agree network state p q Eq
      (do return (← r.afterFailure failure, (.error failure : Except Failure Unit)))
      (do return (← r.afterFailure failure, .error failure)) := by
    refine .bind_same (.ite ?_ (.pure rfl)) fun _ => .pure rfl
    exact (Agree.log _ _ _ _).bind_same fun _ => .pure rfl
  refine (r.roster.servers_agree fixed).attempt_bind (fun servers _ same => ?_) fun failure => ?_
  · cases same
    refine (testAll_agree fixed servers).attempt_bind (fun _ _ same => ?_) fun failure => ?_
    · cases same
      refine .bind_same (.bind_same (Agree.log _ _ _ _) fun _ => .pure rfl) fun _ => ?_
      exact .pure rfl
    · exact failed _ failure
  · exact failed _ failure

theorem verdict_agree (fixed : network.Fixed Call.IsSession state) (r : Realm)
    (login : String) (password : Password) :
    Agree network state p q Eq (r.verdict login password) (r.verdict login password) := by
  refine .bind_same (.ite (.pure rfl) (.throw _)) fun _ => ?_
  exact Login.authenticate_agree fixed r.connectors login password

end Realm

end DirectoryAuth
