import DirectoryAuth.Proofs.Network.Rehearsal
import DirectoryAuth.Proofs.Secrecy.Settings
import DirectoryAuth.Proofs.Secrecy.Tasks

/-!
# What a host is told

A host application asks a realm for its servers and connectors, sets it up, and has it check logins
and fetch details and groups, in any order. It is told servers without their passwords and
connectors in words, and the outcome of everything else. Two hosts that know different passwords,
and whose realms are answered alike from outside, are told the same, and find the same records. The
one password that they are told of is a password that is no text, where it would have to be sent as
one to get a ticket.
-/

namespace DirectoryAuth

open Operation

variable {σ : Type} {network : Network σ}

/-! ## Hosts -/

inductive Demand where
  | servers
  | connectors
  | setUp
  | verdict (login : String) (password : Password)
  | authenticate (login : String) (password : Password)
  | fetchDetails (login : String)
  | fetchGroups (login : String)
  deriving DecidableEq, Repr

def Demand.masked : Demand → Demand
  | verdict login password => verdict login (blotted password)
  | authenticate login password => authenticate login (blotted password)
  | demand => demand

/-- The configuration of a server as it may be passed on, without the password. -/
def Server.disclosed (s : Server) : Server := { s with bindPassword := none }

/-- What a host is told, by what it asked for. Failures are told with their causes. -/
inductive Reply where
  /-- Each server as it may be passed on, and in words. -/
  | servers (outcome : Except Failure (List (Server × String)))
  /-- Each connector in words. -/
  | connectors (outcome : Except Failure (List String))
  | setUp (state : RealmState) (outcome : Except Failure Unit)
  | verdict (outcome : Except Failure Verdict)
  | authenticated (outcome : Except Failure Bool)
  | details (outcome : Except Failure Details)
  | groups (outcome : Except Failure (List String))
  deriving DecidableEq

namespace Realm

/-- The realm after a demand, and the reply. Servers that were assembled once are kept. -/
def meet (r : Realm) : Demand → Operation σ (Realm × Reply)
  | .servers => do
    match ← r.roster.servers.attempt with
    | .error failure => pure (r, .servers (.error failure))
    | .ok servers =>
      let told := servers.map fun s => (s.disclosed, s.shown)
      pure ({ r with roster := r.roster.keeping servers }, .servers (.ok told))
  | .connectors => do
    match ← r.roster.servers.attempt with
    | .error failure => pure (r, .connectors (.error failure))
    | .ok servers =>
      let outcome ← (connectAll servers).attempt
      let told := outcome.map (List.map Connector.shown)
      pure ({ r with roster := r.roster.keeping servers }, .connectors told)
  | .setUp => do
    let (r, outcome) ← r.setUp
    pure (r, .setUp r.state outcome)
  | .verdict login password => return (r, .verdict (← (r.verdict login password).attempt))
  | .authenticate login password =>
    return (r, .authenticated (← (r.authenticate login password).attempt))
  | .fetchDetails login => return (r, .details (← (r.fetchDetails login).attempt))
  | .fetchGroups login => return (r, .groups (← (r.fetchGroups login).attempt))

def meetAll : Realm → List Demand → Operation σ (List Reply)
  | _, [] => pure []
  | r, demand :: rest => do
    let (r, reply) ← r.meet demand
    return reply :: (← r.meetAll rest)

/-! ## Realms -/

def masked (r : Realm) : Realm where
  roster := ⟨r.roster.settings.masked, r.roster.assembled.map (List.map Server.masked)⟩
  state := r.state
  connectors := r.connectors.map Connector.masked
  groups := r.groups.map (List.map Connector.masked)

variable {r r' : Realm}

/-- Realms differ in secrets only where they do so in each part. -/
theorem masked_eq_iff : r.masked = r'.masked ↔
    r.roster.settings.masked = r'.roster.settings.masked ∧
      r.roster.assembled.map (List.map Server.masked) =
        r'.roster.assembled.map (List.map Server.masked) ∧
      r.state = r'.state ∧
      r.connectors.map Connector.masked = r'.connectors.map Connector.masked ∧
      r.groups.map (List.map Connector.masked) = r'.groups.map (List.map Connector.masked) := by
  simp only [masked, mk.injEq, Roster.mk.injEq, and_assoc]

/-! ## Setting up -/

theorem servers_alike (same : r.masked = r'.masked) :
    Alike network (List.map Server.masked) r.roster.servers r'.roster.servers := by
  obtain ⟨settings, assembled, -⟩ := masked_eq_iff.mp same
  rw [Roster.servers, Roster.servers]
  cases kept : r.roster.assembled with
  | none =>
    rw [kept] at assembled
    rw [Option.map_eq_none_iff.mp assembled.symm]
    exact Server.assembleAll_alike settings
  | some servers =>
    rw [kept] at assembled
    obtain ⟨servers', kept', same⟩ := Option.map_eq_some_iff.mp assembled.symm
    rw [kept']
    exact .pure same.symm

theorem connectAll_alike {servers servers' : List Server}
    (same : servers.map Server.masked = servers'.map Server.masked) :
    Alike network (List.map Connector.masked) (connectAll servers) (connectAll servers') :=
  .mapM same fun _ _ same => Connector.ofServer_alike same

theorem testAll_alike {servers servers' : List Server}
    (same : servers.map Server.masked = servers'.map Server.masked) :
    Alike network (List.map Connector.masked) (testAll servers) (testAll servers') := by
  refine (connectAll_alike same).bind fun connectors connectors' same => ?_
  refine (Alike.forM same fun _ _ same => Connector.test_alike same).bind_same fun _ => ?_
  exact .pure same

/-- Realms that differ in secrets only still do once they keep servers. -/
theorem masked_keeping (same : r.masked = r'.masked) {servers servers' : List Server}
    (kept : servers.map Server.masked = servers'.map Server.masked) :
    masked { r with roster := r.roster.keeping servers } =
      masked { r' with roster := r'.roster.keeping servers' } := by
  obtain ⟨settings, -, rest⟩ := masked_eq_iff.mp same
  exact masked_eq_iff.mpr ⟨settings, congrArg some kept, rest⟩

theorem masked_state (same : r.masked = r'.masked) (state : RealmState) :
    masked { r with state := state } = masked { r' with state := state } := by
  obtain ⟨settings, assembled, -, rest⟩ := masked_eq_iff.mp same
  exact masked_eq_iff.mpr ⟨settings, assembled, rfl, rest⟩

theorem afterFailure_alike (same : r.masked = r'.masked) (failure : Failure) :
    Alike network masked (r.afterFailure failure) (r'.afterFailure failure) := by
  refine .ite ?_ (.pure same)
  exact .logged (.pure (masked_state same _))

theorem afterSuccess_alike (same : r.masked = r'.masked) {connectors connectors' : List Connector}
    (tested : connectors.map Connector.masked = connectors'.map Connector.masked) :
    Alike network masked (r.afterSuccess connectors) (r'.afterSuccess connectors') := by
  have count : connectors.length = connectors'.length := by
    rw [← List.length_map Connector.masked, tested, List.length_map]
  have masked_mapped (connectors : List Connector) :
      (Groups.mapped connectors).map Connector.masked =
        Groups.mapped (connectors.map Connector.masked) := by
    rw [Groups.mapped, Groups.mapped, List.filter_map]
    rfl
  have mapped : (Groups.mapped connectors).map Connector.masked =
      (Groups.mapped connectors').map Connector.masked := by
    rw [masked_mapped, tested, masked_mapped]
  have empty : (Groups.mapped connectors).isEmpty = (Groups.mapped connectors').isEmpty := by
    rw [← List.isEmpty_map (f := Connector.masked), mapped, List.isEmpty_map]
  obtain ⟨settings, assembled, -, -, groups⟩ := masked_eq_iff.mp same
  rw [afterSuccess, afterSuccess, count]
  refine .logged (.pure ?_)
  refine masked_eq_iff.mpr ⟨settings, assembled, rfl, tested, ?_⟩
  rw [empty]
  split
  · exact groups
  · exact congrArg some mapped

/-- The view of a realm after a demand, and of the reply. -/
def seen {α : Type} : Realm × α → Realm × α := Prod.map masked id

theorem setUp_alike (same : r.masked = r'.masked) :
    Alike network seen r.setUp r'.setUp := by
  have begun : masked { r with state := .initializing } =
    masked { r' with state := .initializing } := masked_state same _
  have failed (r r' : Realm) (same : r.masked = r'.masked) (failure : Failure) :
      Alike network seen
        (do return (← r.afterFailure failure, Except.error (α := Unit) failure))
        (do return (← r'.afterFailure failure, Except.error (α := Unit) failure)) :=
    (afterFailure_alike same failure).bind fun _ _ same => .pure (congrArg (·, _) same)
  refine (servers_alike begun).attempt_bind (fun servers servers' kept => ?_) (failed _ _ begun)
  have keeping := masked_keeping begun kept
  refine (testAll_alike kept).attempt_bind (fun connectors connectors' tested => ?_)
    (failed _ _ keeping)
  exact (afterSuccess_alike keeping tested).bind fun _ _ same => .pure (congrArg (·, _) same)

/-! ## Demands -/

theorem checkReady_alike (same : r.masked = r'.masked) :
    Alike network id r.checkReady r'.checkReady := by
  obtain ⟨-, -, state, -, -⟩ := masked_eq_iff.mp same
  rw [checkReady, checkReady, state]
  exact .ite (.pure rfl) (.throw _)

theorem verdict_alike (same : r.masked = r'.masked) (login : String) {password password' : Password}
    (blot : blotted password = blotted password') :
    Alike network id (r.verdict login password) (r'.verdict login password') := by
  obtain ⟨-, -, -, connectors, -⟩ := masked_eq_iff.mp same
  exact (checkReady_alike same).bind_same fun _ => Login.authenticate_alike connectors login blot

theorem authenticate_alike (same : r.masked = r'.masked) (login : String)
    {password password' : Password} (blot : blotted password = blotted password') :
    Alike network id (r.authenticate login password) (r'.authenticate login password') := by
  refine (verdict_alike same login blot).bind_same fun verdict => ?_
  exact .ite (.pure rfl) (.ite (.throw _) (.pure rfl))

theorem fetchDetails_alike (same : r.masked = r'.masked) (login : String) :
    Alike network id (r.fetchDetails login) (r'.fetchDetails login) := by
  obtain ⟨-, -, -, connectors, -⟩ := masked_eq_iff.mp same
  exact (checkReady_alike same).bind_same fun _ => Details.fetch_alike connectors login

theorem fetchGroups_alike (same : r.masked = r'.masked) (login : String) :
    Alike network id (r.fetchGroups login) (r'.fetchGroups login) := by
  obtain ⟨-, -, -, -, groups⟩ := masked_eq_iff.mp same
  refine (checkReady_alike same).bind_same fun _ => ?_
  cases known : r.groups with
  | none =>
    rw [known] at groups
    rw [Option.map_eq_none_iff.mp groups.symm]
    exact .pure rfl
  | some connectors =>
    rw [known] at groups
    obtain ⟨connectors', known', same⟩ := Option.map_eq_some_iff.mp groups.symm
    rw [known']
    exact Groups.fetch_alike same.symm login

/-- A server is disclosed without secrets, both as it is and in words. -/
theorem told_servers {servers servers' : List Server}
    (same : servers.map Server.masked = servers'.map Server.masked) :
    servers.map (fun s => (s.disclosed, s.shown)) =
      servers'.map (fun s => (s.disclosed, s.shown)) := by
  have told := congrArg (List.map fun s => (s.disclosed, s.shown)) same
  rwa [List.map_map, List.map_map] at told

theorem told_connectors {outcome outcome' : Except Failure (List Connector)}
    (same : outcome.map (List.map Connector.masked) = outcome'.map (List.map Connector.masked)) :
    outcome.map (List.map Connector.shown) = outcome'.map (List.map Connector.shown) := by
  have told (outcome : Except Failure (List Connector)) :
      (outcome.map (List.map Connector.masked)).map (List.map Connector.shown) =
        outcome.map (List.map Connector.shown) := by
    cases outcome with
    | ok connectors => exact congrArg Except.ok List.map_map
    | error failure => rfl
  rw [← told, same, told]

/-- One demand is met alike: with the same reply, and with realms that again differ in secrets
only. -/
theorem meet_alike (same : r.masked = r'.masked) {demand demand' : Demand}
    (asked : demand.masked = demand'.masked) :
    Alike network seen (r.meet demand) (r'.meet demand') := by
  have replied (reply : Reply) : seen (r, reply) = seen (r', reply) := congrArg (·, reply) same
  cases demand with
  | servers =>
    cases demand' with
    | servers =>
      refine (servers_alike same).attempt_bind (fun servers servers' kept => ?_)
        fun failure => .pure (replied _)
      have told := congrArg (fun told => Reply.servers (.ok told)) (told_servers kept)
      exact .pure (Prod.ext (masked_keeping same kept) told)
    | _ => cases asked
  | connectors =>
    cases demand' with
    | connectors =>
      refine (servers_alike same).attempt_bind (fun servers servers' kept => ?_)
        fun failure => .pure (replied _)
      refine (connectAll_alike kept).attempt.bind fun outcome outcome' made => ?_
      have told := congrArg Reply.connectors (told_connectors made)
      exact .pure (Prod.ext (masked_keeping same kept) told)
    | _ => cases asked
  | setUp =>
    cases demand' with
    | setUp =>
      refine (setUp_alike same).bind fun made made' seen => .pure ?_
      obtain ⟨realms, outcomes⟩ := Prod.mk.inj seen
      obtain ⟨-, -, state, -⟩ := masked_eq_iff.mp realms
      exact Prod.ext realms (congrArg₂ Reply.setUp state outcomes)
    | _ => cases asked
  | verdict login password =>
    cases demand' with
    | verdict login' password' =>
      obtain ⟨rfl, blot⟩ := Demand.verdict.inj asked
      exact (verdict_alike same login blot).attempt_bind_same fun outcome => .pure (replied _)
    | _ => cases asked
  | authenticate login password =>
    cases demand' with
    | authenticate login' password' =>
      obtain ⟨rfl, blot⟩ := Demand.authenticate.inj asked
      exact (authenticate_alike same login blot).attempt_bind_same fun outcome => .pure (replied _)
    | _ => cases asked
  | fetchDetails login =>
    cases demand' with
    | fetchDetails login' =>
      cases Demand.fetchDetails.inj asked
      exact (fetchDetails_alike same login).attempt_bind_same fun outcome => .pure (replied _)
    | _ => cases asked
  | fetchGroups login =>
    cases demand' with
    | fetchGroups login' =>
      cases Demand.fetchGroups.inj asked
      exact (fetchGroups_alike same login).attempt_bind_same fun outcome => .pure (replied _)
    | _ => cases asked

/-- Demands that follow one another are met alike, by induction on the demands. -/
theorem meetAll_alike (same : r.masked = r'.masked) {demands demands' : List Demand}
    (asked : demands.map Demand.masked = demands'.map Demand.masked) :
    Alike network id (r.meetAll demands) (r'.meetAll demands') := by
  induction demands generalizing demands' r r' with
  | nil =>
    rw [List.map_eq_nil_iff.mp asked.symm]
    exact .pure rfl
  | cons demand rest ih =>
    obtain ⟨demand', rest', rfl, one, others⟩ := List.map_eq_cons_iff.mp asked.symm
    refine (meet_alike same one.symm).bind fun met met' same => ?_
    obtain ⟨r, reply⟩ := met
    obtain ⟨r', reply'⟩ := met'
    obtain ⟨realms, rfl⟩ := Prod.mk.inj same
    exact (ih realms others.symm).bind_same fun _ => .pure rfl

/-- What a host is told from the first demand on, and the world after it. -/
def hosted (network : Network σ) (state : σ) (settings : Settings) (demands : List Demand) :
    Except Failure (List Reply) × World σ :=
  ((ofSettings settings).meetAll demands).run network (.start state)

/-- Two hosts whose settings and demands are the same but for the texts of passwords are told the
same and find the same records at every level, as long as their calls have the same answers and
their resolutions of groups the same bound. Only passwords that are no texts are the same here. -/
theorem hosted_discreet (network : Network σ) {state state' : σ} {settings settings' : Settings}
    {demands demands' : List Demand} (same : settings.masked = settings'.masked)
    (asked : demands.map Demand.masked = demands'.map Demand.masked)
    (bounds : network.SameBounds state state')
    (answers : SameAnswers (hosted network state settings demands).2.history
      (hosted network state' settings' demands').2.history) :
    (hosted network state settings demands).1 = (hosted network state' settings' demands').1 ∧
      (hosted network state settings demands).2.records =
        (hosted network state' settings' demands').2.records := by
  have realms : (ofSettings settings).masked = (ofSettings settings').masked :=
    masked_eq_iff.mpr ⟨same, rfl, rfl, rfl, rfl⟩
  have start : (World.start state).Alike (World.start state') := ⟨rfl, rfl, rfl, rfl⟩
  obtain ⟨outcomes, worlds⟩ := (meetAll_alike realms asked).runs _ _ start bounds answers
  refine ⟨?_, worlds.records_eq⟩
  rwa [Except.map_id] at outcomes

end Realm

/-! ## Two hosts -/

namespace Rehearsal

def settings (password : String) : Settings :=
  ⟨[("ldap.url", .text "ldap://h"), ("ldap.user.baseDn", .text "dc=x"),
    ("ldap.bindDn", .text "cn=service"), ("ldap.bindPassword", .text password)]⟩

/-- A directory that knows the passwords of the service account and of one user. -/
def accounts (service user : String) : Script :=
  script { Script.Directory.empty with
    accounts := [("cn=service", service), ("uid=jdoe,dc=x", user)]
    otherwise := { Script.Rule.empty with
      items := [item (some "uid=jdoe,dc=x") [("cn", "Jane"), ("mail", "jane@x")]] } }

def demands (password : Password) : List Demand :=
  [.servers, .connectors, .setUp, .authenticate "jdoe" password, .fetchDetails "jdoe",
    .fetchGroups "jdoe"]

def lone (offset : Fin 0x800) : Password := ⟨[.surrogate offset]⟩

def ticketed : Settings := ⟨(settings "alpha").entries ++ [("ldap.authentication", .text "GSSAPI")]⟩

/-- A directory with a ticket service that knows the service account. -/
def issuing : Script :=
  { accounts "alpha" "secret" with tickets := some ⟨[("cn=service", "alpha")], []⟩ }

end Rehearsal

open Rehearsal in
/-- Two hosts with passwords of their own are told the same, also that the user is accepted. -/
theorem Realm.hosted_discreet_accepted :
    settings "alpha" ≠ settings "omega" ∧ demands "secret" ≠ demands "other" ∧
      (hosted Script.network (accounts "alpha" "secret") (settings "alpha")
        (demands "secret")).1.toOption.bind (·[3]?) = some (.authenticated (.ok true)) ∧
      (hosted Script.network (accounts "alpha" "secret") (settings "alpha")
          (demands "secret")).1 =
        (hosted Script.network (accounts "omega" "other") (settings "omega")
          (demands "other")).1 ∧
      (hosted Script.network (accounts "alpha" "secret") (settings "alpha")
          (demands "secret")).2.records =
        (hosted Script.network (accounts "omega" "other") (settings "omega")
          (demands "other")).2.records := by
  have same : (settings "alpha").masked = (settings "omega").masked := by decide +kernel
  have asked : (demands "secret").map Demand.masked = (demands "other").map Demand.masked := by
    decide
  have bounds : Script.network.SameBounds (accounts "alpha" "secret")
      (accounts "omega" "other") := by
    intro later later' reached reached'
    change later.size = later'.size
    rw [Script.size_later reached, Script.size_later reached']
    rfl
  have answers : SameAnswers
      (hosted Script.network (accounts "alpha" "secret") (settings "alpha")
        (demands "secret")).2.history
      (hosted Script.network (accounts "omega" "other") (settings "omega")
        (demands "other")).2.history := .of_masked (by decide +kernel)
  refine ⟨by decide, by decide, by decide +kernel, ?_⟩
  exact hosted_discreet Script.network same asked bounds answers

open Rehearsal in
/-- Two hosts of one realm, whose users have passwords of their own that are no texts: all calls are
the same and have the same answers, and yet each host is shown the password of its user. -/
theorem Realm.hosted_shown_surrogate :
    let first := hosted Script.network issuing ticketed [.setUp, .authenticate "jdoe" (lone 0)]
    let second := hosted Script.network issuing ticketed [.setUp, .authenticate "jdoe" (lone 1)]
    lone 0 ≠ .blank ∧ lone 1 ≠ .blank ∧ first.2.history = second.2.history ∧
      ∃ failure failure',
        first.1.toOption.bind (·[1]?) = some (.authenticated (.error failure)) ∧
        second.1.toOption.bind (·[1]?) = some (.authenticated (.error failure')) ∧
        failure.message = "'utf-8' codec can't encode character '\\ud800' in position 0: " ++
          "surrogates not allowed" ∧
        failure'.message = "'utf-8' codec can't encode character '\\ud801' in position 0: " ++
          "surrogates not allowed" := by
  refine ⟨by decide, by decide, by decide +kernel, ?_⟩
  exact ⟨.unencodable (lone 0), .unencodable (lone 1), by decide +kernel⟩

end DirectoryAuth
