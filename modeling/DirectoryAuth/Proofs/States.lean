import DirectoryAuth.Proofs.Failures.Conclusion
import DirectoryAuth.Proofs.Secrecy.Host
import Mathlib.Data.List.Induction

/-!
# The states of a realm

A host may set a realm up as often as it likes, and in between ask anything else of it, while the
settings and the network change. Whether the realm is ready, and what it offers then, is decided by
its latest setting up alone. That holds although what is known of groups is never forgotten: servers
that were assembled once are kept, so whoever knows of groups does so in every later setting up too.
-/

namespace DirectoryAuth

open Operation

variable {σ : Type} {network : Network σ} {a b : World σ}

/-! ## What a realm offers -/

namespace Realm

variable {α β : Type}

/-- What is offered to whoever finds the realm ready. -/
def offered (r : Realm) (offer : α) : Operation σ α := do
  r.checkReady
  pure offer

def authenticator (r : Realm) : Operation σ (List Connector) := r.offered r.connectors

def usersProvider (r : Realm) : Operation σ (List Connector) := r.offered r.connectors

def groupsProvider (r : Realm) : Operation σ (Option (List Connector)) := r.offered r.groups

theorem offered_of_ready {r : Realm} (ready : r.state = .ready) (offer : α) (a : World σ) :
    (r.offered offer).run network a = (.ok offer, a) := by
  rw [offered, checkReady, if_pos ready]
  rfl

theorem offered_of_not_ready {r : Realm} (unready : r.state ≠ .ready) (offer : α) (a : World σ) :
    (r.offered offer).run network a = (.error (.notReady r.state.name), a) := by
  rw [offered, checkReady, if_neg unready]
  rfl

theorem offered_bind (r : Realm) (offer : α) (f : α → Operation σ β) :
    (r.offered offer >>= f) = r.checkReady >>= fun _ => f offer := by
  rw [offered, bind_assoc]
  rfl

/-! Whatever is done with a ready realm is done with what it offers. -/

theorem verdict_eq (r : Realm) (login : String) (password : Password) :
    r.verdict login password = (r.authenticator >>= fun connectors =>
      Login.authenticate connectors login password : Operation σ Verdict) := by
  rw [authenticator, offered_bind]
  rfl

theorem fetchDetails_eq (r : Realm) (login : String) :
    r.fetchDetails login = (r.usersProvider >>= fun connectors =>
      Details.fetch connectors login : Operation σ Details) := by
  rw [usersProvider, offered_bind]
  rfl

theorem fetchGroups_eq (r : Realm) (login : String) :
    r.fetchGroups login = (r.groupsProvider >>= fun
      | none => pure []
      | some connectors => Groups.fetch connectors login : Operation σ (List String)) := by
  rw [groupsProvider, offered_bind]
  rfl

/-- Whatever is asked of the realm is refused, and nothing is done. -/
structure Refuses (network : Network σ) (r : Realm) (a : World σ) : Prop where
  authenticator : r.authenticator.run network a = (.error (.notReady r.state.name), a)
  usersProvider : r.usersProvider.run network a = (.error (.notReady r.state.name), a)
  groupsProvider : r.groupsProvider.run network a = (.error (.notReady r.state.name), a)
  authenticate : ∀ login password,
    (r.authenticate login password).run network a = (.error (.notReady r.state.name), a)
  fetchDetails : ∀ login,
    (r.fetchDetails login).run network a = (.error (.notReady r.state.name), a)
  fetchGroups : ∀ login,
    (r.fetchGroups login).run network a = (.error (.notReady r.state.name), a)

theorem refuses_of_not_ready {r : Realm} (unready : r.state ≠ .ready) (network : Network σ)
    (a : World σ) : r.Refuses network a := by
  have refused {α : Type} (offer : α) :
      (r.offered offer).run network a = (.error (.notReady r.state.name), a) :=
    offered_of_not_ready unready offer a
  constructor
  · exact refused _
  · exact refused _
  · exact refused _
  · intro login password
    have judged : (r.verdict login password).run network a =
        (.error (.notReady r.state.name), a) := by
      rw [verdict_eq]
      exact run_bind_of_error (refused _)
    exact run_bind_of_error judged
  · intro login
    rw [fetchDetails_eq]
    exact run_bind_of_error (refused _)
  · intro login
    rw [fetchGroups_eq]
    exact run_bind_of_error (refused _)

/-- Logins and details are had over the servers, in order, and groups over those of them that know
of groups, unless none does. -/
structure Offers (network : Network σ) (r : Realm) (a : World σ) (servers : List Server) :
    Prop where
  authenticator : r.authenticator.run network a = (.ok (servers.map Connector.mk), a)
  usersProvider : r.usersProvider.run network a = (.ok (servers.map Connector.mk), a)
  groupsProvider : ∃ groups, r.groupsProvider.run network a = (.ok groups, a) ∧
    (groups = none ↔ ∀ server ∈ servers, server.groups = none) ∧
    ∀ known, groups = some known → known = Groups.mapped (servers.map Connector.mk)

end Realm

namespace Groups

def known (connectors : List Connector) : Option (List Connector) :=
  if (mapped connectors).isEmpty then none else some (mapped connectors)

theorem known_eq_none_iff {servers : List Server} :
    known (servers.map Connector.mk) = none ↔ ∀ server ∈ servers, server.groups = none := by
  simp [known, mapped]

theorem eq_mapped_of_known {connectors found : List Connector}
    (some : known connectors = some found) : found = mapped connectors := by
  rw [known] at some
  split at some
  · cases some
  · exact (Option.some.inj some).symm

end Groups

theorem Realm.offers_of_ready {r : Realm} {servers : List Server} (ready : r.state = .ready)
    (connectors : r.connectors = servers.map Connector.mk)
    (groups : r.groups = Groups.known (servers.map Connector.mk)) (network : Network σ)
    (a : World σ) : r.Offers network a servers := by
  have offered {α : Type} (offer : α) : (r.offered offer).run network a = (.ok offer, a) :=
    offered_of_ready ready offer a
  constructor
  · rw [← connectors]
    exact offered _
  · rw [← connectors]
    exact offered _
  · refine ⟨_, offered _, ?_, ?_⟩
    · rw [groups]
      exact Groups.known_eq_none_iff
    · intro found some
      exact Groups.eq_mapped_of_known (groups.symm.trans some)

/-! ## Rosters -/

namespace Roster

variable {r r' : Roster} {servers : List Server}

/-- What may become of a roster: its settings change, or it keeps the servers that it has. -/
inductive Move (network : Network σ) (a : World σ) (r : Roster) : Roster → Prop
  | settings (settings : Settings) : Move network a r { r with settings := settings }
  | keeping {servers : List Server} {b : World σ}
      (assembling : r.servers.run network a = (.ok servers, b)) :
      Move network a r (r.keeping servers)

theorem Move.refl (r : Roster) : Move network a r r := .settings r.settings

/-- Servers that a roster has are those that it kept, or they are assembled there and then. -/
theorem servers_cases (assembling : r.servers.run network a = (.ok servers, b)) :
    r.assembled = some servers ∨
      r.assembled = none ∧
        (Server.assembleAll r.settings).run network a = (.ok servers, b) := by
  rw [Roster.servers] at assembling
  cases kept : r.assembled with
  | some others =>
    rw [kept] at assembling
    cases assembling
    exact .inl rfl
  | none =>
    rw [kept] at assembling
    exact .inr ⟨rfl, assembling⟩

/-- Servers that a roster kept are those that it has. -/
theorem servers_unique (kept : r.assembled = some servers) {others : List Server}
    (assembling : r.servers.run network a = (.ok others, b)) : others = servers := by
  rcases servers_cases assembling with again | ⟨none, -⟩
  · exact Option.some.inj (again.symm.trans kept)
  · rw [none] at kept
    cases kept

/-- Servers that were assembled once are kept. -/
theorem Move.assembled (move : Move network a r r') (kept : r.assembled = some servers) :
    r'.assembled = some servers := by
  cases move with
  | settings settings => exact kept
  | keeping assembling => exact congrArg some (servers_unique kept assembling)

theorem Move.origin (move : Move network a r r') (kept : r'.assembled = some servers) :
    r.assembled = some servers ∨
      ∃ b, (Server.assembleAll r.settings).run network a = (.ok servers, b) := by
  cases move with
  | settings settings => exact .inl kept
  | keeping assembling =>
    cases kept
    rcases servers_cases assembling with kept | ⟨-, assembled⟩
    · exact .inl kept
    · exact .inr ⟨_, assembled⟩

end Roster

/-! ## Realms whose groups are known -/

namespace Realm

variable {r r' : Realm} {outcome : Except Failure Unit} {servers : List Server}

/-- The realm knows nothing of groups, or what the servers that it keeps know of them. -/
def Informed (r : Realm) : Prop :=
  r.groups = none ∨ ∃ servers, r.roster.assembled = some servers ∧
    r.groups = Groups.known (servers.map Connector.mk)

theorem Informed.moved (informed : r.Informed) (move : r.roster.Move network a r'.roster)
    (groups : r'.groups = r.groups) : r'.Informed := by
  rcases informed with none | ⟨servers, kept, same⟩
  · exact .inl (groups.trans none)
  · exact .inr ⟨servers, move.assembled kept, groups.trans same⟩

/-- What an informed realm may know of groups, the servers that it has know. -/
theorem Informed.groups_cases (informed : r.Informed)
    (assembling : r.roster.servers.run network a = (.ok servers, b)) :
    r.groups = none ∨ r.groups = Groups.known (servers.map Connector.mk) := by
  rcases informed with none | ⟨others, kept, same⟩
  · exact .inl none
  · rw [Roster.servers_unique kept assembling]
    exact .inr same

/-! ### Setting up -/

namespace SettingUp

theorem ready_iff (way : SettingUp network r a r' outcome b) :
    r'.state = .ready ↔ outcome = .ok () := by
  have ended := way.ended
  generalize r'.state = state at ended
  cases ended with
  | ready tight => simp
  | failed tight foreseen => simp
  | unfinished leaked => simp

/-- Where setting up fails, what was offered before is not replaced. -/
theorem move_of_error {failure : Failure} (way : SettingUp network r a r' (.error failure) b) :
    r.roster.Move network a r'.roster ∧ r'.groups = r.groups := by
  cases way with
  | unassembled assembling ending =>
    obtain ⟨state, rfl⟩ := afterFailure_realm ending
    exact ⟨.refl _, rfl⟩
  | untested assembling testing ending =>
    obtain ⟨state, rfl⟩ := afterFailure_realm ending
    exact ⟨.keeping assembling, rfl⟩

theorem move (way : SettingUp network r a r' outcome b) :
    r.roster.Move network a r'.roster := by
  cases outcome with
  | error failure => exact way.move_of_error.1
  | ok _ =>
    cases way with
    | tested assembling testing ending =>
      cases ending
      exact .keeping assembling

/-- A realm that was set up offers the servers that it had there and then. -/
theorem offer (way : SettingUp network r a r' (.ok ()) b) (informed : r.Informed) :
    ∃ servers, (r.roster.servers.run network a).1 = .ok servers ∧
      r'.roster.assembled = some servers ∧ r'.connectors = servers.map Connector.mk ∧
      r'.groups = Groups.known (servers.map Connector.mk) := by
  cases way with
  | @tested servers connectors _ _ _ _ assembling testing ending =>
    have made : connectors = servers.map Connector.mk := testAll_eq_ok testing
    cases ending
    refine ⟨servers, by rw [assembling], rfl, made, ?_⟩
    rw [made]
    -- What was known before stays where these servers know of no groups.
    by_cases empty : (Groups.mapped (servers.map Connector.mk)).isEmpty
    · have unknown : Groups.known (servers.map Connector.mk) = none := if_pos empty
      have before := informed.groups_cases assembling
      rw [unknown, or_self] at before
      rw [unknown]
      exact (if_pos empty).trans before
    · exact (if_neg empty).trans (if_neg empty).symm

theorem informed (way : SettingUp network r a r' outcome b) (informed : r.Informed) :
    r'.Informed := by
  cases outcome with
  | error failure =>
    obtain ⟨move, groups⟩ := way.move_of_error
    exact informed.moved move groups
  | ok _ =>
    obtain ⟨servers, -, kept, -, groups⟩ := way.offer informed
    exact .inr ⟨servers, kept, groups⟩

end SettingUp

/-! ### Demands -/

/-- Demands that do not set the realm up change nothing but its roster. -/
theorem meet_of_other (r : Realm) {demand : Demand} (other : demand ≠ .setUp)
    (network : Network σ) (a : World σ) :
    ∃ roster reply b, r.roster.Move network a roster ∧
      (r.meet demand).run network a = (.ok ({ r with roster := roster }, reply), b) := by
  cases demand with
  | setUp => exact absurd rfl other
  | servers =>
    rw [meet, run_attempt_bind]
    rcases assembling : r.roster.servers.run network a with ⟨outcome, next⟩
    cases outcome with
    | error failure => exact ⟨_, _, _, .refl _, rfl⟩
    | ok servers => exact ⟨_, _, _, .keeping assembling, rfl⟩
  | connectors =>
    rw [meet, run_attempt_bind]
    rcases assembling : r.roster.servers.run network a with ⟨outcome, next⟩
    cases outcome with
    | error failure => exact ⟨_, _, _, .refl _, rfl⟩
    | ok servers =>
      dsimp only
      rw [run_attempt_bind]
      exact ⟨_, _, _, .keeping assembling, rfl⟩
  | _ =>
    rw [meet, run_attempt_bind]
    exact ⟨_, _, _, .refl _, rfl⟩

end Realm

/-! ## Acts -/

/-- What may happen around a realm: something is asked of it, its settings are replaced, or the
network changes. As a network answers from its state, any change of it is one of the state. -/
inductive Act (σ : Type) where
  | demand (demand : Demand)
  | authenticator
  | usersProvider
  | groupsProvider
  | reconfigure (settings : Settings)
  | rewire (state : σ)

def Act.setsUp : Act σ → Bool
  | demand .setUp => true
  | _ => false

theorem Act.eq_setUp {act : Act σ} (setsUp : act.setsUp = true) : act = .demand .setUp := by
  unfold Act.setsUp at setsUp
  split at setsUp
  · rfl
  · cases setsUp

/-- The latest setting up among some acts is the one behind the `earlier` acts. -/
def Act.Latest (acts earlier : List (Act σ)) : Prop :=
  ∃ later, acts = earlier ++ .demand .setUp :: later ∧ ∀ act ∈ later, act.setsUp = false

/-- Among some acts there is a latest setting up, or none at all. -/
theorem Act.latest_or_never (acts : List (Act σ)) :
    (∀ act ∈ acts, act.setsUp = false) ∨ ∃ earlier, Latest acts earlier := by
  induction acts with
  | nil => exact .inl fun _ member => nomatch member
  | cons act rest ih =>
    rcases ih with never | ⟨earlier, later, rfl, others⟩
    · cases first : act.setsUp with
      | false => exact .inl (List.forall_mem_cons.mpr ⟨first, never⟩)
      | true =>
        rw [eq_setUp first]
        exact .inr ⟨[], rest, rfl, never⟩
    · exact .inr ⟨act :: earlier, later, rfl, others⟩

structure Site (σ : Type) where
  realm : Realm
  world : World σ

namespace Site

def fresh (settings : Settings) (state : σ) : Site σ := ⟨.ofSettings settings, .start state⟩

def after (network : Network σ) (site : Site σ) : Act σ → Site σ
  | .demand demand =>
    match (site.realm.meet demand).run network site.world with
    | (.ok (realm, _), world) => ⟨realm, world⟩
    | (.error _, world) => ⟨site.realm, world⟩
  | .authenticator => ⟨site.realm, (site.realm.authenticator.run network site.world).2⟩
  | .usersProvider => ⟨site.realm, (site.realm.usersProvider.run network site.world).2⟩
  | .groupsProvider => ⟨site.realm, (site.realm.groupsProvider.run network site.world).2⟩
  | .reconfigure settings =>
    ⟨{ site.realm with roster := { site.realm.roster with settings := settings } }, site.world⟩
  | .rewire state => ⟨site.realm, { site.world with network := state }⟩

def afterAll (network : Network σ) (site : Site σ) (acts : List (Act σ)) : Site σ :=
  acts.foldl (after network) site

variable {site : Site σ} {act : Act σ} {acts : List (Act σ)}

/-! ### Single acts -/

theorem after_setUp (network : Network σ) (site : Site σ) :
    ∃ outcome, site.realm.setUp.run network site.world =
        (.ok ((site.after network (.demand .setUp)).realm, outcome),
          (site.after network (.demand .setUp)).world) ∧
      Realm.SettingUp network site.realm site.world (site.after network (.demand .setUp)).realm
        outcome (site.after network (.demand .setUp)).world := by
  obtain ⟨realm, outcome, world, ran, way⟩ := Realm.setUp_settingUp network site.realm site.world
  have met : (site.realm.meet .setUp).run network site.world =
      (.ok (realm, .setUp realm.state outcome), world) := run_bind_of_ok ran
  rw [after, met]
  exact ⟨outcome, ran, way⟩

/-- Acts that do not set the realm up change nothing but its roster. -/
theorem after_of_other (other : act.setsUp = false) :
    ∃ roster, site.realm.roster.Move network site.world roster ∧
      (site.after network act).realm = { site.realm with roster := roster } := by
  cases act with
  | demand demand =>
    have others : demand ≠ .setUp := by
      rintro rfl
      cases other
    obtain ⟨roster, reply, b, move, met⟩ := site.realm.meet_of_other others network site.world
    refine ⟨roster, move, ?_⟩
    rw [after, met]
  | reconfigure settings => exact ⟨_, .settings settings, rfl⟩
  | _ => exact ⟨_, .refl _, rfl⟩

/-- Whatever happens, the roster of the realm makes a move. -/
theorem after_move (network : Network σ) (site : Site σ) (act : Act σ) :
    site.realm.roster.Move network site.world (site.after network act).realm.roster := by
  cases kind : act.setsUp with
  | false =>
    obtain ⟨roster, move, same⟩ := after_of_other kind
    rw [same]
    exact move
  | true =>
    obtain ⟨outcome, -, way⟩ := after_setUp network site
    rw [Act.eq_setUp kind]
    exact way.move

/-- The state of the realm and what it offers are the same at two sites. -/
structure Unmoved (before after : Site σ) : Prop where
  state : after.realm.state = before.realm.state
  connectors : after.realm.connectors = before.realm.connectors
  groups : after.realm.groups = before.realm.groups

theorem after_unmoved (network : Network σ) (site : Site σ) (other : act.setsUp = false) :
    Unmoved site (site.after network act) := by
  obtain ⟨roster, -, same⟩ := after_of_other other
  constructor
  · rw [same]
  · rw [same]
  · rw [same]

theorem after_informed (informed : site.realm.Informed) (act : Act σ) :
    (site.after network act).realm.Informed := by
  have move := after_move network site act
  cases kind : act.setsUp with
  | false => exact informed.moved move (after_unmoved network site kind).groups
  | true =>
    obtain ⟨outcome, -, way⟩ := after_setUp network site
    rw [Act.eq_setUp kind]
    exact way.informed informed

/-! ### Any number of acts -/

theorem afterAll_append (network : Network σ) (site : Site σ) (earlier later : List (Act σ)) :
    site.afterAll network (earlier ++ later) =
      (site.afterAll network earlier).afterAll network later :=
  List.foldl_append

/-- What every act preserves, any number of acts preserves. -/
theorem afterAll_induction (P : Site σ → Prop) (start : P site)
    (step : ∀ site, P site → ∀ act ∈ acts, P (site.after network act)) :
    P (site.afterAll network acts) := by
  induction acts generalizing site with
  | nil => exact start
  | cons act rest ih =>
    refine ih (step site start act List.mem_cons_self) ?_
    intro site known act member
    exact step site known act (List.mem_cons_of_mem _ member)

theorem afterAll_unmoved (network : Network σ) (site : Site σ)
    (others : ∀ act ∈ acts, act.setsUp = false) : Unmoved site (site.afterAll network acts) := by
  refine afterAll_induction (Unmoved site) ⟨rfl, rfl, rfl⟩ ?_
  intro middle ⟨state, connectors, groups⟩ act member
  have next := after_unmoved network middle (others act member)
  exact ⟨next.state.trans state, next.connectors.trans connectors, next.groups.trans groups⟩

theorem afterAll_informed (network : Network σ) (settings : Settings) (state : σ)
    (acts : List (Act σ)) : ((fresh settings state).afterAll network acts).realm.Informed := by
  have start : (fresh settings state).realm.Informed := .inl rfl
  refine afterAll_induction (fun site => site.realm.Informed) start ?_
  exact fun site informed act _ => after_informed informed act

def Assembles (network : Network σ) (site : Site σ) (servers : List Server) : Prop :=
  ∃ b, (Server.assembleAll site.realm.roster.settings).run network site.world = (.ok servers, b)

/-- Servers that a realm keeps were assembled at some site on the way. -/
theorem afterAll_origin {servers : List Server} {settings : Settings} {state : σ}
    (kept : ((fresh settings state).afterAll network acts).realm.roster.assembled =
      some servers) :
    ∃ prior, prior <+: acts ∧
      ((fresh settings state).afterAll network prior).Assembles network servers := by
  induction acts using List.reverseRecOn with
  | nil => cases kept
  | append_singleton acts act ih =>
    have move := after_move network ((fresh settings state).afterAll network acts) act
    rw [afterAll_append] at kept
    rcases move.origin kept with before | ⟨b, assembled⟩
    · obtain ⟨prior, within, assembles⟩ := ih before
      exact ⟨prior, within.trans (List.prefix_append _ _), assembles⟩
    · exact ⟨acts, List.prefix_append _ _, b, assembled⟩

theorem servers_origin {servers : List Server} {settings : Settings} {state : σ}
    (assembling :
      (((fresh settings state).afterAll network acts).realm.roster.servers.run network
        ((fresh settings state).afterAll network acts).world).1 = .ok servers) :
    ∃ prior, prior <+: acts ∧
      ((fresh settings state).afterAll network prior).Assembles network servers := by
  rcases Roster.servers_cases (Prod.ext assembling rfl) with kept | ⟨-, assembled⟩
  · exact afterAll_origin kept
  · exact ⟨acts, List.prefix_refl _, _, assembled⟩

/-- The latest setting up decides the state of the realm, and what it offers. -/
theorem afterAll_latest {earlier : List (Act σ)} (latest : Act.Latest acts earlier) :
    Unmoved ((site.afterAll network earlier).after network (.demand .setUp))
      (site.afterAll network acts) := by
  obtain ⟨later, rfl, others⟩ := latest
  rw [afterAll_append]
  exact afterAll_unmoved network _ others

def Succeeds (network : Network σ) (site : Site σ) : Prop :=
  ∃ realm world, site.realm.setUp.run network site.world = (.ok (realm, .ok ()), world)

theorem ready_iff_succeeds (network : Network σ) (site : Site σ) :
    (site.after network (.demand .setUp)).realm.state = .ready ↔ site.Succeeds network := by
  obtain ⟨outcome, ran, way⟩ := after_setUp network site
  rw [way.ready_iff]
  constructor
  · rintro rfl
    exact ⟨_, _, ran⟩
  · rintro ⟨realm, world, succeeded⟩
    cases ran.symm.trans succeeded
    rfl

/-- A realm that is ready was set up, and so for a last time. -/
theorem latest_of_ready {settings : Settings} {state : σ}
    (ready : ((fresh settings state).afterAll network acts).realm.state = .ready) :
    ∃ earlier, Act.Latest acts earlier := by
  rcases Act.latest_or_never acts with never | latest
  · have unready := (afterAll_unmoved network (fresh settings state) never).state
    rw [ready] at unready
    cases unready
  · exact latest

/-- A realm that is ready has connectors to the servers that its latest setting up had, and knows of
groups what these know. -/
theorem servers_of_latest {settings : Settings} {state : σ} {earlier : List (Act σ)}
    (latest : Act.Latest acts earlier)
    (ready : ((fresh settings state).afterAll network acts).realm.state = .ready) :
    let now := (fresh settings state).afterAll network acts
    let before := (fresh settings state).afterAll network earlier
    ∃ servers, (before.realm.roster.servers.run network before.world).1 = .ok servers ∧
      now.realm.connectors = servers.map Connector.mk ∧
      now.realm.groups = Groups.known (servers.map Connector.mk) := by
  intro now before
  have decided : Unmoved (before.after network (.demand .setUp)) now := afterAll_latest latest
  have informed : before.realm.Informed := afterAll_informed network settings state earlier
  obtain ⟨outcome, -, way⟩ := after_setUp network before
  have succeeded : outcome = .ok () := way.ready_iff.mp (decided.state.symm.trans ready)
  rw [succeeded] at way
  obtain ⟨servers, assembling, -, connectors, groups⟩ := way.offer informed
  exact ⟨servers, assembling, decided.connectors.trans connectors, decided.groups.trans groups⟩

/-- A realm that is ready offers the servers that its latest setting up had. -/
theorem offers_of_latest {settings : Settings} {state : σ} {earlier : List (Act σ)}
    (latest : Act.Latest acts earlier)
    (ready : ((fresh settings state).afterAll network acts).realm.state = .ready) :
    let now := (fresh settings state).afterAll network acts
    let before := (fresh settings state).afterAll network earlier
    ∃ servers, (before.realm.roster.servers.run network before.world).1 = .ok servers ∧
      now.realm.Offers network now.world servers := by
  intro now before
  obtain ⟨servers, assembling, connectors, groups⟩ := servers_of_latest latest ready
  exact ⟨servers, assembling, Realm.offers_of_ready ready connectors groups network now.world⟩

/-- Whatever happens around a realm, in whatever order, its latest setting up decides. The realm is
ready if and only if that succeeded. While it is ready, it offers the servers that its latest
setting up had, in the order of the settings that they were once assembled from. While it is not,
everything is refused, and no call is made. Nothing but setting up changes any of it. -/
theorem governed_by_latest_setUp (network : Network σ) (settings : Settings) (state : σ)
    (acts : List (Act σ)) :
    let start := fresh settings state
    let now := start.afterAll network acts
    ((∀ act ∈ acts, act.setsUp = false) → now.realm.state = .uninitialized) ∧
      (now.realm.state = .ready ↔ ∃ earlier, Act.Latest acts earlier ∧
        (start.afterAll network earlier).Succeeds network) ∧
      (now.realm.state = .ready → ∃ earlier servers prior, Act.Latest acts earlier ∧
        let before := start.afterAll network earlier
        let origin := start.afterAll network prior
        (before.realm.roster.servers.run network before.world).1 = .ok servers ∧
          prior <+: earlier ∧ origin.Assembles network servers ∧
          Server.keys origin.realm.roster.settings = .ok (servers.map Server.key) ∧
          now.realm.Offers network now.world servers) ∧
      (now.realm.state ≠ .ready → now.realm.Refuses network now.world) ∧
      ∀ act, act.setsUp = false → Unmoved now (now.after network act) := by
  intro start now
  have initial (never : ∀ act ∈ acts, act.setsUp = false) : now.realm.state = .uninitialized :=
    (afterAll_unmoved network start never).state
  have decides {earlier : List (Act σ)} (latest : Act.Latest acts earlier) :
      now.realm.state = .ready ↔ (start.afterAll network earlier).Succeeds network := by
    have decided : Unmoved _ now := afterAll_latest latest
    rw [decided.state]
    exact ready_iff_succeeds network _
  -- A realm that is ready was set up, and so for a last time.
  have chosen (ready : now.realm.state = .ready) : ∃ earlier, Act.Latest acts earlier := by
    rcases Act.latest_or_never acts with never | latest
    · have unready := initial never
      rw [ready] at unready
      cases unready
    · exact latest
  refine ⟨initial, ⟨?_, ?_⟩, ?_, ?_, ?_⟩
  · intro ready
    obtain ⟨earlier, latest⟩ := chosen ready
    exact ⟨earlier, latest, (decides latest).mp ready⟩
  · rintro ⟨earlier, latest, succeeded⟩
    exact (decides latest).mpr succeeded
  · intro ready
    obtain ⟨earlier, latest⟩ := chosen ready
    obtain ⟨servers, assembling, offers⟩ := offers_of_latest latest ready
    obtain ⟨prior, within, b, assembled⟩ := servers_origin assembling
    have listed := Server.assembleAll_keys assembled
    exact ⟨earlier, servers, prior, latest, assembling, within, ⟨b, assembled⟩, listed, offers⟩
  · intro unready
    exact Realm.refuses_of_not_ready unready network now.world
  · intro act other
    exact after_unmoved network now other

open Rehearsal in
/-- Servers that map groups still do so in a later setting up, when the settings are gone. -/
example :
    let settings : Settings := ⟨[("ldap.url", .text "ldap://h"),
      ("ldap.user.baseDn", .text "dc=x"), ("ldap.group.baseDn", .text "dc=x")]⟩
    let acts := [.demand .setUp, .reconfigure ⟨[]⟩, .demand .setUp]
    let now := (fresh settings (script .empty)).afterAll Script.network acts
    now.realm.state = .ready ∧ now.realm.groups.isSome := by
  decide +kernel

end Site

namespace Realm

/-- A host may have the realm: it was made from settings, and some acts happened around it since. -/
def Reachable (network : Network σ) (r : Realm) : Prop :=
  ∃ settings state acts, r = ((Site.fresh settings state).afterAll network acts).realm

/-- While it is ready, a realm has connectors to some servers, and it knows of groups what these
know. -/
theorem Reachable.when_ready {r : Realm} (reachable : r.Reachable network)
    (ready : r.state = .ready) :
    r.connectors ≠ [] ∧ r.groups = Groups.known r.connectors := by
  obtain ⟨settings, state, acts, rfl⟩ := reachable
  obtain ⟨earlier, latest⟩ := Site.latest_of_ready ready
  obtain ⟨servers, assembling, connectors, groups⟩ := Site.servers_of_latest latest ready
  obtain ⟨prior, -, world, assembled⟩ := Site.servers_origin assembling
  have listed := Server.keys_ne_nil (Server.assembleAll_keys assembled)
  rw [groups, connectors]
  refine ⟨?_, rfl⟩
  rw [ne_eq, List.map_eq_nil_iff] at listed ⊢
  exact listed

end Realm

end DirectoryAuth
