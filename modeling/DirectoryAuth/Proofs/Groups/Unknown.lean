import DirectoryAuth.Proofs.Lookup.Existence
import DirectoryAuth.Proofs.States
import Mathlib

/-!
# Users without groups

Groups are looked up only on the servers that know of groups. In a static network a login has no
groups to be had exactly where there are such servers and none of them knows the login, whatever the
other servers say. So a user whom only the others know is not found, though its details are.
-/

namespace DirectoryAuth

open Operation World

variable {σ α : Type} {network : Network σ} {state : σ} {a : World σ} {login : String}

/-- The failure does not say that nobody is known. -/
def Failure.Spares (failure : Failure) : Prop := ∀ other, failure ≠ .notFound other

theorem Failure.OfReading.spares {failure : Failure} (reading : failure.OfReading) :
    failure.Spares := by
  rintro other rfl
  exact reading

theorem Lookup.act_raises {c : Connector} {action : Operation σ α}
    (spares : Raises network Failure.Spares action) :
    Raises network Failure.Spares (act c login action) := by
  refine .attempt_bind spares (fun _ => .pure _) fun failure known => ?_
  unfold retrievalFailure
  cases failure with
  | connection error | search error =>
    dsimp only
    rw [bind_assoc]
    exact .bind (.log _ _ _) fun _ => .throw fun _ => nofun
  | _ => exact .throw known

namespace Groups

variable {connectors : List Connector}

theorem mem_mapped {c : Connector} :
    c ∈ mapped connectors ↔ c ∈ connectors ∧ c.server.groups ≠ none := by
  simp [mapped, Option.isSome_iff_ne_none]

/-- Groups of a login are not found exactly where there are servers to ask, and none of them knows
it. -/
theorem fetch_unknown_iff (static : network.Static state) (settled : Settled network state a)
    (given : connectors ≠ []) (login : String) :
    (∃ other, ((fetch connectors login).run network a).1 = .error (.notFound other)) ↔
      ∀ c ∈ connectors, Lookup.said network state login c = .ok none := by
  have nonempty : ¬ connectors.isEmpty = true := by simpa using given
  have logged (x : Operation σ (List String)) (text : List String → String) (world : World σ) :
      ((do let groups ← x; log .debug .groups (text groups); pure groups).run network world).1 =
        (x.run network world).1 := by
    rw [run_bind]
    rcases x.run network world with ⟨outcome, next⟩
    cases outcome <;> rfl
  rw [fetch, run_bind_of_ok (run_log _ _ _), if_neg nonempty, logged]
  refine (exists_congr (Lookup.Follows.notFound_iff Lookup.said_ne_notFound
    (fun _ _ outcome (spares : ∀ other, outcome ≠ .error (.notFound other)) => spares)
    (Lookup.lookUpFrom_follows static ?_ ?_ (settled.noted _) none connectors))).trans ?_
  · intro c session entry
    cases c.server.groups with
    | none => exact .pure _
    | some m => exact resolve_searched c m session entry
  · intro c session entry world other failed
    refine Lookup.act_raises ?_ world _ failed other rfl
    cases c.server.groups with
    | none => exact .pure _
    | some m => exact (resolve_raises c m session entry).widen fun _ => Failure.OfReading.spares
  · simp

end Groups

namespace Realm

variable {r : Realm}

/-- Where groups are not found, none of the servers that know of groups knows the login, and there
are some such servers. That the details of the login are not found either, is up to the others. -/
theorem fetchGroups_unknown (reachable : r.Reachable network) (ready : r.state = .ready)
    (static : network.Static state) (earlier later : List Task) (login : String) :
    let said := Lookup.said network state login
    let mapped := Groups.mapped r.connectors
    let groups := ((r.fetchGroups login).run network (Task.afterAll network state earlier)).1
    let details := ((r.fetchDetails login).run network (Task.afterAll network state later)).1
    ((∃ other, groups = .error (.notFound other)) ↔
      mapped ≠ [] ∧ ∀ c ∈ mapped, said c = .ok none) ∧
    ((∃ other, details = .error (.notFound other)) ↔ ∀ c ∈ r.connectors, said c = .ok none) ∧
    ((∃ other, groups = .error (.notFound other)) →
      ((∃ other, details = .error (.notFound other)) ↔
        ∀ c ∈ r.connectors, c.server.groups = none → said c = .ok none)) := by
  intro said mapped groups details
  obtain ⟨-, known⟩ := reachable.when_ready ready
  have groups_iff : (∃ other, groups = .error (.notFound other)) ↔
      mapped ≠ [] ∧ ∀ c ∈ mapped, said c = .ok none := by
    change (∃ other, ((r.fetchGroups login).run network _).1 = _) ↔ _
    rw [fetchGroups, run_when_ready ready, known, Groups.known]
    by_cases nobody : mapped = []
    · rw [if_pos (List.isEmpty_iff.mpr nobody)]
      refine iff_of_false ?_ ?_
      · rintro ⟨_, failed⟩
        cases failed
      · rintro ⟨mapping, -⟩
        exact mapping nobody
    · rw [if_neg (List.isEmpty_iff.not.mpr nobody)]
      refine (Groups.fetch_unknown_iff static ?_ nobody login).trans ?_
      · exact Task.afterAll_settled network state earlier
      · exact (and_iff_right nobody).symm
  have details_iff : (∃ other, details = .error (.notFound other)) ↔
      ∀ c ∈ r.connectors, said c = .ok none := by
    change (∃ other, ((r.fetchDetails login).run network _).1 = _) ↔ _
    rw [fetchDetails, run_when_ready ready]
    exact Details.fetch_unknown_iff static (Task.afterAll_settled network state later) _ login
  refine ⟨groups_iff, details_iff, fun denied => details_iff.trans ?_⟩
  have unknown := (groups_iff.mp denied).2
  constructor
  · exact fun all c member _ => all c member
  · intro others c member
    by_cases plain : c.server.groups = none
    · exact others c member plain
    · exact unknown c (Groups.mem_mapped.mpr ⟨member, plain⟩)

end Realm

namespace Rehearsal

def unevenly : Settings :=
  ⟨[("ldap.servers", .text "a,b"), ("ldap.a.url", .text "ldap://a"),
    ("ldap.b.url", .text "ldap://b"), ("ldap.a.user.baseDn", .text "dc=x"),
    ("ldap.b.user.baseDn", .text "dc=x"), ("ldap.b.group.baseDn", .text "dc=x")]⟩

def uneven : Script :=
  let jdoe := { Script.Rule.empty with
    filter := some "(&(objectClass=inetOrgPerson)(uid=jdoe))"
    items := [item (some "uid=jdoe,dc=x") []] }
  { Script.empty with directories :=
      [("ldap://a", { Script.Directory.empty with rules := [jdoe] }), ("ldap://b", .empty)] }

def unevenRealm : Realm :=
  ((Site.fresh unevenly uneven).afterAll Script.network [.demand .setUp]).realm

theorem keys_unevenly : Server.keys unevenly = .ok ["a", "b"] := by
  have listed : (View.mk unevenly Server.settingsRoot).text? "servers" = some "a,b" := by
    decide +kernel
  have split : "a,b".splitOn "," = ["a", "b"] := by cbv
  rw [Server.keys, listed]
  dsimp only
  rw [split]
  rfl

theorem unevenRealm_ready : unevenRealm.state = .ready ∧
    Groups.mapped unevenRealm.connectors ≠ [] ∧
    (∀ c ∈ unevenRealm.connectors,
      (Lookup.said Script.network uneven "nobody" c).toOption = some none) ∧
    ((unevenRealm.fetchDetails "jdoe").run Script.network (.start uneven)).1.toOption =
      some ⟨"", ""⟩ ∧
    failure? ((unevenRealm.fetchGroups "jdoe").run Script.network (.start uneven)).1 =
      some (.notFound "jdoe") := by
  -- The list of keys is split by well-founded recursion, which evaluation cannot open.
  simp only [unevenRealm, Site.afterAll, List.foldl_cons, List.foldl_nil, Site.after, Site.fresh,
    Realm.meet, Realm.setUp, Realm.ofSettings, Roster.ofSettings, Roster.servers,
    Server.assembleAll_of_keys keys_unevenly]
  decide +kernel

end Rehearsal

namespace Realm

open Rehearsal

/-- A user whom neither server knows is found by no lookup. -/
theorem fetchGroups_unknown_nobody :
    let r := unevenRealm
    let world := Task.afterAll Script.network uneven []
    r.Reachable Script.network ∧ r.state = .ready ∧ Script.network.Static uneven ∧
      (∃ other, ((r.fetchGroups "nobody").run Script.network world).1 =
        .error (.notFound other)) ∧
      ∃ other, ((r.fetchDetails "nobody").run Script.network world).1 =
        .error (.notFound other) := by
  intro r world
  obtain ⟨ready, mapping, unknown, -⟩ := unevenRealm_ready
  have reachable : r.Reachable Script.network := ⟨_, _, _, rfl⟩
  have static := Script.network_static uneven
  have denied : ∀ c ∈ r.connectors, Lookup.said Script.network uneven "nobody" c = .ok none :=
    fun c member => eq_ok_of_toOption (unknown c member)
  have decided := fetchGroups_unknown reachable ready static [] [] "nobody"
  refine ⟨reachable, ready, static, decided.1.mpr ⟨mapping, ?_⟩, decided.2.1.mpr denied⟩
  exact fun c member => denied c (Groups.mem_mapped.mp member).1

/-- A user whom only the server without groups knows has details, and yet no groups are found. -/
theorem fetchGroups_denies_known :
    let r := unevenRealm
    let world := Task.afterAll Script.network uneven []
    r.Reachable Script.network ∧ r.state = .ready ∧ Script.network.Static uneven ∧
      ((r.fetchDetails "jdoe").run Script.network world).1 = .ok ⟨"", ""⟩ ∧
      ((r.fetchGroups "jdoe").run Script.network world).1 = .error (.notFound "jdoe") := by
  intro r world
  obtain ⟨ready, -, -, details, groups⟩ := unevenRealm_ready
  exact ⟨⟨_, _, _, rfl⟩, ready, Script.network_static uneven, eq_ok_of_toOption details,
    eq_error_of_failure? groups⟩

end Realm

end DirectoryAuth
