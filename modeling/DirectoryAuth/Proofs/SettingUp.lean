import DirectoryAuth.Proofs.Run
import DirectoryAuth.Proofs.Text.Division
import DirectoryAuth.Realm

/-!
# Setting up

A realm is set up in two parts: its servers are assembled, and each of them is tested. Whatever
comes of them, setting up comes to an end with a realm and an outcome, and there are three ways for
it to go. What is known of the servers and of the connectors is read off the part that gave them.
-/

namespace DirectoryAuth

open Operation

variable {σ : Type} {network : Network σ} {a b c d : World σ}

/-! ## Servers in their order -/

namespace Server

theorem bind_eq_ok {α β : Type} {x : Except SettingError α} {f : α → Except SettingError β}
    {result : β} (made : x >>= f = .ok result) : ∃ value, x = .ok value ∧ f value = .ok result := by
  cases x with
  | ok value => exact ⟨value, rfl, made⟩
  | error error => cases made

/-- A server that is made of its settings has the parts that it was made of. -/
theorem ofView_parts {v : View} {key : String} {urls : List String} {users : UserMapping}
    {groups : Option GroupMapping} {server : Server}
    (made : ofView v key urls users groups = .ok server) :
    server.key = key ∧ server.urls = urls ∧ server.users = users ∧ server.groups = groups := by
  rw [ofView] at made
  -- Each of the settings that may be malformed was read before the server was made.
  iterate 8 obtain ⟨_, -, made⟩ := bind_eq_ok made
  cases made
  exact ⟨rfl, rfl, rfl, rfl⟩

theorem reading_eq_ok {α : Type} {outcome : Except SettingError α} {value : α}
    (ran : (reading outcome).run network a = (.ok value, b)) : outcome = .ok value := by
  cases outcome with
  | ok found =>
    cases ran
    rfl
  | error error => cases ran

theorem assemble_key {settings : Settings} {key : String} {server : Server}
    (ran : (assemble settings key).run network a = (.ok server, b)) : server.key = key := by
  obtain ⟨urls, _, _, ran⟩ := run_bind_eq_ok ran
  obtain ⟨users, _, _, ran⟩ := run_bind_eq_ok ran
  obtain ⟨groups, _, _, ran⟩ := run_bind_eq_ok ran
  obtain ⟨made, _, read, ran⟩ := run_bind_eq_ok ran
  cases ran
  exact (ofView_parts (reading_eq_ok read)).1

theorem assembleAll_of_keys {settings : Settings} {listed : List String}
    (read : keys settings = .ok listed) :
    (assembleAll settings : Operation σ (List Server)) = listed.mapM (assemble settings) := by
  rw [assembleAll, read]
  rfl

/-- Servers are assembled in the order of their keys in the settings. -/
theorem assembleAll_keys {settings : Settings} {servers : List Server}
    (ran : (assembleAll settings).run network a = (.ok servers, b)) :
    keys settings = .ok (servers.map Server.key) := by
  obtain ⟨listed, _, read, ran⟩ := run_bind_eq_ok ran
  rw [reading_eq_ok read, run_mapM_eq_ok (fun _ _ _ _ => assemble_key) ran, List.map_id']

/-- Whatever the settings are, they name a server, or they are of no use. -/
theorem keys_ne_nil {settings : Settings} {listed : List String}
    (named : keys settings = .ok listed) : listed ≠ [] := by
  rw [keys] at named
  split at named
  · cases named
    exact List.cons_ne_nil _ _
  · dsimp only at named
    split at named
    · cases named
    split at named
    · cases named
    · cases named
      rw [ne_eq, List.map_eq_nil_iff]
      exact Text.splitOn_ne_nil ',' _

end Server

/-! ## Connectors in the order of their servers -/

theorem Connector.ofServer_server {server : Server} {c : Connector}
    (ran : (ofServer server).run network a = (.ok c, b)) : c.server = server := by
  rw [ofServer] at ran
  split at ran
  · cases ran
  · obtain ⟨_, _, _, ran⟩ := run_bind_eq_ok ran
    cases ran
    rfl

namespace Realm

/-- Connectors are to the servers that they were asked for, in order. -/
theorem connectAll_eq_ok {servers : List Server} {connectors : List Connector}
    (ran : (connectAll servers).run network a = (.ok connectors, b)) :
    connectors = servers.map Connector.mk := by
  have same := run_mapM_eq_ok (fun _ _ _ _ => Connector.ofServer_server) ran
  rw [List.map_id'] at same
  rw [← same, List.map_map]
  exact (List.map_id _).symm

theorem testAll_eq_ok {servers : List Server} {connectors : List Connector}
    (ran : (testAll servers).run network a = (.ok connectors, b)) :
    connectors = servers.map Connector.mk := by
  obtain ⟨made, _, connected, ran⟩ := run_bind_eq_ok ran
  obtain ⟨_, _, _, ran⟩ := run_bind_eq_ok ran
  cases ran
  exact connectAll_eq_ok connected

/-! ## Ways to go -/

def begun (r : Realm) : Realm := { r with state := .initializing }

def assembled (r : Realm) (servers : List Server) : Realm :=
  { r with state := .initializing, roster := r.roster.keeping servers }

/-- A way for the setting up of a realm to go, from one world to another. -/
inductive SettingUp (network : Network σ) (r : Realm) (a : World σ) :
    Realm → Except Failure Unit → World σ → Prop
  | unassembled {failure : Failure} {r' : Realm} {b c : World σ}
      (assembling : r.roster.servers.run network a = (.error failure, b))
      (ending : (r.begun.afterFailure failure).run network b = (.ok r', c)) :
      SettingUp network r a r' (.error failure) c
  | untested {servers : List Server} {failure : Failure} {r' : Realm} {b c d : World σ}
      (assembling : r.roster.servers.run network a = (.ok servers, b))
      (testing : (testAll servers).run network b = (.error failure, c))
      (ending : ((r.assembled servers).afterFailure failure).run network c = (.ok r', d)) :
      SettingUp network r a r' (.error failure) d
  | tested {servers : List Server} {connectors : List Connector} {r' : Realm} {b c d : World σ}
      (assembling : r.roster.servers.run network a = (.ok servers, b))
      (testing : (testAll servers).run network b = (.ok connectors, c))
      (ending : ((r.assembled servers).afterSuccess connectors).run network c = (.ok r', d)) :
      SettingUp network r a r' (.ok ()) d

/-- The realm is failed if its failure was foreseen, and otherwise left as it was. -/
theorem afterFailure_eq (r : Realm) (failure : Failure) (a : World σ) :
    ∃ b, (r.afterFailure failure).run network a =
      (.ok (if failure.isForeseen then { r with state := .failed } else r), b) := by
  rw [afterFailure]
  split
  · exact ⟨_, rfl⟩
  · exact ⟨_, rfl⟩

/-- A failure changes nothing of a realm but its state. -/
theorem afterFailure_realm {r r' : Realm} {failure : Failure}
    (ending : (r.afterFailure failure).run network a = (.ok r', b)) :
    ∃ state, r' = { r with state := state } := by
  obtain ⟨last, left⟩ := r.afterFailure_eq failure a
  cases left.symm.trans ending
  split
  · exact ⟨.failed, rfl⟩
  · exact ⟨r.state, rfl⟩

/-- Setting up always comes to an end, in one of the three ways. -/
theorem setUp_settingUp (network : Network σ) (r : Realm) (a : World σ) :
    ∃ r' outcome b, r.setUp.run network a = (.ok (r', outcome), b) ∧
      SettingUp network r a r' outcome b := by
  rw [setUp, run_attempt_bind]
  rcases assembling : r.roster.servers.run network a with ⟨outcome, b⟩
  cases outcome with
  | error failure =>
    obtain ⟨c, ending⟩ := r.begun.afterFailure_eq failure b
    exact ⟨_, _, c, run_bind_of_ok ending, .unassembled assembling ending⟩
  | ok servers =>
    dsimp only
    rw [run_attempt_bind]
    rcases testing : (testAll servers).run network b with ⟨outcome, c⟩
    cases outcome with
    | error failure =>
      obtain ⟨d, ending⟩ := (r.assembled servers).afterFailure_eq failure c
      exact ⟨_, _, d, run_bind_of_ok ending, .untested assembling testing ending⟩
    | ok connectors => exact ⟨_, _, _, rfl, .tested assembling testing rfl⟩

end Realm

end DirectoryAuth
