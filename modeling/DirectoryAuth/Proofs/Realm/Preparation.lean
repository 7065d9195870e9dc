import DirectoryAuth.Proofs.Realm.Agreement

/-!
# How settings prepare a realm

In a fixed network the settings of a realm decide how setting it up ends, whenever that is done. The
servers are assembled, connectors to them made, and each tested; what any of these comes to is what
it comes to in a world just begun.
-/

namespace DirectoryAuth

open Operation World

variable {σ α : Type} {network : Network σ} {state : σ} {a b : World σ}

/-! ## Worlds just begun -/

/-- Operations that visit servers leave the world settled. -/
theorem World.Settled.kept (settled : Settled network state a) {x : Operation σ α}
    {outcome : Except Failure α} (keeps : Keeps network (Course network fun _ => True) x)
    (ran : x.run network a = (outcome, b)) : Settled network state b := by
  have course := keeps a
  rw [ran] at course
  exact settled.course course

namespace Operation

def atFirst (network : Network σ) (state : σ) (x : Operation σ α) : Except Failure α :=
  (x.run network (.start state)).1

variable {x : Operation σ α}

/-- What agrees with itself comes to the same in any other world. -/
theorem Agree.outcome (agree : ∀ p q, Agree network state p q Eq x x)
    (settled : Settled network state a) : (x.run network a).1 = x.atFirst network state :=
  (agree _ _ _ _ (settled.abreast (.start network state))).1.eq

/-- It leaves that world settled where it visits servers only. -/
theorem Agree.run_settled (agree : ∀ p q, Agree network state p q Eq x x)
    (keeps : Keeps network (Course network fun _ => True) x) (settled : Settled network state a)
    {outcome : Except Failure α} (first : x.atFirst network state = outcome) :
    ∃ b, x.run network a = (outcome, b) ∧ Settled network state b := by
  refine ⟨_, Prod.ext ((Agree.outcome agree settled).trans first) rfl, settled.kept keeps rfl⟩

end Operation

/-! ## Servers and connectors -/

/-- Making connectors changes nothing that sessions depend on. -/
theorem Realm.connectAll_course {visited : Connector → Prop} (servers : List Server) :
    Keeps network (Course network visited) (connectAll servers) :=
  have made : CallsOnly network Call.IsAside (connectAll servers) :=
    .mapM Connector.ofServer_callsOnly
  made.course

/-- Assembling all servers comes to what it comes to at first. -/
theorem Server.assembleAll_run (fixed : network.Fixed Call.IsOfRealm state)
    (settled : Settled network state a) {s : Settings} {outcome : Except Failure (List Server)}
    (first : (assembleAll s).atFirst network state = outcome) :
    ∃ b, (assembleAll s).run network a = (outcome, b) ∧ Settled network state b :=
  Agree.run_settled (fun _ _ => assembleAll_agree fixed s)
    (Roster.ofSettings s).servers_callsOnly.course settled first

/-- So does making connectors. -/
theorem Realm.connectAll_run (fixed : network.Fixed Call.IsOfRealm state)
    (settled : Settled network state a) {servers : List Server}
    {outcome : Except Failure (List Connector)}
    (first : (connectAll servers).atFirst network state = outcome) :
    ∃ b, (connectAll servers).run network a = (outcome, b) ∧ Settled network state b :=
  Agree.run_settled (fun _ _ => connectAll_agree fixed servers) (connectAll_course servers) settled
    first

namespace Connector

/-- So does a test. -/
theorem test_run (fixed : network.Fixed Call.IsOfRealm state) (settled : Settled network state a)
    {c : Connector} {outcome : Except Failure Unit}
    (first : c.test.atFirst network state = outcome) :
    ∃ b, c.test.run network a = (outcome, b) ∧ Settled network state b :=
  Agree.run_settled (fun _ _ => c.test_agree fixed.sessions) (c.test_course trivial) settled first

/-- Testing connectors in turn comes to an end, or to the failure of one of the tests. -/
theorem forM_test (fixed : network.Fixed Call.IsOfRealm state) (settled : Settled network state a)
    (connectors : List Connector) :
    (((connectors.forM test).run network a).1 = .ok () ∧
        ∀ c ∈ connectors, c.test.atFirst network state = .ok ()) ∨
      ∃ c ∈ connectors, ∃ failure, c.test.atFirst network state = .error failure ∧
        ((connectors.forM test).run network a).1 = .error failure := by
  induction connectors generalizing a with
  | nil => exact .inl ⟨rfl, List.forall_mem_nil _⟩
  | cons c rest ih =>
    have both : (c :: rest).forM test = (c.test >>= fun _ => rest.forM test : Operation σ _) := rfl
    rw [both]
    cases first : c.test.atFirst network state with
    | error failure =>
      obtain ⟨b, ran, -⟩ := test_run fixed settled first
      rw [run_bind_of_error ran]
      exact .inr ⟨c, List.mem_cons_self, failure, first, rfl⟩
    | ok _ =>
      obtain ⟨b, ran, kept⟩ := test_run fixed settled first
      rw [run_bind_of_ok ran]
      rcases ih kept with ⟨ended, passed⟩ | failed
      · exact .inl ⟨ended, List.forall_mem_cons.mpr ⟨first, passed⟩⟩
      · obtain ⟨other, member, failure, failed, ended⟩ := failed
        exact .inr ⟨other, List.mem_cons_of_mem _ member, failure, failed, ended⟩

end Connector

/-! ## Preparations -/

namespace Settings

variable {s : Settings}

/-- How the settings prepare a realm: with servers that were all tested, or not, for a failure. -/
inductive Prepares (network : Network σ) (state : σ) (s : Settings) :
    Except Failure (List Server) → Prop
  | unassembled {failure : Failure}
      (failed : (Server.assembleAll s).atFirst network state = .error failure) :
      Prepares network state s (.error failure)
  | unconnected {servers : List Server} {failure : Failure}
      (assembled : (Server.assembleAll s).atFirst network state = .ok servers)
      (failed : (Realm.connectAll servers).atFirst network state = .error failure) :
      Prepares network state s (.error failure)
  | untested {servers : List Server} {server : Server} {failure : Failure}
      (assembled : (Server.assembleAll s).atFirst network state = .ok servers)
      (connected : (Realm.connectAll servers).atFirst network state =
        .ok (servers.map Connector.mk))
      (member : server ∈ servers)
      (failed : (Connector.mk server).test.atFirst network state = .error failure) :
      Prepares network state s (.error failure)
  | tested {servers : List Server}
      (assembled : (Server.assembleAll s).atFirst network state = .ok servers)
      (connected : (Realm.connectAll servers).atFirst network state =
        .ok (servers.map Connector.mk))
      (passed : ∀ server ∈ servers, (Connector.mk server).test.atFirst network state = .ok ()) :
      Prepares network state s (.ok servers)

/-- Whatever of setting up a realm with the settings fails, fails in a way that is foreseen:
assembling its servers, making connectors to them, or testing any of them. -/
structure Foreseen (network : Network σ) (state : σ) (s : Settings) : Prop where
  servers : ∀ failure, (Server.assembleAll s).atFirst network state = .error failure →
    failure.isForeseen = true
  connectors : ∀ servers, (Server.assembleAll s).atFirst network state = .ok servers →
    ∀ failure, (Realm.connectAll servers).atFirst network state = .error failure →
      failure.isForeseen = true
  tests : ∀ servers, (Server.assembleAll s).atFirst network state = .ok servers →
    ∀ server ∈ servers, ∀ failure,
      (Connector.mk server).test.atFirst network state = .error failure →
        failure.isForeseen = true

/-- Wherever checking the login with a server of the settings fails, it fails in a way that is
foreseen. -/
def ForeseenLogin (network : Network σ) (state : σ) (s : Settings) (login : String)
    (password : Password) :
    Prop :=
  ∀ servers, (Server.assembleAll s).atFirst network state = .ok servers →
    ∀ server ∈ servers, ∀ failure,
      (Login.check ⟨server⟩ login password).atFirst network state = .error failure →
        failure.isForeseen = true

theorem Foreseen.isForeseen (foreseen : s.Foreseen network state) {failure : Failure}
    (prepares : s.Prepares network state (.error failure)) : failure.isForeseen = true := by
  cases prepares with
  | unassembled failed => exact foreseen.servers failure failed
  | unconnected assembled failed => exact foreseen.connectors _ assembled failure failed
  | untested assembled _ member failed => exact foreseen.tests _ assembled _ member failure failed

/-- Where the settings prepare a realm, nothing fails at all. -/
theorem Prepares.foreseen {servers : List Server}
    (prepares : s.Prepares network state (.ok servers)) : s.Foreseen network state := by
  cases prepares with
  | tested assembled connected passed =>
    refine ⟨fun failure failed => ?_, fun others same failure failed => ?_,
      fun others same server member failure failed => ?_⟩
    · cases assembled.symm.trans failed
    · cases assembled.symm.trans same
      cases connected.symm.trans failed
    · cases assembled.symm.trans same
      cases (passed server member).symm.trans failed

end Settings

namespace Realm

variable {s : Settings} {servers : List Server}

/-- Servers that were assembled from settings are connected to and tested as these prepare it. -/
theorem testAll_prepares (fixed : network.Fixed Call.IsOfRealm state)
    (assembled : (Server.assembleAll s).atFirst network state = .ok servers)
    (settled : Settled network state a) :
    (s.Prepares network state (.ok servers) ∧
        ((testAll servers).run network a).1 = .ok (servers.map Connector.mk)) ∨
      ∃ failure, s.Prepares network state (.error failure) ∧
        ((testAll servers).run network a).1 = .error failure := by
  cases first : (connectAll servers).atFirst network state with
  | error failure =>
    obtain ⟨b, ran, -⟩ := connectAll_run fixed settled first
    rw [testAll, run_bind_of_error ran]
    exact .inr ⟨failure, .unconnected assembled first, rfl⟩
  | ok connectors =>
    obtain ⟨b, ran, kept⟩ := connectAll_run fixed settled first
    have same := connectAll_eq_ok ran
    subst same
    rw [testAll, run_bind_of_ok ran, run_bind_pure]
    rcases Connector.forM_test fixed kept (servers.map Connector.mk) with
      ⟨ended, passed⟩ | ⟨c, member, failure, failed, ended⟩
    · rw [ended]
      refine .inl ⟨.tested assembled first fun server member => ?_, rfl⟩
      exact passed _ (List.mem_map_of_mem member)
    · obtain ⟨server, listed, rfl⟩ := List.mem_map.mp member
      rw [ended]
      exact .inr ⟨failure, .untested assembled first listed failed, rfl⟩

/-- A realm that is set up comes to be ready exactly where its settings prepare it. -/
theorem setUp_prepares (fixed : network.Fixed Call.IsOfRealm state)
    (settled : Settled network state a) (s : Settings) :
    ∃ r outcome b, (ofSettings s).setUp.run network a = (.ok (r, outcome), b) ∧
      ((∃ servers, s.Prepares network state (.ok servers) ∧ outcome = .ok () ∧ r.state = .ready ∧
          r.connectors = servers.map Connector.mk) ∨
        ∃ failure, s.Prepares network state (.error failure) ∧ outcome = .error failure ∧
          r.state ≠ .ready) := by
  obtain ⟨r, outcome, d, ran, ways⟩ := setUp_settingUp network (ofSettings s) a
  refine ⟨r, outcome, d, ran, ?_⟩
  have assembling : ((ofSettings s).roster.servers.run network a).1 =
      (Server.assembleAll s).atFirst network state :=
    Agree.outcome (fun _ _ => Server.assembleAll_agree fixed s) settled
  have unready {r r' : Realm} {failure : Failure} {b c : World σ} (begun : r.state = .initializing)
      (ending : (r.afterFailure failure).run network b = (.ok r', c)) : r'.state ≠ .ready := by
    obtain ⟨last, left⟩ := r.afterFailure_eq failure b
    cases left.symm.trans ending
    split
    · exact nofun
    · rw [begun]
      exact nofun
  cases ways with
  | unassembled failed ending =>
    rw [failed] at assembling
    exact .inr ⟨_, .unassembled assembling.symm, rfl, unready rfl ending⟩
  | untested assembled testing ending =>
    rw [assembled] at assembling
    have kept := settled.kept (Roster.servers_callsOnly _).course assembled
    have tested := testAll_prepares fixed assembling.symm kept
    rw [testing] at tested
    rcases tested with ⟨-, passed⟩ | ⟨other, prepares, same⟩
    · cases passed
    · cases same
      exact .inr ⟨_, prepares, rfl, unready rfl ending⟩
  | tested assembled testing ending =>
    rw [assembled] at assembling
    have kept := settled.kept (Roster.servers_callsOnly _).course assembled
    have tested := testAll_prepares fixed assembling.symm kept
    rw [testing] at tested
    rcases tested with ⟨prepares, passed⟩ | ⟨other, -, failed⟩
    · cases passed
      cases ending
      exact .inl ⟨_, prepares, rfl, rfl, rfl⟩
    · cases failed

end Realm

end DirectoryAuth
