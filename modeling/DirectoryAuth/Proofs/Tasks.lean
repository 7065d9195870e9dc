import DirectoryAuth.Proofs.Session.Lifetime

/-!
# The tasks of a host application

A host application sets realms up, and asks them about logins. Each task is through with every
connection that it made, however it ends; so is a host that gives one task after the other.
-/

namespace DirectoryAuth

open Operation

variable {σ : Type}

/-- What a host application may ask for. -/
inductive Task where
  | setUp (realm : Realm)
  | authenticate (realm : Realm) (login : String) (password : Password)
  | fetchDetails (realm : Realm) (login : String)
  | fetchGroups (realm : Realm) (login : String)
  | check (connector : Connector) (login : String) (password : Password)
  | test (connector : Connector)

namespace Task

def after (network : Network σ) (world : World σ) : Task → World σ
  | setUp realm => (realm.setUp.run network world).2
  | authenticate realm login password => ((realm.authenticate login password).run network world).2
  | fetchDetails realm login => ((realm.fetchDetails login).run network world).2
  | fetchGroups realm login => ((realm.fetchGroups login).run network world).2
  | check connector login password => ((Login.check connector login password).run network world).2
  | test connector => (connector.test.run network world).2

def afterAll (network : Network σ) (state : σ) (tasks : List Task) : World σ :=
  tasks.foldl (after network) (.start state)

/-- The servers that a task may visit: setting up those that the realm gives there and then, all else
those that are there already. -/
def Visits (network : Network σ) (world : World σ) : Task → Connector → Prop
  | setUp realm, c => ∃ servers,
      (realm.roster.servers.run network world).1 = .ok servers ∧ c.server ∈ servers
  | authenticate realm _ _, c | fetchDetails realm _, c => c ∈ realm.connectors
  | fetchGroups realm _, c => ∃ connectors, realm.groups = some connectors ∧ c ∈ connectors
  | check connector _ _, c | test connector, c => c = connector

/-- A task goes from visit to visit. -/
theorem after_course (network : Network σ) (world : World σ) (task : Task) :
    World.Course network (task.Visits network world) world (task.after network world) := by
  cases task with
  | setUp realm => exact Realm.setUp_course fun servers ran server member => ⟨servers, ran, member⟩
  | authenticate realm login password =>
    exact Realm.authenticate_course (fun _ member => member) login password world
  | fetchDetails realm login => exact Realm.fetchDetails_course (fun _ member => member) login world
  | fetchGroups realm login =>
    exact Realm.fetchGroups_course (fun _ some _ member => ⟨_, some, member⟩) login world
  | check connector login password =>
    have known : Visits network world (check connector login password) connector := rfl
    exact Login.check_course known login password world
  | test connector =>
    have known : Visits network world (test connector) connector := rfl
    exact Connector.test_course known world

theorem after_tidies (network : Network σ) (world : World σ) (task : Task) :
    Tidies world (task.after network world) :=
  (after_course network world task).tidies

/-- What each task preserves, any number of tasks preserves. -/
theorem afterAll_keeps {R : World σ → World σ → Prop} [IsPreorder (World σ) R]
    {network : Network σ} (each : ∀ world task, R world (after network world task)) (state : σ)
    (tasks : List Task) : R (.start state) (afterAll network state tasks) := by
  rw [afterAll]
  generalize World.start state = world
  induction tasks generalizing world with
  | nil => exact refl world
  | cons task rest ih => exact IsTrans.trans _ _ _ (each world task) (ih _)

theorem afterAll_tidy (network : Network σ) (state : σ) (tasks : List Task) :
    Tidy (World.start state) (afterAll network state tasks) :=
  (afterAll_keeps (after_tidies network) state tasks).tidy (World.start_numbered state)

/-- Over all tasks of a host application, connections are made and given up one by one. -/
theorem afterAll_balanced (network : Network σ) (state : σ) (tasks : List Task) :
    Balanced (afterAll network state tasks).history := by
  obtain ⟨events, history, balanced⟩ := (afterAll_tidy network state tasks).balanced
  rw [history]
  exact balanced

/-- Whatever the network answers and whatever was done before, by the time a task is through,
every connection that it made was given up, exactly once, and never were two of them alive. -/
theorem connections_balanced (network : Network σ) (state : σ) (earlier : List Task)
    (task : Task) :
    ∃ events,
      (task.after network (afterAll network state earlier)).history =
        (afterAll network state earlier).history ++ events ∧
      Balanced events :=
  ((after_tidies network _ task).tidy (afterAll_tidy network state earlier).numbered).balanced

end Task

end DirectoryAuth
