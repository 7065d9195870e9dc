import DirectoryAuth.Proofs.Run
import DirectoryAuth.Realm

/-!
# Rosters in memory

Settings and lists are objects in memory: whoever has the place of one may change it there. A roster
has places of its own. It copies the settings that it is made from, and what it gives to a host is a
new object each time, also where it keeps a list of the same servers itself. Looked at through its
places, a roster in memory is a roster, and is asked like one.
-/

namespace DirectoryAuth

open Operation

/-! ## Objects -/

inductive Object where
  | settings (settings : Settings)
  | keys (keys : List String)
  | servers (servers : List Server)
  | connectors (connectors : List Connector)
  deriving DecidableEq

structure Memory where
  objects : List Object

namespace Memory

def size (m : Memory) : Nat := m.objects.length

def read (m : Memory) (place : Nat) : Option Object := m.objects[place]?

def add (m : Memory) (object : Object) : Nat × Memory := (m.size, ⟨m.objects ++ [object]⟩)

def write (m : Memory) (place : Nat) (object : Object) : Memory := ⟨m.objects.set place object⟩

def settingsAt (m : Memory) (place : Nat) : Settings :=
  match m.read place with
  | some (.settings settings) => settings
  | _ => .empty

def serversAt (m : Memory) (place : Nat) : List Server :=
  match m.read place with
  | some (.servers servers) => servers
  | _ => []

/-- The place of a new object, where there is one to give. -/
def give (m : Memory) : Except Failure Object → Except Failure Nat × Memory
  | .error failure => (.error failure, m)
  | .ok object =>
    let (place, m) := m.add object
    (.ok place, m)

/-- All that was in memory is still there and unchanged. -/
structure Extends (m m' : Memory) : Prop where
  size : m.size ≤ m'.size
  read : ∀ place, place < m.size → m'.read place = m.read place

variable {m m' later : Memory} {place other : Nat} {object : Object}

theorem size_add (m : Memory) (object : Object) : (m.add object).2.size = m.size + 1 :=
  List.length_append

theorem read_add (m : Memory) (object : Object) :
    (m.add object).2.read (m.add object).1 = some object :=
  List.getElem?_concat_length

theorem size_write (m : Memory) (place : Nat) (object : Object) :
    (m.write place object).size = m.size :=
  List.length_set

theorem read_write_self (within : place < m.size) :
    (m.write place object).read place = some object :=
  List.getElem?_set_self within

theorem read_write_of_ne (apart : other ≠ place) :
    (m.write other object).read place = m.read place :=
  List.getElem?_set_ne apart

theorem settingsAt_of_read (same : m'.read place = m.read other) :
    m'.settingsAt place = m.settingsAt other := by
  rw [settingsAt, settingsAt, same]

theorem serversAt_of_read (same : m'.read place = m.read other) :
    m'.serversAt place = m.serversAt other := by
  rw [serversAt, serversAt, same]

namespace Extends

theorem refl (m : Memory) : m.Extends m := ⟨Nat.le_refl _, fun _ _ => rfl⟩

theorem trans (first : m.Extends m') (second : m'.Extends later) : m.Extends later where
  size := Nat.le_trans first.size second.size
  read place within := by
    rw [second.read place (Nat.lt_of_lt_of_le within first.size), first.read place within]

theorem add (m : Memory) (object : Object) : m.Extends (m.add object).2 where
  size := by rw [size_add]; exact Nat.le_succ _
  read _ within := List.getElem?_append_left within

end Extends

/-- What is given is a new object. -/
theorem give_extends (m : Memory) (outcome : Except Failure Object) :
    m.Extends (m.give outcome).2 ∧
      (m.give outcome).1.map (m.give outcome).2.read = outcome.map some ∧
      ∀ place, (m.give outcome).1 = .ok place →
        m.size ≤ place ∧ place < (m.give outcome).2.size := by
  cases outcome with
  | error failure => exact ⟨.refl m, rfl, nofun⟩
  | ok object =>
    refine ⟨.add m object, congrArg Except.ok (m.read_add object), ?_⟩
    rintro place ⟨⟩
    have size := m.size_add object
    exact ⟨Nat.le_refl _, size ▸ Nat.lt_succ_self _⟩

end Memory

namespace Roster

/-! ## Inquiries -/

inductive Inquiry where
  | keys
  | servers
  | connectors
  deriving DecidableEq, Repr

/-- The roster after an inquiry, and the response. Servers are kept once all of them were assembled,
whether or not there come to be connectors to them. -/
def answer {σ : Type} (r : Roster) : Inquiry → Operation σ (Roster × Except Failure Object)
  | .keys => pure (r, ((Server.keys r.settings).mapError .setting).map .keys)
  | .servers => do
    match ← r.servers.attempt with
    | .error failure => pure (r, .error failure)
    | .ok servers => pure (r.keeping servers, .ok (.servers servers))
  | .connectors => do
    match ← r.servers.attempt with
    | .error failure => pure (r, .error failure)
    | .ok servers => do
      let outcome ← (Realm.connectAll servers).attempt
      pure (r.keeping servers, outcome.map .connectors)

variable {σ : Type} {network : Network σ} {a b : World σ} {inquiry : Inquiry} {failure : Failure}

/-- An inquiry that fails to have the servers leaves the roster as it is. -/
theorem answer_of_failed {r : Roster} (asked : inquiry ≠ .keys)
    (failed : r.servers.run network a = (.error failure, b)) :
    (r.answer inquiry).run network a = (.ok (r, .error failure), b) := by
  cases inquiry with
  | keys => exact absurd rfl asked
  | servers =>
    rw [answer, run_attempt_bind, failed]
    rfl
  | connectors =>
    rw [answer, run_attempt_bind, failed]
    rfl

/-- A roster by its places: of its settings, and of the list of servers that it keeps. -/
structure Stored where
  settings : Nat
  assembled : Option Nat

namespace Stored

/-- A new roster, with a copy of the settings that lie at a place. -/
def make (own : Nat) (m : Memory) : Stored × Memory :=
  let (settings, m) := m.add (.settings (m.settingsAt own))
  (⟨settings, none⟩, m)

def view (r : Stored) (m : Memory) : Roster :=
  ⟨m.settingsAt r.settings, r.assembled.map m.serversAt⟩

def Uses (r : Stored) (place : Nat) : Prop := place = r.settings ∨ r.assembled = some place

/-- The place of the list that the roster keeps, which is made unless it is there. -/
def kept (r : Stored) (m : Memory) : Operation σ (Nat × Memory) :=
  match r.assembled with
  | some place => pure (place, m)
  | none => return m.add (.servers (← Server.assembleAll (m.settingsAt r.settings)))

def servers (r : Stored) (m : Memory) : Operation σ (Stored × Nat × Memory) := do
  let (place, m) ← r.kept m
  let (copy, m) := m.add (.servers (m.serversAt place))
  pure (⟨r.settings, some place⟩, copy, m)

/-- The roster after an inquiry, and the place of what is given to the host. -/
def inquire (r : Stored) (m : Memory) :
    Inquiry → Operation σ (Stored × Except Failure Nat × Memory)
  | .keys =>
    let keys := Server.keys (m.settingsAt r.settings)
    pure (r, m.give ((keys.mapError .setting).map .keys))
  | .servers => do
    match ← (r.servers m).attempt with
    | .error failure => pure (r, .error failure, m)
    | .ok (r, copy, m) => pure (r, .ok copy, m)
  | .connectors => do
    match ← (r.servers m).attempt with
    | .error failure => pure (r, .error failure, m)
    | .ok (r, copy, m) => do
      let outcome ← (Realm.connectAll (m.serversAt copy)).attempt
      pure (r, m.give (outcome.map .connectors))

/-- The settings and the list of the roster are two objects in memory. -/
structure Lies (r : Stored) (m : Memory) : Prop where
  settings : r.settings < m.size
  assembled : ∀ place, r.assembled = some place → place < m.size ∧ place ≠ r.settings

/-- The roster comes to be another, whose list is the same as before or new. -/
structure Becomes (r : Stored) (m : Memory) (r' : Stored) (m' : Memory) : Prop where
  extended : m.Extends m'
  settings : r'.settings = r.settings
  assembled : ∀ place, r'.assembled = some place →
    place < m'.size ∧ (r.assembled = some place ∨ m.size ≤ place)

/-- What is given is new, and the roster does not use it. -/
def Spares (r' : Stored) (m m' : Memory) (given : Except Failure Nat) : Prop :=
  ∀ place, given = .ok place → m.size ≤ place ∧ place < m'.size ∧ ¬ r'.Uses place

variable {r r' : Stored} {m m' : Memory}

theorem Lies.within (lies : r.Lies m) {place : Nat} (used : r.Uses place) : place < m.size := by
  rcases used with rfl | kept
  · exact lies.settings
  · exact (lies.assembled place kept).1

/-- A roster looks the same where nothing that it uses has changed. -/
theorem view_of_read (same : ∀ place, r.Uses place → m'.read place = m.read place) :
    r.view m' = r.view m := by
  have assembled : r.assembled.map m'.serversAt = r.assembled.map m.serversAt :=
    Option.map_congr fun place kept => Memory.serversAt_of_read (same place (.inr kept))
  rw [view, view, Memory.settingsAt_of_read (same _ (.inl rfl)), assembled]

theorem view_of_extends (lies : r.Lies m) (extended : m.Extends m') : r.view m' = r.view m :=
  view_of_read fun place used => extended.read place (lies.within used)

theorem Becomes.refl (lies : r.Lies m) : r.Becomes m r m :=
  ⟨.refl m, rfl, fun place kept => ⟨(lies.assembled place kept).1, .inl kept⟩⟩

theorem Becomes.lies (becomes : r.Becomes m r' m') (lies : r.Lies m) : r'.Lies m' := by
  have size := becomes.extended.size
  have settings := lies.settings
  refine ⟨by rw [becomes.settings]; omega, fun place kept => ?_⟩
  rw [becomes.settings]
  obtain ⟨there, before | new⟩ := becomes.assembled place kept
  · exact ⟨there, (lies.assembled place before).2⟩
  · exact ⟨there, by omega⟩

theorem Becomes.uses (becomes : r.Becomes m r' m') {place : Nat} (used : r'.Uses place) :
    r.Uses place ∨ m.size ≤ place := by
  rcases used with rfl | kept
  · exact .inl (.inl becomes.settings)
  · exact (becomes.assembled place kept).2.imp_left .inr

/-- Giving something new leaves the roster as it has become. -/
theorem Becomes.give (becomes : r.Becomes m r' m') (lies : r.Lies m)
    (outcome : Except Failure Object) :
    r.Becomes m r' (m'.give outcome).2 ∧ r'.Spares m (m'.give outcome).2 (m'.give outcome).1 := by
  obtain ⟨extended, -, new⟩ := m'.give_extends outcome
  refine ⟨⟨becomes.extended.trans extended, becomes.settings, ?_⟩, ?_⟩
  · intro place kept
    obtain ⟨there, origin⟩ := becomes.assembled place kept
    exact ⟨Nat.lt_of_lt_of_le there extended.size, origin⟩
  · intro place given
    obtain ⟨behind, there⟩ := new place given
    refine ⟨Nat.le_trans becomes.extended.size behind, there, fun used => ?_⟩
    exact absurd ((becomes.lies lies).within used) (Nat.not_lt.mpr behind)

theorem kept_of_failed
    (failed : (r.view m).servers.run network a = (.error failure, b)) :
    (r.kept m).run network a = (.error failure, b) := by
  rw [Roster.servers, view] at failed
  rw [kept]
  cases assembled : r.assembled with
  | some place =>
    rw [assembled] at failed
    cases failed
  | none =>
    rw [assembled] at failed
    exact run_bind_of_error failed

/-- The list that a roster keeps is the one it had, or a new one. -/
theorem kept_of_served {servers : List Server} (lies : r.Lies m)
    (served : (r.view m).servers.run network a = (.ok servers, b)) :
    ∃ place m', (r.kept m).run network a = (.ok (place, m'), b) ∧ m.Extends m' ∧
      m'.serversAt place = servers ∧ place < m'.size ∧
      (r.assembled = some place ∨ m.size ≤ place) := by
  rw [Roster.servers, view] at served
  rw [kept]
  cases assembled : r.assembled with
  | some place =>
    rw [assembled] at served
    cases served
    exact ⟨place, m, rfl, .refl m, rfl, (lies.assembled place assembled).1, .inl rfl⟩
  | none =>
    rw [assembled] at served
    let kept := m.add (.servers servers)
    refine ⟨kept.1, kept.2, run_bind_of_ok served, .add m _, ?_, ?_, .inr (Nat.le_refl _)⟩
    · rw [Memory.serversAt, m.read_add]
    · rw [m.size_add]
      exact Nat.lt_succ_self _

theorem servers_of_failed
    (failed : (r.view m).servers.run network a = (.error failure, b)) :
    (r.servers m).run network a = (.error failure, b) :=
  run_bind_of_error (kept_of_failed failed)

/-- What is given is a copy of the list that the roster keeps from then on. -/
theorem servers_of_served {servers : List Server} (lies : r.Lies m)
    (served : (r.view m).servers.run network a = (.ok servers, b)) :
    ∃ r' copy m', (r.servers m).run network a = (.ok (r', copy, m'), b) ∧
      r'.view m' = (r.view m).keeping servers ∧ m'.read copy = some (.servers servers) ∧
      r.Becomes m r' m' ∧ r'.Spares m m' (.ok copy) := by
  obtain ⟨place, m', ran, extended, found, there, origin⟩ := kept_of_served lies served
  have becomes : r.Becomes m ⟨r.settings, some place⟩ m' := by
    refine ⟨extended, rfl, ?_⟩
    rintro other ⟨⟩
    exact ⟨there, origin⟩
  have kept : view ⟨r.settings, some place⟩ m' = (r.view m).keeping servers := by
    have settings := Memory.settingsAt_of_read (extended.read _ lies.settings)
    simp only [view, keeping, settings, Option.map_some, found]
  obtain ⟨after, spared⟩ := becomes.give lies (.ok (.servers servers))
  refine ⟨⟨r.settings, some place⟩, m'.size, (m'.add (.servers servers)).2, ?_, ?_,
    m'.read_add _, after, spared⟩
  · rw [← found]
    exact run_bind_of_ok ran
  · rw [view_of_extends (becomes.lies lies) (.add m' _), kept]

theorem inquire_of_failed (asked : inquiry ≠ .keys)
    (failed : (r.servers m).run network a = (.error failure, b)) :
    (r.inquire m inquiry).run network a = (.ok (r, .error failure, m), b) := by
  cases inquiry with
  | keys => exact absurd rfl asked
  | servers =>
    rw [inquire, run_attempt_bind, failed]
    rfl
  | connectors =>
    rw [inquire, run_attempt_bind, failed]
    rfl

/-- A roster in memory is asked like the roster that it is: it becomes what that one becomes, and in
what is given stands the response. -/
theorem inquire_view (lies : r.Lies m) (inquiry : Inquiry)
    (network : Network σ) (a : World σ) :
    ∃ r' given m' response b, (r.inquire m inquiry).run network a = (.ok (r', given, m'), b) ∧
      ((r.view m).answer inquiry).run network a = (.ok (r'.view m', response), b) ∧
      given.map m'.read = response.map some ∧ r.Becomes m r' m' ∧ r'.Spares m m' given := by
  by_cases keys : inquiry = .keys
  · subst keys
    let response := ((Server.keys (r.view m).settings).mapError Failure.setting).map Object.keys
    have view := view_of_extends lies (m.give_extends response).1
    refine ⟨r, _, _, response, a, rfl, ?_, (m.give_extends response).2.1, ?_⟩
    · change _ = (Except.ok (r.view (m.give response).2, response), a)
      rw [view]
      rfl
    · exact (Becomes.refl lies).give lies response
  rcases ran : (r.view m).servers.run network a with ⟨outcome, b⟩
  cases outcome with
  | error failure =>
    have failed := inquire_of_failed keys (servers_of_failed ran)
    exact ⟨r, .error failure, m, .error failure, b, failed, answer_of_failed keys ran, rfl,
      .refl lies, nofun⟩
  | ok servers =>
    obtain ⟨r', copy, m', served, view, read, becomes, spared⟩ := servers_of_served lies ran
    cases inquiry with
    | keys => exact absurd rfl keys
    | servers =>
      refine ⟨r', .ok copy, m', .ok (.servers servers), b, ?_, ?_, congrArg Except.ok read,
        becomes, spared⟩
      · rw [inquire, run_attempt_bind, served]
        rfl
      · rw [answer, run_attempt_bind, ran, view]
        rfl
    | connectors =>
      have copied : m'.serversAt copy = servers := by rw [Memory.serversAt, read]
      rcases made : (Realm.connectAll servers).run network b with ⟨outcome, c⟩
      let response := outcome.map Object.connectors
      obtain ⟨extended, reads, -⟩ := m'.give_extends response
      refine ⟨r', _, _, response, c, ?_, ?_, reads, becomes.give lies response⟩
      · rw [inquire, run_attempt_bind, served]
        dsimp only
        rw [copied, run_attempt_bind, made]
        rfl
      · rw [view_of_extends (becomes.lies lies) extended, view, answer, run_attempt_bind, ran]
        dsimp only
        rw [run_attempt_bind, made]
        rfl

end Stored

end Roster

end DirectoryAuth
