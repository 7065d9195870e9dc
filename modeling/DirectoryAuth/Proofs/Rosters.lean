import DirectoryAuth.Proofs.Memory
import DirectoryAuth.Proofs.States

/-!
# Rosters in use

A host makes a roster from settings of its own and asks it for keys, servers and connectors, as
often as it likes. In between the settings of the roster are replaced, the network changes, and the
host changes what it has in memory: the settings that it once handed over and the lists that it was
given. Up to the first time that all servers were assembled, the roster is as good as new; from then
on the servers do not change any more. The invariant is that the host has nothing in memory that the
roster uses.
-/

namespace DirectoryAuth.Roster

open Operation

variable {σ : Type} {network : Network σ} {a b : World σ}

/-! ## Inquiries -/

/-- The response holds no servers but these. Only connectors may be refused. -/
def Holds (servers : List Server) : Inquiry → Except Failure (Option Object) → Prop
  | .keys, _ => True
  | .servers, response => response = .ok (some (.servers servers))
  | .connectors, response => ∀ found, response = .ok found →
      ∃ connectors, found = some (.connectors connectors) ∧
        connectors.map Connector.server = servers

section Answers

variable {r : Roster} {inquiry : Inquiry} {servers : List Server}

/-- An inquiry that has the servers keeps them, and its response holds no others. -/
theorem answer_of_served (asked : inquiry ≠ .keys)
    (served : r.servers.run network a = (.ok servers, b)) :
    ∃ response c, (r.answer inquiry).run network a = (.ok (r.keeping servers, response), c) ∧
      Holds servers inquiry (response.map some) := by
  cases inquiry with
  | keys => exact absurd rfl asked
  | servers =>
    rw [answer, run_attempt_bind, served]
    exact ⟨_, _, rfl, rfl⟩
  | connectors =>
    rw [answer, run_attempt_bind, served]
    rcases made : (Realm.connectAll servers).run network b with ⟨outcome, c⟩
    refine ⟨outcome.map .connectors, c, ?_, ?_⟩
    · dsimp only
      rw [run_attempt_bind, made]
      rfl
    · cases outcome with
      | error failure =>
        intro found failed
        cases failed
      | ok connectors =>
        rintro found ⟨⟩
        refine ⟨connectors, rfl, ?_⟩
        rw [Realm.connectAll_eq_ok made, List.map_map]
        exact List.map_id _

/-- A roster that keeps servers has them, and the network is not asked. -/
theorem servers_of_assembled (kept : r.assembled = some servers) (network : Network σ)
    (a : World σ) : r.servers.run network a = (.ok servers, a) := by
  rw [Roster.servers, kept]
  rfl

/-- However a roster that keeps servers is asked, there is a response, and it holds them. -/
theorem answer_of_assembled (kept : r.assembled = some servers) (inquiry : Inquiry)
    (network : Network σ) (a : World σ) :
    ∃ response b, (r.answer inquiry).run network a = (.ok (r, response), b) ∧
      Holds servers inquiry (response.map some) := by
  have unchanged : r.keeping servers = r := by
    rw [keeping, ← kept]
  by_cases asked : inquiry = .keys
  · subst asked
    exact ⟨_, _, rfl, trivial⟩
  · have answered := answer_of_served asked (servers_of_assembled kept network a)
    rwa [unchanged] at answered

/-- An inquiry changes no settings. -/
theorem answer_settings (r : Roster) (inquiry : Inquiry) (network : Network σ) (a : World σ) :
    ∃ r' response b, (r.answer inquiry).run network a = (.ok (r', response), b) ∧
      r'.settings = r.settings := by
  by_cases asked : inquiry = .keys
  · subst asked
    exact ⟨_, _, _, rfl, rfl⟩
  · rcases ran : r.servers.run network a with ⟨outcome, b⟩
    cases outcome with
    | error failure => exact ⟨_, _, _, answer_of_failed asked ran, rfl⟩
    | ok servers =>
      obtain ⟨response, c, answered, -⟩ := answer_of_served asked ran
      exact ⟨_, _, _, answered, rfl⟩

end Answers

/-! ## Hosts -/

/-- A host with a roster. It has places of its own: of the settings that it handed over, and of all
that it was given. -/
structure Host (σ : Type) where
  own : Nat
  given : List Nat
  roster : Stored
  memory : Memory
  world : World σ

/-- What may happen around a roster: it is asked for something; the host changes an object that it
has; the settings of the roster are replaced; or the network changes. As a network answers from its
state, any change of it is one of the state. -/
inductive Turn (σ : Type) where
  | inquire (inquiry : Inquiry)
  | change (place : Nat) (object : Object)
  | reconfigure (settings : Settings)
  | rewire (state : σ)

def Turn.isShared : Turn σ → Bool
  | change _ _ => false
  | inquire _ | reconfigure _ | rewire _ => true

def Turn.settings (before : Settings) : Turn σ → Settings
  | reconfigure settings => settings
  | _ => before

/-- The settings of a roster after some turns, the first of which found it with these. -/
def settingsAfter (settings : Settings) (turns : List (Turn σ)) : Settings :=
  turns.foldl Turn.settings settings

namespace Host

def fresh (settings : Settings) (state : σ) : Host σ :=
  let (own, memory) := Memory.add ⟨[]⟩ (.settings settings)
  let (roster, memory) := Stored.make own memory
  ⟨own, [], roster, memory, .start state⟩

def Has (h : Host σ) (place : Nat) : Prop := place = h.own ∨ place ∈ h.given

instance (h : Host σ) (place : Nat) : Decidable (h.Has place) :=
  inferInstanceAs (Decidable (_ ∨ _))

def after (network : Network σ) (h : Host σ) : Turn σ → Host σ
  | .inquire inquiry =>
    match (h.roster.inquire h.memory inquiry).run network h.world with
    | (.ok (roster, outcome, memory), world) =>
      ⟨h.own, h.given ++ outcome.toOption.toList, roster, memory, world⟩
    | (.error _, world) => { h with world := world }
  | .change place object =>
    if h.Has place then { h with memory := h.memory.write place object } else h
  | .reconfigure settings =>
    { h with memory := h.memory.write h.roster.settings (.settings settings) }
  | .rewire state => { h with world := { h.world with network := state } }

def afterAll (network : Network σ) (h : Host σ) (turns : List (Turn σ)) : Host σ :=
  turns.foldl (after network) h

/-- What a host reads in what it is given. -/
def told (h : Host σ) (inquiry : Inquiry) : Operation σ (Except Failure (Option Object)) := do
  let (_, given, memory) ← h.roster.inquire h.memory inquiry
  pure (given.map memory.read)

/-- The turn is an inquiry that has all servers assembled. -/
def Serves (network : Network σ) (h : Host σ) (turn : Turn σ) (servers : List Server) : Prop :=
  ∃ inquiry, turn = .inquire inquiry ∧ inquiry ≠ .keys ∧ ∃ roster copy memory world,
    (h.roster.servers h.memory).run network h.world = (.ok (roster, copy, memory), world) ∧
      memory.serversAt copy = servers

/-- None of the turns has all servers assembled. -/
def Unserved (network : Network σ) (h : Host σ) : List (Turn σ) → Prop
  | [] => True
  | turn :: rest =>
    (∀ servers, ¬ h.Serves network turn servers) ∧ (h.after network turn).Unserved network rest

def IsTold (network : Network σ) (h : Host σ) (servers : List Server) (inquiry : Inquiry) : Prop :=
  ∃ response world, (h.told inquiry).run network h.world = (.ok response, world) ∧
    Holds servers inquiry response

/-- The host has nothing that the roster uses. -/
structure Apart (h : Host σ) : Prop where
  lies : h.roster.Lies h.memory
  within : ∀ place, h.Has place → place < h.memory.size
  apart : ∀ place, h.roster.Uses place → ¬ h.Has place

variable {h h' : Host σ} {turn : Turn σ} {turns : List (Turn σ)} {servers : List Server}
variable {inquiry : Inquiry} {failure : Failure} {roster : Stored} {memory : Memory}

def view (h : Host σ) : Roster := h.roster.view h.memory

theorem afterAll_append (network : Network σ) (h : Host σ) (earlier later : List (Turn σ)) :
    h.afterAll network (earlier ++ later) = (h.afterAll network earlier).afterAll network later :=
  List.foldl_append

/-! ### Single turns -/

theorem apart_fresh (settings : Settings) (state : σ) : (fresh settings state).Apart where
  lies := ⟨Nat.lt_succ_self 1, nofun⟩
  within := by
    rintro place (rfl | member)
    · exact Nat.zero_lt_two
    · cases member
  apart := by
    rintro place (rfl | kept) (same | member)
    · cases same
    · cases member
    · cases kept
    · cases kept

/-- What the roster comes to use is nothing that the host had before. -/
theorem Apart.of_becomes (apart : h.Apart)
    (becomes : h.roster.Becomes h.memory roster memory) {place : Nat} (used : roster.Uses place) :
    ¬ h.Has place := by
  intro has
  rcases becomes.uses used with before | new
  · exact apart.apart place before has
  · exact absurd (apart.within place has) (Nat.not_lt.mpr new)

/-- What an inquiry does is done with the roster that the host finds. -/
theorem after_inquire (apart : h.Apart) (network : Network σ) (inquiry : Inquiry) :
    ∃ response, ((h.view.answer inquiry).run network h.world) =
        (.ok ((h.after network (.inquire inquiry)).view, response),
          (h.after network (.inquire inquiry)).world) ∧
      (h.told inquiry).run network h.world =
        (.ok (response.map some), (h.after network (.inquire inquiry)).world) ∧
      (h.after network (.inquire inquiry)).Apart := by
  obtain ⟨roster, given, memory, response, world, ran, answered, read, becomes, spared⟩ :=
    Stored.inquire_view apart.lies inquiry network h.world
  have reached : h.after network (.inquire inquiry) =
      ⟨h.own, h.given ++ given.toOption.toList, roster, memory, world⟩ := by
    rw [after, ran]
  have told : (h.told inquiry).run network h.world = (.ok (given.map memory.read), world) :=
    run_bind_of_ok ran
  rw [reached]
  have mem_given (place : Nat) (member : place ∈ h.given ++ given.toOption.toList) :
      place ∈ h.given ∨ given = .ok place := by
    refine (List.mem_append.mp member).imp_right fun new => ?_
    cases given with
    | error failure => cases new
    | ok other => rw [List.mem_singleton.mp new]
  refine ⟨response, answered, by rw [told, read], becomes.lies apart.lies, ?_, ?_⟩
  · rintro place (rfl | member)
    · exact Nat.lt_of_lt_of_le (apart.within _ (.inl rfl)) becomes.extended.size
    · rcases mem_given place member with before | new
      · exact Nat.lt_of_lt_of_le (apart.within place (.inr before)) becomes.extended.size
      · exact (spared place new).2.1
  · rintro place used (rfl | member)
    · exact apart.of_becomes becomes used (.inl rfl)
    · rcases mem_given place member with before | new
      · exact apart.of_becomes becomes used (.inr before)
      · exact (spared place new).2.2 used

theorem after_of_answered (apart : h.Apart) {r : Roster} {response : Except Failure Object}
    (answered : (h.view.answer inquiry).run network h.world = (.ok (r, response), b)) :
    (h.after network (.inquire inquiry)).view = r ∧
      (h.after network (.inquire inquiry)).world = b ∧
      (h.told inquiry).run network h.world = (.ok (response.map some), b) := by
  obtain ⟨other, ran, told, -⟩ := after_inquire apart network inquiry
  obtain ⟨found, world⟩ := Prod.mk.inj (answered.symm.trans ran)
  obtain ⟨view, rfl⟩ := Prod.mk.inj (Except.ok.inj found)
  rw [world]
  exact ⟨view.symm, rfl, told⟩

/-- Writing to memory takes nothing out of it. -/
theorem Apart.write (apart : h.Apart) (place : Nat) (object : Object) :
    Apart { h with memory := h.memory.write place object } where
  lies := by
    have size := h.memory.size_write place object
    exact ⟨size ▸ apart.lies.settings, fun other kept => size ▸ apart.lies.assembled other kept⟩
  within other has := h.memory.size_write place object ▸ apart.within other has
  apart := apart.apart

/-- What the host changes is nothing that the roster uses. -/
theorem view_change (apart : h.Apart) (place : Nat) (object : Object) :
    (h.after network (.change place object)).view = h.view := by
  rw [after]
  split
  · rename_i has
    refine Stored.view_of_read fun other used => Memory.read_write_of_ne ?_
    rintro rfl
    exact apart.apart _ used has
  · rfl

/-- Other settings are found in their place, and the servers that are kept are not touched. -/
theorem view_reconfigure (apart : h.Apart) (settings : Settings) :
    (h.after network (.reconfigure settings)).view = { h.view with settings := settings } := by
  have read : (h.memory.write h.roster.settings (.settings settings)).read h.roster.settings =
      some (.settings settings) := Memory.read_write_self apart.lies.settings
  have assembled : h.roster.assembled.map
      (h.memory.write h.roster.settings (.settings settings)).serversAt =
        h.roster.assembled.map h.memory.serversAt := by
    refine Option.map_congr fun place kept => Memory.serversAt_of_read ?_
    exact Memory.read_write_of_ne (apart.lies.assembled place kept).2.symm
  simp only [after, view, Stored.view, Memory.settingsAt, read, assembled]

theorem Apart.after (apart : h.Apart) (turn : Turn σ) : (h.after network turn).Apart := by
  cases turn with
  | inquire inquiry =>
    obtain ⟨response, -, -, after⟩ := after_inquire apart network inquiry
    exact after
  | change place object =>
    rw [Host.after]
    split
    · exact apart.write place object
    · exact apart
  | reconfigure settings => exact apart.write _ _
  | rewire state => exact ⟨apart.lies, apart.within, apart.apart⟩

/-- An inquiry that fails to have the servers changes nothing but the world. -/
theorem after_of_failed (asked : inquiry ≠ .keys)
    (failed : (h.roster.servers h.memory).run network h.world = (.error failure, b)) :
    h.after network (.inquire inquiry) = { h with world := b } := by
  rw [Host.after, Stored.inquire_of_failed asked failed]
  simp [Except.toOption]

/-- A host has all servers assembled where the roster that it finds has them. -/
theorem serves_iff (apart : h.Apart) : h.Serves network turn servers ↔
    ∃ inquiry, turn = .inquire inquiry ∧ inquiry ≠ .keys ∧
      (h.view.servers.run network h.world).1 = .ok servers := by
  refine exists_congr fun inquiry => and_congr_right fun _ => and_congr_right fun _ => ?_
  rcases ran : h.view.servers.run network h.world with ⟨outcome, world⟩
  cases outcome with
  | error failure =>
    have failed := Stored.servers_of_failed ran
    simp [failed]
  | ok others =>
    obtain ⟨roster, copy, memory, served, -, read, -⟩ := Stored.servers_of_served apart.lies ran
    have found : memory.serversAt copy = others := by rw [Memory.serversAt, read]
    simp [served, found]

/-- A roster that keeps no servers is as good as new after any turn that has none assembled. -/
theorem view_of_unserved (apart : h.Apart) {settings : Settings}
    (new : h.view = .ofSettings settings) (unserved : ∀ servers, ¬ h.Serves network turn servers) :
    (h.after network turn).view = .ofSettings (turn.settings settings) := by
  cases turn with
  | inquire inquiry =>
    by_cases asked : inquiry = .keys
    · subst asked
      exact (after_of_answered apart rfl).1.trans new
    · rcases ran : h.view.servers.run network h.world with ⟨outcome, world⟩
      cases outcome with
      | ok servers =>
        exact absurd ((serves_iff apart).mpr ⟨inquiry, rfl, asked, by rw [ran]⟩) (unserved servers)
      | error failure =>
        exact (after_of_answered apart (answer_of_failed asked ran)).1.trans new
  | change place object => exact (view_change apart place object).trans new
  | reconfigure settings' =>
    rw [view_reconfigure apart, new]
    rfl
  | rewire state => exact new

/-- Servers that a roster keeps stay with it. -/
theorem view_of_assembled (apart : h.Apart) (kept : h.view.assembled = some servers)
    (turn : Turn σ) : (h.after network turn).view.assembled = some servers := by
  cases turn with
  | inquire inquiry =>
    obtain ⟨response, world, answered, -⟩ := answer_of_assembled kept inquiry network h.world
    rwa [(after_of_answered apart answered).1]
  | change place object => rwa [view_change apart]
  | reconfigure settings => rwa [view_reconfigure apart]
  | rewire state => exact kept

/-- The settings of the roster are changed by replacing them only. -/
theorem settings_after (apart : h.Apart) (turn : Turn σ) :
    (h.after network turn).view.settings = turn.settings h.view.settings := by
  cases turn with
  | inquire inquiry =>
    obtain ⟨r, response, world, answered, settings⟩ :=
      h.view.answer_settings inquiry network h.world
    rw [(after_of_answered apart answered).1, settings]
    rfl
  | change place object =>
    rw [view_change apart]
    rfl
  | reconfigure settings =>
    rw [view_reconfigure apart]
    rfl
  | rewire state => rfl

/-- What a host is told is the response of the roster that it finds. -/
theorem told_eq (apart : h.Apart) (inquiry : Inquiry) :
    h.told inquiry = h.view.answer inquiry >>= fun answer => pure (answer.2.map some) := by
  funext network world
  obtain ⟨roster, given, memory, response, after, ran, answered, read, -⟩ :=
    Stored.inquire_view apart.lies inquiry network world
  have told : (h.told inquiry).run network world = (.ok (given.map memory.read), after) :=
    run_bind_of_ok ran
  have responded : (h.view.answer inquiry >>= fun answer => pure (answer.2.map some)).run network
      world = (.ok (response.map some), after) := run_bind_of_ok answered
  rw [read] at told
  exact told.trans responded.symm

/-- Both find the same roster and the same world, whatever else they have in memory. -/
structure Alike (h h' : Host σ) : Prop where
  view : h.view = h'.view
  world : h.world = h'.world

theorem alike_change (network : Network σ) (apart : h.Apart) (place : Nat) (object : Object) :
    Alike (h.after network (.change place object)) h := by
  refine ⟨view_change apart place object, ?_⟩
  rw [Host.after]
  split
  · rfl
  · rfl

/-- A turn does to both what it does to the roster and the world. -/
theorem Alike.after (apart : h.Apart) (apart' : h'.Apart) (alike : Alike h h') (turn : Turn σ) :
    Alike (h.after network turn) (h'.after network turn) := by
  obtain ⟨view, world⟩ := alike
  cases turn with
  | inquire inquiry =>
    obtain ⟨response, answered, -⟩ := after_inquire apart network inquiry
    rw [view, world] at answered
    obtain ⟨view', world', -⟩ := after_of_answered apart' answered
    exact ⟨view'.symm, world'.symm⟩
  | change place object =>
    obtain ⟨first, worldFirst⟩ := alike_change network apart place object
    obtain ⟨second, worldSecond⟩ := alike_change network apart' place object
    exact ⟨first.trans (view.trans second.symm), worldFirst.trans (world.trans worldSecond.symm)⟩
  | reconfigure settings =>
    refine ⟨?_, world⟩
    rw [view_reconfigure apart, view_reconfigure apart', view]
  | rewire state => exact ⟨view, congrArg (fun a => { a with network := state }) world⟩

/-! ### Any number of turns -/

theorem Apart.afterAll (apart : h.Apart) (turns : List (Turn σ)) :
    (h.afterAll network turns).Apart := by
  induction turns generalizing h with
  | nil => exact apart
  | cons turn rest ih => exact ih (apart.after turn)

theorem settings_afterAll (apart : h.Apart) (turns : List (Turn σ)) :
    (h.afterAll network turns).view.settings = settingsAfter h.view.settings turns := by
  induction turns generalizing h with
  | nil => rfl
  | cons turn rest ih =>
    have first : (h.after network turn).view.settings = turn.settings h.view.settings :=
      settings_after apart turn
    exact (ih (apart.after turn)).trans (by rw [first]; rfl)

/-- Up to the first time that servers were assembled, the roster is as good as new. -/
theorem view_of_unserved_all (apart : h.Apart) {settings : Settings}
    (new : h.view = .ofSettings settings) (unserved : h.Unserved network turns) :
    (h.afterAll network turns).view = .ofSettings (settingsAfter settings turns) := by
  induction turns generalizing h settings with
  | nil => exact new
  | cons turn rest ih =>
    exact ih (apart.after turn) (view_of_unserved apart new unserved.1) unserved.2

/-- From then on, the roster keeps the servers. -/
theorem view_of_assembled_all (apart : h.Apart) (kept : h.view.assembled = some servers)
    (turns : List (Turn σ)) : (h.afterAll network turns).view.assembled = some servers := by
  induction turns generalizing h with
  | nil => exact kept
  | cons turn rest ih => exact ih (apart.after turn) (view_of_assembled apart kept turn)

/-- What is the host's own business might as well not happen. -/
theorem alike_shared (apart : h.Apart) (apart' : h'.Apart) (alike : Alike h h')
    (turns : List (Turn σ)) :
    Alike (h.afterAll network turns) (h'.afterAll network (turns.filter Turn.isShared)) := by
  induction turns generalizing h h' with
  | nil => exact alike
  | cons turn rest ih =>
    have shared (kept : turn.isShared = true) :
        Alike ((h.after network turn).afterAll network rest)
          (h'.afterAll network ((turn :: rest).filter Turn.isShared)) := by
      rw [List.filter_cons_of_pos kept]
      exact ih (apart.after turn) (apart'.after turn) (alike.after apart apart' turn)
    cases turn with
    | change place object =>
      obtain ⟨view, world⟩ := alike_change network apart place object
      exact ih (apart.after _) apart' ⟨view.trans alike.view, world.trans alike.world⟩
    | _ => exact shared rfl

/-! ### All or nothing -/

/-- Where the servers are assembled, the host is told of no others, and they are kept. -/
theorem isTold_of_serves (apart : h.Apart) (serves : h.Serves network turn servers)
    (inquiry : Inquiry) :
    h.IsTold network servers inquiry ∧ (h.after network turn).view.assembled = some servers := by
  obtain ⟨asked, rfl, some, served⟩ := (serves_iff apart).mp serves
  have ran : h.view.servers.run network h.world = (.ok servers, _) := Prod.ext served rfl
  constructor
  · by_cases keys : inquiry = .keys
    · obtain ⟨response, -, told, -⟩ := after_inquire apart network inquiry
      exact ⟨_, _, told, keys ▸ trivial⟩
    · obtain ⟨response, world, answered, holds⟩ := answer_of_served keys ran
      exact ⟨_, _, (after_of_answered apart answered).2.2, holds⟩
  · obtain ⟨response, world, answered, -⟩ := answer_of_served some ran
    rw [(after_of_answered apart answered).1]
    rfl

theorem isTold_of_assembled (apart : h.Apart) (kept : h.view.assembled = some servers)
    (inquiry : Inquiry) : h.IsTold network servers inquiry := by
  obtain ⟨response, world, answered, holds⟩ := answer_of_assembled kept inquiry network h.world
  exact ⟨_, _, (after_of_answered apart answered).2.2, holds⟩

/-- A roster is all or nothing. Up to the first time that all servers were assembled, whatever the
host asks is as if it asked a new roster, made from the settings that are there by then; of the keys
this remains so. An inquiry that fails to have the servers changes nothing. From the first time on,
the host is told of no servers but those of that time, in their order. What it does with the
settings that it handed over and with the lists that it was given is not seen at all. -/
theorem assembled_once (network : Network σ) (settings : Settings) (state : σ)
    (turns : List (Turn σ)) :
    let start := fresh settings state
    let now := start.afterAll network turns
    let renewed := fresh (settingsAfter settings turns) state
    let undisturbed := start.afterAll network (turns.filter Turn.isShared)
    (start.Unserved network turns → ∀ inquiry, now.told inquiry = renewed.told inquiry) ∧
      now.told .keys = renewed.told .keys ∧
      (∀ inquiry failure b, inquiry ≠ .keys →
        (now.roster.servers now.memory).run network now.world = (.error failure, b) →
          now.after network (.inquire inquiry) = { now with world := b }) ∧
      (∀ earlier turn later servers, turns = earlier ++ turn :: later →
        (start.afterAll network earlier).Serves network turn servers → ∀ inquiry,
          (start.afterAll network earlier).IsTold network servers inquiry ∧
            now.IsTold network servers inquiry) ∧
      (∀ inquiry, now.told inquiry = undisturbed.told inquiry) ∧
      now.world = undisturbed.world := by
  intro start now renewed undisturbed
  have first : start.Apart := apart_fresh settings state
  have apart : now.Apart := first.afterAll turns
  have apartRenewed : renewed.Apart := apart_fresh _ state
  have shared : Alike now undisturbed := alike_shared first first ⟨rfl, rfl⟩ turns
  refine ⟨fun unserved inquiry => ?_, ?_, fun _ _ _ asked failed => after_of_failed asked failed,
    ?_, fun inquiry => ?_, shared.world⟩
  · have new : now.view = renewed.view := view_of_unserved_all first rfl unserved
    rw [told_eq apart, told_eq apartRenewed, new]
  · have same : now.view.settings = renewed.view.settings := settings_afterAll first turns
    rw [told_eq apart, told_eq apartRenewed, answer, answer, same]
    rfl
  · intro earlier turn later servers split serves inquiry
    have before : (start.afterAll network earlier).Apart := first.afterAll earlier
    obtain ⟨told, kept⟩ := isTold_of_serves before serves inquiry
    have reached : now =
        ((start.afterAll network earlier).after network turn).afterAll network later := by
      rw [show now = start.afterAll network turns from rfl, split, afterAll_append]
      rfl
    refine ⟨told, isTold_of_assembled apart ?_ inquiry⟩
    rw [reached]
    exact view_of_assembled_all (before.after turn) kept later
  · rw [told_eq apart, told_eq (first.afterAll _), shared.view]

end Host

end DirectoryAuth.Roster

namespace DirectoryAuth

namespace Rehearsal

def discoverable : Settings :=
  ⟨[("ldap.realm", .text "x.org"), ("ldap.user.baseDn", .text "dc=x")]⟩

def discovering : Script :=
  { Script.empty with announcements := [("_ldap._tcp.x.org", .ok [⟨0, 0, 389, "dc.x.org"⟩])] }

/-- The discovery fails. The host changes the settings that it handed over, and then the server is
announced. -/
def unannounced : List (Roster.Turn Script) :=
  [.inquire .servers, .change 0 (.settings .empty), .rewire discovering]

/-- The server is discovered. The host empties the list that it is given, and nothing is left of
what the server was assembled from. -/
def discovered : List (Roster.Turn Script) :=
  [.inquire .servers, .change 3 (.servers []), .reconfigure .empty, .rewire Script.empty]

end Rehearsal

open Rehearsal in
/-- A discovery that fails first and succeeds later: up to then the roster is as good as new, and
from then on it has the server. -/
theorem Roster.Host.assembled_once_discovered :
    let start := fresh discoverable Script.empty
    let between := start.afterAll Script.network unannounced
    let now := start.afterAll Script.network (unannounced ++ discovered)
    start.Unserved Script.network unannounced ∧
      (between.told .servers = (fresh discoverable Script.empty).told .servers) ∧
      ∃ server, server.urls = ["ldap://dc.x.org:389"] ∧
        between.Serves Script.network (.inquire .servers) [server] ∧
        now.memory.serversAt 3 = [] ∧ now.IsTold Script.network [server] .servers := by
  intro start between now
  have apart : start.Apart := apart_fresh discoverable Script.empty
  have unserved : start.Unserved Script.network unannounced := by
    refine ⟨fun servers serves => ?_, ?_, ?_, trivial⟩
    · obtain ⟨_, _, _, served⟩ := (serves_iff apart).mp serves
      have failed : (start.view.servers.run Script.network start.world).1.toOption = none := by
        decide +kernel
      rw [served] at failed
      cases failed
    · rintro servers ⟨_, turn, -⟩
      cases turn
    · rintro servers ⟨_, turn, -⟩
      cases turn
  have before : between.Apart := apart.afterAll unannounced
  have found : (between.view.servers.run Script.network between.world).1.toOption.map
      (List.map Server.urls) = some [["ldap://dc.x.org:389"]] := by
    decide +kernel
  obtain ⟨servers, served, urls⟩ := Option.map_eq_some_iff.mp found
  obtain ⟨server, rest, rfl, url, alone⟩ := List.map_eq_cons_iff.mp urls
  cases List.map_eq_nil_iff.mp alone
  have serves : between.Serves Script.network (.inquire .servers) [server] :=
    (serves_iff before).mpr ⟨.servers, rfl, by decide, Operation.eq_ok_of_toOption served⟩
  have once := assembled_once Script.network discoverable Script.empty
  have told := (once (unannounced ++ discovered)).2.2.2.1 unannounced _ _ [server] rfl serves
  refine ⟨unserved, (once unannounced).1 unserved .servers, server, url, serves, ?_,
    (told .servers).2⟩
  decide +kernel

end DirectoryAuth
