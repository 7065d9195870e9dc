import DirectoryAuth.Proofs.Groups.Layers
import DirectoryAuth.Proofs.Network.Rehearsal
import DirectoryAuth.Proofs.Search.Findings
import DirectoryAuth.Proofs.Session.Calls

/-!
# Groups are resolved breadth first

On a steady network, the groups of a user come layer by layer, and with them what they are called.
A walk through the groups keeps a queue; the part of it in front belongs to the layer that is being
asked about, the rest to the layer after it.
-/

namespace DirectoryAuth

open Operation World

variable {σ : Type} {network : Network σ} {a b world after : World σ}

/-! ## Direct groups do not change -/

theorem SearchRequest.findings_after {r : SearchRequest} {session : Session}
    (steady : network.Steady (Call.IsSearchOn session.connection) a.network)
    (steps : Steps network (Call.IsSearchOn session.connection) a b) :
    r.findings session network b = r.findings session network a := by
  unfold findings
  cases r.filter with
  | error failure => rfl
  | ok filter =>
    let q := r.query filter
    have whole : (network.answer (.search session.connection q) b.network).1 = _ :=
      steady.answer_after steps rfl
    have paged : (network.answer (.pagedSearch session.connection q r.limits.page)
        b.network).1 = _ :=
      steady.answer_after steps rfl
    dsimp only [Cursor.left]
    rw [steps.closed_eq fun _ => id, whole, paged]

section Lasting

variable {session : Session}

theorem SearchRequest.all_lasting (r : SearchRequest)
    (steady : network.Steady (Call.IsSearchOn session.connection) world.network) :
    Lasting network (Call.IsSearchOn session.connection) world (r.all session) := by
  refine ⟨r.all_callsOnly session, ?_⟩
  intro after steps
  rw [all_outcome, all_outcome, findings_after steady steps]

theorem SearchRequest.unique_lasting (r : SearchRequest)
    (steady : network.Steady (Call.IsSearchOn session.connection) world.network) :
    Lasting network (Call.IsSearchOn session.connection) world (r.unique session) := by
  refine ⟨r.unique_callsOnly session, ?_⟩
  intro after steps
  rw [unique_outcome, unique_outcome, findings_after steady steps]

theorem SearchRequest.readEntry_lasting (name : String) (attributes : List String)
    (steady : network.Steady (Call.IsSearchOn session.connection) world.network) :
    Lasting network (Call.IsSearchOn session.connection) world
      (readEntry session name attributes) := by
  refine .bind (.attempt (unique_lasting _ steady)) fun outcome => ?_
  match outcome with
  | .ok entry => exact .pure _
  | .error failure =>
    cases failure with
    | search error =>
      dsimp only
      split
      · exact .bind (.log _ _ _) fun _ => .pure _
      · exact .throw _
    | _ => exact .throw _

namespace Groups

theorem listing_lasting (c : Connector) (m : GroupMapping) (search : MemberSearch)
    (member : Entry)
    (steady : network.Steady (Call.IsSearchOn session.connection) world.network) :
    Lasting network (Call.IsSearchOn session.connection) world
      (listing c m search session member) := by
  have parameters : Lasting network (Call.IsSearchOn session.connection) world
      (parameters search.names member) := by
    rw [Groups.parameters]
    cases search.names.mapM (parameter member) with
    | ok values => exact .pure _
    | error name => exact .bind (.log _ _ _) fun _ => .pure _
  refine .bind parameters fun values => ?_
  cases values with
  | none => exact .pure _
  | some values => exact SearchRequest.all_lasting _ steady

theorem listedBy_lasting (m : GroupMapping) (member : Entry)
    (steady : network.Steady (Call.IsSearchOn session.connection) world.network) :
    Lasting network (Call.IsSearchOn session.connection) world (listedBy m session member) := by
  rw [listedBy]
  cases m.memberOf with
  | none => exact .pure _
  | some name =>
    exact .mapM fun name =>
      .bind (SearchRequest.readEntry_lasting _ _ steady) fun _ => .pure _

/-- On a steady network, a member has the same direct groups whenever they are asked for. -/
theorem direct_lasting (c : Connector) (m : GroupMapping) (member : Entry)
    (steady : network.Steady (Call.IsSearchOn session.connection) world.network) :
    Lasting network (Call.IsSearchOn session.connection) world (direct c m session member) := by
  rw [direct]
  cases m.listing with
  | none => exact .bind (.pure _) fun _ => .bind (listedBy_lasting m member steady) fun _ => .pure _
  | some search =>
    refine .bind (listing_lasting c m search member steady) fun _ => ?_
    exact .bind (listedBy_lasting m member steady) fun _ => .pure _

end Groups

end Lasting

namespace Groups

variable {m : GroupMapping} {groupsOf : Entry → List Entry} {user : Entry}

/-! ## Walks -/

/-- What the ids of groups come to: each once, in the place where it comes first. -/
def distinctIds (m : GroupMapping) (groups : List Entry) : List String :=
  (groups.map (idOf m)).eraseDups

theorem distinctIds_concat (m : GroupMapping) (groups : List Entry) (group : Entry) :
    distinctIds m (groups ++ [group]) =
      if (distinctIds m groups).contains (idOf m group) then distinctIds m groups
      else distinctIds m groups ++ [idOf m group] := by
  unfold distinctIds
  rw [List.map_append, List.eraseDups_append]
  generalize groups.map (idOf m) = ids
  by_cases known : idOf m group ∈ ids
  · rw [if_pos (List.contains_iff_mem.mpr (List.mem_eraseDups.mpr known))]
    simp [List.removeAll, known]
  · rw [if_neg fun contained =>
      known (List.mem_eraseDups.mp (List.contains_iff_mem.mp contained))]
    simp [List.removeAll, known, List.eraseDups_cons]

/-- Meeting groups adds the new ones among them, their ids, and where groups are nested, their
turns to be asked. -/
theorem foldl_meet (m : GroupMapping) (groups known queue : List Entry) (seen : List String) :
    groups.foldl (Walk.meet m) ⟨seen, distinctIds m known, queue⟩ =
      ⟨seen ++ keys (fresh seen groups), distinctIds m (known ++ fresh seen groups),
        if m.nested then queue ++ fresh seen groups else queue⟩ := by
  induction groups generalizing seen known queue with
  | nil => simp [fresh, keys]
  | cons group rest ih =>
    rw [List.foldl_cons, Walk.meet]
    by_cases old : group.key ∈ seen
    · rw [if_pos (List.contains_iff_mem.mpr old), ih, fresh, if_pos old]
    · rw [if_neg fun contained => old (List.contains_iff_mem.mp contained), fresh, if_neg old]
      dsimp only
      rw [← distinctIds_concat, ih]
      cases m.nested with
      | true => simp [keys]
      | false => simp [keys]

/-- A walk comes to its end with some ids, where it is known what asking for groups comes to. -/
inductive Drains (m : GroupMapping) (answer : Entry → Except Failure (List Entry)) :
    Walk → List String → Prop
  | done {seen ids : List String} : Drains m answer ⟨seen, ids, []⟩ ids
  | ask {seen ids result : List String} {member : Entry} {queue groups : List Entry}
      (answered : answer member = .ok groups)
      (rest : Drains m answer (groups.foldl (Walk.meet m) ⟨seen, ids, queue⟩) result) :
      Drains m answer ⟨seen, ids, member :: queue⟩ result

theorem drains_of_finish {kind : Call → Prop} {direct : Entry → Operation σ (List Entry)}
    (lasting : ∀ member, Lasting network kind world (direct member)) {limit : Nat} {w : Walk}
    {ids : List String} (steps : Steps network kind world b)
    (ran : (w.finish m direct limit).run network b = (.ok ids, after)) :
    Drains m (fun member => ((direct member).run network world).1) w ids := by
  induction limit generalizing w b with
  | zero =>
    obtain ⟨seen, ids, queue⟩ := w
    cases queue with
    | nil =>
      cases ran
      exact .done
    | cons member queue => cases ran
  | succ limit ih =>
    obtain ⟨seen, ids, queue⟩ := w
    cases queue with
    | nil =>
      cases ran
      exact .done
    | cons member queue =>
      obtain ⟨groups, next, asked, ran⟩ := run_bind_eq_ok ran
      have same := (lasting member).outcome b steps
      rw [asked] at same
      exact .ask same.symm (ih (steps.trans ((lasting member).calls.steps asked)) ran)

/-! ## Walks layer by layer -/

/-- The groups of the layer after `n` that those in `done` list. -/
def discovered (groupsOf : Entry → List Entry) (user : Entry) (n : Nat) (done : List Entry) :
    List Entry :=
  fresh (keys (within groupsOf user (n + 1))) (done.flatMap groupsOf)

theorem discovered_concat (n : Nat) (done : List Entry) (member : Entry) :
    discovered groupsOf user n (done ++ [member]) =
      discovered groupsOf user n done ++
        fresh (keys (within groupsOf user (n + 1)) ++ keys (discovered groupsOf user n done))
          (groupsOf member) := by
  rw [discovered, List.flatMap_append, List.flatMap_singleton, fresh_append]
  rfl

/-- A walk is in the midst of layer `n`: those in `done` were asked, those in `todo` were not. -/
structure Reached (m : GroupMapping) (answer : Entry → Except Failure (List Entry))
    (groupsOf : Entry → List Entry) (user : Entry) (n : Nat) (done todo : List Entry)
    (w : Walk) : Prop where
  layer : layer groupsOf user n = done ++ todo
  seen : w.seen = keys (within groupsOf user (n + 1)) ++ keys (discovered groupsOf user n done)
  ids : w.ids = distinctIds m (groupsUpTo groupsOf user n ++ discovered groupsOf user n done)
  queue : w.queue = todo ++ discovered groupsOf user n done
  answered : ∀ member ∈ within groupsOf user n ++ done, answer member = .ok (groupsOf member)

variable {answer : Entry → Except Failure (List Entry)} {n : Nat} {done todo : List Entry}
  {w : Walk}

theorem reached_start : Reached m answer groupsOf user 0 [] [user] (.start user) := by
  refine ⟨rfl, rfl, rfl, rfl, ?_⟩
  intro member asked
  cases asked

/-- When a layer is done, the walk is at the beginning of the next one. -/
theorem Reached.next (reached : Reached m answer groupsOf user n done [] w) :
    Reached m answer groupsOf user (n + 1) [] (Groups.layer groupsOf user (n + 1)) w := by
  obtain ⟨layer, seen, ids, queue, answered⟩ := reached
  rw [List.append_nil] at layer
  have all : discovered groupsOf user n done = Groups.layer groupsOf user (n + 1) := by
    rw [discovered, ← layer]
    rfl
  rw [all] at seen ids queue
  refine ⟨rfl, ?_, ?_, ?_, ?_⟩
  · rw [seen, within_succ (n + 1), keys_append]
    exact (List.append_nil _).symm
  · rw [ids, groupsUpTo_succ]
    exact (congrArg _ (List.append_nil _)).symm
  · rw [queue]
    exact (List.append_nil _).symm
  · rw [within_succ, layer, List.append_nil]
    exact answered

/-- Whoever is in front of the queue is a member of a layer that was not asked yet. -/
theorem Reached.front {seen ids : List String} {member : Entry} {queue : List Entry}
    (reached : Reached m answer groupsOf user n done todo ⟨seen, ids, member :: queue⟩) :
    ∃ n done todo,
      Reached m answer groupsOf user n done (member :: todo) ⟨seen, ids, member :: queue⟩ := by
  cases todo with
  | nil =>
    have next := reached.next
    have front : Groups.layer groupsOf user (n + 1) = member :: queue := by
      have queue := next.queue
      rw [show discovered groupsOf user (n + 1) [] = [] from rfl, List.append_nil] at queue
      exact queue.symm
    rw [front] at next
    exact ⟨n + 1, [], queue, next⟩
  | cons first todo =>
    obtain ⟨rfl, -⟩ := List.cons.inj reached.queue
    exact ⟨n, done, todo, reached⟩

/-- Asking one member is a step within its layer. -/
theorem Reached.ask (nested : m.nested = true) {seen ids : List String} {member : Entry}
    {queue : List Entry}
    (reached : Reached m answer groupsOf user n done (member :: todo)
      ⟨seen, ids, member :: queue⟩)
    (answered : answer member = .ok (groupsOf member)) :
    Reached m answer groupsOf user n (done ++ [member]) todo
      ((groupsOf member).foldl (Walk.meet m) ⟨seen, ids, queue⟩) := by
  obtain ⟨layer, rfl, rfl, queued, before⟩ := reached
  obtain ⟨-, rfl⟩ := List.cons.inj queued
  rw [foldl_meet, if_pos nested]
  refine ⟨?_, ?_, ?_, ?_, ?_⟩
  · rw [layer, List.append_assoc]
    rfl
  · rw [discovered_concat, keys_append, ← List.append_assoc]
  · rw [discovered_concat, ← List.append_assoc]
  · rw [discovered_concat, ← List.append_assoc]
    rfl
  · intro other asked
    rw [← List.append_assoc] at asked
    rcases List.mem_append.mp asked with old | same
    · exact before other old
    · rw [List.mem_singleton.mp same]
      exact answered

/-- A walk that has come to its end has asked all layers up to the last one. -/
theorem Reached.drained (nested : m.nested = true)
    (listed : ∀ member groups, answer member = .ok groups → groupsOf member = groups)
    {ids : List String} (drains : Drains m answer w ids)
    (reached : Reached m answer groupsOf user n done todo w) :
    ∃ depth, Groups.layer groupsOf user (depth + 1) = [] ∧
      ids = distinctIds m (groupsUpTo groupsOf user depth) ∧
      ∀ member ∈ within groupsOf user (depth + 1), answer member = .ok (groupsOf member) := by
  induction drains generalizing n done todo with
  | @done seen ids =>
    obtain ⟨layer, -, rfl, queue, answered⟩ := reached
    obtain ⟨rfl, none⟩ := List.append_eq_nil_iff.mp queue.symm
    rw [List.append_nil] at layer
    refine ⟨n, ?_, ?_, ?_⟩
    · rw [layer_succ, layer]
      exact none
    · rw [none, List.append_nil]
    · rw [within_succ, layer]
      exact answered
  | @ask seen ids result member queue groups answered rest ih =>
    obtain ⟨n, done, todo, front⟩ := reached.front
    have same := listed member groups answered
    rw [← same] at answered ih
    exact ih (front.ask nested answered)

/-! ## The groups of a user -/

def directly (c : Connector) (m : GroupMapping) (session : Session) (network : Network σ)
    (world : World σ) (member : Entry) : List Entry :=
  match ((direct c m session member).run network world).1 with
  | .ok groups => groups
  | .error _ => []

/-- The groups of a user, breadth first: with nested groups all that are reached from the user,
else those that are reached in one step. -/
structure BreadthFirst (m : GroupMapping) (groupsOf : Entry → List Entry) (user : Entry)
    (groups : List Entry) : Prop where
  /-- One layer comes after the other, from distance one on. -/
  order : ∃ depth, groups = (List.range depth).flatMap fun n => layer groupsOf user (n + 1)
  /-- In a layer are the names at its distance from the user. -/
  distance : ∀ n key, key ∈ keys (layer groupsOf user n) ↔
    Reaches groupsOf user n key ∧ ∀ k < n, ¬ Reaches groupsOf user k key
  /-- A layer has the order in which the layer before lists it. -/
  listed : ∀ n, layer groupsOf user (n + 1) =
    fresh (keys (within groupsOf user (n + 1))) ((layer groupsOf user n).flatMap groupsOf)
  distinct : (keys groups).Nodup
  complete : ∀ key, key ∈ keys groups ↔
    key ≠ user.key ∧ ∃ n, (m.nested = true ∨ n ≤ 1) ∧ Reaches groupsOf user n key

theorem breadthFirst_of_nested (nested : m.nested = true) {depth : Nat}
    (last : layer groupsOf user (depth + 1) = []) :
    BreadthFirst m groupsOf user (groupsUpTo groupsOf user depth) := by
  refine ⟨⟨depth, rfl⟩, fun n key => mem_layer_iff, layer_succ, nodup_keys_groupsUpTo depth, ?_⟩
  intro key
  rw [mem_keys_groupsUpTo]
  constructor
  · rintro ⟨other, n, -, reaches⟩
    exact ⟨other, n, .inl nested, reaches⟩
  · rintro ⟨other, n, -, reaches⟩
    exact ⟨other, reaches_of_last last reaches⟩

theorem breadthFirst_of_flat (flat : ¬ m.nested = true) :
    BreadthFirst m groupsOf user (groupsUpTo groupsOf user 1) := by
  refine ⟨⟨1, rfl⟩, fun n key => mem_layer_iff, layer_succ, nodup_keys_groupsUpTo 1, ?_⟩
  intro key
  rw [mem_keys_groupsUpTo]
  constructor
  · rintro ⟨other, n, le, reaches⟩
    exact ⟨other, n, .inr le, reaches⟩
  · rintro ⟨other, n, nested | le, reaches⟩
    · exact absurd nested flat
    · exact ⟨other, n, le, reaches⟩

/-- Where groups are not nested, a walk asks for the groups of the user alone. -/
theorem Drains.of_flat (flat : ¬ m.nested = true)
    (listed : ∀ member groups, answer member = .ok groups → groupsOf member = groups)
    {ids : List String} (drains : Drains m answer (.start user) ids) :
    ids = distinctIds m (groupsUpTo groupsOf user 1) ∧ answer user = .ok (groupsOf user) := by
  cases drains with
  | @ask _ _ _ _ _ groups answered rest =>
    have same := listed user groups answered
    have met := foldl_meet m groups [] [] [user.key]
    rw [if_neg flat] at met
    change Drains m answer (groups.foldl (Walk.meet m) ⟨[user.key], distinctIds m [], []⟩) ids
      at rest
    rw [met] at rest
    have first : groupsUpTo groupsOf user 1 = fresh [user.key] groups := by
      rw [groupsUpTo_succ, layer_succ, ← same]
      change [] ++ fresh [user.key] (groupsOf user ++ []) = _
      rw [List.nil_append, List.append_nil]
    cases rest
    rw [first, same]
    exact ⟨rfl, answered⟩

/-- On a steady network, the groups of a user are resolved breadth first, and each id is kept where
it comes first. Whoever was asked has the groups that it has directly. -/
theorem resolve_breadth_first {c : Connector} {session : Session} {ids : List String}
    (steady : network.Steady (Call.IsSearchOn session.connection) world.network)
    (ran : (resolve c m session user).run network world = (.ok ids, after)) :
    ∃ groups, BreadthFirst m (directly c m session network world) user groups ∧
      ids = (groups.map (idOf m)).eraseDups ∧
      ∀ member ∈ user :: groups, (m.nested = true ∨ member = user) →
        ((direct c m session member).run network world).1 =
          .ok (directly c m session network world member) := by
  obtain ⟨limit, next, limited, walked⟩ := run_bind_eq_ok ran
  cases limited
  have drains := drains_of_finish (fun member => direct_lasting c m member steady)
    (Steps.refl world) walked
  have listed : ∀ member groups, ((direct c m session member).run network world).1 = .ok groups →
      directly c m session network world member = groups := by
    intro member groups answered
    rw [directly, answered]
  by_cases nested : m.nested = true
  · obtain ⟨depth, last, found, answered⟩ := reached_start.drained nested listed drains
    refine ⟨_, breadthFirst_of_nested nested last, found, ?_⟩
    intro member asked _
    rw [← within_succ_eq_cons] at asked
    exact answered member asked
  · obtain ⟨found, answered⟩ := drains.of_flat nested listed
    refine ⟨_, breadthFirst_of_flat nested, found, ?_⟩
    rintro member - (isNested | rfl)
    · exact absurd isNested nested
    · exact answered

section Rehearsal

open Rehearsal

def listingNames : GroupMapping :=
  ⟨some ⟨"dc=g", "(member={0})", ["dn"]⟩, none, GroupMapping.defaultIdAttribute, true⟩

/-- Groups in a cycle, one of them with the user as its member. Names differ in letter case, and two
groups have the same id. -/
def cyclic : Script :=
  let listing (member : String) (groups : List (String × String)) : Script.Rule :=
    { Script.Rule.empty with
      filter := some s!"(member={member})"
      items := groups.map fun (name, id) => item (some name) [("cn", id)] }
  script { Script.Directory.empty with
    rules := [
      listing "u" [("A", "x"), ("B", "y")],
      listing "A" [("b", "w"), ("C", "x")],
      listing "B" [("a", "v"), ("U", "u")],
      listing "C" [("A", "x"), ("D", "z")]] }

theorem resolve_cyclic :
    let c : Connector := ⟨server .simple .none (some listingNames)⟩
    let s := session c.server
    let user : Entry := ⟨"u", .empty⟩
    let start := World.start cyclic
    Script.network.Steady (Call.IsSearchOn s.connection) start.network ∧
      ((resolve c listingNames s user).run Script.network start).1.toOption =
        some ["x", "y", "z"] ∧
      ∃ groups,
        BreadthFirst listingNames (directly c listingNames s Script.network start) user groups ∧
          ["x", "y", "z"] = (groups.map (idOf listingNames)).eraseDups ∧
          ∀ member ∈ user :: groups, (listingNames.nested = true ∨ member = user) →
            ((direct c listingNames s member).run Script.network start).1 =
              .ok (directly c listingNames s Script.network start member) := by
  intro c s user start
  have steady : Script.network.Steady (Call.IsSearchOn s.connection) start.network :=
    Script.network_steady (fun _ _ => id) cyclic
  have ids : ((resolve c listingNames s user).run Script.network start).1.toOption =
      some ["x", "y", "z"] := by
    decide +kernel
  exact ⟨steady, ids, resolve_breadth_first steady (run_eq_of_toOption ids)⟩

end Rehearsal

end Groups

end DirectoryAuth
