import DirectoryAuth.Proofs.Groups.BreadthFirst
import DirectoryAuth.Proofs.Lookup.Saying

/-!
# Nesting only appends

Whether groups are nested decides whether a walk goes on behind the groups of the user itself. In a
static network these are the same with nesting and without it, although nested groups are asked for
more attributes; and a walk that goes on forgets no id that it has.
-/

namespace DirectoryAuth.Groups

open Operation World

variable {σ : Type} {network : Network σ} {state : σ} {p q : Nat} {a b after after' : World σ}
  {c : Connector} {m n : GroupMapping} {s s' : Session} {user : Entry}

/-! ## Direct groups -/

theorem parameters_agree (names : List String) (member : Entry) :
    Agree network state p q Eq (parameters names member) (parameters names member) := by
  rw [parameters]
  cases names.mapM (parameter member) with
  | ok values => exact .pure rfl
  | error name => exact (Agree.log _ _ _ _).bind_same fun _ => .pure rfl

theorem listing_agree (static : network.Static state) (sessions : Session.Abreast p q s s')
    (search : MemberSearch) (member : Entry) :
    Agree network state p q Eq (listing c m search s member) (listing c n search s' member) := by
  refine (parameters_agree search.names member).bind_same fun values => ?_
  cases values with
  | none => exact .pure rfl
  | some values =>
    exact SearchRequest.all_agree (static.overlooks _ _) sessions
      ⟨search.base, search.request, values, [], .subtree, c.server.limits⟩

theorem listedBy_agree (static : network.Static state) (sessions : Session.Abreast p q s s')
    (memberOf : m.memberOf = n.memberOf) (member : Entry) :
    Agree network state p q Eq (listedBy m s member) (listedBy n s' member) := by
  rw [listedBy, listedBy, memberOf]
  cases n.memberOf with
  | none => exact .pure rfl
  | some name =>
    refine .mapM_eq fun name => ?_
    exact (SearchRequest.readEntry_agree (static.overlooks _ _) sessions name).bind_same
      fun _ => .pure rfl

/-- In a static network, mappings that look for the groups of a member in the same ways come to the
same groups, whatever else they ask of each group. -/
theorem direct_agree (static : network.Static state) (sessions : Session.Abreast p q s s')
    (listing : m.listing = n.listing) (memberOf : m.memberOf = n.memberOf) (member : Entry) :
    Agree network state p q Eq (direct c m s member) (direct c n s' member) := by
  have behind (groups : List Entry) :
      Agree network state p q Eq (do return groups ++ (← listedBy m s member))
        (do return groups ++ (← listedBy n s' member)) :=
    (listedBy_agree static sessions memberOf member).bind_same fun _ => .pure rfl
  rw [direct, direct, listing]
  cases n.listing with
  | none => exact behind []
  | some search => exact (listing_agree static sessions search member).bind_same behind

/-! ## Walks -/

namespace Walk

theorem ids_meet (m : GroupMapping) (w : Walk) (group : Entry) :
    w.ids <+: (w.meet m group).ids := by
  rw [meet]
  split
  · exact List.prefix_refl _
  · dsimp only
    split
    · exact List.prefix_refl _
    · exact List.prefix_append _ _

theorem ids_foldl_meet (m : GroupMapping) (w : Walk) (groups : List Entry) :
    w.ids <+: (groups.foldl (meet m) w).ids := by
  induction groups generalizing w with
  | nil => exact List.prefix_refl _
  | cons group rest ih => exact (ids_meet m w group).trans (ih _)

/-- A walk that comes to its end has kept the ids that it began with, in front of all others. -/
theorem ids_finish {direct : Entry → Operation σ (List Entry)} {limit : Nat} {w : Walk}
    {ids : List String} (ran : (w.finish m direct limit).run network a = (.ok ids, after)) :
    w.ids <+: ids := by
  induction limit generalizing w a with
  | zero =>
    obtain ⟨seen, known, queue⟩ := w
    cases queue with
    | nil =>
      cases ran
      exact List.prefix_refl _
    | cons member queue => cases ran
  | succ limit ih =>
    obtain ⟨seen, known, queue⟩ := w
    cases queue with
    | nil =>
      cases ran
      exact List.prefix_refl _
    | cons member queue =>
      obtain ⟨groups, next, -, ran⟩ := run_bind_eq_ok ran
      exact (ids_foldl_meet m ⟨seen, known, queue⟩ groups).trans (ih ran)

end Walk

/-! ## The groups of a user -/

/-- The walk that has met the groups of the user, and asked for no others. -/
def metDirectly (m : GroupMapping) (user : Entry) (groups : List Entry) : Walk :=
  groups.foldl (Walk.meet m) ⟨[user.key], [], []⟩

theorem metDirectly_eq (m : GroupMapping) (user : Entry) (groups : List Entry) :
    metDirectly m user groups =
      ⟨user.key :: keys (fresh [user.key] groups), distinctIds m (fresh [user.key] groups),
        if m.nested then fresh [user.key] groups else []⟩ :=
  foldl_meet m groups [] [] [user.key]

/-- Whoever resolves the groups of a user asks for those that it has directly, and goes on from
there. -/
theorem resolve_eq_ok {ids : List String}
    (ran : (resolve c m s user).run network a = (.ok ids, after)) :
    ∃ groups next limit, (direct c m s user).run network a = (.ok groups, next) ∧
      ((metDirectly m user groups).finish m (direct c m s) limit).run network next =
        (.ok ids, after) := by
  obtain ⟨limit, next, limited, ran⟩ := run_bind_eq_ok ran
  cases limited
  obtain ⟨groups, next, asked, ran⟩ := run_bind_eq_ok ran
  exact ⟨groups, next, _, asked, ran⟩

/-- Nesting only appends. In a static network, the groups of a user with nesting begin with the
groups of the user without it, whenever each of them is resolved and in whichever of the sessions
that were opened alike. -/
theorem resolve_nesting_appends (static : network.Static state)
    (abreast : Abreast network state p q a b) (sessions : Session.Abreast p q s s')
    {flat deep : List String}
    (flatly : (resolve c { m with nested := false } s user).run network a = (.ok flat, after))
    (deeply : (resolve c { m with nested := true } s' user).run network b = (.ok deep, after')) :
    flat <+: deep := by
  obtain ⟨groups, next, limit, asked, ended⟩ := resolve_eq_ok flatly
  obtain ⟨groups', next', limit', asked', went⟩ := resolve_eq_ok deeply
  -- Both walks meet the same groups first.
  have agree := (direct_agree (c := c) (m := { m with nested := false })
    (n := { m with nested := true }) static sessions rfl rfl user a b abreast).1.eq
  rw [asked, asked'] at agree
  cases agree
  have first : flat = distinctIds m (fresh [user.key] groups) := by
    rw [metDirectly_eq] at ended
    cases limit <;> cases ended <;> rfl
  have kept := Walk.ids_finish went
  rw [metDirectly_eq] at kept
  rw [first]
  exact kept

section Rehearsal

open Rehearsal

/-- Among groups in a cycle, nesting adds one id, of a group behind others that have the same. -/
theorem resolve_nesting_appends_cyclic :
    let c : Connector := ⟨server .simple .none (some listingNames)⟩
    let s := session c.server
    let user : Entry := ⟨"u", .empty⟩
    let start := World.start cyclic
    let flat := (resolve c { listingNames with nested := false } s user).run Script.network start
    let deep := (resolve c { listingNames with nested := true } s user).run Script.network start
    Script.network.Static cyclic ∧ Abreast Script.network cyclic 0 0 start start ∧
      Session.Abreast 0 0 s s ∧ flat.1.toOption = some ["x", "y"] ∧
      deep.1.toOption = some ["x", "y", "z"] ∧ ["x", "y"] <+: ["x", "y", "z"] := by
  intro c s user start flat deep
  have static := Script.network_static cyclic
  have abreast : Abreast Script.network cyclic 0 0 start start :=
    ⟨.refl, .refl, ⟨0, rfl, rfl⟩, fun _ => Iff.rfl⟩
  have sessions : Session.Abreast 0 0 s s := ⟨rfl, rfl, 0, rfl, rfl⟩
  have flatly : flat.1.toOption = some ["x", "y"] := by decide +kernel
  have deeply : deep.1.toOption = some ["x", "y", "z"] := by decide +kernel
  exact ⟨static, abreast, sessions, flatly, deeply,
    resolve_nesting_appends static abreast sessions (run_eq_of_toOption flatly)
      (run_eq_of_toOption deeply)⟩

end Rehearsal

end DirectoryAuth.Groups
