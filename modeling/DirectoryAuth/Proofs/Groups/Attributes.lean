import DirectoryAuth.Groups
import DirectoryAuth.Proofs.Search.Sparing

/-!
# Attributes that groups are found with

A user is looked for with the attributes that its groups are found with, and so is each group where
groups are nested; in addition a group is asked for what it is called by. Nothing else is read of
either. Whatever other attributes a directory gives, the groups of a user are the same, and the same
searches find them.
-/

namespace DirectoryAuth

open Operation

variable {σ : Type} {network : Network σ} {c : Connector} {m : GroupMapping} {session : Session}

namespace GroupMapping

/-- A name in a request that is not the member's own is that of an attribute. -/
theorem name_mem_memberAttributes {search : MemberSearch} (listing : m.listing = some search)
    {name : String} (mem : name ∈ search.names) (other : isMemberName name = false) :
    name ∈ m.memberAttributes := by
  rw [memberAttributes, listing]
  refine List.mem_append_left _ (List.mem_filter.mpr ⟨mem, ?_⟩)
  rw [other]
  rfl

theorem memberOf_mem_memberAttributes {name : String} (memberOf : m.memberOf = some name) :
    name ∈ m.memberAttributes := by
  rw [memberAttributes, memberOf]
  exact List.mem_append_right _ (List.mem_singleton_self _)

theorem idAttribute_mem_groupAttributes (m : GroupMapping) :
    m.idAttribute ∈ m.groupAttributes := List.mem_cons_self

/-- Groups that are followed have what their groups are found with. -/
theorem memberAttributes_subset (nested : m.nested = true) :
    m.memberAttributes ⊆ m.groupAttributes := by
  rw [groupAttributes, if_pos nested]
  exact List.subset_cons_self _ _

end GroupMapping

namespace Groups

variable {member member' : Entry}

/-! ## Direct groups -/

theorem mapM_congr {α β ε : Type} {f g : α → Except ε β} {items : List α}
    (each : ∀ item ∈ items, f item = g item) : items.mapM f = items.mapM g := by
  induction items with
  | nil => rfl
  | cons item rest ih =>
    rw [List.mapM_cons, List.mapM_cons, each item List.mem_cons_self,
      ih fun item mem => each item (List.mem_cons_of_mem _ mem)]

theorem parameters_spares {search : MemberSearch} (listing : m.listing = some search)
    (agree : member.AgreesOn m.memberAttributes member') :
    Spares network Eq (parameters search.names member) (parameters search.names member') := by
  have each : ∀ name ∈ search.names, parameter member name = parameter member' name := by
    intro name mem
    rw [parameter, parameter, agree.name]
    cases own : GroupMapping.isMemberName name with
    | true => rfl
    | false =>
      rw [agree.first (GroupMapping.name_mem_memberAttributes listing mem own)]
  rw [parameters, parameters, mapM_congr each, agree.name]
  cases search.names.mapM (parameter member') with
  | ok values => exact .pure rfl
  | error name => exact (Spares.log _ _ _).bind_same fun _ => .pure rfl

def Given (m : GroupMapping) (groups groups' : List Entry) : Prop :=
  groups.map (Entry.sparing m.groupAttributes) = groups'

theorem listing_spares {search : MemberSearch} (listed : m.listing = some search)
    (agree : member.AgreesOn m.memberAttributes member') :
    Spares network (Given m) (listing c m search session member)
      (listing c m search session member') := by
  refine (parameters_spares listed agree).bind_same fun values => ?_
  cases values with
  | none => exact .pure rfl
  | some values =>
    let request : SearchRequest :=
      ⟨search.base, search.request, values, m.groupAttributes, .subtree, c.server.limits⟩
    exact request.all_spares session

theorem named_spares (name : String) :
    Spares network (fun group group' => group.sparing m.groupAttributes = group')
      (named m session name) (named m session name) := by
  refine (SearchRequest.readEntry_spares session name _).bind fun found found' same => .pure ?_
  cases same
  cases found with
  | none => rfl
  | some group => rfl

theorem listedBy_spares (agree : member.AgreesOn m.memberAttributes member') :
    Spares network (Given m) (listedBy m session member) (listedBy m session member') := by
  rw [listedBy, listedBy]
  cases memberOf : m.memberOf with
  | none => exact .pure rfl
  | some name =>
    dsimp only
    rw [agree.values name (GroupMapping.memberOf_mem_memberAttributes memberOf)]
    have each : Spares network
        (List.Forall₂ fun group group' => group.sparing m.groupAttributes = group')
        ((member'.values name).mapM (named m session))
        ((member'.values name).mapM (named m session)) := .mapM_same named_spares
    refine each.mono fun groups groups' given => ?_
    rwa [← List.forall₂_map_left_iff, List.forall₂_eq_eq_eq] at given

theorem direct_spares (agree : member.AgreesOn m.memberAttributes member') :
    Spares network (Given m) (direct c m session member) (direct c m session member') := by
  have behind {groups groups' : List Entry} (given : Given m groups groups') :
      Spares network (Given m) (do return groups ++ (← listedBy m session member))
        (do return groups' ++ (← listedBy m session member')) := by
    refine (listedBy_spares agree).bind fun others others' given' => .pure ?_
    rw [Given, ← given, ← given', List.map_append]
  rw [direct, direct]
  cases listed : m.listing with
  | none => exact behind rfl
  | some search => exact (listing_spares listed agree).bind fun _ _ given => behind given

/-! ## All groups -/

theorem idOf_sparing (m : GroupMapping) (group : Entry) :
    idOf m (group.sparing m.groupAttributes) = idOf m group := by
  have agree := group.agreesOn_sparing (List.Subset.refl m.groupAttributes)
  rw [idOf, idOf, ← agree.first m.idAttribute_mem_groupAttributes]
  rfl

namespace Walk

/-- The walks have met the same groups, and are to go on from the same members. -/
structure Spared (m : GroupMapping) (w w' : Walk) : Prop where
  seen : w.seen = w'.seen
  ids : w.ids = w'.ids
  queue : List.Forall₂ (Entry.AgreesOn m.memberAttributes) w.queue w'.queue

variable {w w' : Walk}

theorem start_spared (agree : member.AgreesOn m.memberAttributes member') :
    Spared m (.start member) (.start member') :=
  ⟨congrArg ([·]) agree.key, rfl, .cons agree .nil⟩

/-- A group is met alike with all of its attributes and with those that were asked for. -/
theorem meet_spared (spared : Spared m w w') (group : Entry) :
    Spared m (meet m w group) (meet m w' (group.sparing m.groupAttributes)) := by
  have key : (group.sparing m.groupAttributes).key = group.key := rfl
  rw [meet, meet, key, idOf_sparing, ← spared.seen, ← spared.ids]
  split
  · exact spared
  · refine ⟨rfl, rfl, ?_⟩
    dsimp only
    split
    · next nested =>
      have agree := group.agreesOn_sparing (GroupMapping.memberAttributes_subset nested)
      exact List.rel_append spared.queue (.cons agree .nil)
    · exact spared.queue

theorem foldl_meet_spared (spared : Spared m w w') (groups : List Entry) :
    Spared m (groups.foldl (meet m) w)
      ((groups.map (Entry.sparing m.groupAttributes)).foldl (meet m) w') := by
  induction groups generalizing w w' with
  | nil => exact spared
  | cons group groups ih => exact ih (meet_spared spared group)

theorem finish_spares (limit : Nat) (spared : Spared m w w') :
    Spares network Eq (finish m (direct c m session) limit w)
      (finish m (direct c m session) limit w') := by
  induction limit generalizing w w' with
  | zero =>
    obtain ⟨seen, ids, queue⟩ := w
    obtain ⟨seen', ids', queue'⟩ := w'
    obtain ⟨rfl, rfl, alike⟩ := spared
    cases alike with
    | nil => exact .pure rfl
    | cons _ _ => exact .throw _
  | succ limit ih =>
    obtain ⟨seen, ids, queue⟩ := w
    obtain ⟨seen', ids', queue'⟩ := w'
    obtain ⟨rfl, rfl, alike⟩ := spared
    cases alike with
    | nil => exact .pure rfl
    | @cons member member' queue queue' agree rest =>
      refine (direct_spares agree).bind fun groups groups' given => ?_
      rw [← given]
      have before : Spared m ⟨seen, ids, queue⟩ ⟨seen, ids, queue'⟩ := ⟨rfl, rfl, rest⟩
      exact ih (foldl_meet_spared before groups)

end Walk

theorem limit_spares (agree : member.AgreesOn m.memberAttributes member') :
    Spares network Eq (limit m member) (limit m member') := by
  have listed : (m.memberOf.map member.values).getD [] =
      (m.memberOf.map member'.values).getD [] := by
    cases memberOf : m.memberOf with
    | none => rfl
    | some name => exact agree.values name (GroupMapping.memberOf_mem_memberAttributes memberOf)
  have same : (limit m member : Operation σ Nat) = limit m member' := by
    unfold limit
    rw [listed]
  rw [same]
  exact .numbering fun bound numbers =>
    (bound + ((m.memberOf.map member'.values).getD []).length + 1, numbers)

/-- The groups of a user do not depend on any attribute that was not asked for. -/
theorem resolve_spares (agree : member.AgreesOn m.memberAttributes member') :
    Spares network Eq (resolve c m session member) (resolve c m session member') :=
  (limit_spares agree).bind_same fun limit => Walk.finish_spares limit (Walk.start_spared agree)

/-! ## Logins -/

def ofLogin (c : Connector) (m : GroupMapping) (session : Session) (login : String) :
    Operation σ (Option (List String)) := do
  match ← Lookup.findUser c session login m.memberAttributes with
  | none => pure none
  | some user => return some (← resolve c m session user)

theorem ofLogin_spares (c : Connector) (m : GroupMapping) (session : Session) (login : String) :
    Spares network Eq (ofLogin c m session login) (ofLogin c m session login) := by
  refine (SearchRequest.unique_spares _ session).bind fun found found' same => ?_
  cases same
  cases found with
  | none => exact .pure rfl
  | some user =>
    have agree := user.agreesOn_sparing (List.Subset.refl m.memberAttributes)
    exact (resolve_spares agree).bind_same fun groups => .pure rfl

/-- The attributes that are asked for suffice. Where a directory gives nothing else, the groups of a
login are those that are found where it gives all attributes of every entry, or the same failure
ends the search for them; they are looked for by the same calls, and the same records are written.
The same is true of the groups of any entry of a user. -/
theorem asked_attributes_suffice (network : Network σ) (c : Connector) (m : GroupMapping)
    (session : Session) (a : World σ) :
    (∀ login,
      let all := (ofLogin c m session login).run network a
      let asked := (ofLogin c m session login).run network.sparing a
      all.1 = asked.1 ∧ all.2.calls = asked.2.calls ∧ all.2.records = asked.2.records) ∧
    ∀ user : Entry,
      let all := (resolve c m session user).run network a
      let asked := (resolve c m session (user.sparing m.memberAttributes)).run network.sparing a
      all.1 = asked.1 ∧ all.2.calls = asked.2.calls ∧ all.2.records = asked.2.records := by
  refine ⟨fun login => ?_, fun user => ?_⟩
  · obtain ⟨outcome, spared⟩ := ofLogin_spares c m session login a a (.refl a)
    exact ⟨outcome.eq, spared.calls, spared.records⟩
  · have agree := user.agreesOn_sparing (List.Subset.refl m.memberAttributes)
    obtain ⟨outcome, spared⟩ := resolve_spares agree a a (.refl a)
    exact ⟨outcome.eq, spared.calls, spared.records⟩

end Groups

end DirectoryAuth
