import DirectoryAuth.Groups
import Mathlib.Data.List.Nodup

/-!
# Layers of groups

What breadth-first order is, said without a queue. The user is the only one in layer zero. The next
layer are the groups of the last one that were not met before, each under the entry that names it
first. A layer holds exactly the groups at its distance from the user.
-/

namespace DirectoryAuth.Groups

def keys (entries : List Entry) : List String := entries.map Entry.key

@[simp] theorem keys_append (first second : List Entry) :
    keys (first ++ second) = keys first ++ keys second :=
  List.map_append

theorem mem_keys {entries : List Entry} {key : String} :
    key ∈ keys entries ↔ ∃ entry ∈ entries, entry.key = key :=
  List.mem_map

/-! ## New groups -/

/-- The groups that are not seen yet, each where it comes first. -/
def fresh : List String → List Entry → List Entry
  | _, [] => []
  | seen, group :: rest =>
    if group.key ∈ seen then fresh seen rest else group :: fresh (seen ++ [group.key]) rest

theorem fresh_append (seen : List String) (first second : List Entry) :
    fresh seen (first ++ second) =
      fresh seen first ++ fresh (seen ++ keys (fresh seen first)) second := by
  induction first generalizing seen with
  | nil => simp [fresh, keys]
  | cons group rest ih =>
    rw [List.cons_append]
    by_cases old : group.key ∈ seen
    · rw [fresh, if_pos old, fresh, if_pos old]
      exact ih seen
    · rw [fresh, if_neg old, fresh, if_neg old, ih]
      simp [keys]

theorem mem_of_mem_fresh {seen : List String} {groups : List Entry} {group : Entry}
    (h : group ∈ fresh seen groups) : group ∈ groups ∧ group.key ∉ seen := by
  induction groups generalizing seen with
  | nil => cases h
  | cons first rest ih =>
    by_cases old : first.key ∈ seen
    · rw [fresh, if_pos old] at h
      obtain ⟨member, new⟩ := ih h
      exact ⟨List.mem_cons_of_mem _ member, new⟩
    · rw [fresh, if_neg old] at h
      rcases List.mem_cons.mp h with rfl | later
      · exact ⟨List.mem_cons_self, old⟩
      · obtain ⟨member, new⟩ := ih later
        refine ⟨List.mem_cons_of_mem _ member, ?_⟩
        intro seenBefore
        exact new (List.mem_append_left _ seenBefore)

theorem mem_keys_fresh (seen : List String) {groups : List Entry} {group : Entry}
    (member : group ∈ groups) : group.key ∈ seen ∨ group.key ∈ keys (fresh seen groups) := by
  induction groups generalizing seen with
  | nil => cases member
  | cons first rest ih =>
    by_cases old : first.key ∈ seen
    · rw [fresh, if_pos old]
      rcases List.mem_cons.mp member with rfl | later
      · exact .inl old
      · exact ih seen later
    · rw [fresh, if_neg old]
      rcases List.mem_cons.mp member with rfl | later
      · exact .inr List.mem_cons_self
      · rcases ih (seen ++ [first.key]) later with seenNow | found
        · rcases List.mem_append.mp seenNow with seenBefore | same
          · exact .inl seenBefore
          · rw [List.mem_singleton.mp same]
            exact .inr List.mem_cons_self
        · exact .inr (List.mem_cons_of_mem _ found)

theorem nodup_keys_fresh (seen : List String) (groups : List Entry) :
    (keys (fresh seen groups)).Nodup := by
  induction groups generalizing seen with
  | nil => exact List.nodup_nil
  | cons first rest ih =>
    by_cases old : first.key ∈ seen
    · rw [fresh, if_pos old]
      exact ih seen
    · rw [fresh, if_neg old]
      refine List.nodup_cons.mpr ⟨?_, ih _⟩
      intro again
      obtain ⟨group, member, same⟩ := mem_keys.mp again
      have new := (mem_of_mem_fresh member).2
      rw [same] at new
      exact new (List.mem_append_right _ (List.mem_singleton_self _))

/-! ## Layers -/

variable (groupsOf : Entry → List Entry) (user : Entry)

/-- All entries in front of a layer, and the layer. -/
def layers : Nat → List Entry × List Entry
  | 0 => ([], [user])
  | n + 1 =>
    let (before, last) := layers n
    (before ++ last, fresh (keys (before ++ last)) (last.flatMap groupsOf))

/-- The entries in front of layer `n`, in the order of their discovery. -/
def within (n : Nat) : List Entry := (layers groupsOf user n).1

def layer (n : Nat) : List Entry := (layers groupsOf user n).2

variable {groupsOf} {user}

theorem within_succ (n : Nat) :
    within groupsOf user (n + 1) = within groupsOf user n ++ layer groupsOf user n := rfl

theorem layer_succ (n : Nat) :
    layer groupsOf user (n + 1) =
      fresh (keys (within groupsOf user (n + 1))) ((layer groupsOf user n).flatMap groupsOf) := rfl

/-- Layers follow one another. -/
theorem within_eq_flatMap (n : Nat) :
    within groupsOf user n = (List.range n).flatMap (layer groupsOf user) := by
  induction n with
  | zero => rfl
  | succ n ih =>
    rw [within_succ, ih, List.range_succ, List.flatMap_append, List.flatMap_singleton]

theorem mem_within {n : Nat} {entry : Entry} :
    entry ∈ within groupsOf user n ↔ ∃ k < n, entry ∈ layer groupsOf user k := by
  rw [within_eq_flatMap, List.mem_flatMap]
  simp only [List.mem_range]

/-- No name in a layer is in front of it. -/
theorem not_mem_within {n : Nat} {entry : Entry} (member : entry ∈ layer groupsOf user n) :
    entry.key ∉ keys (within groupsOf user n) := by
  cases n with
  | zero => exact List.not_mem_nil
  | succ n => exact (mem_of_mem_fresh member).2

theorem nodup_keys_layer (n : Nat) : (keys (layer groupsOf user n)).Nodup := by
  cases n with
  | zero => exact List.nodup_singleton _
  | succ n => exact nodup_keys_fresh _ _

/-- No two entries that are discovered have the same name. -/
theorem nodup_keys_within (n : Nat) : (keys (within groupsOf user n)).Nodup := by
  induction n with
  | zero => exact List.nodup_nil
  | succ n ih =>
    rw [within_succ, keys_append, List.nodup_append]
    refine ⟨ih, nodup_keys_layer n, ?_⟩
    rintro key before _ last rfl
    obtain ⟨entry, member, rfl⟩ := mem_keys.mp last
    exact not_mem_within member before

/-- The layer of a name, and the entry under which it was discovered, are its own. -/
theorem layer_unique {i j : Nat} {first second : Entry} (member : first ∈ layer groupsOf user i)
    (member' : second ∈ layer groupsOf user j) (same : first.key = second.key) :
    i = j ∧ first = second := by
  have earlier : ∀ {i j : Nat} {first second : Entry}, first ∈ layer groupsOf user i →
      second ∈ layer groupsOf user j → first.key = second.key → ¬ i < j := by
    intro i j first second member member' same before
    have known : first ∈ within groupsOf user j := mem_within.mpr ⟨i, before, member⟩
    exact not_mem_within member' (mem_keys.mpr ⟨first, known, same⟩)
  have here : i = j := by
    have notBefore := earlier member member' same
    have notAfter := earlier member' member same.symm
    omega
  subst here
  exact ⟨rfl, List.inj_on_of_nodup_map (nodup_keys_layer i) member member' same⟩

theorem layer_eq_nil_of_le {n k : Nat} (last : layer groupsOf user n = []) (le : n ≤ k) :
    layer groupsOf user k = [] := by
  induction le with
  | refl => exact last
  | step _ ih =>
    rw [layer_succ, ih]
    rfl

def groupsUpTo (groupsOf : Entry → List Entry) (user : Entry) (n : Nat) : List Entry :=
  (List.range n).flatMap fun k => layer groupsOf user (k + 1)

theorem groupsUpTo_succ (n : Nat) :
    groupsUpTo groupsOf user (n + 1) =
      groupsUpTo groupsOf user n ++ layer groupsOf user (n + 1) := by
  rw [groupsUpTo, List.range_succ, List.flatMap_append, List.flatMap_singleton]
  rfl

theorem within_succ_eq_cons (n : Nat) :
    within groupsOf user (n + 1) = user :: groupsUpTo groupsOf user n := by
  induction n with
  | zero => rfl
  | succ n ih =>
    rw [within_succ, ih, groupsUpTo_succ]
    rfl

theorem nodup_keys_groupsUpTo (n : Nat) : (keys (groupsUpTo groupsOf user n)).Nodup := by
  have all : (keys (within groupsOf user (n + 1))).Nodup := nodup_keys_within (n + 1)
  rw [within_succ_eq_cons] at all
  exact (List.nodup_cons.mp all).2

/-! ## Distances -/

/-- Under a name, the user or a group is discovered. -/
def Discovered (groupsOf : Entry → List Entry) (user entry : Entry) : Prop :=
  ∃ n, entry ∈ layer groupsOf user n

/-- In a number of steps, a name is reached from the user. A step leads from the entry under which
a name was first discovered to one of its groups. -/
inductive Reaches (groupsOf : Entry → List Entry) (user : Entry) : Nat → String → Prop
  | user : Reaches groupsOf user 0 user.key
  | group {n : Nat} {member group : Entry} (reaches : Reaches groupsOf user n member.key)
      (discovered : Discovered groupsOf user member) (listed : group ∈ groupsOf member) :
      Reaches groupsOf user (n + 1) group.key

theorem reaches_of_mem_layer {n : Nat} {entry : Entry} (member : entry ∈ layer groupsOf user n) :
    Reaches groupsOf user n entry.key := by
  induction n generalizing entry with
  | zero =>
    rw [List.mem_singleton.mp member]
    exact .user
  | succ n ih =>
    obtain ⟨lister, last, listed⟩ := List.mem_flatMap.mp (mem_of_mem_fresh member).1
    exact .group (ih last) ⟨n, last⟩ listed

theorem mem_layer_of_reaches {n : Nat} {key : String} (reaches : Reaches groupsOf user n key) :
    ∃ k ≤ n, ∃ entry ∈ layer groupsOf user k, entry.key = key := by
  induction reaches with
  | user => exact ⟨0, Nat.le_refl 0, user, List.mem_singleton_self _, rfl⟩
  | @group n member group _ discovered listed ih =>
    obtain ⟨k, le, entry, here, same⟩ := ih
    obtain ⟨l, discovered⟩ := discovered
    obtain ⟨rfl, rfl⟩ := layer_unique here discovered same
    have next : group ∈ (layer groupsOf user k).flatMap groupsOf :=
      List.mem_flatMap.mpr ⟨entry, here, listed⟩
    rcases mem_keys_fresh (keys (within groupsOf user (k + 1))) next with known | new
    · obtain ⟨other, known, named⟩ := mem_keys.mp known
      obtain ⟨l, before, known⟩ := mem_within.mp known
      exact ⟨l, by omega, other, known, named⟩
    · obtain ⟨other, new, named⟩ := mem_keys.mp new
      exact ⟨k + 1, by omega, other, new, named⟩

/-- A layer holds the names at its distance from the user, and no others. -/
theorem mem_layer_iff {n : Nat} {key : String} :
    key ∈ keys (layer groupsOf user n) ↔
      Reaches groupsOf user n key ∧ ∀ k < n, ¬ Reaches groupsOf user k key := by
  constructor
  · intro named
    obtain ⟨entry, member, rfl⟩ := mem_keys.mp named
    refine ⟨reaches_of_mem_layer member, ?_⟩
    intro k before reaches
    obtain ⟨l, le, other, found, same⟩ := mem_layer_of_reaches reaches
    have here := (layer_unique found member same).1
    omega
  · rintro ⟨reaches, nearest⟩
    obtain ⟨k, le, entry, member, rfl⟩ := mem_layer_of_reaches reaches
    rcases Nat.lt_or_eq_of_le le with before | rfl
    · exact absurd (reaches_of_mem_layer member) (nearest k before)
    · exact mem_keys.mpr ⟨entry, member, rfl⟩

theorem mem_keys_groupsUpTo {depth : Nat} {key : String} :
    key ∈ keys (groupsUpTo groupsOf user depth) ↔
      key ≠ user.key ∧ ∃ n ≤ depth, Reaches groupsOf user n key := by
  constructor
  · intro named
    obtain ⟨entry, member, rfl⟩ := mem_keys.mp named
    obtain ⟨n, below, member⟩ := List.mem_flatMap.mp member
    have below := List.mem_range.mp below
    refine ⟨?_, n + 1, by omega, reaches_of_mem_layer member⟩
    intro same
    have first : user ∈ layer groupsOf user 0 := List.mem_singleton_self user
    have here := (layer_unique member first same).1
    omega
  · rintro ⟨other, n, le, reaches⟩
    obtain ⟨k, nearer, entry, member, rfl⟩ := mem_layer_of_reaches reaches
    cases k with
    | zero =>
      rw [List.mem_singleton.mp member] at other
      exact absurd rfl other
    | succ k =>
      have below : k ∈ List.range depth := List.mem_range.mpr (by omega)
      exact mem_keys.mpr ⟨entry, List.mem_flatMap.mpr ⟨k, below, member⟩, rfl⟩

/-- Behind an empty layer, nothing is reached that is not reached before. -/
theorem reaches_of_last {depth n : Nat} {key : String}
    (last : layer groupsOf user (depth + 1) = []) (reaches : Reaches groupsOf user n key) :
    ∃ k ≤ depth, Reaches groupsOf user k key := by
  obtain ⟨k, -, entry, member, rfl⟩ := mem_layer_of_reaches reaches
  refine ⟨k, ?_, reaches_of_mem_layer member⟩
  by_contra beyond
  rw [layer_eq_nil_of_le last (by omega)] at member
  cases member

end DirectoryAuth.Groups
