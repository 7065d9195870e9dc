import DirectoryAuth.Proofs.Mapping.Placeholders
import Mathlib.Data.List.Nodup

/-!
# Numbers of placeholders

The names in a request for groups are numbered without gaps: each number below that of the different
names stands for one of them, however it is spelled, and no other number is written.
-/

namespace DirectoryAuth.GroupMapping

open Template Text

/-! ## Names that are kept -/

/-- No name is kept in two spellings. -/
theorem nodup_lower_distinctNames (names : List String) :
    ((distinctNames names).map lower).Nodup := by
  induction names using List.reverseRecOn with
  | nil => exact List.nodup_nil
  | append_singleton names last ih =>
    rw [distinctNames_concat]
    by_cases known : (distinctNames names).any (lower · == lower last) = true
    · rw [if_pos known]
      exact ih
    · have fresh : lower last ∉ (distinctNames names).map lower := by
        intro member
        obtain ⟨other, mem, same⟩ := List.mem_map.mp member
        apply known
        rw [List.any_eq_true]
        exact ⟨other, mem, beq_iff_eq.mpr same⟩
      rw [if_neg known, List.map_append, List.map_singleton, ← List.concat_eq_append]
      exact ih.concat fresh

/-- A name that is kept is found where it is. -/
theorem numberOf_getElem {names : List String} {i : Nat}
    (inside : i < (distinctNames names).length) :
    numberOf (distinctNames names) (distinctNames names)[i] = i := by
  have kept := (distinctNames_spells names).1 _ (List.getElem_mem inside)
  obtain ⟨inside', same⟩ := numberOf_distinctNames kept
  generalize numberOf (distinctNames names) (distinctNames names)[i] = j at inside' same ⊢
  have here : j < ((distinctNames names).map lower).length := by simpa using inside'
  have there : i < ((distinctNames names).map lower).length := by simpa using inside
  have spelled : ((distinctNames names).map lower)[j] = ((distinctNames names).map lower)[i] := by
    simpa using same
  exact (nodup_lower_distinctNames names).getElem_inj_iff.mp spelled

/-! ## Requests -/

/-- The request is the template with the numbers in the places of its names, which are the numbers
below that of the names that are listed, and each name is listed at its number in some spelling. -/
structure Numbers (number : String → Nat) (template request : String) (names : List String) :
    Prop where
  written : Rewritten IsNamed (fun name => some (numbered (number name))) template.toList
    request.toList
  gapless : ∀ n, (∃ name marker, IsNamed name marker ∧ marker <:+: template.toList ∧
    number name = n) ↔ n < names.length
  listed : ∀ name marker, IsNamed name marker → marker <:+: template.toList →
    ∃ other, names[number name]? = some other ∧ lower other = lower name

theorem numberedRequest_numbers (template : String) :
    Numbers (numberOf (numberedRequest template).2) template (numberedRequest template).1
      (numberedRequest template).2 where
  written := by
    rw [finds_readName.rewritten_iff]
    refine ⟨fun name _ => rfl, ?_⟩
    rw [numberedRequest, String.toList_ofList]
    rfl
  gapless n := by
    constructor
    · rintro ⟨name, marker, named, within, rfl⟩
      have mem := finds_readName.mem_markers_iff.mpr ⟨marker, named, within⟩
      exact (numberOf_distinctNames mem).1
    · intro inside
      have kept := (distinctNames_spells _).1 _ (List.getElem_mem inside)
      obtain ⟨marker, named, within⟩ := finds_readName.mem_markers_iff.mp kept
      exact ⟨_, marker, named, within, numberOf_getElem inside⟩
  listed name marker named within := by
    have mem := finds_readName.mem_markers_iff.mpr ⟨marker, named, within⟩
    obtain ⟨inside, same⟩ := numberOf_distinctNames mem
    exact ⟨_, List.getElem?_eq_getElem inside, same⟩

/-- A request that says something still does when it is numbered. -/
theorem Numbers.filled {number : String → Nat} {template request : String} {names : List String}
    (numbers : Numbers number template request names) (some : template ≠ "") : request ≠ "" := by
  have text : template.toList ≠ [] := by simpa using some
  have written := numbers.written
  have more : request.toList ≠ [] := by
    generalize template.toList = cs, request.toList = output at text written ⊢
    cases written with
    | done => exact absurd rfl text
    | marker _ given _ =>
      cases given
      exact List.cons_ne_nil _ _
    | char _ _ => exact List.cons_ne_nil _ _
  simpa using more

end DirectoryAuth.GroupMapping
