import DirectoryAuth.Proofs.Mapping.Numbering
import DirectoryAuth.Proofs.SettingUp
import DirectoryAuth.Proofs.Settings.Blanks

/-!
# Well-formed mappings

A mapping for users has a base. A mapping for groups is there where one of the two styles is
configured, it serves the styles that are, and the numbers in its request are those of the names
that it is searched with.
-/

namespace DirectoryAuth

variable {v : View}

/-! ## Users -/

theorem UserMapping.ofView_base {users : UserMapping} (made : UserMapping.ofView v = .ok users) :
    users.base ≠ "" := by
  rw [ofView] at made
  cases based : base? v with
  | none =>
    rw [based] at made
    cases made
  | some base =>
    rw [based] at made
    cases made
    rw [base?] at based
    -- The base is a setting, or made from another and not empty.
    split at based
    · rename_i given
      cases based
      exact (View.text?_eq_some_iff.mp given).2
    · split at based
      · cases based
      · dsimp only at based
        split at based
        · cases based
        · rename_i filled
          cases based
          simpa using filled

/-! ## Groups -/

namespace GroupMapping

def configuredRequest (v : View) : String :=
  (olderRequest? v).getD
    (v.text "group.request" (requestFor defaultClass defaultMemberAttribute))

def ListsMembers (m : GroupMapping) : Prop :=
  ∃ search, m.listing = some search ∧ search.base ≠ "" ∧ search.request ≠ ""

def ListsGroups (m : GroupMapping) : Prop := ∃ name, m.memberOf = some name ∧ name ≠ ""

/-- What the mapping is good for agrees with the settings that it was made from, and its request
with the names that it is searched with. -/
structure WellFormed (v : View) (m : GroupMapping) : Prop where
  listsMembers : m.ListsMembers ↔ v.bare "group.baseDn" ≠ ""
  listsGroups : m.ListsGroups ↔ v.bare "group.memberOfAttribute" ≠ ""
  distinct : ∀ search, m.listing = some search → (search.names.map Text.lower).Nodup
  numbered : ∀ search, m.listing = some search →
    ∃ number, Numbers number (configuredRequest v) search.request search.names

theorem requestFor_filled (objectClass memberAttribute : String) :
    requestFor objectClass memberAttribute ≠ "" := by
  intro blank
  have last := (String.append_eq_empty_iff.mp blank).2
  exact absurd last (by decide)

theorem configuredRequest_filled (v : View) : configuredRequest v ≠ "" := by
  rw [configuredRequest, olderRequest?]
  split
  · apply View.text_filled
    exact requestFor_filled defaultClass defaultMemberAttribute
  · exact requestFor_filled _ _

/-- A search is there with a base, below which the configured request is searched. -/
theorem listing?_eq (v : View) : listing? v = (v.text? "group.baseDn").map fun base =>
    ⟨base, (numberedRequest (configuredRequest v)).1, (numberedRequest (configuredRequest v)).2⟩ :=
  rfl

theorem listing?_eq_none_iff : listing? v = none ↔ v.bare "group.baseDn" = "" := by
  rw [listing?_eq, Option.map_eq_none_iff, View.text?_eq_none_iff]

/-- A mapping has the styles that are configured, and there is one unless none is. -/
theorem ofView_eq_ok {groups : Option GroupMapping} (made : ofView v = .ok groups) :
    (groups = none ↔ listing? v = none ∧ v.text? "group.memberOfAttribute" = none) ∧
      ∀ m, groups = some m →
        m.listing = listing? v ∧ m.memberOf = v.text? "group.memberOfAttribute" := by
  rw [ofView] at made
  split at made
  · rename_i unlisted unnamed
    cases made
    refine ⟨iff_of_true rfl ⟨unlisted, unnamed⟩, ?_⟩
    intro m some
    cases some
  · rename_i configured
    obtain ⟨nested, -, made⟩ := Server.bind_eq_ok made
    cases made
    refine ⟨iff_of_false (Option.some_ne_none _) ?_, ?_⟩
    · rintro ⟨unlisted, unnamed⟩
      exact configured unlisted unnamed
    · intro m some
      cases some
      exact ⟨rfl, rfl⟩

theorem ofView_isSome_iff {groups : Option GroupMapping} (made : ofView v = .ok groups) :
    groups.isSome = true ↔
      v.bare "group.baseDn" ≠ "" ∨ v.bare "group.memberOfAttribute" ≠ "" := by
  have absent := (ofView_eq_ok made).1
  rw [listing?_eq_none_iff, View.text?_eq_none_iff] at absent
  rw [← Option.ne_none_iff_isSome, ne_eq, absent, not_and_or]

theorem ofView_wellFormed {m : GroupMapping} (made : ofView v = .ok (some m)) :
    m.WellFormed v := by
  obtain ⟨listing, memberOf⟩ := (ofView_eq_ok made).2 m rfl
  have numbers := numberedRequest_numbers (configuredRequest v)
  constructor
  · constructor
    · rintro ⟨search, found, -⟩ blank
      rw [listing, listing?_eq_none_iff.mpr blank] at found
      cases found
    · intro filled
      have given := View.text?_eq_some_iff.mpr ⟨rfl, filled⟩
      rw [listing?_eq, given, Option.map_some] at listing
      exact ⟨_, listing, filled, numbers.filled (configuredRequest_filled v)⟩
  · constructor
    · rintro ⟨name, given, filled⟩
      rw [memberOf] at given
      obtain ⟨rfl, -⟩ := View.text?_eq_some_iff.mp given
      exact filled
    · intro filled
      exact ⟨_, memberOf.trans (View.text?_eq_some_iff.mpr ⟨rfl, filled⟩), filled⟩
  · intro search found
    rw [listing, listing?_eq, Option.map_eq_some_iff] at found
    obtain ⟨base, -, rfl⟩ := found
    exact nodup_lower_distinctNames _
  · intro search found
    rw [listing, listing?_eq, Option.map_eq_some_iff] at found
    obtain ⟨base, -, rfl⟩ := found
    exact ⟨_, numbers⟩

end GroupMapping

end DirectoryAuth
