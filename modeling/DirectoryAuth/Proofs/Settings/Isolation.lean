import DirectoryAuth.Proofs.Settings.Reading

/-!
# Servers apart from one another

Settings have flat names: the root of a server, which its key may put dots into, and a key of the
setting, which may have dots of its own. Yet no name can be read in two ways, because no key of a
setting is what another one ends in behind a dot. So no two servers share a setting, and whatever
happens to the settings of one of them does not reach the other.
-/

namespace DirectoryAuth

namespace View

/-- What the name of a setting ends in, behind the root that it shares with others. -/
def ending (key : String) : List Char := '.' :: key.toList

theorem toList_name (v : View) (key : String) :
    (v.name key).toList = v.root.toList ++ ending key := by
  rw [name, String.toList_append, String.toList_append, List.append_assoc]
  rfl

theorem ending_suffix (v : View) (key : String) : ending key <:+ (v.name key).toList :=
  ⟨v.root.toList, (v.toList_name key).symm⟩

end View

namespace Server

open View

def settingNames (key : String) : List String :=
  settingKeys.map fun setting => rootOf key ++ "." ++ setting

/-- No key of a setting is what another one ends in. -/
theorem settingKeys_apart : ∀ setting ∈ settingKeys, ∀ other ∈ settingKeys,
    ending setting <:+ ending other → setting = other := by
  decide +kernel

/-- The name of a setting is that of one key, below one root. -/
theorem name_unique {v w : View} {setting other : String} (known : setting ∈ settingKeys)
    (known' : other ∈ settingKeys) (same : v.name setting = w.name other) :
    v.root = w.root ∧ setting = other := by
  have left : ending setting <:+ (v.name setting).toList := v.ending_suffix setting
  have right : ending other <:+ (v.name setting).toList := same ▸ w.ending_suffix other
  have keys : setting = other := by
    rcases List.suffix_or_suffix_of_suffix left right with within | longer
    · exact settingKeys_apart setting known other known' within
    · exact (settingKeys_apart other known' setting known longer).symm
  subst keys
  have whole : v.root.toList ++ ending setting = w.root.toList ++ ending setting := by
    rw [← v.toList_name, ← w.toList_name, same]
  exact ⟨String.toList_injective (List.append_cancel_right whole), rfl⟩

/-- Servers with different keys have different roots. -/
theorem rootOf_injective {key key' : String} (same : rootOf key = rootOf key') : key = key' := by
  have longer (other : String) : settingsRoot ≠ settingsRoot ++ "." ++ other := by
    intro equal
    have lengths := congrArg String.length equal
    have dot : ".".length = 1 := rfl
    rw [String.length_append, String.length_append, dot] at lengths
    omega
  by_cases first : key = defaultKey
  · by_cases second : key' = defaultKey
    · exact first.trans second.symm
    · exact absurd (by simpa [rootOf, first, second] using same) (longer key')
  · by_cases second : key' = defaultKey
    · exact absurd (by simpa [rootOf, first, second] using same.symm) (longer key)
    · simpa [rootOf, first, second] using same

/-- No two servers have a setting in common. -/
theorem settingNames_disjoint {key key' : String} (distinct : key ≠ key') :
    ∀ name ∈ settingNames key, name ∉ settingNames key' := by
  intro name member member'
  obtain ⟨setting, known, rfl⟩ := List.mem_map.mp member
  obtain ⟨other, known', same⟩ := List.mem_map.mp member'
  have roots := (name_unique (v := ⟨.empty, rootOf key'⟩) (w := ⟨.empty, rootOf key⟩)
    known' known same).1
  exact distinct (rootOf_injective roots.symm)

variable {σ : Type} {key key' : String}

/-- A server is assembled from the settings with its names, and from nothing else. -/
theorem assemble_reads {s s' : Settings}
    (same : ∀ name ∈ settingNames key, s.get? name = s'.get? name) :
    (assemble s key : Operation σ Server) = assemble s' key := by
  refine assemble_eq ⟨rfl, fun setting known => ?_⟩
  have value : s.get? ((View.mk s (rootOf key)).name setting) =
      s'.get? ((View.mk s' (rootOf key)).name setting) := same _ (List.mem_map_of_mem known)
  rw [View.text?, View.text?, Settings.text?, Settings.text?, value]

/-- No setting is read for two servers. Each of them is assembled from the settings with its own
names alone, so whatever becomes of the settings with the names of one, the other is assembled as
before: it comes to the same configuration or the same failure, with the same calls and records. -/
theorem settings_isolated (distinct : key ≠ key') :
    (∀ name ∈ settingNames key, name ∉ settingNames key') ∧
      (∀ (server : String) (s s' : Settings),
        (∀ name ∈ settingNames server, s.get? name = s'.get? name) →
          (assemble s server : Operation σ Server) = assemble s' server) ∧
      ∀ s s' : Settings, (∀ name, name ∉ settingNames key → s.get? name = s'.get? name) →
        (assemble s key' : Operation σ Server) = assemble s' key' := by
  have apart := settingNames_disjoint distinct
  refine ⟨apart, fun _ _ _ same => assemble_reads same, fun s s' outside => ?_⟩
  apply assemble_reads
  intro name member'
  exact outside name fun member => apart name member member'

/-- A server whose key extends that of another one by a part of a setting's key does not notice that
the other one loses the setting. -/
theorem settings_isolated_extended :
    let lost := "ldap.a.user.baseDn"
    let s : Settings := ⟨[(lost, .text "dc=x"), ("ldap.a.user.url", .text "ldap://h")]⟩
    let s' : Settings := ⟨[("ldap.a.user.url", .text "ldap://h")]⟩
    "a" ≠ "a.user" ∧ lost ∈ settingNames "a" ∧ lost ∉ settingNames "a.user" ∧
      s.get? lost ≠ s'.get? lost ∧
      (assemble s "a.user" : Operation Unit Server) = assemble s' "a.user" := by
  intro lost s s'
  have distinct : "a" ≠ "a.user" := by decide
  have known : lost ∈ settingNames "a" := by decide +kernel
  obtain ⟨apart, -, isolated⟩ := settings_isolated distinct
  refine ⟨distinct, known, apart lost known, by decide, isolated s s' fun name outside => ?_⟩
  have other : (name == lost) = false := by
    rw [beq_eq_false_iff_ne]
    rintro rfl
    exact outside known
  rw [Settings.get?, Settings.get?, List.lookup_cons, other]

end Server

end DirectoryAuth
