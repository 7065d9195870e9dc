import DirectoryAuth.Proofs.SettingUp
import DirectoryAuth.Proofs.Settings.Isolation
import DirectoryAuth.Proofs.Settings.Sections

/-!
# Servers that are listed

Where the settings list several servers, each of them reads the settings below its own name. There
is one exception. The server that is configured without a list has a key too, and a listed server
with the same key reads what that one would: settings right below the root, and none below its name.
-/

namespace DirectoryAuth.Server

variable {σ : Type} {key : String} {keys : List String} {s s' : Settings}

structure Lists (s : Settings) (keys : List String) : Prop where
  listing : (View.mk s settingsRoot).text? "servers" ≠ none
  keys : Server.keys s = .ok keys

/-- The settings have the same values for all names below the one of a server. -/
def SameBelow (key : String) (s s' : Settings) : Prop :=
  ∀ name, ("ldap." ++ key ++ ".").toList <+: name.toList → s.get? name = s'.get? name

theorem rootOf_of_ne (other : key ≠ defaultKey) : rootOf key = "ldap." ++ key := by
  have root : settingsRoot ++ "." = "ldap." := by decide
  rw [rootOf, if_neg (by simpa using other), root]

/-- A server with a key of its own reads settings below its name only. -/
theorem below_of_mem_settingNames (other : key ≠ defaultKey) :
    ∀ name ∈ settingNames key, ("ldap." ++ key ++ ".").toList <+: name.toList := by
  intro name member
  obtain ⟨setting, -, rfl⟩ := List.mem_map.mp member
  rw [rootOf_of_ne other]
  exact ⟨setting.toList, (String.toList_append ..).symm⟩

/-- Settings that are not below the name make no difference to those that are. -/
theorem sameBelow_append (s : Settings) {others : List (String × Scalar)}
    (apart : ∀ entry ∈ others, ¬ ("ldap." ++ key ++ ".").toList <+: entry.1.toList) :
    SameBelow key s ⟨s.entries ++ others⟩ := by
  intro name below
  have none : others.lookup name = none := by
    rw [List.lookup_eq_none_iff]
    intro entry member
    rw [bne_iff_ne]
    rintro rfl
    exact apart entry member below
  rw [Settings.get?, Settings.get?, List.lookup_append, none, Option.or_none]

theorem assemble_of_sameBelow (other : key ≠ defaultKey) (same : SameBelow key s s') :
    (assemble s key : Operation σ Server) = assemble s' key :=
  assemble_reads fun name member => same name (below_of_mem_settingNames other name member)

theorem mapM_congr {f g : String → Operation σ Server} (same : ∀ key ∈ keys, f key = g key) :
    keys.mapM f = keys.mapM g := by
  induction keys with
  | nil => rfl
  | cons key keys ih =>
    obtain ⟨first, later⟩ := List.forall_mem_cons.mp same
    rw [List.mapM_cons, List.mapM_cons, first, ih later]

/-- No setting of the server that needs no list stands below its name. -/
theorem settingNames_default :
    ∀ name ∈ settingNames defaultKey, ¬ ("ldap." ++ defaultKey ++ ".").toList <+: name.toList := by
  decide +kernel

theorem lists_of_single (listed : (View.mk s settingsRoot).text? "servers" = some key)
    (single : key.splitOn "," = [key]) (firm : Text.trim key = key) (filled : key ≠ "") :
    Lists s [key] := by
  refine ⟨by rw [listed]; exact nofun, ?_⟩
  have some : ¬ ([key].any fun key => key.isEmpty) = true := by simpa using filled
  rw [keys, listed]
  dsimp only
  rw [single, List.map_singleton, firm, if_neg some]
  rfl

end DirectoryAuth.Server

namespace DirectoryAuth.Rehearsal

open Server

/-- Settings that list a server by the key of the one that needs no list, and hold others. -/
def listingDefault (others : List (String × Scalar)) : Settings :=
  ⟨[("ldap.servers", .text "default"), ("ldap.default.url", .text "ldap://h"),
    ("ldap.default.user.baseDn", .text "dc=x")] ++ others⟩

def rooted : List (String × Scalar) :=
  [("ldap.url", .text "ldap://r"), ("ldap.user.baseDn", .text "dc=y")]

theorem listingDefault_lists : Lists (listingDefault []) [defaultKey] ∧
    Lists (listingDefault rooted) [defaultKey] := by
  have plain : ',' ∉ defaultKey.toList := by decide
  have single : defaultKey.splitOn "," = [defaultKey] := Text.splitOn_of_plain plain
  have firm : Text.trim defaultKey = defaultKey := by decide +kernel
  exact ⟨lists_of_single (by decide +kernel) single firm (by decide),
    lists_of_single (by decide +kernel) single firm (by decide)⟩

theorem listingDefault_same : SameBelow defaultKey (listingDefault []) (listingDefault rooted) :=
  sameBelow_append (listingDefault []) (by decide +kernel)

/-- The section of the server is not read, and settings right below the root are. -/
theorem listingDefault_differ : (assemble (listingDefault []) defaultKey : Operation Unit Server) ≠
    assemble (listingDefault rooted) defaultKey := by
  have unread : Operation.failure? ((assemble (listingDefault []) defaultKey).run
      (onlyFile (.ok [])) (.start ())).1 = some (.setting (.noUrl "ldap.url" "ldap.realm")) := by
    decide +kernel
  have read : Operation.failure? ((assemble (listingDefault rooted) defaultKey).run
      (onlyFile (.ok [])) (.start ())).1 = none := by
    decide +kernel
  intro same
  rw [same, read] at unread
  cases unread

end DirectoryAuth.Rehearsal

namespace DirectoryAuth.Server

open Rehearsal

/-- A listed server reads the settings below its own name alone, and so do all of them together,
unless its key is that of the server which needs no list. A server with that key reads other
settings, none of which are below its name. -/
theorem listed_reads_own_section (key : String) :
    ((∀ (σ : Type) (s s' : Settings) (keys : List String), Lists s keys → Lists s' keys →
        key ∈ keys → SameBelow key s s' →
          (assemble s key : Operation σ Server) = assemble s' key) ↔ key ≠ defaultKey) ∧
      (∀ (σ : Type) (s s' : Settings) (keys : List String), Lists s keys → Lists s' keys →
        defaultKey ∉ keys → (∀ key ∈ keys, SameBelow key s s') →
          (assembleAll s : Operation σ (List Server)) = assembleAll s') ∧
      (∀ (σ : Type) (s s' : Settings),
        (∀ name ∈ settingNames defaultKey, s.get? name = s'.get? name) →
          (assemble s defaultKey : Operation σ Server) = assemble s' defaultKey) ∧
      ∀ name ∈ settingNames defaultKey,
        ¬ ("ldap." ++ defaultKey ++ ".").toList <+: name.toList := by
  refine ⟨⟨?_, ?_⟩, ?_, fun σ s s' same => assemble_reads same, settingNames_default⟩
  · rintro own rfl
    obtain ⟨alone, rooted⟩ := listingDefault_lists
    exact listingDefault_differ
      (own Unit _ _ _ alone rooted (List.mem_singleton_self _) listingDefault_same)
  · intro other σ s s' keys _ _ _ same
    exact assemble_of_sameBelow other same
  · intro σ s s' keys listed listed' others same
    rw [assembleAll_of_keys listed.keys, assembleAll_of_keys listed'.keys]
    refine mapM_congr fun key member => assemble_of_sameBelow ?_ (same key member)
    rintro rfl
    exact others member

/-- Where the settings list one server with a key of its own, it does not notice what is said of the
server that needs no list. -/
theorem listed_reads_own_section_single :
    let s : Settings := ⟨[("ldap.servers", .text "a"), ("ldap.a.url", .text "ldap://h")]⟩
    let s' : Settings := ⟨s.entries ++ rooted⟩
    Lists s ["a"] ∧ Lists s' ["a"] ∧ s.get? "ldap.url" ≠ s'.get? "ldap.url" ∧
      (assemble s "a" : Operation Unit Server) = assemble s' "a" := by
  intro s s'
  have single : "a".splitOn "," = ["a"] := by cbv
  have listed : Lists s ["a"] :=
    lists_of_single (by decide +kernel) single (by decide +kernel) (by decide)
  have listed' : Lists s' ["a"] :=
    lists_of_single (by decide +kernel) single (by decide +kernel) (by decide)
  have same : SameBelow "a" s s' := sameBelow_append s (by decide +kernel)
  exact ⟨listed, listed', by decide, (listed_reads_own_section "a").1.mpr (by decide) Unit s s' ["a"]
    listed listed' (List.mem_singleton_self _) same⟩

/-- A server that is listed with the key of the one that needs no list is not assembled from its own
section, which has all that it needs, but from settings right below the root. -/
theorem listed_default_reads_elsewhere :
    ¬ ∀ (key : String) (s s' : Settings) (keys : List String), Lists s keys → Lists s' keys →
      key ∈ keys → SameBelow key s s' →
        (assemble s key : Operation Unit Server) = assemble s' key := by
  intro own
  obtain ⟨alone, rooted⟩ := listingDefault_lists
  exact listingDefault_differ
    (own _ _ _ _ alone rooted (List.mem_singleton_self _) listingDefault_same)

end DirectoryAuth.Server
