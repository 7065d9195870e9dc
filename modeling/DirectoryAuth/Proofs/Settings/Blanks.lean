import DirectoryAuth.Proofs.Settings.Reading
import DirectoryAuth.Proofs.Text.Blanks

/-!
# Blanks in settings

The blanks around a value are no part of it, and a value of blanks is none. That is so for every
setting, as all of them are read in one way. So settings with the same values but for blanks name
the same servers, and the same comes of assembling them, whatever the network does meanwhile.
-/

namespace DirectoryAuth

namespace Settings

variable {s s' : Settings} {name : String}

/-- What is left of a value without the blanks around it; a missing one leaves nothing. -/
def withoutBlanks : Option Scalar → String
  | none | some .nothing => ""
  | some value => Text.trim value.written

def bare (s : Settings) (name : String) : String := withoutBlanks (s.get? name)

/-- Only a value that is not blank has a text. -/
theorem text?_eq_bare (s : Settings) (name : String) :
    s.text? name = if (s.bare name).isEmpty then none else some (s.bare name) := by
  rw [text?, bare]
  cases s.get? name with
  | none => rfl
  | some value => cases value <;> rfl

theorem text?_eq_none_iff : s.text? name = none ↔ s.bare name = "" := by
  simp [text?_eq_bare]

theorem text?_eq_some_iff {text : String} :
    s.text? name = some text ↔ s.bare name = text ∧ text ≠ "" := by
  rw [text?_eq_bare]
  by_cases blank : s.bare name = ""
  · rw [if_pos (String.isEmpty_iff.mpr blank)]
    refine iff_of_false nofun ?_
    rintro ⟨rfl, filled⟩
    exact filled blank
  · rw [if_neg (by simpa using blank), Option.some_inj]
    constructor
    · rintro rfl
      exact ⟨rfl, blank⟩
    · exact And.left

/-- A value without the blanks around it neither begins nor ends in one. -/
theorem isFirm_bare (s : Settings) (name : String) : Text.IsFirm (s.bare name).toList := by
  unfold bare withoutBlanks
  split
  · decide
  · decide
  · exact (Text.isCore_trim _).firm

/-- Each name has the same value in both settings, but for blanks. -/
def SameButBlanks (s s' : Settings) : Prop := ∀ name, s.bare name = s'.bare name

theorem get?_eq_none (other : ∀ entry ∈ s.entries, entry.1 ≠ name) : s.get? name = none := by
  rw [get?, List.lookup_eq_none_iff]
  intro entry member
  simpa using Ne.symm (other entry member)

/-- Names that occur in neither of them have no value in both. -/
theorem sameButBlanks_iff :
    s.SameButBlanks s' ↔ ∀ entry ∈ s.entries ++ s'.entries, s.bare entry.1 = s'.bare entry.1 := by
  constructor
  · intro same entry _
    exact same entry.1
  · intro same name
    by_cases named : ∃ entry ∈ s.entries ++ s'.entries, entry.1 = name
    · obtain ⟨entry, member, rfl⟩ := named
      exact same entry member
    · simp only [not_exists, not_and, List.mem_append] at named
      rw [bare, bare, get?_eq_none fun entry member => named entry (.inl member),
        get?_eq_none fun entry member => named entry (.inr member)]

instance (s s' : Settings) : Decidable (s.SameButBlanks s') :=
  decidable_of_iff _ sameButBlanks_iff.symm

namespace SameButBlanks

variable (same : s.SameButBlanks s')
include same

theorem text?_eq (name : String) : s.text? name = s'.text? name := by
  rw [text?_eq_bare, text?_eq_bare, same name]

theorem sameAt (root : String) (keys : List String) : View.SameAt keys ⟨s, root⟩ ⟨s', root⟩ :=
  ⟨rfl, fun key _ => same.text?_eq (root ++ "." ++ key)⟩

theorem keys_eq : Server.keys s = Server.keys s' := by
  rw [Server.keys, Server.keys, View.text?, View.text?, same.text?_eq]
  rfl

end SameButBlanks

end Settings

namespace View

variable {v : View}

def bare (v : View) (key : String) : String := v.settings.bare (v.name key)

theorem text?_eq_none_iff {key : String} : v.text? key = none ↔ v.bare key = "" :=
  Settings.text?_eq_none_iff

theorem text?_eq_some_iff {key text : String} :
    v.text? key = some text ↔ v.bare key = text ∧ text ≠ "" :=
  Settings.text?_eq_some_iff

theorem text_filled {key default : String} (filled : default ≠ "") :
    v.text key default ≠ "" := by
  rw [text]
  cases given : v.text? key with
  | none => exact filled
  | some text => exact (text?_eq_some_iff.mp given).2

end View

namespace Server

open Settings

variable {s s' : Settings}

/-- Where two settings differ in blanks alone, a missing value being a blank one, nothing tells them
apart: every reading of a setting, whatever its form, gives the same or fails in the same way; they
list the same keys; and each server by itself and all of them together are assembled by operations
that are the same, up to every call, record and failure. -/
theorem blanks_do_not_count (same : s.SameButBlanks s') :
    (∀ root key, let v : View := ⟨s, root⟩
      let w : View := ⟨s', root⟩
      v.text? key = w.text? key ∧ v.truth? key = w.truth? key ∧
        v.integer? key = w.integer? key ∧ v.number? key = w.number? key) ∧
      keys s = keys s' ∧
      ∀ σ : Type, (∀ key, (assemble s key : Operation σ Server) = assemble s' key) ∧
        ((Roster.ofSettings s).servers : Operation σ (List Server)) =
          (Roster.ofSettings s').servers := by
  have assembled (σ : Type) (key : String) :
      (assemble s key : Operation σ Server) = assemble s' key :=
    assemble_eq (same.sameAt (rootOf key) settingKeys)
  refine ⟨fun root key => ?_, same.keys_eq, fun σ => ⟨assembled σ, ?_⟩⟩
  · have read := same.sameAt root [key]
    have member : key ∈ [key] := List.mem_singleton_self key
    exact ⟨read.texts key member, read.read? member _ _, read.read? member _ _,
      read.read? member _ _⟩
  · change (assembleAll s : Operation σ (List Server)) = assembleAll s'
    rw [assembleAll, assembleAll, same.keys_eq, funext (assembled σ)]

/-- Values with blanks of several kinds around them, blank ones in the place of those that are
missing, and settings in another order. -/
theorem blanks_do_not_count_padded :
    let s : Settings := ⟨[("ldap.servers", .text "a"), ("ldap.a.url", .text "ldap://h"),
      ("ldap.a.user.baseDn", .text "dc=x"), ("ldap.a.pageSize", .text "10"),
      ("ldap.a.StartTLS", .text "perhaps")]⟩
    let s' : Settings := ⟨[("ldap.a.StartTLS", .text "perhaps\n"),
      ("ldap.a.pageSize", .text "\t10"), ("ldap.a.realm", .text " \u00a0 "),
      ("ldap.a.group.baseDn", .text ""), ("ldap.a.user.baseDn", .text "\u3000dc=x "),
      ("ldap.a.url", .text " ldap://h "), ("ldap.servers", .text "\x1fa "),
      ("ldap.a.tls.verify", .nothing)]⟩
    s.SameButBlanks s' ∧ keys s = keys s' ∧
      ((Roster.ofSettings s).servers : Operation Unit (List Server)) =
        (Roster.ofSettings s').servers := by
  intro s s'
  have same : s.SameButBlanks s' := by decide +kernel
  obtain ⟨-, keys, assembled⟩ := blanks_do_not_count same
  exact ⟨same, keys, (assembled Unit).2⟩

end Server

end DirectoryAuth
