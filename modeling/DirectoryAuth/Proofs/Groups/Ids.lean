import DirectoryAuth.Groups
import DirectoryAuth.Proofs.DistinguishedName.Components

/-!
# Ids of groups that cannot be read

A group that was read is called by its identifying attribute, and one that could not be read by what
is written in its name. The two are the same only where nothing had to be written with an escape,
and where the name can be read at all.
-/

namespace DirectoryAuth.Groups

open DistinguishedName

/-- The name of a group, with what is written of its identifying value in front of its parent. -/
def nameUnder (kind : String) (text : List Char) (parent : String) : String :=
  String.ofList (kind.toList ++ '=' :: text ++ ',' :: parent.toList)

variable {m : GroupMapping} {value : String} {text : List Char}

/-- The identifying value of a group that was read is its id. -/
theorem idOf_of_values {group : Entry} (filled : value ≠ "")
    (values : group.values m.idAttribute = [value]) : idOf m group = value := by
  have first : (group.first? m.idAttribute).filter (· ≠ "") = some value := by
    rw [Entry.first?, values, List.head?_cons, Option.filter_some, if_pos (by simpa using filled)]
  rw [idOf, first]

/-- The id of a group of which nothing but the name is known. -/
theorem idOf_empty (m : GroupMapping) (name : String) :
    idOf m ⟨name, .empty⟩ = (firstValue? name).getD name := rfl

/-- A group that was read has its identifying value for an id. One that could not be read has what
is written of the value, with its escapes, where the attribute and the parent have names that are
valid and no plain number sign or equals sign is in the way; else it has its whole name. So the ids
are the same exactly where the name is read and the value is written as it is. -/
theorem idOf_nameUnder (isKind : IsKind m.idAttribute.toList) (filled : value ≠ "")
    (written : Written true value.toList text) (parent : String) :
    let name := nameUnder m.idAttribute text parent
    let isRead := isType m.idAttribute.toList = true ∧ isEscaped text = true ∧
      (firstValue? parent).isSome = true
    (∀ attributes, (Entry.mk name attributes).values m.idAttribute = [value] →
      idOf m ⟨name, attributes⟩ = value) ∧
    idOf m ⟨name, .empty⟩ = (if isRead then String.ofList text else name) ∧
    (idOf m ⟨name, .empty⟩ = value ↔ isRead ∧ text = value.toList) := by
  intro name isRead
  have nonempty : value.toList ≠ [] := by simpa using filled
  have hidden : idOf m ⟨name, .empty⟩ = if isRead then String.ofList text else name := by
    have first : firstValue? name = if isRead then some (String.ofList text) else none :=
      firstValue?_eq isKind written nonempty parent
    rw [idOf_empty, first]
    split <;> rfl
  refine ⟨fun attributes => idOf_of_values filled, hidden, ?_⟩
  rw [hidden]
  by_cases read : isRead
  · rw [if_pos read]
    constructor
    · intro same
      exact ⟨read, by rw [← same, String.toList_ofList]⟩
    · rintro ⟨-, rfl⟩
      exact String.ofList_toList
  · rw [if_neg read]
    constructor
    · -- The whole name is longer than the value.
      intro same
      have size := congrArg (fun s : String => s.toList.length) same
      have within := written.length_le
      simp only [name, nameUnder, String.toList_ofList, List.length_append, List.length_cons]
        at size
      omega
    · rintro ⟨some, -⟩
      exact absurd some read

def commonNames : GroupMapping := ⟨none, some "memberOf", "cn", false⟩

/-- A plain value is the id of its group, whether that can be read or not. -/
theorem idOf_nameUnder_plain :
    let name := nameUnder "cn" ['d', 'e', 'v'] "dc=x"
    IsKind commonNames.idAttribute.toList ∧ Written true "dev".toList ['d', 'e', 'v'] ∧
      idOf commonNames ⟨name, .ofList [("cn", ["dev"])]⟩ = "dev" ∧
        idOf commonNames ⟨name, .empty⟩ = "dev" := by
  intro name
  have isKind : IsKind commonNames.idAttribute.toList := .of_isType (by decide)
  have written : Written true "dev".toList ['d', 'e', 'v'] :=
    .cons (.plain rfl) (by decide) (by decide) <| .cons (.plain rfl) (by decide) (by decide) <|
      .cons (.plain rfl) (by decide) (by decide) .nil
  obtain ⟨read, -, same⟩ := idOf_nameUnder (m := commonNames) isKind (by decide) written "dc=x"
  refine ⟨isKind, written, read _ (by decide), same.mpr ⟨⟨by decide, by decide, ?_⟩, by decide⟩⟩
  decide +kernel

/-- A comma in the value is written behind a backslash, which stays in the id of a group that cannot
be read. -/
theorem idOf_nameUnder_comma :
    let name := nameUnder "cn" ['a', '\\', ',', 'b'] "dc=x"
    Written true "a,b".toList ['a', '\\', ',', 'b'] ∧
      idOf commonNames ⟨name, .ofList [("cn", ["a,b"])]⟩ = "a,b" ∧
        idOf commonNames ⟨name, .empty⟩ = "a\\,b" ∧ "a\\,b" ≠ "a,b" := by
  have written : Written true "a,b".toList ['a', '\\', ',', 'b'] :=
    .cons (.plain rfl) (by decide) (by decide) <| .cons (.behind rfl) (by decide) (by decide) <|
      .cons (.plain rfl) (by decide) (by decide) .nil
  exact ⟨written, by decide +kernel, by decide +kernel, by decide⟩

end DirectoryAuth.Groups
