import DirectoryAuth.Text.Blank
import Mathlib.Data.List.TakeWhile

/-!
# Blanks around a text

Blanks are cut off a text at either end. What neither begins nor ends in a blank is left, whatever
blanks stand around it.
-/

namespace DirectoryAuth.Text

variable {cs front back : List Char}

/-- It neither begins nor ends in a blank. -/
structure IsFirm (cs : List Char) : Prop where
  front : ∀ c ∈ cs.head?, isBlank c = false
  back : ∀ c ∈ cs.getLast?, isBlank c = false

/-- Only the one character is looked at, not all that there are. -/
instance decidableForallMem {p : Char → Prop} [DecidablePred p] (found : Option Char) :
    Decidable (∀ c ∈ found, p c) := Option.decidableForallMem found

instance : Decidable (IsFirm cs) :=
  decidable_of_iff ((∀ c ∈ cs.head?, isBlank c = false) ∧ ∀ c ∈ cs.getLast?, isBlank c = false)
    ⟨fun ⟨front, back⟩ => ⟨front, back⟩, fun ⟨front, back⟩ => ⟨front, back⟩⟩

theorem dropWhile_of_head? (firm : ∀ c ∈ cs.head?, isBlank c = false) :
    cs.dropWhile isBlank = cs := by
  cases cs with
  | nil => rfl
  | cons c cs => rw [List.dropWhile_cons_of_neg (by simp [firm c rfl])]

theorem trimLeft_append (blank : ∀ c ∈ front, isBlank c = true) :
    trimLeft (front ++ cs) = trimLeft cs := List.dropWhile_append_of_pos blank

theorem trimRight_append (blank : ∀ c ∈ back, isBlank c = true) :
    trimRight (cs ++ back) = trimRight cs := by
  rw [trimRight, trimRight, List.reverse_append, List.dropWhile_append_of_pos]
  exact fun c member => blank c (List.mem_reverse.mp member)

theorem IsFirm.trimRight_eq (firm : IsFirm cs) : trimRight cs = cs := by
  rw [trimRight, dropWhile_of_head?, List.reverse_reverse]
  rw [List.head?_reverse]
  exact firm.back

/-- The blanks around a firm text are cut off, and nothing else is. -/
theorem IsFirm.trimChars_eq (firm : IsFirm cs) (before : ∀ c ∈ front, isBlank c = true)
    (behind : ∀ c ∈ back, isBlank c = true) : trimChars (front ++ cs ++ back) = cs := by
  rw [trimChars, List.append_assoc, trimLeft_append before]
  cases cs with
  | nil =>
    rw [List.nil_append, trimLeft, List.dropWhile_eq_nil_iff.mpr behind]
    rfl
  | cons c cs =>
    rw [trimLeft, List.cons_append, List.dropWhile_cons_of_neg (by simp [firm.front c rfl]),
      ← List.cons_append, trimRight_append behind, firm.trimRight_eq]

/-- Without blanks, there is nothing to cut off. -/
theorem trimChars_of_plain (plain : ∀ c ∈ cs, isBlank c = false) : trimChars cs = cs := by
  have firm : IsFirm cs :=
    ⟨fun c found => plain c (List.mem_of_mem_head? found),
      fun c found => plain c (List.mem_of_mem_getLast? found)⟩
  have cut := firm.trimChars_eq (List.forall_mem_nil _) (List.forall_mem_nil _)
  rwa [List.nil_append, List.append_nil] at cut

/-! ## What is left -/

theorem trimLeft_spec (cs : List Char) :
    ∃ front, cs = front ++ trimLeft cs ∧ ∀ c ∈ front, isBlank c = true :=
  ⟨cs.takeWhile isBlank, List.takeWhile_append_dropWhile.symm,
    List.all_eq_true.mp List.all_takeWhile⟩

theorem trimRight_spec (cs : List Char) :
    ∃ back, cs = trimRight cs ++ back ∧ ∀ c ∈ back, isBlank c = true := by
  obtain ⟨front, whole, blank⟩ := trimLeft_spec cs.reverse
  refine ⟨front.reverse, ?_, fun c member => blank c (List.mem_reverse.mp member)⟩
  rw [trimRight, ← List.reverse_append, ← trimLeft, ← whole, List.reverse_reverse]

theorem head?_trimLeft (cs : List Char) : ∀ c ∈ (trimLeft cs).head?, isBlank c = false := by
  intro c first
  have stopped := List.head?_dropWhile_not isBlank cs
  rw [← trimLeft, first] at stopped
  simpa using stopped

theorem getLast?_trimRight (cs : List Char) : ∀ c ∈ (trimRight cs).getLast?, isBlank c = false := by
  rw [trimRight, List.getLast?_reverse]
  exact head?_trimLeft cs.reverse

/-- The core of a text is what is left of it without the blanks around it. -/
structure IsCore (text core : List Char) : Prop where
  around : ∃ front back, text = front ++ core ++ back ∧ (∀ c ∈ front, isBlank c = true) ∧
    ∀ c ∈ back, isBlank c = true
  firm : IsFirm core

theorem isCore_trimChars (cs : List Char) : IsCore cs (trimChars cs) := by
  obtain ⟨front, left, before⟩ := trimLeft_spec cs
  obtain ⟨back, right, after⟩ := trimRight_spec (trimLeft cs)
  refine ⟨⟨front, back, ?_, before, after⟩, ?_, getLast?_trimRight _⟩
  · rw [trimChars, List.append_assoc, ← right, ← left]
  · -- The first character that is left was the first before the end was cut off.
    intro c first
    apply head?_trimLeft cs c
    rw [right, List.head?_append]
    exact Option.or_eq_some_iff.mpr (.inl first)

theorem isCore_trim (text : String) : IsCore text.toList (trim text).toList := by
  rw [trim, String.toList_ofList]
  exact isCore_trimChars text.toList

end DirectoryAuth.Text
