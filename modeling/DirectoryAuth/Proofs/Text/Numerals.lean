import DirectoryAuth.Proofs.Text.Blanks
import DirectoryAuth.Text.Digit
import Mathlib.Data.List.Basic

/-!
# Numerals

A number is read back from the digits that are written for it, in the decimal and in the hexadecimal
system. Hexadecimal numerals may have letters of either case and zeros in front.
-/

namespace DirectoryAuth.Text

/-- A number is read from its digits, whatever the base is. -/
theorem reads_toDigits {base : Nat} (large : 1 < base) {read : Char → Option Nat}
    (known : ∀ d < base, read (Nat.digitChar d) = some d) (n : Nat) :
    (∀ c ∈ Nat.toDigits base n, (read c).isSome = true) ∧
      (Nat.toDigits base n).foldl (fun n c => base * n + (read c).getD 0) 0 = n := by
  induction n using Nat.strongRecOn with
  | ind n ih =>
    rw [Nat.toDigits_eq_if large]
    by_cases small : n < base
    · rw [if_pos small]
      constructor
      · simp [known n small]
      · simp [known n small]
    · have last := known (n % base) (Nat.mod_lt n (by omega))
      obtain ⟨digits, value⟩ := ih (n / base) (Nat.div_lt_self (by omega) large)
      rw [if_neg small]
      constructor
      · intro c member
        rcases List.mem_append.mp member with front | here
        · exact digits c front
        · simp [List.mem_singleton.mp here, last]
      · rw [List.foldl_append, value, List.foldl_cons, List.foldl_nil, last]
        exact Nat.div_add_mod n base

/-! ## Decimal numerals -/

theorem digitValue?_digitChar {d : Nat} (small : d < 10) : digitValue? (Nat.digitChar d) = some d :=
  (by decide : ∀ d : Fin 10, digitValue? (Nat.digitChar d) = some d.val) ⟨d, small⟩

theorem digitsValue_toDigits (n : Nat) :
    (∀ c ∈ Nat.toDigits 10 n, isDigit c = true) ∧
      digitsValue ((Nat.toDigits 10 n).filterMap digitValue?) = n := by
  obtain ⟨digits, value⟩ := reads_toDigits (by decide) (fun _ => digitValue?_digitChar) n
  refine ⟨digits, ?_⟩
  rw [digitsValue, List.foldl_filterMap]
  apply (List.foldl_ext _ _ 0 ?_).trans value
  intro m c member
  obtain ⟨d, read⟩ := Option.isSome_iff_exists.mp (digits c member)
  rw [read]
  rfl

/-! ## Hexadecimal numerals -/

theorem hexValue?_bounds {c : Char} (digit : isHexDigit c = true) :
    0x30 ≤ c.toNat ∧ c.toNat ≤ 0x39 ∨ 0x61 ≤ c.toNat ∧ c.toNat ≤ 0x66 ∨
      0x41 ≤ c.toNat ∧ c.toNat ≤ 0x46 := by
  rw [isHexDigit, hexValue?] at digit
  split at digit
  · rename_i bounds
    exact .inl bounds
  · split at digit
    · rename_i bounds
      exact .inr (.inl bounds)
    · split at digit
      · rename_i bounds
        exact .inr (.inr bounds)
      · cases digit

theorem isBlank_of_isHexDigit {c : Char} (digit : isHexDigit c = true) : isBlank c = false := by
  have bounds := hexValue?_bounds digit
  by_contra blank
  rw [Bool.not_eq_false, isBlank, inRanges_iff] at blank
  obtain ⟨range, member, low, high⟩ := blank
  simp only [blankRanges, List.mem_cons, List.not_mem_nil, or_false] at member
  rcases member with rfl | rfl | rfl | rfl | rfl | rfl | rfl | rfl | rfl | rfl <;> omega

theorem hexValue?_toLower (c : Char) : hexValue? c.toLower = hexValue? c := by
  by_cases capital : 65 ≤ c.toNat ∧ c.toNat ≤ 90
  · have capitals : ∀ i : Fin 26, hexValue? (Char.ofNat (65 + i)).toLower =
        hexValue? (Char.ofNat (65 + i)) := by decide +kernel
    have code : 65 + (c.toNat - 65) = c.toNat := by omega
    have value := capitals ⟨c.toNat - 65, by omega⟩
    simpa only [code, Char.ofNat_toNat] using value
  · have lower : c.toLower = c := dif_neg capital
    rw [lower]

theorem hexValue?_digitChar {d : Nat} (small : d < 16) : hexValue? (Nat.digitChar d) = some d :=
  (by decide : ∀ d : Fin 16, hexValue? (Nat.digitChar d) = some d.val) ⟨d, small⟩

theorem hexDigitsValue_toDigits (n : Nat) :
    (∀ c ∈ Nat.toDigits 16 n, isHexDigit c = true) ∧ hexDigitsValue (Nat.toDigits 16 n) = n :=
  reads_toDigits (by decide) (fun _ => hexValue?_digitChar) n

/-- The digits are those of a number, whatever the case of the letters among them, behind any number
of zeros. -/
def HexNumeral (n : Nat) (digits : List Char) : Prop :=
  ∃ zeros, digits.map Char.toLower = List.replicate zeros '0' ++ Nat.toDigits 16 n

namespace HexNumeral

variable {n : Nat} {digits : List Char}

theorem ne_nil (numeral : HexNumeral n digits) : digits ≠ [] := by
  obtain ⟨zeros, same⟩ := numeral
  rintro rfl
  have none := (List.append_eq_nil_iff.mp same.symm).2
  exact Nat.toDigits_ne_nil none

theorem hex (numeral : HexNumeral n digits) : ∀ c ∈ digits, isHexDigit c = true := by
  obtain ⟨zeros, same⟩ := numeral
  intro c member
  have lower : c.toLower ∈ List.replicate zeros '0' ++ Nat.toDigits 16 n := by
    rw [← same]
    exact List.mem_map_of_mem member
  rw [isHexDigit, ← hexValue?_toLower]
  rcases List.mem_append.mp lower with zero | digit
  · rw [(List.mem_replicate.mp zero).2]
    rfl
  · exact (hexDigitsValue_toDigits n).1 _ digit

theorem value (numeral : HexNumeral n digits) : hexDigitsValue digits = n := by
  obtain ⟨zeros, same⟩ := numeral
  have lower : hexDigitsValue (digits.map Char.toLower) = hexDigitsValue digits := by
    simp only [hexDigitsValue, List.foldl_map, hexValue?_toLower]
  have nothing (zeros : Nat) : (List.replicate zeros '0').foldl
      (fun n c => 16 * n + (hexValue? c).getD 0) 0 = 0 := by
    induction zeros with
    | zero => rfl
    | succ zeros ih => exact ih
  rw [← lower, same, hexDigitsValue, List.foldl_append, nothing]
  exact (hexDigitsValue_toDigits n).2

end HexNumeral

end DirectoryAuth.Text
