import DirectoryAuth.DistinguishedName
import Mathlib.Data.List.Basic

/-!
# Values in names

What an attribute value is written as in a name. A character is written plainly, behind a backslash
or by its bytes, so that no separator stands in a value without an escape and no escape goes on
behind it. A component is read as a type and what is written of its value.
-/

namespace DirectoryAuth.DistinguishedName

open Text

/-! ## Writing -/

def octet (high low : Char) : UInt8 := UInt8.ofNat (hexDigitsValue [high, low])

def mustEscape (c : Char) : Bool := "\"+,;<>\\\x00".toList.contains c

def mayEscape (c : Char) : Bool := "\"+,;<>\\ #=".toList.contains c

/-- How a character of a value is written: plainly, behind a backslash, or by its bytes. -/
inductive Spelled (c : Char) : List Char → Prop
  | plain (free : mustEscape c = false) : Spelled c [c]
  | behind (special : mayEscape c = true) : Spelled c ['\\', c]
  | octets {digits : List (Char × Char)}
      (hexadecimal : ∀ high low, (high, low) ∈ digits →
        isHexDigit high = true ∧ isHexDigit low = true)
      (bytes : digits.map (fun (high, low) => octet high low) = String.utf8EncodeChar c) :
      Spelled c (digits.flatMap fun (high, low) => ['\\', high, low])

/-- How a value is written: character by character, with no plain number sign at the front of it
and no plain blank at either end. -/
inductive Written : (atFront : Bool) → List Char → List Char → Prop
  | nil {atFront : Bool} : Written atFront [] []
  | cons {atFront : Bool} {c : Char} {cs text rest : List Char} (spelled : Spelled c text)
      (front : atFront = true → text ≠ [' '] ∧ text ≠ ['#']) (last : cs = [] → text ≠ [' '])
      (behind : Written false cs rest) : Written atFront (c :: cs) (text ++ rest)

/-! ## Text without separators -/

theorem length_unescapedFrom (odd : Bool) (cs : List Char) :
    (unescapedFrom odd cs).length = cs.length := by
  induction cs generalizing odd with
  | nil => rfl
  | cons c cs ih => rw [unescapedFrom, List.length_cons, List.length_cons, ih]

/-- The text has no separator but behind a backslash, and ends within no escape: what is behind it
is read as if it stood alone. -/
structure Whole (text : List Char) : Prop where
  flags : ∀ rest, unescapedFrom false (text ++ rest) =
    unescapedFrom false text ++ unescapedFrom false rest
  valid : ∀ rest, isEscaped (text ++ rest) = (isEscaped text && isEscaped rest)
  uncut : ∀ c, (c, true) ∈ text.zip (unescapedFrom false text) → c ≠ ',' ∧ c ≠ '+'

namespace Whole

variable {a b : List Char} {c d : Char}

theorem nil : Whole [] := ⟨fun _ => rfl, fun _ => rfl, fun _ none => nomatch none⟩

theorem append (first : Whole a) (second : Whole b) : Whole (a ++ b) := by
  refine ⟨fun rest => ?_, fun rest => ?_, fun c free => ?_⟩
  · rw [List.append_assoc, first.flags, second.flags, first.flags, List.append_assoc]
  · rw [List.append_assoc, first.valid, second.valid, first.valid, Bool.and_assoc]
  · rw [first.flags, List.zip_append (length_unescapedFrom false a).symm] at free
    exact (List.mem_append.mp free).elim (first.uncut c) (second.uncut c)

theorem flatMap {α : Type} {items : List α} {write : α → List Char}
    (each : ∀ item ∈ items, Whole (write item)) : Whole (items.flatMap write) := by
  induction items with
  | nil => exact .nil
  | cons item items ih =>
    rw [List.flatMap_cons]
    exact (each item List.mem_cons_self).append
      (ih fun other member => each other (List.mem_cons_of_mem _ member))

/-- A character by itself. -/
theorem plain (slash : c ≠ '\\') (comma : c ≠ ',') (plus : c ≠ '+') : Whole [c] := by
  have even : (c == '\\' && !false) = false := by simpa using slash
  refine ⟨fun rest => ?_, fun rest => ?_, fun other free => ?_⟩
  · rw [List.singleton_append, unescapedFrom, unescapedFrom, even]
    rfl
  · cases rest <;> simp [isEscaped, slash]
  · cases List.mem_singleton.mp free
    exact ⟨comma, plus⟩

/-- A character behind a backslash. -/
theorem behind (other : isHexDigit c = false) : Whole ['\\', c] := by
  refine ⟨fun rest => ?_, fun rest => ?_, fun read free => ?_⟩
  · simp [unescapedFrom]
  · cases rest <;> simp [isEscaped, other]
  · have slash : read = '\\' := by simpa [unescapedFrom] using free
    subst slash
    decide

/-- A byte. -/
theorem octet (high : isHexDigit c = true) (low : isHexDigit d = true) : Whole ['\\', c, d] := by
  have even : (d == '\\') = false := by
    rw [beq_eq_false_iff_ne]
    rintro rfl
    exact absurd low (by decide)
  refine ⟨fun rest => ?_, fun rest => ?_, fun read free => ?_⟩
  · simp [unescapedFrom, even]
  · simp [isEscaped, high, low]
  · have either : read = '\\' ∨ read = d := by simpa [unescapedFrom] using free
    rcases either with rfl | rfl
    · decide
    · constructor <;> rintro rfl <;> exact absurd low (by decide)

end Whole

theorem Spelled.whole {c : Char} {text : List Char} (spelled : Spelled c text) : Whole text := by
  cases spelled with
  | plain free =>
    have other {d : Char} (must : mustEscape d = true) : c ≠ d := by
      rintro rfl
      rw [free] at must
      cases must
    exact .plain (other (by decide)) (other (by decide)) (other (by decide))
  | behind special =>
    have none : "\"+,;<>\\ #=".toList.all (isHexDigit · == false) = true := by decide
    exact .behind (eq_of_beq (List.all_eq_true.mp none c (List.contains_iff_mem.mp special)))
  | octets hexadecimal bytes =>
    refine .flatMap fun (high, low) member => ?_
    obtain ⟨first, second⟩ := hexadecimal high low member
    exact .octet first second

theorem Written.whole {atFront : Bool} {cs text : List Char} (written : Written atFront cs text) :
    Whole text := by
  induction written with
  | nil => exact .nil
  | cons spelled _ _ _ ih => exact spelled.whole.append ih

/-! ## Types and values -/

structure IsKind (kind : List Char) : Prop where
  filled : kind ≠ []
  plain : ∀ c ∈ kind, c ≠ '\\' ∧ c ≠ ',' ∧ c ≠ '+' ∧ c ≠ '='

namespace IsKind

variable {kind : List Char}

theorem whole (isKind : IsKind kind) : Whole kind := by
  have single : kind = kind.flatMap fun c => [c] := List.flatMap_singleton' kind |>.symm
  rw [single]
  refine .flatMap fun c member => ?_
  obtain ⟨slash, comma, plus, -⟩ := isKind.plain c member
  exact .plain slash comma plus

theorem of_isType (valid : isType kind = true) : IsKind kind := by
  cases kind with
  | nil => cases valid
  | cons first rest =>
    refine ⟨List.cons_ne_nil _ _, fun c member => ?_⟩
    rw [isType, Bool.or_eq_true] at valid
    rcases valid with mark | letters
    · rw [eq_of_beq mark] at member
      have plain : "<GUID".toList.all (!List.contains ['\\', ',', '+', '='] ·) = true := by decide
      simpa using List.all_eq_true.mp plain c member
    · rw [Bool.and_eq_true, List.all_eq_true] at letters
      have typed : isTypeChar c = true := by
        rcases List.mem_cons.mp member with rfl | later
        · rw [isTypeChar, letters.1]
          rfl
        · exact letters.2 c later
      refine ⟨?_, ?_, ?_, ?_⟩ <;> rintro rfl <;> exact absurd typed (by decide)

end IsKind

theorem divide_eq {kind : List Char} (plain : ∀ c ∈ kind, c ≠ '\\' ∧ c ≠ '=')
    (front rest : List Char) (last : (front ++ kind).getLast? ≠ some '\\') :
    divide front (kind ++ '=' :: rest) = some (front ++ kind, rest) := by
  induction kind generalizing front with
  | nil =>
    rw [List.append_nil] at last ⊢
    rw [List.nil_append, divide, if_pos (by simp [last])]
  | cons c kind ih =>
    have first := plain c List.mem_cons_self
    rw [List.cons_append, divide, if_neg (by simp [first.2]),
      ih (fun d member => plain d (List.mem_cons_of_mem _ member)) (front ++ [c])
        (by simpa using last)]
    simp

/-- A component is a type and a value, where both are valid. -/
theorem componentValue?_eq {kind : List Char} (isKind : IsKind kind) (value : List Char) :
    componentValue? (kind ++ '=' :: value) =
      if isType kind && isValue value then some value else none := by
  have last : kind.getLast? ≠ some '\\' := fun slash =>
    (isKind.plain _ (List.mem_of_getLast? slash)).1 rfl
  have divided : divide [] (kind ++ '=' :: value) = some (kind, value) :=
    divide_eq (fun c member => ⟨(isKind.plain c member).1, (isKind.plain c member).2.2.2⟩) [] value
      last
  cases kind with
  | nil => exact absurd rfl isKind.filled
  | cons first rest =>
    have start := (isKind.plain first List.mem_cons_self).2.2.2
    rw [List.cons_append] at divided ⊢
    unfold componentValue?
    split
    · rename_i same
      exact absurd (List.cons.inj same).1 start
    · rw [divided]

theorem of_divide {front cs kind rest : List Char} (divided : divide front cs = some (kind, rest)) :
    front ++ cs = kind ++ '=' :: rest := by
  induction cs generalizing front with
  | nil => cases divided
  | cons c cs ih =>
    rw [divide] at divided
    split at divided
    · rename_i equals
      rw [Bool.and_eq_true, beq_iff_eq] at equals
      cases divided
      rw [equals.1]
    · rw [← ih divided, List.append_assoc, List.singleton_append]

theorem kind_of_componentValue? {cs value : List Char} (valid : componentValue? cs = some value) :
    ∃ kind, IsKind kind ∧ cs = kind ++ '=' :: value := by
  unfold componentValue? at valid
  split at valid
  · cases valid
  · split at valid
    · rename_i kind rest divided
      split at valid
      · rename_i both
        rw [Bool.and_eq_true] at both
        cases valid
        exact ⟨kind, .of_isType both.1, of_divide divided⟩
      · cases valid
    · cases valid

/-! ## Values as they are written -/

theorem Spelled.ne_nil {c : Char} {text : List Char} (spelled : Spelled c text) : text ≠ [] := by
  cases spelled with
  | plain free => exact List.cons_ne_nil _ _
  | behind special => exact List.cons_ne_nil _ _
  | @octets digits _ bytes =>
    rintro none
    have empty : digits = [] := by
      cases digits with
      | nil => rfl
      | cons pair digits => cases none
    have size := congrArg List.length bytes
    rw [empty, String.length_utf8EncodeChar] at size
    exact absurd size.symm (Nat.ne_of_gt c.utf8Size_pos)

/-- A blank that ends what is written for a character is behind a backslash, or all that is
written. -/
theorem Spelled.last {c : Char} {text : List Char} (spelled : Spelled c text)
    (blank : text.getLast? = some ' ') : text = [' '] ∨ text.dropLast.getLast? = some '\\' := by
  cases spelled with
  | plain free => exact .inl (by simpa using blank)
  | behind special => exact .inr rfl
  | @octets digits hexadecimal bytes =>
    rcases List.eq_nil_or_concat digits with rfl | ⟨front, ⟨high, low⟩, rfl⟩
    · cases blank
    · rw [List.concat_eq_append, List.flatMap_append,
        List.getLast?_append_of_ne_nil _ (by simp)] at blank
      have same : low = ' ' := by simpa using blank
      have digit := (hexadecimal high low (by simp)).2
      rw [same] at digit
      exact absurd digit (by decide)

namespace Written

variable {atFront : Bool} {cs text : List Char}

theorem eq_nil (written : Written atFront [] text) : text = [] := by
  cases written
  rfl

theorem ne_nil (written : Written atFront cs text) (filled : cs ≠ []) : text ≠ [] := by
  cases written with
  | nil => exact absurd rfl filled
  | cons spelled _ _ _ => exact List.append_ne_nil_of_left_ne_nil spelled.ne_nil _

/-- What is written of a value is no shorter than the value. -/
theorem length_le (written : Written atFront cs text) : cs.length ≤ text.length := by
  induction written with
  | nil => exact Nat.le_refl _
  | cons spelled _ _ _ ih =>
    have some := List.length_pos_iff.mpr spelled.ne_nil
    rw [List.length_cons, List.length_append]
    omega

theorem head (written : Written true cs text) : text.head? ≠ some ' ' := by
  intro blank
  cases written with
  | nil => cases blank
  | cons spelled front _ _ =>
    rw [List.head?_append_of_ne_nil _ spelled.ne_nil] at blank
    refine (front rfl).1 ?_
    cases spelled with
    | plain free => rw [Option.some.inj blank]
    | behind special => cases Option.some.inj blank
    | @octets digits _ _ =>
      cases digits with
      | nil => cases blank
      | cons pair digits => cases Option.some.inj blank

/-- A blank at the end of what is written is behind a backslash. -/
theorem last (written : Written atFront cs text) (blank : text.getLast? = some ' ') :
    text.dropLast.getLast? = some '\\' := by
  induction written with
  | nil => cases blank
  | @cons _ c cs text rest spelled _ last behind ih =>
    by_cases ends : cs = []
    · subst ends
      rw [behind.eq_nil, List.append_nil] at blank ⊢
      exact (spelled.last blank).resolve_left (last rfl)
    · have filled := behind.ne_nil ends
      rw [List.getLast?_append_of_ne_nil _ filled] at blank
      rw [List.dropLast_append_of_ne_nil filled, List.getLast?_append, ih blank]
      rfl

/-- What is written for a value is one, but for plain characters that nobody may read. -/
theorem isValue_eq (written : Written true cs text) (filled : cs ≠ []) :
    isValue text = isEscaped text := by
  have nonempty : text.isEmpty = false := List.isEmpty_eq_false_iff.mpr (written.ne_nil filled)
  have front : (text.head? != some ' ') = true := by simpa using written.head
  have back : (text.getLast? != some ' ' || text.dropLast.getLast? == some '\\') = true := by
    by_cases blank : text.getLast? = some ' '
    · rw [written.last blank, beq_self_eq_true, Bool.or_true]
    · rw [bne_iff_ne.mpr blank, Bool.true_or]
  rw [isValue, nonempty, front, back]
  rfl

end Written

end DirectoryAuth.DistinguishedName
