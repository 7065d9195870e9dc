import DirectoryAuth.Filter
import Mathlib.Data.List.Basic
import Mathlib.Tactic.Tauto

/-!
# Substitution in filters

A filter is its template with the values written in place of the markers, found in one pass from
left to right. A value is escaped, so that whatever it holds it is only a value: it adds no
character that a filter gives a meaning to, and a directory that reads the escapes has the bytes
of the value again. The shape of a filter is therefore that of its template.
-/

namespace DirectoryAuth.Filter

open Template Text

/-! ## Markers -/

/-- The text marks the place of the value with a number: digits of any script in braces. -/
def Marks (number : Nat) (text : List Char) : Prop :=
  ∃ digits, digits ≠ [] ∧ (∀ c ∈ digits, isDigit c = true) ∧ text = '{' :: (digits ++ ['}']) ∧
    number = digitsValue (digits.filterMap digitValue?)

theorem not_isDigit_brace : ¬ isDigit '}' = true := by decide

/-- Digits and a closing brace are read as the number of a marker. -/
theorem readSlot_digits {digits : List Char} (filled : digits ≠ [])
    (digit : ∀ c ∈ digits, isDigit c = true) (rest : List Char) :
    readSlot (digits ++ '}' :: rest) =
      some (⟨digitsValue (digits.filterMap digitValue?), digits.length⟩,
        digits.length + 1) := by
  have front : (digits ++ '}' :: rest).takeWhile isDigit = digits := by
    rw [List.takeWhile_append_of_pos digit, List.takeWhile_cons_of_neg not_isDigit_brace]
    exact List.append_nil _
  have back : (digits ++ '}' :: rest).dropWhile isDigit = '}' :: rest := by
    rw [List.dropWhile_append_of_pos digit, List.dropWhile_cons_of_neg not_isDigit_brace]
  have nonempty : digits.isEmpty = false := List.isEmpty_eq_false_iff.mpr filled
  simp only [readSlot, front, back, nonempty]
  rfl

/-- Nothing but digits and a closing brace is read as a number. -/
theorem digits_of_readSlot {cs : List Char} {slot : Slot} {length : Nat}
    (read : readSlot cs = some (slot, length)) :
    ∃ digits rest, cs = digits ++ '}' :: rest ∧ digits ≠ [] ∧
      (∀ c ∈ digits, isDigit c = true) ∧
      slot.number = digitsValue (digits.filterMap digitValue?) ∧ length = digits.length + 1 := by
  have whole : cs.takeWhile isDigit ++ cs.dropWhile isDigit = cs := List.takeWhile_append_dropWhile
  simp only [readSlot] at read
  split at read
  · rename_i rest behind
    split at read
    · cases read
    · rename_i filled
      obtain ⟨rfl, rfl⟩ := Prod.mk.inj (Option.some.inj read)
      refine ⟨cs.takeWhile isDigit, rest, ?_, ?_, ?_, rfl, rfl⟩
      · rw [← behind, whole]
      · intro none
        rw [none] at filled
        exact filled rfl
      · exact List.all_eq_true.mp List.all_takeWhile
  · cases read

/-- A marker behind an opening brace is read, with its number and its length. -/
theorem readSlot_of_marks {number : Nat} {marker cs : List Char} (marks : Marks number marker)
    (begins : marker <+: '{' :: cs) :
    ∃ width rest, readSlot cs = some (⟨number, width⟩, marker.length - 1) ∧
      '{' :: cs = marker ++ rest ∧ cs.drop (marker.length - 1) = rest := by
  obtain ⟨digits, filled, digit, rfl, rfl⟩ := marks
  obtain ⟨rest, whole⟩ := begins
  have behind : cs = digits ++ '}' :: rest := by
    have tails := congrArg List.tail whole
    simpa using tails.symm
  refine ⟨digits.length, rest, ?_, whole.symm, ?_⟩
  · rw [behind, readSlot_digits filled digit rest]
    simp
  · rw [behind]
    simp

/-- What is read behind an opening brace is a marker. -/
theorem marks_of_readSlot {cs : List Char} {slot : Slot} {length : Nat}
    (read : readSlot cs = some (slot, length)) :
    ∃ marker, Marks slot.number marker ∧ '{' :: cs = marker ++ cs.drop length := by
  obtain ⟨digits, rest, rfl, filled, digit, number, rfl⟩ := digits_of_readSlot read
  refine ⟨'{' :: (digits ++ ['}']), ⟨digits, filled, digit, rfl, number⟩, ?_⟩
  simp

/-! ## One pass over a template -/

/-- The output is the template with the values in place of the markers. One pass from left to right
finds the markers; where none begins, a character stands for itself, and what was written for a
marker is not looked at again. -/
inductive Filled (values : List String) : List Char → List Char → Prop
  | done : Filled values [] []
  | marker {number : Nat} {marker rest output : List Char} {value : String}
      (marks : Marks number marker) (given : values[number]? = some value)
      (behind : Filled values rest output) :
      Filled values (marker ++ rest) (escape value.toList ++ output)
  | char {c : Char} {rest output : List Char}
      (none : ∀ number marker, Marks number marker → ¬ marker <+: c :: rest)
      (behind : Filled values rest output) : Filled values (c :: rest) (c :: output)

def written (values : List String) (parts : List (Piece Slot)) : List Char :=
  expand (fun slot => escape ((values[slot.number]?).getD "").toList) parts

variable {values : List String} {output : List Char}

/-- Where each marker has a value, the pieces of a template are written in one pass. -/
theorem filled_written (cs : List Char)
    (known : ∀ slot ∈ markers (pieces readSlot cs), slot.number < values.length) :
    Filled values cs (written values (pieces readSlot cs)) := by
  induction cs using pieces.induct readSlot with
  | case1 =>
    rw [pieces]
    exact .done
  | case2 cs slot length read ih =>
    rw [pieces, if_pos rfl, read] at known ⊢
    obtain ⟨marker, marks, whole⟩ := marks_of_readSlot read
    have inside : slot.number < values.length := known slot List.mem_cons_self
    have given : values[slot.number]? = some values[slot.number] := List.getElem?_eq_getElem inside
    have rest := ih fun other member => known other (List.mem_cons_of_mem _ member)
    have filled := Filled.marker marks given rest
    rw [whole]
    simpa only [written, expand, List.flatMap_cons, given, Option.getD_some] using filled
  | case3 cs unread ih =>
    rw [pieces, if_pos rfl, unread] at known ⊢
    refine .char ?_ (ih known)
    intro number marker marks begins
    obtain ⟨width, rest, read, -⟩ := readSlot_of_marks marks begins
    rw [unread] at read
    cases read
  | case4 c cs other ih =>
    rw [pieces, if_neg other] at known ⊢
    refine .char ?_ (ih known)
    rintro number marker ⟨digits, -, -, rfl, -⟩ ⟨rest, whole⟩
    exact other (List.cons.inj whole).1.symm

/-- One pass has one output: that of the pieces of the template. -/
theorem Filled.output_eq {cs : List Char} (filled : Filled values cs output) :
    output = written values (pieces readSlot cs) := by
  induction filled with
  | done =>
    rw [pieces]
    rfl
  | @marker number marker rest output value marks given behind ih =>
    obtain ⟨digits, filled, digit, rfl, rfl⟩ := marks
    have marks : Marks _ _ := ⟨digits, filled, digit, rfl, rfl⟩
    have begins : '{' :: (digits ++ ['}']) <+: '{' :: (digits ++ ['}'] ++ rest) := ⟨rest, rfl⟩
    obtain ⟨width, rest', read, whole, dropped⟩ := readSlot_of_marks marks begins
    have same : rest' = rest := by
      have cancelled : '{' :: (digits ++ ['}']) ++ rest = '{' :: (digits ++ ['}']) ++ rest' := whole
      exact (List.append_cancel_left cancelled).symm
    rw [List.cons_append, pieces, if_pos rfl, read, ih]
    simp only [dropped, same, written, expand, List.flatMap_cons, given, Option.getD_some]
  | @char c rest output none behind ih =>
    by_cases opening : c = '{'
    · subst opening
      have unread : readSlot rest = Option.none := by
        rw [Option.eq_none_iff_forall_ne_some]
        rintro ⟨slot, length⟩ read
        obtain ⟨marker, marks, whole⟩ := marks_of_readSlot read
        exact none _ _ marks ⟨_, whole.symm⟩
      rw [pieces, if_pos rfl, unread, ih]
      rfl
    · rw [pieces, if_neg opening, ih]
      rfl

/-! ## Escaped values -/

def isShape (c : Char) : Bool := ['(', ')', '*'].contains c

/-- The bytes that a value in a filter stands for: an escape for its byte, any other character for
its own bytes. There are none where a backslash begins no escape. -/
def bytes? : List Char → Option (List UInt8)
  | [] => some []
  | '\\' :: high :: low :: cs =>
    match hexValue? high, hexValue? low with
    | some h, some l => (bytes? cs).map (UInt8.ofNat (16 * h + l) :: ·)
    | _, _ => none
  | c :: cs => if c = '\\' then none else (bytes? cs).map (String.utf8EncodeChar c ++ ·)

/-- Text in a filter is nothing but a value. -/
structure StandsFor (piece : List Char) (value : String) : Prop where
  /-- It has none of the characters that a filter gives a meaning to. -/
  plain : ∀ c ∈ piece, c ∉ ['*', '(', ')', '\x00']
  /-- Each backslash begins an escape of two hexadecimal digits. -/
  escapes : ∀ front back, piece = front ++ '\\' :: back →
    ∃ high low rest, back = high :: low :: rest ∧ isHexDigit high = true ∧ isHexDigit low = true
  /-- Read back, it gives the bytes of the value. -/
  bytes : ∃ bytes, bytes? piece = some bytes ∧ bytes.toByteArray = value.toUTF8

/-- What is written for one character: an escape, or the character where it needs none. -/
theorem escapedChar_cases (c : Char) :
    (∃ high low h l, escapedChar c = ['\\', high, low] ∧ hexValue? high = some h ∧
      hexValue? low = some l ∧ String.utf8EncodeChar c = [UInt8.ofNat (16 * h + l)] ∧
      high ∉ ['*', '(', ')', '\x00', '\\'] ∧ low ∉ ['*', '(', ')', '\x00', '\\']) ∨
    (escapedChar c = [c] ∧ c ∉ ['*', '(', ')', '\x00', '\\']) := by
  by_cases backslash : c = '\\'
  · subst backslash
    exact .inl ⟨'5', 'c', 5, 12, by decide⟩
  by_cases asterisk : c = '*'
  · subst asterisk
    exact .inl ⟨'2', 'a', 2, 10, by decide⟩
  by_cases opening : c = '('
  · subst opening
    exact .inl ⟨'2', '8', 2, 8, by decide⟩
  by_cases closing : c = ')'
  · subst closing
    exact .inl ⟨'2', '9', 2, 9, by decide⟩
  by_cases null : c = '\x00'
  · subst null
    exact .inl ⟨'0', '0', 0, 0, by decide⟩
  right
  constructor
  · simp only [escapedChar, backslash, asterisk, opening, closing, null, if_false]
  · simp only [List.mem_cons, List.not_mem_nil, or_false]
    tauto

theorem escape_cons (c : Char) (cs : List Char) :
    escape (c :: cs) = escapedChar c ++ escape cs := List.flatMap_cons

theorem escape_plain (cs : List Char) : ∀ c ∈ escape cs, c ∉ ['*', '(', ')', '\x00'] := by
  induction cs with
  | nil => simp [escape]
  | cons c cs ih =>
    intro d member
    rw [escape_cons, List.mem_append] at member
    rcases member with here | later
    · rcases escapedChar_cases c with
        ⟨high, low, h, l, same, -, -, -, plain, plain'⟩ | ⟨same, plain⟩
      · rw [same] at here
        simp only [List.mem_cons, List.not_mem_nil, or_false] at here plain plain' ⊢
        rcases here with rfl | rfl | rfl
        · decide
        · tauto
        · tauto
      · rw [same, List.mem_singleton] at here
        subst here
        simp only [List.mem_cons, List.not_mem_nil, or_false] at plain ⊢
        tauto
    · exact ih d later

theorem escape_escapes (cs front back : List Char) (whole : escape cs = front ++ '\\' :: back) :
    ∃ high low rest, back = high :: low :: rest ∧ isHexDigit high = true ∧
      isHexDigit low = true := by
  induction cs generalizing front with
  | nil => simp [escape] at whole
  | cons c cs ih =>
    rw [escape_cons] at whole
    rcases escapedChar_cases c with
      ⟨high, low, h, l, same, hex, hex', -, plain, plain'⟩ | ⟨same, plain⟩
    · rw [same] at whole
      -- The backslash is the first of the escape, or stands behind it.
      rcases front with _ | ⟨a, _ | ⟨b, _ | ⟨d, front⟩⟩⟩
      · obtain ⟨-, tail⟩ := List.cons.inj whole
        have digit : isHexDigit high = true := by simp [isHexDigit, hex]
        have digit' : isHexDigit low = true := by simp [isHexDigit, hex']
        exact ⟨high, low, escape cs, tail.symm, digit, digit'⟩
      · simp at whole
        simp [whole.2.1] at plain
      · simp at whole
        simp [whole.2.2.1] at plain'
      · simp at whole
        exact ih front whole.2.2.2
    · rw [same] at whole
      rcases front with _ | ⟨a, front⟩
      · obtain ⟨rfl, -⟩ := List.cons.inj whole
        simp at plain
      · exact ih front (List.cons.inj whole).2

theorem bytes?_escape (cs : List Char) :
    bytes? (escape cs) = some (cs.flatMap String.utf8EncodeChar) := by
  induction cs with
  | nil => rfl
  | cons c cs ih =>
    rw [escape_cons, List.flatMap_cons]
    rcases escapedChar_cases c with
      ⟨high, low, h, l, same, hex, hex', bytes, -⟩ | ⟨same, plain⟩
    · rw [same, bytes]
      simp only [List.cons_append, List.nil_append, bytes?, hex, hex', ih, Option.map_some]
    · have other : c ≠ '\\' := by
        rintro rfl
        simp at plain
      rw [same, List.singleton_append, bytes?.eq_3 _ _ (by simp [other]), if_neg other, ih]
      rfl

/-- Escaped, every value is nothing but a value. -/
theorem escape_standsFor (value : String) : StandsFor (escape value.toList) value := by
  refine ⟨escape_plain _, escape_escapes _, _, bytes?_escape _, ?_⟩
  have bytes : value.toList.utf8Encode = value.toUTF8 := by
    rw [← String.toByteArray_ofList, String.ofList_toList]
    rfl
  exact bytes

def replaced (c : Char) (text cs : List Char) : List Char :=
  cs.flatMap fun d => if d = c then text else [d]

/-- The escapes may as well be written for one character after the other, as long as the backslash
comes first: those written for the others are then left alone. -/
theorem escape_in_turn (cs : List Char) :
    escape cs = replaced '\x00' ['\\', '0', '0'] (replaced ')' ['\\', '2', '9']
      (replaced '(' ['\\', '2', '8'] (replaced '*' ['\\', '2', 'a']
        (replaced '\\' ['\\', '5', 'c'] cs)))) := by
  simp only [escape, replaced, List.flatMap_assoc]
  apply List.flatMap_congr
  intro c _
  by_cases backslash : c = '\\'
  · subst backslash
    decide
  by_cases asterisk : c = '*'
  · subst asterisk
    decide
  by_cases opening : c = '('
  · subst opening
    decide
  by_cases closing : c = ')'
  · subst closing
    decide
  by_cases null : c = '\x00'
  · subst null
    decide
  · simp only [escapedChar, backslash, asterisk, opening, closing, null, if_false,
      List.flatMap_cons, List.flatMap_nil, List.append_nil]

/-! ## The shape of a filter -/

/-- A marker is no part of the shape of a template. -/
theorem shape_of_marks {number : Nat} {marker : List Char} (marks : Marks number marker) :
    marker.filter isShape = [] := by
  obtain ⟨digits, -, digit, rfl, -⟩ := marks
  rw [List.filter_eq_nil_iff]
  intro c member
  rw [List.mem_cons, List.mem_append, List.mem_singleton] at member
  rcases member with rfl | member | rfl
  · decide
  · intro shape
    have digit := digit c member
    rw [isShape, List.contains_iff_mem] at shape
    simp only [List.mem_cons, List.not_mem_nil, or_false] at shape
    rcases shape with rfl | rfl | rfl
    · exact absurd digit (by decide)
    · exact absurd digit (by decide)
    · exact absurd digit (by decide)
  · decide

/-- A value adds nothing to the shape of a filter. -/
theorem shape_of_escape (cs : List Char) : (escape cs).filter isShape = [] := by
  rw [List.filter_eq_nil_iff]
  intro c member shape
  have plain := escape_plain cs c member
  rw [isShape, List.contains_iff_mem] at shape
  simp only [List.mem_cons, List.not_mem_nil, or_false] at plain shape
  tauto

theorem Filled.shape_eq {cs : List Char} (filled : Filled values cs output) :
    output.filter isShape = cs.filter isShape := by
  induction filled with
  | done => rfl
  | marker marks given behind ih =>
    rw [List.filter_append, List.filter_append, shape_of_escape, shape_of_marks marks, ih]
  | char none behind ih => rw [List.filter_cons, List.filter_cons, ih]

/-- A template gives a filter where each of its markers has a value. -/
theorem format_eq_ok {template filter : String} (given : format template values = .ok filter) :
    (∀ slot ∈ markers (parts template), slot.number < values.length) ∧
      filter.toList = written values (parts template) := by
  rw [format] at given
  split at given
  · cases given
  · rename_i sound
    cases given
    refine ⟨fun slot member => ?_, String.toList_ofList⟩
    have unfailing := List.findSome?_eq_none_iff.mp sound slot member
    rw [failure?] at unfailing
    by_contra beyond
    rw [if_pos (Nat.le_of_not_lt beyond)] at unfailing
    split at unfailing
    · cases unfailing
    · cases unfailing

/-- Substitution is free of injection. A filter is its template with escaped values in place of the
markers, found in one pass from left to right; escaped, a value is nothing but a value; and the
shape of the filter is that of the template, whatever the values are. -/
theorem format_injection_free {template filter : String} {values : List String}
    (given : format template values = .ok filter) :
    (∀ output, Filled values template.toList output ↔ output = filter.toList) ∧
      (∀ value : String, StandsFor (escape value.toList) value) ∧
      filter.toList.filter isShape = template.toList.filter isShape := by
  obtain ⟨known, same⟩ := format_eq_ok given
  have filled : Filled values template.toList filter.toList := by
    rw [same]
    exact filled_written template.toList known
  refine ⟨fun output => ⟨fun other => ?_, ?_⟩, escape_standsFor, filled.shape_eq⟩
  · rw [same]
    exact other.output_eq
  · rintro rfl
    exact filled

/-- Markers out of order, next to one another and in another script, with values that look like a
filter, a marker and an escape. -/
theorem format_injection_free_hostile :
    let template := "(|(cn=\x7b1\x7d\x7b0\x7d*)(uid=\x7b\u0660\x7d))"
    let values := ["*)(uid=\x7b1\x7d", "\\2a"]
    let filter := "(|(cn=\\5c2a\\2a\\29\\28uid=\x7b1\x7d*)(uid=\\2a\\29\\28uid=\x7b1\x7d))"
    format template values = .ok filter ∧
      (∀ output, Filled values template.toList output ↔ output = filter.toList) ∧
      (∀ value : String, StandsFor (escape value.toList) value) ∧
      filter.toList.filter isShape = template.toList.filter isShape := by
  intro template values filter
  have given : format template values = .ok filter := by decide +kernel
  exact ⟨given, format_injection_free given⟩

end DirectoryAuth.Filter
