import DirectoryAuth.Template
import Mathlib.Data.List.Basic

/-!
# Rewriting templates

To rewrite a template is to write a text for each of its markers and nothing else. What that comes
to is told here without a reader: the markers are replaced in one pass from left to right, in which
no text that was written is looked at again. A reader that finds the markers gives just that.
-/

namespace DirectoryAuth.Template

variable {α : Type} {isMarker : α → List Char → Prop} {value? : α → Option (List Char)}
  {read : Reader α} {cs output : List Char}

/-! ## Pieces -/

@[simp] theorem markers_char (c : Char) (parts : List (Piece α)) :
    markers (.char c :: parts) = markers parts := rfl

@[simp] theorem markers_marker (a : α) (parts : List (Piece α)) :
    markers (.marker a :: parts) = a :: markers parts := rfl

@[simp] theorem expand_char (write : α → List Char) (c : Char) (parts : List (Piece α)) :
    expand write (.char c :: parts) = c :: expand write parts := rfl

@[simp] theorem expand_marker (write : α → List Char) (a : α) (parts : List (Piece α)) :
    expand write (.marker a :: parts) = write a ++ expand write parts := rfl

/-- Only what is written for the markers of a template counts. -/
theorem expand_congr {write write' : α → List Char} {parts : List (Piece α)}
    (same : ∀ a ∈ markers parts, write a = write' a) :
    expand write parts = expand write' parts := by
  induction parts with
  | nil => rfl
  | cons part parts ih =>
    cases part with
    | char c => rw [expand_char, expand_char, ih same]
    | marker a =>
      obtain ⟨here, later⟩ := List.forall_mem_cons.mp same
      rw [expand_marker, expand_marker, here, ih later]

/-! ## Rewriting -/

/-- The output is the template with the text for each marker in the place of the marker. Where no
marker begins, a character stands for itself. -/
inductive Rewritten (isMarker : α → List Char → Prop) (value? : α → Option (List Char)) :
    List Char → List Char → Prop
  | done : Rewritten isMarker value? [] []
  | marker {a : α} {marker rest written output : List Char} (marks : isMarker a marker)
      (given : value? a = some written) (behind : Rewritten isMarker value? rest output) :
      Rewritten isMarker value? (marker ++ rest) (written ++ output)
  | char {c : Char} {rest output : List Char}
      (none : ∀ a marker, isMarker a marker → ¬ marker <+: c :: rest)
      (behind : Rewritten isMarker value? rest output) :
      Rewritten isMarker value? (c :: rest) (c :: output)

/-- The reader finds the markers, which have an opening brace at the front and nowhere else. -/
structure Finds (read : Reader α) (isMarker : α → List Char → Prop) : Prop where
  braced : ∀ a marker, isMarker a marker → ∃ tail, marker = '{' :: tail ∧ '{' ∉ tail
  sound : ∀ cs a length, read cs = some (a, length) →
    ∃ marker, isMarker a marker ∧ '{' :: cs = marker ++ cs.drop length
  complete : ∀ cs a marker rest, isMarker a marker → '{' :: cs = marker ++ rest →
    ∃ length, read cs = some (a, length) ∧ cs.drop length = rest

namespace Finds

/-- Where nothing is read behind a brace, no marker begins. -/
theorem not_begins (finds : Finds read isMarker) (unread : read cs = none) (a : α)
    (marker : List Char) (marks : isMarker a marker) : ¬ marker <+: '{' :: cs := by
  rintro ⟨rest, whole⟩
  obtain ⟨length, found, -⟩ := finds.complete cs a marker rest marks whole.symm
  rw [unread] at found
  cases found

/-- None begins without a brace either. -/
theorem not_begins_of_ne (finds : Finds read isMarker) {c : Char} (other : c ≠ '{') (a : α)
    (marker : List Char) (marks : isMarker a marker) : ¬ marker <+: c :: cs := by
  rintro ⟨rest, whole⟩
  obtain ⟨tail, rfl, -⟩ := finds.braced a marker marks
  exact other (List.cons.inj whole).1.symm

/-- What is found begins a marker. -/
theorem eq_none_of_not_begins (finds : Finds read isMarker)
    (none : ∀ a marker, isMarker a marker → ¬ marker <+: '{' :: cs) : read cs = Option.none := by
  rw [Option.eq_none_iff_forall_ne_some]
  rintro ⟨a, length⟩ found
  obtain ⟨marker, marks, whole⟩ := finds.sound cs a length found
  exact none a marker marks ⟨_, whole.symm⟩

/-- A marker is one piece. -/
theorem pieces_marker (finds : Finds read isMarker) {a : α} {marker : List Char}
    (marks : isMarker a marker) (rest : List Char) :
    pieces read (marker ++ rest) = .marker a :: pieces read rest := by
  obtain ⟨tail, rfl, -⟩ := finds.braced a marker marks
  obtain ⟨length, found, behind⟩ := finds.complete (tail ++ rest) a ('{' :: tail) rest marks rfl
  rw [List.cons_append, pieces, if_pos rfl, found]
  dsimp only
  rw [behind]

/-- A character at which no marker begins is another. -/
theorem pieces_char (finds : Finds read isMarker) {c : Char} {rest : List Char}
    (none : ∀ a marker, isMarker a marker → ¬ marker <+: c :: rest) :
    pieces read (c :: rest) = .char c :: pieces read rest := by
  by_cases opening : c = '{'
  · subst opening
    rw [pieces, if_pos rfl, finds.eq_none_of_not_begins none]
  · rw [pieces, if_neg opening]

/-- A template has one form with all markers rewritten, the text of its pieces, where each of them
has a value. -/
theorem rewritten_iff (finds : Finds read isMarker) :
    Rewritten isMarker value? cs output ↔
      (∀ a ∈ markers (pieces read cs), (value? a).isSome = true) ∧
        output = expand (fun a => (value? a).getD []) (pieces read cs) := by
  constructor
  · intro rewritten
    induction rewritten with
    | done =>
      rw [pieces]
      exact ⟨List.forall_mem_nil _, rfl⟩
    | @marker a marker rest written output marks given behind ih =>
      obtain ⟨known, rfl⟩ := ih
      rw [finds.pieces_marker marks rest, markers_marker, expand_marker, given]
      exact ⟨List.forall_mem_cons.mpr ⟨by rw [given]; rfl, known⟩, rfl⟩
    | @char c rest output none behind ih =>
      obtain ⟨known, rfl⟩ := ih
      rw [finds.pieces_char none]
      exact ⟨known, rfl⟩
  · rintro ⟨known, rfl⟩
    induction cs using pieces.induct read with
    | case1 =>
      rw [pieces]
      exact .done
    | case2 cs a length found ih =>
      obtain ⟨marker, marks, whole⟩ := finds.sound cs a length found
      rw [whole, finds.pieces_marker marks] at known ⊢
      obtain ⟨some, known⟩ := List.forall_mem_cons.mp known
      obtain ⟨written, given⟩ := Option.isSome_iff_exists.mp some
      rw [expand_marker, given]
      exact .marker marks given (ih known)
    | case3 cs unread ih =>
      have none := finds.not_begins unread
      rw [finds.pieces_char none] at known ⊢
      exact .char none (ih known)
    | case4 c cs other ih =>
      have none : ∀ a marker, isMarker a marker → ¬ marker <+: c :: cs :=
        finds.not_begins_of_ne other
      rw [finds.pieces_char none] at known ⊢
      exact .char none (ih known)

/-- What stands behind text without an opening brace holds all markers that begin behind it. -/
theorem infix_of_plain (finds : Finds read isMarker) {a : α} {marker plain rest : List Char}
    (marks : isMarker a marker) (bare : '{' ∉ plain) (within : marker <:+: plain ++ rest) :
    marker <:+: rest := by
  obtain ⟨tail, rfl, -⟩ := finds.braced a marker marks
  obtain ⟨front, back, whole⟩ := within
  rw [List.append_assoc] at whole
  rcases List.append_eq_append_iff.mp whole with ⟨behind, rfl, rest'⟩ | ⟨behind, rfl, rest'⟩
  · cases behind with
    | nil => exact ⟨[], back, by simpa using rest'⟩
    | cons c behind =>
      obtain ⟨rfl, -⟩ := List.cons.inj rest'
      exact absurd (List.mem_append_right _ List.mem_cons_self) bare
  · exact ⟨behind, back, by rw [List.append_assoc]; exact rest'.symm⟩

/-- One pass passes over no marker: the markers among the pieces are those within the template. -/
theorem mem_markers_iff (finds : Finds read isMarker) {a : α} :
    a ∈ markers (pieces read cs) ↔ ∃ marker, isMarker a marker ∧ marker <:+: cs := by
  induction cs using pieces.induct read with
  | case1 =>
    rw [pieces]
    refine iff_of_false List.not_mem_nil ?_
    rintro ⟨marker, marks, within⟩
    obtain ⟨tail, rfl, -⟩ := finds.braced a marker marks
    cases List.infix_nil.mp within
  | case2 cs b length found ih =>
    obtain ⟨first, marks, whole⟩ := finds.sound cs b length found
    obtain ⟨tail, rfl, bare⟩ := finds.braced b first marks
    rw [whole, finds.pieces_marker marks, markers_marker, List.mem_cons, ih]
    constructor
    · rintro (rfl | ⟨marker, marks, within⟩)
      · exact ⟨_, marks, (List.prefix_append _ _).isInfix⟩
      · exact ⟨marker, marks, within.trans (List.suffix_append _ _).isInfix⟩
    · rintro ⟨marker, others, within⟩
      rw [List.cons_append, List.infix_cons_iff, ← List.cons_append, ← whole] at within
      rcases within with ⟨rest, begins⟩ | behind
      · obtain ⟨_, again, -⟩ := finds.complete cs a marker rest others begins.symm
        rw [found] at again
        cases again
        exact .inl rfl
      · exact .inr ⟨marker, others, finds.infix_of_plain others bare behind⟩
  | case3 cs unread ih =>
    rw [finds.pieces_char (finds.not_begins unread), markers_char, ih]
    refine exists_congr fun marker => and_congr_right fun marks => ?_
    rw [List.infix_cons_iff, or_iff_right (finds.not_begins unread a marker marks)]
  | case4 c cs other ih =>
    have none : ∀ a marker, isMarker a marker → ¬ marker <+: c :: cs :=
      finds.not_begins_of_ne other
    rw [finds.pieces_char none, markers_char, ih]
    refine exists_congr fun marker => and_congr_right fun marks => ?_
    rw [List.infix_cons_iff, or_iff_right (none a marker marks)]

end Finds

/-! ## One text for all markers -/

theorem length_expand (written : List Char) (parts : List (Piece α)) :
    (expand (fun _ => written) parts).length =
      (expand (fun _ => []) parts).length + (markers parts).length * written.length := by
  induction parts with
  | nil => simp [expand, markers]
  | cons part parts ih =>
    cases part with
    | char c =>
      rw [expand_char, expand_char, markers_char, List.length_cons, List.length_cons, ih]
      omega
    | marker a =>
      rw [expand_marker, expand_marker, markers_marker, List.length_append, List.length_append,
        List.length_cons, ih, Nat.succ_mul, List.length_nil]
      omega

/-- Where the same text is written for each marker, and there is one, the whole tells the text. -/
theorem expand_injective {parts : List (Piece α)} (some : markers parts ≠ []) {a b : List Char}
    (same : expand (fun _ => a) parts = expand (fun _ => b) parts) : a = b := by
  have size : a.length = b.length := by
    have sizes := congrArg List.length same
    rw [length_expand a, length_expand b, Nat.add_left_cancel_iff] at sizes
    exact Nat.eq_of_mul_eq_mul_left (List.length_pos_iff.mpr some) sizes
  induction parts with
  | nil => exact absurd rfl some
  | cons part parts ih =>
    cases part with
    | char c => exact ih some (List.cons.inj same).2
    | marker value => exact (List.append_inj same size).1

end DirectoryAuth.Template
