import DirectoryAuth.Proofs.Filter.Substitution
import DirectoryAuth.Proofs.Template.Rewriting
import DirectoryAuth.Proofs.Text.Numerals

/-!
# Numbered placeholders

A template whose markers are numbered is read again when a filter is made of it. Where it had no
numbered markers of its own, those that are read are the ones that were written, with their numbers:
none arises from what stands next to a marker, and none is cut. The filter is then what would have
come of writing the values for the markers at once.
-/

namespace DirectoryAuth.Filter

open Template Text

/-! ## Numbers -/

/-- One value is never too many. -/
theorem one_le_pow_ten (limit : Nat) : 1 ≤ Nat.pow 10 limit := Nat.pow_pos (by decide)

theorem length_toDigits_le {n limit : Nat} (some : 0 < limit) (small : n < Nat.pow 10 limit) :
    (Nat.toDigits 10 n).length ≤ limit :=
  (Nat.length_toDigits_le_iff (by decide) some).mpr small

def slotOf (n : Nat) : Slot := ⟨n, (Nat.toDigits 10 n).length⟩

theorem readSlot_numbered (n : Nat) (rest : List Char) :
    readSlot (Nat.toDigits 10 n ++ '}' :: rest) =
      some (slotOf n, (Nat.toDigits 10 n).length + 1) := by
  obtain ⟨digits, value⟩ := digitsValue_toDigits n
  rw [readSlot_digits Nat.toDigits_ne_nil digits, value]
  rfl

/-! ## Templates with their markers numbered -/

/-- The marker is digits in braces, and this is read of it. -/
def IsSlot (slot : Slot) (marker : List Char) : Prop :=
  ∃ digits, digits ≠ [] ∧ (∀ c ∈ digits, isDigit c = true) ∧ marker = '{' :: (digits ++ ['}']) ∧
    slot = ⟨digitsValue (digits.filterMap digitValue?), digits.length⟩

theorem finds_readSlot : Finds readSlot IsSlot where
  braced := by
    rintro slot _ ⟨digits, -, digit, rfl, -⟩
    refine ⟨_, rfl, fun opening => ?_⟩
    rcases List.mem_append.mp opening with inside | last
    · exact absurd (digit _ inside) (by decide)
    · exact absurd (List.mem_singleton.mp last) (by decide)
  sound := by
    intro cs slot length found
    obtain ⟨digits, rest, rfl, filled, digit, -, rfl⟩ := digits_of_readSlot found
    rw [readSlot_digits filled digit] at found
    cases found
    exact ⟨_, ⟨digits, filled, digit, rfl, rfl⟩, by simp⟩
  complete := by
    rintro cs slot _ rest ⟨digits, filled, digit, rfl, rfl⟩ whole
    obtain rfl : cs = digits ++ '}' :: rest := by simpa using whole
    exact ⟨_, readSlot_digits filled digit rest, by simp⟩

def Unnumbered (template : String) : Prop :=
  ∀ number marker, Marks number marker → ¬ marker <:+: template.toList

theorem unnumbered_iff {template : String} :
    Unnumbered template ↔ markers (parts template) = [] := by
  rw [List.eq_nil_iff_forall_not_mem]
  constructor
  · intro bare slot mem
    obtain ⟨marker, ⟨digits, filled, digit, same, rfl⟩, within⟩ :=
      finds_readSlot.mem_markers_iff.mp mem
    exact bare _ marker ⟨digits, filled, digit, same, rfl⟩ within
  · rintro none _ marker ⟨digits, filled, digit, same, rfl⟩ within
    exact none _ (finds_readSlot.mem_markers_iff.mpr
      ⟨marker, ⟨digits, filled, digit, same, rfl⟩, within⟩)

instance (template : String) : Decidable (Unnumbered template) :=
  decidable_of_iff _ unnumbered_iff.symm

/-- The filter is the template with the value of each marker, escaped, in the place of the marker;
nothing else is. -/
def IsExpansion {α : Type} (isMarker : α → List Char → Prop) (value? : α → Option String)
    (template filter : String) : Prop :=
  ∀ output, Rewritten isMarker (fun a => (value? a).map fun value => escape value.toList)
    template.toList output ↔ output = filter.toList

section Numbering

variable {α : Type} {read : Reader α} {number : α → Nat} {cs : List Char}

/-- The text of a template with its markers numbered. -/
def numberedText (read : Reader α) (number : α → Nat) (cs : List Char) : List Char :=
  expand (fun a => numbered (number a)) (pieces read cs)

theorem numberedText_nil : numberedText read number [] = [] := by
  rw [numberedText, pieces]
  rfl

theorem numberedText_marker {a : α} {length : Nat} (found : read cs = some (a, length)) :
    numberedText read number ('{' :: cs) =
      '{' :: (Nat.toDigits 10 (number a) ++ '}' :: numberedText read number (cs.drop length)) := by
  rw [numberedText, pieces, if_pos rfl, found]
  simp [numbered, numberedText]

theorem numberedText_brace (unread : read cs = none) :
    numberedText read number ('{' :: cs) = '{' :: numberedText read number cs := by
  rw [numberedText, pieces, if_pos rfl, unread]
  rfl

theorem numberedText_char {c : Char} (other : c ≠ '{') :
    numberedText read number (c :: cs) = c :: numberedText read number cs := by
  rw [numberedText, pieces, if_neg other]
  rfl

/-- What is no brace at the front of it is at the front of the template. -/
theorem plain_of_numberedText {c : Char} {more : List Char} (plain : c ≠ '{')
    (whole : numberedText read number cs = c :: more) :
    ∃ rest, cs = c :: rest ∧ numberedText read number rest = more := by
  cases cs with
  | nil =>
    rw [numberedText_nil] at whole
    cases whole
  | cons d rest =>
    by_cases opening : d = '{'
    · subst opening
      cases found : read rest with
      | none =>
        rw [numberedText_brace found] at whole
        exact absurd (List.cons.inj whole).1.symm plain
      | some marker =>
        rw [numberedText_marker found] at whole
        exact absurd (List.cons.inj whole).1.symm plain
    · rw [numberedText_char opening] at whole
      obtain ⟨rfl, behind⟩ := List.cons.inj whole
      exact ⟨rest, rfl, behind⟩

/-- So are digits with a closing brace. -/
theorem digits_of_numberedText {digits more : List Char} (digit : ∀ c ∈ digits, isDigit c = true)
    (whole : numberedText read number cs = digits ++ '}' :: more) :
    ∃ rest, cs = digits ++ '}' :: rest := by
  induction digits generalizing cs with
  | nil =>
    obtain ⟨rest, same, -⟩ := plain_of_numberedText (by decide) whole
    exact ⟨rest, same⟩
  | cons c digits ih =>
    have plain : c ≠ '{' := by
      rintro rfl
      exact absurd (digit _ List.mem_cons_self) (by decide)
    obtain ⟨rest, rfl, behind⟩ := plain_of_numberedText plain whole
    obtain ⟨last, rfl⟩ := ih (fun d member => digit d (List.mem_cons_of_mem _ member)) behind
    exact ⟨last, rfl⟩

/-- No numbered marker begins behind a brace that begins none in the template. -/
theorem readSlot_numberedText (unread : readSlot cs = none) :
    readSlot (numberedText read number cs) = none := by
  rw [Option.eq_none_iff_forall_ne_some]
  rintro ⟨slot, length⟩ found
  obtain ⟨digits, more, whole, filled, digit, -, -⟩ := digits_of_readSlot found
  obtain ⟨rest, rfl⟩ := digits_of_numberedText digit whole
  rw [readSlot_digits filled digit] at unread
  cases unread

/-- A template without numbered markers of its own gives, with its markers numbered, the same pieces
again. -/
theorem pieces_numberedText (read : Reader α) (number : α → Nat)
    (bare : ∀ rest, '{' :: rest <:+ cs → readSlot rest = none) :
    markers (pieces readSlot (numberedText read number cs)) =
        (markers (pieces read cs)).map (fun a => slotOf (number a)) ∧
      ∀ write, expand write (pieces readSlot (numberedText read number cs)) =
        expand (fun a => write (slotOf (number a))) (pieces read cs) := by
  induction cs using pieces.induct read with
  | case1 =>
    rw [numberedText_nil, pieces, pieces]
    exact ⟨rfl, fun _ => rfl⟩
  | case2 cs a length found ih =>
    have rest := ih fun rest behind =>
      bare rest (behind.trans ((List.drop_suffix _ _).trans (List.suffix_cons _ _)))
    have behind (more : List Char) :
        (Nat.toDigits 10 (number a) ++ '}' :: more).drop
          ((Nat.toDigits 10 (number a)).length + 1) = more := by
      simp
    rw [numberedText_marker found, pieces, if_pos rfl, readSlot_numbered, pieces, if_pos rfl, found]
    dsimp only
    rw [behind]
    exact ⟨congrArg (slotOf (number a) :: ·) rest.1,
      fun write => congrArg (write (slotOf (number a)) ++ ·) (rest.2 write)⟩
  | case3 cs unread ih =>
    have rest := ih fun rest behind => bare rest (behind.trans (List.suffix_cons _ _))
    have unnumbered : readSlot (numberedText read number cs) = none :=
      readSlot_numberedText (bare _ (List.suffix_refl _))
    rw [numberedText_brace unread, pieces, if_pos rfl, unnumbered, pieces, if_pos rfl, unread]
    exact ⟨rest.1, fun write => congrArg ('{' :: ·) (rest.2 write)⟩
  | case4 c cs other ih =>
    have rest := ih fun rest behind => bare rest (behind.trans (List.suffix_cons _ _))
    rw [numberedText_char other, pieces, if_neg other, pieces, if_neg other]
    exact ⟨rest.1, fun write => congrArg (c :: ·) (rest.2 write)⟩

/-- With a value for each number, and few enough of them, the filter is the template with the value
for each marker, escaped. -/
theorem format_numberedText {template : String} {values : List String} (number : α → Nat)
    (bare : Unnumbered template)
    (known : ∀ a ∈ markers (pieces read template.toList), number a < values.length)
    (few : values.length ≤ Nat.pow 10 Decimal.digitLimit) :
    format (String.ofList (numberedText read number template.toList)) values =
      .ok (String.ofList (expand (fun a => escape ((values[number a]?).getD "").toList)
        (pieces read template.toList))) := by
  have unread (rest : List Char) (within : '{' :: rest <:+ template.toList) :
      readSlot rest = none := by
    rw [Option.eq_none_iff_forall_ne_some]
    rintro ⟨slot, length⟩ found
    obtain ⟨marker, marks, whole⟩ := marks_of_readSlot found
    have begins : marker <+: '{' :: rest := ⟨_, whole.symm⟩
    exact bare slot.number marker marks (begins.isInfix.trans within.isInfix)
  obtain ⟨slots, written⟩ := pieces_numberedText read number unread
  let text := String.ofList (numberedText read number template.toList)
  have sound : (markers (parts text)).findSome? (failure? text values) = none := by
    rw [parts, String.toList_ofList, slots, List.findSome?_eq_none_iff]
    intro slot within
    obtain ⟨a, member, rfl⟩ := List.mem_map.mp within
    have inside := known a member
    have short : (Nat.toDigits 10 (number a)).length ≤ Decimal.digitLimit :=
      length_toDigits_le (by decide) (Nat.lt_of_lt_of_le inside few)
    rw [failure?, slotOf, if_neg (Nat.not_lt.mpr short), if_neg (Nat.not_le.mpr inside)]
  rw [format, sound]
  dsimp only
  rw [parts, String.toList_ofList, written]
  rfl

/-- Where the values are in the order of the numbers, the template has kept its meaning. -/
theorem exists_expansion {isMarker : α → List Char → Prop} {value? : α → Option String}
    {template : String} {values : List String} (finds : Finds read isMarker) (number : α → Nat)
    (bare : Unnumbered template)
    (given : ∀ a ∈ markers (pieces read template.toList),
      ∃ value, value? a = some value ∧ values[number a]? = some value)
    (few : values.length ≤ Nat.pow 10 Decimal.digitLimit) :
    ∃ filter, format (String.ofList (numberedText read number template.toList)) values =
        .ok filter ∧ IsExpansion isMarker value? template filter := by
  have known (a : α) (mem : a ∈ markers (pieces read template.toList)) :
      number a < values.length := by
    obtain ⟨value, -, listed⟩ := given a mem
    exact (List.getElem?_eq_some_iff.mp listed).1
  have written : expand (fun a => ((value? a).map fun value => escape value.toList).getD [])
        (pieces read template.toList) =
      expand (fun a => escape ((values[number a]?).getD "").toList)
        (pieces read template.toList) := by
    refine expand_congr fun a mem => ?_
    obtain ⟨value, named, listed⟩ := given a mem
    rw [named, listed]
    rfl
  refine ⟨_, format_numberedText number bare known few, fun output => ?_⟩
  rw [finds.rewritten_iff, String.toList_ofList, written, and_iff_right]
  intro a mem
  obtain ⟨value, named, -⟩ := given a mem
  rw [named]
  rfl

end Numbering

/-- Escaped, two values are as different as before. -/
theorem escape_injective {value other : String}
    (same : escape value.toList = escape other.toList) : value = other := by
  obtain ⟨bytes, read, whole⟩ := (escape_standsFor value).bytes
  obtain ⟨bytes', read', whole'⟩ := (escape_standsFor other).bytes
  rw [same, read'] at read
  cases read
  exact String.toByteArray_inj.mp (whole.symm.trans whole')

end DirectoryAuth.Filter
