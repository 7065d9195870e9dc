import DirectoryAuth.Diagnosis
import DirectoryAuth.Proofs.Text.Numerals
import DirectoryAuth.Text.Word

/-!
# Signs of sub-codes in messages

A sub-code shows in a message by the marker, blanks and hexadecimal digits. The one that stands
furthest to the front is read, and nothing is asked of what stands around it: neither that the
marker is a word of its own, nor that the digits are. So ordinary words may be taken for a sign.
-/

namespace DirectoryAuth.Diagnosis

open Text

variable {message front more : List Char}

/-! ## Signs -/

/-- A sign of a sub-code: behind some characters the marker, blanks, and as many hexadecimal digits
as there are. -/
structure Sign (message : List Char) where
  front : List Char
  gap : List Char
  digits : List Char
  back : List Char
  whole : message = front ++ (marker ++ (gap ++ (digits ++ back)))
  filled : gap ≠ []
  blank : ∀ c ∈ gap, isBlank c = true
  written : digits ≠ []
  hex : ∀ c ∈ digits, isHexDigit c = true
  ends : ∀ c ∈ back.head?, isHexDigit c = false

namespace Sign

def code (s : Sign message) : Nat := hexDigitsValue s.digits

def IsFirst (s : Sign message) : Prop :=
  ∀ other : Sign message, s.front.length ≤ other.front.length

theorem trimLeft_eq (s : Sign message) :
    trimLeft (s.gap ++ (s.digits ++ s.back)) = s.digits ++ s.back := by
  obtain ⟨c, rest, digits⟩ := List.exists_cons_of_ne_nil s.written
  have digit : isHexDigit c = true := s.hex c (by simp [digits])
  rw [trimLeft, List.dropWhile_append_of_pos s.blank, digits, List.cons_append,
    List.dropWhile_cons_of_neg (by simp [isBlank_of_isHexDigit digit])]

theorem takeWhile_eq (s : Sign message) :
    (s.digits ++ s.back).takeWhile isHexDigit = s.digits := by
  rw [List.takeWhile_append_of_pos s.hex]
  cases back : s.back with
  | nil => simp
  | cons c rest =>
    have other := s.ends c (by simp [back])
    simp [other]

/-- Its front decides all of a sign. -/
theorem behind (s : Sign message) :
    message.drop (s.front.length + marker.length) = s.gap ++ (s.digits ++ s.back) := by
  have whole := congrArg (List.drop (s.front.length + marker.length)) s.whole
  rwa [← List.append_assoc, List.drop_left' (List.length_append ..)] at whole

theorem digits_eq (s : Sign message) :
    s.digits = (trimLeft (message.drop (s.front.length + marker.length))).takeWhile isHexDigit := by
  rw [s.behind, s.trimLeft_eq, s.takeWhile_eq]

theorem back_eq (s : Sign message) :
    s.back = (trimLeft (message.drop (s.front.length + marker.length))).dropWhile isHexDigit := by
  have both := List.takeWhile_append_dropWhile (p := isHexDigit) (l := s.digits ++ s.back)
  rw [s.takeWhile_eq] at both
  rw [s.behind, s.trimLeft_eq]
  exact (List.append_cancel_left both).symm

/-- Signs that begin at one place show one sub-code. -/
theorem code_eq (s other : Sign message) (same : s.front.length = other.front.length) :
    s.code = other.code := by
  rw [code, code, s.digits_eq, other.digits_eq, same]

def later (s : Sign message) (c : Char) : Sign (c :: message) :=
  { s with front := c :: s.front, whole := congrArg (c :: ·) s.whole }

/-- What is behind the first character shows all signs that do not begin with it. -/
theorem exists_later {c : Char} (s : Sign (c :: message)) (inner : s.front ≠ []) :
    ∃ rest : Sign message, rest.later c = s := by
  obtain ⟨front, gap, digits, back, whole, filled, blank, written, hex, ends⟩ := s
  obtain ⟨d, front, rfl⟩ := List.exists_cons_of_ne_nil inner
  obtain ⟨rfl, behind⟩ := List.cons.inj whole
  exact ⟨⟨front, gap, digits, back, behind, filled, blank, written, hex, ends⟩, rfl⟩

end Sign

/-! ## Reading -/

/-- The sign that begins with a marker, where blanks and a digit follow. -/
def signAt (rest : List Char) (filled : rest.head?.any isBlank = true)
    (written : (trimLeft rest).takeWhile isHexDigit ≠ []) : Sign (marker ++ rest) where
  front := []
  gap := rest.takeWhile isBlank
  digits := (trimLeft rest).takeWhile isHexDigit
  back := (trimLeft rest).dropWhile isHexDigit
  whole := by
    rw [List.takeWhile_append_dropWhile, trimLeft, List.takeWhile_append_dropWhile]
    rfl
  filled := by
    cases rest with
    | nil => cases filled
    | cons c rest =>
      rw [List.takeWhile_cons_of_pos (by simpa using filled)]
      exact List.cons_ne_nil _ _
  blank := fun _ => List.mem_takeWhile_imp
  written := written
  hex := fun _ => List.mem_takeWhile_imp
  ends := by
    intro c last
    have other := List.head?_dropWhile_not isHexDigit (trimLeft rest)
    rw [Option.mem_def.mp last] at other
    exact other

/-- What is read at the front of a text is the sub-code of a sign that begins there. -/
theorem codeAt?_eq_some_iff {n : Nat} :
    codeAt? message = some n ↔ ∃ s : Sign message, s.front = [] ∧ s.code = n := by
  constructor
  · intro read
    rw [codeAt?] at read
    split at read
    · rename_i begins
      obtain ⟨rest, rfl⟩ := List.isPrefixOf_iff_prefix.mp begins
      rw [List.drop_left] at read
      dsimp only at read
      split at read
      · rename_i shown
        rw [Bool.and_eq_true, Bool.not_eq_true', List.isEmpty_eq_false_iff] at shown
        exact ⟨signAt rest shown.1 shown.2, rfl, Option.some.inj read⟩
      · cases read
    · cases read
  · rintro ⟨s, start, rfl⟩
    have behind : message.drop marker.length = s.gap ++ (s.digits ++ s.back) := by
      simpa [start] using s.behind
    have begins : marker.isPrefixOf message = true := by
      rw [List.isPrefixOf_iff_prefix]
      exact ⟨s.gap ++ (s.digits ++ s.back), by simpa [start] using s.whole.symm⟩
    have filled : (s.gap ++ (s.digits ++ s.back)).head?.any isBlank = true := by
      obtain ⟨c, rest, gap⟩ := List.exists_cons_of_ne_nil s.filled
      simp [gap, s.blank c (by simp [gap])]
    have written : s.digits.isEmpty = false := by simpa using s.written
    rw [codeAt?, if_pos begins]
    dsimp only
    rw [behind, s.trimLeft_eq, s.takeWhile_eq, filled, written]
    rfl

theorem codeAt?_eq_none_iff :
    codeAt? message = none ↔ ∀ s : Sign message, s.front ≠ [] := by
  rw [Option.eq_none_iff_forall_ne_some]
  constructor
  · intro unread s start
    exact unread s.code (codeAt?_eq_some_iff.mpr ⟨s, start, rfl⟩)
  · intro inner n read
    obtain ⟨s, start, -⟩ := codeAt?_eq_some_iff.mp read
    exact inner s start

/-- The sub-code that is read is the one of the first sign. -/
theorem firstCode?_eq_some_iff {n : Nat} :
    firstCode? message = some n ↔ ∃ s : Sign message, s.IsFirst ∧ s.code = n := by
  induction message with
  | nil =>
    refine iff_of_false nofun ?_
    rintro ⟨s, -, -⟩
    have size := congrArg List.length s.whole
    simp [marker] at size
  | cons c message ih =>
    rw [firstCode?, Option.or_eq_some_iff]
    constructor
    · rintro (here | ⟨none, behind⟩)
      · obtain ⟨s, start, code⟩ := codeAt?_eq_some_iff.mp here
        exact ⟨s, fun other => by simp [start], code⟩
      · obtain ⟨s, first, code⟩ := ih.mp behind
        refine ⟨s.later c, fun other => ?_, code⟩
        obtain ⟨rest, rfl⟩ := other.exists_later (codeAt?_eq_none_iff.mp none other)
        exact Nat.succ_le_succ (first rest)
    · rintro ⟨s, first, rfl⟩
      by_cases start : s.front = []
      · exact .inl (codeAt?_eq_some_iff.mpr ⟨s, start, rfl⟩)
      · have inner : ∀ other : Sign (c :: message), other.front ≠ [] := by
          intro other begins
          have shorter := first other
          rw [begins] at shorter
          exact start (List.eq_nil_of_length_eq_zero (Nat.le_zero.mp shorter))
        obtain ⟨rest, rfl⟩ := s.exists_later start
        refine .inr ⟨codeAt?_eq_none_iff.mpr inner, ih.mpr ⟨rest, fun other => ?_, rfl⟩⟩
        exact Nat.le_of_succ_le_succ (first (other.later c))

theorem firstCode?_eq_none_iff : firstCode? message = none ↔ IsEmpty (Sign message) := by
  induction message with
  | nil =>
    refine iff_of_true rfl ⟨fun s => ?_⟩
    have size := congrArg List.length s.whole
    simp [marker] at size
  | cons c message ih =>
    rw [firstCode?, Option.or_eq_none_iff, ih, codeAt?_eq_none_iff]
    constructor
    · rintro ⟨inner, none⟩
      refine ⟨fun s => ?_⟩
      obtain ⟨rest, -⟩ := s.exists_later (inner s)
      exact none.false rest
    · intro none
      exact ⟨fun s => (none.false s).elim, ⟨fun s => none.false (s.later c)⟩⟩

/-! ## Signs one behind the other -/

namespace Sign

/-- A sign ends in front of the next marker: of its letters, some are digits, but not the third. -/
theorem ends_before (s other : Sign message) (earlier : s.front.length < other.front.length) :
    s.front.length + marker.length + s.gap.length + s.digits.length ≤ other.front.length + 2 := by
  have size : marker.length = 4 := rfl
  have third : (other.front ++ (marker ++ (other.gap ++ (other.digits ++ other.back))))[
      other.front.length + 2]? = some 't' := by
    rw [List.getElem?_append_right (Nat.le_add_right ..), Nat.add_sub_cancel_left]
    rfl
  rw [other.whole.symm.trans s.whole, List.getElem?_append_right (by omega)] at third
  by_contra beyond
  by_cases next : s.front.length + 1 = other.front.length
  · have last : other.front.length + 2 - s.front.length = 3 := by omega
    rw [last] at third
    exact absurd third (by simp [marker])
  · rw [List.getElem?_append_right (by omega)] at third
    by_cases within : other.front.length + 2 - s.front.length - marker.length < s.gap.length
    · rw [List.getElem?_append_left within] at third
      exact absurd (s.blank 't' (List.mem_of_getElem? third)) (by decide)
    · rw [List.getElem?_append_right (by omega), List.getElem?_append_left (by omega)] at third
      exact absurd (s.hex 't' (List.mem_of_getElem? third)) (by decide)

/-- So it is a sign of what ends with that marker, too. -/
theorem exists_cut (s other : Sign message) (earlier : s.front.length < other.front.length) :
    ∃ cut : Sign (other.front ++ marker), cut.front = s.front := by
  have within := s.ends_before other earlier
  have size : marker.length = 4 := rfl
  have whole : other.front ++ marker ++ (other.gap ++ (other.digits ++ other.back)) =
      s.front ++ (marker ++ (s.gap ++ s.digits)) ++ s.back := by
    simpa only [List.append_assoc] using other.whole.symm.trans s.whole
  rcases List.append_eq_append_iff.mp whole with ⟨rest, longer, -⟩ | ⟨rest, shorter, back⟩
  · have sizes := congrArg List.length longer
    simp only [List.length_append] at sizes
    omega
  · refine ⟨{ s with
      back := rest
      whole := by simpa only [List.append_assoc] using shorter
      ends := fun c last => s.ends c ?_ }, rfl⟩
    rw [back, List.head?_append, Option.mem_def.mp last]
    rfl

/-- And a sign of what ends with a marker is one of the message, as blanks are no digits. -/
def grown (other : Sign message) (cut : Sign (other.front ++ marker)) : Sign message :=
  { cut with
    back := cut.back ++ (other.gap ++ (other.digits ++ other.back))
    whole := by
      have whole := congrArg (· ++ (other.gap ++ (other.digits ++ other.back))) cut.whole
      simp only [List.append_assoc] at whole
      exact other.whole.trans whole
    ends := by
      intro c last
      rw [List.head?_append] at last
      cases back : cut.back with
      | nil =>
        obtain ⟨d, rest, gap⟩ := List.exists_cons_of_ne_nil other.filled
        obtain rfl : d = c := by simpa [back, gap] using last
        have blank := other.blank d (by simp [gap])
        by_contra digit
        rw [isBlank_of_isHexDigit (by simpa using digit)] at blank
        cases blank
      | cons d rest => exact cut.ends c (by simpa [back] using last) }

theorem front_le_of_cut (other : Sign message) (cut : Sign (other.front ++ marker)) :
    cut.front.length < other.front.length := by
  have sizes := congrArg List.length cut.whole
  have gap := List.length_pos_iff.mpr cut.filled
  simp only [List.length_append] at sizes
  omega

end Sign

/-- What is read of a message with a sign is what is read up to its marker, and else the sign. -/
theorem firstCode?_eq_or (s : Sign message) :
    firstCode? message = (firstCode? (s.front ++ marker)).or (some s.code) := by
  cases read : firstCode? (s.front ++ marker) with
  | none =>
    have none := firstCode?_eq_none_iff.mp read
    refine firstCode?_eq_some_iff.mpr ⟨s, fun other => ?_, rfl⟩
    by_contra earlier
    obtain ⟨cut, -⟩ := other.exists_cut s (Nat.not_le.mp earlier)
    exact none.false cut
  | some n =>
    obtain ⟨cut, first, rfl⟩ := firstCode?_eq_some_iff.mp read
    refine firstCode?_eq_some_iff.mpr ⟨s.grown cut, fun other => ?_, rfl⟩
    by_contra earlier
    have before : other.front.length < cut.front.length := Nat.not_le.mp earlier
    obtain ⟨cut', same⟩ := other.exists_cut s (before.trans (s.front_le_of_cut cut))
    have least := first cut'
    rw [same] at least
    omega

/-! ## Signs that stand alone -/

def isLetterOrDigit (c : Char) : Bool := isWordChar c && c != '_'

/-- The marker is a word of its own, not the tail of a longer one, and the digits are one, too. -/
structure Sign.IsWhole (s : Sign message) : Prop where
  word : ∀ c ∈ s.front.getLast?, isWordChar c = false
  token : ∀ c ∈ s.back.head?, isLetterOrDigit c = false

/-- The first sign of the message that stands alone shows the sub-code. -/
def ShowsAlone (message : String) (n : Nat) : Prop :=
  ∃ s : Sign message.toList, s.IsWhole ∧ s.code = n ∧
    ∀ other : Sign message.toList, other.IsWhole → s.front.length ≤ other.front.length

theorem ShowsAlone.unique {message : String} {n m : Nat} (first : ShowsAlone message n)
    (second : ShowsAlone message m) : n = m := by
  obtain ⟨s, whole, rfl, least⟩ := first
  obtain ⟨t, whole', rfl, least'⟩ := second
  exact s.code_eq t (Nat.le_antisymm (least t whole') (least' s whole))

/-- The first sign is read as one that stands alone if it does, or if the first one that does shows
the same. -/
theorem reads_alone_iff (message : String) :
    (∀ n, subcode? message = some n ↔ ShowsAlone message n) ↔
      ∀ s : Sign message.toList, s.IsFirst → s.IsWhole ∨ ShowsAlone message s.code := by
  constructor
  · intro alone s first
    exact .inr ((alone s.code).mp (firstCode?_eq_some_iff.mpr ⟨s, first, rfl⟩))
  · intro condition n
    have shows : ∀ m, subcode? message = some m → ShowsAlone message m := by
      intro m read
      obtain ⟨s, first, rfl⟩ := firstCode?_eq_some_iff.mp read
      rcases condition s first with whole | alone
      · exact ⟨s, whole, rfl, fun other _ => first other⟩
      · exact alone
    constructor
    · exact shows n
    · intro alone
      cases read : subcode? message with
      | none =>
        obtain ⟨s, -⟩ := alone
        exact (firstCode?_eq_none_iff.mp read).elim s
      | some m => rw [(shows m read).unique alone]

/-- The sign that is written behind some text: the word, a blank and digits. -/
def signBehind (front digits back : List Char) (written : digits ≠ [])
    (hex : ∀ c ∈ digits, isHexDigit c = true) (ends : ∀ c ∈ back.head?, isHexDigit c = false) :
    Sign (front ++ " data ".toList ++ digits ++ back) where
  front := front ++ [' ']
  gap := [' ']
  digits := digits
  back := back
  whole := by simp [marker]
  filled := List.cons_ne_nil _ _
  blank := List.forall_mem_singleton.mpr (by decide)
  written := written
  hex := hex
  ends := ends

/-- A number that is written behind some text is read, however it is spelled, unless the text shows
a sign already, be it one whose digits are the first letters of the word. -/
theorem reads_written_iff (front : List Char) :
    (∀ n digits back, HexNumeral n digits → back.head? = some ',' →
        subcode? (String.ofList (front ++ " data ".toList ++ digits ++ back)) = some n) ↔
      IsEmpty (Sign (front ++ " data".toList)) := by
  have read {n : Nat} {digits back : List Char} (numeral : HexNumeral n digits)
      (comma : back.head? = some ',') :
      subcode? (String.ofList (front ++ " data ".toList ++ digits ++ back)) =
        (firstCode? (front ++ " data".toList)).or (some n) := by
    have ends : ∀ c ∈ back.head?, isHexDigit c = false := by
      rw [comma]
      decide
    have whole := firstCode?_eq_or (signBehind front digits back numeral.ne_nil numeral.hex ends)
    rw [subcode?, String.toList_ofList, whole, Sign.code, signBehind, numeral.value,
      List.append_assoc]
    rfl
  rw [← firstCode?_eq_none_iff]
  constructor
  · intro all
    cases shown : firstCode? (front ++ " data".toList) with
    | none => rfl
    | some m =>
      -- The same would be read whichever number is written.
      have zero : HexNumeral 0 ['0'] := ⟨0, by decide⟩
      have one : HexNumeral 1 ['1'] := ⟨0, by decide⟩
      have first := all 0 _ [','] zero rfl
      have second := all 1 _ [','] one rfl
      rw [read zero rfl, shown, Option.some_or] at first
      rw [read one rfl, shown, Option.some_or] at second
      exact absurd (first.symm.trans second) (by decide)
  · intro none n digits back numeral comma
    rw [read numeral comma, none, Option.none_or]

/-- Of every message the first sign is read, and nothing of a message without signs. That is the
first sign that stands alone just where the first sign does, or shows the same. A number that is
written behind some text with a comma behind it is read, whatever the case of its letters and
however many zeros are in front of it, just where no sign shows up to the word in front of it. -/
theorem subcode?_reads_first (message : String) (front : List Char) :
    (∀ n, subcode? message = some n ↔ ∃ s : Sign message.toList, s.IsFirst ∧ s.code = n) ∧
      (subcode? message = none ↔ IsEmpty (Sign message.toList)) ∧
      ((∀ n, subcode? message = some n ↔ ShowsAlone message n) ↔
        ∀ s : Sign message.toList, s.IsFirst → s.IsWhole ∨ ShowsAlone message s.code) ∧
      ((∀ n digits back, HexNumeral n digits → back.head? = some ',' →
          subcode? (String.ofList (front ++ " data ".toList ++ digits ++ back)) = some n) ↔
        IsEmpty (Sign (front ++ " data".toList))) :=
  ⟨fun _ => firstCode?_eq_some_iff, firstCode?_eq_none_iff, reads_alone_iff message,
    reads_written_iff front⟩

/-- A directory says that an account is locked, and that a password is wrong with zeros and a
capital letter. -/
theorem subcode?_reads_first_locked :
    let front := "80090308: LdapErr: DSID-0C09042F, comment: AcceptSecurityContext error,".toList
    let message (digits back : String) :=
      String.ofList (front ++ " data ".toList ++ digits.toList ++ back.toList)
    IsEmpty (Sign (front ++ " data".toList)) ∧ HexNumeral 0x775 "775".toList ∧
      HexNumeral 0x52e "0052E".toList ∧ subcode? (message "775" ", v4563") = some 0x775 ∧
      subcode? (message "0052E" ",") = some 0x52e := by
  intro front message
  have clear : IsEmpty (Sign (front ++ " data".toList)) :=
    firstCode?_eq_none_iff.mp (by decide +kernel)
  have locked : HexNumeral 0x775 "775".toList := ⟨0, by decide +kernel⟩
  have wrong : HexNumeral 0x52e "0052E".toList := ⟨2, by decide +kernel⟩
  have read := (subcode?_reads_first (message "775" ", v4563") front).2.2.2.mpr clear
  exact ⟨clear, locked, wrong, read _ _ ", v4563".toList locked rfl, read _ _ [','] wrong rfl⟩

/-- Ordinary text shows no sign that stands alone, and yet a sub-code is read of it: the first
letter of a word is taken for its digits. -/
theorem subcode?_in_ordinary_text :
    ¬ ∀ (message : String) (n : Nat), subcode? message = some n ↔ ShowsAlone message n := by
  intro alone
  have read : subcode? "invalid data encountered" = some 14 := by decide +kernel
  obtain ⟨s, whole, -⟩ := (alone _ 14).mp read
  have cut : ∀ i < 25, marker <+: "invalid data encountered".toList.drop i →
      ((trimLeft ("invalid data encountered".toList.drop (i + marker.length))).dropWhile
        isHexDigit).head?.any isLetterOrDigit = true := by
    decide +kernel
  have begins : marker <+: "invalid data encountered".toList.drop s.front.length := by
    have rest := congrArg (List.drop s.front.length) s.whole
    rw [List.drop_left] at rest
    exact ⟨_, rest.symm⟩
  have size := congrArg List.length s.whole
  have more := cut s.front.length (by simp at size; omega) begins
  obtain ⟨c, next, letter⟩ := (Option.any_eq_true _ _).mp more
  rw [← s.back_eq] at next
  rw [whole.token c next] at letter
  cases letter

end DirectoryAuth.Diagnosis
