import DirectoryAuth.Text.Utf8
import Mathlib

/-!
# UTF-8 there and back

A text is written as the bytes of its characters, one after the other. Reading gives the text back,
and whatever is read without a malformed part is the text that the bytes are those of. Where bytes
break off within a character, all in front of it is read, and the rest is told to be cut off.
-/

namespace DirectoryAuth.Text

variable {bytes rest tail : List UInt8} {b lead : UInt8} {c : Char} {cs : List Char}
variable {value seen low high missing extra position : Nat}

/-! ## One character -/

/-- The bytes behind a lead byte lie where they must: the first of them between the bounds, the
others where any byte behind the first may lie. -/
def Continues (low high : Nat) : List UInt8 → Prop
  | [] => True
  | b :: rest => (low ≤ b.toNat ∧ b.toNat ≤ high) ∧ Continues 0x80 0xbf rest

/-- The number that the bytes behind a lead byte make of what the lead byte gave. -/
def point (value : Nat) : List UInt8 → Nat
  | [] => value
  | b :: rest => point (value * 64 + b.toNat % 64) rest

theorem frontFrom_complete (continues : Continues low high tail) :
    frontFrom value seen low high tail.length (tail ++ rest) =
      .char (Char.ofNat (point value tail)) (seen + tail.length) := by
  induction tail generalizing value seen low high with
  | nil => rw [List.length_nil, frontFrom, point, Nat.add_zero]
  | cons b tail ih =>
    rw [List.length_cons, List.cons_append, frontFrom, if_pos continues.1, ih continues.2, point]
    congr 1
    omega

theorem frontFrom_cut (continues : Continues low high tail) (short : tail.length < missing) :
    frontFrom value seen low high missing tail = .malformed .cutOff (seen + tail.length) := by
  induction tail generalizing value seen low high missing with
  | nil =>
    obtain ⟨missing, rfl⟩ := Nat.exists_eq_add_one.mpr short
    rw [frontFrom, List.length_nil, Nat.add_zero]
  | cons b tail ih =>
    obtain ⟨missing, rfl⟩ := Nat.exists_eq_add_one.mpr (Nat.zero_lt_of_lt short)
    rw [List.length_cons] at short
    rw [frontFrom, if_pos continues.1, ih continues.2 (by omega), List.length_cons]
    congr 1
    omega

theorem frontFrom_eq_char (read : frontFrom value seen low high missing bytes = .char c extra) :
    ∃ tail rest, bytes = tail ++ rest ∧ tail.length = missing ∧ Continues low high tail ∧
      c = Char.ofNat (point value tail) ∧ extra = seen + missing := by
  induction missing generalizing bytes value seen low high with
  | zero =>
    rw [frontFrom] at read
    cases read
    exact ⟨[], bytes, rfl, rfl, trivial, rfl, rfl⟩
  | succ missing ih =>
    cases bytes with
    | nil => cases read
    | cons b bytes =>
      rw [frontFrom] at read
      split at read
      · next inside =>
        obtain ⟨tail, rest, rfl, rfl, continues, rfl, rfl⟩ := ih read
        exact ⟨b :: tail, rest, rfl, rfl, ⟨inside, continues⟩, rfl, by omega⟩
      · cases read

theorem front_of_ascii (ascii : lead.toNat < 0x80) :
    front lead rest = .char (Char.ofNat lead.toNat) 0 := by
  rw [front, if_pos (UInt8.lt_iff_toNat_lt.mpr ascii)]

/-- No lead byte of several is one of ASCII. -/
theorem large_of_continuation (follows : continuation? lead.toNat = some (missing, low, high)) :
    0x80 ≤ lead.toNat := by
  by_contra ascii
  have none : continuation? lead.toNat = none := by
    simp only [continuation?]
    repeat rw [if_neg (by omega)]
  rw [none] at follows
  cases follows

theorem front_of_continuation (follows : continuation? lead.toNat = some (missing, low, high)) :
    front lead rest = frontFrom (lead.toNat % 2 ^ (6 - missing)) 0 low high missing rest := by
  have large := large_of_continuation follows
  rw [front, if_neg (by rw [UInt8.lt_iff_toNat_lt]; exact Nat.not_lt.mpr large), follows]
  rfl

/-! ## Lead bytes -/

/-- What a lead byte of several bytes asks for. -/
theorem continuation?_cases {n : Nat} (follows : continuation? n = some (missing, low, high)) :
    0x80 ≤ low ∧ high ≤ 0xbf ∧
      (missing = 1 ∧ 0xc2 ≤ n ∧ n ≤ 0xdf ∨
        missing = 2 ∧ 0xe0 ≤ n ∧ n ≤ 0xef ∧ (n = 0xe0 → 0xa0 ≤ low) ∧ (n = 0xed → high ≤ 0x9f) ∨
        missing = 3 ∧ 0xf0 ≤ n ∧ n ≤ 0xf4 ∧ (n = 0xf0 → 0x90 ≤ low) ∧
          (n = 0xf4 → high ≤ 0x8f)) := by
  simp only [continuation?] at follows
  repeat' split at follows
  all_goals cases follows
  all_goals omega

/-- A lead byte of three bytes, and a byte that may stand behind it. -/
theorem continuation?_three {n first : Nat} (leads : 0xe0 ≤ n ∧ n ≤ 0xef)
    (inside : 0x80 ≤ first ∧ first ≤ 0xbf) (least : n = 0xe0 → 0xa0 ≤ first)
    (most : n = 0xed → first ≤ 0x9f) :
    ∃ low high, continuation? n = some (2, low, high) ∧ low ≤ first ∧ first ≤ high := by
  rw [continuation?, if_neg (by omega)]
  by_cases shortest : n = 0xe0
  · rw [if_pos shortest]
    exact ⟨_, _, rfl, least shortest, inside.2⟩
  rw [if_neg shortest]
  by_cases halves : n = 0xed
  · rw [if_pos halves]
    exact ⟨_, _, rfl, inside.1, most halves⟩
  rw [if_neg halves, if_pos (by omega)]
  exact ⟨_, _, rfl, inside⟩

/-- A lead byte of four bytes, and a byte that may stand behind it. -/
theorem continuation?_four {n first : Nat} (leads : 0xf0 ≤ n ∧ n ≤ 0xf4)
    (inside : 0x80 ≤ first ∧ first ≤ 0xbf) (least : n = 0xf0 → 0x90 ≤ first)
    (most : n = 0xf4 → first ≤ 0x8f) :
    ∃ low high, continuation? n = some (3, low, high) ∧ low ≤ first ∧ first ≤ high := by
  rw [continuation?, if_neg (by omega), if_neg (by omega), if_neg (by omega), if_neg (by omega)]
  by_cases shortest : n = 0xf0
  · rw [if_pos shortest]
    exact ⟨_, _, rfl, least shortest, inside.2⟩
  rw [if_neg shortest]
  by_cases longest : n = 0xf4
  · rw [if_neg (by omega), if_pos longest]
    exact ⟨_, _, rfl, inside.1, most longest⟩
  rw [if_pos (by omega)]
  exact ⟨_, _, rfl, inside⟩

/-! ## The bytes of a character -/

theorem toNat_ofNat {n : Nat} (byte : n < 256) : (UInt8.ofNat n).toNat = n :=
  UInt8.toNat_ofNat_of_lt' byte

theorem ofNat_eq {n : Nat} (same : n = b.toNat) : UInt8.ofNat n = b := by
  rw [same, UInt8.ofNat_toNat]

theorem codePoint_valid (c : Char) :
    c.toNat < 0xd800 ∨ 0xdfff < c.toNat ∧ c.toNat < 0x110000 := c.valid

theorem toNat_char {n : Nat} (valid : n < 0xd800 ∨ 0xdfff < n ∧ n < 0x110000) :
    (Char.ofNat n).toNat = n := by
  rw [Char.ofNat, dif_pos valid]
  rfl

/-- The bytes spell a character: one byte of ASCII, or a lead byte and those that must follow it. -/
inductive Spells (c : Char) : UInt8 → List UInt8 → Prop
  | ascii {lead : UInt8} (ascii : lead.toNat < 0x80) (named : c.toNat = lead.toNat) :
    Spells c lead []
  | several {lead : UInt8} {tail : List UInt8} {low high : Nat}
      (follows : continuation? lead.toNat = some (tail.length, low, high))
      (continues : Continues low high tail)
      (named : c.toNat = point (lead.toNat % 2 ^ (6 - tail.length)) tail) : Spells c lead tail

/-- The bytes that a character is written with spell it. -/
theorem spells_of_encode (c : Char) :
    ∃ lead tail, String.utf8EncodeChar c = lead :: tail ∧ Spells c lead tail := by
  have valid := codePoint_valid c
  generalize named : c.toNat = v at valid
  have same : c.val.toNat = v := named
  simp only [String.utf8EncodeChar, same]
  by_cases one : v ≤ 0x7f
  · have lead := toNat_ofNat (n := v) (by omega)
    rw [if_pos one]
    exact ⟨_, _, rfl, .ascii (by omega) (by rw [lead, named])⟩
  rw [if_neg one]
  have last := toNat_ofNat (n := v % 64 + 128) (by omega)
  by_cases two : v ≤ 0x7ff
  · have lead := toNat_ofNat (n := v / 64 % 32 + 192) (by omega)
    have follows : continuation? (v / 64 % 32 + 192) = some (1, 0x80, 0xbf) := by
      rw [continuation?, if_pos (by omega)]
    rw [if_pos two]
    refine ⟨_, _, rfl, .several (lead ▸ follows) ⟨by omega, trivial⟩ ?_⟩
    simp only [point, List.length_cons, List.length_nil, named]
    omega
  rw [if_neg two]
  have third := toNat_ofNat (n := v / 64 % 64 + 128) (by omega)
  by_cases three : v ≤ 0xffff
  · have lead := toNat_ofNat (n := v / 4096 % 16 + 224) (by omega)
    obtain ⟨low, high, follows, inside⟩ := @continuation?_three (v / 4096 % 16 + 224)
      (v / 64 % 64 + 128) (by omega) (by omega) (by omega) (by omega)
    rw [if_pos three]
    refine ⟨_, _, rfl, .several (lead ▸ follows) ⟨by omega, by omega, trivial⟩ ?_⟩
    simp only [point, List.length_cons, List.length_nil, named]
    omega
  have second := toNat_ofNat (n := v / 4096 % 64 + 128) (by omega)
  have lead := toNat_ofNat (n := v / 262144 % 8 + 240) (by omega)
  obtain ⟨low, high, follows, inside⟩ := @continuation?_four (v / 262144 % 8 + 240)
    (v / 4096 % 64 + 128) (by omega) (by omega) (by omega) (by omega)
  rw [if_neg three]
  refine ⟨_, _, rfl, .several (lead ▸ follows) ⟨by omega, by omega, by omega, trivial⟩ ?_⟩
  simp only [point, List.length_cons, List.length_nil, named]
  omega

/-- Bytes that spell something spell a character. -/
theorem spells_of_continues (follows : continuation? lead.toNat = some (tail.length, low, high))
    (continues : Continues low high tail) :
    Spells (Char.ofNat (point (lead.toNat % 2 ^ (6 - tail.length)) tail)) lead tail := by
  refine .several follows continues (toNat_char ?_)
  obtain ⟨least, most, ⟨one, _⟩ | ⟨two, _⟩ | ⟨three, _⟩⟩ := continuation?_cases follows
  · obtain ⟨first, rfl⟩ := List.length_eq_one_iff.mp one
    simp only [point, List.length_cons, List.length_nil]
    omega
  · obtain ⟨first, second, rfl⟩ := List.length_eq_two.mp two
    have inside := continues.1
    simp only [point, List.length_cons, List.length_nil]
    omega
  · obtain ⟨first, second, third, rfl⟩ := List.length_eq_three.mp three
    have inside := continues.1
    simp only [point, List.length_cons, List.length_nil]
    omega

/-- A character is written with the bytes that spell it. -/
theorem encode_of_spells (spells : Spells c lead tail) :
    String.utf8EncodeChar c = lead :: tail := by
  have same : c.val.toNat = c.toNat := rfl
  simp only [String.utf8EncodeChar, same]
  cases spells with
  | ascii ascii named => rw [if_pos (by omega), ofNat_eq named]
  | several follows continues named =>
    obtain ⟨least, most, ⟨one, _⟩ | ⟨two, _⟩ | ⟨three, _⟩⟩ := continuation?_cases follows
    · obtain ⟨first, rfl⟩ := List.length_eq_one_iff.mp one
      have inside := continues.1
      simp only [point, List.length_cons, List.length_nil] at named
      rw [if_neg (by omega), if_pos (by omega), ofNat_eq (b := lead) (by omega),
        ofNat_eq (b := first) (by omega)]
    · obtain ⟨first, second, rfl⟩ := List.length_eq_two.mp two
      obtain ⟨inside, inside', -⟩ := continues
      simp only [point, List.length_cons, List.length_nil] at named
      rw [if_neg (by omega), if_neg (by omega), if_pos (by omega), ofNat_eq (b := lead) (by omega),
        ofNat_eq (b := first) (by omega), ofNat_eq (b := second) (by omega)]
    · obtain ⟨first, second, third, rfl⟩ := List.length_eq_three.mp three
      obtain ⟨inside, inside', inside'', -⟩ := continues
      simp only [point, List.length_cons, List.length_nil] at named
      rw [if_neg (by omega), if_neg (by omega), if_neg (by omega), ofNat_eq (b := lead) (by omega),
        ofNat_eq (b := first) (by omega), ofNat_eq (b := second) (by omega),
        ofNat_eq (b := third) (by omega)]

/-! ## Reading a character -/

/-- The character that the bytes in front spell is read, and it alone. -/
theorem front_of_spells (spells : Spells c lead tail) :
    front lead (tail ++ rest) = .char c tail.length := by
  cases spells with
  | ascii ascii named =>
    rw [front_of_ascii ascii, ← named, Char.ofNat_toNat]
    rfl
  | several follows continues named =>
    rw [front_of_continuation follows, frontFrom_complete continues, ← named, Char.ofNat_toNat,
      Nat.zero_add]

theorem Continues.left (continues : Continues low high (tail ++ rest)) :
    Continues low high tail := by
  induction tail generalizing low high with
  | nil => trivial
  | cons b tail ih => exact ⟨continues.1, ih continues.2⟩

/-- Bytes that spell a character but for some at the end are cut off. -/
theorem front_of_cut (spells : Spells c lead (tail ++ rest)) (cut : rest ≠ []) :
    front lead tail = .malformed .cutOff tail.length := by
  generalize whole : tail ++ rest = spelled at spells
  cases spells with
  | ascii _ _ => exact absurd (List.append_eq_nil_iff.mp whole).2 cut
  | several follows continues _ =>
    have short : tail.length < spelled.length := by
      rw [← whole, List.length_append]
      exact Nat.lt_add_of_pos_right (List.length_pos_iff.mpr cut)
    rw [front_of_continuation follows, frontFrom_cut (whole ▸ continues).left short, Nat.zero_add]

/-- What is read as a character are the bytes that spell it. -/
theorem spells_of_front (read : front lead bytes = .char c extra) :
    ∃ tail rest, bytes = tail ++ rest ∧ tail.length = extra ∧ Spells c lead tail := by
  by_cases ascii : lead.toNat < 0x80
  · rw [front_of_ascii ascii] at read
    cases read
    exact ⟨[], bytes, rfl, rfl, .ascii ascii (toNat_char (by omega))⟩
  cases asked : continuation? lead.toNat with
  | none =>
    rw [front, if_neg (by rwa [UInt8.lt_iff_toNat_lt]), asked] at read
    cases read
  | some continuation =>
    obtain ⟨missing, low, high⟩ := continuation
    rw [front_of_continuation asked] at read
    obtain ⟨tail, rest, rfl, rfl, continues, rfl, rfl⟩ := frontFrom_eq_char read
    exact ⟨tail, rest, rfl, (Nat.zero_add _).symm, spells_of_continues asked continues⟩

/-! ## Reading a text -/

def utf8 (cs : List Char) : List UInt8 := cs.flatMap String.utf8EncodeChar

theorem utf8_cons (c : Char) (cs : List Char) :
    utf8 (c :: cs) = String.utf8EncodeChar c ++ utf8 cs := rfl

@[simp] theorem utf8_append (cs ds : List Char) : utf8 (cs ++ ds) = utf8 cs ++ utf8 ds :=
  List.flatMap_append

/-- They are the bytes that a string holds. -/
theorem utf8_toByteArray (s : String) : (utf8 s.toList).toByteArray = s.toUTF8 := by
  have bytes : s.toList.utf8Encode = s.toUTF8 := by
    rw [← String.toByteArray_ofList, String.ofList_toList]
    rfl
  exact bytes

/-- What is left of a text, once some bytes of it are read: nothing, or bytes that break off within
a character. -/
def Remains (left : List UInt8) (cs : List Char) : Prop :=
  left = [] ∨ ∃ c ds lead tail rest, cs = c :: ds ∧ left = lead :: tail ∧ rest ≠ [] ∧
    Spells c lead (tail ++ rest)

/-- Where the bytes of a text are cut in two, they are cut behind a character or within one. -/
theorem utf8_cut {bytes later : List UInt8} (whole : bytes ++ later = utf8 cs) :
    ∃ front back left, cs = front ++ back ∧ bytes = utf8 front ++ left ∧
      left ++ later = utf8 back ∧ Remains left back := by
  induction cs generalizing bytes with
  | nil =>
    obtain ⟨rfl, rfl⟩ := List.append_eq_nil_iff.mp whole
    exact ⟨[], [], [], rfl, rfl, rfl, .inl rfl⟩
  | cons c cs ih =>
    rw [utf8_cons] at whole
    rcases List.append_eq_append_iff.mp whole with ⟨rest, spelled, behind⟩ | ⟨more, rfl, behind⟩
    · -- The cut is within the first character, or right behind it.
      by_cases none : rest = []
      · subst none
        rw [List.append_nil] at spelled
        exact ⟨[c], cs, [], rfl, by simp [utf8, spelled], behind, .inl rfl⟩
      · refine ⟨[], c :: cs, bytes, rfl, rfl, ?_, ?_⟩
        · rw [utf8_cons, spelled, List.append_assoc, behind]
        · cases bytes with
          | nil => exact .inl rfl
          | cons lead tail =>
            obtain ⟨lead', tail', written, spells⟩ := spells_of_encode c
            rw [written, List.cons_append] at spelled
            cases spelled
            exact .inr ⟨c, cs, lead, tail, rest, rfl, rfl, none, spells⟩
    · obtain ⟨front, back, left, rfl, rfl, later, remains⟩ := ih behind.symm
      exact ⟨c :: front, back, left, rfl, by rw [utf8_cons, List.append_assoc], later, remains⟩

/-- The bytes of a text are read, whatever stands behind them. -/
theorem decodeStrict_append (cs : List Char) (bytes : List UInt8) (position : Nat) :
    decodeStrict position (utf8 cs ++ bytes) =
      (cs ++ (decodeStrict (position + (utf8 cs).length) bytes).1,
        (decodeStrict (position + (utf8 cs).length) bytes).2) := by
  induction cs generalizing position with
  | nil => rfl
  | cons c cs ih =>
    obtain ⟨lead, tail, written, spells⟩ := spells_of_encode c
    rw [utf8_cons, written, List.cons_append, List.cons_append, decodeStrict, List.append_assoc, front_of_spells spells]
    dsimp only
    rw [List.drop_left, ih]
    have place : position + tail.length + 1 + (utf8 cs).length =
        position + (lead :: (tail ++ utf8 cs)).length := by
      rw [List.length_cons, List.length_append]
      omega
    rw [place]
    rfl

/-- What remains of a text that breaks off is told to be cut off. -/
theorem decodeStrict_of_remains {left : List UInt8} (remains : Remains left cs) (position : Nat) :
    left = [] ∧ decodeStrict position left = ([], none) ∨
      ∃ part, decodeStrict position left = ([], some part) ∧ part.reason = .cutOff ∧
        part.position = position := by
  rcases remains with rfl | ⟨c, ds, lead, tail, rest, -, rfl, cut, spells⟩
  · exact .inl ⟨rfl, by rw [decodeStrict]⟩
  · right
    rw [decodeStrict, front_of_cut spells cut]
    exact ⟨_, rfl, rfl, rfl⟩

/-- What is read are the characters in front of the first malformed part, which begins where their
bytes end. -/
theorem decodeStrict_reads (position : Nat) (bytes : List UInt8) :
    ∃ left, bytes = utf8 (decodeStrict position bytes).1 ++ left ∧
      match (decodeStrict position bytes).2 with
      | none => left = []
      | some part => part.position = position + (utf8 (decodeStrict position bytes).1).length := by
  fun_induction decodeStrict position bytes with
  | case1 position => exact ⟨[], rfl, rfl⟩
  | case2 position b bs c extra read cs malformed decoded ih =>
    obtain ⟨left, whole, place⟩ := ih
    obtain ⟨tail, rest, rfl, rfl, spells⟩ := spells_of_front read
    rw [List.drop_left] at whole decoded place
    rw [decoded] at whole place
    refine ⟨left, ?_, ?_⟩
    · rw [utf8_cons, encode_of_spells spells, whole]
      simp
    · cases malformed with
      | none => exact place
      | some part =>
        dsimp only at place ⊢
        rw [place, utf8_cons, encode_of_spells spells, List.length_append, List.length_cons]
        omega
  | case3 position b bs reason extra read => exact ⟨b :: bs, rfl, rfl⟩

/-- Of the bytes of a text in front of a cut, the characters are read that are whole; what is left
of them goes on, behind the cut, with the rest of the text. -/
theorem decodeStrict_of_cut {bytes later : List UInt8} (whole : bytes ++ later = utf8 cs) :
    ∃ front back left, cs = front ++ back ∧ left ++ later = utf8 back ∧
      (left = [] ∧ decodeStrict 0 bytes = (front, none) ∨
        ∃ part, decodeStrict 0 bytes = (front, some part) ∧ part.reason = .cutOff ∧
          bytes.drop part.position = left) := by
  obtain ⟨front, back, left, rfl, rfl, behind, remains⟩ := utf8_cut whole
  refine ⟨front, back, left, rfl, behind, ?_⟩
  rw [decodeStrict_append, Nat.zero_add]
  rcases decodeStrict_of_remains remains (utf8 front).length with
    ⟨none, decoded⟩ | ⟨part, decoded, reason, place⟩
  · rw [decoded, List.append_nil]
    exact .inl ⟨none, rfl⟩
  · rw [decoded, List.append_nil]
    exact .inr ⟨part, rfl, reason, by rw [place, List.drop_left]⟩

end DirectoryAuth.Text
