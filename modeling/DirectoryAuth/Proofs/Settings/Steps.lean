import DirectoryAuth.Proofs.Settings.Layout

/-!
# Reading a line

A line is idle or goes on with an option that is open, and the reader stays with what was begun; or
it is read as a heading. It begins a section or an option that was not there before, or it is noted
as one of no use, unless it ends the reading.
-/

namespace DirectoryAuth.Document

open Text

variable {line text : List Char} {name owner : String} {number : Nat}

/-! ## Reading headings -/

namespace Reader

variable {r r' : Reader}

/-- What stands behind the front of a list that is passed over, from its first element on. -/
theorem dropWhile_eq_cons {α : Type} {p : α → Bool} {l rest : List α} {a : α} :
    l.dropWhile p = a :: rest ↔
      ∃ front, l = front ++ a :: rest ∧ (∀ x ∈ front, p x = true) ∧ p a = false := by
  constructor
  · intro dropped
    refine ⟨l.takeWhile p, ?_, List.all_eq_true.mp List.all_takeWhile, ?_⟩
    · rw [← dropped, List.takeWhile_append_dropWhile]
    · have first := List.head?_dropWhile_not p l
      rw [dropped] at first
      simpa using first
  · rintro ⟨front, rfl, passed, stops⟩
    rw [List.dropWhile_append_of_pos passed, List.dropWhile_cons_of_neg (by simp [stops])]

theorem sectionName?_eq_some :
    sectionName? text = some name ↔
      ∃ title rest, text = '[' :: (title ++ ']' :: rest) ∧ title ≠ [] ∧ ']' ∉ rest ∧
        name = String.ofList title := by
  constructor
  · intro named
    unfold sectionName? at named
    split at named
    · next cs =>
      cases behind : cs.reverse.dropWhile (· ≠ ']') with
      | nil =>
        rw [behind] at named
        cases named
      | cons c title =>
        rw [behind] at named
        obtain ⟨rest, whole, passed, stops⟩ := dropWhile_eq_cons.mp behind
        obtain rfl : c = ']' := by simpa using stops
        dsimp only [List.drop_succ_cons, List.drop_zero] at named
        split at named
        · cases named
        · next filled =>
          cases named
          refine ⟨title.reverse, rest.reverse, ?_, ?_, ?_, rfl⟩
          · rw [← List.reverse_inj] at whole
            simpa using whole
          · simpa using filled
          · intro member
            simpa using passed _ (List.mem_reverse.mp member)
    · cases named
  · rintro ⟨title, rest, rfl, filled, outside, rfl⟩
    have passed : ∀ c ∈ rest.reverse, (c ≠ ']' : Bool) = true := by
      intro c member
      refine decide_eq_true ?_
      rintro rfl
      exact outside (List.mem_reverse.mp member)
    have behind : (title ++ ']' :: rest).reverse.dropWhile (· ≠ ']') = ']' :: title.reverse :=
      dropWhile_eq_cons.mpr ⟨rest.reverse, by simp, passed, by simp⟩
    rw [sectionName?, behind]
    simp [filled]

theorem divide?_eq_some {left right : List Char} :
    divide? text = some (left, right) ↔
      ∃ front divider back, text = front ++ divider :: back ∧ isDivider divider = true ∧
        (∀ c ∈ front, isDivider c = false) ∧ left = trimChars front ∧ right = trimChars back := by
  constructor
  · intro divided
    rw [divide?] at divided
    split at divided
    · cases divided
    · next divider back behind =>
      cases divided
      obtain ⟨front, whole, passed, stops⟩ := dropWhile_eq_cons.mp behind
      have taken : text.takeWhile (!isDivider ·) = front := by
        rw [whole, List.takeWhile_append_of_pos passed, List.takeWhile_cons_of_neg (by simp [stops])]
        exact List.append_nil _
      exact ⟨front, divider, back, whole, by simpa using stops, by simpa using passed,
        by rw [taken], rfl⟩
  · rintro ⟨front, divider, back, rfl, divides, passed, rfl, rfl⟩
    have none : ∀ c ∈ front, (!isDivider c) = true := by simpa using passed
    have behind : (front ++ divider :: back).dropWhile (!isDivider ·) = divider :: back :=
      dropWhile_eq_cons.mpr ⟨front, rfl, none, by simp [divides]⟩
    have taken : (front ++ divider :: back).takeWhile (!isDivider ·) = front := by
      rw [List.takeWhile_append_of_pos none, List.takeWhile_cons_of_neg (by simp [divides])]
      exact List.append_nil _
    rw [divide?, behind, taken]

/-! ## One line -/

def GoesOn (r : Reader) (line : List Char) : Prop :=
  isIdle line = true ∨ r.isOpen = true ∧ r.indent < indentOf line

def goOn (r : Reader) (line : List Char) : Reader :=
  match added? line with
  | some text => if r.isOpen then r.extend text else r
  | none => r

/-- The line begins a section or an option that was not there before. -/
inductive Begins (r : Reader) (line : List Char) : Heading → Reader → Prop
  | header {name : String} (heads : Heading.Heads line (.header name)) (fresh : name ∉ r.sections) :
    Begins r line (.header name)
      { r with
        sections := r.sections ++ (Heading.header name).sectionName?.toList
        owner := some name
        isOpen := false }
  | option {name owner : String} {value : List Char}
      (heads : Heading.Heads line (.option name value)) (owned : r.owner = some owner)
      (fresh : (owner, name) ∉ r.options.map Layout.place) :
    Begins r line (.option name value)
      { r with options := ⟨owner, name, [value]⟩ :: r.options, isOpen := true }

def indented (r : Reader) (line : List Char) : Reader := { r with indent := indentOf line }

/-- A line that is not idle has text, and is no comment. -/
theorem text_of_not_idle (busy : ¬ isIdle line = true) :
    ∃ c cs, trimChars line = c :: cs ∧ (c = '#' || c = ';') = false := by
  rw [isIdle, isComment] at busy
  cases text : trimChars line with
  | nil =>
    rw [text] at busy
    exact absurd rfl busy
  | cons c cs =>
    rw [text] at busy
    exact ⟨c, cs, rfl, by simpa using busy⟩

theorem step_of_goesOn (goes : r.GoesOn line) (number : Nat) :
    r.step number line = .ok (r.goOn line) := by
  rw [goOn, added?, isComment, step]
  by_cases idle : isIdle line = true
  · rw [isIdle, isComment] at idle
    cases text : trimChars line with
    | nil =>
      dsimp only
      rw [if_neg Bool.false_ne_true]
    | cons c cs =>
      rw [text] at idle
      have comment : (c = '#' || c = ';') = true := by simpa using idle
      dsimp only
      rw [if_pos comment, if_pos comment]
  · obtain ⟨c, cs, text, plain⟩ := text_of_not_idle idle
    obtain ⟨isOpen, deeper⟩ := goes.resolve_left idle
    have further : (r.isOpen && r.indent < (line.takeWhile isBlank).length) = true := by
      rw [isOpen, Bool.true_and, decide_eq_true_eq]
      exact deeper
    rw [text]
    dsimp only
    rw [if_neg (by simp [plain]), if_pos further, if_neg (by simp [plain])]
    dsimp only
    rw [if_pos isOpen]

/-- A line that does not go on with anything is read as a heading. -/
theorem step_of_not_goesOn (apart : ¬ r.GoesOn line) (number : Nat) :
    r.step number line =
      (r.indented line).heading number line (trimChars line) := by
  rw [GoesOn, not_or] at apart
  obtain ⟨c, cs, text, plain⟩ := text_of_not_idle apart.1
  have further : ¬ (r.isOpen && r.indent < (line.takeWhile isBlank).length) = true := by
    rw [Bool.and_eq_true, decide_eq_true_eq]
    exact apart.2
  rw [step, text]
  dsimp only
  rw [if_neg (by simp [plain]), if_neg further]
  rfl

theorem beginSection_of_fresh (fresh : name ∉ r.sections) (number : Nat) :
    r.beginSection number name =
      .ok { r with
        sections := r.sections ++ (Heading.header name).sectionName?.toList
        owner := some name
        isOpen := false } := by
  have unseen : ¬ r.sections.contains name = true := by simpa using fresh
  rw [beginSection]
  dsimp only
  rw [if_neg unseen, Heading.sectionName?]
  split
  · simp
  · rfl

theorem beginOption_of_fresh {name value : List Char}
    (fresh : (owner, String.ofList name) ∉ r.options.map Layout.place) (number : Nat) :
    r.beginOption number owner name value =
      .ok { r with
        options := ⟨owner, String.ofList name, [value]⟩ :: r.options
        isOpen := !name.isEmpty } := by
  have unseen : ¬ (r.options.any fun o => o.owner == owner && o.name == String.ofList name) = true := by
    rw [List.any_eq_true]
    rintro ⟨o, member, same⟩
    rw [Bool.and_eq_true, beq_iff_eq, beq_iff_eq] at same
    exact fresh (List.mem_map.mpr ⟨o, member, Prod.ext same.1 same.2⟩)
  rw [beginOption, if_neg unseen]

theorem sectionName?_eq_none (other : ∀ name, ¬ IsHeader line name) :
    sectionName? (trimChars line) = none := by
  rw [Option.eq_none_iff_forall_ne_some]
  exact fun name named => other name (sectionName?_eq_some.mp named)

/-- The line of a section or of an option is read as such. -/
theorem heading_of_begins {begun : Heading} (begins : r.Begins line begun r') (number : Nat) :
    r.heading number line (trimChars line) = .ok r' := by
  cases begins with
  | header heads fresh =>
    rw [heading, sectionName?_eq_some.mpr heads]
    exact beginSection_of_fresh fresh number
  | option heads owned fresh =>
    obtain ⟨⟨left, divider, right, text, divides, plain, filled, rfl, rfl⟩, -, other⟩ := heads
    have divided := divide?_eq_some.mpr ⟨left, divider, right, text, divides, plain, rfl, rfl⟩
    have named : (trimChars left).isEmpty = false := by simpa using filled
    rw [heading, sectionName?_eq_none other, owned, divided]
    dsimp only
    rw [named, if_neg Bool.false_ne_true, beginOption_of_fresh fresh, named, ← owned]
    rfl

theorem fresh_of_beginSection (begun : r.beginSection number name = .ok r') :
    name ∉ r.sections := by
  intro member
  have seen : r.sections.contains name = true := by simpa using member
  rw [beginSection] at begun
  dsimp only at begun
  rw [if_pos seen] at begun
  cases begun

theorem fresh_of_beginOption {name value : List Char}
    (begun : r.beginOption number owner name value = .ok r') :
    (owner, String.ofList name) ∉ r.options.map Layout.place := by
  intro member
  obtain ⟨o, inside, same⟩ := List.mem_map.mp member
  obtain ⟨rfl, named⟩ := Prod.mk.inj same
  have seen : (r.options.any fun other => other.owner == o.owner &&
      other.name == String.ofList name) = true :=
    List.any_eq_true.mpr ⟨o, inside, by simp [named]⟩
  rw [beginOption, if_pos seen] at begun
  cases begun

/-- A line that is read as a heading is one, or it is of no use. -/
theorem heading_cases (plain : isComment line = false)
    (headed : r.heading number line (trimChars line) = .ok r') :
    r.bad.length < r'.bad.length ∨
      r'.bad = r.bad ∧ ∃ begun, r.Begins line begun r' := by
  rw [heading] at headed
  split at headed
  · next name named =>
    have fresh := fresh_of_beginSection headed
    rw [beginSection_of_fresh fresh] at headed
    cases headed
    exact .inr ⟨rfl, _, .header (sectionName?_eq_some.mp named) fresh⟩
  · cases headed
  · next owner other owned =>
    split at headed
    · cases headed
      exact .inl (by simp [refuse])
    · next name value divided =>
      have fresh := fresh_of_beginOption headed
      rw [beginOption_of_fresh fresh] at headed
      by_cases named : name = []
      · subst named
        cases headed
        exact .inl (by simp [refuse])
      · have filled : name.isEmpty = false := by simpa using named
        rw [filled, if_neg Bool.false_ne_true] at headed fresh
        obtain ⟨left, divider, right, text, divides, plain', rfl, rfl⟩ := divide?_eq_some.mp divided
        have heads : Heading.Heads line
            (.option (String.ofList (trimChars left)) (trimChars right)) := by
          refine ⟨⟨left, divider, right, text, divides, plain', named, rfl, rfl⟩, plain, ?_⟩
          intro name header
          rw [sectionName?_eq_some.mpr header] at other
          cases other
        cases headed
        exact .inr ⟨rfl, _, .option heads owned fresh⟩

theorem bad_goOn (r : Reader) (line : List Char) : (r.goOn line).bad = r.bad := by
  rw [goOn]
  split
  · split
    · rw [extend]
      split <;> rfl
    · rfl
  · rfl

/-- A line that is of use belongs to what was begun, or begins something. -/
theorem step_cases (stepped : r.step number line = .ok r') :
    r.bad.length < r'.bad.length ∨ r'.bad = r.bad ∧
      (r.GoesOn line ∧ r' = r.goOn line ∨
        ¬ r.GoesOn line ∧ ∃ begun, (r.indented line).Begins line begun r') := by
  by_cases goes : r.GoesOn line
  · rw [step_of_goesOn goes] at stepped
    cases stepped
    exact .inr ⟨bad_goOn r line, .inl ⟨goes, rfl⟩⟩
  · rw [step_of_not_goesOn goes] at stepped
    have plain : isComment line = false := by
      rw [Bool.eq_false_iff]
      intro comment
      exact goes (.inl (by rw [isIdle, comment, Bool.or_true]))
    rcases heading_cases plain stepped with useless | ⟨useful, begins⟩
    · exact .inl useless
    · exact .inr ⟨useful, .inr ⟨goes, begins⟩⟩

end Reader

end DirectoryAuth.Document
