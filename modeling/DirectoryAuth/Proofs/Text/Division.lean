import DirectoryAuth.Proofs.Text.Blanks
import Mathlib.Data.String.Basic

/-!
# Divided texts

A text is divided in two ways: at each place of a separator, which leaves parts that may be empty,
and at blanks, which leaves words that are not. Both divisions are told here by what they make of
the text, not by how they go about it.
-/

namespace DirectoryAuth.Text

/-! ## Positions -/

section

open String Pos

def behind (cs : List Char) : Raw := ⟨utf8Len cs⟩

variable {front part rest : List Char} {c : Char}

theorem get_behind : (behind front).get (ofList (front ++ c :: rest)) = c :=
  get_of_valid front (c :: rest)

theorem next_behind :
    (behind front).next (ofList (front ++ c :: rest)) = behind (front ++ [c]) := by
  rw [behind, next_of_valid, behind, utf8Len_append, utf8Len_cons, utf8Len_nil, Nat.zero_add]

theorem atEnd_behind : (behind front).atEnd (ofList front) = true := by
  have ended := (atEnd_of_valid front []).mpr rfl
  rwa [List.append_nil] at ended

theorem not_atEnd_behind : ¬ (behind front).atEnd (ofList (front ++ c :: rest)) = true := by
  rw [behind, atEnd_of_valid]
  exact List.cons_ne_nil c rest

theorem extract_behind : (behind front).extract (ofList (front ++ part ++ rest))
    (behind (front ++ part)) = ofList part := by
  rw [behind, behind, utf8Len_append]
  exact extract_of_valid front part rest

theorem unoffsetBy_behind :
    (behind (front ++ part)).unoffsetBy (behind part) = behind front := by
  rw [behind, behind, behind, utf8Len_append]
  exact congrArg Raw.mk (Nat.add_sub_cancel ..)

end

/-! ## Parts -/

/-- The parts of a text are what stands between its separators. -/
inductive AreParts (separator : Char) : List Char → List (List Char) → Prop
  | last {part : List Char} (plain : separator ∉ part) : AreParts separator part [part]
  | more {part rest : List Char} {parts : List (List Char)} (plain : separator ∉ part)
      (behind : AreParts separator rest parts) :
      AreParts separator (part ++ separator :: rest) (part :: parts)

section

variable {separator : Char} {front part rest : List Char} {found : List String}

theorem get_separator : (0 : String.Pos.Raw).get (String.ofList [separator]) = separator :=
  @get_behind [] [] separator

theorem next_separator :
    (0 : String.Pos.Raw).next (String.ofList [separator]) = behind [separator] :=
  @next_behind [] [] separator

/-- At the end, the part that was begun is the last. -/
theorem splitOnAux_end :
    String.splitOnAux (String.ofList (front ++ part)) (String.ofList [separator]) (behind front)
      (behind (front ++ part)) 0 found = found.reverse ++ [String.ofList part] := by
  have whole := @extract_behind front part []
  rw [List.append_nil] at whole
  rw [String.splitOnAux, if_pos atEnd_behind, whole]
  exact List.reverse_cons

/-- At a separator, the part that was begun is one of the parts, and the next begins. -/
theorem splitOnAux_separator :
    String.splitOnAux (String.ofList (front ++ part ++ separator :: rest))
        (String.ofList [separator]) (behind front) (behind (front ++ part)) 0 found =
      String.splitOnAux (String.ofList (front ++ part ++ separator :: rest))
        (String.ofList [separator]) (behind (front ++ part ++ [separator]))
        (behind (front ++ part ++ [separator])) 0 (String.ofList part :: found) := by
  rw [String.splitOnAux, if_neg not_atEnd_behind, get_behind, get_separator,
    if_pos (beq_self_eq_true _)]
  dsimp only
  rw [next_separator, if_pos atEnd_behind, next_behind, unoffsetBy_behind, extract_behind]

/-- Any other character belongs to the part that was begun. -/
theorem splitOnAux_other {c : Char} (other : c ≠ separator) :
    String.splitOnAux (String.ofList (front ++ part ++ c :: rest)) (String.ofList [separator])
        (behind front) (behind (front ++ part)) 0 found =
      String.splitOnAux (String.ofList (front ++ part ++ c :: rest)) (String.ofList [separator])
        (behind front) (behind (front ++ part ++ [c])) 0 found := by
  have here : (behind (front ++ part)).unoffsetBy 0 = behind (front ++ part) := rfl
  rw [String.splitOnAux, if_neg not_atEnd_behind, get_behind, get_separator,
    if_neg (by simpa using other), here, next_behind]

/-- The induction is on what is left of the text; the part that was begun holds no separator. -/
theorem splitOnAux_areParts (plain : separator ∉ part) :
    ∃ parts, AreParts separator (part ++ rest) parts ∧
      String.splitOnAux (String.ofList (front ++ part ++ rest)) (String.ofList [separator])
        (behind front) (behind (front ++ part)) 0 found =
          found.reverse ++ parts.map String.ofList := by
  induction rest generalizing front part found with
  | nil =>
    rw [List.append_nil, List.append_nil, splitOnAux_end]
    exact ⟨[part], .last plain, rfl⟩
  | cons c rest ih =>
    by_cases ends : c = separator
    · subst ends
      have next := @ih (front ++ part ++ [c]) [] (String.ofList part :: found) List.not_mem_nil
      simp only [List.append_nil, List.nil_append, List.append_assoc, List.singleton_append] at next
      obtain ⟨parts, areParts, split⟩ := next
      refine ⟨part :: parts, .more plain areParts, ?_⟩
      rw [splitOnAux_separator]
      simpa using split
    · have longer : separator ∉ part ++ [c] := by
        simpa [plain] using Ne.symm ends
      have next := @ih front (part ++ [c]) found longer
      simp only [List.append_assoc, List.singleton_append] at next
      obtain ⟨parts, areParts, split⟩ := next
      refine ⟨parts, areParts, ?_⟩
      rw [splitOnAux_other ends]
      simpa using split

end

/-- What a text is split into are its parts. -/
theorem areParts_splitOn (separator : Char) (text : String) :
    AreParts separator text.toList
      ((text.splitOn (String.ofList [separator])).map String.toList) := by
  obtain ⟨parts, areParts, split⟩ :=
    @splitOnAux_areParts separator [] [] text.toList [] List.not_mem_nil
  have filled : ¬ (String.ofList [separator] == "") = true := by simp
  rw [List.append_nil, List.nil_append, String.ofList_toList, List.reverse_nil,
    List.nil_append] at split
  rw [String.splitOn, if_neg filled]
  have same : String.splitOnAux text (String.ofList [separator]) 0 0 0 [] =
    parts.map String.ofList := split
  rw [same, List.map_map]
  simpa using areParts

theorem AreParts.ne_nil {separator : Char} {cs : List Char} {parts : List (List Char)}
    (areParts : AreParts separator cs parts) : parts ≠ [] := by
  cases areParts with
  | last => exact List.cons_ne_nil _ _
  | more => exact List.cons_ne_nil _ _

/-- Without separators, there is one part. -/
theorem AreParts.eq_of_plain {separator : Char} {cs : List Char} {parts : List (List Char)}
    (areParts : AreParts separator cs parts) (plain : separator ∉ cs) : parts = [cs] := by
  cases areParts with
  | last => rfl
  | more => exact absurd (by simp) plain

theorem splitOn_ne_nil (separator : Char) (text : String) :
    text.splitOn (String.ofList [separator]) ≠ [] := by
  have some := (areParts_splitOn separator text).ne_nil
  simpa using some

theorem splitOn_of_plain {separator : Char} {text : String} (plain : separator ∉ text.toList) :
    text.splitOn (String.ofList [separator]) = [text] := by
  have whole := (areParts_splitOn separator text).eq_of_plain plain
  obtain ⟨part, only, same⟩ := List.map_eq_singleton_iff.mp whole
  rw [only, String.toList_injective same]

/-! ## Words -/

/-- The words of a text are the longest runs of characters in it that are not blank. -/
inductive AreWords : List Char → List (List Char) → Prop
  | none {gap : List Char} (blank : ∀ c ∈ gap, isBlank c = true) : AreWords gap []
  | more {gap word rest : List Char} {words : List (List Char)}
      (blank : ∀ c ∈ gap, isBlank c = true) (some : word ≠ [])
      (plain : ∀ c ∈ word, isBlank c = false) (ends : ∀ c ∈ rest.head?, isBlank c = true)
      (behind : AreWords rest words) : AreWords (gap ++ (word ++ rest)) (word :: words)

section

variable {c : Char} {cs word : List Char} {words : List (List Char)}

/-- A blank in front makes no difference. -/
theorem AreWords.cons (blank : isBlank c = true) (areWords : AreWords cs words) :
    AreWords (c :: cs) words := by
  cases areWords with
  | none blanks => exact .none (List.forall_mem_cons.mpr ⟨blank, blanks⟩)
  | more blanks some plain ends behind =>
    rw [← List.cons_append]
    exact .more (List.forall_mem_cons.mpr ⟨blank, blanks⟩) some plain ends behind

/-- A word that was begun goes on as long as there are no blanks. -/
theorem areWords_wordsFrom (plain : ∀ c ∈ word, isBlank c = false) :
    AreWords (word ++ cs) (wordsFrom word cs) := by
  induction cs generalizing word with
  | nil =>
    rw [wordsFrom]
    cases word with
    | nil => exact .none (List.forall_mem_nil _)
    | cons first word =>
      apply @AreWords.more [] (first :: word) [] [] (List.forall_mem_nil _) (by simp) plain
      · simp
      · exact .none (List.forall_mem_nil _)
  | cons c cs ih =>
    rw [wordsFrom]
    by_cases blank : isBlank c = true
    · have behind : AreWords (c :: cs) (wordsFrom [] cs) := by
        apply AreWords.cons blank
        exact ih (List.forall_mem_nil _)
      rw [if_pos blank]
      cases word with
      | nil => exact behind
      | cons first word =>
        apply @AreWords.more [] (first :: word) (c :: cs) _ (List.forall_mem_nil _) (by simp) plain
        · simpa using blank
        · exact behind
    · have longer : ∀ other ∈ word ++ [c], isBlank other = false := by
        intro other member
        rcases List.mem_append.mp member with before | last
        · exact plain other before
        · rw [List.mem_singleton.mp last]
          simpa using blank
      rw [if_neg blank]
      simpa using ih longer

end

/-- What is read as the words of a text are its words. -/
theorem areWords_words (text : String) :
    AreWords text.toList ((words text).map String.toList) := by
  have read := @areWords_wordsFrom text.toList [] (List.forall_mem_nil _)
  rw [words, List.map_map]
  simpa using read

/-- A text without words is blank. -/
theorem AreWords.blank {cs : List Char} (areWords : AreWords cs []) :
    ∀ c ∈ cs, isBlank c = true := by
  cases areWords with
  | none blank => exact blank

theorem words_ne_nil {text : String} (firm : IsFirm text.toList) (filled : text ≠ "") :
    words text ≠ [] := by
  intro none
  have areWords := areWords_words text
  rw [none, List.map_nil] at areWords
  obtain ⟨c, rest, chars⟩ := List.exists_cons_of_ne_nil (mt String.toList_eq_nil_iff.mp filled)
  have blank : isBlank c = true := areWords.blank c (by simp [chars])
  have other : isBlank c = false := firm.front c (by simp [chars])
  rw [blank] at other
  cases other

end DirectoryAuth.Text
