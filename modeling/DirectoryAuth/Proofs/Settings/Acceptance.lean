import DirectoryAuth.Proofs.Settings.Steps

/-!
# Files that are accepted

Where a file is laid out properly, the reader finds the sections and options of its blocks. It goes
from block to block: the reader behind some blocks is known from them, and each line leads on to the
reader behind one line more. So the lines that it accepts are those of proper layouts, and no others.
-/

namespace DirectoryAuth.Document

variable {line value : List Char} {name file : String}

namespace Reader

variable {r' : Reader}

/-! ## All lines -/

theorem readFrom_append (r : Reader) (number : Nat) (lines more : List (List Char)) :
    r.readFrom number (lines ++ more) =
      r.readFrom number lines >>= fun r => r.readFrom (number + lines.length) more := by
  induction lines generalizing r number with
  | nil => rfl
  | cons line lines ih =>
    rw [List.cons_append, readFrom, readFrom, bind_assoc, List.length_cons]
    congr 1
    funext next
    rw [ih, Nat.add_right_comm, Nat.add_assoc]

theorem readFrom_concat (r : Reader) (number : Nat) (lines : List (List Char)) (line : List Char) :
    r.readFrom number (lines ++ [line]) =
      r.readFrom number lines >>= fun r => r.step (number + lines.length) line := by
  rw [readFrom_append]
  congr 1
  funext next
  rw [readFrom]
  cases next.step (number + lines.length) line <;> rfl

def behind (file : String) (blocks : List Block) : Reader where
  file := file
  sections := sectionNames blocks
  options := (optionsFrom "" blocks).reverse
  owner := if blocks.isEmpty then none else some (ownerAfter "" blocks)
  isOpen := blocks.getLast?.any fun b => b.heading.isOption
  indent := (blocks.getLast?.map fun b => indentOf b.line).getD 0
  bad := []

theorem behind_nil (file : String) : behind file [] = start file := rfl

variable {blocks : List Block} {b : Block}

/-- The reader behind a block more. -/
theorem behind_concat (file : String) (blocks : List Block) (b : Block) :
    behind file (blocks ++ [b]) =
      { behind file blocks with
        sections := sectionNames blocks ++ b.heading.sectionName?.toList
        options := (b.option? (ownerAfter "" blocks)).toList ++ (optionsFrom "" blocks).reverse
        owner := some (b.heading.ownerAfter (ownerAfter "" blocks))
        isOpen := b.heading.isOption
        indent := indentOf b.line } := by
  have turned (o : Option FileOption) : o.toList.reverse = o.toList := by cases o <;> rfl
  simp only [behind, sectionNames_concat, optionsFrom_concat, ownerAfter_append,
    List.reverse_append, turned]
  simp [ownerAfter]

/-- Behind a block, a line goes on with it that belongs to it. -/
theorem behind_concat_goesOn :
    (behind file (blocks ++ [b])).GoesOn line ↔
      isIdle line = true ∨ b.heading.isOption = true ∧ indentOf b.line < indentOf line := by
  rw [behind_concat]
  rfl

/-- The reader notes a line that goes on with a block. -/
theorem behind_extended
    (belongs : isIdle line = true ∨ b.heading.isOption = true ∧ indentOf b.line < indentOf line) :
    (behind file (blocks ++ [b])).goOn line = behind file (blocks ++ [b.extended line belongs]) := by
  obtain ⟨first, heading, rest, heads, goesOn⟩ := b
  rw [behind_concat, behind_concat, goOn]
  cases heading with
  | header name => cases added? line <;> rfl
  | option name value =>
    cases added : added? line with
    | none =>
      have same : (rest ++ [line]).filterMap added? = rest.filterMap added? := by simp [added]
      simp only [Block.option?, Block.extended, same]
    | some text =>
      have more : (rest ++ [line]).filterMap added? = rest.filterMap added? ++ [text] := by
        simp [added]
      simp only [Block.option?, Block.extended, more]
      rfl

theorem behind_header (heads : Heading.Heads line (.header name)) :
    behind file (blocks ++ [⟨line, .header name, [], heads, List.forall_mem_nil _⟩]) =
      { (behind file blocks).indented line with
        sections := sectionNames blocks ++ (Heading.header name).sectionName?.toList
        owner := some name
        isOpen := false } := by
  rw [behind_concat]
  rfl

theorem behind_option (some : blocks ≠ []) (heads : Heading.Heads line (.option name value)) :
    behind file (blocks ++ [⟨line, .option name value, [], heads, List.forall_mem_nil _⟩]) =
      { (behind file blocks).indented line with
        options := ⟨ownerAfter "" blocks, name, [value]⟩ :: (behind file blocks).options
        isOpen := true } := by
  have filled : blocks.isEmpty = false := by simpa using some
  rw [behind_concat]
  simp only [behind, indented, Heading.sectionName?, Heading.ownerAfter, Block.option?,
    Option.toList_none, List.append_nil, filled]
  rfl

/-- The reader notes a block that is begun. -/
theorem behind_begins_iff {begun : Heading} :
    ((behind file blocks).indented line).Begins line begun r' ↔
      ∃ heads : begun.Heads line, begun.Fresh blocks ∧
        r' = behind file (blocks ++ [⟨line, begun, [], heads, List.forall_mem_nil _⟩]) := by
  have placed {place : String × String} :
      place ∈ ((behind file blocks).indented line).options.map Layout.place ↔
        place ∈ (optionsFrom "" blocks).map Layout.place := by
    simp [behind, indented]
  constructor
  · intro begins
    cases begins with
    | header heads fresh => exact ⟨heads, fresh, (behind_header heads).symm⟩
    | option heads owned fresh =>
      obtain ⟨some, rfl⟩ : blocks ≠ [] ∧ ownerAfter "" blocks = _ := by
        simpa [behind, indented] using owned
      exact ⟨heads, ⟨some, placed.not.mp fresh⟩, (behind_option some heads).symm⟩
  · rintro ⟨heads, fresh, rfl⟩
    cases begun with
    | header name =>
      rw [behind_header heads]
      exact .header heads fresh
    | option name value =>
      obtain ⟨some, fresh⟩ := fresh
      have owned : ((behind file blocks).indented line).owner =
          Option.some (ownerAfter "" blocks) := by
        simp [behind, indented, some]
      rw [behind_option some heads]
      exact .option heads owned (placed.not.mpr fresh)

end Reader

/-! ## Reading layouts -/

variable {front lines : List (List Char)} {blocks : List Block} {b : Block} {r : Reader}

/-- A block behind others is read: its heading, then each line that belongs to it. -/
theorem readFrom_block (apart : ∀ last ∈ blocks.getLast?, last.Apart b)
    (fresh : b.heading.Fresh blocks) (file : String) (number : Nat) :
    (Reader.behind file blocks).readFrom number b.lines = .ok (.behind file (blocks ++ [b])) := by
  obtain ⟨line, heading, rest, heads, belongs⟩ := b
  have separate : ¬ (Reader.behind file blocks).GoesOn line := by
    rcases List.eq_nil_or_concat' blocks with rfl | ⟨before, last, rfl⟩
    · rintro (idle | ⟨isOpen, -⟩)
      · exact heads.not_idle idle
      · cases isOpen
    · rw [Reader.behind_concat_goesOn]
      rintro (idle | ⟨option, deeper⟩)
      · exact heads.not_idle idle
      · exact absurd (apart last (by simp) option) (Nat.not_le.mpr deeper)
  have begun := (Reader.step_of_not_goesOn separate number).trans
    (Reader.heading_of_begins (Reader.behind_begins_iff.mpr ⟨heads, fresh, rfl⟩) number)
  induction rest using List.reverseRecOn with
  | nil =>
    rw [Block.lines, Reader.readFrom, begun]
    rfl
  | append_singleton rest other ih =>
    have inside : ∀ line' ∈ rest, isIdle line' = true ∨
        heading.isOption = true ∧ indentOf line < indentOf line' :=
      fun line' member => belongs line' (List.mem_append_left _ member)
    have last := belongs other (List.mem_append_right _ (List.mem_singleton_self _))
    have all : (line :: (rest ++ [other])) = (line :: rest) ++ [other] := rfl
    rw [Block.lines, all, Reader.readFrom_concat]
    change (Reader.behind file blocks).readFrom number
      (Block.lines ⟨line, heading, rest, heads, inside⟩) >>= _ = _
    rw [ih inside apart fresh]
    change Reader.step _ _ _ = _
    rw [Reader.step_of_goesOn (Reader.behind_concat_goesOn.mpr last), Reader.behind_extended last]
    rfl

/-- Idle lines in front of all blocks begin nothing. -/
theorem readFrom_front (idle : ∀ line ∈ front, isIdle line = true) (file : String) (number : Nat) :
    (Reader.start file).readFrom number front = .ok (.start file) := by
  induction front generalizing number with
  | nil => rfl
  | cons line front ih =>
    obtain ⟨first, later⟩ := List.forall_mem_cons.mp idle
    have same : (Reader.start file).goOn line = .start file := by
      rw [Reader.goOn]
      cases added? line <;> rfl
    rw [Reader.readFrom, Reader.step_of_goesOn (.inl first), same]
    exact ih later (number + 1)

/-- The lines of a layout are read. -/
theorem Layout.Proper.read {l : Layout} (proper : l.Proper) (file : String) :
    (Reader.start file).readFrom 1 l.lines = .ok (.behind file l.blocks) := by
  obtain ⟨front, blocks⟩ := l
  induction blocks using List.reverseRecOn with
  | nil =>
    rw [Layout.lines, List.flatMap_nil, List.append_nil, readFrom_front proper.idle]
    rfl
  | append_singleton blocks b ih =>
    obtain ⟨before, apart, fresh⟩ := proper_concat.mp proper
    have lines : Layout.lines ⟨front, blocks ++ [b]⟩ = Layout.lines ⟨front, blocks⟩ ++ b.lines := by
      simp [Layout.lines]
    rw [lines, Reader.readFrom_append, ih before]
    exact readFrom_block apart fresh file _

/-- A line that goes on with what is open is one line more of the layout: of its front, where nothing
was begun, or of its last block. -/
theorem Layout.Proper.exists_of_goesOn {l : Layout} (proper : l.Proper)
    (goes : (Reader.behind file l.blocks).GoesOn line) :
    ∃ l' : Layout, l'.Proper ∧ l'.lines = l.lines ++ [line] ∧
      (Reader.behind file l.blocks).goOn line = .behind file l'.blocks := by
  obtain ⟨front, blocks⟩ := l
  rcases List.eq_nil_or_concat' blocks with rfl | ⟨blocks, last, rfl⟩
  · have idle : isIdle line = true := goes.resolve_right fun ⟨isOpen, _⟩ => nomatch isOpen
    have front_idle : ∀ other ∈ front ++ [line], isIdle other = true := by
      simpa [or_imp, forall_and] using ⟨proper.idle, idle⟩
    refine ⟨⟨front ++ [line], []⟩, ⟨front_idle, nofun, .nil, .nil, .nil⟩, ?_, ?_⟩
    · simp [Layout.lines]
    · rw [Reader.behind_nil, Reader.goOn]
      cases added? line <;> rfl
  · have belongs := Reader.behind_concat_goesOn.mp goes
    refine ⟨⟨front, blocks ++ [last.extended line belongs]⟩, ?_, ?_,
      Reader.behind_extended belongs⟩
    · obtain ⟨before, apart, fresh⟩ := Layout.proper_concat.mp proper
      exact Layout.proper_concat.mpr ⟨before, apart, fresh⟩
    · simp [Layout.lines, Block.lines, Block.extended]

/-- A line that is read as a heading begins one block more. -/
theorem Layout.Proper.exists_of_begins {l : Layout} {begun : Heading} (proper : l.Proper)
    (apart : ¬ (Reader.behind file l.blocks).GoesOn line)
    (begins : ((Reader.behind file l.blocks).indented line).Begins line begun r) :
    ∃ l' : Layout, l'.Proper ∧ l'.lines = l.lines ++ [line] ∧ r = .behind file l'.blocks := by
  obtain ⟨front, blocks⟩ := l
  obtain ⟨heads, fresh, rfl⟩ := Reader.behind_begins_iff.mp begins
  refine ⟨⟨front, blocks ++ [⟨line, begun, [], heads, List.forall_mem_nil _⟩]⟩, ?_, ?_, rfl⟩
  · refine Layout.proper_concat.mpr ⟨proper, ?_, fresh⟩
    intro last found option
    obtain ⟨blocks, rfl⟩ := List.getLast?_eq_some_iff.mp found
    rw [Reader.behind_concat_goesOn] at apart
    exact Nat.not_lt.mp fun deeper => apart (.inr ⟨option, deeper⟩)
  · simp [Layout.lines, Block.lines]

/-- Lines that are read, all of them being of use, are those of a layout. -/
theorem exists_layout (read : (Reader.start file).readFrom 1 lines = .ok r) (useful : r.bad = []) :
    ∃ l : Layout, l.Proper ∧ l.lines = lines ∧ r = .behind file l.blocks := by
  induction lines using List.reverseRecOn generalizing r with
  | nil =>
    cases read
    exact ⟨⟨[], []⟩, ⟨List.forall_mem_nil _, nofun, .nil, .nil, .nil⟩, rfl, rfl⟩
  | append_singleton lines line ih =>
    rw [Reader.readFrom_concat] at read
    cases first : (Reader.start file).readFrom 1 lines with
    | error e =>
      rw [first] at read
      cases read
    | ok before =>
      rw [first] at read
      rcases Reader.step_cases read with useless | ⟨same, stepped⟩
      · rw [useful] at useless
        exact absurd useless (Nat.not_lt_zero _)
      obtain ⟨l, proper, rfl, rfl⟩ := ih first (same.symm.trans useful)
      rcases stepped with ⟨goes, rfl⟩ | ⟨apart, begun, begins⟩
      · exact proper.exists_of_goesOn goes
      · exact proper.exists_of_begins apart begins

theorem Reader.document_behind (file : String) (l : Layout) :
    (behind file l.blocks).document = .ok l.document := by
  rw [document, behind]
  simp [Layout.document, Layout.options]

/-- A file is accepted where it is laid out properly, and has the sections and options of its
layout. -/
theorem read_eq_ok_iff {d : Document} :
    Document.read file lines none = .ok d ↔
      ∃ l : Layout, l.Proper ∧ l.lines = lines ∧ l.document = d := by
  constructor
  · intro accepted
    cases read : (Reader.start file).readFrom 1 lines with
    | error e =>
      rw [Document.read, read] at accepted
      cases accepted
    | ok r =>
      rw [Document.read, read] at accepted
      change r.document = .ok d at accepted
      have useful : r.bad = [] := by
        rw [Reader.document] at accepted
        split at accepted
        · next none => simpa using none
        · cases accepted
      obtain ⟨l, proper, rfl, rfl⟩ := exists_layout read useful
      rw [Reader.document_behind] at accepted
      exact ⟨l, proper, rfl, Except.ok.inj accepted⟩
  · rintro ⟨l, proper, rfl, rfl⟩
    rw [Document.read, proper.read file]
    exact Reader.document_behind file l

end DirectoryAuth.Document
