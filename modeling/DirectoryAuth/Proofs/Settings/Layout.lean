import DirectoryAuth.Settings.Document
import Mathlib.Data.List.Chain

/-!
# How a configuration file is laid out

A file is laid out in blocks. Each begins with the line of a section or of an option, its heading;
behind it stand blank lines and comments and, where it is an option, lines that are indented deeper
and go on with the value. The next heading is one that does not go on with it. No section and no
option of a section is given twice, but the section whose options belong to all may be begun again.
-/

namespace DirectoryAuth.Document

open Text

variable {line : List Char} {name : String}

/-! ## Lines -/

def indentOf (line : List Char) : Nat := (line.takeWhile isBlank).length

def isComment (line : List Char) : Bool :=
  match trimChars line with
  | [] => false
  | c :: _ => c = '#' || c = ';'

/-- A blank line or a comment begins nothing. -/
def isIdle (line : List Char) : Bool := (trimChars line).isEmpty || isComment line

/-- What a line adds to a value that it goes on with. A comment is no part of a value. -/
def added? (line : List Char) : Option (List Char) :=
  if isComment line then none else some (trimChars line)

/-- The line of a section has its name in brackets. The last closing bracket ends the name. -/
def IsHeader (line : List Char) (name : String) : Prop :=
  ∃ title rest, trimChars line = '[' :: (title ++ ']' :: rest) ∧ title ≠ [] ∧ ']' ∉ rest ∧
    name = String.ofList title

/-- The line of an option has its name and a value, with an equals sign or a colon in between. The
first of these ends the name. -/
def IsOption (line : List Char) (name : String) (value : List Char) : Prop :=
  ∃ left divider right, trimChars line = left ++ divider :: right ∧
    Reader.isDivider divider = true ∧ (∀ c ∈ left, Reader.isDivider c = false) ∧
    trimChars left ≠ [] ∧ name = String.ofList (trimChars left) ∧ value = trimChars right

/-- What a block begins with. -/
inductive Heading where
  | header (name : String)
  | option (name : String) (value : List Char)

namespace Heading

def isOption : Heading → Bool
  | header _ => false
  | option _ _ => true

/-- The line is read as the heading. What looks like a section or a comment is no option. -/
def Heads (line : List Char) : Heading → Prop
  | header name => IsHeader line name
  | option name value =>
    IsOption line name value ∧ isComment line = false ∧ ∀ name, ¬ IsHeader line name

end Heading

/-! ## Blocks -/

structure Block where
  line : List Char
  heading : Heading
  rest : List (List Char)
  heads : heading.Heads line
  belongs : ∀ other ∈ rest,
    isIdle other = true ∨ heading.isOption = true ∧ indentOf line < indentOf other

namespace Block

def lines (b : Block) : List (List Char) := b.line :: b.rest

/-- The heading of a block does not go on with the block in front of it. -/
def Apart (a b : Block) : Prop := a.heading.isOption = true → indentOf b.line ≤ indentOf a.line

def extended (b : Block) (line : List Char)
    (belongs : isIdle line = true ∨ b.heading.isOption = true ∧ indentOf b.line < indentOf line) :
    Block where
  line := b.line
  heading := b.heading
  rest := b.rest ++ [line]
  heads := b.heads
  belongs other member := by
    rcases List.mem_append.mp member with inside | last
    · exact b.belongs other inside
    · exact List.mem_singleton.mp last ▸ belongs

end Block

def Heading.sectionName? : Heading → Option String
  | header name => if name = defaultSection then none else some name
  | option _ _ => none

/-- The section that options belong to behind a heading. -/
def Heading.ownerAfter (owner : String) : Heading → String
  | header name => name
  | option _ _ => owner

def Block.option? (owner : String) (b : Block) : Option FileOption :=
  match b.heading with
  | .header _ => none
  | .option name value => some ⟨owner, name, value :: b.rest.filterMap added?⟩

def sectionNames (blocks : List Block) : List String :=
  blocks.filterMap fun b => b.heading.sectionName?

/-- The section that options belong to behind some blocks. -/
def ownerAfter (owner : String) (blocks : List Block) : String :=
  blocks.foldl (fun owner b => b.heading.ownerAfter owner) owner

def optionsFrom (owner : String) : List Block → List FileOption
  | [] => []
  | b :: rest => (b.option? owner).toList ++ optionsFrom (b.heading.ownerAfter owner) rest

/-- A section begins them: its options are not taken for those of another one. -/
def Headed (blocks : List Block) : Prop := ∀ b ∈ blocks.head?, b.heading.isOption = false

theorem Headed.begins_section {b : Block} {blocks : List Block} (headed : Headed (b :: blocks)) :
    ∃ name, b.heading = .header name := by
  have first := headed b rfl
  cases heading : b.heading with
  | header name => exact ⟨name, rfl⟩
  | option name value =>
    rw [heading] at first
    cases first

structure Layout where
  front : List (List Char)
  blocks : List Block

namespace Layout

def lines (l : Layout) : List (List Char) := l.front ++ l.blocks.flatMap Block.lines

def options (l : Layout) : List FileOption := optionsFrom "" l.blocks

def document (l : Layout) : Document := ⟨sectionNames l.blocks, l.options⟩

def place (o : FileOption) : String × String := (o.owner, o.name)

/-- Everything is where it belongs, and nothing is given twice. -/
structure Proper (l : Layout) : Prop where
  idle : ∀ line ∈ l.front, isIdle line = true
  headed : Headed l.blocks
  apart : l.blocks.IsChain Block.Apart
  sections : (sectionNames l.blocks).Nodup
  options : (l.options.map place).Nodup

end Layout

/-! ## Blocks behind blocks -/

theorem sectionNames_append (a b : List Block) :
    sectionNames (a ++ b) = sectionNames a ++ sectionNames b := List.filterMap_append

theorem ownerAfter_append (owner : String) (a b : List Block) :
    ownerAfter owner (a ++ b) = ownerAfter (ownerAfter owner a) b := List.foldl_append

theorem optionsFrom_append (owner : String) (a b : List Block) :
    optionsFrom owner (a ++ b) = optionsFrom owner a ++ optionsFrom (ownerAfter owner a) b := by
  induction a generalizing owner with
  | nil => rfl
  | cons block a ih =>
    rw [List.cons_append, optionsFrom, optionsFrom, ih, List.append_assoc]
    rfl

theorem sectionNames_concat (blocks : List Block) (b : Block) :
    sectionNames (blocks ++ [b]) = sectionNames blocks ++ b.heading.sectionName?.toList := by
  rw [sectionNames_append]
  simp only [sectionNames, List.filterMap_cons]
  cases b.heading.sectionName? <;> rfl

theorem optionsFrom_concat (owner : String) (blocks : List Block) (b : Block) :
    optionsFrom owner (blocks ++ [b]) =
      optionsFrom owner blocks ++ (b.option? (ownerAfter owner blocks)).toList := by
  rw [optionsFrom_append]
  congr 1
  exact List.append_nil _

/-- The sections with names of their own are those that begin, but for the one whose options belong
to all. -/
theorem mem_sectionNames {blocks : List Block} :
    name ∈ sectionNames blocks ↔
      name ≠ defaultSection ∧ ∃ b ∈ blocks, b.heading = .header name := by
  have named (b : Block) : b.heading.sectionName? = some name ↔
      name ≠ defaultSection ∧ b.heading = .header name := by
    cases b.heading with
    | header other =>
      rw [Heading.sectionName?, Heading.header.injEq]
      by_cases shared : other = defaultSection
      · rw [if_pos shared]
        exact iff_of_false nofun fun ⟨apart, same⟩ => apart (same ▸ shared)
      · rw [if_neg shared, Option.some.injEq]
        exact ⟨fun same => ⟨same ▸ shared, same⟩, And.right⟩
    | option other value => exact iff_of_false nofun fun ⟨_, same⟩ => nomatch same
  simp only [sectionNames, List.mem_filterMap, named]
  exact ⟨fun ⟨b, member, apart, same⟩ => ⟨apart, b, member, same⟩,
    fun ⟨apart, b, member, same⟩ => ⟨b, member, apart, same⟩⟩

theorem defaultSection_not_mem (blocks : List Block) : defaultSection ∉ sectionNames blocks :=
  fun member => (mem_sectionNames.mp member).1 rfl

/-- What is begun behind some blocks was not there before; an option has a section to belong to. -/
def Heading.Fresh (blocks : List Block) : Heading → Prop
  | header name => name ∉ sectionNames blocks
  | option name _ =>
    blocks ≠ [] ∧ (Document.ownerAfter "" blocks, name) ∉ (optionsFrom "" blocks).map Layout.place

/-! ## One block more -/

variable {front : List (List Char)} {blocks : List Block} {b : Block}

theorem Heading.Heads.not_idle {begun : Heading} (heads : begun.Heads line) :
    ¬ isIdle line = true := by
  cases begun with
  | header name =>
    obtain ⟨title, rest, text, -⟩ := heads
    simp [isIdle, isComment, text]
  | option name value =>
    obtain ⟨⟨left, divider, right, text, -⟩, plain, -⟩ := heads
    simp [isIdle, plain, text]

theorem nodup_sectionNames_concat :
    (sectionNames (blocks ++ [b])).Nodup ↔ (sectionNames blocks).Nodup ∧
      ∀ name, b.heading = .header name → name ∉ sectionNames blocks := by
  rw [sectionNames_concat]
  cases b.heading with
  | header name =>
    by_cases shared : name = defaultSection
    · subst shared
      simp [Heading.sectionName?, defaultSection_not_mem]
    · have outside : (∀ other ∈ sectionNames blocks, ¬ other = name) ↔
          name ∉ sectionNames blocks :=
        ⟨fun apart member => apart name member rfl, fun absent _ member same => absent (same ▸ member)⟩
      simp [Heading.sectionName?, shared, List.nodup_append, outside]
  | option name value => simp [Heading.sectionName?]

theorem nodup_places_concat :
    ((optionsFrom "" (blocks ++ [b])).map Layout.place).Nodup ↔
      ((optionsFrom "" blocks).map Layout.place).Nodup ∧
        ∀ name value, b.heading = .option name value →
          (ownerAfter "" blocks, name) ∉ (optionsFrom "" blocks).map Layout.place := by
  rw [optionsFrom_concat, Block.option?]
  cases b.heading with
  | header name => simp
  | option name value => simp [List.nodup_append, Layout.place]

/-- One block more is in its place where it is apart from the one in front, and new. -/
theorem Layout.proper_concat :
    Layout.Proper ⟨front, blocks ++ [b]⟩ ↔
      Layout.Proper ⟨front, blocks⟩ ∧ (∀ last ∈ blocks.getLast?, last.Apart b) ∧
        b.heading.Fresh blocks := by
  constructor
  · intro proper
    obtain ⟨chain, -, apart⟩ := List.isChain_append.mp proper.apart
    have headed : Headed blocks := by
      intro first found
      exact proper.headed first (List.mem_head?_append_of_mem_head? found)
    obtain ⟨sections, newSection⟩ := nodup_sectionNames_concat.mp proper.sections
    obtain ⟨options, newOption⟩ := nodup_places_concat.mp proper.options
    refine ⟨⟨proper.idle, headed, chain, sections, options⟩,
      fun last found => apart last found b rfl, ?_⟩
    cases heading : b.heading with
    | header name => exact newSection name heading
    | option name value =>
      refine ⟨?_, newOption name value heading⟩
      rintro rfl
      have first := proper.headed b rfl
      rw [heading] at first
      cases first
  · rintro ⟨proper, apart, fresh⟩
    refine ⟨proper.idle, ?_, ?_, nodup_sectionNames_concat.mpr ⟨proper.sections, ?_⟩,
      nodup_places_concat.mpr ⟨proper.options, ?_⟩⟩
    · cases blocks with
      | nil =>
        rintro first ⟨⟩
        cases heading : b.heading with
        | header name => rfl
        | option name value =>
          rw [heading] at fresh
          exact absurd rfl fresh.1
      | cons first rest => exact proper.headed
    · refine List.isChain_append.mpr ⟨proper.apart, List.isChain_singleton _, ?_⟩
      rintro last found _ ⟨⟩
      exact apart last found
    · intro name heading
      rw [heading] at fresh
      exact fresh
    · intro name value heading
      rw [heading] at fresh
      exact fresh.2

/-- A block at the end may be written in another way, with the same heading. -/
theorem Layout.Proper.withLast {b' : Block} (proper : Layout.Proper ⟨front, blocks ++ [b]⟩)
    (heading : b'.heading = b.heading) (indent : indentOf b'.line = indentOf b.line) :
    Layout.Proper ⟨front, blocks ++ [b']⟩ := by
  obtain ⟨before, apart, fresh⟩ := Layout.proper_concat.mp proper
  refine Layout.proper_concat.mpr ⟨before, fun last found option => ?_, heading ▸ fresh⟩
  rw [indent]
  exact apart last found option

theorem Layout.document_withLast {b' : Block} (heading : b'.heading = b.heading)
    (rest : b'.rest = b.rest) :
    Layout.document ⟨front, blocks ++ [b']⟩ = Layout.document ⟨front, blocks ++ [b]⟩ := by
  simp only [Layout.document, Layout.options, sectionNames_concat, optionsFrom_concat,
    Block.option?, heading, rest]

end DirectoryAuth.Document
