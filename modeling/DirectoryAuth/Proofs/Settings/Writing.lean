import DirectoryAuth.Proofs.Settings.Sections
import DirectoryAuth.Proofs.Text.Blanks

/-!
# Writing files

A file may be written section by section, each option on a line of its own, and any of the ways to
end a line will do. Whatever a name or a value consists of, the file is read as it was written: only
line breaks, blanks at either end and what would be read as something else need to be kept out.
-/

namespace DirectoryAuth

open Text

namespace Writing

open Document

variable {name key value owner : String} {back : List Char}

/-! ## Lines -/

/-- A text that may stand in the brackets of a section. There may be brackets in it, too, since the
last one on the line ends the name. -/
structure IsTitle (name : String) : Prop where
  filled : name ≠ ""
  bare : Lines.IsBare name.toList

structure IsKey (key : String) : Prop where
  filled : key ≠ ""
  firm : IsFirm key.toList
  bare : Lines.IsBare key.toList
  undivided : '=' ∉ key.toList ∧ ':' ∉ key.toList
  plain : ∀ c ∈ key.toList.head?, c ∉ ['#', ';', '[']

structure IsValue (value : String) : Prop where
  firm : IsFirm value.toList
  bare : Lines.IsBare value.toList

instance : Decidable (IsTitle name) :=
  decidable_of_iff (name ≠ "" ∧ Lines.IsBare name.toList)
    ⟨fun ⟨filled, bare⟩ => ⟨filled, bare⟩, fun ⟨filled, bare⟩ => ⟨filled, bare⟩⟩

instance : Decidable (IsKey key) :=
  decidable_of_iff (key ≠ "" ∧ IsFirm key.toList ∧ Lines.IsBare key.toList ∧
      ('=' ∉ key.toList ∧ ':' ∉ key.toList) ∧ ∀ c ∈ key.toList.head?, c ∉ ['#', ';', '['])
    ⟨fun ⟨filled, firm, bare, undivided, plain⟩ => ⟨filled, firm, bare, undivided, plain⟩,
      fun ⟨filled, firm, bare, undivided, plain⟩ => ⟨filled, firm, bare, undivided, plain⟩⟩

instance : Decidable (IsValue value) :=
  decidable_of_iff (IsFirm value.toList ∧ Lines.IsBare value.toList)
    ⟨fun ⟨firm, bare⟩ => ⟨firm, bare⟩, fun ⟨firm, bare⟩ => ⟨firm, bare⟩⟩

def titleLine (name : String) : List Char := ("[" ++ name ++ "]").toList

def optionLine (key value : String) : List Char := (key ++ " = " ++ value).toList

theorem IsTitle.isBare (title : IsTitle name) : Lines.IsBare (titleLine name) := by
  simp [Lines.IsBare, titleLine, title.bare.1, title.bare.2]

theorem isBare_optionLine (isKey : IsKey key) (isValue : IsValue value) :
    Lines.IsBare (optionLine key value) := by
  simp [Lines.IsBare, optionLine, isKey.bare.1, isKey.bare.2, isValue.bare.1, isValue.bare.2]

theorem titleLine_eq (name : String) : titleLine name = '[' :: (name.toList ++ [']']) := by
  rw [titleLine, String.toList_append, String.toList_append]
  rfl

theorem isFirm_titleLine (name : String) : IsFirm (titleLine name) := by
  rw [titleLine_eq]
  refine ⟨?_, ?_⟩
  · rintro _ ⟨⟩
    decide
  · rw [← List.cons_append, List.getLast?_concat]
    rintro _ ⟨⟩
    decide

theorem isBlank_space : isBlank ' ' = true := by decide

theorem isBlank_feed : ∀ c ∈ ['\n'], isBlank c = true := List.forall_mem_singleton.mpr (by decide)

/-- The line of a section is read as such, whatever blanks stand behind it. -/
theorem IsTitle.heads (title : IsTitle name) (blank : ∀ c ∈ back, isBlank c = true) :
    Heading.Heads (titleLine name ++ back) (.header name) := by
  refine ⟨name.toList, [], ?_, ?_, List.not_mem_nil, String.ofList_toList.symm⟩
  · exact ((isFirm_titleLine name).trimChars_eq (List.forall_mem_nil _) blank).trans
      (titleLine_eq name)
  · simpa using title.filled

theorem IsKey.exists_cons (isKey : IsKey key) :
    ∃ c cs, key.toList = c :: cs ∧ isBlank c = false ∧ c ∉ ['#', ';', '['] := by
  cases text : key.toList with
  | nil => exact absurd (String.toList_eq_nil_iff.mp text) isKey.filled
  | cons c cs =>
    have first : c ∈ key.toList.head? := by rw [text]; rfl
    exact ⟨c, cs, rfl, isKey.firm.front c first, isKey.plain c first⟩

/-- What is left of the line of an option without the blanks around it. -/
theorem trimChars_optionLine (isKey : IsKey key) (isValue : IsValue value)
    (blank : ∀ c ∈ back, isBlank c = true) :
    ∃ right, trimChars (optionLine key value ++ back) = (key.toList ++ [' ']) ++ '=' :: right ∧
      trimChars right = value.toList := by
  obtain ⟨c, cs, text, firm, -⟩ := isKey.exists_cons
  have front (behind : List Char) :
      ∀ first ∈ (key.toList ++ behind).head?, isBlank first = false := by
    rw [text]
    rintro _ ⟨⟩
    exact firm
  have line : optionLine key value = key.toList ++ [' ', '=', ' '] ++ value.toList := by
    simp [optionLine]
  by_cases empty : value = ""
  · -- The blank in front of an empty value is cut off.
    subst empty
    have firm : IsFirm (key.toList ++ [' ', '=']) := by
      refine ⟨front _, ?_⟩
      rw [List.getLast?_append_of_ne_nil _ (List.cons_ne_nil _ _)]
      rintro _ ⟨⟩
      decide
    refine ⟨[], ?_, rfl⟩
    have cut := firm.trimChars_eq (List.forall_mem_nil _) (List.forall_mem_cons.mpr ⟨isBlank_space, blank⟩)
    rw [line]
    simpa using cut
  · have filled : value.toList ≠ [] := fun none => empty (String.toList_eq_nil_iff.mp none)
    have firm : IsFirm (key.toList ++ [' ', '=', ' '] ++ value.toList) := by
      refine ⟨?_, ?_⟩
      · rw [List.append_assoc]
        exact front _
      · rw [List.getLast?_append_of_ne_nil _ filled]
        exact isValue.firm.back
    refine ⟨' ' :: value.toList, ?_, ?_⟩
    · have cut := firm.trimChars_eq (List.forall_mem_nil _) blank
      rw [line]
      simpa using cut
    · have cut := isValue.firm.trimChars_eq (List.forall_mem_singleton.mpr isBlank_space)
        (List.forall_mem_nil _)
      simpa using cut

/-- The line of an option is read as such, whatever blanks stand behind it. -/
theorem heads_option (isKey : IsKey key) (isValue : IsValue value)
    (blank : ∀ c ∈ back, isBlank c = true) :
    Heading.Heads (optionLine key value ++ back) (.option key value.toList) := by
  obtain ⟨right, line, trimmed⟩ := trimChars_optionLine isKey isValue blank
  obtain ⟨c, cs, text, -, plain⟩ := isKey.exists_cons
  have start : trimChars (optionLine key value ++ back) = c :: (cs ++ ' ' :: '=' :: right) := by
    rw [line, text]
    simp
  simp only [List.mem_cons, List.not_mem_nil, or_false, not_or] at plain
  have left : trimChars (key.toList ++ [' ']) = key.toList :=
    isKey.firm.trimChars_eq (List.forall_mem_nil _) (List.forall_mem_singleton.mpr isBlank_space)
  refine ⟨⟨key.toList ++ [' '], '=', right, line, rfl, ?_, ?_, ?_, trimmed.symm⟩, ?_, ?_⟩
  · intro d member
    rcases List.mem_append.mp member with inside | last
    · have equals : d ≠ '=' := fun same => isKey.undivided.1 (same ▸ inside)
      have colon : d ≠ ':' := fun same => isKey.undivided.2 (same ▸ inside)
      simp [Reader.isDivider, equals, colon]
    · rw [List.mem_singleton.mp last]
      decide
  · rw [left, text]
    exact List.cons_ne_nil _ _
  · rw [left]
    exact String.ofList_toList.symm
  · rw [isComment, start]
    simp [plain.1, plain.2.1]
  · rintro name ⟨title, rest, header, -⟩
    rw [start] at header
    exact plain.2.2 (List.cons.inj header).1

theorem indentOf_titleLine (name : String) (back : List Char) :
    indentOf (titleLine name ++ back) = 0 := by
  rw [titleLine_eq, indentOf]
  rfl

theorem IsKey.indentOf_eq (isKey : IsKey key) (value : String) (back : List Char) :
    indentOf (optionLine key value ++ back) = 0 := by
  obtain ⟨c, cs, text, firm, -⟩ := isKey.exists_cons
  simp [indentOf, optionLine, text, firm]

/-! ## Sections -/

/-- A section to be written: no option is given twice. -/
structure Section where
  name : String
  options : List (String × String)
  title : IsTitle name
  keys : ∀ option ∈ options, IsKey option.1 ∧ IsValue option.2
  distinct : (options.map (·.1)).Nodup

def optionBlock (option : String × String) (good : IsKey option.1 ∧ IsValue option.2) : Block where
  line := optionLine option.1 option.2 ++ ['\n']
  heading := .option option.1 option.2.toList
  rest := []
  heads := heads_option good.1 good.2 isBlank_feed
  belongs := List.forall_mem_nil _

namespace Section

def lines (s : Section) : List (List Char) :=
  titleLine s.name :: s.options.map fun (key, value) => optionLine key value

def header (s : Section) : Block where
  line := titleLine s.name ++ ['\n']
  heading := .header s.name
  rest := []
  heads := s.title.heads isBlank_feed
  belongs := List.forall_mem_nil _

def blocks (s : Section) : List Block := s.header :: s.options.pmap optionBlock s.keys

end Section

/-- A file to be written: no section is given twice, and none is for all sections. -/
structure File where
  sections : List Section
  distinct : (sections.map Section.name).Nodup
  own : ∀ s ∈ sections, s.name ≠ defaultSection

namespace File

def lines (f : File) : List (List Char) := f.sections.flatMap Section.lines

/-- The bytes are those of the file, with an ending behind each line, or behind each but the last. -/
def IsWritten (f : File) (bytes : List UInt8) : Prop :=
  ∃ ending ∈ Lines.endings, bytes = utf8 (f.lines.flatMap (· ++ ending)) ∨
    ∃ lines last, f.lines = lines ++ [last] ∧ bytes = utf8 (lines.flatMap (· ++ ending) ++ last)

def layout (f : File) : Layout := ⟨[], f.sections.flatMap Section.blocks⟩

def Has (f : File) (owner key value : String) : Prop :=
  ∃ s ∈ f.sections, s.name = owner ∧ (key, value) ∈ s.options

end File

/-! ## Layouts of files that are written -/

def readOption (owner : String) (option : String × String) : FileOption :=
  ⟨owner, option.1, [option.2.toList]⟩

theorem value_readOption (isValue : IsValue value) :
    (readOption owner (key, value)).value = value := by
  have one : ['\n'].intercalate [value.toList] = value.toList := by simp [List.intercalate]
  rw [FileOption.value, readOption, one, isValue.firm.trimRight_eq, String.ofList_toList]

section Options

variable {options : List (String × String)}

theorem lines_options (good : ∀ option ∈ options, IsKey option.1 ∧ IsValue option.2) :
    (options.pmap optionBlock good).flatMap Block.lines =
      options.map fun option => optionLine option.1 option.2 ++ ['\n'] := by
  induction options with
  | nil => rfl
  | cons option options ih =>
    rw [List.pmap_cons, List.flatMap_cons, ih]
    rfl

theorem sectionNames_options (good : ∀ option ∈ options, IsKey option.1 ∧ IsValue option.2) :
    sectionNames (options.pmap optionBlock good) = [] := by
  induction options with
  | nil => rfl
  | cons option options ih => exact ih _

theorem optionsFrom_options (good : ∀ option ∈ options, IsKey option.1 ∧ IsValue option.2)
    (owner : String) :
    optionsFrom owner (options.pmap optionBlock good) = options.map (readOption owner) := by
  induction options with
  | nil => rfl
  | cons option options ih =>
    rw [List.pmap_cons, optionsFrom, List.map_cons, ← ih]
    rfl

end Options

namespace Section

variable (s : Section)

theorem lines_blocks : s.blocks.flatMap Block.lines = s.lines.map (· ++ ['\n']) := by
  rw [blocks, List.flatMap_cons, lines_options, lines, List.map_cons, List.map_map]
  rfl

theorem sectionNames_blocks (own : s.name ≠ defaultSection) : sectionNames s.blocks = [s.name] := by
  have title : s.header.heading.sectionName? = some s.name := if_neg own
  rw [blocks, ← List.singleton_append, sectionNames_append, sectionNames_options s.keys,
    List.append_nil, sectionNames, List.filterMap_cons, title]
  rfl

theorem optionsFrom_blocks (owner : String) :
    optionsFrom owner s.blocks = s.options.map (readOption s.name) :=
  optionsFrom_options s.keys s.name

/-- Each block is a line that is not indented. It heads the block also where nothing ends it. -/
theorem line_of_mem_blocks : ∀ b ∈ s.blocks, ∃ line, b.line = line ++ ['\n'] ∧ b.rest = [] ∧
    b.heading.Heads line ∧ ∀ back, indentOf (line ++ back) = 0 := by
  rw [blocks, List.forall_mem_cons]
  refine ⟨⟨titleLine s.name, rfl, rfl, ?_, indentOf_titleLine s.name⟩, fun b member => ?_⟩
  · have heads := s.title.heads (List.forall_mem_nil _)
    rwa [List.append_nil] at heads
  · obtain ⟨option, inside, rfl⟩ := List.mem_pmap.mp member
    obtain ⟨isKey, isValue⟩ := s.keys option inside
    refine ⟨optionLine option.1 option.2, rfl, rfl, ?_, isKey.indentOf_eq option.2⟩
    have heads := heads_option isKey isValue (List.forall_mem_nil _)
    rwa [List.append_nil] at heads

end Section

namespace File

variable (f : File)

theorem lines_layout : f.layout.lines = f.lines.map (· ++ ['\n']) := by
  rw [Layout.lines, layout, lines, List.nil_append, List.flatMap_assoc, List.map_flatMap]
  exact List.flatMap_congr fun s _ => s.lines_blocks

theorem sections_layout : f.layout.document.sections = f.sections.map Section.name := by
  have all (sections : List Section) (own : ∀ s ∈ sections, s.name ≠ defaultSection) :
      sectionNames (sections.flatMap Section.blocks) = sections.map Section.name := by
    induction sections with
    | nil => rfl
    | cons s sections ih =>
      obtain ⟨first, later⟩ := List.forall_mem_cons.mp own
      rw [List.flatMap_cons, sectionNames_append, s.sectionNames_blocks first, ih later]
      rfl
  exact all f.sections f.own

theorem options_layout :
    f.layout.options = f.sections.flatMap fun s => s.options.map (readOption s.name) := by
  have all (owner : String) (sections : List Section) :
      optionsFrom owner (sections.flatMap Section.blocks) =
        sections.flatMap fun s => s.options.map (readOption s.name) := by
    induction sections generalizing owner with
    | nil => rfl
    | cons s sections ih =>
      rw [List.flatMap_cons, optionsFrom_append, s.optionsFrom_blocks, ih, List.flatMap_cons]
  exact all "" f.sections

theorem writes_layout : f.layout.document.Writes owner key value ↔ f.Has owner key value := by
  have options : f.layout.document.options = _ := f.options_layout
  simp only [Document.Writes, options, List.mem_flatMap, List.mem_map]
  constructor
  · rintro ⟨_, ⟨s, member, ⟨_, text⟩, inside, rfl⟩, rfl, rfl, rfl⟩
    rw [value_readOption (s.keys _ inside).2]
    exact ⟨s, member, rfl, inside⟩
  · rintro ⟨s, member, rfl, inside⟩
    exact ⟨_, ⟨s, member, _, inside, rfl⟩, rfl, rfl, value_readOption (s.keys _ inside).2⟩

theorem has_layout : f.layout.document.Has owner key value ↔ f.Has owner key value := by
  rw [Document.Has, writes_layout, or_iff_left]
  rintro ⟨shared, -⟩
  obtain ⟨s, member, same, -⟩ := f.writes_layout.mp shared
  exact f.own s member same

theorem proper_layout : f.layout.Proper := by
  refine ⟨List.forall_mem_nil _, ?_, ?_, ?_, ?_⟩
  · rw [layout]
    cases f.sections with
    | nil => nofun
    | cons s sections =>
      rintro _ ⟨⟩
      rfl
  · refine List.Pairwise.isChain (List.pairwise_of_forall_mem_list fun a _ b member _ => ?_)
    obtain ⟨s, -, inside⟩ := List.mem_flatMap.mp member
    obtain ⟨line, same, -, -, indent⟩ := s.line_of_mem_blocks b inside
    rw [same, indent]
    exact Nat.zero_le _
  · exact f.sections_layout.symm.subst f.distinct
  · rw [options_layout, List.map_flatMap, List.nodup_flatMap]
    refine ⟨fun s _ => ?_, ?_⟩
    · refine List.Nodup.of_map Prod.snd ?_
      rw [List.map_map, List.map_map]
      exact s.distinct
    · refine (List.pairwise_map.mp f.distinct).imp fun {s t} apart place left right => ?_
      simp only [List.map_map, List.mem_map, Function.comp_apply] at left right
      obtain ⟨option, -, rfl⟩ := left
      obtain ⟨other, -, same⟩ := right
      exact apart (Prod.mk.inj same).1.symm

theorem isBare_lines : ∀ line ∈ f.lines, Lines.IsBare line := by
  intro line member
  obtain ⟨s, -, inside⟩ := List.mem_flatMap.mp member
  rcases List.mem_cons.mp inside with rfl | option
  · exact s.title.isBare
  · obtain ⟨⟨key, value⟩, known, rfl⟩ := List.mem_map.mp option
    exact isBare_optionLine (s.keys _ known).1 (s.keys _ known).2

/-- The last line is a block of its own, and might as well lack its line feed. -/
theorem exists_withoutFeed {lines : List (List Char)} {last : List Char}
    (same : f.lines = lines ++ [last]) :
    ∃ l : Layout, l.Proper ∧ l.lines = lines.map (· ++ ['\n']) ++ [last] ∧ last ≠ [] ∧
      l.document = f.layout.document := by
  have whole := f.lines_layout
  rw [same, List.map_append, Layout.lines, List.map_singleton] at whole
  change f.layout.blocks.flatMap Block.lines = _ at whole
  rcases List.eq_nil_or_concat' f.layout.blocks with none | ⟨blocks, b, some⟩
  · rw [none] at whole
    exact absurd whole.symm (by simp)
  · have member : b ∈ f.layout.blocks := some ▸ List.mem_append_right _ (List.mem_singleton_self b)
    obtain ⟨s, -, inside⟩ := List.mem_flatMap.mp member
    obtain ⟨line, ends, alone, heads, indent⟩ := s.line_of_mem_blocks b inside
    rw [some, List.flatMap_append, List.flatMap_singleton, Block.lines, alone] at whole
    obtain ⟨front, feed⟩ := List.append_inj' whole rfl
    obtain rfl : line = last := by simpa [ends] using feed
    have proper : Layout.Proper ⟨[], blocks ++ [b]⟩ := some ▸ f.proper_layout
    let last : Block := ⟨line, b.heading, [], heads, List.forall_mem_nil _⟩
    refine ⟨⟨[], blocks ++ [last]⟩, proper.withLast rfl ?_, ?_, ?_, ?_⟩
    · rw [ends, indent]
      simpa using indent []
    · simpa [Layout.lines, Block.lines, last] using front
    · rintro rfl
      exact heads.not_idle (by decide)
    · have shape : f.layout = ⟨[], blocks ++ [b]⟩ := congrArg (Layout.mk []) some
      rw [shape]
      exact Layout.document_withLast rfl alone.symm

theorem isLaidOut {ending : List Char} (ends : ending ∈ Lines.endings) :
    Settings.IsLaidOut (utf8 (f.lines.flatMap (· ++ ending))) f.layout := by
  refine ⟨f.proper_layout, _, rfl, ?_⟩
  have told := Lines.split_ended ends f.isBare_lines Lines.isBare_nil
  rw [List.append_nil] at told
  rw [told, f.lines_layout]
  exact List.append_nil _

/-- However the file is written, it is laid out with the sections and options that it has. -/
theorem exists_isLaidOut {bytes : List UInt8} (written : f.IsWritten bytes) :
    ∃ l, Settings.IsLaidOut bytes l ∧ l.document = f.layout.document := by
  obtain ⟨ending, ends, rfl | ⟨lines, last, same, rfl⟩⟩ := written
  · exact ⟨f.layout, f.isLaidOut ends, rfl⟩
  · obtain ⟨l, proper, whole, filled, document⟩ := f.exists_withoutFeed same
    refine ⟨l, ⟨proper, _, rfl, ?_⟩, document⟩
    obtain ⟨bare, bareLast⟩ := List.forall_mem_append.mp (same ▸ f.isBare_lines)
    have bareLast := List.forall_mem_singleton.mp bareLast
    rw [Lines.split_ended ends bare bareLast, Lines.split_bare bareLast filled, whole]

/-- The file without the sections that no settings are made of. -/
def settingsOnly : File where
  sections := f.sections.filter fun s => Settings.isSettingsSection s.name
  distinct := f.distinct.sublist (List.filter_sublist.map _)
  own s member := f.own s (List.mem_of_mem_filter member)

theorem written_layout (owner : String) :
    f.layout.document.written owner =
      (f.sections.filter (·.name == owner)).flatMap Section.options := by
  have options : f.layout.document.options = _ := f.options_layout
  rw [Document.written, options]
  induction f.sections with
  | nil => rfl
  | cons s sections ih =>
    have told : (s.options.map (readOption s.name)).map (fun o => (o.name, o.value)) =
        s.options := by
      rw [List.map_map, List.map_congr_left fun option member => ?_, List.map_id]
      exact Prod.ext rfl (value_readOption (s.keys option member).2)
    have owned : ∀ o ∈ s.options.map (readOption s.name), o.owner = s.name := by
      intro o member
      obtain ⟨option, -, rfl⟩ := List.mem_map.mp member
      rfl
    rw [List.flatMap_cons, List.filter_append, List.map_append, ih, List.filter_cons]
    split
    · next same =>
      rw [List.filter_eq_self.mpr fun o member => (owned o member).symm ▸ same, told,
        List.flatMap_cons]
    · next other =>
      rw [List.filter_eq_nil_iff.mpr fun o member => (owned o member).symm ▸ other]
      rfl

/-- No settings get lost with the sections that no settings are made of. -/
theorem ofDocument_settingsOnly :
    Settings.ofDocument f.settingsOnly.layout.document = Settings.ofDocument f.layout.document := by
  refine Settings.ofDocument_congr ?_ fun owner kind => ?_
  · rw [sections_layout, sections_layout, List.filter_map, List.filter_map, settingsOnly]
    simp only [List.filter_filter, Function.comp_def, Bool.and_self]
  · rw [written_layout, written_layout, settingsOnly, List.filter_filter]
    congr 1
    refine List.filter_congr fun s member => ?_
    by_cases same : s.name = owner
    · have settings := kind.resolve_right fun shared => f.own s member (same.trans shared)
      simp [same, settings]
    · simp [same]

end File

end Writing

namespace Settings

open Writing

variable {σ : Type} {network : Network σ} {world : World σ} {path : String}

/-- A file keeps its text: what is loaded from it is what its sections hold, the later section
prevailing. Sections that no settings are made of make no difference. -/
theorem load_written (f : Writing.File) {bytes : List UInt8} (written : f.IsWritten bytes)
    (answered : (network.answer (.readFile path) world.network).1 = .ok bytes) :
    ∃ s, (load path).run network world = (.ok s, world.called network (.readFile path)) ∧
      (∀ name scalar, s.get? name = some scalar ↔
        ∃ value, scalar = .text value ∧ Prevails f.Has (f.sections.map (·.name)) name value) ∧
      ∀ rest, f.settingsOnly.IsWritten rest → ∀ (other : Network σ) (a : World σ),
        (other.answer (.readFile path) a.network).1 = .ok rest →
          ((load path).run other a).1 = .ok s := by
  obtain ⟨l, laidOut, document⟩ := f.exists_isLaidOut written
  have read : ((load path).run network world).1 = .ok (ofDocument f.layout.document) :=
    (load_eq_ok answered).mpr (ofBytes_eq_ok_iff.mpr ⟨l, laidOut, by rw [document]⟩)
  have same : f.layout.document.Has = f.Has := by
    funext owner key value
    exact propext f.has_layout
  refine ⟨_, Prod.ext read (by rw [run_load]), fun name scalar => ?_,
    fun rest written other a answered => ?_⟩
  · rw [get?_ofDocument f.proper_layout.options, same, f.sections_layout]
  · obtain ⟨l', laidOut', document'⟩ := f.settingsOnly.exists_isLaidOut written
    refine (load_eq_ok answered).mpr (ofBytes_eq_ok_iff.mpr ⟨l', laidOut', ?_⟩)
    rw [document', f.ofDocument_settingsOnly]

/-- Two sections give one name, the later of them to text that looks like a comment. The lines end in
both characters, and the last one in none. -/
theorem load_written_overlapping :
    let f : Writing.File := {
      sections := [⟨"ldap", [("a.b", "1")], by decide, by decide, by decide⟩,
        ⟨"mail", [("host", "")], by decide, by decide, by decide⟩,
        ⟨"ldap.a", [("b", "; %(x)s = y")], by decide, by decide, by decide⟩]
      distinct := by decide
      own := by decide }
    let bytes :=
      utf8 "[ldap]\r\na.b = 1\r\n[mail]\r\nhost = \r\n[ldap.a]\r\nb = ; %(x)s = y".toList
    f.IsWritten bytes ∧
      ∃ s, ((load "ldap.ini").run (Rehearsal.onlyFile (.ok bytes)) (.start ())).1 = .ok s ∧
        s.get? "ldap.a.b" = some (.text "; %(x)s = y") := by
  intro f bytes
  have written : f.IsWritten bytes :=
    ⟨['\r', '\n'], by decide, .inr ⟨f.lines.dropLast, _, rfl, congrArg utf8 (by decide)⟩⟩
  obtain ⟨s, loaded, values, -⟩ := @load_written Unit (Rehearsal.onlyFile (.ok bytes)) (.start ())
    "ldap.ini" f bytes written rfl
  refine ⟨written, s, by rw [loaded], (values _ _).mpr ⟨_, rfl, ?_⟩⟩
  have option : f.Has "ldap.a" "b" "; %(x)s = y" :=
    ⟨f.sections[2], List.getElem_mem _, rfl, List.mem_singleton_self _⟩
  exact ⟨["ldap", "mail"], "ldap.a", [], rfl, ⟨.inr ⟨"a", by decide⟩, "b", option, by decide⟩,
    List.forall_mem_nil _⟩

end Settings

end DirectoryAuth
