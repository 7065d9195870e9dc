import DirectoryAuth.Proofs.Settings.Writing

/-!
# Sections that do not count

Sections with names of their own that do not begin with `ldap` might as well not be in a file. The
section `DEFAULT` might not, although its name does not begin so either: its options belong to every
section, and become settings of each that lacks them.
-/

namespace DirectoryAuth.Settings

open Text
open Document (Block Heading Layout Headed)

variable {name owner path : String}

/-! ## Sections that no settings are made of -/

/-- The options of blocks belong to the sections that begin in them. -/
theorem owner_of_mem {P : String → Prop} {blocks : List Block} (first : P owner ∨ Headed blocks)
    (named : ∀ b ∈ blocks, ∀ name, b.heading = .header name → P name) :
    ∀ o ∈ Document.optionsFrom owner blocks, P o.owner := by
  induction blocks generalizing owner with
  | nil => exact List.forall_mem_nil _
  | cons b blocks ih =>
    obtain ⟨here, later⟩ := List.forall_mem_cons.mp named
    have option {name : String} {value : List Char} (heading : b.heading = .option name value)
        (headed : Headed (b :: blocks)) : False := by
      obtain ⟨other, begins⟩ := headed.begins_section
      cases heading.symm.trans begins
    intro o member
    rcases List.mem_append.mp member with own | behind
    · rw [Block.option?] at own
      cases heading : b.heading with
      | header name =>
        rw [heading] at own
        cases own
      | option name value =>
        rw [heading] at own
        obtain rfl := List.mem_singleton.mp own
        exact first.resolve_right fun headed => option heading headed
    · refine ih (.inl ?_) later o behind
      cases heading : b.heading with
      | header name => exact here name heading
      | option name value => exact first.resolve_right fun headed => option heading headed

/-- Behind the line of a section it does not matter what was there before. -/
theorem optionsFrom_headed {blocks : List Block} (headed : Headed blocks) (owner other : String) :
    Document.optionsFrom owner blocks = Document.optionsFrom other blocks := by
  cases blocks with
  | nil => rfl
  | cons b blocks =>
    obtain ⟨name, heading⟩ := headed.begins_section
    rw [Document.optionsFrom, Document.optionsFrom, Block.option?, Block.option?, heading]
    rfl

/-- No settings are made of the section itself, and its options belong to no other section. -/
def IsForeign (name : String) : Prop :=
  isSettingsSection name = false ∧ name ≠ Document.defaultSection

/-- One layout has some sections in a row which another one lacks, with all that belongs to them.
What stands behind them does not go on with what stands in front of them. -/
inductive Drops : Layout → Layout → Prop
  | intro {front : List (List Char)} {before dropped after : List Block} (headed : Headed dropped)
      (foreign : ∀ b ∈ dropped, ∀ name, b.heading = .header name → IsForeign name)
      (next : Headed after)
      (apart : ∀ last ∈ before.getLast?, ∀ first ∈ after.head?, last.Apart first) :
    Drops ⟨front, before ++ dropped ++ after⟩ ⟨front, before ++ after⟩

namespace Drops

variable {l l' : Layout}

theorem lines_sublist (drops : Drops l l') : l'.lines.Sublist l.lines := by
  cases drops
  simp only [Layout.lines, List.flatMap_append]
  exact (List.Sublist.refl _).append ((List.sublist_append_left _ _).append (List.Sublist.refl _))

theorem options_eq (front : List (List Char)) (before dropped : List Block) {after : List Block}
    (next : Headed after) :
    Layout.options ⟨front, before ++ dropped ++ after⟩ =
        Document.optionsFrom "" before ++
          Document.optionsFrom (Document.ownerAfter "" before) dropped ++
          Document.optionsFrom "" after ∧
      Layout.options ⟨front, before ++ after⟩ =
        Document.optionsFrom "" before ++ Document.optionsFrom "" after := by
  constructor
  · rw [Layout.options, Document.optionsFrom_append, Document.optionsFrom_append,
      optionsFrom_headed next _ ""]
  · rw [Layout.options, Document.optionsFrom_append, optionsFrom_headed next _ ""]

theorem proper (drops : Drops l l') (proper : l.Proper) : l'.Proper := by
  cases drops with
  | @intro front before dropped after headed foreign next apart =>
    obtain ⟨whole, rest⟩ := options_eq front before dropped next
    obtain ⟨chain, chain', -⟩ := List.isChain_append.mp proper.apart
    refine ⟨proper.idle, ?_, ?_, ?_, ?_⟩
    · cases before with
      | nil => exact next
      | cons b before => exact proper.headed
    · exact List.isChain_append.mpr ⟨(List.isChain_append.mp chain).1, chain', apart⟩
    · refine proper.sections.sublist ?_
      simp only [Document.sectionNames_append]
      exact (List.sublist_append_left _ _).append (List.Sublist.refl _)
    · refine proper.options.sublist ?_
      rw [whole, rest]
      exact ((List.sublist_append_left _ _).append (List.Sublist.refl _)).map _

/-- What is dropped does not show in the settings. -/
theorem ofDocument_eq (drops : Drops l l') : ofDocument l'.document = ofDocument l.document := by
  cases drops with
  | @intro front before dropped after headed foreign next apart =>
    obtain ⟨whole, rest⟩ := options_eq front before dropped next
    refine ofDocument_congr ?_ fun owner kind => ?_
    · have none : (Document.sectionNames dropped).filter isSettingsSection = [] := by
        rw [List.filter_eq_nil_iff]
        intro name member
        obtain ⟨-, b, inside, begins⟩ := Document.mem_sectionNames.mp member
        rw [(foreign b inside name begins).1]
        exact Bool.false_ne_true
      simp only [Layout.document, Document.sectionNames_append, List.filter_append, none,
        List.append_nil]
    · have own : ¬ IsForeign owner := by
        rintro ⟨other, apart⟩
        rcases kind with settings | shared
        · rw [settings] at other
          cases other
        · exact apart shared
      have none : (Document.optionsFrom (Document.ownerAfter "" before) dropped).filter
          (·.owner == owner) = [] := by
        rw [List.filter_eq_nil_iff]
        intro o member same
        exact own (beq_iff_eq.mp same ▸ owner_of_mem (.inr headed) foreign o member)
      rw [Document.written, Document.written, Layout.document, Layout.document, whole, rest]
      simp only [List.filter_append, none, List.append_nil]

end Drops

variable {σ : Type} {network : Network σ} {world : World σ}

/-- A file that is loaded is laid out in some way, and whichever way that is, its settings are those
that prevail in its sections. Another file that is laid out without some section that is neither
`ldap` nor `ldap.x` nor `DEFAULT` is loaded with the same settings. -/
theorem load_reads_sections {bytes : List UInt8} {s : Settings}
    (answered : (network.answer (.readFile path) world.network).1 = .ok bytes)
    (read : ((load path).run network world).1 = .ok s) :
    (∃ l, IsLaidOut bytes l) ∧
      ∀ l, IsLaidOut bytes l →
        (∀ name scalar, s.get? name = some scalar ↔
          ∃ value, scalar = .text value ∧ Prevails l.document.Has l.document.sections name value) ∧
        ∀ l', Drops l l' →
          (∃ rest, IsLaidOut rest l') ∧
            ∀ rest, IsLaidOut rest l' → ∀ (other : Network σ) (a : World σ),
              (other.answer (.readFile path) a.network).1 = .ok rest →
                ((load path).run other a).1 = .ok s := by
  have accepted := (load_eq_ok answered).mp read
  obtain ⟨first, laidOut, same⟩ := ofBytes_eq_ok_iff.mp accepted
  refine ⟨⟨first, laidOut⟩, fun l laidOut => ?_⟩
  obtain rfl : ofDocument l.document = s := by
    have again : ofBytes path bytes = .ok (ofDocument l.document) :=
      ofBytes_eq_ok_iff.mpr ⟨l, laidOut, rfl⟩
    exact Except.ok.inj (again.symm.trans accepted)
  refine ⟨fun name scalar => get?_ofDocument laidOut.1.options, fun l' drops => ⟨?_, ?_⟩⟩
  · obtain ⟨proper, cs, -, lines⟩ := laidOut
    have fewer := (Lines.areLines_split cs).sublist (lines ▸ drops.lines_sublist)
    exact ⟨_, drops.proper proper, _, rfl, fewer.split_flatten⟩
  · intro rest without other a answered
    exact (load_eq_ok answered).mpr
      (ofBytes_eq_ok_iff.mpr ⟨l', without, drops.ofDocument_eq⟩)

/-- A section on mail stands between two sections of the settings, and may go. -/
theorem load_reads_sections_mail :
    let url : Writing.Section :=
      ⟨"ldap", [("url", "ldap://h")], by decide, by decide, by decide⟩
    let mail : Writing.Section := ⟨"mail", [("host", "m")], by decide, by decide, by decide⟩
    let base : Writing.Section :=
      ⟨"ldap.a", [("user.baseDn", "dc=x")], by decide, by decide, by decide⟩
    let f : Writing.File := ⟨[url, mail, base], by decide, by decide⟩
    let l' : Layout := ⟨[], url.blocks ++ base.blocks⟩
    let bytes := utf8 (f.lines.flatMap (· ++ ['\n']))
    IsLaidOut bytes f.layout ∧ Drops f.layout l' ∧
      ∃ s, ((load "ldap.ini").run (Rehearsal.onlyFile (.ok bytes)) (.start ())).1 = .ok s ∧
        ∃ rest, IsLaidOut rest l' ∧
          ((load "ldap.ini").run (Rehearsal.onlyFile (.ok rest)) (.start ())).1 = .ok s := by
  intro url mail base f l' bytes
  have laidOut : IsLaidOut bytes f.layout := f.isLaidOut List.mem_cons_self
  have foreign : ∀ b ∈ mail.blocks, ∀ name, b.heading = .header name → IsForeign name := by
    intro b member name begins
    rcases List.mem_cons.mp member with rfl | option
    · cases begins
      exact ⟨by decide, by decide⟩
    · obtain rfl := List.mem_singleton.mp option
      cases begins
  have headed (s : Writing.Section) : Headed s.blocks := by
    rintro _ ⟨⟩
    rfl
  have apart : ∀ last ∈ url.blocks.getLast?, ∀ first ∈ base.blocks.head?, last.Apart first := by
    rintro last - _ ⟨⟩ -
    have indent : Document.indentOf base.header.line = 0 := Writing.indentOf_titleLine _ _
    rw [indent]
    exact Nat.zero_le _
  have drops : Drops f.layout l' := @Drops.intro [] url.blocks mail.blocks base.blocks
    (headed mail) foreign (headed base) apart
  have read : ((load "ldap.ini").run (Rehearsal.onlyFile (.ok bytes)) (.start ())).1 =
      .ok (ofDocument f.layout.document) :=
    (load_eq_ok rfl).mpr (ofBytes_eq_ok_iff.mpr ⟨_, laidOut, rfl⟩)
  obtain ⟨-, all⟩ := load_reads_sections rfl read
  obtain ⟨⟨rest, without⟩, same⟩ := (all _ laidOut).2 l' drops
  exact ⟨laidOut, drops, _, read, rest, without, same rest without _ _ rfl⟩

/-- What is written for all sections becomes a setting, although it is not written in the section of
the settings. Without the section it is written in, the setting is not there. -/
theorem shared_option_loaded :
    let shared := "[DEFAULT]\nbindPassword = x\n"
    let own := "[ldap]\nurl = ldap://h\n"
    let read (text : String) := ofBytes "ldap.ini" (utf8 text.toList)
    ∃ s s', read (shared ++ own) = .ok s ∧ s.get? "ldap.bindPassword" = some (.text "x") ∧
      (∀ l, IsLaidOut (utf8 (shared ++ own).toList) l →
        ∀ owner, isSettingsSection owner = true →
          ∀ value, ¬ l.document.Writes owner "bindPassword" value) ∧
      read own = .ok s' ∧ s'.get? "ldap.bindPassword" = none := by
  intro shared own read
  let d : Document := ⟨["ldap"], [⟨"DEFAULT", "bindPassword", ["x".toList]⟩,
    ⟨"ldap", "url", ["ldap://h".toList]⟩]⟩
  let d' : Document := ⟨["ldap"], [⟨"ldap", "url", ["ldap://h".toList]⟩]⟩
  have first : Document.read "ldap.ini" (Lines.split (shared ++ own).toList) none = .ok d :=
    Operation.eq_ok_of_toOption (by decide +kernel)
  have second : Document.read "ldap.ini" (Lines.split own.toList) none = .ok d' :=
    Operation.eq_ok_of_toOption (by decide +kernel)
  refine ⟨ofDocument d, ofDocument d', ?_, by decide +kernel, ?_, ?_, by decide +kernel⟩
  · change ofBytes _ _ = _
    rw [ofBytes_utf8, first]
    rfl
  · intro l laidOut owner settings value writes
    obtain ⟨proper, lines⟩ := isLaidOut_utf8.mp laidOut
    have again : Document.read "ldap.ini" (Lines.split (shared ++ own).toList) none =
        .ok l.document := Document.read_eq_ok_iff.mpr ⟨l, proper, lines.symm, rfl⟩
    obtain ⟨o, member, rfl, name, -⟩ := writes
    rw [← Except.ok.inj (first.symm.trans again)] at member
    have others : ∀ o ∈ d.options, isSettingsSection o.owner = true → o.name ≠ "bindPassword" := by
      decide +kernel
    exact others o member settings name
  · change ofBytes _ _ = _
    rw [ofBytes_utf8, second]
    rfl

end DirectoryAuth.Settings
