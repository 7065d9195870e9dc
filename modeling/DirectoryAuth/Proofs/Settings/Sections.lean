import DirectoryAuth.Proofs.Run
import DirectoryAuth.Proofs.Settings.Acceptance
import DirectoryAuth.Proofs.Settings.Lines
import DirectoryAuth.Settings.File

/-!
# Settings of sections

What becomes of an option depends on the section it is written in. The sections `ldap` and `ldap.x`
give settings below their names, and where two of them give the same name the later one prevails.
The options of the section `DEFAULT` belong to each of them that has none of the same name, although
it is neither of them itself. All other sections might as well not be there.
-/

namespace DirectoryAuth

open Text

variable {d d' : Document} {sections : List String} {has : String → String → String → Prop}
variable {name key value owner path : String} {scalar : Scalar} {cs : List Char}

/-! ## Options of sections -/

namespace Document

def Writes (d : Document) (owner key value : String) : Prop :=
  ∃ o ∈ d.options, o.owner = owner ∧ o.name = key ∧ o.value = value

/-- A section has what is written in it. It has what is written for all sections as well, where
nothing with the same name is written in it. -/
def Has (d : Document) (owner key value : String) : Prop :=
  d.Writes owner key value ∨
    d.Writes defaultSection key value ∧ ∀ other, ¬ d.Writes owner key other

def written (d : Document) (owner : String) : List (String × String) :=
  (d.options.filter (·.owner == owner)).map fun o => (o.name, o.value)

theorem mem_written : (key, value) ∈ d.written owner ↔ d.Writes owner key value := by
  simp [written, Writes, and_assoc]

/-- No option of a section is written twice. -/
theorem written_nodup (distinct : (d.options.map Layout.place).Nodup) (owner : String) :
    ((d.written owner).map (·.1)).Nodup := by
  have some : ((d.options.filter (·.owner == owner)).map Layout.place).Nodup :=
    distinct.sublist (List.filter_sublist.map _)
  have places : ((d.written owner).map (·.1)).map (owner, ·) =
      (d.options.filter (·.owner == owner)).map Layout.place := by
    rw [written, List.map_map, List.map_map]
    refine List.map_congr_left fun o member => ?_
    have same : o.owner = owner := by simpa using (List.mem_filter.mp member).2
    exact Prod.ext same.symm rfl
  exact List.Nodup.of_map (owner, ·) (places ▸ some)

theorem lookup_cons {α : Type} (first : String) (a : α) (given : List (String × α)) :
    ((first, a) :: given).lookup key = if key = first then some a else given.lookup key := by
  rw [List.lookup_cons]
  by_cases same : key = first
  · simp [same]
  · have apart : (key == first) = false := beq_eq_false_iff_ne.mpr same
    rw [apart, if_neg same]

/-- Where no name occurs twice, the search for a name comes upon all there is. -/
theorem lookup_eq_some_iff {α : Type} {given : List (String × α)}
    (distinct : (given.map (·.1)).Nodup) {a : α} :
    given.lookup key = some a ↔ (key, a) ∈ given := by
  induction given with
  | nil => simp
  | cons entry given ih =>
    obtain ⟨first, b⟩ := entry
    obtain ⟨absent, distinct⟩ := List.nodup_cons.mp distinct
    rw [lookup_cons, List.mem_cons, Prod.mk.injEq]
    by_cases same : key = first
    · subst same
      have others : (key, a) ∉ given := fun member => absent (List.mem_map.mpr ⟨_, member, rfl⟩)
      simp [others, eq_comm]
    · simp [same, ih distinct]

theorem lookup_written (distinct : (d.options.map Layout.place).Nodup) :
    (d.written owner).reverse.lookup key = some value ↔ d.Writes owner key value := by
  have turned : ((d.written owner).reverse.map (·.1)).Nodup := by
    rw [List.map_reverse, List.nodup_reverse]
    exact written_nodup distinct owner
  rw [lookup_eq_some_iff turned, List.mem_reverse, mem_written]

/-- The last option of a name is the one that the section has. -/
theorem lookup_optionsOf (distinct : (d.options.map Layout.place).Nodup) :
    (d.optionsOf owner).reverse.lookup key = some value ↔ d.Has owner key value := by
  have both : (d.optionsOf owner).reverse.lookup key =
      ((d.written owner).reverse.lookup key).or
        ((d.written defaultSection).reverse.lookup key) := by
    rw [← List.lookup_append, ← List.reverse_append]
    rfl
  rw [both, Option.or_eq_some_iff, lookup_written distinct, lookup_written distinct,
    Option.eq_none_iff_forall_ne_some, Has, and_comm (a := ∀ _, _)]
  simp only [ne_eq, lookup_written distinct]

end Document

namespace Settings

/-! ## The last value -/

/-- A name that is given a new value where it stands keeps no other one. -/
theorem lookup_replaced (entries : List (String × Scalar)) (name other : String) (scalar : Scalar) :
    (entries.map fun entry => if entry.1 == name then (name, scalar) else entry).lookup other =
      if other = name then (entries.lookup name).map fun _ => scalar else entries.lookup other := by
  induction entries with
  | nil => simp
  | cons entry entries ih =>
    obtain ⟨first, a⟩ := entry
    rw [List.map_cons]
    by_cases here : first = name
    · subst here
      rw [if_pos (beq_self_eq_true first), Document.lookup_cons, Document.lookup_cons,
        Document.lookup_cons, ih]
      split <;> simp
    · rw [if_neg (by simpa using here), Document.lookup_cons, Document.lookup_cons,
        Document.lookup_cons, ih, if_neg (Ne.symm here)]
      by_cases same : other = name
      · subst same
        rw [if_neg (Ne.symm here), if_pos rfl, if_pos rfl]
      · rw [if_neg same, if_neg same]

theorem get?_insert (s : Settings) (name other : String) (scalar : Scalar) :
    (s.insert name scalar).get? other = if other = name then some scalar else s.get? other := by
  obtain ⟨entries⟩ := s
  have known_iff : entries.any (·.1 == name) = (entries.lookup name).isSome := by
    rw [Bool.eq_iff_iff, List.lookup_isSome_iff, List.any_eq_true]
    exact exists_congr fun entry => by rw [BEq.comm]
  rw [insert, known_iff]
  cases found : entries.lookup name with
  | some a =>
    rw [Option.isSome_some, if_pos rfl, get?, lookup_replaced, found]
    rfl
  | none =>
    rw [Option.isSome_none, if_neg Bool.false_ne_true, get?, get?, List.lookup_append,
      Document.lookup_cons]
    split
    · next same => rw [same, found, Option.none_or]
    · exact Option.or_none

theorem get?_ofList (entries : List (String × Scalar)) (name : String) :
    (ofList entries).get? name = entries.reverse.lookup name := by
  have above (s : Settings) :
      (entries.foldl (fun s entry => s.insert entry.1 entry.2) s).get? name =
        (entries.reverse.lookup name).or (s.get? name) := by
    induction entries generalizing s with
    | nil => rfl
    | cons entry entries ih =>
      rw [List.foldl_cons, ih, get?_insert, List.reverse_cons, List.lookup_append, Option.or_assoc,
        Document.lookup_cons]
      congr 1
      split <;> rfl
  exact (above empty).trans Option.or_none

/-! ## Sections that settings are made of -/

/-- A section has the option of a setting, below its own name. -/
structure Gives (has : String → String → String → Prop) (owner name value : String) : Prop where
  kind : owner = "ldap" ∨ ∃ server, owner = "ldap." ++ server
  option : ∃ key, has owner key value ∧ name = owner ++ "." ++ key

/-- Some section has the option of a setting, and no later one has it as well. -/
def Prevails (has : String → String → String → Prop) (sections : List String)
    (name value : String) : Prop :=
  ∃ before owner after, sections = before ++ owner :: after ∧ Gives has owner name value ∧
    ∀ later ∈ after, ∀ other, ¬ Gives has later name other

theorem isSettingsSection_iff :
    isSettingsSection owner = true ↔ owner = "ldap" ∨ ∃ server, owner = "ldap." ++ server := by
  have root : Server.settingsRoot ++ "." = "ldap." := by decide
  rw [isSettingsSection, root, Bool.or_eq_true, beq_iff_eq, List.isPrefixOf_iff_prefix]
  refine or_congr Iff.rfl ⟨?_, ?_⟩
  · rintro ⟨server, whole⟩
    refine ⟨String.ofList server, String.toList_injective ?_⟩
    rw [String.toList_append, ← whole]
    exact congrArg _ String.toList_ofList.symm
  · rintro ⟨server, rfl⟩
    exact ⟨server.toList, (String.toList_append ..).symm⟩

/-- The name of a setting shows what its option is called. -/
theorem below_injective {key' : String} (same : owner ++ "." ++ key = owner ++ "." ++ key') :
    key = key' := by
  have whole := congrArg String.toList same
  simp only [String.toList_append] at whole
  exact String.toList_injective (List.append_cancel_left whole)

/-- The setting of the last section is its own; that of another one stands where the last section
has none. -/
theorem prevails_concat {last : String} :
    Prevails has (sections ++ [last]) name value ↔
      Gives has last name value ∨
        (∀ other, ¬ Gives has last name other) ∧ Prevails has sections name value := by
  constructor
  · rintro ⟨before, owner, after, whole, gives, none⟩
    rcases List.eq_nil_or_concat' after with rfl | ⟨after, last', rfl⟩
    · obtain ⟨-, same⟩ := List.append_inj' whole rfl
      cases same
      exact .inl gives
    · rw [← List.cons_append, ← List.append_assoc] at whole
      obtain ⟨rfl, same⟩ := List.append_inj' whole rfl
      cases same
      obtain ⟨earlier, later⟩ := List.forall_mem_append.mp none
      exact .inr ⟨later last (List.mem_singleton_self _), before, owner, after, rfl, gives, earlier⟩
  · rintro (gives | ⟨none, before, owner, after, rfl, gives, earlier⟩)
    · exact ⟨sections, last, [], rfl, gives, List.forall_mem_nil _⟩
    · refine ⟨before, owner, after ++ [last], by simp, gives, ?_⟩
      exact List.forall_mem_append.mpr ⟨earlier, List.forall_mem_singleton.mpr none⟩

def entriesOf (d : Document) (owner : String) : List (String × Scalar) :=
  if isSettingsSection owner then
    (d.optionsOf owner).map fun (name, value) => (owner ++ "." ++ name, .text value)
  else []

theorem ofDocument_eq (d : Document) : ofDocument d = ofList (d.sections.flatMap (entriesOf d)) := by
  rw [ofDocument]
  congr 1
  induction d.sections with
  | nil => rfl
  | cons owner sections ih =>
    rw [List.filter_cons, List.flatMap_cons, entriesOf]
    split
    · rw [List.flatMap_cons, ih]
    · rw [ih, List.nil_append]

/-- The last option of a section is found below the name of the section. -/
theorem lookup_below (options : List (String × String)) :
    (options.map fun (key, value) => (owner ++ "." ++ key, Scalar.text value)).lookup name =
        some scalar ↔
      ∃ value, scalar = .text value ∧
        ∃ key, options.lookup key = some value ∧ name = owner ++ "." ++ key := by
  induction options with
  | nil => simp
  | cons option options ih =>
    obtain ⟨first, value⟩ := option
    rw [List.map_cons, Document.lookup_cons]
    split
    · next same =>
      subst same
      constructor
      · intro found
        exact ⟨value, (Option.some.inj found).symm, first, by simp, rfl⟩
      · rintro ⟨other, rfl, key, found, same⟩
        obtain rfl := below_injective same
        rw [Document.lookup_cons, if_pos rfl] at found
        rw [Option.some.inj found]
    · next apart =>
      rw [ih]
      refine exists_congr fun other => and_congr_right fun _ => exists_congr fun key =>
        and_congr_left fun same => ?_
      rw [Document.lookup_cons, if_neg]
      rintro rfl
      exact apart same

theorem lookup_entriesOf (distinct : (d.options.map Document.Layout.place).Nodup) :
    (entriesOf d owner).reverse.lookup name = some scalar ↔
      ∃ value, scalar = .text value ∧ Gives d.Has owner name value := by
  rw [entriesOf]
  split
  · next kind =>
    rw [← List.map_reverse, lookup_below]
    simp only [Document.lookup_optionsOf distinct]
    refine exists_congr fun value => and_congr_right fun _ => ?_
    exact ⟨fun option => ⟨isSettingsSection_iff.mp kind, option⟩, Gives.option⟩
  · next other =>
    refine iff_of_false nofun ?_
    rintro ⟨value, -, gives⟩
    exact other (isSettingsSection_iff.mpr gives.kind)

/-- The settings of a document are those that prevail in it. -/
theorem get?_ofDocument (distinct : (d.options.map Document.Layout.place).Nodup) :
    (ofDocument d).get? name = some scalar ↔
      ∃ value, scalar = .text value ∧ Prevails d.Has d.sections name value := by
  rw [ofDocument_eq, get?_ofList]
  induction d.sections using List.reverseRecOn generalizing scalar with
  | nil => simp [Prevails]
  | append_singleton sections last ih =>
    have none : (entriesOf d last).reverse.lookup name = none ↔
        ∀ other, ¬ Gives d.Has last name other := by
      simp only [Option.eq_none_iff_forall_ne_some, ne_eq, lookup_entriesOf distinct]
      exact ⟨fun none other gives => none _ ⟨other, rfl, gives⟩,
        fun none _ ⟨other, _, gives⟩ => none other gives⟩
    rw [List.flatMap_append, List.reverse_append, List.lookup_append, List.flatMap_singleton,
      Option.or_eq_some_iff, lookup_entriesOf distinct, none, ih]
    simp only [prevails_concat, and_or_left, exists_or]
    refine or_congr Iff.rfl ⟨?_, ?_⟩
    · rintro ⟨none, value, same, prevails⟩
      exact ⟨value, same, none, prevails⟩
    · rintro ⟨value, same, none, prevails⟩
      exact ⟨none, value, same, prevails⟩

/-- The sections that settings are made of and what is written in them and for all of them are all
that counts. -/
theorem ofDocument_congr
    (sections : d.sections.filter isSettingsSection = d'.sections.filter isSettingsSection)
    (written : ∀ owner, isSettingsSection owner = true ∨ owner = Document.defaultSection →
      d.written owner = d'.written owner) : ofDocument d = ofDocument d' := by
  rw [ofDocument, ofDocument, sections]
  congr 1
  refine List.flatMap_congr fun owner member => ?_
  have own := written owner (.inl (List.mem_filter.mp member).2)
  have shared := written Document.defaultSection (.inr rfl)
  exact congrArg _ (congrArg₂ (· ++ ·) shared own)

/-! ## Files -/

open Document (Block Heading Layout Headed)

/-- The bytes are those of a text that is laid out so. -/
def IsLaidOut (bytes : List UInt8) (l : Layout) : Prop :=
  l.Proper ∧ ∃ cs, bytes = utf8 cs ∧ Lines.split cs = l.lines

theorem isLaidOut_utf8 {l : Layout} :
    IsLaidOut (utf8 cs) l ↔ l.Proper ∧ Lines.split cs = l.lines := by
  refine and_congr_right fun _ => ⟨?_, fun lines => ⟨cs, rfl, lines⟩⟩
  rintro ⟨cs', same, lines⟩
  have told := Lines.ofBytes_eq_none.mpr ⟨cs, rfl, rfl⟩
  have again := Lines.ofBytes_eq_none.mpr ⟨cs', same, rfl⟩
  rw [← lines]
  exact (Prod.mk.inj (told.symm.trans again)).1

theorem ofBytes_utf8 (path : String) (cs : List Char) :
    ofBytes path (utf8 cs) = (Document.read path (Lines.split cs) none).map ofDocument := by
  rw [ofBytes, Lines.ofBytes_eq_none.mpr ⟨cs, rfl, rfl⟩]

/-- A file is accepted where its text is laid out properly. -/
theorem ofBytes_eq_ok_iff {bytes : List UInt8} {s : Settings} :
    ofBytes path bytes = .ok s ↔ ∃ l, IsLaidOut bytes l ∧ ofDocument l.document = s := by
  by_cases text : ∃ cs, bytes = utf8 cs
  · obtain ⟨cs, rfl⟩ := text
    rw [ofBytes_utf8]
    simp only [isLaidOut_utf8]
    constructor
    · intro accepted
      cases read : Document.read path (Lines.split cs) none with
      | error e =>
        rw [read] at accepted
        cases accepted
      | ok d =>
        rw [read] at accepted
        obtain ⟨l, proper, lines, rfl⟩ := Document.read_eq_ok_iff.mp read
        exact ⟨l, ⟨proper, lines.symm⟩, Except.ok.inj accepted⟩
    · rintro ⟨l, ⟨proper, lines⟩, rfl⟩
      rw [Document.read_eq_ok_iff.mpr ⟨l, proper, lines.symm, rfl⟩]
      rfl
  · refine iff_of_false (fun accepted => ?_) fun ⟨l, ⟨_, cs, same, _⟩, _⟩ => text ⟨cs, same⟩
    rw [ofBytes] at accepted
    rcases told : Lines.ofBytes bytes with ⟨lines, malformed⟩
    cases malformed with
    | none =>
      obtain ⟨cs, same, -⟩ := Lines.ofBytes_eq_none.mp told
      exact text ⟨cs, same⟩
    | some part =>
      rw [told] at accepted
      dsimp only at accepted
      rw [Document.read] at accepted
      cases read : (Document.Reader.start path).readFrom 1 lines <;>
        rw [read] at accepted <;> cases accepted

variable {σ : Type} {network : Network σ} {world : World σ}

def loaded (path : String) : Except Fault (List UInt8) → Except Failure Settings
  | .ok bytes => (ofBytes path bytes).mapError .file
  | .error fault =>
    .error (if fault.isSystem then .setting (.unreadableFile path) else .outside fault)

/-- Loading a file is one call, and its answer is all that counts. -/
theorem run_load (path : String) :
    (load path).run network world =
      (loaded path (network.answer (.readFile path) world.network).1,
        world.called network (.readFile path)) := by
  rw [load, Operation.run_attempt_bind, Operation.run_perform]
  rcases (network.answer (.readFile path) world.network).1 with fault | bytes <;> rfl

theorem load_eq_ok {bytes : List UInt8} {s : Settings}
    (answered : (network.answer (.readFile path) world.network).1 = .ok bytes) :
    ((load path).run network world).1 = .ok s ↔ ofBytes path bytes = .ok s := by
  rw [run_load, answered]
  change (ofBytes path bytes).mapError Failure.file = _ ↔ _
  cases ofBytes path bytes with
  | ok other => simp [Except.mapError]
  | error e => exact iff_of_false nofun nofun

end Settings

/-- A network that knows of files alone, and answers for each of them in the same way. -/
def Rehearsal.onlyFile (answer : Except Fault (List UInt8)) : Network Unit where
  answer
    | .readFile _, state => (answer, state)
    | _, state => (.error (.system "unknown service"), state)
  bound _ := 0

end DirectoryAuth
