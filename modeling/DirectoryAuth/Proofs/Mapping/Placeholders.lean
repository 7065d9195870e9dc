import DirectoryAuth.Groups
import DirectoryAuth.Proofs.Filter.Placeholders
import DirectoryAuth.Proofs.Network.Rehearsal
import DirectoryAuth.Proofs.Search.Sending
import DirectoryAuth.Proofs.Text.Blanks
import Mathlib.Data.List.Induction

/-!
# Placeholders in requests

The placeholders of a request are names: of the member or its attributes in a request for groups,
and of the login in a request for users. A mapping has them numbered, each name once however it is
spelled, and keeps the names in the order of their numbers. A filter that is made of that is the
request as it was configured, with the value of each name in its place.
-/

namespace DirectoryAuth

open Operation Template Text World

variable {σ : Type}

/-! ## Named markers -/

namespace GroupMapping

/-- A name in braces: a basic letter and more characters of a name. -/
def IsNamed (name : String) (marker : List Char) : Prop :=
  ∃ first rest, isBasicLetter first = true ∧ (∀ c ∈ rest, isNameChar c = true) ∧
    name = String.ofList (first :: rest) ∧ marker = '{' :: first :: (rest ++ ['}'])

theorem not_isNameChar_open : ¬ isNameChar '{' = true := by decide +kernel

theorem not_isNameChar_close : ¬ isNameChar '}' = true := by decide +kernel

theorem finds_readName : Finds readName IsNamed where
  braced := by
    rintro name _ ⟨first, rest, letter, plain, -, rfl⟩
    refine ⟨_, rfl, fun opening => ?_⟩
    rw [List.mem_cons, List.mem_append, List.mem_singleton] at opening
    rcases opening with rfl | inside | last
    · exact absurd letter (by decide)
    · exact not_isNameChar_open (plain _ inside)
    · exact absurd last (by decide)
  sound := by
    intro cs name length found
    cases cs with
    | nil => cases found
    | cons first cs =>
      rw [readName] at found
      split at found
      · rename_i behind letter whole
        cases found
        have both : cs.takeWhile isNameChar ++ '}' :: behind = cs := by
          rw [← whole, List.takeWhile_append_dropWhile]
        have plain : ∀ c ∈ cs.takeWhile isNameChar, isNameChar c = true :=
          List.all_eq_true.mp List.all_takeWhile
        generalize cs.takeWhile isNameChar = rest at both plain
        subst both
        exact ⟨_, ⟨first, rest, letter, plain, rfl, rfl⟩, by simp⟩
      · cases found
  complete := by
    rintro cs name _ behind ⟨first, rest, letter, plain, rfl, rfl⟩ whole
    obtain rfl : cs = first :: (rest ++ '}' :: behind) := by simpa using whole
    have front : (rest ++ '}' :: behind).takeWhile isNameChar = rest := by
      rw [List.takeWhile_append_of_pos plain, List.takeWhile_cons_of_neg not_isNameChar_close]
      exact List.append_nil _
    have back : (rest ++ '}' :: behind).dropWhile isNameChar = '}' :: behind := by
      rw [List.dropWhile_append_of_pos plain, List.dropWhile_cons_of_neg not_isNameChar_close]
    rw [readName, front, back, letter]
    exact ⟨_, rfl, by simp⟩

end GroupMapping

namespace UserMapping

def IsLogin (_ : Unit) (marker : List Char) : Prop := marker = "\x7blogin\x7d".toList

theorem finds_readLogin : Finds readLogin IsLogin where
  braced := by
    rintro _ _ rfl
    exact ⟨"login\x7d".toList, rfl, by decide⟩
  sound := by
    intro cs _ length found
    rw [readLogin] at found
    split at found
    · rename_i begins
      cases found
      obtain ⟨rest, rfl⟩ := List.isPrefixOf_iff_prefix.mp begins
      exact ⟨_, rfl, rfl⟩
    · cases found
  complete := by
    rintro cs _ _ rest rfl whole
    obtain rfl : cs = "login\x7d".toList ++ rest := (List.cons.inj whole).2
    exact ⟨6, rfl, rfl⟩

end UserMapping

/-! ## Names told apart -/

namespace GroupMapping

theorem distinctNames_concat (names : List String) (name : String) :
    distinctNames (names ++ [name]) =
      if (distinctNames names).any (lower · == lower name) then distinctNames names
      else distinctNames names ++ [name] := by
  rw [distinctNames, List.foldl_append]
  rfl

/-- Names are kept in their first spelling, and every name is there in some spelling. -/
theorem distinctNames_spells (names : List String) :
    (∀ name ∈ distinctNames names, name ∈ names) ∧
      ∀ name ∈ names, ∃ other ∈ distinctNames names, lower other = lower name := by
  induction names using List.reverseRecOn with
  | nil => exact ⟨fun _ none => (nomatch none), fun _ none => (nomatch none)⟩
  | append_singleton names last ih =>
    obtain ⟨kept, spelled⟩ := ih
    rw [distinctNames_concat]
    by_cases known : (distinctNames names).any (lower · == lower last) = true
    · rw [if_pos known]
      refine ⟨fun name mem => List.mem_append_left _ (kept name mem), fun name mem => ?_⟩
      rcases List.mem_append.mp mem with before | here
      · exact spelled name before
      · obtain ⟨other, mem, same⟩ := List.any_eq_true.mp known
        rw [List.mem_singleton.mp here]
        exact ⟨other, mem, eq_of_beq same⟩
    · rw [if_neg known]
      constructor
      · intro name mem
        exact List.mem_append.mpr ((List.mem_append.mp mem).imp_left (kept name))
      · intro name mem
        rcases List.mem_append.mp mem with before | here
        · obtain ⟨other, mem, same⟩ := spelled name before
          exact ⟨other, List.mem_append_left _ mem, same⟩
        · rw [List.mem_singleton.mp here]
          exact ⟨last, by simp, rfl⟩

theorem numberOf_distinctNames {names : List String} {name : String} (mem : name ∈ names) :
    ∃ inside : numberOf (distinctNames names) name < (distinctNames names).length,
      lower (distinctNames names)[numberOf (distinctNames names) name] = lower name := by
  obtain ⟨other, found, same⟩ := (distinctNames_spells names).2 name mem
  have inside : numberOf (distinctNames names) name < (distinctNames names).length :=
    List.findIdx_lt_length_of_exists ⟨other, found, by simpa using same⟩
  exact ⟨inside, eq_of_beq (List.findIdx_getElem (w := inside))⟩

/-! ## Names without blanks -/

theorem isBlank_of_isNameChar {c : Char} (named : isNameChar c = true) : isBlank c = false := by
  have apart : ∀ blank ∈ blankRanges, ∀ word ∈ wordRanges,
      blank.2 < word.1 ∨ word.2 < blank.1 := by
    decide +kernel
  rw [isNameChar, Bool.or_eq_true, Bool.or_eq_true] at named
  rcases named with (word | dot) | hyphen
  · obtain ⟨range, inside, low, high⟩ := inRanges_iff.mp word
    by_contra blank
    rw [Bool.not_eq_false] at blank
    obtain ⟨other, found, low', high'⟩ := inRanges_iff.mp blank
    have := apart other found range inside
    omega
  · rw [eq_of_beq dot]
    decide
  · rw [eq_of_beq hyphen]
    decide

theorem isNameChar_of_isBasicLetter {c : Char} (letter : isBasicLetter c = true) :
    isNameChar c = true := by
  have word : isWordChar c = true := by
    rw [isBasicLetter, Bool.or_eq_true, Bool.and_eq_true, Bool.and_eq_true, decide_eq_true_eq,
      decide_eq_true_eq, decide_eq_true_eq, decide_eq_true_eq] at letter
    refine inRanges_iff.mpr ?_
    rcases letter with ⟨low, high⟩ | ⟨low, high⟩
    · exact ⟨(0x61, 0x7a), by decide +kernel, low, high⟩
    · exact ⟨(0x41, 0x5a), by decide +kernel, low, high⟩
  rw [isNameChar, word]
  rfl

/-- No part of a name in braces is blank, so that its spellings differ in letter case alone. -/
theorem key_of_isNamed {name : String} {marker : List Char} (named : IsNamed name marker) :
    Attributes.key name = lower name := by
  obtain ⟨first, rest, letter, plain, rfl, -⟩ := named
  have filled : ∀ c ∈ first :: rest, isBlank c = false := by
    refine List.forall_mem_cons.mpr ⟨?_, fun c member => isBlank_of_isNameChar (plain c member)⟩
    exact isBlank_of_isNameChar (isNameChar_of_isBasicLetter letter)
  rw [Attributes.key, trim, String.toList_ofList, trimChars_of_plain filled]

end GroupMapping

/-! ## Values of names -/

namespace Groups

open GroupMapping

/-- What a name in a request stands for: the name of the member, or the first value of one of its
attributes. -/
def valueOf (member : Entry) (name : String) : Option String :=
  if lower name = "dn" then some member.name else member.first? name

theorem parameter_eq (member : Entry) (name : String) :
    parameter member name = (valueOf member name).elim (.error name) .ok := by
  rw [parameter, valueOf, isMemberName]
  by_cases own : lower name = "dn"
  · rw [if_pos (beq_iff_eq.mpr own), if_pos own, Option.elim_some]
  · rw [if_neg (by simpa using own), if_neg own]
    cases member.first? name <;> rfl

theorem valueOf_congr {name other : String} {marker marker' : List Char}
    (named : IsNamed name marker) (named' : IsNamed other marker')
    (same : lower name = lower other) (member : Entry) :
    valueOf member name = valueOf member other := by
  have key : Attributes.key name = Attributes.key other := by
    rw [key_of_isNamed named, key_of_isNamed named', same]
  rw [valueOf, valueOf, same, Entry.first?, Entry.first?, Entry.values, Entry.values,
    Attributes.get?, Attributes.get?, key]

variable {template : String} {member : Entry}

theorem mapM_parameter_eq_ok {names : List String}
    (known : ∀ name ∈ names, (valueOf member name).isSome = true) :
    names.mapM (parameter member) = .ok (names.map fun name => (valueOf member name).getD "") := by
  induction names with
  | nil => rfl
  | cons name names ih =>
    obtain ⟨some, known⟩ := List.forall_mem_cons.mp known
    obtain ⟨value, given⟩ := Option.isSome_iff_exists.mp some
    rw [List.mapM_cons, parameter_eq, given, ih known, List.map_cons, given]
    rfl

theorem mapM_parameter_eq_error {names : List String} {name : String} (mem : name ∈ names)
    (unknown : valueOf member name = none) :
    ∃ other, names.mapM (parameter member) = .error other := by
  induction names with
  | nil => nomatch mem
  | cons first names ih =>
    rw [List.mapM_cons, parameter_eq]
    cases given : valueOf member first with
    | none => exact ⟨first, rfl⟩
    | some value =>
      have later : name ∈ names := by
        refine (List.mem_cons.mp mem).resolve_left ?_
        rintro rfl
        rw [given] at unknown
        cases unknown
      obtain ⟨other, failed⟩ := ih later
      rw [failed]
      exact ⟨other, rfl⟩

def Valued (template : String) (member : Entry) : Prop :=
  ∀ name marker, IsNamed name marker → marker <:+: template.toList →
    (valueOf member name).isSome = true

theorem valued_iff : Valued template member ↔
    ∀ name ∈ (numberedRequest template).2, (valueOf member name).isSome = true := by
  constructor
  · intro valued name mem
    have found := (distinctNames_spells _).1 name mem
    obtain ⟨marker, named, within⟩ := finds_readName.mem_markers_iff.mp found
    exact valued name marker named within
  · intro known name marker named within
    have found := finds_readName.mem_markers_iff.mpr ⟨marker, named, within⟩
    obtain ⟨other, mem, same⟩ := (distinctNames_spells _).2 name found
    obtain ⟨marker', named', -⟩ :=
      finds_readName.mem_markers_iff.mp ((distinctNames_spells _).1 other mem)
    rw [← valueOf_congr named' named same]
    exact known other mem

instance (template : String) (member : Entry) : Decidable (Valued template member) :=
  decidable_of_iff _ valued_iff.symm

theorem missing_of_not_valued (unvalued : ¬ Valued template member) :
    ∃ name, (numberedRequest template).2.mapM (parameter member) = .error name := by
  rw [valued_iff] at unvalued
  simp only [not_forall] at unvalued
  obtain ⟨name, mem, unknown⟩ := unvalued
  exact mapM_parameter_eq_error mem (Option.not_isSome_iff_eq_none.mp unknown)

/-- A placeholder is worth what the first of its spellings is worth, whose value is listed at its
number. -/
theorem value_of_placeholder (valued : Valued template member) {name : String}
    (mem : name ∈ markers (pieces readName template.toList)) :
    ∃ value, valueOf member name = some value ∧
      ((numberedRequest template).2.map fun name => (valueOf member name).getD "")[
        numberOf (numberedRequest template).2 name]? = some value := by
  obtain ⟨inside, same⟩ := numberOf_distinctNames mem
  have kept := (distinctNames_spells _).1 _ (List.getElem_mem inside)
  obtain ⟨marker, named, within⟩ := finds_readName.mem_markers_iff.mp mem
  obtain ⟨_, named', -⟩ := finds_readName.mem_markers_iff.mp kept
  obtain ⟨value, given⟩ := Option.isSome_iff_exists.mp (valued name marker named within)
  have listed : (numberedRequest template).2[numberOf (numberedRequest template).2 name]? =
      some _ := List.getElem?_eq_getElem inside
  refine ⟨value, given, ?_⟩
  rw [← valueOf_congr named' named same member] at given
  rw [List.getElem?_map, listed, Option.map_some, given]
  rfl

/-- The filter for a member is the template with the value of each name in its place. -/
theorem format_numberedRequest (bare : Filter.Unnumbered template)
    (few : (numberedRequest template).2.length ≤ Nat.pow 10 Decimal.digitLimit)
    (valued : Valued template member) :
    ∃ values filter, (numberedRequest template).2.mapM (parameter member) = .ok values ∧
      Filter.format (numberedRequest template).1 values = .ok filter ∧
      Filter.IsExpansion IsNamed (valueOf member) template filter := by
  have known := mapM_parameter_eq_ok (valued_iff.mp valued)
  obtain ⟨filter, formatted, expansion⟩ := Filter.exists_expansion finds_readName _ bare
    (fun _ mem => value_of_placeholder valued mem) (by rwa [List.length_map])
  exact ⟨_, filter, known, formatted, expansion⟩

theorem run_parameters_of_ok {names values : List String}
    (given : names.mapM (parameter member) = .ok values) (network : Network σ) (world : World σ) :
    (parameters names member).run network world = (.ok (some values), world) := by
  rw [parameters, given]
  rfl

/-- What is missing is logged. -/
theorem run_parameters_of_error {names : List String} {name : String}
    (failed : names.mapM (parameter member) = .error name) (network : Network σ)
    (world : World σ) :
    ∃ record, (parameters names member).run network world =
      (.ok none, world.noted (.logged record)) := by
  rw [parameters, failed]
  exact ⟨_, rfl⟩

/-- A search for a member of which some value is missing finds nothing, without asking. -/
theorem listing_unasked {search : MemberSearch} {name : String}
    (failed : search.names.mapM (parameter member) = .error name) (network : Network σ)
    (world : World σ) (c : Connector) (m : GroupMapping) (session : Session) :
    ((listing c m search session member).run network world).1 = .ok [] ∧
      Quiet world ((listing c m search session member).run network world).2 := by
  obtain ⟨record, ran⟩ := run_parameters_of_error failed network world
  have whole : (listing c m search session member).run network world =
      (.ok [], world.noted (.logged record)) := by
    rw [listing, run_bind_of_ok ran, run_pure]
  rw [whole]
  exact ⟨rfl, .noted world rfl⟩

end Groups

/-! ## Requests for users -/

namespace UserMapping

/-- The request for users as it is configured: made from the older settings, or a setting of its
own. -/
def configuredRequest (v : View) : String :=
  (olderRequest? v).getD (v.text "user.request" (requestFor defaultClass defaultLoginAttribute))

theorem ofView_request {v : View} {users : UserMapping} (given : ofView v = .ok users) :
    users.request = numberedRequest (configuredRequest v) := by
  rw [ofView] at given
  split at given
  · cases given
  · cases given
    rfl

def ofLogin (login : String) (_ : Unit) : Option String := some login

variable {template : String}

theorem format_numberedRequest (bare : Filter.Unnumbered template) (login : String) :
    ∃ filter, Filter.format (numberedRequest template) [login] = .ok filter ∧
      Filter.IsExpansion IsLogin (ofLogin login) template filter :=
  Filter.exists_expansion finds_readLogin (fun _ => 0) bare (fun _ _ => ⟨login, rfl, rfl⟩)
    (Filter.one_le_pow_ten _)

/-- The filter tells the login apart from any other. -/
theorem format_numberedRequest_injective (bare : Filter.Unnumbered template)
    (some : "\x7blogin\x7d".toList <:+: template.toList) :
    Function.Injective fun login => Filter.format (numberedRequest template) [login] := by
  intro login other same
  have formatted (login : String) : Filter.format (numberedRequest template) [login] =
      .ok (String.ofList (expand (fun _ => Filter.escape login.toList)
        (pieces readLogin template.toList))) :=
    Filter.format_numberedText (fun _ => 0) bare (fun _ _ => Nat.one_pos)
      (Filter.one_le_pow_ten _)
  have marked : () ∈ markers (pieces readLogin template.toList) :=
    finds_readLogin.mem_markers_iff.mpr ⟨_, rfl, some⟩
  dsimp only at same
  rw [formatted, formatted] at same
  exact Filter.escape_injective
    (expand_injective (List.ne_nil_of_mem marked) (String.ofList_injective (Except.ok.inj same)))

end UserMapping

/-! ## Both -/

/-- Numbering keeps the meaning of requests without numbered markers of their own. Where a member
has a value for each placeholder of a request for groups, the filter is the request with these
values, escaped, in the places of the placeholders, and nothing else is; where it has not, nothing
is asked of the network. The different placeholders may be as many as there are numbers that a
filter template can hold. The filter for a login is the request for users with the login, escaped,
in the same way, and it tells logins apart where the request has a place for one. -/
theorem placeholders_keep_meaning (network : Network σ) (world : World σ) :
    (∀ (template : String) (member : Entry), Filter.Unnumbered template →
      let numbered := GroupMapping.numberedRequest template
      let values := (Groups.parameters numbered.2 member).run network world
      (Groups.Valued template member → numbered.2.length ≤ Nat.pow 10 Decimal.digitLimit →
        ∃ given filter, values.1 = .ok (some given) ∧
          Filter.format numbered.1 given = .ok filter ∧
          Filter.IsExpansion GroupMapping.IsNamed (Groups.valueOf member) template filter) ∧
      (¬ Groups.Valued template member → values.1 = .ok none ∧
        ∀ (c : Connector) (m : GroupMapping) (base : String) (session : Session),
          let search : MemberSearch := ⟨base, numbered.1, numbered.2⟩
          let ran := (Groups.listing c m search session member).run network world
          ran.1 = .ok [] ∧ Quiet world ran.2)) ∧
    ∀ (v : View) (users : UserMapping), UserMapping.ofView v = .ok users →
      let template := UserMapping.configuredRequest v
      Filter.Unnumbered template → ∀ c : Connector, c.server.users = users →
        ∀ attributes : List String,
          (∀ login, ∃ filter, (Lookup.request c login attributes).filter = .ok filter ∧
            Filter.IsExpansion UserMapping.IsLogin (UserMapping.ofLogin login) template filter) ∧
          ("\x7blogin\x7d".toList <:+: template.toList →
            Function.Injective fun login => (Lookup.request c login attributes).filter) := by
  constructor
  · intro template member bare
    refine ⟨fun valued few => ?_, fun unvalued => ?_⟩
    · obtain ⟨values, filter, given, formatted, expansion⟩ :=
        Groups.format_numberedRequest bare few valued
      have ran := Groups.run_parameters_of_ok given network world
      exact ⟨values, filter, congrArg Prod.fst ran, formatted, expansion⟩
    · obtain ⟨name, failed⟩ := Groups.missing_of_not_valued unvalued
      obtain ⟨record, ran⟩ := Groups.run_parameters_of_error failed network world
      exact ⟨congrArg Prod.fst ran,
        fun c m base session => Groups.listing_unasked failed network world c m session⟩
  · rintro v users given template bare c rfl attributes
    have filter (login : String) : (Lookup.request c login attributes).filter =
        Filter.format (UserMapping.numberedRequest (UserMapping.configuredRequest v)) [login] := by
      rw [← UserMapping.ofView_request given]
      rfl
    simp only [filter]
    exact ⟨UserMapping.format_numberedRequest bare,
      UserMapping.format_numberedRequest_injective bare⟩

/-- Placeholders that differ in letter case only, one within a second pair of braces, with values
that need to be escaped; a member without one of them; and a request for users with two places for
the login. -/
theorem placeholders_keep_meaning_repeated :
    let template := "(|(memberUid=\x7buid\x7d)(x=\x7b\x7bDN\x7d\x7d)(y=\x7bUID\x7d\x7bdn\x7d))"
    let member : Entry := ⟨"cn=j*,dc=x", .ofList [("Uid", ["j(d)", "k"])]⟩
    let stranger : Entry := ⟨"cn=k,dc=x", .empty⟩
    let numbered := GroupMapping.numberedRequest template
    let ran (m : Entry) :=
      (Groups.parameters numbered.2 m).run Script.network (.start Script.empty)
    let v : View := ⟨.ofList [("ldap.user.baseDn", .text "dc=x"),
      ("ldap.user.request", .text "(|(uid=\x7blogin\x7d)(mail=\x7blogin\x7d))")], "ldap"⟩
    let request := UserMapping.configuredRequest v
    ∃ users, Filter.Unnumbered template ∧ Groups.Valued template member ∧
      numbered.2.length ≤ Nat.pow 10 Decimal.digitLimit ∧ ¬ Groups.Valued template stranger ∧
      UserMapping.ofView v = .ok users ∧ Filter.Unnumbered request ∧
      "\x7blogin\x7d".toList <:+: request.toList ∧
      (∃ given filter, (ran member).1 = .ok (some given) ∧
        Filter.format numbered.1 given = .ok filter ∧
        Filter.IsExpansion GroupMapping.IsNamed (Groups.valueOf member) template filter) ∧
      (ran stranger).1 = .ok none ∧
      let c : Connector := ⟨{ Rehearsal.server .simple .none none with users := users }⟩
      (∃ filter, (Lookup.request c "j*" []).filter = .ok filter ∧
        Filter.IsExpansion UserMapping.IsLogin (UserMapping.ofLogin "j*") request filter) ∧
      Function.Injective fun login => (Lookup.request c login []).filter := by
  intro template member stranger numbered ran v request
  have bare : Filter.Unnumbered template := by decide +kernel
  have valued : Groups.Valued template member := by decide +kernel
  have few : numbered.2.length ≤ Nat.pow 10 Decimal.digitLimit := by decide +kernel
  have unvalued : ¬ Groups.Valued template stranger := by decide +kernel
  have mapped : (UserMapping.ofView v).toOption.isSome = true := by decide +kernel
  obtain ⟨users, some⟩ := Option.isSome_iff_exists.mp mapped
  have given : UserMapping.ofView v = .ok users := eq_ok_of_toOption some
  have bare' : Filter.Unnumbered request := by decide +kernel
  have within : "\x7blogin\x7d".toList <:+: request.toList := by decide +kernel
  obtain ⟨groups, logins⟩ := placeholders_keep_meaning Script.network (.start Script.empty)
  let c : Connector := ⟨{ Rehearsal.server .simple .none none with users := users }⟩
  obtain ⟨filters, apart⟩ := logins v users given bare' c rfl []
  exact ⟨users, bare, valued, few, unvalued, given, bare', within,
    (groups template member bare).1 valued few, ((groups template stranger bare).2 unvalued).1,
    filters "j*", apart within⟩

end DirectoryAuth
