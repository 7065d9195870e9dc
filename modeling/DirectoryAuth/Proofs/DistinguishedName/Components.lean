import DirectoryAuth.Proofs.DistinguishedName.Writing

/-!
# First components

An entry is named by one of its attributes in front of the name of its parent. A name has no
components at all where one of them is not valid, so that what is read of the first one depends on
all others. It is told here from the component and the parent.
-/

namespace DirectoryAuth.DistinguishedName

open Text

/-! ## Places -/

/-- The character stands at a place of the text, with no backslash that escapes it. -/
def Free (c : Char) (cs : List Char) (p : Nat) : Prop :=
  cs[p]? = some c ∧ (unescapedFrom false cs)[p]? = some true

namespace Whole

variable {a b : List Char} {c : Char} {p : Nat}

theorem free_left (whole : Whole a) (inside : p < a.length) : Free c (a ++ b) p ↔ Free c a p := by
  rw [Free, Free, whole.flags, List.getElem?_append_left inside,
    List.getElem?_append_left (by rwa [length_unescapedFrom])]

theorem free_right (whole : Whole a) (p : Nat) : Free c (a ++ b) (a.length + p) ↔ Free c b p := by
  rw [Free, Free, whole.flags, List.getElem?_append_right (Nat.le_add_right _ _),
    List.getElem?_append_right (by rw [length_unescapedFrom]; omega), length_unescapedFrom,
    Nat.add_sub_cancel_left]

theorem not_free (whole : Whole a) (cut : c = ',' ∨ c = '+') : ¬ Free c a p := by
  rintro ⟨there, free⟩
  obtain ⟨comma, plus⟩ := whole.uncut c
    (List.mem_of_getElem? (List.getElem?_zip_eq_some.mpr ⟨there, free⟩))
  exact cut.elim comma plus

end Whole

theorem free_zero (c : Char) (cs : List Char) : Free c (c :: cs) 0 := ⟨rfl, rfl⟩

theorem free_succ {c d : Char} (slash : d ≠ '\\') (cs : List Char) (p : Nat) :
    Free c (d :: cs) (p + 1) ↔ Free c cs p := by
  have even : (d == '\\' && !false) = false := by simpa using slash
  rw [Free, Free, unescapedFrom, even, List.getElem?_cons_succ, List.getElem?_cons_succ]

theorem separable_eq {c : Char} (slash : c ≠ '\\') (cs : List Char) :
    separable (c :: cs) = false :: unescapedFrom false cs := by
  cases cs with
  | nil => rfl
  | cons d cs => simp [separable, unescapedFrom, slash]

theorem mem_places_iff {separator : Char} {cs : List Char} {p : Nat} :
    p ∈ places separator cs ↔ cs[p]? = some separator ∧ (separable cs)[p]? = some true := by
  rw [← List.getElem?_zip_eq_some (z := (separator, true)), places]
  simp only [List.mem_map, List.mem_filter, Prod.exists, List.mem_zipIdx_iff_getElem?]
  constructor
  · rintro ⟨c, free, q, ⟨there, same⟩, rfl⟩
    simp only [Bool.and_eq_true, beq_iff_eq] at same
    rw [there, same.1, same.2]
  · intro there
    exact ⟨separator, true, p, ⟨there, by simp⟩, rfl⟩

/-- Where no backslash stands at the front of a text, separators count exactly where they are free;
only the first character never is one. -/
theorem mem_places_iff_free {c separator : Char} (slash : c ≠ '\\') {cs : List Char} {p : Nat} :
    p ∈ places separator (c :: cs) ↔ 0 < p ∧ Free separator (c :: cs) p := by
  rw [mem_places_iff, separable_eq slash]
  cases p with
  | zero => simp
  | succ p =>
    rw [free_succ slash]
    simp [Free]

theorem places_sorted (separator : Char) (cs : List Char) :
    (places separator cs).Pairwise (· < ·) := by
  have all : ((cs.zip (separable cs)).zipIdx.map (·.2)).Pairwise (· < ·) := by
    rw [List.zipIdx_map_snd]
    exact List.pairwise_lt_range'
  exact all.sublist (List.filter_sublist.map _)

/-- The least of some ascending places behind a start is the first that is found. -/
theorem find?_of_least {places : List Nat} (sorted : places.Pairwise (· < ·)) {start p : Nat}
    (mem : p ∈ places) (behind : start ≤ p) (least : ∀ q ∈ places, start ≤ q → p ≤ q) :
    places.find? (start ≤ ·) = some p := by
  induction places with
  | nil => cases mem
  | cons first rest ih =>
    rw [List.find?_cons]
    by_cases early : start ≤ first
    · rw [decide_eq_true early]
      have after := least first List.mem_cons_self early
      rcases List.mem_cons.mp mem with rfl | later
      · rfl
      · have before := List.rel_of_pairwise_cons sorted later
        omega
    · rw [decide_eq_false early]
      rcases List.mem_cons.mp mem with rfl | later
      · exact absurd behind early
      · exact ih (List.Pairwise.of_cons sorted) later
          fun q other => least q (List.mem_cons_of_mem _ other)

/-- The least of some ascending places is the first. -/
theorem head?_of_least {places : List Nat} (sorted : places.Pairwise (· < ·)) {p : Nat}
    (mem : p ∈ places) (least : ∀ q ∈ places, p ≤ q) : places.head? = some p := by
  cases places with
  | nil => cases mem
  | cons first rest =>
    rcases List.mem_cons.mp mem with rfl | later
    · rfl
    · have before := List.rel_of_pairwise_cons sorted later
      have after := least first List.mem_cons_self
      omega

theorem getLast?_of_only {places : List Nat} {p : Nat} (mem : p ∈ places)
    (only : ∀ q ∈ places, q = p) : places.getLast? = some p := by
  have filled : places ≠ [] := List.ne_nil_of_mem mem
  rw [List.getLast?_eq_some_getLast filled, only _ (List.getLast_mem filled)]

namespace IsKind

variable {kind : List Char}

/-- The equals sign behind a type is the first one. -/
theorem free_equals (isKind : IsKind kind) (rest : List Char) :
    Free '=' (kind ++ '=' :: rest) kind.length :=
  (isKind.whole.free_right 0).mpr (free_zero '=' rest)

theorem equals_mem_places (isKind : IsKind kind) (rest : List Char) :
    kind.length ∈ places '=' (kind ++ '=' :: rest) := by
  have free := isKind.free_equals rest
  cases kind with
  | nil => exact absurd rfl isKind.filled
  | cons first kind =>
    have slash := (isKind.plain first List.mem_cons_self).1
    exact (mem_places_iff_free slash).mpr ⟨Nat.succ_pos _, free⟩

theorem getElem?_ne (isKind : IsKind kind) {c : Char} (cuts : c = ',' ∨ c = '+' ∨ c = '=')
    {rest : List Char} {p : Nat} (inside : p < kind.length) :
    (kind ++ rest)[p]? ≠ some c := by
  rw [List.getElem?_append_left inside]
  intro there
  obtain ⟨-, comma, plus, equals⟩ := isKind.plain c (List.mem_of_getElem? there)
  rcases cuts with rfl | rfl | rfl
  · exact comma rfl
  · exact plus rfl
  · exact equals rfl

end IsKind

/-! ## Parts -/

theorem mem_of_divider {first : Nat} {places equals : List Nat} {p : Nat}
    (divides : divider first places equals = some p) :
    p ∈ places ∧ ∃ equal ∈ equals, p < equal := by
  rw [divider, firstFrom] at divides
  cases found : equals.find? (first + 1 ≤ ·) with
  | none =>
    rw [found] at divides
    cases divides
  | some equal =>
    rw [found] at divides
    dsimp only at divides
    split at divides
    · have kept := List.mem_of_getLast? divides
      rw [List.mem_filter, Bool.and_eq_true, decide_eq_true_eq, decide_eq_true_eq] at kept
      exact ⟨kept.1, equal, List.mem_of_find?_eq_some found, kept.2.2⟩
    · cases divides

/-- The first part of a name is all of it, or ends at a separator with an equals sign behind it. -/
theorem firstPart_cases (cs : List Char) :
    firstPart cs = (cs.length, none) ∨
      ∃ length separator, firstPart cs = (length, some separator) ∧
        (separator = ',' ∨ separator = '+') ∧ length ∈ places separator cs ∧
          ∃ equal ∈ places '=' cs, length < equal := by
  rw [firstPart]
  split
  · rename_i length found
    obtain ⟨first, -, found⟩ := Option.bind_eq_some_iff.mp found
    split at found
    · obtain ⟨mem, equal⟩ := mem_of_divider found
      exact .inr ⟨length, '+', rfl, .inr rfl, mem, equal⟩
    · cases found
  · split
    · rename_i length found
      obtain ⟨first, -, found⟩ := Option.bind_eq_some_iff.mp found
      obtain ⟨mem, equal⟩ := mem_of_divider found
      exact .inr ⟨length, ',', rfl, .inl rfl, mem, equal⟩
    · exact .inl rfl

/-! ## Components -/

def Part.written (part : Part) : List Char := part.text ++ part.separator.toList

theorem parts_eq {cs : List Char} (filled : cs ≠ []) :
    parts cs = ⟨cs.take (firstPart cs).1, (firstPart cs).2⟩ ::
      parts (cs.drop ((firstPart cs).1 + 1)) := by
  cases cs with
  | nil => exact absurd rfl filled
  | cons c cs => rw [parts, List.drop_succ_cons]

/-- The parts of a name, with their separators, are all of it. -/
theorem flatMap_parts (cs : List Char) : (parts cs).flatMap Part.written = cs := by
  induction cs using parts.induct with
  | case1 =>
    rw [parts]
    rfl
  | case2 c cs length separator found ih =>
    rw [parts, found]
    dsimp only
    rw [List.flatMap_cons, ih, Part.written]
    rcases firstPart_cases (c :: cs) with whole | ⟨place, cut, part, -, mem, -⟩
    · rw [found] at whole
      cases whole
      simp
    · rw [found] at part
      cases part
      obtain ⟨inside, there⟩ := List.getElem?_eq_some_iff.mp (mem_places_iff.mp mem).1
      have rest : (c :: cs).drop length = cut :: cs.drop length := by
        rw [List.drop_eq_getElem_cons inside, there, List.drop_succ_cons]
      rw [Option.toList_some, List.append_assoc, List.singleton_append, ← rest,
        List.take_append_drop]

/-- Joining only adds to the first part, and only what stands behind it. -/
theorem joined_head (current : Part) (rest : List Part) :
    ∃ first more, joined current rest = first :: more ∧ current.text <+: first.text ∧
      first.text <+: current.written ++ rest.flatMap Part.written := by
  induction rest generalizing current with
  | nil => exact ⟨current, [], rfl, List.prefix_refl _, by simp [Part.written]⟩
  | cons part rest ih =>
    rw [joined]
    split
    · obtain ⟨first, more, same, begins, within⟩ :=
        ih ⟨current.text ++ current.separator.toList ++ part.text, part.separator⟩
      refine ⟨first, more, same, ?_, ?_⟩
      · exact ((List.prefix_append _ _).trans (List.prefix_append _ _)).trans begins
      · simpa [Part.written] using within
    · exact ⟨current, joined part rest, rfl, List.prefix_refl _, by simp [Part.written]⟩

/-- The first part of a name begins its first component. -/
theorem components_first {cs : List Char} (filled : cs ≠ []) :
    ∃ first rest, components cs = first :: rest ∧ cs.take (firstPart cs).1 <+: first := by
  rw [components, parts_eq filled]
  obtain ⟨first, more, same, begins, -⟩ := joined_head ⟨cs.take (firstPart cs).1, (firstPart cs).2⟩
    (parts (cs.drop ((firstPart cs).1 + 1)))
  exact ⟨first.text, more.map (·.text), congrArg (List.map (·.text)) same, begins⟩

/-- The first component of a name begins it. -/
theorem components_head {cs first : List Char} {rest : List (List Char)}
    (components : components cs = first :: rest) : first <+: cs := by
  have whole := flatMap_parts cs
  rw [DistinguishedName.components] at components
  cases cut : parts cs with
  | nil =>
    rw [cut] at components
    cases components
  | cons part more =>
    rw [cut] at components whole
    obtain ⟨head, tail, same, -, within⟩ := joined_head part more
    dsimp only at components
    rw [same] at components
    cases components
    rwa [← whole]

/-- A name that is valid begins with a type and an equals sign. -/
theorem kind_of_values? {cs value : List Char} {rest : List (List Char)}
    (valid : values? cs = some (value :: rest)) :
    ∃ kind behind, IsKind kind ∧ cs = kind ++ '=' :: behind := by
  rw [values?] at valid
  cases found : components cs with
  | nil =>
    rw [found] at valid
    cases valid
  | cons first more =>
    rw [found, List.mapM_cons] at valid
    obtain ⟨given, read, -⟩ := Option.bind_eq_some_iff.mp valid
    obtain ⟨kind, isKind, rfl⟩ := kind_of_componentValue? read
    obtain ⟨behind, whole⟩ := components_head found
    exact ⟨kind, given ++ behind, isKind, by rw [← whole, List.append_assoc, List.cons_append]⟩

/-- The first part of a name that begins with a type and an equals sign goes behind that sign. -/
theorem IsKind.lt_firstPart {next : List Char} (isNext : IsKind next) (rest : List Char) :
    next.length < (firstPart (next ++ '=' :: rest)).1 := by
  rcases firstPart_cases (next ++ '=' :: rest) with part | ⟨length, separator, part, cut, mem, -⟩
  · rw [part]
    simp
  · rw [part]
    have there := (mem_places_iff.mp mem).1
    by_contra early
    rcases Nat.lt_or_eq_of_le (Nat.le_of_not_lt early) with inside | same
    · exact isNext.getElem?_ne (cut.imp_right .inl) inside there
    · dsimp only at same
      rw [same, List.getElem?_append_right (Nat.le_refl _), Nat.sub_self] at there
      rcases cut with rfl | rfl <;> exact absurd (Option.some.inj there) (by decide)

/-! ## Names behind a component -/

/-- What may stand in front of a comma as one component: it ends within no escape, and does not
begin with one. -/
structure IsFront (front : List Char) : Prop where
  whole : Whole front
  begins : ∃ first rest, front = first :: rest ∧ first ≠ '\\'

/-- A type with what is written of a value. -/
theorem IsKind.isFront {kind text : List Char} (isKind : IsKind kind) (whole : Whole text) :
    IsFront (kind ++ '=' :: text) := by
  refine ⟨isKind.whole.append
    ((Whole.plain (by decide) (by decide) (by decide)).append whole), ?_⟩
  cases kind with
  | nil => exact absurd rfl isKind.filled
  | cons first kind => exact ⟨first, _, rfl, (isKind.plain first List.mem_cons_self).1⟩

namespace IsFront

variable {front back next rest : List Char} {c : Char} {p : Nat}

theorem length_pos (isFront : IsFront front) : 0 < front.length := by
  obtain ⟨first, rest, rfl, -⟩ := isFront.begins
  exact Nat.succ_pos _

theorem mem_places (isFront : IsFront front) :
    p ∈ places c (front ++ back) ↔ 0 < p ∧ Free c (front ++ back) p := by
  obtain ⟨first, rest, rfl, slash⟩ := isFront.begins
  exact mem_places_iff_free slash

theorem comma_mem_places (isFront : IsFront front) :
    front.length ∈ places ',' (front ++ ',' :: back) :=
  isFront.mem_places.mpr ⟨isFront.length_pos, (isFront.whole.free_right 0).mpr (free_zero ',' back)⟩

/-- No separator stands in front of the comma, -/
theorem le_of_mem_places (isFront : IsFront front) (cut : c = ',' ∨ c = '+')
    (there : p ∈ places c (front ++ back)) : front.length ≤ p := by
  by_contra early
  exact isFront.whole.not_free cut
    ((isFront.whole.free_left (Nat.lt_of_not_le early)).mp (isFront.mem_places.mp there).2)

theorem free_behind (isFront : IsFront front) :
    Free c (front ++ ',' :: back) (front.length + (p + 1)) ↔ Free c back p := by
  rw [isFront.whole.free_right, free_succ (by decide)]

/-- and none within the type behind it. -/
theorem le_of_mem_places_behind (isFront : IsFront front) (isNext : IsKind next)
    (cut : c = ',' ∨ c = '+' ∨ c = '=') (there : p ∈ places c (front ++ ',' :: (next ++ rest)))
    (later : front.length < p) : front.length + (next.length + 1) ≤ p := by
  by_contra early
  obtain ⟨q, rfl⟩ : ∃ q, p = front.length + (q + 1) := ⟨p - front.length - 1, by omega⟩
  have free := isFront.free_behind.mp (isFront.mem_places.mp there).2
  exact isNext.getElem?_ne cut (by omega) free.1

/-- The first part of a name goes at least up to the comma. -/
theorem lt_firstPart_or (isFront : IsFront front) :
    front.length < (firstPart (front ++ ',' :: back)).1 ∨
      firstPart (front ++ ',' :: back) = (front.length, some ',') ∧ back ≠ [] := by
  rcases firstPart_cases (front ++ ',' :: back) with
    part | ⟨length, separator, part, cut, mem, equal, equals, behind⟩
  · rw [part]
    exact .inl (by simp)
  · rw [part]
    rcases Nat.lt_or_ge front.length length with later | within
    · exact .inl later
    · have here : length = front.length :=
        Nat.le_antisymm within (isFront.le_of_mem_places cut mem)
      subst here
      have there := (isFront.mem_places.mp mem).2.1
      rw [List.getElem?_append_right (Nat.le_refl _), Nat.sub_self] at there
      refine .inr ⟨by rw [← Option.some.inj there], ?_⟩
      rintro rfl
      obtain ⟨last, -⟩ := List.getElem?_eq_some_iff.mp (mem_places_iff.mp equals).1
      rw [List.length_append, List.length_singleton] at last
      omega

theorem divider_eq (isFront : IsFront front) (isNext : IsKind next) :
    divider front.length (places ',' (front ++ ',' :: (next ++ '=' :: rest)))
      (places '=' (front ++ ',' :: (next ++ '=' :: rest))) = some front.length := by
  have equals : front.length + (next.length + 1) ∈
      places '=' (front ++ ',' :: (next ++ '=' :: rest)) :=
    isFront.mem_places.mpr ⟨by omega, isFront.free_behind.mpr (isNext.free_equals rest)⟩
  have firstEqual : firstFrom (front.length + 1)
      (places '=' (front ++ ',' :: (next ++ '=' :: rest))) =
        some (front.length + (next.length + 1)) :=
    find?_of_least (places_sorted _ _) equals (by omega) fun q there later =>
      isFront.le_of_mem_places_behind isNext (.inr (.inr rfl)) there later
  have filled := List.length_pos_iff.mpr isNext.filled
  rw [divider, firstEqual]
  dsimp only
  rw [if_pos (by omega)]
  -- The comma is the only one in front of the equals sign.
  refine getLast?_of_only (List.mem_filter.mpr ⟨isFront.comma_mem_places, by simp⟩) fun q kept => ?_
  obtain ⟨there, within⟩ := List.mem_filter.mp kept
  rw [Bool.and_eq_true, decide_eq_true_eq, decide_eq_true_eq] at within
  by_contra other
  have late := isFront.le_of_mem_places_behind isNext (.inl rfl) there (by omega)
  omega

/-- Where another component begins behind the comma, the first part ends there. -/
theorem firstPart_eq (isFront : IsFront front) (isNext : IsKind next) :
    firstPart (front ++ ',' :: (next ++ '=' :: rest)) = (front.length, some ',') := by
  have firstComma : (places ',' (front ++ ',' :: (next ++ '=' :: rest))).head? =
      some front.length :=
    head?_of_least (places_sorted _ _) isFront.comma_mem_places
      fun q there => isFront.le_of_mem_places (.inl rfl) there
  have noPlus : ((places '+' (front ++ ',' :: (next ++ '=' :: rest))).head?.bind fun first =>
      if (some front.length).all (first < ·) then
        divider first (places '+' (front ++ ',' :: (next ++ '=' :: rest)))
          (places '=' (front ++ ',' :: (next ++ '=' :: rest)))
      else none) = none := by
    rw [Option.bind_eq_none_iff]
    intro first found
    have late := isFront.le_of_mem_places (.inr rfl) (List.mem_of_head? found)
    exact if_neg (by simp [late])
  rw [firstPart, firstComma, noPlus, Option.bind_some, isFront.divider_eq isNext]

/-- The part in front of the comma is a component, or the first component goes on behind it. -/
theorem components_cases (isFront : IsFront front) (back : List Char) :
    (∃ first rest, components (front ++ ',' :: back) = first :: rest ∧ front ++ [','] <+: first) ∨
      components (front ++ ',' :: back) = front :: components back ∧ back ≠ [] := by
  rcases isFront.lt_firstPart_or with later | ⟨part, behind⟩
  · obtain ⟨first, more, same, begins⟩ := components_first
      (List.append_ne_nil_of_right_ne_nil front (List.cons_ne_nil ',' back))
    refine .inl ⟨first, more, same, ?_⟩
    refine List.IsPrefix.trans (List.prefix_take_iff.mpr ⟨⟨back, by simp⟩, ?_⟩) begins
    rw [List.length_append, List.length_singleton]
    exact later
  · rw [components, parts_eq (by simp), part]
    have rest : (front ++ ',' :: back).drop (front.length + 1) = back := by simp
    dsimp only
    rw [List.take_left, rest, components]
    cases cut : parts back with
    | nil =>
      have none := flatMap_parts back
      rw [cut] at none
      exact absurd none.symm behind
    | cons next more =>
      dsimp only
      rw [joined]
      by_cases bare : (places '=' next.text).isEmpty = true
      · obtain ⟨first, others, same, begins, -⟩ :=
          joined_head ⟨front ++ [','] ++ next.text, next.separator⟩ more
        rw [if_pos bare]
        exact .inl ⟨first.text, others.map (·.text), congrArg (List.map (·.text)) same,
          (List.prefix_append _ _).trans begins⟩
      · rw [if_neg bare]
        exact .inr ⟨rfl, behind⟩

/-- It is a component where another one begins behind the comma. -/
theorem components_eq (isFront : IsFront front) (isNext : IsKind next) :
    components (front ++ ',' :: (next ++ '=' :: rest)) =
      front :: components (next ++ '=' :: rest) := by
  have equals : ¬ (places '=' ((next ++ '=' :: rest).take
      (firstPart (next ++ '=' :: rest)).1)).isEmpty = true := by
    obtain ⟨more, same⟩ := Nat.exists_eq_add_of_lt (isNext.lt_firstPart rest)
    rw [same, Nat.add_assoc, List.take_length_add_append, List.take_succ_cons, List.isEmpty_iff]
    exact List.ne_nil_of_mem (isNext.equals_mem_places (rest.take more))
  rw [components, parts_eq (by simp), isFront.firstPart_eq isNext]
  have behind : (front ++ ',' :: (next ++ '=' :: rest)).drop (front.length + 1) =
      next ++ '=' :: rest := by simp
  dsimp only
  rw [List.take_left, behind, components, parts_eq (show next ++ '=' :: rest ≠ [] by simp)]
  dsimp only
  rw [joined, if_neg equals]
  rfl

end IsFront

/-! ## Values of first components -/

theorem components_ne_nil {cs : List Char} (filled : cs ≠ []) : components cs ≠ [] := by
  obtain ⟨first, rest, same, -⟩ := components_first filled
  rw [same]
  exact List.cons_ne_nil _ _

/-- There is a first value where a name that is not empty is valid. -/
theorem isSome_firstValue? {name : String} :
    (firstValue? name).isSome = true ↔
      ∃ first rest, values? name.toList = some (first :: rest) := by
  rw [firstValue?, Option.isSome_map]
  cases values? name.toList with
  | none => simp
  | some values => cases values <;> simp

theorem values?_eq_none {name : String} (filled : name.toList ≠ [])
    (invalid : ¬ (firstValue? name).isSome = true) : values? name.toList = none := by
  cases found : values? name.toList with
  | none => rfl
  | some values =>
    cases values with
    | cons first rest => exact absurd (isSome_firstValue?.mpr ⟨first, rest, found⟩) invalid
    | nil =>
      rw [values?] at found
      cases some : components name.toList with
      | nil => exact absurd some (components_ne_nil filled)
      | cons first rest =>
        rw [some, List.mapM_cons] at found
        obtain ⟨_, -, found⟩ := Option.bind_eq_some_iff.mp found
        obtain ⟨_, -, found⟩ := Option.bind_eq_some_iff.mp found
        cases found

section Behind

variable {kind value text : List Char}

theorem componentValue?_front (isKind : IsKind kind) (written : Written true value text)
    (filled : value ≠ []) :
    componentValue? (kind ++ '=' :: text) =
      if isType kind && isEscaped text then some text else none := by
  rw [componentValue?_eq isKind, written.isValue_eq filled]

/-- A component that goes on behind an unescaped comma is not valid. -/
theorem componentValue?_cut (isKind : IsKind kind) (written : Written true value text)
    {first : List Char} (begins : kind ++ '=' :: text ++ [','] <+: first) :
    componentValue? first = none := by
  obtain ⟨more, rfl⟩ := begins
  have cut : isEscaped (text ++ ',' :: more) = false := by
    rw [written.whole.valid]
    simp [isEscaped, isSpecial]
  have invalid : isValue (text ++ ',' :: more) = false := by
    rw [isValue, cut, Bool.and_false]
  have same : kind ++ '=' :: text ++ [','] ++ more = kind ++ '=' :: (text ++ ',' :: more) := by simp
  rw [same, componentValue?_eq isKind, invalid, Bool.and_false]
  rfl

/-- The first value of a name is what is written in the first component, as it is written, if it
can be read and the name of the parent is valid. -/
theorem firstValue?_eq (isKind : IsKind kind) (written : Written true value text)
    (filled : value ≠ []) (parent : String) :
    firstValue? (String.ofList (kind ++ '=' :: text ++ ',' :: parent.toList)) =
      if isType kind = true ∧ isEscaped text = true ∧ (firstValue? parent).isSome = true then
        some (String.ofList text)
      else none := by
  have isFront := isKind.isFront written.whole
  rw [firstValue?, String.toList_ofList, values?]
  by_cases valid : (firstValue? parent).isSome = true
  · obtain ⟨first, rest, values⟩ := isSome_firstValue?.mp valid
    obtain ⟨next, behind, isNext, same⟩ := kind_of_values? values
    rw [values?, same] at values
    rw [same, isFront.components_eq isNext, List.mapM_cons, values,
      componentValue?_front isKind written filled]
    by_cases typed : isType kind = true
    · by_cases escaped : isEscaped text = true
      · simp [typed, escaped, valid]
      · simp [escaped]
    · simp [typed]
  · rw [if_neg fun all => valid all.2.2]
    rcases isFront.components_cases parent.toList with
      ⟨first, rest, same, begins⟩ | ⟨same, behind⟩
    · rw [same, List.mapM_cons, componentValue?_cut isKind written begins]
      rfl
    · have invalid : (components parent.toList).mapM componentValue? = none :=
        values?_eq_none behind valid
      rw [same, List.mapM_cons, invalid]
      cases componentValue? (kind ++ '=' :: text) <;> rfl

end Behind

end DirectoryAuth.DistinguishedName
