import DirectoryAuth.Proofs.Text.Encoding
import DirectoryAuth.Settings.Lines

/-!
# Lines of a file there and back

However the bytes of a text fall into the chunks in which a file is read, the text is read whole,
also where a chunk ends within a character. The lines of a text end in a line feed each, but for the
last one, which may end with the text; each is free of line breaks otherwise.
-/

namespace DirectoryAuth.Lines

open Text

variable {cs line : List Char} {lines rest : List (List Char)} {held bytes : List UInt8}

/-! ## Chunks -/

/-- Bytes that are left of a chunk and cut off are left to the next one. -/
theorem isAwaited_of_cutOff {part : Malformed} (cut : part.reason = .cutOff) (left : List UInt8) :
    isAwaited part left = true := by
  unfold isAwaited
  split <;> simp [cut]

/-- What is read at once and what is read later are all there is to read. -/
theorem chunk_append (held bytes : List UInt8) (b : UInt8) :
    held ++ b :: bytes.take (chunkSize - 1) ++ bytes.drop (chunkSize - 1) = held ++ b :: bytes := by
  rw [List.append_assoc, List.cons_append, List.take_append_drop]

/-- The bytes of a text are read as the text, however they fall into chunks. -/
theorem decode_utf8 (whole : held ++ bytes = utf8 cs) : decode held bytes = (cs, none) := by
  induction held, bytes using decode.induct generalizing cs with
  | case1 held =>
    have read := decodeStrict_append cs [] 0
    rw [← whole, List.append_nil, List.append_nil, decodeStrict, List.append_nil] at read
    rw [decode, read]
  | case2 held b bytes later chunk front decoded rest malformed read =>
    rename_i ih
    obtain ⟨front', back, left, rfl, behind, ⟨rfl, again⟩ | ⟨part, again, -⟩⟩ :=
      decodeStrict_of_cut ((chunk_append held bytes b).trans whole)
    · have same := decoded.symm.trans again
      cases same
      rw [decode, again]
      dsimp only
      rw [ih behind]
    · cases decoded.symm.trans again
  | case3 held b bytes later chunk front part decoded left awaited rest malformed read =>
    rename_i ih
    obtain ⟨front', back, left', rfl, behind, ⟨-, again⟩ | ⟨part', again, -, place⟩⟩ :=
      decodeStrict_of_cut ((chunk_append held bytes b).trans whole)
    · cases decoded.symm.trans again
    · cases decoded.symm.trans again
      rw [decode, again]
      dsimp only
      rw [if_pos awaited, ih (by rw [← behind, ← place])]
  | case4 held b bytes chunk front part decoded left =>
    rename_i lost
    obtain ⟨front', back, left', rfl, behind, ⟨-, again⟩ | ⟨part', again, reason, -⟩⟩ :=
      decodeStrict_of_cut ((chunk_append held bytes b).trans whole)
    · cases decoded.symm.trans again
    · cases decoded.symm.trans again
      exact absurd (isAwaited_of_cutOff reason _) lost

/-- What is read whole are the bytes of a text. -/
theorem utf8_of_decode (whole : decode held bytes = (cs, none)) : held ++ bytes = utf8 cs := by
  induction held, bytes using decode.induct generalizing cs with
  | case1 held =>
    obtain ⟨left, read, none⟩ := decodeStrict_reads 0 held
    rw [decode] at whole
    rw [whole] at read none
    dsimp only at read none
    rw [read, none, List.append_assoc, List.append_nil, List.append_nil]
  | case2 held b bytes later chunk front decoded rest malformed read =>
    rename_i ih
    obtain ⟨left, chunked, none⟩ := decodeStrict_reads 0 chunk
    rw [decoded] at chunked none
    dsimp only at chunked none
    rw [decode, decoded] at whole
    dsimp only at whole
    cases read' : decode [] later
    rw [read'] at whole
    cases whole
    rw [← chunk_append, utf8_append, ← ih read', List.nil_append]
    rw [none, List.append_nil] at chunked
    exact congrArg (· ++ later) chunked
  | case3 held b bytes later chunk front part decoded left awaited rest malformed read =>
    rename_i ih
    obtain ⟨left', chunked, place⟩ := decodeStrict_reads 0 chunk
    rw [decoded] at chunked place
    dsimp only at chunked place
    rw [decode, decoded] at whole
    dsimp only at whole
    rw [if_pos awaited] at whole
    have behind : left = left' := by
      change chunk.drop part.position = left'
      rw [place, Nat.zero_add, chunked, List.drop_left]
    cases read' : decode left later
    rw [read'] at whole
    cases whole
    rw [← chunk_append, utf8_append, ← ih read', behind, ← List.append_assoc]
    exact congrArg (· ++ later) chunked
  | case4 held b bytes chunk front part decoded left =>
    rename_i lost
    rw [decode, decoded] at whole
    dsimp only at whole
    rw [if_neg lost] at whole
    cases whole

/-! ## Line breaks -/

def IsBare (line : List Char) : Prop := '\n' ∉ line ∧ '\r' ∉ line

instance : Decidable (IsBare line) := inferInstanceAs (Decidable (_ ∧ _))

theorem IsBare.tail {c : Char} (bare : IsBare (c :: line)) :
    c ≠ '\n' ∧ c ≠ '\r' ∧ IsBare line :=
  ⟨fun same => bare.1 (same ▸ List.mem_cons_self), fun same => bare.2 (same ▸ List.mem_cons_self),
    fun member => bare.1 (List.mem_cons_of_mem _ member),
    fun member => bare.2 (List.mem_cons_of_mem _ member)⟩

theorem isBare_nil : IsBare [] := ⟨List.not_mem_nil, List.not_mem_nil⟩

theorem split_feed (cs : List Char) : split ('\n' :: cs) = ['\n'] :: split cs := by
  rw [split]
  · rfl
  · rintro _ same
    cases same

/-- A carriage return ends a line as well, by itself or with the line feed behind it. -/
theorem split_return (cs : List Char) :
    split ('\r' :: cs) = ['\n'] :: split (if cs.head? = some '\n' then cs.tail else cs) := by
  cases cs with
  | nil => rfl
  | cons c cs =>
    by_cases feed : c = '\n'
    · subst feed
      rfl
    · have apart : (c :: cs).head? ≠ some '\n' := by simpa using feed
      rw [if_neg apart, split]
      · rfl
      · rintro _ - same
        exact feed (List.cons.inj same).1

/-- A character that breaks no line stands at the front of the line behind it. -/
theorem split_cons {c : Char} (feed : c ≠ '\n') (back : c ≠ '\r')
    (behind : split cs = line :: lines) : split (c :: cs) = (c :: line) :: lines := by
  rw [split, behind]
  · simp [feed, back]
  · rintro _ rfl rfl
    exact back rfl

theorem split_singleton {c : Char} (feed : c ≠ '\n') (back : c ≠ '\r') : split [c] = [[c]] := by
  rw [split]
  · simp [feed, back, split]
  · rintro _ - same
    cases same

/-- The last line may end with the text. -/
theorem split_bare (bare : IsBare line) (filled : line ≠ []) : split line = [line] := by
  induction line with
  | nil => exact absurd rfl filled
  | cons c line ih =>
    obtain ⟨feed, back, bare⟩ := bare.tail
    cases line with
    | nil => exact split_singleton feed back
    | cons d line => exact split_cons feed back (ih bare (List.cons_ne_nil _ _))

/-- What begins with a line break begins with it also behind a line. -/
theorem split_append {ending : List Char} (bare : IsBare line)
    (breaks : split ending = ['\n'] :: rest) : split (line ++ ending) = (line ++ ['\n']) :: rest := by
  induction line with
  | nil => exact breaks
  | cons c line ih =>
    obtain ⟨feed, back, bare⟩ := bare.tail
    exact split_cons feed back (ih bare)

def endings : List (List Char) := [['\n'], ['\r', '\n'], ['\r']]

/-- Lines that are all ended in the same way are told apart, and each ends in a line feed. What
stands behind them is the last line, if there is anything. -/
theorem split_ended {ending : List Char} (ends : ending ∈ endings)
    (bare : ∀ line ∈ lines, IsBare line) (bareLast : IsBare line) :
    split (lines.flatMap (· ++ ending) ++ line) = lines.map (· ++ ['\n']) ++ split line := by
  induction lines with
  | nil => rfl
  | cons first lines ih =>
    obtain ⟨bareFirst, bare⟩ := List.forall_mem_cons.mp bare
    rw [List.flatMap_cons, List.append_assoc, List.append_assoc, List.map_cons, List.cons_append,
      ← ih bare]
    refine split_append bareFirst ?_
    simp only [endings, List.mem_cons, List.not_mem_nil, or_false] at ends
    rcases ends with rfl | rfl | rfl
    · exact split_feed _
    · exact split_return _
    · -- No line feed stands behind the carriage return, which would go with it.
      have apart : (lines.flatMap (· ++ ['\r']) ++ line).head? ≠ some '\n' := by
        intro feed
        rcases List.mem_append.mp (List.mem_of_mem_head? feed) with inside | last
        · obtain ⟨other, member, within⟩ := List.mem_flatMap.mp inside
          rcases List.mem_append.mp within with inside | last
          · exact (bare other member).1 inside
          · cases List.mem_singleton.mp last
        · exact bareLast.1 last
      rw [List.singleton_append, split_return, if_neg apart]

/-- The lines of a text: each ends in a line feed, and the last one may end with the text. -/
inductive AreLines : List (List Char) → Prop
  | none : AreLines []
  | last {line : List Char} (bare : IsBare line) (filled : line ≠ []) : AreLines [line]
  | ended {line : List Char} {lines : List (List Char)} (bare : IsBare line)
      (behind : AreLines lines) : AreLines ((line ++ ['\n']) :: lines)

theorem areLines_split (cs : List Char) : AreLines (split cs) := by
  fun_induction split cs with
  | case1 => exact .none
  | case2 cs ih => exact .ended isBare_nil ih
  | case3 c cs other breaks ih => exact .ended isBare_nil ih
  | case4 c cs other plain none ih =>
    simp only [Bool.or_eq_true, decide_eq_true_eq, not_or] at plain
    exact .last ⟨by simp [Ne.symm plain.2], by simp [Ne.symm plain.1]⟩ (List.cons_ne_nil _ _)
  | case5 c cs other plain line lines behind ih =>
    simp only [Bool.or_eq_true, decide_eq_true_eq, not_or] at plain
    have add {line : List Char} (bare : IsBare line) : IsBare (c :: line) :=
      ⟨by simp [Ne.symm plain.2, bare.1], by simp [Ne.symm plain.1, bare.2]⟩
    rw [behind] at ih
    cases ih with
    | last bare filled => exact .last (add bare) (List.cons_ne_nil _ _)
    | ended bare behind => exact .ended (add bare) behind

/-- Lines that some were taken away from are lines. -/
theorem AreLines.sublist (are : AreLines lines) (fewer : rest.Sublist lines) : AreLines rest := by
  induction are generalizing rest with
  | none =>
    cases fewer
    exact .none
  | last bare filled =>
    rcases List.sublist_singleton.mp fewer with rfl | rfl
    · exact .none
    · exact .last bare filled
  | ended bare behind ih =>
    cases fewer with
    | cons _ fewer => exact ih fewer
    | cons_cons _ fewer => exact .ended bare (ih fewer)

/-- Lines are told apart in the text that they make together. -/
theorem AreLines.split_flatten (are : AreLines lines) : split lines.flatten = lines := by
  induction are with
  | none => rfl
  | last bare filled => rw [List.flatten_cons, List.flatten_nil, List.append_nil, split_bare bare filled]
  | ended bare behind ih =>
    rw [List.flatten_cons, List.append_assoc, split_append bare]
    rw [List.singleton_append, split_feed, ih]

/-! ## Files -/

/-- The lines of a file are told without a malformed part where it holds the bytes of a text. -/
theorem ofBytes_eq_none :
    ofBytes bytes = (lines, none) ↔ ∃ cs, bytes = utf8 cs ∧ lines = split cs := by
  constructor
  · intro whole
    rw [ofBytes] at whole
    split at whole
    · next cs decoded =>
      cases whole
      exact ⟨cs, utf8_of_decode decoded, rfl⟩
    · cases whole
  · rintro ⟨cs, rfl, rfl⟩
    rw [ofBytes, decode_utf8 (List.nil_append _)]

end DirectoryAuth.Lines
