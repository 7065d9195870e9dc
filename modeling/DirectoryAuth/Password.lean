import DirectoryAuth.Text.Quoted

/-!
# Passwords

A password comes in as code points. It need not be a text: a host or a terminal may pass on a
surrogate that stands alone, which is no character and has no form in UTF-8.
-/

namespace DirectoryAuth

inductive CodePoint where
  | character (c : Char)
  /-- The surrogate that is so far behind the first one. -/
  | surrogate (offset : Fin 0x800)
  deriving DecidableEq, Repr

namespace CodePoint

def character? : CodePoint → Option Char
  | character c => some c
  | surrogate _ => none

def surrogateNumber (offset : Fin 0x800) : Nat := 0xd800 + offset

/-- The surrogates in front of the first character. -/
def leadingSurrogates : List CodePoint → List (Fin 0x800)
  | surrogate offset :: points => offset :: leadingSurrogates points
  | _ => []

end CodePoint

structure Password where
  points : List CodePoint
  deriving DecidableEq, Repr

namespace Password

def blank : Password := ⟨[]⟩

def ofText (text : String) : Password := ⟨text.toList.map .character⟩

instance : Coe String Password := ⟨ofText⟩

/-- The text that a password is, if it has no surrogates. -/
def text? (p : Password) : Option String :=
  (p.points.mapM CodePoint.character?).map String.ofList

theorem text?_ofText (text : String) : (ofText text).text? = some text := by
  have read (cs : List Char) :
      (cs.map CodePoint.character).mapM CodePoint.character? = some cs := by
    induction cs with
    | nil => rfl
    | cons c cs ih => simp [List.mapM_cons, CodePoint.character?, ih]
  rw [text?, ofText, read, Option.map_some, String.ofList_toList]

/-- A password that is a text is that text. -/
theorem eq_ofText {p : Password} {text : String} (h : p.text? = some text) : p = ofText text := by
  have written {points : List CodePoint} {cs : List Char}
      (read : points.mapM CodePoint.character? = some cs) : points = cs.map .character := by
    induction points generalizing cs with
    | nil => simp_all
    | cons point points ih =>
      cases point with
      | surrogate offset => simp [List.mapM_cons, CodePoint.character?] at read
      | character c =>
        simp only [List.mapM_cons, CodePoint.character?, Option.bind_eq_bind, Option.bind_some,
          Option.bind_eq_some_iff, Option.pure_def, Option.some.injEq] at read
        obtain ⟨rest, others, rfl⟩ := read
        rw [List.map_cons, ih others]
  obtain ⟨cs, read, rfl⟩ := Option.map_eq_some_iff.mp h
  rw [ofText, String.toList_ofList, ← written read]

/-- What comes from a text is a text. -/
theorem text?_ne_none_of_map {text : Option String} {p : Password}
    (given : text.map ofText = some p) : p.text? ≠ none := by
  obtain ⟨text, -, rfl⟩ := Option.map_eq_some_iff.mp given
  rw [text?_ofText]
  exact nofun

theorem ofText_eq_blank {text : String} : ofText text = blank ↔ text = "" := by
  rw [ofText, blank, mk.injEq, List.map_eq_nil_iff, String.toList_eq_nil_iff]

/-- Why a password has no form in UTF-8. One surrogate is shown, several in a row are given by their
positions. -/
def encodingMessage (p : Password) : String :=
  let position := (p.points.takeWhile (·.character?.isSome)).length
  let place := match CodePoint.leadingSurrogates (p.points.drop position) with
    | [offset] =>
      let number := CodePoint.surrogateNumber offset
      s!"character '" ++ String.ofList (Text.escapedCode number) ++ s!"' in position {position}"
    | surrogates => s!"characters in position {position}-{position + surrogates.length - 1}"
  s!"'utf-8' codec can't encode {place}: surrogates not allowed"

end Password

end DirectoryAuth
