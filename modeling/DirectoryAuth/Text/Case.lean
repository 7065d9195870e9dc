import DirectoryAuth.Text.CaseTable
import DirectoryAuth.Text.Ranges

/-!
# Lower and upper case

Case mappings of whole texts. A character may map to several, and a capital sigma takes its final
form when it ends a word.
-/

namespace DirectoryAuth.Text

/-- The form of a code point under the runs, itself where no run holds it. -/
def shifted (runs : List CaseRun) (n : Nat) : Nat :=
  match runs.find? fun run => run.first ≤ n && n ≤ run.last && (n - run.first) % run.step == 0 with
  | some run => (n + run.shift).toNat
  | none => n

/-- The form of a character: several characters, one at a distance, or the character itself. -/
def mapped (expansions : List (Nat × List Nat)) (runs : List CaseRun) (c : Char) : List Char :=
  match expansions.lookup c.toNat with
  | some form => form.map Char.ofNat
  | none => [Char.ofNat (shifted runs c.toNat)]

def upperChar (c : Char) : List Char := mapped upperExpansions upperRuns c

def lowerChar (c : Char) : List Char := mapped lowerExpansions lowerRuns c

def upperChars (cs : List Char) : List Char := cs.flatMap upperChar

def upper (s : String) : String := String.ofList (upperChars s.toList)

/-- Does the first character that is not looked past belong to a word? -/
def meetsCased (cs : List Char) : Bool :=
  match cs.dropWhile (inRanges caseIgnorableRanges) with
  | [] => false
  | c :: _ => inRanges casedRanges c

/-- The small sigma after `before` (nearest character first) and in front of `after`. -/
def sigmaForm (before after : List Char) : Char :=
  if meetsCased before && !meetsCased after then 'ς' else 'σ'

/-- Lower case of the rest of a text, `before` being what stands in front of it, nearest first. -/
def lowerFrom (before : List Char) : List Char → List Char
  | [] => []
  | c :: cs =>
    (if c = 'Σ' then [sigmaForm before cs] else lowerChar c) ++ lowerFrom (c :: before) cs

def lowerChars (cs : List Char) : List Char := lowerFrom [] cs

def lower (s : String) : String := String.ofList (lowerChars s.toList)

end DirectoryAuth.Text
