import DirectoryAuth.Text.Utf8

/-!
# Lines of a file

A file is read as UTF-8 in chunks and given line by line. A carriage return, a line feed or both
together end a line, and stand as one line feed at its end. Bytes that are not UTF-8 are noticed
when their chunk is read: of the text in front of that chunk the lines that are complete are given.
-/

namespace DirectoryAuth.Lines

open Text

/-- How many bytes are read at once. -/
def chunkSize : Nat := 8192

/-- Is a malformed part left to the next chunk, given the bytes from it to the end of its own? A
character that is cut off is, and so are two bytes that would begin the code point of half a
surrogate pair: only the third byte shows that they begin nothing. -/
def isAwaited (part : Malformed) : List UInt8 → Bool
  | [lead, next] => part.reason = .cutOff || (lead = 0xed && 0xa0 ≤ next && next ≤ 0xbf)
  | _ => part.reason = .cutOff

/-- The characters of a file up to the chunk with the first malformed part. `held` is what the chunk
before left to this one. -/
def decode (held : List UInt8) : List UInt8 → List Char × Option Malformed
  | [] => decodeStrict 0 held
  | b :: bytes =>
    let later := bytes.drop (chunkSize - 1)
    let chunk := held ++ b :: bytes.take (chunkSize - 1)
    match decodeStrict 0 chunk with
    | (cs, none) =>
      let (rest, malformed) := decode [] later
      (cs ++ rest, malformed)
    | (cs, some part) =>
      let left := chunk.drop part.position
      if isAwaited part left then
        let (rest, malformed) := decode left later
        (cs ++ rest, malformed)
      else ([], some part)
termination_by bytes => bytes.length
decreasing_by all_goals simp only [List.length_drop, List.length_cons]; omega

/-- The lines of a text, each with its end. The last line may lack its end. -/
def split : List Char → List (List Char)
  | [] => []
  | '\r' :: '\n' :: cs => ['\n'] :: split cs
  | c :: cs =>
    if c = '\r' || c = '\n' then ['\n'] :: split cs
    else
      match split cs with
      | [] => [[c]]
      | line :: lines => (c :: line) :: lines

/-- The lines that are complete although the text breaks off. A carriage return at the end of the
text completes no line, since a line feed might follow it. -/
def complete (cs : List Char) : List (List Char) :=
  let known := if cs.getLast? = some '\r' then cs.dropLast else cs
  (split known).filter (·.getLast? = some '\n')

/-- The lines of a file, and the malformed part that ends them. -/
def ofBytes (bytes : List UInt8) : List (List Char) × Option Malformed :=
  match decode [] bytes with
  | (cs, none) => (split cs, none)
  | (cs, some part) => (complete cs, some part)

end DirectoryAuth.Lines
