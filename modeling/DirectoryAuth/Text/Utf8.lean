import DirectoryAuth.Text.Digit

/-!
# Reading UTF-8

Bytes are read character by character. A part that is not well formed is as long as it can be
while still being the start of some character: reading leniently puts one replacement character in
its place, reading strictly reports it with its reason and position.
-/

namespace DirectoryAuth.Text

/-- Why bytes are no character. -/
inductive Malformation where
  | invalidStart
  | invalidContinuation
  | cutOff
  deriving DecidableEq, Repr

def Malformation.message : Malformation → String
  | .invalidStart => "invalid start byte"
  | .invalidContinuation => "invalid continuation byte"
  | .cutOff => "unexpected end of data"

/-- What stands at the front of some bytes: a character or a malformed part, of `extra + 1` bytes. -/
inductive Front where
  | char (c : Char) (extra : Nat)
  | malformed (reason : Malformation) (extra : Nat)

/-- How many bytes follow a lead byte, and where the first of them must lie. -/
def continuation? (lead : Nat) : Option (Nat × Nat × Nat) :=
  if 0xc2 ≤ lead ∧ lead ≤ 0xdf then some (1, 0x80, 0xbf)
  else if lead = 0xe0 then some (2, 0xa0, 0xbf)
  else if lead = 0xed then some (2, 0x80, 0x9f)
  else if 0xe1 ≤ lead ∧ lead ≤ 0xef then some (2, 0x80, 0xbf)
  else if lead = 0xf0 then some (3, 0x90, 0xbf)
  else if 0xf1 ≤ lead ∧ lead ≤ 0xf3 then some (3, 0x80, 0xbf)
  else if lead = 0xf4 then some (3, 0x80, 0x8f)
  else none

/-- Reads `missing` more bytes of a character whose `read` bytes after the lead gave `value`. -/
def frontFrom (value read low high : Nat) : (missing : Nat) → List UInt8 → Front
  | 0, _ => .char (Char.ofNat value) read
  | _ + 1, [] => .malformed .cutOff read
  | missing + 1, b :: bs =>
    if low ≤ b.toNat ∧ b.toNat ≤ high then
      frontFrom (value * 64 + b.toNat % 64) (read + 1) 0x80 0xbf missing bs
    else .malformed .invalidContinuation read

/-- The front of bytes that start with `lead`. -/
def front (lead : UInt8) (bytes : List UInt8) : Front :=
  if lead < 0x80 then .char (Char.ofNat lead.toNat) 0
  else match continuation? lead.toNat with
    | none => .malformed .invalidStart 0
    | some (missing, low, high) =>
      frontFrom (lead.toNat % Nat.pow 2 (6 - missing)) 0 low high missing bytes

/-- Reads all bytes, a replacement character standing for each malformed part. -/
def decodeLenient : List UInt8 → List Char
  | [] => []
  | b :: bs =>
    match front b bs with
    | .char c extra => c :: decodeLenient (bs.drop extra)
    | .malformed _ extra => '\ufffd' :: decodeLenient (bs.drop extra)
termination_by bytes => bytes.length
decreasing_by all_goals simp only [List.length_drop, List.length_cons]; omega

/-- A malformed part: its bytes, its reason and where it stands. -/
structure Malformed where
  reason : Malformation
  bytes : List UInt8
  position : Nat
  deriving DecidableEq, Repr

/-- Reads up to the first malformed part. `position` is that of the first byte. -/
def decodeStrict (position : Nat) : List UInt8 → List Char × Option Malformed
  | [] => ([], none)
  | b :: bs =>
    match front b bs with
    | .char c extra =>
      let (cs, malformed) := decodeStrict (position + extra + 1) (bs.drop extra)
      (c :: cs, malformed)
    | .malformed reason extra => ([], some ⟨reason, b :: bs.take extra, position⟩)
termination_by bytes => bytes.length
decreasing_by simp only [List.length_drop, List.length_cons]; omega

/-- A malformed part in a message; one byte is shown, several are given by their positions. -/
def Malformed.message (m : Malformed) : String :=
  let place := match m.bytes with
    | [b] => "byte 0x" ++ String.ofList (hexPadded 2 b.toNat) ++ s!" in position {m.position}"
    | bytes => s!"bytes in position {m.position}-{m.position + bytes.length - 1}"
  s!"'utf-8' codec can't decode {place}: {m.reason.message}"

/-- Bytes as text. -/
def ofBytes (bytes : List UInt8) : String := String.ofList (decodeLenient bytes)

end DirectoryAuth.Text
