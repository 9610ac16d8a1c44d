import HaxePrompt.Text.Basic

/-! # UTF-8

`decode` reads bytes as UTF-8 from left to right.  Each well-formed sequence gives a character;
each maximal piece that begins a sequence but cannot be continued, and each byte that begins
none, gives one `none`.  `decodeStrict` accepts only bytes without such pieces, and
`decodeLossy` writes the replacement character U+FFFD for each of them.  `encode` is the
writer. -/

namespace HaxePrompt.Utf8

/-- The bytes of a text. -/
def encode (s : Text) : Bytes := s.flatMap String.utf8EncodeChar

/-- A character begun and not complete: how many bytes it still needs, the bounds the next byte
has to lie in, and the bits read so far. -/
structure Partial where
  /-- Bytes still needed, at least one. -/
  missing : Nat
  low : UInt8
  high : UInt8
  value : Nat
deriving DecidableEq, Repr

/-- The first byte of a sequence: what it completes, and what it leaves to be completed.  The
bounds on the second byte keep out sequences that are longer than needed, surrogates and code
points above U+10FFFF. -/
def first (b : UInt8) : List (Option Char) × Option Partial :=
  if b < 0x80 then ([some (Char.ofNat b.toNat)], none)
  else if b < 0xC2 then ([none], none)
  else if b < 0xE0 then ([], some ⟨1, 0x80, 0xBF, b.toNat - 0xC0⟩)
  else if b < 0xF0 then
    ([], some ⟨2, if b = 0xE0 then 0xA0 else 0x80, if b = 0xED then 0x9F else 0xBF,
      b.toNat - 0xE0⟩)
  else if b < 0xF5 then
    ([], some ⟨3, if b = 0xF0 then 0x90 else 0x80, if b = 0xF4 then 0x8F else 0xBF,
      b.toNat - 0xF0⟩)
  else ([none], none)

/-- One byte: what it completes, and what it leaves to be completed. -/
def step : Option Partial → UInt8 → List (Option Char) × Option Partial
  | none, b => first b
  | some p, b =>
    if p.low ≤ b ∧ b ≤ p.high then
      let value := 64 * p.value + (b.toNat - 0x80)
      if p.missing ≤ 1 then ([some (Char.ofNat value)], none)
      else ([], some ⟨p.missing - 1, 0x80, 0xBF, value⟩)
    else
      (none :: (first b).1, (first b).2)

/-- Decoding from the middle of a character. -/
def decodeFrom : Option Partial → Bytes → List (Option Char)
  | none, [] => []
  | some _, [] => [none]
  | pending, b :: rest => (step pending b).1 ++ decodeFrom (step pending b).2 rest

/-- The characters of the bytes, with `none` for each maximal malformed piece. -/
def decode (bytes : Bytes) : List (Option Char) := decodeFrom none bytes

def replacement : Char := '\uFFFD'

/-- The text of the bytes, with the replacement character for each malformed piece. -/
def decodeLossy (bytes : Bytes) : Text := (decode bytes).map (·.getD replacement)

/-- All the characters, if none is missing. -/
def complete : List (Option Char) → Option Text
  | [] => some []
  | none :: _ => none
  | some c :: rest => (complete rest).map (c :: ·)

/-- The text of the bytes, if they are well formed. -/
def decodeStrict (bytes : Bytes) : Option Text := complete (decode bytes)

end HaxePrompt.Utf8
