import HaxePrompt.Text.Basic

/-! # JSON

The evaluator is spoken to in JSON texts.  `Json.parse` reads one, with blanks around it, and
`Json.quote` writes a string.  Numbers are recognized and not kept.  A string may name surrogate
code units that do not pair up to a character: it is recognized, and it has no text. -/

namespace HaxePrompt

/-- A JSON value. -/
inductive Json where
  | null
  | bool (value : Bool)
  | number
  /-- A string, with its text if its escapes spell characters. -/
  | string (text? : Option Text)
  | array (items : List Json)
  | object (members : List (Option Text × Json))

namespace Json

/-! ### Writing -/

def hexDigits : List Char := "0123456789abcdef".toList

/-- A control character by its number. -/
def quoteControl (c : Char) : Text :=
  "\\u00" ++ [hexDigits.getD (c.toNat / 16) '0', hexDigits.getD (c.toNat % 16) '0']

/-- A character inside a string. -/
def quoteChar (c : Char) : Text :=
  if c = '"' then "\\\""
  else if c = '\\' then "\\\\"
  else if c = '\x08' then "\\b"
  else if c = '\t' then "\\t"
  else if c = '\n' then "\\n"
  else if c = '\x0c' then "\\f"
  else if c = '\r' then "\\r"
  else if c.toNat < 0x20 then quoteControl c
  else [c]

def quote (s : Text) : Text := ['"'] ++ s.flatMap quoteChar ++ ['"']

/-! ### Reading strings -/

/-- Is the character white space between the parts of a JSON text? -/
def isBlank (c : Char) : Bool := c == ' ' || c == '\n' || c == '\t' || c == '\r'

/-- The text from its first part on. -/
def skipBlanks (s : Text) : Text := s.dropWhile isBlank

def hexValue? (c : Char) : Option Nat :=
  if '0' ≤ c && c ≤ '9' then some (c.toNat - '0'.toNat)
  else if 'a' ≤ c && c ≤ 'f' then some (c.toNat - 'a'.toNat + 10)
  else if 'A' ≤ c && c ≤ 'F' then some (c.toNat - 'A'.toNat + 10)
  else none

/-- The code unit of four hexadecimal digits. -/
def codeUnit? (a b c d : Char) : Option Nat := do
  return 4096 * (← hexValue? a) + 256 * (← hexValue? b) + 16 * (← hexValue? c) + (← hexValue? d)

/-- Is the code unit the first of a pair? -/
def isLeading (unit : Nat) : Bool := 0xD800 ≤ unit && unit ≤ 0xDBFF

/-- Is the code unit the second of a pair? -/
def isTrailing (unit : Nat) : Bool := 0xDC00 ≤ unit && unit ≤ 0xDFFF

/-- The character of a pair of code units. -/
def ofPair (leading trailing : Nat) : Char :=
  Char.ofNat (0x10000 + 1024 * (leading - 0xD800) + (trailing - 0xDC00))

/-- The character of an escape of one character. -/
def escaped? (c : Char) : Option Char :=
  if c = '"' ∨ c = '\\' ∨ c = '/' then some c
  else if c = 'b' then some '\x08'
  else if c = 'f' then some '\x0c'
  else if c = 'n' then some '\n'
  else if c = 'r' then some '\r'
  else if c = 't' then some '\t'
  else none

/-- What has been read of a string: its text, newest character first, unless its escapes failed
to spell a character, and a leading code unit that waits for its partner. -/
structure StringState where
  text? : Option Text := some []
  /-- The code unit that waits for its partner. -/
  leading? : Option Nat := none
deriving DecidableEq, Repr

namespace StringState

/-- The state after a leading unit found no partner. -/
def settle (state : StringState) : StringState :=
  if state.leading?.isSome then { text? := none } else state

/-- The state after one more character. -/
def push (state : StringState) (c : Char) : StringState :=
  { text? := state.settle.text?.map (c :: ·) }

/-- The state after one more code unit. -/
def pushUnit (state : StringState) (unit : Nat) : StringState :=
  match state.leading? with
  | some leading =>
    if isTrailing unit then { text? := state.text?.map (ofPair leading unit :: ·) }
    else if isLeading unit then { text? := none, leading? := some unit }
    else { text? := none }
  | none =>
    if isLeading unit then { state with leading? := some unit }
    else if isTrailing unit then { text? := none }
    else state.push (Char.ofNat unit)

def finish (state : StringState) : Option Text := state.settle.text?.map List.reverse

end StringState

/-- The rest of a string, of which a part has been read, and the text after its closing
quote. -/
def stringFrom (state : StringState) : Text → Option (Option Text × Text)
  | [] => none
  | '"' :: rest => some (state.finish, rest)
  | '\\' :: 'u' :: a :: b :: c :: d :: rest => do
    let unit ← codeUnit? a b c d
    stringFrom (state.pushUnit unit) rest
  | '\\' :: c :: rest => do
    let char ← escaped? c
    stringFrom (state.push char) rest
  | c :: rest => if c.toNat < 0x20 then none else stringFrom (state.push c) rest

/-! ### Reading numbers -/

/-- The text after one or more digits. -/
def skipDigits? (s : Text) : Option Text :=
  match s with
  | c :: rest => if Text.isDigit c then some (rest.dropWhile Text.isDigit) else none
  | [] => none

/-- The text after the whole part of a number: a zero, or digits that begin with another one. -/
def skipWhole? (s : Text) : Option Text :=
  match s with
  | '0' :: c :: rest => if Text.isDigit c then none else some (c :: rest)
  | _ => skipDigits? s

/-- The text after the fraction of a number, if it has one. -/
def skipFraction? (s : Text) : Option Text :=
  match s with
  | '.' :: rest => skipDigits? rest
  | _ => some s

/-- The text after the exponent of a number, if it has one. -/
def skipExponent? (s : Text) : Option Text :=
  match s with
  | c :: rest =>
    if c = 'e' ∨ c = 'E' then
      match rest with
      | sign :: digits =>
        if sign = '+' ∨ sign = '-' then skipDigits? digits else skipDigits? rest
      | [] => none
    else some s
  | [] => some s

/-- The text after a number. -/
def skipNumber? (s : Text) : Option Text := do
  let whole ← skipWhole? (match s with | '-' :: rest => rest | _ => s)
  let fraction ← skipFraction? whole
  skipExponent? fraction

/-! ### Reading values -/

mutual

/-- A value at the beginning of a text, and the text after it.  The first argument bounds the
depth of the recursion. -/
def value : Nat → Text → Option (Json × Text)
  | 0, _ => none
  | fuel + 1, s =>
    match skipBlanks s with
    | 'n' :: 'u' :: 'l' :: 'l' :: rest => some (.null, rest)
    | 't' :: 'r' :: 'u' :: 'e' :: rest => some (.bool true, rest)
    | 'f' :: 'a' :: 'l' :: 's' :: 'e' :: rest => some (.bool false, rest)
    | '"' :: rest => (stringFrom {} rest).map fun (text, rest) => (.string text, rest)
    | '[' :: rest =>
      match skipBlanks rest with
      | ']' :: rest => some (.array [], rest)
      | rest => items fuel [] rest
    | '\x7b' :: rest =>
      match skipBlanks rest with
      | '\x7d' :: rest => some (.object [], rest)
      | rest => members fuel [] rest
    | rest => (skipNumber? rest).map fun rest => (.number, rest)

/-- The rest of an array, after the items read so far, newest first. -/
def items : Nat → List Json → Text → Option (Json × Text)
  | 0, _, _ => none
  | fuel + 1, read, s => do
    let (item, rest) ← value fuel s
    match skipBlanks rest with
    | ',' :: rest => items fuel (item :: read) rest
    | ']' :: rest => some (.array (item :: read).reverse, rest)
    | _ => none

/-- The rest of an object, after the members read so far, newest first. -/
def members : Nat → List (Option Text × Json) → Text → Option (Json × Text)
  | 0, _, _ => none
  | fuel + 1, read, s =>
    match skipBlanks s with
    | '"' :: rest => do
      let (name, rest) ← stringFrom {} rest
      match skipBlanks rest with
      | ':' :: rest =>
        let (member, rest) ← value fuel rest
        match skipBlanks rest with
        | ',' :: rest => members fuel ((name, member) :: read) rest
        | '\x7d' :: rest => some (.object ((name, member) :: read).reverse, rest)
        | _ => none
      | _ => none
    | _ => none

end

/-- Reads a text that holds one value.  Every value and every member takes a character, so twice
the length of the text bounds the depth. -/
def parse (s : Text) : Option Json := do
  let (json, rest) ← value (2 * s.length + 2) s
  if skipBlanks rest = [] then some json else none

end Json

end HaxePrompt
