/-! # Text and bytes

Text is a list of characters and raw data is a list of bytes, so every rule of the prompt is
a rule on lists.  `split` cuts a list at the occurrences of a separator, which are found from
left to right and never overlap; `join` is its inverse on the pieces, and `cut` is the special
case of the first occurrence.  `lines` reads a text as lines: a line feed ends a line, a
carriage return right before it belongs to the ending, and text after the last line feed is a
line of its own unless it is empty. -/

namespace HaxePrompt

/-- Text is a list of characters. -/
abbrev Text := List Char

/-- Raw data is a list of bytes. -/
abbrev Bytes := List UInt8

/-- A string literal stands for its characters. -/
instance : Coe String Text := ⟨String.toList⟩

namespace Text

/-! ### Splitting at a separator -/

section Split

variable {α : Type}

/-- The pieces with the separator between every two of them. -/
def join (sep : List α) (pieces : List (List α)) : List α := sep.intercalate pieces

theorem join_cons_cons (sep p q : List α) (rest : List (List α)) :
    join sep (p :: q :: rest) = p ++ sep ++ join sep (q :: rest) := by
  simp [join, List.intercalate, List.intersperse]

variable [DecidableEq α]

/-- The pieces of a list between occurrences of `sep`.  The first argument counts the elements
that still belong to the occurrence found last; the second is the current piece, newest element
first. -/
def splitFrom (sep : List α) : Nat → List α → List α → List (List α)
  | _, piece, [] => [piece.reverse]
  | skip + 1, piece, _ :: rest => splitFrom sep skip piece rest
  | 0, piece, a :: rest =>
    if sep.isPrefixOf (a :: rest) then
      piece.reverse :: splitFrom sep (sep.length - 1) [] rest
    else
      splitFrom sep 0 (a :: piece) rest

/-- The pieces of a list between the occurrences of a nonempty separator. -/
def split (sep s : List α) : List (List α) := splitFrom sep 0 [] s

theorem splitFrom_ne_nil (sep : List α) (skip : Nat) (piece s : List α) :
    splitFrom sep skip piece s ≠ [] := by
  fun_induction splitFrom sep skip piece s <;> simp_all

theorem split_ne_nil (sep s : List α) : split sep s ≠ [] := splitFrom_ne_nil sep 0 [] s

theorem join_splitFrom {sep : List α} (h : sep ≠ []) (skip : Nat) (piece s : List α) :
    join sep (splitFrom sep skip piece s) = piece.reverse ++ s.drop skip := by
  fun_induction splitFrom sep skip piece s with
  | case1 => simp [join]
  | case2 skip piece a rest ih => simpa using ih
  | case3 piece a rest hp ih =>
    obtain ⟨p, ps, hps⟩ :=
      List.exists_cons_of_ne_nil (splitFrom_ne_nil sep (sep.length - 1) [] rest)
    obtain ⟨t, ht⟩ := List.isPrefixOf_iff_prefix.mp hp
    rw [hps] at ih ⊢
    rw [join_cons_cons, ih]
    cases sep with
    | nil => exact absurd rfl h
    | cons b sep =>
      obtain ⟨rfl, rfl⟩ := List.cons.inj ht
      simp
  | case4 piece a rest _ ih => simp [ih]

theorem join_split {sep : List α} (h : sep ≠ []) (s : List α) : join sep (split sep s) = s := by
  simp [split, join_splitFrom h]

/-- What stands before and after the first occurrence of the separator, if there is one. -/
def cut (sep s : List α) : Option (List α × List α) :=
  match split sep s with
  | piece :: next :: rest => some (piece, join sep (next :: rest))
  | _ => none

/-- Does the separator occur in the list? -/
def occursIn (sep s : List α) : Bool := (cut sep s).isSome

end Split

/-! ### Lines -/

/-- The line feed that ends a line. -/
def newline : Text := ['\n']

/-- A line without the carriage return of its ending. -/
def dropReturn (line : Text) : Text :=
  if line.getLast? = some '\r' then line.dropLast else line

/-- The lines among the pieces between line feeds: each piece but the last was ended by a line
feed, and the last is a line only if it holds something. -/
def linesOfPieces : List Text → List Text
  | [] => []
  | [last] => if last = [] then [] else [last]
  | piece :: next :: rest => dropReturn piece :: linesOfPieces (next :: rest)

/-- The lines of a text, without their endings. -/
def lines (s : Text) : List Text := linesOfPieces (split newline s)

/-- The lines, each ended by a line feed. -/
def unlines (ls : List Text) : Text := ls.flatMap (· ++ newline)

/-! ### Numbers -/

def decimal (n : Nat) : Text := Nat.toDigits 10 n

/-- Is the character one of the digits `0` to `9`? -/
def isDigit (c : Char) : Bool := '0' ≤ c && c ≤ '9'

/-- The value of a row of digits, leading zeros included. -/
def digitsValue (ds : Text) : Nat := ds.foldl (fun n d => 10 * n + (d.toNat - '0'.toNat)) 0

end Text

end HaxePrompt
