import HaxePrompt.Text.Basic

/-! # Similar names

How much a word that was typed resembles a name, as a number from 0 to 1.  The characters of the
two words that agree and stand near enough to each other are paired (`pairings`); `agreement`
rates how many there are and how often their order differs, and `similarity` adds to it for a
common beginning.  `closest?` is the name that a misspelt word most likely stands for. -/

namespace HaxePrompt.Text

/-- The places in a second word with which the characters of the first are paired, in the order
of the first word, from its place `i` on.  Every character takes the first place that is free,
holds the same character and is at most `range` away. -/
def pairings (range : Nat) : Nat → Text → List (Nat × Char) → List Nat
  | _, [], _ => []
  | i, c :: rest, free =>
    match free.find? fun (j, d) => i ≤ j + range ∧ j ≤ i + range ∧ c = d with
    | some place => place.1 :: pairings range (i + 1) rest (free.erase place)
    | none => pairings range (i + 1) rest free

/-- How often a list goes down. -/
def descents : List Nat → Nat
  | j :: k :: rest => (if k < j then 1 else 0) + descents (k :: rest)
  | _ => 0

/-- The mean of the paired part of the first word, that of the second, and the part of the pairs
that are in order. -/
def agreement (a b : Text) : Float :=
  let range := max a.length b.length / 2 - 1
  let places := pairings range 0 a ((List.range b.length).zip b)
  let paired := places.length.toFloat
  if places = [] then if a = b then 1.0 else 0.0
  else
    (1.0 / 3.0) * (paired / a.length.toFloat + paired / b.length.toFloat +
      (paired - (descents places).toFloat) / paired)

/-- The number of characters that two words have in common at their beginning. -/
def commonStart (a b : Text) : Nat := ((a.zip b).takeWhile fun (c, d) => c = d).length

/-- How similar two words are: each character of a common beginning brings the agreement nearer
to 1 by a tenth of what it lacks. -/
def similarity (a b : Text) : Float :=
  let base := agreement a b
  let raised := base + 0.1 * (commonStart a b).toFloat * (1.0 - base)
  if raised ≤ 1.0 then raised else 1.0

/-- The similarity that a name has to exceed to be taken for what was meant. -/
def similarityBound : Float := 0.8

/-- The name that is most similar to a word, if one is similar enough; of equally similar names
the first. -/
def closest? (word : Text) (names : List Text) : Option Text :=
  (names.foldl (fun (best : Option (Float × Text)) name =>
    let found := similarity word name
    if best.elim similarityBound (·.1) < found then some (found, name) else best) none).map (·.2)

end HaxePrompt.Text
