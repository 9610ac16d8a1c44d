import HaxePrompt.Proofs.Tool.Json
import Mathlib.Data.List.TakeWhile

/-! # Fragments of quoted text

A quoted text that is cut into pieces is no longer quoted.  Its first piece begins a string that
does not end (`stringFrom_inside`).  A later piece is read outside of quotes, as if it were JSON.
No string can be read in it, and so no member of an object (`members_fragment`), because every quote
of the text has a backslash before it, and a backslash stands nowhere but in a string
(`Passes.fragment`).  Only the last piece has a quote of its own, that which was to close the text:
this opens a string that does not end. -/

namespace HaxePrompt.Json

/-- A text as it stands between the quotes. -/
def inside (s : Text) : Text := s.flatMap quoteChar

theorem stringFrom_inside (read s : Text) :
    stringFrom { text? := some read } (inside s) = none := by
  induction s generalizing read with
  | nil => rfl
  | cons c s ih =>
      have hpush : StringState.push { text? := some read } c = { text? := some (c :: read) } := rfl
      rw [inside, List.flatMap_cons, stringFrom_quoteChar rfl, hpush]
      exact ih (c :: read)

theorem quoteChar_eq (c : Char) :
    quoteChar c = [c] ∧ c ≠ '"' ∨ ∃ rest, quoteChar c = '\\' :: rest := by
  unfold quoteChar
  split_ifs with hquote hslash hback htab hline hform hreturn hcontrol
  · exact Or.inr ⟨_, rfl⟩
  · exact Or.inr ⟨_, rfl⟩
  · exact Or.inr ⟨_, rfl⟩
  · exact Or.inr ⟨_, rfl⟩
  · exact Or.inr ⟨_, rfl⟩
  · exact Or.inr ⟨_, rfl⟩
  · exact Or.inr ⟨_, rfl⟩
  · exact Or.inr ⟨_, rfl⟩
  · exact Or.inl ⟨rfl, hquote⟩

/-- The value of a member of an object: the last one that has the name. -/
def member? (name : Text) : Json → Option Json
  | .object members => (members.reverse.find? (·.1 = some name)).map (·.2)
  | _ => none

/-! ### Passing over text -/

/-- The character is neither a quote nor a backslash. -/
def IsPlain (c : Char) : Prop := c ≠ '"' ∧ c ≠ '\\'

instance (c : Char) : Decidable (IsPlain c) := inferInstanceAs (Decidable (_ ∧ _))

/-- All characters of the text are. -/
def AllPlain (s : Text) : Prop := ∀ c ∈ s, IsPlain c

-- as for `NoControl`, found over the characters of the text
instance (s : Text) : Decidable (AllPlain s) := List.decidableBAll IsPlain s

/-- The rest of the text stands behind plain characters. -/
def Passes (s rest : Text) : Prop := ∃ front, s = front ++ rest ∧ AllPlain front

namespace Passes

variable {s rest rest' : Text} {c : Char}

theorem refl (s : Text) : Passes s s := ⟨[], rfl, nofun⟩

theorem trans (h : Passes s rest) (h' : Passes rest rest') : Passes s rest' := by
  obtain ⟨front, rfl, hfront⟩ := h
  obtain ⟨front', rfl, hfront'⟩ := h'
  exact ⟨front ++ front', (List.append_assoc _ _ _).symm,
    List.forall_mem_append.mpr ⟨hfront, hfront'⟩⟩

theorem cons (hc : IsPlain c) (h : Passes s rest) : Passes (c :: s) rest := by
  obtain ⟨front, rfl, hfront⟩ := h
  exact ⟨c :: front, rfl, List.forall_mem_cons.mpr ⟨hc, hfront⟩⟩

theorem dropWhile {p : Char → Bool} (h : ∀ c, p c = true → IsPlain c) (s : Text) :
    Passes s (s.dropWhile p) :=
  ⟨s.takeWhile p, List.takeWhile_append_dropWhile.symm, fun _ hc =>
    h _ (List.mem_takeWhile_imp hc)⟩

theorem skipBlanks (s : Text) : Passes s (skipBlanks s) := by
  apply dropWhile
  intro c hc
  unfold isBlank at hc
  constructor <;> rintro rfl <;> revert hc <;> decide

theorem isPlain_of_isDigit (h : Text.isDigit c = true) : IsPlain c := by
  constructor <;> rintro rfl <;> revert h <;> decide

/-! A number is read without quotes and backslashes. -/

theorem skipDigits? (h : skipDigits? s = some rest) : Passes s rest := by
  unfold Json.skipDigits? at h
  split at h
  · split at h
    · rename_i hdigit
      cases h
      exact (dropWhile (fun _ => isPlain_of_isDigit) _).cons (isPlain_of_isDigit hdigit)
    · cases h
  · cases h

theorem skipWhole? (h : skipWhole? s = some rest) : Passes s rest := by
  unfold Json.skipWhole? at h
  split at h
  · split at h
    · cases h
    · cases h
      exact (refl _).cons (by decide)
  · exact skipDigits? h

theorem skipFraction? (h : skipFraction? s = some rest) : Passes s rest := by
  unfold Json.skipFraction? at h
  split at h
  · exact (skipDigits? h).cons (by decide)
  · cases h
    exact refl _

theorem skipExponent? (h : skipExponent? s = some rest) : Passes s rest := by
  unfold Json.skipExponent? at h
  split at h
  · rename_i c s
    split at h
    · rename_i hletter
      have hplain : IsPlain c := by
        obtain rfl | rfl := hletter <;> decide
      split at h
      · rename_i sign digits
        split at h
        · rename_i hsign
          have hplain' : IsPlain sign := by
            obtain rfl | rfl := hsign <;> decide
          exact ((skipDigits? h).cons hplain').cons hplain
        · exact (skipDigits? h).cons hplain
      · cases h
    · cases h
      exact refl _
  · cases h
    exact refl _

theorem skipNumber? (h : skipNumber? s = some rest) : Passes s rest := by
  obtain ⟨whole, hwhole, h⟩ := Option.bind_eq_some_iff.mp h
  obtain ⟨fraction, hfraction, h⟩ := Option.bind_eq_some_iff.mp h
  have hback : Passes whole rest := (skipFraction? hfraction).trans (skipExponent? h)
  split at hwhole
  · exact ((skipWhole? hwhole).trans hback).cons (by decide)
  · exact (skipWhole? hwhole).trans hback

end Passes

/-! ### Reading a fragment -/

/-- What stands behind quoted text: nothing, if the text is cut off there, or the end of the
object that it was quoted for. -/
def IsClosing (closing : Text) : Prop := closing = [] ∨ closing = ['"', '\x7d']

/-- The text is quoted text without its first quote. -/
def IsFragment (closing s : Text) : Prop := ∃ t, s = inside t ++ closing

section Fragment

variable {closing s rest : Text}

/-- A fragment from which plain characters are taken is one still. -/
theorem Passes.fragment (hclosing : IsClosing closing) (hs : IsFragment closing s)
    (h : Passes s rest) : IsFragment closing rest := by
  obtain ⟨t, rfl⟩ := hs
  obtain ⟨front, heq, hfront⟩ := h
  induction front generalizing t with
  | nil => exact ⟨t, heq.symm⟩
  | cons c front ih =>
      obtain ⟨hc, hfront⟩ := List.forall_mem_cons.mp hfront
      cases t with
      | nil =>
          -- behind the text stands no plain character
          obtain rfl | rfl := hclosing
          · cases heq
          · exact absurd (List.cons_eq_cons.mp heq).1.symm hc.1
      | cons d t =>
          obtain ⟨hself, -⟩ | ⟨escape, hescape⟩ := quoteChar_eq d
          · rw [inside, List.flatMap_cons, hself] at heq
            exact ih t (List.cons_eq_cons.mp heq).2 hfront
          · rw [inside, List.flatMap_cons, hescape] at heq
            exact absurd (List.cons_eq_cons.mp heq).1.symm hc.2

theorem IsFragment.behind (hclosing : IsClosing closing) (hs : IsFragment closing s) (front : Text)
    (heq : s = front ++ rest) (hfront : AllPlain front) : IsFragment closing rest :=
  Passes.fragment hclosing hs ⟨front, heq, hfront⟩

theorem IsFragment.skipBlanks (hclosing : IsClosing closing) (hs : IsFragment closing s) :
    IsFragment closing (skipBlanks s) := (Passes.skipBlanks s).fragment hclosing hs

/-- Only the quote that was to close the text opens a string, and this does not end. -/
theorem stringFrom_fragment (hclosing : IsClosing closing) (hs : IsFragment closing ('"' :: rest)) :
    stringFrom {} rest = none := by
  obtain ⟨t, heq⟩ := hs
  cases t with
  | nil =>
      obtain rfl | rfl := hclosing
      · cases heq
      · obtain rfl := (List.cons_eq_cons.mp heq).2
        rfl
  | cons d t =>
      obtain ⟨hself, hquote⟩ | ⟨escape, hescape⟩ := quoteChar_eq d
      · rw [inside, List.flatMap_cons, hself] at heq
        exact absurd (List.cons_eq_cons.mp heq).1.symm hquote
      · rw [inside, List.flatMap_cons, hescape] at heq
        exact absurd (List.cons_eq_cons.mp heq).1 (by decide)

/-- A fragment has no member of an object. -/
theorem members_fragment (hclosing : IsClosing closing) (hs : IsFragment closing s) (fuel : Nat)
    (read : List (Option Text × Json)) : members fuel read s = none := by
  cases fuel with
  | zero => rfl
  | succ fuel =>
      have hfirst := hs.skipBlanks hclosing
      rw [members]
      split
      · rename_i rest hquote
        rw [stringFrom_fragment hclosing (hquote ▸ hfirst)]
        rfl
      · rfl

/-- What reading a value of a fragment comes to: a fragment is left, and the value has no
member. -/
def ReadsBare (closing : Text) (read : Option (Json × Text)) : Prop :=
  ∀ json rest, read = some (json, rest) →
    IsFragment closing rest ∧ ∀ name, json.member? name = none

theorem readsBare_none : ReadsBare closing none := nofun

theorem readsBare_some {json : Json} (hrest : IsFragment closing rest)
    (hjson : ∀ name, json.member? name = none) : ReadsBare closing (some (json, rest)) := by
  rintro _ _ ⟨⟩
  exact ⟨hrest, hjson⟩

theorem readsBare_value (hclosing : IsClosing closing) {fuel : Nat}
    (hitems : ∀ read s, IsFragment closing s → ReadsBare closing (items fuel read s))
    (hs : IsFragment closing s) : ReadsBare closing (value (fuel + 1) s) := by
  have hfirst := hs.skipBlanks hclosing
  rw [value]
  split
  · rename_i hnull
    exact readsBare_some (hfirst.behind hclosing "null" hnull (by decide)) fun _ => rfl
  · rename_i htrue
    exact readsBare_some (hfirst.behind hclosing "true" htrue (by decide)) fun _ => rfl
  · rename_i hfalse
    exact readsBare_some (hfirst.behind hclosing "false" hfalse (by decide)) fun _ => rfl
  · rename_i hquote
    rw [stringFrom_fragment hclosing (hquote ▸ hfirst)]
    exact readsBare_none
  · rename_i hopening
    have hnext := (hfirst.behind hclosing "[" hopening (by decide)).skipBlanks hclosing
    split
    · rename_i hempty
      exact readsBare_some (hnext.behind hclosing "]" hempty (by decide)) fun _ => rfl
    · exact hitems [] _ hnext
  · rename_i hopening
    have hnext := (hfirst.behind hclosing "\x7b" hopening (by decide)).skipBlanks hclosing
    split
    · rename_i hempty
      exact readsBare_some (hnext.behind hclosing "\x7d" hempty (by decide)) fun _ => rfl
    · rw [members_fragment hclosing hnext]
      exact readsBare_none
  · intro json rest hnumber
    obtain ⟨_, hskip, heq⟩ := Option.map_eq_some_iff.mp hnumber
    cases heq
    exact ⟨(Passes.skipNumber? hskip).fragment hclosing hfirst, fun _ => rfl⟩

theorem readsBare_items (hclosing : IsClosing closing) {fuel : Nat}
    (hvalue : ∀ s, IsFragment closing s → ReadsBare closing (value fuel s))
    (hitems : ∀ read s, IsFragment closing s → ReadsBare closing (items fuel read s))
    (read : List Json) (hs : IsFragment closing s) :
    ReadsBare closing (items (fuel + 1) read s) := by
  intro json rest h
  obtain ⟨⟨item, behind⟩, hitem, h⟩ := Option.bind_eq_some_iff.mp h
  have hnext := (hvalue s hs item behind hitem).1.skipBlanks hclosing
  dsimp only at h
  split at h
  · rename_i hcomma
    exact hitems _ _ (hnext.behind hclosing "," hcomma (by decide)) json rest h
  · rename_i hclose
    cases h
    exact ⟨hnext.behind hclosing "]" hclose (by decide), fun _ => rfl⟩
  · cases h

theorem readsBare_value_items (hclosing : IsClosing closing) (fuel : Nat) :
    (∀ s, IsFragment closing s → ReadsBare closing (value fuel s)) ∧
      ∀ read s, IsFragment closing s → ReadsBare closing (items fuel read s) := by
  induction fuel with
  | zero => exact ⟨fun _ _ => readsBare_none, fun _ _ _ => readsBare_none⟩
  | succ fuel ih =>
      exact ⟨fun _ => readsBare_value hclosing ih.2,
        fun read _ => readsBare_items hclosing ih.1 ih.2 read⟩

/-- A fragment that is a JSON text has no member. -/
theorem member?_of_parse (hclosing : IsClosing closing) (hs : IsFragment closing s) {json : Json}
    (h : parse s = some json) (name : Text) : json.member? name = none := by
  obtain ⟨⟨json', rest⟩, hvalue, h⟩ := Option.bind_eq_some_iff.mp h
  have hbare := ((readsBare_value_items hclosing _).1 s hs json' rest hvalue).2 name
  dsimp only at h
  split_ifs at h
  cases h
  exact hbare

theorem parse_lastPiece (hs : IsFragment ['"', '\x7d'] s) : parse s = none := by
  have hclosing : IsClosing ['"', '\x7d'] := Or.inr rfl
  cases hvalue : value (2 * s.length + 2) s with
  | none =>
      rw [parse, hvalue]
      rfl
  | some read =>
      obtain ⟨json, rest⟩ := read
      obtain ⟨t, ht⟩ :=
        (((readsBare_value_items hclosing _).1 s hs json rest hvalue).1).skipBlanks hclosing
      have hmore : skipBlanks rest ≠ [] := by
        rw [ht]
        exact List.append_ne_nil_of_right_ne_nil _ (List.cons_ne_nil _ _)
      rw [parse, hvalue, Option.bind_eq_bind, Option.bind_some]
      exact if_neg hmore

end Fragment

section First

variable (fuel : Nat) (name s : Text)

theorem skipBlanks_quote (s : Text) : skipBlanks ('"' :: s) = '"' :: s := rfl

theorem value_unclosed : value fuel ('"' :: inside s) = none := by
  cases fuel with
  | zero => rfl
  | succ fuel =>
      rw [value, skipBlanks_quote]
      simp only [stringFrom_inside [] s, Option.map_none]

theorem members_unclosed :
    members fuel [] ('"' :: (inside name ++ '"' :: ':' :: '"' :: inside s)) = none := by
  cases fuel with
  | zero => rfl
  | succ fuel =>
      have hcolon : ∀ s : Text, skipBlanks (':' :: s) = ':' :: s := fun _ => rfl
      have hname : stringFrom {} (inside name ++ '"' :: ':' :: '"' :: inside s) =
          some (some name, ':' :: '"' :: inside s) := stringFrom_quoted [] name _
      rw [members, skipBlanks_quote]
      simp only [hname, Option.bind_eq_bind, Option.bind_some, hcolon, value_unclosed,
        Option.bind_none]

theorem parse_firstPiece : parse ('\x7b' :: (quote name ++ ':' :: '"' :: inside s)) = none := by
  have hform : quote name ++ ':' :: '"' :: inside s =
      '"' :: (inside name ++ '"' :: ':' :: '"' :: inside s) := by
    simp [quote, inside]
  have hbrace : ∀ s : Text, skipBlanks ('\x7b' :: s) = '\x7b' :: s := fun _ => rfl
  have hvalue : ∀ fuel,
      value fuel ('\x7b' :: '"' :: (inside name ++ '"' :: ':' :: '"' :: inside s)) = none := by
    intro fuel
    cases fuel with
    | zero => rfl
    | succ fuel =>
        rw [value, hbrace]
        simp only [skipBlanks_quote]
        exact members_unclosed fuel name s
  rw [hform, parse, hvalue]
  rfl

end First

end HaxePrompt.Json
