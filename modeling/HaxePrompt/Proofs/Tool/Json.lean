import HaxePrompt.Tool.Json
import HaxePrompt.Proofs.Text.Split

/-! # Reading undoes writing

A quoted text is read back as it was, whatever follows the closing quote (`reads_quote`), and
holds no control character (`noControl_quote`).  An object of members written one after the other
is read back member by member (`parse_writeObject`), if the text of each value is read back
wherever it stands (`Reads`). -/

namespace HaxePrompt.Json

/-! ### Strings -/

theorem codeUnit?_control : ∀ n < 0x20,
    codeUnit? '0' '0' (hexDigits.getD (n / 16) '0') (hexDigits.getD (n % 16) '0') = some n := by
  decide

theorem stringFrom_plain (state : StringState) {c : Char} (hquote : c ≠ '"') (hslash : c ≠ '\\')
    (hcontrol : ¬ c.toNat < 0x20) (rest : Text) :
    stringFrom state (c :: rest) = stringFrom (state.push c) rest := by
  rw [stringFrom.eq_5 _ _ _ hquote (fun _ _ _ _ _ h => absurd h hslash)
    (fun _ _ h => absurd h hslash), if_neg hcontrol]

theorem stringFrom_quoteControl {state : StringState} (hstate : state.leading? = none) {c : Char}
    (hc : c.toNat < 0x20) (rest : Text) :
    stringFrom state (quoteControl c ++ rest) = stringFrom (state.push c) rest := by
  have hunit := codeUnit?_control c.toNat hc
  have hpush : state.pushUnit c.toNat = state.push c := by
    have hleading : isLeading c.toNat = false := by
      simp [isLeading]
      omega
    have htrailing : isTrailing c.toNat = false := by
      simp [isTrailing]
      omega
    unfold StringState.pushUnit
    rw [hstate]
    simp [hleading, htrailing]
  have hform : quoteControl c ++ rest = '\\' :: 'u' :: '0' :: '0' ::
      hexDigits.getD (c.toNat / 16) '0' :: hexDigits.getD (c.toNat % 16) '0' :: rest := rfl
  rw [hform, stringFrom.eq_3, hunit, Option.bind_eq_bind, Option.bind_some, hpush]

theorem stringFrom_quoteChar {state : StringState} (hstate : state.leading? = none) (c : Char)
    (rest : Text) : stringFrom state (quoteChar c ++ rest) = stringFrom (state.push c) rest := by
  unfold quoteChar
  split_ifs with hquote hslash hback htab hline hform hreturn hcontrol
  · rw [hquote]; rfl
  · rw [hslash]; rfl
  · rw [hback]; rfl
  · rw [htab]; rfl
  · rw [hline]; rfl
  · rw [hform]; rfl
  · rw [hreturn]; rfl
  · exact stringFrom_quoteControl hstate hcontrol rest
  · exact stringFrom_plain state hquote hslash hcontrol rest

/-- A text is read back from how it is quoted, behind what has been read before it. -/
theorem stringFrom_quoted (read s rest : Text) :
    stringFrom { text? := some read } (s.flatMap quoteChar ++ '"' :: rest) =
      some (some (read.reverse ++ s), rest) := by
  induction s generalizing read with
  | nil =>
      rw [List.append_nil]
      rfl
  | cons c s ih =>
      rw [List.flatMap_cons, List.append_assoc, stringFrom_quoteChar rfl]
      have hpush : StringState.push { text? := some read } c = { text? := some (c :: read) } := rfl
      rw [hpush, ih, List.reverse_cons, List.append_assoc]
      rfl

/-! ### Control characters -/

/-- The text holds no control character. -/
def NoControl (s : Text) : Prop := ∀ c ∈ s, 0x20 ≤ c.toNat

-- not left to inference, which may as well try every character there is
instance (s : Text) : Decidable (NoControl s) :=
  List.decidableBAll (fun c : Char => 0x20 ≤ c.toNat) s

theorem NoControl.append {s t : Text} (hs : NoControl s) (ht : NoControl t) :
    NoControl (s ++ t) := List.forall_mem_append.mpr ⟨hs, ht⟩

theorem NoControl.join {separator : Text} {texts : List Text} (hseparator : NoControl separator)
    (h : ∀ text ∈ texts, NoControl text) : NoControl (Text.join separator texts) := by
  intro c hc
  rcases Text.mem_join hc with hc | ⟨text, htext, hc⟩
  · exact hseparator c hc
  · exact h text htext c hc

theorem noControl_quoteControl : ∀ n < 0x20, NoControl ['\\', 'u', '0', '0',
    hexDigits.getD (n / 16) '0', hexDigits.getD (n % 16) '0'] := by
  decide

theorem noControl_quoteChar (c : Char) : NoControl (quoteChar c) := by
  unfold quoteChar
  split_ifs with hquote hslash hback htab hline hform hreturn hcontrol
  · decide
  · decide
  · decide
  · decide
  · decide
  · decide
  · decide
  · exact noControl_quoteControl c.toNat hcontrol
  · exact List.forall_mem_singleton.mpr (Nat.le_of_not_lt hcontrol)

theorem noControl_quote (s : Text) : NoControl (quote s) := by
  have hquoted : NoControl (s.flatMap quoteChar) := by
    intro c hc
    obtain ⟨d, _, hc⟩ := List.mem_flatMap.mp hc
    exact noControl_quoteChar d c hc
  have hmark : NoControl ['"'] := by decide
  exact (hmark.append hquoted).append hmark

/-! ### Values -/

/-- The text is read as the value wherever it stands. -/
def Reads (text : Text) (json : Json) : Prop :=
  ∀ fuel rest, value (fuel + 1) (text ++ rest) = some (json, rest)

theorem reads_null : Reads "null" .null := fun _ _ => rfl

theorem reads_true : Reads "true" (.bool true) := fun _ _ => rfl

theorem reads_false : Reads "false" (.bool false) := fun _ _ => rfl

/-- **Reading undoes quoting.** -/
theorem reads_quote (s : Text) : Reads (quote s) (.string (some s)) := by
  intro fuel rest
  have hform : quote s ++ rest = '"' :: (s.flatMap quoteChar ++ '"' :: rest) := by
    simp [quote]
  have hskip : skipBlanks ('"' :: (s.flatMap quoteChar ++ '"' :: rest)) =
      '"' :: (s.flatMap quoteChar ++ '"' :: rest) := rfl
  rw [hform, value, hskip]
  simp only [stringFrom_quoted, Option.map_some, List.reverse_nil, List.nil_append]

/-! ### Objects -/

/-- A member of an object: its name, the text of its value, and what this is read as. -/
structure Member where
  name : Text
  text : Text
  json : Json
  reads : Reads text json

namespace Member

def write (member : Member) : Text := quote member.name ++ ':' :: member.text

def read (member : Member) : Option Text × Json := (some member.name, member.json)

end Member

/-- The object that has the members, as it is written. -/
def writeObject (ms : List Member) : Text :=
  '\x7b' :: (Text.join [','] (ms.map Member.write) ++ ['\x7d'])

theorem writeObject_pair (a b : Member) :
    writeObject [a, b] = '\x7b' :: (a.write ++ [','] ++ b.write ++ ['\x7d']) := by
  rw [writeObject, List.map_cons, List.map_singleton, Text.join_cons_cons, Text.join_singleton]

theorem noControl_writeObject {ms : List Member} (h : ∀ member ∈ ms, NoControl member.text) :
    NoControl (writeObject ms) := by
  have hcolon : NoControl [':'] := by decide
  have hcomma : NoControl [','] := by decide
  have hopening : NoControl ['\x7b'] := by decide
  have hclosing : NoControl ['\x7d'] := by decide
  have hmembers : ∀ text ∈ ms.map Member.write, NoControl text := by
    intro text htext
    obtain ⟨member, hmember, rfl⟩ := List.mem_map.mp htext
    exact (noControl_quote member.name).append (hcolon.append (h member hmember))
  exact hopening.append ((hcomma.join hmembers).append hclosing)

/-- A member is read back, and what follows it decides how the object goes on. -/
theorem members_write (fuel : Nat) (before : List (Option Text × Json)) (member : Member)
    (rest : Text) :
    members (fuel + 2) before (member.write ++ rest) =
      match skipBlanks rest with
      | ',' :: rest => members (fuel + 1) (member.read :: before) rest
      | '\x7d' :: rest => some (.object (member.read :: before).reverse, rest)
      | _ => none := by
  have hform : member.write ++ rest =
      '"' :: (member.name.flatMap quoteChar ++ '"' :: ':' :: (member.text ++ rest)) := by
    simp [Member.write, quote]
  have hquote : ∀ s : Text, skipBlanks ('"' :: s) = '"' :: s := fun _ => rfl
  have hcolon : ∀ s : Text, skipBlanks (':' :: s) = ':' :: s := fun _ => rfl
  rw [hform, members, hquote]
  simp only [stringFrom_quoted, Option.bind_eq_bind, Option.bind_some, List.reverse_nil,
    List.nil_append, hcolon, member.reads fuel rest]
  rfl

theorem members_join {fuel : Nat} {ms : List Member} (hne : ms ≠ []) (hfuel : ms.length < fuel)
    (before : List (Option Text × Json)) (rest : Text) :
    members fuel before (Text.join [','] (ms.map Member.write) ++ '\x7d' :: rest) =
      some (.object (before.reverse ++ ms.map Member.read), rest) := by
  induction ms generalizing fuel before with
  | nil => exact absurd rfl hne
  | cons member ms ih =>
      obtain ⟨fuel, rfl⟩ : ∃ n, fuel = n + 2 := ⟨fuel - 2, by simp at hfuel; omega⟩
      rw [List.length_cons] at hfuel
      have hskip : ∀ s : Text, skipBlanks ('\x7d' :: s) = '\x7d' :: s := fun _ => rfl
      have hcomma : ∀ s : Text, skipBlanks ([','] ++ s) = ',' :: s := fun _ => rfl
      cases ms with
      | nil =>
          rw [List.map_singleton, Text.join_singleton, members_write, hskip]
          simp
      | cons next ms =>
          have hmore : (next :: ms).length < fuel + 1 := by omega
          have hnext := ih (List.cons_ne_nil next ms) hmore (member.read :: before)
          rw [List.map_cons] at hnext ⊢
          rw [List.map_cons, Text.join_cons_cons, List.append_assoc, List.append_assoc,
            members_write, hcomma]
          simp only
          rw [hnext]
          simp

theorem exists_join_eq {ms : List Member} (hne : ms ≠ []) :
    ∃ s, Text.join [','] (ms.map Member.write) = '"' :: s := by
  cases ms with
  | nil => exact absurd rfl hne
  | cons member ms =>
      cases ms with
      | nil => exact ⟨_, Text.join_singleton _ _⟩
      | cons next ms => exact ⟨_, Text.join_cons_cons _ _ _ _⟩

theorem length_le_length_join (ms : List Member) :
    ms.length ≤ (Text.join [','] (ms.map Member.write)).length := by
  induction ms with
  | nil => exact Nat.zero_le _
  | cons member ms ih =>
      have hpos : 1 ≤ member.write.length := by
        simp [Member.write, quote]
      cases ms with
      | nil =>
          rw [List.map_singleton, Text.join_singleton]
          exact hpos
      | cons next ms =>
          rw [List.map_cons] at ih ⊢
          rw [List.map_cons, Text.join_cons_cons, List.length_append, List.length_append,
            List.length_cons]
          omega

theorem value_writeObject {fuel : Nat} {ms : List Member} (hne : ms ≠ [])
    (hfuel : ms.length < fuel) (rest : Text) :
    value (fuel + 1) (writeObject ms ++ rest) = some (.object (ms.map Member.read), rest) := by
  obtain ⟨s, hs⟩ := exists_join_eq hne
  have hmembers := members_join hne hfuel [] rest
  have hform : writeObject ms ++ rest =
      '\x7b' :: (Text.join [','] (ms.map Member.write) ++ '\x7d' :: rest) := by
    simp [writeObject]
  have hbrace : ∀ s : Text, skipBlanks ('\x7b' :: s) = '\x7b' :: s := fun _ => rfl
  have hquote : ∀ s : Text, skipBlanks ('"' :: s) = '"' :: s := fun _ => rfl
  rw [hs] at hform hmembers
  rw [hform, value, hbrace]
  simp only [List.cons_append, hquote] at hmembers ⊢
  exact hmembers

/-- **Reading undoes the writing of an object.** -/
theorem parse_writeObject {ms : List Member} (hne : ms ≠ []) :
    parse (writeObject ms) = some (.object (ms.map Member.read)) := by
  have hlength := length_le_length_join ms
  have hfuel : ms.length < 2 * (writeObject ms).length + 1 := by
    simp only [writeObject, List.length_cons, List.length_append]
    omega
  have hvalue := value_writeObject hne hfuel []
  rw [List.append_nil] at hvalue
  rw [parse, hvalue]
  rfl

end HaxePrompt.Json
