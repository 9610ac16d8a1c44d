import HaxePrompt.Proofs.Text.Utf8
import Mathlib.Data.List.Infix

/-! # ASCII characters among others

Lossy decoding neither hides nor makes up an ASCII character: each stands for the one byte that
holds it, whatever the bytes around it are.  So an ASCII text splits what is decoded where its
bytes split what is read (`decodeLossy_append_ascii`), and it occurs in what is decoded exactly
where its bytes occur (`infix_decodeLossy_iff`).  U+0000 is left out: nothing here needs it. -/

namespace HaxePrompt.Utf8

/-- The characters from U+0001 to U+007F. -/
def IsAscii (c : Char) : Prop := 0 < c.toNat ∧ c.toNat < 0x80

instance (c : Char) : Decidable (IsAscii c) := inferInstanceAs (Decidable (_ ∧ _))

/-- What the decoder can have left to be completed: its next byte is no ASCII character, and the
bits read so far, with those to come, make none. -/
structure Partial.Sound (p : Partial) : Prop where
  low : 0x80 ≤ p.low.toNat
  last : p.missing ≤ 1 → 2 ≤ p.value
  more : 2 ≤ p.missing → 1 ≤ p.value ∨ 0x90 ≤ p.low.toNat

/-- A state of the decoder. -/
def Sound (pending : Option Partial) : Prop := ∀ p ∈ pending, p.Sound

theorem sound_none : Sound none := by
  rintro p ⟨⟩

theorem sound_first (b : UInt8) : Sound (first b).2 := by
  have hread := firstRead b
  generalize first b = outcome at hread
  intro p hp
  cases hread with
  | one _ => cases hp
  | stray => cases hp
  | two hlow _ =>
      cases hp
      exact ⟨by simp, fun _ => by simp only; omega, fun h => by simp at h⟩
  | three hlow _ =>
      cases hp
      refine ⟨?_, fun h => by simp at h, fun _ => ?_⟩
      · simp only
        split <;> simp
      · by_cases hb : b = 0xE0
        · simp [hb]
        · have hne : b.toNat ≠ 0xE0 := fun h => hb (UInt8.toNat_inj.mp h)
          simp only
          omega
  | four hlow _ =>
      cases hp
      refine ⟨?_, fun h => by simp at h, fun _ => ?_⟩
      · simp only
        split <;> simp
      · by_cases hb : b = 0xF0
        · simp [hb]
        · have hne : b.toNat ≠ 0xF0 := fun h => hb (UInt8.toNat_inj.mp h)
          simp only
          omega

theorem sound_step {pending : Option Partial} (h : Sound pending) (b : UInt8) :
    Sound (step pending b).2 := by
  cases pending with
  | none => exact sound_first b
  | some p =>
      obtain ⟨hlow, _, hmore⟩ := h p rfl
      have hread := nextRead p b
      generalize step (some p) b = outcome at hread
      cases hread with
      | last _ _ _ => exact sound_none
      | more hmissing hle _ =>
          have hbyte : p.low.toNat ≤ b.toNat := UInt8.le_iff_toNat_le.mp hle
          have hvalue := hmore hmissing
          intro q hq
          cases hq
          exact ⟨by simp, fun _ => by simp only; omega, fun _ => by simp only; omega⟩
      | broken => exact sound_first b

/-! ### An ASCII byte -/

theorem step_ascii {pending : Option Partial} (h : Sound pending) {b : UInt8}
    (hb : b.toNat < 0x80) :
    step pending b = (decodeFrom pending [] ++ [some (Char.ofNat b.toNat)], none) := by
  cases pending with
  | none => rw [step, first_one hb]; rfl
  | some p =>
      have hlow := (h p rfl).low
      have hout : ¬ (p.low ≤ b ∧ b ≤ p.high) := by
        rw [UInt8.le_iff_toNat_le]
        omega
      rw [step, if_neg hout, first_one hb]
      rfl

theorem decodeFrom_append_ascii {pending : Option Partial} (h : Sound pending) {b : UInt8}
    (hb : b.toNat < 0x80) (bytes rest : Bytes) :
    decodeFrom pending (bytes ++ b :: rest) =
      decodeFrom pending bytes ++ some (Char.ofNat b.toNat) :: decodeFrom none rest := by
  induction bytes generalizing pending with
  | nil =>
      rw [List.nil_append, decodeFrom, step_ascii h hb]
      simp
  | cons a bytes ih =>
      rw [List.cons_append, decodeFrom, decodeFrom, ih (sound_step h a), List.append_assoc]

/-! ### An ASCII character -/

theorem toNat_ofNat_of_isValidChar {n : Nat} (h : n.isValidChar) : (Char.ofNat n).toNat = n := by
  rw [Char.ofNat, dif_pos h]
  rfl

theorem toNat_ofNat {n : Nat} (h : n < 0x80) : (Char.ofNat n).toNat = n :=
  toNat_ofNat_of_isValidChar (Or.inl (by omega))

theorem not_isAscii_ofNat {n : Nat} (h : 0x80 ≤ n) : ¬ IsAscii (Char.ofNat n) := by
  unfold IsAscii
  by_cases hvalid : n.isValidChar
  · rw [toNat_ofNat_of_isValidChar hvalid]
    omega
  · simp [Char.ofNat, hvalid, Char.toNat]

theorem not_mem_step {pending : Option Partial} (h : Sound pending) {b : UInt8}
    (hb : 0x80 ≤ b.toNat) {c : Char} (hc : IsAscii c) : some c ∉ (step pending b).1 := by
  have hfirst : some c ∉ (first b).1 := by
    have hread := firstRead b
    generalize first b = outcome at hread
    cases hread with
    | one h => omega
    | two _ _ => exact List.not_mem_nil
    | three _ _ => exact List.not_mem_nil
    | four _ _ => exact List.not_mem_nil
    | stray => simp
  cases pending with
  | none => exact hfirst
  | some p =>
      obtain ⟨hlow, hlast, -⟩ := h p rfl
      have hread := nextRead p b
      generalize step (some p) b = outcome at hread
      cases hread with
      | last hmissing _ _ =>
          have hvalue := hlast hmissing
          intro hmem
          rw [List.mem_singleton, Option.some.injEq] at hmem
          rw [hmem] at hc
          exact not_isAscii_ofNat (by omega) hc
      | more _ _ _ => exact List.not_mem_nil
      | broken =>
          rw [List.mem_cons, not_or]
          exact ⟨by simp, hfirst⟩

theorem not_mem_decodeFrom_nil (pending : Option Partial) (c : Char) :
    some c ∉ decodeFrom pending [] := by
  cases pending <;> simp [decodeFrom]

theorem append_eq_append_cons {α : Type} {s t before after : List α} {a : α}
    (h : s ++ t = before ++ a :: after) :
    (∃ x, before = s ++ x ∧ t = x ++ a :: after) ∨ ∃ x, s = before ++ a :: x ∧ after = x ++ t := by
  rcases List.append_eq_append_iff.mp h with hlater | ⟨x, hs, hx⟩
  · exact Or.inl hlater
  · cases x with
    | nil => exact Or.inl ⟨[], by simpa using hs.symm, by simpa using hx.symm⟩
    | cons d x =>
        obtain ⟨rfl, hafter⟩ := List.cons.inj hx
        exact Or.inr ⟨x, hs, hafter⟩

/-- An ASCII character in what is decoded stands for its byte in what is read. -/
theorem exists_of_decodeFrom_eq {pending : Option Partial} (h : Sound pending) {c : Char}
    (hc : IsAscii c) {bytes : Bytes} {before after : List (Option Char)}
    (heq : decodeFrom pending bytes = before ++ some c :: after) :
    ∃ front b rest, bytes = front ++ b :: rest ∧ b.toNat = c.toNat ∧
      decodeFrom pending front = before ∧ decodeFrom none rest = after := by
  induction bytes generalizing pending before with
  | nil =>
      have hmem : some c ∈ decodeFrom pending [] := by
        rw [heq]
        simp
      exact absurd hmem (not_mem_decodeFrom_nil pending c)
  | cons b bytes ih =>
      rw [decodeFrom] at heq
      rcases append_eq_append_cons heq with ⟨x, hbefore, hlater⟩ | ⟨x, hhere, hafter⟩
      · obtain ⟨front, b', rest, rfl, hb', hfront, hrest⟩ := ih (sound_step h b) hlater
        refine ⟨b :: front, b', rest, rfl, hb', ?_, hrest⟩
        rw [decodeFrom, hfront, hbefore]
      · -- the character is complete with the byte, which is then its own
        have hb : b.toNat < 0x80 := by
          by_contra hb
          apply not_mem_step h (Nat.le_of_not_lt hb) hc
          rw [hhere]
          simp
        rw [step_ascii h hb] at hhere hafter
        rcases append_eq_append_cons hhere with ⟨y, hbefore, hy⟩ | ⟨y, hpending, _⟩
        · obtain ⟨rfl, rfl, rfl⟩ : y = [] ∧ c = Char.ofNat b.toNat ∧ x = [] := by
            simpa [List.singleton_eq_append_iff, List.cons_eq_append_iff] using hy
          refine ⟨[], b, bytes, rfl, ?_, ?_, ?_⟩
          · exact (toNat_ofNat hb).symm
          · rw [hbefore, List.append_nil]
          · rw [hafter, List.nil_append]
        · apply absurd _ (not_mem_decodeFrom_nil pending c)
          rw [hpending]
          simp

/-! ### ASCII texts -/

theorem decodeLossy_append_cons {b : UInt8} (hb : b.toNat < 0x80) (front rest : Bytes) :
    decodeLossy (front ++ b :: rest) =
      decodeLossy front ++ Char.ofNat b.toNat :: decodeLossy rest := by
  unfold decodeLossy decode
  rw [decodeFrom_append_ascii sound_none hb, List.map_append, List.map_cons]
  rfl

theorem encode_cons {c : Char} (hc : IsAscii c) (t : Text) :
    encode (c :: t) = UInt8.ofNat c.toNat :: encode t := by
  have hone : String.utf8EncodeChar c = [UInt8.ofNat c.toNat] := by
    have hle : c.val.toNat ≤ 0x7F := Nat.le_of_lt_succ hc.2
    unfold String.utf8EncodeChar
    simp only
    rw [if_pos hle]
    rfl
  rw [encode, List.flatMap_cons, hone]
  rfl

theorem toNat_ascii {c : Char} (hc : IsAscii c) : (UInt8.ofNat c.toNat).toNat = c.toNat :=
  toNat_byte (by have := hc.2; omega)

theorem decodeLossy_encode_append (t : Text) (rest : Bytes) :
    decodeLossy (encode t ++ rest) = t ++ decodeLossy rest := by
  induction t with
  | nil => rfl
  | cons c t ih =>
      unfold decodeLossy decode encode at ih ⊢
      rw [List.flatMap_cons, List.append_assoc, decodeFrom_char, List.map_cons, ih]
      rfl

/-- The bytes of an ASCII text are that text, and what stands before and after them is decoded
by itself. -/
theorem decodeLossy_append_ascii {t : Text} (ht : ∀ c ∈ t, IsAscii c) (hne : t ≠ [])
    (front rest : Bytes) :
    decodeLossy (front ++ encode t ++ rest) = decodeLossy front ++ t ++ decodeLossy rest := by
  obtain ⟨c, t, rfl⟩ := List.exists_cons_of_ne_nil hne
  have hc := ht c List.mem_cons_self
  have hb := toNat_ascii hc
  have hlt := hc.2
  rw [encode_cons hc, List.append_assoc, List.cons_append, decodeLossy_append_cons (by omega), hb,
    Char.ofNat_toNat, decodeLossy_encode_append, List.append_assoc, List.cons_append]

theorem decodeFrom_some_ne_nil (p : Partial) (bytes : Bytes) : decodeFrom (some p) bytes ≠ [] := by
  induction bytes generalizing p with
  | nil => simp [decodeFrom]
  | cons b bytes ih =>
      rw [decodeFrom]
      have hread := nextRead p b
      generalize step (some p) b = outcome at hread
      cases hread with
      | last _ _ _ => simp
      | more _ _ _ => exact ih _
      | broken => simp

theorem eq_nil_of_decodeFrom_eq_nil {bytes : Bytes} (h : decodeFrom none bytes = []) :
    bytes = [] := by
  cases bytes with
  | nil => rfl
  | cons b bytes =>
      rw [decodeFrom, List.append_eq_nil_iff, step] at h
      have hread := firstRead b
      generalize first b = outcome at hread h
      cases hread with
      | one _ => simp at h
      | stray => simp at h
      | two _ _ => exact absurd h.2 (decodeFrom_some_ne_nil _ bytes)
      | three _ _ => exact absurd h.2 (decodeFrom_some_ne_nil _ bytes)
      | four _ _ => exact absurd h.2 (decodeFrom_some_ne_nil _ bytes)

theorem exists_of_decodeLossy_eq {c : Char} (hc : IsAscii c) {bytes : Bytes} {before after : Text}
    (h : decodeLossy bytes = before ++ c :: after) :
    ∃ front rest, bytes = front ++ UInt8.ofNat c.toNat :: rest ∧ decodeLossy front = before ∧
      decodeLossy rest = after := by
  unfold decodeLossy at h
  obtain ⟨before', later, hdecode, hbefore, hlater⟩ := List.map_eq_append_iff.mp h
  obtain ⟨c', after', rfl, hchar, hafter⟩ := List.map_eq_cons_iff.mp hlater
  have hsome : c' = some c := by
    cases c' with
    | none =>
        rw [Option.getD_none] at hchar
        rw [← hchar] at hc
        exact absurd hc (by decide)
    | some d => rw [← hchar, Option.getD_some]
  rw [hsome] at hdecode
  obtain ⟨front, b, rest, rfl, hb, hfront, hrest⟩ :=
    exists_of_decodeFrom_eq sound_none hc hdecode
  have hbyte : b = UInt8.ofNat c.toNat := by
    rw [← UInt8.toNat_inj, toNat_ascii hc, hb]
  refine ⟨front, rest, by rw [hbyte], ?_, ?_⟩
  · rw [decodeLossy, decode, hfront, hbefore]
  · rw [decodeLossy, decode, hrest, hafter]

theorem prefix_of_prefix_decodeLossy {t : Text} (ht : ∀ c ∈ t, IsAscii c) {bytes : Bytes}
    (h : t <+: decodeLossy bytes) : encode t <+: bytes := by
  induction t generalizing bytes with
  | nil => exact List.nil_prefix
  | cons c t ih =>
      have hc := ht c List.mem_cons_self
      obtain ⟨after, hafter⟩ := h
      have heq : decodeLossy bytes = [] ++ c :: (t ++ after) := hafter.symm
      obtain ⟨front, rest, rfl, hfront, hrest⟩ := exists_of_decodeLossy_eq hc heq
      have hnil : front = [] := by
        apply eq_nil_of_decodeFrom_eq_nil
        exact List.map_eq_nil_iff.mp hfront
      rw [hnil, encode_cons hc, List.nil_append, List.prefix_cons_inj]
      apply ih fun d hd => ht d (List.mem_cons_of_mem c hd)
      exact ⟨after, hrest.symm⟩

/-- An ASCII text occurs in what is decoded exactly where its bytes occur. -/
theorem infix_decodeLossy_iff {t : Text} (ht : ∀ c ∈ t, IsAscii c) (hne : t ≠ [])
    (bytes : Bytes) : t <:+: decodeLossy bytes ↔ encode t <:+: bytes := by
  constructor
  · rintro ⟨before, after, h⟩
    obtain ⟨c, t, rfl⟩ := List.exists_cons_of_ne_nil hne
    have hc := ht c List.mem_cons_self
    rw [List.append_assoc, List.cons_append] at h
    obtain ⟨front, rest, rfl, _, hrest⟩ := exists_of_decodeLossy_eq hc h.symm
    have hprefix : encode t <+: rest :=
      prefix_of_prefix_decodeLossy (fun d hd => ht d (List.mem_cons_of_mem c hd)) ⟨after, hrest.symm⟩
    rw [encode_cons hc]
    exact ((List.prefix_cons_inj _).mpr hprefix).isInfix.trans (List.suffix_append _ _).isInfix
  · rintro ⟨front, rest, rfl⟩
    rw [decodeLossy_append_ascii ht hne]
    exact ⟨_, _, rfl⟩

end HaxePrompt.Utf8
