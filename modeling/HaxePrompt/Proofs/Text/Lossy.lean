import HaxePrompt.Proofs.Text.Ascii

/-! # What lossy decoding keeps

Decoded and encoded again, bytes are the same exactly if they are those of a text
(`wellFormed_iff`).  Other bytes are changed, and never get fewer (`length_le_length_lossy`):
a replacement character takes three bytes, and no more than three are ever given up for one.  So
pieces decoded one by one and joined are what they were exactly if each of them is the bytes of a
text (`flatMap_lossy_eq_iff`): what one of them loses is not made up for by the others. -/

namespace HaxePrompt.Utf8

/-- The bytes are those of a text. -/
def WellFormed (bytes : Bytes) : Prop := ∃ text, encode text = bytes

/-- The bytes decoded and encoded again. -/
def lossy (bytes : Bytes) : Bytes := encode (decodeLossy bytes)

theorem decodeLossy_encode (t : Text) : decodeLossy (encode t) = t := by
  have h := decodeLossy_encode_append t []
  rw [List.append_nil] at h
  exact h.trans (List.append_nil t)

theorem wellFormed_iff {bytes : Bytes} : WellFormed bytes ↔ lossy bytes = bytes := by
  constructor
  · rintro ⟨text, rfl⟩
    rw [lossy, decodeLossy_encode]
  · intro h
    exact ⟨decodeLossy bytes, h⟩

/-! ### The size of a character -/

/-- The least code point that takes a number of bytes. -/
def leastOfSize (size : Nat) : Nat :=
  if size ≤ 1 then 0 else if size = 2 then 0x80 else if size = 3 then 0x800 else 0x10000

theorem le_length_utf8EncodeChar {n size : Nat} (hvalid : n.isValidChar) (hsize : size ≤ 4)
    (h : leastOfSize size ≤ n) : size ≤ (String.utf8EncodeChar (Char.ofNat n)).length := by
  have hn : (Char.ofNat n).val.toNat = n := toNat_ofNat_of_isValidChar hvalid
  unfold leastOfSize at h
  unfold String.utf8EncodeChar
  simp only [hn]
  split_ifs at h ⊢ <;> simp only [List.length_cons, List.length_nil] <;> omega

/-! ### Characters that have begun -/

/-- In how many ways so many bytes can go on with a character. -/
def continuations : Nat → Nat
  | 0 => 1
  | n + 1 => continuations n * 64

namespace Partial

/-- The least code point that a character begun can be completed to. -/
def least (p : Partial) : Nat :=
  continuations (p.missing - 1) * (64 * p.value + (p.low.toNat - 0x80))

/-- The code points that it can be completed to are below this one. -/
def bound (p : Partial) : Nat :=
  continuations (p.missing - 1) * (64 * p.value + (p.high.toNat - 0x80) + 1)

/-- A character of which some bytes have been read.  What it can be completed to are code points
of characters, and they take as many bytes as were read and are missing. -/
structure Sized (p : Partial) (read : Nat) : Prop where
  missing : 1 ≤ p.missing
  total : read + p.missing ≤ 4
  long : leastOfSize (read + p.missing) ≤ p.least
  valid : p.bound ≤ 0xD800 ∨ 0xE000 ≤ p.least ∧ p.bound ≤ 0x110000

theorem Sized.isValidChar {p : Partial} {read n : Nat} (h : p.Sized read) (hleast : p.least ≤ n)
    (hbound : n < p.bound) : n.isValidChar := by
  rcases h.valid with hvalid | ⟨hvalid, hvalid'⟩
  · left
    omega
  · right
    omega

theorem continuations_pred {missing : Nat} (h : 2 ≤ missing) :
    continuations (missing - 1) = continuations (missing - 1 - 1) * 64 := by
  obtain ⟨n, hn⟩ : ∃ n, missing - 1 = n + 1 := ⟨missing - 2, by omega⟩
  rw [hn]
  rfl

theorem least_le_next {p : Partial} (hmissing : 2 ≤ p.missing) {b : UInt8} (hlow : p.low ≤ b) :
    p.least ≤ least ⟨p.missing - 1, 0x80, 0xBF, 64 * p.value + (b.toNat - 0x80)⟩ := by
  have hlow' : p.low.toNat ≤ b.toNat := UInt8.le_iff_toNat_le.mp hlow
  unfold least
  rw [continuations_pred hmissing, Nat.mul_assoc]
  apply Nat.mul_le_mul_left
  simp only [UInt8.reduceToNat]
  omega

theorem bound_next_le {p : Partial} (hmissing : 2 ≤ p.missing) {b : UInt8} (hhigh : b ≤ p.high) :
    bound ⟨p.missing - 1, 0x80, 0xBF, 64 * p.value + (b.toNat - 0x80)⟩ ≤ p.bound := by
  have hhigh' : b.toNat ≤ p.high.toNat := UInt8.le_iff_toNat_le.mp hhigh
  unfold bound
  rw [continuations_pred hmissing, Nat.mul_assoc]
  apply Nat.mul_le_mul_left
  simp only [UInt8.reduceToNat]
  omega

/-- The next byte leaves a character of the size that was announced. -/
theorem Sized.next {p : Partial} {read : Nat} (h : p.Sized read) (hmissing : 2 ≤ p.missing)
    {b : UInt8} (hlow : p.low ≤ b) (hhigh : b ≤ p.high) :
    Sized ⟨p.missing - 1, 0x80, 0xBF, 64 * p.value + (b.toNat - 0x80)⟩ (read + 1) := by
  have htotal := h.total
  have hleast := least_le_next hmissing hlow
  have hbound := bound_next_le hmissing hhigh
  have hsame : read + 1 + (p.missing - 1) = read + p.missing := by omega
  refine ⟨by simp only; omega, by simp only; omega, ?_, ?_⟩
  · simp only [hsame]
    exact h.long.trans hleast
  · rcases h.valid with hvalid | ⟨hvalid, hvalid'⟩
    · exact Or.inl (hbound.trans hvalid)
    · exact Or.inr ⟨hvalid.trans hleast, hbound.trans hvalid'⟩

theorem last_mem_range {p : Partial} (hmissing : p.missing = 1) {b : UInt8} (hlow : p.low ≤ b)
    (hhigh : b ≤ p.high) :
    p.least ≤ 64 * p.value + (b.toNat - 0x80) ∧ 64 * p.value + (b.toNat - 0x80) < p.bound := by
  have hlow' : p.low.toNat ≤ b.toNat := UInt8.le_iff_toNat_le.mp hlow
  have hhigh' : b.toNat ≤ p.high.toNat := UInt8.le_iff_toNat_le.mp hhigh
  unfold least bound
  rw [hmissing]
  simp only [Nat.sub_self, continuations, Nat.one_mul]
  omega

theorem Sized.last {p : Partial} {read : Nat} (h : p.Sized read) (hmissing : p.missing = 1)
    {b : UInt8} (hlow : p.low ≤ b) (hhigh : b ≤ p.high) :
    read + 1 ≤
      (String.utf8EncodeChar (Char.ofNat (64 * p.value + (b.toNat - 0x80)))).length := by
  obtain ⟨hleast, hbound⟩ := last_mem_range hmissing hlow hhigh
  have hlong := h.long
  have htotal := h.total
  rw [hmissing] at hlong htotal
  exact le_length_utf8EncodeChar (h.isValidChar hleast hbound) htotal (hlong.trans hleast)

end Partial

/-- What the decoder has left to be completed, after some bytes of it were read. -/
def Left : Option Partial → Nat → Prop
  | none, read => read = 0
  | some p, read => p.Sized read

theorem sized_two {b : UInt8} (hlow : 0xC2 ≤ b.toNat) (hhigh : b.toNat < 0xE0) :
    Partial.Sized ⟨1, 0x80, 0xBF, b.toNat - 0xC0⟩ 1 := by
  have hsize : leastOfSize (1 + 1) = 0x80 := rfl
  refine ⟨by simp, by simp, ?_, Or.inl ?_⟩
  · rw [hsize]
    unfold Partial.least
    simp only [UInt8.reduceToNat, Nat.sub_self, continuations]
    omega
  · unfold Partial.bound
    simp only [UInt8.reduceToNat, Nat.sub_self, continuations]
    omega

/-- The second byte is narrowed where code points would be too small, or no characters. -/
theorem sized_three {b : UInt8} (hlow : 0xE0 ≤ b.toNat) (hhigh : b.toNat < 0xF0) :
    Partial.Sized ⟨2, if b = 0xE0 then 0xA0 else 0x80, if b = 0xED then 0x9F else 0xBF,
      b.toNat - 0xE0⟩ 1 := by
  have hE0 : b = 0xE0 ↔ b.toNat = 0xE0 := UInt8.toNat_inj.symm
  have hED : b = 0xED ↔ b.toNat = 0xED := UInt8.toNat_inj.symm
  have hsize : leastOfSize (1 + 2) = 0x800 := rfl
  refine ⟨by simp, by simp, ?_, ?_⟩
  · rw [hsize]
    unfold Partial.least
    simp only [hE0, apply_ite UInt8.toNat, UInt8.reduceToNat, continuations]
    split_ifs <;> omega
  · unfold Partial.least Partial.bound
    simp only [hE0, hED, apply_ite UInt8.toNat, UInt8.reduceToNat, continuations]
    split_ifs <;> omega

theorem sized_four {b : UInt8} (hlow : 0xF0 ≤ b.toNat) (hhigh : b.toNat < 0xF5) :
    Partial.Sized ⟨3, if b = 0xF0 then 0x90 else 0x80, if b = 0xF4 then 0x8F else 0xBF,
      b.toNat - 0xF0⟩ 1 := by
  have hF0 : b = 0xF0 ↔ b.toNat = 0xF0 := UInt8.toNat_inj.symm
  have hF4 : b = 0xF4 ↔ b.toNat = 0xF4 := UInt8.toNat_inj.symm
  have hsize : leastOfSize (1 + 3) = 0x10000 := rfl
  refine ⟨by simp, by simp, ?_, ?_⟩
  · rw [hsize]
    unfold Partial.least
    simp only [hF0, apply_ite UInt8.toNat, UInt8.reduceToNat, continuations]
    split_ifs <;> omega
  · unfold Partial.least Partial.bound
    simp only [hF0, hF4, apply_ite UInt8.toNat, UInt8.reduceToNat, continuations]
    split_ifs <;> omega

/-! ### Sizes -/

/-- How many bytes decoded characters take. -/
def sizeOf (cs : List (Option Char)) : Nat := (encode (cs.map (·.getD replacement))).length

theorem sizeOf_append (cs cs' : List (Option Char)) :
    sizeOf (cs ++ cs') = sizeOf cs + sizeOf cs' := by
  rw [sizeOf, List.map_append, encode_append, List.length_append]
  rfl

theorem sizeOf_none_cons (cs : List (Option Char)) : sizeOf (none :: cs) = 3 + sizeOf cs :=
  sizeOf_append [none] cs

theorem sizeOf_singleton (c : Char) : sizeOf [some c] = (String.utf8EncodeChar c).length := by
  simp [sizeOf, encode]

/-- The byte that begins a character is accounted for by what it completes, or by what it leaves
to be completed. -/
theorem left_first (b : UInt8) :
    ∃ read, Left (first b).2 read ∧ 1 ≤ sizeOf (first b).1 + read := by
  have hread := firstRead b
  generalize first b = outcome at hread
  cases hread with
  | one _ =>
      refine ⟨0, rfl, ?_⟩
      rw [sizeOf_singleton, String.length_utf8EncodeChar]
      exact (Char.ofNat b.toNat).utf8Size_pos
  | two hlow hhigh => exact ⟨1, sized_two hlow hhigh, Nat.le_add_left _ _⟩
  | three hlow hhigh => exact ⟨1, sized_three hlow hhigh, Nat.le_add_left _ _⟩
  | four hlow hhigh => exact ⟨1, sized_four hlow hhigh, Nat.le_add_left _ _⟩
  | stray => exact ⟨0, rfl, by decide⟩

theorem left_step {pending : Option Partial} {read : Nat} (h : Left pending read) (b : UInt8) :
    ∃ read', Left (step pending b).2 read' ∧ read + 1 ≤ sizeOf (step pending b).1 + read' := by
  cases pending with
  | none =>
      obtain rfl : read = 0 := h
      exact left_first b
  | some p =>
      have hsized : p.Sized read := h
      have hread := nextRead p b
      generalize step (some p) b = outcome at hread
      cases hread with
      | last hmissing hlow hhigh =>
          have hone : p.missing = 1 := Nat.le_antisymm hmissing hsized.missing
          refine ⟨0, rfl, ?_⟩
          rw [sizeOf_singleton]
          exact Nat.le_add_right_of_le (hsized.last hone hlow hhigh)
      | more hmissing hlow hhigh =>
          exact ⟨read + 1, hsized.next hmissing hlow hhigh, Nat.le_add_left _ _⟩
      | broken =>
          -- what was begun is given up for a replacement character of three bytes
          obtain ⟨read', hleft, hsize⟩ := left_first b
          refine ⟨read', hleft, ?_⟩
          have htotal := hsized.total
          have hmissing := hsized.missing
          rw [sizeOf_none_cons]
          omega

theorem le_sizeOf_decodeFrom {pending : Option Partial} {read : Nat} (h : Left pending read)
    (bytes : Bytes) : read + bytes.length ≤ sizeOf (decodeFrom pending bytes) := by
  induction bytes generalizing pending read with
  | nil =>
      cases pending with
      | none =>
          obtain rfl : read = 0 := h
          exact Nat.zero_le _
      | some p =>
          have hsized : p.Sized read := h
          have htotal := hsized.total
          have hmissing := hsized.missing
          have hthree : sizeOf (decodeFrom (some p) []) = 3 := sizeOf_none_cons []
          rw [hthree, List.length_nil]
          omega
  | cons b bytes ih =>
      obtain ⟨read', hleft, hsize⟩ := left_step h b
      have hrest := ih hleft
      rw [decodeFrom, sizeOf_append, List.length_cons]
      omega

/-- **Lossy decoding loses no length.** -/
theorem length_le_length_lossy (bytes : Bytes) : bytes.length ≤ (lossy bytes).length := by
  have hnone : Left none 0 := rfl
  have hall := le_sizeOf_decodeFrom hnone bytes
  rw [Nat.zero_add] at hall
  exact hall

/-! ### Pieces -/

theorem length_flatten_le (pieces : List Bytes) :
    pieces.flatten.length ≤ (pieces.flatMap lossy).length := by
  induction pieces with
  | nil => exact Nat.le_refl 0
  | cons piece pieces ih =>
      rw [List.flatten_cons, List.flatMap_cons, List.length_append, List.length_append]
      exact Nat.add_le_add (length_le_length_lossy piece) ih

/-- **Pieces are kept exactly if each of them is the bytes of a text.** -/
theorem flatMap_lossy_eq_iff {pieces : List Bytes} :
    pieces.flatMap lossy = pieces.flatten ↔ ∀ piece ∈ pieces, WellFormed piece := by
  induction pieces with
  | nil => simp
  | cons piece pieces ih =>
      rw [List.forall_mem_cons, ← ih, wellFormed_iff, List.flatMap_cons, List.flatten_cons]
      constructor
      · intro h
        -- neither part gets shorter, so with equal sums both lengths are the same
        have hlength := congrArg List.length h
        rw [List.length_append, List.length_append] at hlength
        have hpiece := length_le_length_lossy piece
        have hpieces := length_flatten_le pieces
        exact List.append_inj h (by omega)
      · rintro ⟨hpiece, hpieces⟩
        rw [hpiece, hpieces]

end HaxePrompt.Utf8
