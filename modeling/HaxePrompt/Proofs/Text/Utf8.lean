import HaxePrompt.Text.Utf8

/-! # Decoding undoes encoding

The bytes of a text are well formed and give the text back (`decodeStrict_encode`).  The bytes of
one character are read one by one: the first decides how many follow and where the second may
lie (`FirstRead`), and each further one adds six bits or gives the character up (`NextRead`). -/

namespace HaxePrompt.Utf8

theorem toNat_byte {n : Nat} (h : n < 256) : (UInt8.ofNat n).toNat = n :=
  UInt8.toNat_ofNat_of_lt h

/-! ### Bytes that follow -/

theorem decodeFrom_last {low high b : UInt8} (hlow : low ≤ b) (hhigh : b ≤ high) (value : Nat)
    (rest : Bytes) :
    decodeFrom (some ⟨1, low, high, value⟩) (b :: rest) =
      some (Char.ofNat (64 * value + (b.toNat - 0x80))) :: decodeFrom none rest := by
  rw [decodeFrom, step, if_pos ⟨hlow, hhigh⟩]
  rfl

theorem decodeFrom_more {low high b : UInt8} (hlow : low ≤ b) (hhigh : b ≤ high)
    (missing value : Nat) (rest : Bytes) :
    decodeFrom (some ⟨missing + 2, low, high, value⟩) (b :: rest) =
      decodeFrom (some ⟨missing + 1, 0x80, 0xBF, 64 * value + (b.toNat - 0x80)⟩) rest := by
  have hmissing : ¬ missing + 2 ≤ 1 := by omega
  rw [decodeFrom, step, if_pos ⟨hlow, hhigh⟩]
  simp only [if_neg hmissing]
  rfl

/-! ### First bytes -/

theorem first_one {b : UInt8} (h : b.toNat < 0x80) :
    first b = ([some (Char.ofNat b.toNat)], none) := by
  unfold first
  simp only [UInt8.lt_iff_toNat_lt, UInt8.reduceToNat]
  rw [if_pos h]

theorem first_two {b : UInt8} (hlow : 0xC2 ≤ b.toNat) (hhigh : b.toNat < 0xE0) :
    first b = ([], some ⟨1, 0x80, 0xBF, b.toNat - 0xC0⟩) := by
  unfold first
  simp only [UInt8.lt_iff_toNat_lt, UInt8.reduceToNat]
  rw [if_neg (by omega), if_neg (by omega), if_pos hhigh]

theorem first_three {b : UInt8} (hlow : 0xE0 ≤ b.toNat) (hhigh : b.toNat < 0xF0) :
    first b = ([], some ⟨2, if b = 0xE0 then 0xA0 else 0x80, if b = 0xED then 0x9F else 0xBF,
      b.toNat - 0xE0⟩) := by
  unfold first
  simp only [UInt8.lt_iff_toNat_lt, UInt8.reduceToNat]
  rw [if_neg (by omega), if_neg (by omega), if_neg (by omega), if_pos hhigh]

theorem first_four {b : UInt8} (hlow : 0xF0 ≤ b.toNat) (hhigh : b.toNat < 0xF5) :
    first b = ([], some ⟨3, if b = 0xF0 then 0x90 else 0x80, if b = 0xF4 then 0x8F else 0xBF,
      b.toNat - 0xF0⟩) := by
  unfold first
  simp only [UInt8.lt_iff_toNat_lt, UInt8.reduceToNat]
  rw [if_neg (by omega), if_neg (by omega), if_neg (by omega), if_neg (by omega), if_pos hhigh]

theorem decodeFrom_first {b : UInt8} {p : Partial} (h : first b = ([], some p)) (rest : Bytes) :
    decodeFrom none (b :: rest) = decodeFrom (some p) rest := by
  rw [decodeFrom, step, h]
  rfl

/-- The ways in which a first byte is read. -/
inductive FirstRead (b : UInt8) : List (Option Char) × Option Partial → Prop
  | one (h : b.toNat < 0x80) : FirstRead b ([some (Char.ofNat b.toNat)], none)
  | two (hlow : 0xC2 ≤ b.toNat) (hhigh : b.toNat < 0xE0) :
      FirstRead b ([], some ⟨1, 0x80, 0xBF, b.toNat - 0xC0⟩)
  | three (hlow : 0xE0 ≤ b.toNat) (hhigh : b.toNat < 0xF0) :
      FirstRead b ([], some ⟨2, if b = 0xE0 then 0xA0 else 0x80, if b = 0xED then 0x9F else 0xBF,
        b.toNat - 0xE0⟩)
  | four (hlow : 0xF0 ≤ b.toNat) (hhigh : b.toNat < 0xF5) :
      FirstRead b ([], some ⟨3, if b = 0xF0 then 0x90 else 0x80, if b = 0xF4 then 0x8F else 0xBF,
        b.toNat - 0xF0⟩)
  | stray : FirstRead b ([none], none)

theorem firstRead (b : UInt8) : FirstRead b (first b) := by
  by_cases hone : b.toNat < 0x80
  · rw [first_one hone]
    exact .one hone
  by_cases hstray : b.toNat < 0xC2
  · have hfirst : first b = ([none], none) := by
      unfold first
      simp only [UInt8.lt_iff_toNat_lt, UInt8.reduceToNat]
      rw [if_neg hone, if_pos hstray]
    rw [hfirst]
    exact .stray
  by_cases htwo : b.toNat < 0xE0
  · rw [first_two (by omega) htwo]
    exact .two (by omega) htwo
  by_cases hthree : b.toNat < 0xF0
  · rw [first_three (by omega) hthree]
    exact .three (by omega) hthree
  by_cases hfour : b.toNat < 0xF5
  · rw [first_four (by omega) hfour]
    exact .four (by omega) hfour
  · have hfirst : first b = ([none], none) := by
      unfold first
      simp only [UInt8.lt_iff_toNat_lt, UInt8.reduceToNat]
      rw [if_neg hone, if_neg hstray, if_neg htwo, if_neg hthree, if_neg hfour]
    rw [hfirst]
    exact .stray

/-- The ways in which a byte is read after a character has begun. -/
inductive NextRead (p : Partial) (b : UInt8) : List (Option Char) × Option Partial → Prop
  | last (hmissing : p.missing ≤ 1) (hlow : p.low ≤ b) (hhigh : b ≤ p.high) :
      NextRead p b ([some (Char.ofNat (64 * p.value + (b.toNat - 0x80)))], none)
  | more (hmissing : 2 ≤ p.missing) (hlow : p.low ≤ b) (hhigh : b ≤ p.high) :
      NextRead p b ([], some ⟨p.missing - 1, 0x80, 0xBF, 64 * p.value + (b.toNat - 0x80)⟩)
  | broken : NextRead p b (none :: (first b).1, (first b).2)

theorem nextRead (p : Partial) (b : UInt8) : NextRead p b (step (some p) b) := by
  rw [step]
  by_cases hb : p.low ≤ b ∧ b ≤ p.high
  · rw [if_pos hb]
    by_cases hmissing : p.missing ≤ 1
    · simp only [if_pos hmissing]
      exact .last hmissing hb.1 hb.2
    · simp only [if_neg hmissing]
      exact .more (by omega) hb.1 hb.2
  · rw [if_neg hb]
    exact .broken

/-! ### Code points -/

/-- The byte that holds six bits. -/
def sixBits (n : Nat) : UInt8 := UInt8.ofNat (n % 0x40 + 0x80)

theorem toNat_sixBits (n : Nat) : (sixBits n).toNat = n % 0x40 + 0x80 := toNat_byte (by omega)

theorem le_sixBits {n : Nat} {low : UInt8} (h : low.toNat ≤ n % 0x40 + 0x80) :
    low ≤ sixBits n := by
  rw [UInt8.le_iff_toNat_le, toNat_sixBits]
  exact h

theorem sixBits_le {n : Nat} {high : UInt8} (h : n % 0x40 + 0x80 ≤ high.toNat) :
    sixBits n ≤ high := by
  rw [UInt8.le_iff_toNat_le, toNat_sixBits]
  exact h

theorem low_sixBits (n : Nat) : (0x80 : UInt8) ≤ sixBits n := le_sixBits (by simp)

theorem sixBits_high (n : Nat) : sixBits n ≤ (0xBF : UInt8) := by
  apply sixBits_le
  simp only [UInt8.reduceToNat]
  omega

/-- Some first byte narrows the range of the second one, from below or from above. -/
theorem ite_le_sixBits {b mark low : UInt8} {n : Nat}
    (h : b.toNat = mark.toNat → low.toNat ≤ n % 0x40 + 0x80) :
    (if b = mark then low else 0x80) ≤ sixBits n := by
  split
  · rename_i heq
    exact le_sixBits (h (congrArg UInt8.toNat heq))
  · exact low_sixBits n

theorem sixBits_le_ite {b mark high : UInt8} {n : Nat}
    (h : b.toNat = mark.toNat → n % 0x40 + 0x80 ≤ high.toNat) :
    sixBits n ≤ (if b = mark then high else 0xBF) := by
  split
  · rename_i heq
    exact sixBits_le (h (congrArg UInt8.toNat heq))
  · exact sixBits_high n

theorem decodeFrom_one {n : Nat} (h : n ≤ 0x7F) (rest : Bytes) :
    decodeFrom none (UInt8.ofNat n :: rest) = some (Char.ofNat n) :: decodeFrom none rest := by
  have hb : (UInt8.ofNat n).toNat = n := toNat_byte (by omega)
  rw [decodeFrom, step, first_one (by omega), hb]
  rfl

theorem decodeFrom_two {n : Nat} (hlow : 0x7F < n) (hhigh : n ≤ 0x7FF) (rest : Bytes) :
    decodeFrom none (UInt8.ofNat (n / 64 % 0x20 + 0xC0) :: sixBits n :: rest) =
      some (Char.ofNat n) :: decodeFrom none rest := by
  have hb : (UInt8.ofNat (n / 64 % 0x20 + 0xC0)).toNat = n / 64 % 0x20 + 0xC0 :=
    toNat_byte (by omega)
  have hvalue : 64 * (n / 64 % 0x20 + 0xC0 - 0xC0) + (n % 0x40 + 0x80 - 0x80) = n := by omega
  rw [decodeFrom_first (first_two (by omega) (by omega)),
    decodeFrom_last (low_sixBits n) (sixBits_high n), hb, toNat_sixBits, hvalue]

/-- Three bytes hold no surrogate. -/
theorem decodeFrom_three {n : Nat} (hlow : 0x7FF < n) (hhigh : n ≤ 0xFFFF)
    (hvalid : n < 0xD800 ∨ 0xDFFF < n) (rest : Bytes) :
    decodeFrom none (UInt8.ofNat (n / 4096 % 0x10 + 0xE0) :: sixBits (n / 64) :: sixBits n ::
        rest) = some (Char.ofNat n) :: decodeFrom none rest := by
  have hb : (UInt8.ofNat (n / 4096 % 0x10 + 0xE0)).toNat = n / 4096 % 0x10 + 0xE0 :=
    toNat_byte (by omega)
  have hlow' : (if UInt8.ofNat (n / 4096 % 0x10 + 0xE0) = 0xE0 then 0xA0 else 0x80) ≤
      sixBits (n / 64) := by
    apply ite_le_sixBits
    rw [hb]
    simp only [UInt8.reduceToNat]
    omega
  have hhigh' : sixBits (n / 64) ≤
      (if UInt8.ofNat (n / 4096 % 0x10 + 0xE0) = 0xED then 0x9F else 0xBF) := by
    apply sixBits_le_ite
    rw [hb]
    simp only [UInt8.reduceToNat]
    omega
  have hvalue : 64 * (64 * (n / 4096 % 0x10 + 0xE0 - 0xE0) + (n / 64 % 0x40 + 0x80 - 0x80)) +
      (n % 0x40 + 0x80 - 0x80) = n := by omega
  rw [decodeFrom_first (first_three (by omega) (by omega)), decodeFrom_more hlow' hhigh',
    decodeFrom_last (low_sixBits n) (sixBits_high n), hb, toNat_sixBits, toNat_sixBits, hvalue]

/-- Four bytes hold no code point beyond the last one. -/
theorem decodeFrom_four {n : Nat} (hlow : 0xFFFF < n) (hhigh : n < 0x110000) (rest : Bytes) :
    decodeFrom none (UInt8.ofNat (n / 262144 % 0x08 + 0xF0) :: sixBits (n / 4096) ::
        sixBits (n / 64) :: sixBits n :: rest) =
      some (Char.ofNat n) :: decodeFrom none rest := by
  have hb : (UInt8.ofNat (n / 262144 % 0x08 + 0xF0)).toNat = n / 262144 % 0x08 + 0xF0 :=
    toNat_byte (by omega)
  have hlow' : (if UInt8.ofNat (n / 262144 % 0x08 + 0xF0) = 0xF0 then 0x90 else 0x80) ≤
      sixBits (n / 4096) := by
    apply ite_le_sixBits
    rw [hb]
    simp only [UInt8.reduceToNat]
    omega
  have hhigh' : sixBits (n / 4096) ≤
      (if UInt8.ofNat (n / 262144 % 0x08 + 0xF0) = 0xF4 then 0x8F else 0xBF) := by
    apply sixBits_le_ite
    rw [hb]
    simp only [UInt8.reduceToNat]
    omega
  have hvalue : 64 * (64 * (64 * (n / 262144 % 0x08 + 0xF0 - 0xF0) +
      (n / 4096 % 0x40 + 0x80 - 0x80)) + (n / 64 % 0x40 + 0x80 - 0x80)) +
      (n % 0x40 + 0x80 - 0x80) = n := by omega
  rw [decodeFrom_first (first_four (by omega) (by omega)), decodeFrom_more hlow' hhigh',
    decodeFrom_more (low_sixBits _) (sixBits_high _),
    decodeFrom_last (low_sixBits n) (sixBits_high n), hb, toNat_sixBits, toNat_sixBits,
    toNat_sixBits, hvalue]

/-! ### Text -/

/-- A character is read back from its bytes, whatever follows them. -/
theorem decodeFrom_char (c : Char) (rest : Bytes) :
    decodeFrom none (String.utf8EncodeChar c ++ rest) = some c :: decodeFrom none rest := by
  have hvalid : c.val.toNat < 0xD800 ∨ 0xDFFF < c.val.toNat ∧ c.val.toNat < 0x110000 := c.valid
  have hc : some c = some (Char.ofNat c.val.toNat) := congrArg some (Char.ofNat_toNat c).symm
  rw [hc]
  unfold String.utf8EncodeChar
  simp only
  by_cases h₁ : c.val.toNat ≤ 0x7F
  · rw [if_pos h₁]
    exact decodeFrom_one h₁ rest
  rw [if_neg h₁]
  by_cases h₂ : c.val.toNat ≤ 0x7FF
  · rw [if_pos h₂]
    exact decodeFrom_two (by omega) h₂ rest
  rw [if_neg h₂]
  by_cases h₃ : c.val.toNat ≤ 0xFFFF
  · rw [if_pos h₃]
    exact decodeFrom_three (by omega) h₃ (by omega) rest
  rw [if_neg h₃]
  exact decodeFrom_four (by omega) (by omega) rest

theorem encode_append (s t : Text) : encode (s ++ t) = encode s ++ encode t := List.flatMap_append

theorem decode_encode (s : Text) : decode (encode s) = s.map some := by
  unfold decode encode
  induction s with
  | nil => rfl
  | cons c s ih => rw [List.flatMap_cons, decodeFrom_char, ih, List.map_cons]

theorem complete_map_some (s : Text) : complete (s.map some) = some s := by
  induction s with
  | nil => rfl
  | cons c s ih => rw [List.map_cons, complete, ih, Option.map_some]

/-- **Decoding undoes encoding.** -/
theorem decodeStrict_encode (s : Text) : decodeStrict (encode s) = some s := by
  unfold decodeStrict
  rw [decode_encode, complete_map_some]

end HaxePrompt.Utf8
