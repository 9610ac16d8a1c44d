import HaxePrompt.Proofs.Text.Lossy
import Mathlib.Tactic.Ring

/-! # What strict decoding accepts

Strict decoding gives a text exactly for the bytes of that text (`decodeStrict_eq_some_iff`), and
refuses all other bytes (`decodeStrict_eq_none_iff`).  The bytes of a character that has begun are
those with which the encodings of all its completions begin (`Partial.Begun`), so that what is
read is what would be written. -/

namespace HaxePrompt.Utf8

/-! ### The bytes of a character -/

/-- The last so many bytes of a code point. -/
def following : Nat → Nat → Bytes
  | 0, _ => []
  | missing + 1, n => sixBits (n / continuations missing) :: following missing n

/-- The marker in a first byte that so many others follow. -/
def lead : Nat → Nat
  | 1 => 0xC0
  | 2 => 0xE0
  | 3 => 0xF0
  | _ => 0xF8

theorem utf8EncodeChar_eq {n missing : Nat} (hvalid : n.isValidChar)
    (hmissing : missing = 1 ∨ missing = 2 ∨ missing = 3) (hlong : leastOfSize (1 + missing) ≤ n)
    (hhigh : n / continuations missing + lead missing < lead (missing + 1)) :
    String.utf8EncodeChar (Char.ofNat n) =
      UInt8.ofNat (n / continuations missing + lead missing) :: following missing n := by
  have hn : (Char.ofNat n).val.toNat = n := toNat_ofNat_of_isValidChar hvalid
  unfold String.utf8EncodeChar
  simp only [hn]
  rcases hmissing with rfl | rfl | rfl
  · have hlow : 0x80 ≤ n := hlong
    simp only [continuations, lead, Nat.one_mul] at hhigh
    have hmod : n / 64 % 0x20 = n / 64 := Nat.mod_eq_of_lt (by omega)
    rw [if_neg (by omega), if_pos (by omega), hmod]
    simp only [following, continuations, lead, Nat.div_one, Nat.one_mul]
    rfl
  · have hlow : 0x800 ≤ n := hlong
    simp only [continuations, lead, Nat.one_mul] at hhigh
    have hmod : n / 4096 % 0x10 = n / 4096 := Nat.mod_eq_of_lt (by omega)
    rw [if_neg (by omega), if_neg (by omega), if_pos (by omega), hmod]
    simp only [following, continuations, lead, Nat.div_one, Nat.one_mul]
    rfl
  · have hlow : 0x10000 ≤ n := hlong
    simp only [continuations, lead, Nat.one_mul] at hhigh
    have hmod : n / 262144 % 0x08 = n / 262144 := Nat.mod_eq_of_lt (by omega)
    rw [if_neg (by omega), if_neg (by omega), if_neg (by omega), hmod]
    simp only [following, continuations, lead, Nat.div_one, Nat.one_mul]
    rfl

theorem sixBits_eq {b : UInt8} (hlow : 0x80 ≤ b.toNat) (hhigh : b.toNat ≤ 0xBF) (value : Nat) :
    sixBits (64 * value + (b.toNat - 0x80)) = b := by
  apply UInt8.toNat_inj.mp
  rw [toNat_sixBits]
  omega

/-! ### Characters that have begun -/

namespace Partial

/-- The bytes of a character that has begun: each of its completions is encoded with them and the
bytes that are missing. -/
structure Begun (p : Partial) (read : Bytes) : Prop where
  missing : 1 ≤ p.missing
  low : 0x80 ≤ p.low.toNat
  high : p.high.toNat ≤ 0xBF
  encoded : ∀ n, p.least ≤ n → n < p.bound →
    String.utf8EncodeChar (Char.ofNat n) = read ++ following p.missing n

/-- The bits read so far are the leading ones of all completions. -/
theorem div_continuations {p : Partial} (hmissing : 1 ≤ p.missing) (hhigh : p.high.toNat ≤ 0xBF)
    {n : Nat} (hleast : p.least ≤ n) (hbound : n < p.bound) :
    n / continuations p.missing = p.value := by
  obtain ⟨m, hm⟩ : ∃ m, p.missing = m + 1 := ⟨p.missing - 1, by omega⟩
  unfold least at hleast
  unfold bound at hbound
  rw [hm, Nat.add_sub_cancel] at hleast hbound
  rw [hm, continuations]
  apply Nat.div_eq_of_lt_le
  · calc p.value * (continuations m * 64) = continuations m * (64 * p.value) := by ring
      _ ≤ continuations m * (64 * p.value + (p.low.toNat - 0x80)) :=
        Nat.mul_le_mul_left _ (Nat.le_add_right _ _)
      _ ≤ n := hleast
  · calc n < continuations m * (64 * p.value + (p.high.toNat - 0x80) + 1) := hbound
      _ ≤ continuations m * (64 * p.value + 64) := Nat.mul_le_mul_left _ (by omega)
      _ = (p.value + 1) * (continuations m * 64) := by ring

theorem begun_first {p : Partial} {b : UInt8} (hsized : p.Sized 1) (hlow : 0x80 ≤ p.low.toNat)
    (hhigh : p.high.toNat ≤ 0xBF) (hvalue : p.value + lead p.missing = b.toNat)
    (hb : b.toNat < lead (p.missing + 1)) : p.Begun [b] := by
  refine ⟨hsized.missing, hlow, hhigh, ?_⟩
  intro n hleast hbound
  have hmissing := hsized.missing
  have htotal := hsized.total
  have hdiv := div_continuations hmissing hhigh hleast hbound
  rw [utf8EncodeChar_eq (hsized.isValidChar hleast hbound) (by omega) (hsized.long.trans hleast)
    (by rw [hdiv, hvalue]; exact hb), hdiv, hvalue, UInt8.ofNat_toNat]
  rfl

theorem Begun.next {p : Partial} {read : Bytes} (h : p.Begun read) (hmissing : 2 ≤ p.missing)
    {b : UInt8} (hlow : p.low ≤ b) (hhigh : b ≤ p.high) :
    Begun ⟨p.missing - 1, 0x80, 0xBF, 64 * p.value + (b.toNat - 0x80)⟩ (read ++ [b]) := by
  have hlow' : 0x80 ≤ b.toNat := h.low.trans (UInt8.le_iff_toNat_le.mp hlow)
  have hhigh' : b.toNat ≤ 0xBF := (UInt8.le_iff_toNat_le.mp hhigh).trans h.high
  have hone : 1 ≤ p.missing - 1 := by omega
  refine ⟨hone, by simp, by simp, ?_⟩
  intro n hleast hbound
  have hdiv := div_continuations (by exact hone) (by simp) hleast hbound
  have hfollowing : following p.missing n =
      sixBits (n / continuations (p.missing - 1)) :: following (p.missing - 1) n := by
    obtain ⟨m, hm⟩ : ∃ m, p.missing = m + 1 := ⟨p.missing - 1, by omega⟩
    rw [hm]
    rfl
  simp only at hdiv
  rw [h.encoded n ((least_le_next hmissing hlow).trans hleast)
    (hbound.trans_le (bound_next_le hmissing hhigh)), hfollowing, hdiv, sixBits_eq hlow' hhigh',
    List.append_assoc]
  rfl

theorem Begun.last {p : Partial} {read : Bytes} (h : p.Begun read) (hmissing : p.missing = 1)
    {b : UInt8} (hlow : p.low ≤ b) (hhigh : b ≤ p.high) :
    String.utf8EncodeChar (Char.ofNat (64 * p.value + (b.toNat - 0x80))) = read ++ [b] := by
  have hlow' : 0x80 ≤ b.toNat := h.low.trans (UInt8.le_iff_toNat_le.mp hlow)
  have hhigh' : b.toNat ≤ 0xBF := (UInt8.le_iff_toNat_le.mp hhigh).trans h.high
  obtain ⟨hleast, hbound⟩ := last_mem_range hmissing hlow hhigh
  rw [h.encoded _ hleast hbound, hmissing, following, following, continuations, Nat.div_one,
    sixBits_eq hlow' hhigh']

end Partial

/-! ### Bytes -/

/-- The bytes that the decoder has read of a character. -/
def Holds : Option Partial → Bytes → Prop
  | none, read => read = []
  | some p, read => p.Begun read

/-- A byte makes a malformed piece, or it completes a character whose bytes have been read, or
they are the bytes of a character that has begun. -/
inductive Accounts (read : Bytes) : List (Option Char) × Option Partial → Prop
  | malformed {cs : List (Option Char)} {pending : Option Partial} (h : none ∈ cs) :
      Accounts read (cs, pending)
  | complete {c : Char} (h : String.utf8EncodeChar c = read) : Accounts read ([some c], none)
  | begun {p : Partial} (h : p.Begun read) : Accounts read ([], some p)

theorem accounts_first (b : UInt8) : Accounts [b] (first b) := by
  have hread := firstRead b
  generalize first b = outcome at hread
  cases hread with
  | one hone =>
      apply Accounts.complete
      have hn : (Char.ofNat b.toNat).val.toNat = b.toNat := toNat_ofNat hone
      unfold String.utf8EncodeChar
      simp only [hn]
      rw [if_pos (by omega), UInt8.ofNat_toNat]
  | two hlow hhigh =>
      exact .begun (Partial.begun_first (sized_two hlow hhigh) (by simp) (by simp)
        (by simp only [lead]; omega) hhigh)
  | three hlow hhigh =>
      refine .begun (Partial.begun_first (sized_three hlow hhigh) ?_ ?_
        (by simp only [lead]; omega) hhigh)
      · simp only
        split <;> simp
      · simp only
        split <;> simp
  | four hlow hhigh =>
      refine .begun (Partial.begun_first (sized_four hlow hhigh) ?_ ?_
        (by simp only [lead]; omega) (by simp only [lead]; omega))
      · simp only
        split <;> simp
      · simp only
        split <;> simp
  | stray => exact .malformed (List.mem_singleton_self none)

theorem accounts_step {pending : Option Partial} {read : Bytes} (h : Holds pending read)
    (b : UInt8) : Accounts (read ++ [b]) (step pending b) := by
  cases pending with
  | none =>
      obtain rfl : read = [] := h
      exact accounts_first b
  | some p =>
      have hbegun : p.Begun read := h
      have hread := nextRead p b
      generalize step (some p) b = outcome at hread
      cases hread with
      | last hmissing hlow hhigh =>
          have hone : p.missing = 1 := Nat.le_antisymm hmissing hbegun.missing
          exact .complete (hbegun.last hone hlow hhigh)
      | more hmissing hlow hhigh => exact .begun (hbegun.next hmissing hlow hhigh)
      | broken => exact .malformed List.mem_cons_self

/-- What was read without malformed pieces is written as it was. -/
theorem encode_of_decodeFrom {pending : Option Partial} {read bytes : Bytes} {t : Text}
    (h : Holds pending read) (hdecode : decodeFrom pending bytes = t.map some) :
    encode t = read ++ bytes := by
  induction bytes generalizing pending read t with
  | nil =>
      cases pending with
      | none =>
          obtain rfl : read = [] := h
          rw [List.map_eq_nil_iff.mp hdecode.symm]
          rfl
      | some p =>
          have hmem : none ∈ t.map some := by
            rw [← hdecode]
            exact List.mem_singleton_self none
          simp at hmem
  | cons b bytes ih =>
      have hstep := accounts_step h b
      rw [decodeFrom] at hdecode
      generalize step pending b = outcome at hstep hdecode
      cases hstep with
      | malformed hnone =>
          have hmem : none ∈ t.map some := by
            rw [← hdecode]
            exact List.mem_append_left _ hnone
          simp at hmem
      | @complete c hc =>
          obtain ⟨t, rfl⟩ : ∃ rest, t = c :: rest := by
            cases t with
            | nil => cases hdecode
            | cons d rest =>
                obtain ⟨hd, _⟩ := List.cons.inj hdecode
                cases hd
                exact ⟨rest, rfl⟩
          have hnone : Holds none [] := rfl
          have hrest := ih hnone (List.cons.inj hdecode).2
          rw [encode, List.flatMap_cons, ← encode, hc, hrest, List.append_assoc]
          rfl
      | @begun p hbegun =>
          have hsome : Holds (some p) (read ++ [b]) := hbegun
          rw [ih hsome hdecode, List.append_assoc]
          rfl

theorem eq_map_some_of_complete {cs : List (Option Char)} {t : Text}
    (h : complete cs = some t) : cs = t.map some := by
  induction cs generalizing t with
  | nil =>
      cases h
      rfl
  | cons c cs ih =>
      cases c with
      | none => cases h
      | some c =>
          obtain ⟨rest, hrest, rfl⟩ := Option.map_eq_some_iff.mp h
          rw [List.map_cons, ih hrest]

/-- **Strict decoding accepts the bytes of texts.** -/
theorem decodeStrict_eq_some_iff {bytes : Bytes} {t : Text} :
    decodeStrict bytes = some t ↔ encode t = bytes := by
  constructor
  · intro h
    have hnone : Holds none [] := rfl
    exact encode_of_decodeFrom hnone (eq_map_some_of_complete h)
  · rintro rfl
    exact decodeStrict_encode t

theorem decodeStrict_eq_none_iff {bytes : Bytes} :
    decodeStrict bytes = none ↔ ¬ WellFormed bytes := by
  rw [Option.eq_none_iff_forall_ne_some, WellFormed, not_exists]
  exact forall_congr' fun t => not_congr decodeStrict_eq_some_iff

end HaxePrompt.Utf8
