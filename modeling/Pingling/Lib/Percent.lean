import Mathlib

/-!
# Percent encoding

A byte that is not a letter or a digit is written as a percent sign and two hexadecimal digits.
The text has no other characters, and the bytes are read back from it.
-/

namespace Lib.Percent

def isAlphanumeric (b : UInt8) : Bool :=
  (Char.ofNat b.toNat).isAlphanum

def hexDigit (n : ℕ) : Char :=
  if n < 10 then Char.ofNat (48 + n) else Char.ofNat (55 + n)

def hexValue (c : Char) : Option ℕ :=
  if '0' ≤ c ∧ c ≤ '9' then some (c.toNat - 48)
  else if 'A' ≤ c ∧ c ≤ 'F' then some (c.toNat - 55)
  else none

def encodeByte (b : UInt8) : List Char :=
  if isAlphanumeric b then [Char.ofNat b.toNat]
  else ['%', hexDigit (b.toNat / 16), hexDigit (b.toNat % 16)]

def encode (bytes : List UInt8) : List Char :=
  bytes.flatMap encodeByte

def decode : List Char → Option (List UInt8)
  | [] => some []
  | '%' :: high :: low :: rest => do
    let b := UInt8.ofNat (16 * (← hexValue high) + (← hexValue low))
    (decode rest).map (b :: ·)
  | c :: rest => if c.toNat < 128 then (decode rest).map (UInt8.ofNat c.toNat :: ·) else none

/-- The characters of encoded text. -/
def IsSafe (c : Char) : Prop :=
  c = '%' ∨ c.isAlphanum = true

lemma hexValue_hexDigit {n : ℕ} (h : n < 16) : hexValue (hexDigit n) = some n := by
  interval_cases n <;> rfl

lemma isAlphanum_hexDigit {n : ℕ} (h : n < 16) : (hexDigit n).isAlphanum = true := by
  interval_cases n <;> rfl

lemma toNat_ofNat_byte (b : UInt8) : (Char.ofNat b.toNat).toNat = b.toNat := by
  have hb := b.toNat_lt
  have hvalid : b.toNat.isValidChar := .inl (by omega)
  rw [Char.ofNat, dif_pos hvalid]
  rfl

lemma toNat_lt_of_isAlphanum {c : Char} (h : c.isAlphanum = true) : c.toNat < 128 := by
  unfold Char.isAlphanum Char.isAlpha Char.isUpper Char.isLower Char.isDigit at h
  simp only [ge_iff_le, UInt32.le_iff_toNat_le, Bool.or_eq_true, Bool.and_eq_true,
    decide_eq_true_eq, Char.reduceVal, UInt32.reduceToNat] at h
  change c.val.toNat < 128
  omega

lemma decode_cons {c : Char} (h : c ≠ '%') (hcode : c.toNat < 128) (rest : List Char) :
    decode (c :: rest) = (decode rest).map (UInt8.ofNat c.toNat :: ·) := by
  rw [decode.eq_def]
  split
  · simp_all
  · simp_all
  · simp_all

/-- A byte is read where it was written. -/
lemma decode_encodeByte (b : UInt8) (rest : List Char) :
    decode (encodeByte b ++ rest) = (decode rest).map (b :: ·) := by
  have hb := b.toNat_lt
  unfold encodeByte
  split_ifs with h
  · have hpercent : Char.ofNat b.toNat ≠ '%' := by
      intro heq
      rw [isAlphanumeric, heq] at h
      cases h
    rw [List.singleton_append, decode_cons hpercent (toNat_lt_of_isAlphanum h), toNat_ofNat_byte,
      UInt8.ofNat_toNat]
  · have hhigh : b.toNat / 16 < 16 := by omega
    have hlow : b.toNat % 16 < 16 := by omega
    simp only [List.cons_append, List.nil_append]
    rw [decode, hexValue_hexDigit hhigh, hexValue_hexDigit hlow]
    simp only [Option.bind_eq_bind, Option.bind_some, Nat.div_add_mod, UInt8.ofNat_toNat]

theorem decode_encode (bytes : List UInt8) : decode (encode bytes) = some bytes := by
  induction bytes with
  | nil => rfl
  | cons b bytes ih =>
    rw [encode, List.flatMap_cons, decode_encodeByte, ← encode, ih, Option.map_some]

lemma isSafe_of_mem_encode {bytes : List UInt8} {c : Char} (h : c ∈ encode bytes) : IsSafe c := by
  obtain ⟨b, -, hc⟩ := List.mem_flatMap.mp h
  have hb := b.toNat_lt
  unfold encodeByte at hc
  split_ifs at hc with halpha
  · rw [List.mem_singleton] at hc
    rw [hc]
    exact .inr halpha
  · simp only [List.mem_cons, List.not_mem_nil, or_false] at hc
    rcases hc with rfl | rfl | rfl
    · exact .inl rfl
    · exact .inr (isAlphanum_hexDigit (by omega))
    · exact .inr (isAlphanum_hexDigit (by omega))

end Lib.Percent
