import Mathlib

/-!
# Decimal numerals

A number is written with its decimal digits. A machine integer is read from an optional sign
and at least one digit, and must be in range.
-/

namespace Lib.Decimal

def write (n : ℕ) : List Char :=
  Nat.toDigits 10 n

/-- The number of a text of digits, of which there is at least one. -/
def readDigits (text : List Char) : Option ℕ :=
  if text ≠ [] ∧ text.all Char.isDigit then some (Nat.ofDigitChars 10 text 0) else none

/-- The integer of a text with a sign or without one. -/
def readSigned : List Char → Option ℤ
  | '+' :: digits => (readDigits digits).map Int.ofNat
  | '-' :: digits => (readDigits digits).map (fun n => -Int.ofNat n)
  | digits => (readDigits digits).map Int.ofNat

/-- `str::parse` for an integer type of this range. A minus sign does not come before the digits
of an unsigned type. -/
def parseInt (lower upper : ℤ) (text : List Char) : Option ℤ :=
  if lower = 0 ∧ text.head? = some '-' then none
  else (readSigned text).filter (fun i => decide (lower ≤ i ∧ i ≤ upper))

lemma isDigit_of_mem_write {n : ℕ} {c : Char} (h : c ∈ write n) : c.isDigit = true :=
  Nat.isDigit_of_mem_toDigits (by omega) (by omega) h

lemma write_ne_nil (n : ℕ) : write n ≠ [] := by
  rw [write, Nat.toDigits_eq_if (by omega)]
  split <;> simp

lemma readDigits_write (n : ℕ) : readDigits (write n) = some n := by
  have hall : (write n).all Char.isDigit = true :=
    List.all_eq_true.mpr fun c hc => isDigit_of_mem_write hc
  rw [readDigits, if_pos ⟨write_ne_nil n, hall⟩, write, Nat.ofDigitChars_ten_toDigits]

lemma write_injective : Function.Injective write := by
  intro m n h
  rw [← Option.some.injEq, ← readDigits_write m, h, readDigits_write]

lemma write_zero : write 0 = ['0'] :=
  Nat.toDigits_zero 10

/-- Only zero is written with a zero in front. -/
lemma write_head (n : ℕ) (h : 0 < n) : (write n).head? ≠ some '0' := by
  induction n using Nat.strong_induction_on with
  | _ n ih =>
    rw [write, Nat.toDigits_eq_if (by omega)]
    split_ifs with hlt
    · rw [List.head?_cons, ne_eq, Option.some.injEq]
      interval_cases n <;> decide
    · have hne := write_ne_nil (n / 10)
      rw [write] at hne
      rw [List.head?_append_of_ne_nil _ hne]
      exact ih (n / 10) (by omega) (by omega)

/-- A text of digits begins with neither sign. -/
lemma readSigned_digits {text : List Char} {n : ℕ} (h : readDigits text = some n) :
    readSigned text = some (n : ℤ) := by
  cases text with
  | nil => cases h
  | cons c digits =>
    unfold readSigned
    split
    · rename_i heq
      obtain ⟨rfl, rfl⟩ := List.cons.inj heq
      rw [readDigits, if_neg (by simp [List.all_cons])] at h
      cases h
    · rename_i heq
      obtain ⟨rfl, rfl⟩ := List.cons.inj heq
      rw [readDigits, if_neg (by simp [List.all_cons])] at h
      cases h
    · rw [h]
      rfl

lemma parseInt_write {lower upper : ℤ} {n : ℕ} (hlower : lower ≤ n) :
    parseInt lower upper (write n) = if (n : ℤ) ≤ upper then some (n : ℤ) else none := by
  have hhead : (write n).head? ≠ some '-' := by
    intro h
    have hdigit := isDigit_of_mem_write (List.mem_of_mem_head? h)
    cases hdigit
  rw [parseInt, if_neg (fun h => hhead h.2), readSigned_digits (readDigits_write n),
    Option.filter_some]
  simp [hlower]

end Lib.Decimal
