import Mathlib

/-!
# Hexadecimal numerals

A number is written with lower-case digits and without zeros in front.
-/

namespace Lib.Hex

def write (n : ℕ) : List Char :=
  Nat.toDigits 16 n

lemma digitChar_injOn {m n : ℕ} (hm : m < 16) (hn : n < 16) (h : m.digitChar = n.digitChar) :
    m = n := by
  have hall : ∀ m < 16, ∀ n < 16, m.digitChar = n.digitChar → m = n := by decide
  exact hall m hm n hn h

lemma write_of_lt {n : ℕ} (h : n < 16) : write n = [n.digitChar] :=
  Nat.toDigits_of_lt_base h

lemma write_of_le {n : ℕ} (h : 16 ≤ n) : write n = write (n / 16) ++ [(n % 16).digitChar] :=
  Nat.toDigits_of_base_le (by omega) h

lemma write_ne_nil (n : ℕ) : write n ≠ [] :=
  Nat.toDigits_ne_nil

/-- A numeral has one digit just when its number is below the base. -/
lemma length_write (n : ℕ) : (write n).length = 1 ↔ n < 16 := by
  by_cases h : n < 16
  · simp [write_of_lt h, h]
  · have hpos := List.length_pos_of_ne_nil (write_ne_nil (n / 16))
    rw [write_of_le (by omega), List.length_append, List.length_singleton]
    omega

/-- By induction on the number, digit by digit from the end. -/
lemma write_injective : Function.Injective write := by
  intro m n h
  induction m using Nat.strong_induction_on generalizing n with
  | _ m ih =>
    have hsame : m < 16 ↔ n < 16 := by rw [← length_write, h, length_write]
    by_cases hm : m < 16
    · rw [write_of_lt hm, write_of_lt (hsame.mp hm), List.singleton_inj] at h
      exact digitChar_injOn hm (hsame.mp hm) h
    · have hn : ¬n < 16 := fun hn => hm (hsame.mpr hn)
      have hm : 16 ≤ m := by omega
      have hn : 16 ≤ n := by omega
      rw [write_of_le hm, write_of_le hn] at h
      obtain ⟨hfront, hlast⟩ := List.append_inj' h rfl
      have hdiv := ih (m / 16) (by omega) hfront
      have hmod := digitChar_injOn (Nat.mod_lt m (by omega)) (Nat.mod_lt n (by omega))
        (List.singleton_inj.mp hlast)
      omega

lemma dash_notMem_write (n : ℕ) : '-' ∉ write n := by
  induction n using Nat.strong_induction_on with
  | _ n ih =>
    have hdigit : ∀ d, d < 16 → '-' ≠ Nat.digitChar d := by decide
    by_cases h : n < 16
    · rw [write_of_lt h, List.mem_singleton]
      exact hdigit n h
    · rw [write_of_le (by omega), List.mem_append, List.mem_singleton, not_or]
      exact ⟨ih (n / 16) (by omega), hdigit _ (Nat.mod_lt n (by omega))⟩

end Lib.Hex
