import Pingling.Lib.Decimal
import Pingling.Lib.Json

/-!
# The numerals of a JSON text

A numeral has a sign, digits, a fraction and an exponent. Digits alone stand for a whole number
when it is in the range of a machine integer. Which float another numeral stands for is a
parameter. Reading a numeral that is in a text takes all of it.
-/

namespace Lib

/-- A number as it stands in a text: its sign, its digits, those after the point, and the letter,
the sign and the digits of its exponent. -/
structure Numeral where
  negative : Bool
  whole : List Char
  fraction : Option (List Char)
  exponent : Option (Char × Option Char × List Char)

namespace Numeral

/-- The point and the digits of a fraction. -/
def fractionText (fraction : Option (List Char)) : List Char :=
  (fraction.map ('.' :: ·)).getD []

/-- The letter, the sign and the digits of an exponent. -/
def exponentText (exponent : Option (Char × Option Char × List Char)) : List Char :=
  (exponent.map fun e => e.1 :: (e.2.1.toList ++ e.2.2)).getD []

def text (numeral : Numeral) : List Char :=
  (if numeral.negative then ['-'] else []) ++ numeral.whole ++
    fractionText numeral.fraction ++ exponentText numeral.exponent

/-- A numeral of digits alone is a whole number if it is in range, and not a negative zero. Any
other one is a float. -/
def number (parse : List Char → Option UInt64) (numeral : Numeral) : Option Number :=
  let n := Nat.ofDigitChars 10 numeral.whole 0
  if numeral.fraction = none ∧ numeral.exponent = none ∧ ¬numeral.negative ∧ n < 2 ^ 64 then
    some (.posInt (UInt64.ofNat n))
  else if numeral.fraction = none ∧ numeral.exponent = none ∧ numeral.negative ∧ 0 < n ∧
      n ≤ 2 ^ 63 then
    some (.negInt (Int64.ofInt (-n)))
  else (parse numeral.text).map .float

/-- The digits at the front of a text, of which there is at least one. -/
def readDigits (text : List Char) : Option (List Char × List Char) :=
  let digits := text.takeWhile Char.isDigit
  if digits = [] then none else some (digits, text.dropWhile Char.isDigit)

/-- A point is followed by digits. -/
def readFraction : List Char → Option (Option (List Char) × List Char)
  | '.' :: text => (readDigits text).map (Prod.map some id)
  | text => some (none, text)

/-- The sign of an exponent, if it has one. -/
def readSign : List Char → Option Char × List Char
  | '+' :: text => (some '+', text)
  | '-' :: text => (some '-', text)
  | text => (none, text)

/-- The letter of an exponent is followed by digits, with a sign or without one. -/
def readExponent : List Char → Option (Option (Char × Option Char × List Char) × List Char)
  | 'e' :: text => readAfter 'e' text
  | 'E' :: text => readAfter 'E' text
  | text => some (none, text)
where
  readAfter (letter : Char) (text : List Char) :
      Option (Option (Char × Option Char × List Char) × List Char) :=
    (readDigits (readSign text).2).map
      (Prod.map (fun digits => some (letter, (readSign text).1, digits)) id)

/-- A numeral at the front of a text. Only zero begins with the digit zero. -/
def readUnsigned (negative : Bool) (text : List Char) : Option (Numeral × List Char) := do
  let (whole, text) ← readDigits text
  if 1 < whole.length ∧ whole.head? = some '0' then none
  else
    let (fraction, text) ← readFraction text
    let (exponent, text) ← readExponent text
    some (⟨negative, whole, fraction, exponent⟩, text)

def readNumeral : List Char → Option (Numeral × List Char)
  | '-' :: text => readUnsigned true text
  | text => readUnsigned false text

/-- The numerals that a reader takes for what they are. -/
structure WellFormed (numeral : Numeral) : Prop where
  whole_ne : numeral.whole ≠ []
  whole : ∀ c ∈ numeral.whole, c.isDigit = true
  zero : ¬(1 < numeral.whole.length ∧ numeral.whole.head? = some '0')
  fraction : ∀ digits, numeral.fraction = some digits →
    digits ≠ [] ∧ ∀ c ∈ digits, c.isDigit = true
  exponent : ∀ letter sign digits, numeral.exponent = some (letter, sign, digits) →
    (letter = 'e' ∨ letter = 'E') ∧ (∀ c, sign = some c → c = '+' ∨ c = '-') ∧
      digits ≠ [] ∧ ∀ c ∈ digits, c.isDigit = true

/-- The characters that a number goes on with. -/
def inNumber (c : Char) : Bool :=
  c.isDigit || c == '.' || c == 'e' || c == 'E'

/-- What follows a number does not go on with it. -/
def Ends (rest : List Char) : Prop :=
  ∀ c, rest.head? = some c → inNumber c = false

lemma ends_cons {c : Char} (h : inNumber c = false) (rest : List Char) : Ends (c :: rest) := by
  intro d hd
  rw [List.head?_cons, Option.some.injEq] at hd
  exact hd ▸ h

lemma readDigits_append {digits rest : List Char} (hne : digits ≠ [])
    (hdigits : ∀ c ∈ digits, c.isDigit = true)
    (hrest : ∀ c, rest.head? = some c → c.isDigit = false) :
    readDigits (digits ++ rest) = some (digits, rest) := by
  have htake : (digits ++ rest).takeWhile Char.isDigit = digits := by
    rw [List.takeWhile_append_of_pos hdigits]
    cases rest with
    | nil => simp
    | cons c rest => simp [hrest c rfl]
  have hdrop : (digits ++ rest).dropWhile Char.isDigit = rest := by
    rw [List.dropWhile_append_of_pos hdigits]
    cases rest with
    | nil => rfl
    | cons c rest => simp [hrest c rfl]
  rw [readDigits, htake, hdrop, if_neg hne]

lemma Ends.not_digit {rest : List Char} (h : Ends rest) :
    ∀ c, rest.head? = some c → c.isDigit = false := by
  intro c hc
  have hin := h c hc
  simp only [inNumber, Bool.or_eq_false_iff] at hin
  exact hin.1.1.1

lemma readFraction_append {fraction : Option (List Char)} {rest : List Char}
    (h : ∀ digits, fraction = some digits → digits ≠ [] ∧ ∀ c ∈ digits, c.isDigit = true)
    (hrest : ∀ c, rest.head? = some c → c.isDigit = false ∧ c ≠ '.') :
    readFraction (fractionText fraction ++ rest) = some (fraction, rest) := by
  cases fraction with
  | none =>
    change readFraction rest = some (none, rest)
    unfold readFraction
    split
    · exact absurd rfl (hrest '.' rfl).2
    · rfl
  | some digits =>
    obtain ⟨hne, hdigits⟩ := h digits rfl
    have hread := readDigits_append hne hdigits fun c hc => (hrest c hc).1
    change (readDigits (digits ++ rest)).map (Prod.map some id) = _
    rw [hread]
    rfl

lemma readSign_append {sign : Option Char} {digits : List Char}
    (hsign : ∀ c, sign = some c → c = '+' ∨ c = '-') (hne : digits ≠ [])
    (hdigits : ∀ c ∈ digits, c.isDigit = true) (rest : List Char) :
    readSign (sign.toList ++ digits ++ rest) = (sign, digits ++ rest) := by
  cases sign with
  | some c =>
    rcases hsign c rfl with rfl | rfl
    · rfl
    · rfl
  | none =>
    obtain ⟨d, more, rfl⟩ := List.exists_cons_of_ne_nil hne
    have hd := hdigits d List.mem_cons_self
    change readSign (d :: (more ++ rest)) = _
    unfold readSign
    split
    · rename_i heq
      obtain ⟨rfl, -⟩ := List.cons.inj heq
      cases hd
    · rename_i heq
      obtain ⟨rfl, -⟩ := List.cons.inj heq
      cases hd
    · rfl

lemma readExponent_append {exponent : Option (Char × Option Char × List Char)} {rest : List Char}
    (h : ∀ letter sign digits, exponent = some (letter, sign, digits) →
      (letter = 'e' ∨ letter = 'E') ∧ (∀ c, sign = some c → c = '+' ∨ c = '-') ∧
        digits ≠ [] ∧ ∀ c ∈ digits, c.isDigit = true)
    (hrest : Ends rest) : readExponent (exponentText exponent ++ rest) = some (exponent, rest) := by
  cases exponent with
  | none =>
    change readExponent rest = some (none, rest)
    unfold readExponent
    split
    · cases hrest 'e' rfl
    · cases hrest 'E' rfl
    · rfl
  | some e =>
    obtain ⟨letter, sign, digits⟩ := e
    obtain ⟨hletter, hsign, hne, hdigits⟩ := h letter sign digits rfl
    have hread := readDigits_append hne hdigits hrest.not_digit
    have hafter : readExponent.readAfter letter (sign.toList ++ digits ++ rest) =
        some (some (letter, sign, digits), rest) := by
      rw [readExponent.readAfter, readSign_append hsign hne hdigits, hread]
      rfl
    rcases hletter with rfl | rfl
    · exact hafter
    · exact hafter

/-- A numeral without its sign. -/
def unsigned (numeral : Numeral) : List Char :=
  numeral.whole ++ (fractionText numeral.fraction ++ exponentText numeral.exponent)

lemma text_eq (numeral : Numeral) :
    numeral.text = (if numeral.negative then ['-'] else []) ++ numeral.unsigned := by
  simp only [text, unsigned, List.append_assoc]

section

variable {numeral : Numeral} (h : numeral.WellFormed) {rest : List Char} (hrest : Ends rest)

include h

/-- An unsigned numeral begins with a digit. -/
lemma WellFormed.unsigned_begins : ∃ c more, numeral.unsigned = c :: more ∧ c.isDigit = true := by
  obtain ⟨c, more, hwhole⟩ := List.exists_cons_of_ne_nil h.whole_ne
  exact ⟨c, _, by rw [unsigned, hwhole, List.cons_append],
    h.whole c (hwhole ▸ List.mem_cons_self)⟩

include hrest

lemma WellFormed.readUnsigned_append :
    readUnsigned numeral.negative (numeral.unsigned ++ rest) = some (numeral, rest) := by
  have hexponent := readExponent_append h.exponent hrest
  have hpoint : ∀ c, (exponentText numeral.exponent ++ rest).head? = some c →
      c.isDigit = false ∧ c ≠ '.' := by
    intro c hc
    cases he : numeral.exponent with
    | none =>
      rw [he] at hc
      have hin := hrest c hc
      simp only [inNumber, Bool.or_eq_false_iff, beq_eq_false_iff_ne] at hin
      exact ⟨hin.1.1.1, hin.1.1.2⟩
    | some e =>
      obtain ⟨letter, sign, digits⟩ := e
      rw [he] at hc
      obtain rfl := Option.some.inj hc
      rcases (h.exponent _ sign digits he).1 with rfl | rfl
      · exact (by decide : 'e'.isDigit = false ∧ 'e' ≠ '.')
      · exact (by decide : 'E'.isDigit = false ∧ 'E' ≠ '.')
  have hfraction := readFraction_append h.fraction hpoint
  have hdigit : ∀ c, (fractionText numeral.fraction ++
      (exponentText numeral.exponent ++ rest)).head? = some c → c.isDigit = false := by
    intro c hc
    cases hf : numeral.fraction with
    | none =>
      rw [hf] at hc
      exact (hpoint c hc).1
    | some digits =>
      rw [hf] at hc
      obtain rfl := Option.some.inj hc
      decide
  have hwhole := readDigits_append h.whole_ne h.whole hdigit
  rw [unsigned, List.append_assoc, List.append_assoc, readUnsigned, hwhole]
  simp only [Option.bind_eq_bind, Option.bind_some, if_neg h.zero, hfraction, hexponent]

/-- Reading a numeral takes all of it. -/
theorem WellFormed.readNumeral_append :
    readNumeral (numeral.text ++ rest) = some (numeral, rest) := by
  have hread := h.readUnsigned_append hrest
  cases hsign : numeral.negative with
  | true =>
    rw [hsign] at hread
    rw [text_eq, hsign, if_pos rfl, List.append_assoc, List.singleton_append]
    exact hread
  | false =>
    obtain ⟨c, more, hbegins, hc⟩ := h.unsigned_begins
    rw [hsign] at hread
    rw [text_eq, hsign, if_neg Bool.false_ne_true, List.nil_append]
    rw [hbegins, List.cons_append] at hread ⊢
    unfold readNumeral
    split
    · rename_i heq
      obtain ⟨rfl, -⟩ := List.cons.inj heq
      cases hc
    · exact hread

end

/-- The numeral of a whole number. -/
def ofNat (negative : Bool) (n : ℕ) : Numeral :=
  ⟨negative, Decimal.write n, none, none⟩

lemma wellFormed_ofNat (negative : Bool) (n : ℕ) : (ofNat negative n).WellFormed where
  whole_ne := Decimal.write_ne_nil n
  whole _ hc := Decimal.isDigit_of_mem_write hc
  zero := by
    rintro ⟨hlength, hhead⟩
    change 1 < (Decimal.write n).length at hlength
    change (Decimal.write n).head? = some '0' at hhead
    rcases Nat.eq_zero_or_pos n with rfl | hpos
    · rw [Decimal.write_zero] at hlength
      exact absurd hlength (by decide)
    · exact Decimal.write_head n hpos hhead
  fraction _ h := by cases h
  exponent _ _ _ h := by cases h

lemma text_ofNat_false (n : ℕ) : (ofNat false n).text = Decimal.write n := by
  simp [text, ofNat, fractionText, exponentText]

lemma text_ofNat_true (n : ℕ) : (ofNat true n).text = '-' :: Decimal.write n := by
  simp [text, ofNat, fractionText, exponentText]

lemma value_ofNat (negative : Bool) (n : ℕ) :
    Nat.ofDigitChars 10 (ofNat negative n).whole 0 = n :=
  Nat.ofDigitChars_ten_toDigits

lemma number_posInt (parse : List Char → Option UInt64) (n : UInt64) :
    (ofNat false n.toNat).number parse = some (.posInt n) := by
  have hlt := n.toNat_lt
  simp only [number, value_ofNat]
  rw [if_pos ⟨rfl, rfl, Bool.false_ne_true, hlt⟩, UInt64.ofNat_toNat]

lemma number_negInt (parse : List Char → Option UInt64) (n : Int64) (hneg : n < 0) :
    (ofNat true (-n.toInt).toNat).number parse = some (.negInt n) := by
  have hneg : n.toInt < 0 := Int64.lt_iff_toInt_lt.mp hneg
  have hle := n.le_toInt
  have hback : Int64.ofInt (-((-n.toInt).toNat : ℤ)) = n := by
    rw [Int.toNat_of_nonneg (by omega), neg_neg, Int64.ofInt_toInt]
  simp only [number, value_ofNat]
  rw [if_neg fun h => h.2.2.1 rfl, if_pos ⟨rfl, rfl, rfl, by omega, by omega⟩, hback]

end Numeral
end Lib
