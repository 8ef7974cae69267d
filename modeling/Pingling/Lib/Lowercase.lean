import Mathlib

/-!
# The lower case of a text

Every character has a lower case of its own, of one character or several, but a capital
sigma is written in one of two ways. It takes its final form at the end of a word, which the
characters on both sides decide. Beyond ASCII, the properties of characters are those of
some version of Unicode, so they are a parameter.
-/

namespace Lib

/-- The texts are the same but for the case of ASCII letters. -/
def eqIgnoreAsciiCase (text text' : String) : Bool :=
  text.toList.map Char.toLower == text'.toList.map Char.toLower

lemma toNat_lt_of_isAlpha {c : Char} (h : c.isAlpha = true) : c.toNat < 128 := by
  simp only [Char.isAlpha, Char.isUpper, Char.isLower, Bool.or_eq_true, decide_eq_true_eq,
    Bool.and_eq_true, ge_iff_le, UInt32.le_iff_toNat_le] at h
  have hnat : c.toNat = c.val.toNat := rfl
  simp at h
  omega

/-- Two characters with the same ASCII lower case are one, or both are ASCII letters. -/
lemma eq_or_isAlpha_of_toLower_eq {c d : Char} (h : c.toLower = d.toLower) :
    c = d ∨ (c.isAlpha = true ∧ d.isAlpha = true) := by
  have halpha : c.isAlpha = d.isAlpha := by
    rw [← Char.isAlpha_toLower_eq_isAlpha c, h, Char.isAlpha_toLower_eq_isAlpha]
  cases hd : d.isAlpha with
  | true => exact .inr ⟨halpha.trans hd, rfl⟩
  | false =>
    have hsame : ∀ e : Char, e.isAlpha = false → e.toLower = e := by
      intro e he
      apply Char.toLower_eq_of_not_isUpper
      intro hupper
      simp [Char.isAlpha, hupper] at he
    rw [hsame c (halpha.trans hd), hsame d hd] at h
    exact .inl h

/-- The properties of characters that the lower case of a text depends on. -/
structure CaseTables where
  toLower : Char → List Char
  cased : Char → Bool
  caseIgnorable : Char → Bool
  toLower_ascii : ∀ c, c.toNat < 128 → toLower c = [c.toLower]
  cased_ascii : ∀ c, c.toNat < 128 → cased c = c.isAlpha
  caseIgnorable_ascii : ∀ c, c.toNat < 128 →
    caseIgnorable c = ['\x27', '.', ':', '^', '\x60'].contains c

namespace CaseTables

/-- The tables that know of no character beyond ASCII. -/
def ascii : CaseTables where
  toLower c := [c.toLower]
  cased c := c.isAlpha
  caseIgnorable c := ['\x27', '.', ':', '^', '\x60'].contains c
  toLower_ascii _ _ := rfl
  cased_ascii _ _ := rfl
  caseIgnorable_ascii _ _ := rfl

variable (tables : CaseTables)

/-- The first character that is not case-ignorable is cased. -/
def caseIgnorableThenCased (text : List Char) : Bool :=
  match text.dropWhile tables.caseIgnorable with
  | [] => false
  | c :: _ => tables.cased c

/-- The lower case of a capital sigma between two texts, the one before it in reverse. -/
def mapUppercaseSigma (before after : List Char) : Char :=
  if tables.caseIgnorableThenCased before && !tables.caseIgnorableThenCased after then 'ς' else 'σ'

/-- The lower case of what follows a text, given in reverse. -/
def lowerAfter : List Char → List Char → List Char
  | _, [] => []
  | before, c :: after =>
    (if c = 'Σ' then [tables.mapUppercaseSigma before after] else tables.toLower c) ++
      lowerAfter (c :: before) after

def toLowercase (text : String) : String :=
  String.ofList (tables.lowerAfter [] text.toList)

/-- No word goes on across a space. -/
lemma caseIgnorableThenCased_append_space (before front : List Char) :
    tables.caseIgnorableThenCased (before ++ ' ' :: front) =
      tables.caseIgnorableThenCased before := by
  have hignorable : tables.caseIgnorable ' ' = false := by
    rw [tables.caseIgnorable_ascii ' ' (by decide)]
    decide
  have hcased : tables.cased ' ' = false := by
    rw [tables.cased_ascii ' ' (by decide)]
    decide
  induction before with
  | nil => simp [caseIgnorableThenCased, hignorable, hcased]
  | cons c before ih =>
    unfold caseIgnorableThenCased at ih ⊢
    cases hc : tables.caseIgnorable c with
    | true => simpa only [List.cons_append, List.dropWhile_cons, hc, if_true] using ih
    | false => simp [hc]

lemma lowerAfter_append_space (front : List Char) :
    ∀ before text : List Char,
      tables.lowerAfter (before ++ ' ' :: front) text = tables.lowerAfter before text
  | _, [] => rfl
  | before, c :: text => by
    have hrest := lowerAfter_append_space front (c :: before) text
    rw [List.cons_append] at hrest
    rw [lowerAfter, lowerAfter, hrest, mapUppercaseSigma, mapUppercaseSigma,
      caseIgnorableThenCased_append_space]

lemma lowerAfter_ascii_append (text : List Char) :
    ∀ (front : List Char), (∀ c ∈ front, c.toNat < 128) → ∀ before : List Char,
      tables.lowerAfter before (front ++ text) =
        front.map Char.toLower ++ tables.lowerAfter (front.reverse ++ before) text
  | [], _, _ => rfl
  | c :: front, hascii, before => by
    have hc : c.toNat < 128 := hascii c List.mem_cons_self
    have hsigma : c ≠ 'Σ' := by
      rintro rfl
      exact absurd hc (by decide)
    have hrest := lowerAfter_ascii_append text front
      (fun c hc => hascii c (List.mem_cons_of_mem _ hc)) (c :: before)
    rw [List.cons_append, lowerAfter, if_neg hsigma, tables.toLower_ascii c hc, hrest]
    simp

/-- The front is ASCII and ends in a space. -/
def AsciiPhrase (front : String) : Prop :=
  (∀ c ∈ front.toList, c.toNat < 128) ∧ front.toList.getLast? = some ' '

instance (front : String) : Decidable (AsciiPhrase front) :=
  inferInstanceAs (Decidable (_ ∧ _))

/-- After an ASCII front that ends in a space, a text has the lower case it has alone. -/
theorem toLowercase_append {front : String} (h : AsciiPhrase front) (text : String) :
    tables.toLowercase (front ++ text) =
      String.ofList (front.toList.map Char.toLower) ++ tables.toLowercase text := by
  obtain ⟨hascii, hspace⟩ := h
  obtain ⟨words, hwords⟩ := List.getLast?_eq_some_iff.mp hspace
  have hreverse : front.toList.reverse ++ [] = [] ++ ' ' :: words.reverse := by
    simp [hwords]
  rw [toLowercase, String.toList_append, tables.lowerAfter_ascii_append _ _ hascii, hreverse,
    tables.lowerAfter_append_space, String.ofList_append]
  rfl

/-- A letter is no sigma and stands in a word. -/
lemma caseIgnorable_of_isAlpha {c : Char} (h : c.isAlpha = true) :
    tables.caseIgnorable c = false := by
  rw [tables.caseIgnorable_ascii c (toNat_lt_of_isAlpha h)]
  simp only [List.contains_eq_mem, decide_eq_false_iff_not]
  intro hmem
  fin_cases hmem <;> exact absurd h (by decide)

lemma caseIgnorableThenCased_congr : ∀ text text' : List Char,
    text.map Char.toLower = text'.map Char.toLower →
      tables.caseIgnorableThenCased text = tables.caseIgnorableThenCased text'
  | [], [], _ => rfl
  | [], _ :: _, h | _ :: _, [], h => by simp at h
  | c :: text, d :: text', h => by
    obtain ⟨hhead, htail⟩ := List.cons.inj h
    unfold caseIgnorableThenCased
    rcases eq_or_isAlpha_of_toLower_eq hhead with rfl | ⟨hc, hd⟩
    · have ih := caseIgnorableThenCased_congr text text' htail
      unfold caseIgnorableThenCased at ih
      cases hignorable : tables.caseIgnorable c with
      | true => simpa only [List.dropWhile_cons, hignorable, if_true] using ih
      | false => simp [hignorable]
    · have hcased : tables.cased c = tables.cased d := by
        rw [tables.cased_ascii c (toNat_lt_of_isAlpha hc),
          tables.cased_ascii d (toNat_lt_of_isAlpha hd), hc, hd]
      simpa [tables.caseIgnorable_of_isAlpha hc, tables.caseIgnorable_of_isAlpha hd] using hcased

/-- The lower case of a text depends on the case of no ASCII letter, neither in it nor before. -/
lemma lowerAfter_congr : ∀ before before' text text' : List Char,
    before.map Char.toLower = before'.map Char.toLower →
    text.map Char.toLower = text'.map Char.toLower →
      tables.lowerAfter before text = tables.lowerAfter before' text'
  | _, _, [], [], _, _ => rfl
  | _, _, [], _ :: _, _, h | _, _, _ :: _, [], _, h => by simp at h
  | before, before', c :: text, d :: text', hbefore, h => by
    obtain ⟨hhead, htail⟩ := List.cons.inj h
    have hrest := lowerAfter_congr (c :: before) (d :: before') text text'
      (by rw [List.map_cons, List.map_cons, hhead, hbefore]) htail
    have hsigma : tables.mapUppercaseSigma before text =
        tables.mapUppercaseSigma before' text' := by
      rw [mapUppercaseSigma, mapUppercaseSigma,
        tables.caseIgnorableThenCased_congr before before' hbefore,
        tables.caseIgnorableThenCased_congr text text' htail]
    rw [lowerAfter, lowerAfter, hrest, hsigma]
    rcases eq_or_isAlpha_of_toLower_eq hhead with rfl | ⟨hc, hd⟩
    · rfl
    · have hno : ∀ e : Char, e.isAlpha = true → e ≠ 'Σ' := by
        rintro e he rfl
        exact absurd he (by decide)
      rw [if_neg (hno c hc), if_neg (hno d hd), tables.toLower_ascii c (toNat_lt_of_isAlpha hc),
        tables.toLower_ascii d (toNat_lt_of_isAlpha hd), hhead]

/-- Texts that are the same but for the case of ASCII letters have the same lower case. -/
theorem toLowercase_congr {text text' : String} (h : eqIgnoreAsciiCase text text' = true) :
    tables.toLowercase text = tables.toLowercase text' := by
  rw [toLowercase, toLowercase,
    tables.lowerAfter_congr [] [] text.toList text'.toList rfl (eq_of_beq h)]

end CaseTables
end Lib
