import Mathlib

/-!
# Strings as sequences of characters

The string operations a validator uses: prefixes, suffixes and parts, splitting at a
separator, trimming white space, and membership of every character in an alphabet.
-/

namespace Lib
namespace Text

def startsWith (start value : String) : Bool :=
  decide (start.toList <+: value.toList)

def endsWith (suffix value : String) : Bool :=
  decide (suffix.toList <:+ value.toList)

/-- The text before the suffix, when the value ends with it. -/
def stripSuffix (suffix value : String) : Option String :=
  if endsWith suffix value then
    some (String.ofList (value.toList.take (value.toList.length - suffix.toList.length)))
  else none

/-- The text after the start, when the value begins with it. -/
def stripPrefix (start value : String) : Option String :=
  if startsWith start value then some (String.ofList (value.toList.drop start.toList.length))
  else none

/-- The texts before and after the first separator. -/
def splitOnce (separator : Char) (value : String) : Option (String × String) :=
  match value.toList.dropWhile (· != separator) with
  | [] => none
  | _ :: rest => some (String.ofList (value.toList.takeWhile (· != separator)), String.ofList rest)

/-- The texts between the separators, of which there may be none. -/
def split (separator : Char) (value : String) : List String :=
  (value.toList.splitOn separator).map String.ofList

def contains (character : Char) (value : String) : Bool :=
  value.toList.contains character

def containsText (part value : String) : Bool :=
  decide (part.toList <:+: value.toList)

/-- The Unicode `White_Space` property. -/
def isWhitespace (character : Char) : Bool :=
  let code := character.toNat
  (9 ≤ code && code ≤ 13) || code == 32 || code == 0x85 || code == 0xA0 || code == 0x1680 ||
    (0x2000 ≤ code && code ≤ 0x200A) || code == 0x2028 || code == 0x2029 || code == 0x202F ||
    code == 0x205F || code == 0x3000

def trim (value : String) : String :=
  String.ofList ((value.toList.dropWhile isWhitespace).rdropWhile isWhitespace)

/-- Every character of the value is in the alphabet. -/
def allChars (alphabet : Char → Bool) (value : String) : Bool :=
  value.toList.all alphabet

lemma startsWith_iff {start value : String} :
    startsWith start value = true ↔ ∃ rest, value = start ++ rest := by
  simp only [startsWith, decide_eq_true_eq]
  constructor
  · rintro ⟨rest, h⟩
    refine ⟨String.ofList rest, String.toList_inj.mp ?_⟩
    simp [← h]
  · rintro ⟨rest, rfl⟩
    exact ⟨rest.toList, by simp⟩

lemma endsWith_iff {suffix value : String} :
    endsWith suffix value = true ↔ ∃ front, value = front ++ suffix := by
  simp only [endsWith, decide_eq_true_eq]
  constructor
  · rintro ⟨front, h⟩
    refine ⟨String.ofList front, String.toList_inj.mp ?_⟩
    simp [← h]
  · rintro ⟨front, rfl⟩
    exact ⟨front.toList, by simp⟩

/-- Fronts of one text that are as long as each other are one front. -/
lemma eq_of_append_eq_append {front front' rest rest' : String}
    (h : front ++ rest = front' ++ rest') (hsize : front.utf8ByteSize = front'.utf8ByteSize) :
    front = front' := by
  have hlist : front.toList ++ rest.toList = front'.toList ++ rest'.toList := by
    rw [← String.toList_append, h, String.toList_append]
  have heq : ∀ {text text' : String}, text.utf8ByteSize = text'.utf8ByteSize →
      text.toList <+: text'.toList → text = text' := by
    rintro text text' hsize ⟨extra, hextra⟩
    have htext' : text' = text ++ String.ofList extra := by
      rw [← String.toList_inj, ← hextra, String.toList_append, String.toList_ofList]
    rw [htext', String.utf8ByteSize_append, Nat.left_eq_add,
      String.utf8ByteSize_eq_zero_iff] at hsize
    rw [htext', hsize, String.append_empty]
  have hfront : front.toList <+: front.toList ++ rest.toList := List.prefix_append _ _
  have hfront' : front'.toList <+: front.toList ++ rest.toList := hlist ▸ List.prefix_append _ _
  rcases List.prefix_or_prefix_of_prefix hfront hfront' with hle | hle
  · exact heq hsize hle
  · exact (heq hsize.symm hle).symm

/-- No occurrence of the part begins in the front, whatever follows the front. -/
def Apart (part front : String) : Prop :=
  ∀ tail ∈ front.toList.tails, tail ≠ [] → ¬part.toList <+: tail ∧ ¬tail <+: part.toList

instance (part front : String) : Decidable (Apart part front) :=
  inferInstanceAs (Decidable (∀ tail ∈ front.toList.tails, _))

lemma isInfix_append_of_apart {α : Type} {part : List α} (value : List α) :
    ∀ front : List α,
      (∀ tail ∈ front.tails, tail ≠ [] → ¬part <+: tail ∧ ¬tail <+: part) →
      (part <:+: front ++ value ↔ part <:+: value)
  | [], _ => Iff.rfl
  | c :: front, h => by
    have hstart : ¬part <+: c :: front ++ value := by
      intro hpart
      obtain ⟨hwithin, hacross⟩ := h (c :: front) (by simp) (by simp)
      rcases List.prefix_or_prefix_of_prefix hpart (List.prefix_append (c :: front) value) with
        hle | hle
      · exact hwithin hle
      · exact hacross hle
    have hrest := isInfix_append_of_apart value front
      (fun tail htail => h tail ((List.mem_tails _ _).mpr
        (((List.mem_tails _ _).mp htail).trans (List.suffix_cons c front))))
    rw [List.cons_append] at hstart ⊢
    rw [List.infix_cons_iff, hrest]
    exact or_iff_right hstart

/-- A front that is apart from what is looked for hides nothing and adds nothing. -/
lemma containsText_append_of_apart {part front : String} (h : Apart part front) (value : String) :
    containsText part (front ++ value) = containsText part value := by
  simp only [containsText, String.toList_append, isInfix_append_of_apart value.toList _ h]

lemma stripSuffix_append (front suffix : String) :
    stripSuffix suffix (front ++ suffix) = some front := by
  have h : endsWith suffix (front ++ suffix) = true := endsWith_iff.mpr ⟨front, rfl⟩
  simp [stripSuffix, h]

/-- Stripping a start undoes putting it in front, and does nothing else. -/
lemma stripPrefix_eq_some {start value rest : String} :
    stripPrefix start value = some rest ↔ value = start ++ rest := by
  have happend : ∀ rest, stripPrefix start (start ++ rest) = some rest := by
    intro rest
    have h : startsWith start (start ++ rest) = true := startsWith_iff.mpr ⟨rest, rfl⟩
    simp [stripPrefix, h]
  constructor
  · intro h
    have hstart : startsWith start value = true := by
      by_contra hnot
      simp [stripPrefix, hnot] at h
    obtain ⟨rest', rfl⟩ := startsWith_iff.mp hstart
    rw [happend, Option.some.injEq] at h
    rw [h]
  · rintro rfl
    exact happend rest

/-- Stripping a suffix undoes appending it, and does nothing else. -/
lemma stripSuffix_eq_some {suffix value front : String} :
    stripSuffix suffix value = some front ↔ value = front ++ suffix := by
  constructor
  · intro h
    by_cases he : endsWith suffix value = true
    · obtain ⟨front', rfl⟩ := endsWith_iff.mp he
      rw [stripSuffix_append, Option.some.injEq] at h
      rw [h]
    · simp [stripSuffix, he] at h
  · rintro rfl
    exact stripSuffix_append front suffix

lemma stripSuffix_eq_none {suffix value : String} :
    stripSuffix suffix value = none ↔ endsWith suffix value = false := by
  unfold stripSuffix
  split_ifs with h
  · simp [h]
  · simpa using h

end Text
end Lib
