import Pingling.Lib.Text

/-!
# Strings of the operating system

On Unix a path, or the value of a variable, is a list of bytes. Text is such a string through
its UTF-8 encoding, in which a byte below 128 stands for itself and for nothing else.
-/

namespace Lib

abbrev OsString := List UInt8

namespace OsString

def ofString (s : String) : OsString :=
  s.toList.flatMap String.utf8EncodeChar

/-- The text that a string is, if it is one. -/
def toStr (o : OsString) : Option String :=
  String.fromUTF8? o.toByteArray

lemma toByteArray_ofString (s : String) : (ofString s).toByteArray = s.toByteArray := by
  rw [← String.utf8Encode_toList]
  rfl

@[simp] lemma ofString_append (s t : String) : ofString (s ++ t) = ofString s ++ ofString t := by
  simp [ofString]

@[simp] lemma toStr_ofString (s : String) : toStr (ofString s) = some s := by
  have hvalid : (ofString s).toByteArray.IsValidUTF8 := by
    rw [toByteArray_ofString]
    exact s.isValidUTF8
  rw [toStr, String.fromUTF8?, dif_pos hvalid, Option.some.injEq, ← String.toByteArray_inj]
  exact toByteArray_ofString s

/-- A string is text just when it is the encoding of some text. -/
lemma toStr_eq_some {o : OsString} {s : String} : toStr o = some s ↔ o = ofString s := by
  constructor
  · intro h
    unfold toStr String.fromUTF8? at h
    split_ifs at h with hvalid
    rw [Option.some.injEq] at h
    subst h
    rw [← List.toByteArray_inj, toByteArray_ofString]
    rfl
  · rintro rfl
    exact toStr_ofString s

lemma ofString_injective : Function.Injective ofString := by
  intro s t h
  rw [← Option.some.injEq, ← toStr_ofString s, h, toStr_ofString]

/-- A small byte in the encoding of a character is the character. -/
lemma utf8EncodeChar_of_small {c : Char} {b : UInt8} (h : b ∈ String.utf8EncodeChar c)
    (hb : b.toNat < 128) : String.utf8EncodeChar c = [b] ∧ c.val.toNat = b.toNat := by
  unfold String.utf8EncodeChar at h ⊢
  dsimp only at h ⊢
  split_ifs at h ⊢ with h1 h2 h3
  · have heq := List.mem_singleton.mp h
    refine ⟨by rw [heq], ?_⟩
    rw [heq, UInt8.toNat_ofNat']
    omega
  -- every byte of a longer encoding is 128 or more
  all_goals
    exfalso
    simp only [List.mem_cons, List.not_mem_nil, or_false] at h
    rcases h with rfl | rfl | rfl | rfl
  all_goals
    rw [UInt8.toNat_ofNat'] at hb
    omega

lemma utf8EncodeChar_singleton {c : Char} {b : UInt8} (hb : b.toNat < 128)
    (h : c.val.toNat = b.toNat) : String.utf8EncodeChar c = [b] := by
  unfold String.utf8EncodeChar
  dsimp only
  rw [if_pos (by omega), h, UInt8.ofNat_toNat]

lemma splitOn_append_of_not_mem {b : UInt8} {bytes : OsString} (h : b ∉ bytes)
    (rest : OsString) : (bytes ++ rest).splitOn b = (rest.splitOn b).modifyHead (bytes ++ ·) := by
  induction bytes with
  | nil =>
    rw [List.nil_append]
    cases rest.splitOn b <;> rfl
  | cons byte bytes ih =>
    rw [List.mem_cons, not_or] at h
    have hne : (byte == b) = false := beq_eq_false_iff_ne.mpr (Ne.symm h.1)
    rw [List.cons_append, List.splitOn_cons_eq_if_modifyHead, hne, ih h.2]
    cases rest.splitOn b <;> rfl

/-- The encoding of a text is split at a small byte where the text is split at the
character. -/
theorem splitOn_ofString {sep : Char} {b : UInt8} (hb : b.toNat < 128)
    (h : sep.val.toNat = b.toNat) (s : String) :
    (ofString s).splitOn b = (Text.split sep s).map ofString := by
  have hsplit : ∀ chars : List Char, (chars.flatMap String.utf8EncodeChar).splitOn b =
      (chars.splitOn sep).map (·.flatMap String.utf8EncodeChar) := by
    intro chars
    induction chars with
    | nil => rfl
    | cons c chars ih =>
      rw [List.flatMap_cons, List.splitOn_cons_eq_if_modifyHead]
      by_cases hc : c = sep
      · rw [hc, utf8EncodeChar_singleton hb h, List.singleton_append,
          List.splitOn_cons_eq_if_modifyHead, if_pos (beq_self_eq_true b),
          if_pos (beq_self_eq_true sep), ih]
        rfl
      · have hnot : b ∉ String.utf8EncodeChar c := by
          intro hmem
          have hvalue := (utf8EncodeChar_of_small hmem hb).2
          exact hc (Char.toNat_inj.mp (hvalue.trans h.symm))
        rw [splitOn_append_of_not_mem hnot, ih, if_neg (by simpa using hc)]
        cases chars.splitOn sep <;> rfl
  rw [ofString, hsplit, Text.split, List.map_map]
  apply List.map_congr_left
  intro part _
  simp [ofString]

end OsString

end Lib
