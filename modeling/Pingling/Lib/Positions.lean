import Mathlib

/-!
# Positions in a list

The elements of a list without repetitions are ordered by their positions. A window is the
list of the last elements; it holds every element that comes after one of its own.
-/

namespace Lib

/-- A list is split at its head, or below it where its tail is split. -/
lemma forall_splits_cons {α : Type} {a : α} {as : List α} {P : List α → α → List α → Prop} :
    (∀ pre b post, a :: as = pre ++ b :: post → P pre b post) ↔
      P [] a as ∧ ∀ pre b post, as = pre ++ b :: post → P (a :: pre) b post := by
  constructor
  · intro h
    exact ⟨h [] a as rfl, fun pre b post hsplit => h (a :: pre) b post (congrArg (a :: ·) hsplit)⟩
  · rintro ⟨hhead, htail⟩ pre b post hsplit
    cases pre with
    | nil =>
      obtain ⟨rfl, rfl⟩ := List.cons.inj hsplit
      exact hhead
    | cons a' pre =>
      obtain ⟨rfl, hrest⟩ := List.cons.inj hsplit
      exact htail pre b post hrest

variable {κ : Type} [DecidableEq κ] {xs ys : List κ}

/-- A list in the order of another one. -/
def InOrder (xs ys : List κ) : Prop :=
  ys.Pairwise (fun a b => xs.idxOf a ≤ xs.idxOf b)

instance : Decidable (InOrder xs ys) :=
  inferInstanceAs (Decidable (ys.Pairwise _))

lemma InOrder.self (h : xs.Nodup) : InOrder xs xs := by
  apply List.pairwise_iff_getElem.mpr
  intro i j hi hj hlt
  rw [h.idxOf_getElem i hi, h.idxOf_getElem j hj]
  exact hlt.le

lemma InOrder.sublist {zs : List κ} (h : InOrder xs zs) (hsub : ys.Sublist zs) : InOrder xs ys :=
  List.Pairwise.sublist hsub h

/-- What comes after an element of a final part is in that part. -/
lemma mem_of_idxOf_le {pre post : List κ} (h : (pre ++ post).Nodup) {a b : κ} (ha : a ∈ post)
    (hb : b ∈ pre ++ post) (hle : (pre ++ post).idxOf a ≤ (pre ++ post).idxOf b) : b ∈ post := by
  have hdisjoint := (List.nodup_append'.mp h).2.2
  have hpre : a ∉ pre := fun hmem => hdisjoint hmem ha
  rcases List.mem_append.mp hb with hb | hb
  · have hlt := List.idxOf_lt_length_of_mem hb
    rw [List.idxOf_append_of_mem hb, List.idxOf_append_of_notMem hpre] at hle
    omega
  · exact hb

lemma InOrder.idxOf_le_getLast (h : InOrder xs ys) {a b : κ} (ha : ys.getLast? = some a)
    (hb : b ∈ ys) : xs.idxOf b ≤ xs.idxOf a := by
  obtain ⟨ys', rfl⟩ := List.getLast?_eq_some_iff.mp ha
  rcases List.mem_append.mp hb with hb | hb
  · exact (List.pairwise_append.mp h).2.2 b hb a (List.mem_singleton_self a)
  · rw [List.mem_singleton.mp hb]

/-- Two lists in the same order end with the same element, if each has every later one of
the two last elements. -/
theorem InOrder.getLast?_eq {zs : List κ} (hys : InOrder xs ys) (hzs : InOrder xs zs)
    {a b : κ} (ha : ys.getLast? = some a) (hb : zs.getLast? = some b) (hmem : a ∈ xs)
    (hya : xs.idxOf a ≤ xs.idxOf b → b ∈ ys) (hzb : xs.idxOf b ≤ xs.idxOf a → a ∈ zs) :
    a = b := by
  apply (List.idxOf_inj hmem).mp
  by_cases hle : xs.idxOf a ≤ xs.idxOf b
  · have hge := hys.idxOf_le_getLast ha (hya hle)
    omega
  · have hge := hzs.idxOf_le_getLast hb (hzb (by omega))
    omega

section CutBehind

variable {α : Type} {wins : List α → α → Prop} {as reached rest : List α}

/-- A list is cut behind the first item that wins, given the items before it; if none does,
nothing is cut off. -/
structure CutBehind (wins : List α → α → Prop) (as reached rest : List α) : Prop where
  split : as = reached ++ rest
  first : ∀ pre a post, reached = pre ++ a :: post → post ≠ [] → ¬wins pre a
  last : rest ≠ [] → ∃ pre a, reached = pre ++ [a] ∧ wins pre a

namespace CutBehind

lemma nil (wins : List α → α → Prop) : CutBehind wins [] [] [] where
  split := rfl
  first pre a post h := by simp at h
  last h := absurd rfl h

lemma behind {a : α} (h : wins [] a) : CutBehind wins (a :: as) [a] as where
  split := rfl
  first := forall_splits_cons.mpr
    ⟨fun hne => absurd rfl hne, fun pre b post hsplit => by simp at hsplit⟩
  last _ := ⟨[], a, rfl, h⟩

lemma cons {a : α} (h : CutBehind (fun pre => wins (a :: pre)) as reached rest)
    (ha : ¬wins [] a) : CutBehind wins (a :: as) (a :: reached) rest where
  split := congrArg _ h.split
  first := forall_splits_cons.mpr ⟨fun _ => ha, fun pre b post hsplit => h.first pre b post hsplit⟩
  last hne := by
    obtain ⟨pre, b, hreached, hb⟩ := h.last hne
    exact ⟨a :: pre, b, by rw [hreached, List.cons_append], hb⟩

/-- The shorter of two cuts is not shorter. -/
lemma eq_of_isPrefix (h : CutBehind wins as reached rest) {reached' rest' : List α}
    (h' : CutBehind wins as reached' rest') (hle : reached <+: reached') : reached' = reached := by
  obtain ⟨more, rfl⟩ := hle
  by_contra hne
  have hmore : more ≠ [] := by
    rintro rfl
    exact hne (List.append_nil _)
  have hrest : rest ≠ [] := by
    rintro rfl
    have hsplit := h.split.symm.trans h'.split
    rw [List.append_assoc, List.append_cancel_left_eq] at hsplit
    exact hmore (List.append_eq_nil_iff.mp hsplit.symm).1
  obtain ⟨pre, a, hreached, ha⟩ := h.last hrest
  have hsplit : reached ++ more = pre ++ a :: more := by
    rw [hreached, List.append_assoc, List.singleton_append]
  exact h'.first pre a more hsplit hmore ha

/-- There is one way to cut. -/
theorem unique (h : CutBehind wins as reached rest) {reached' rest' : List α}
    (h' : CutBehind wins as reached' rest') : reached' = reached := by
  rcases List.prefix_or_prefix_of_prefix ⟨rest, h.split.symm⟩ ⟨rest', h'.split.symm⟩ with hle | hle
  · exact h.eq_of_isPrefix h' hle
  · exact (h'.eq_of_isPrefix h hle).symm

end CutBehind

end CutBehind

end Lib
