import Mathlib

/-!
# Ordered maps, ordered sets and stable sorting

`BTreeMap` and `BTreeSet` are Std's extensional search trees, so that two maps are
equal as soon as they answer every lookup alike. `sortBy` is a stable sort by a
comparator. This file collects the facts about iteration in key order and about
stable sorting that a program built on them relies on.
-/

namespace Lib
open Std

abbrev BTreeMap (κ α : Type) [Ord κ] := ExtTreeMap κ α compare

abbrev BTreeSet (κ : Type) [Ord κ] := ExtTreeSet κ compare

namespace BTreeMap

variable {κ α β : Type} [Ord κ] [TransOrd κ]

/-- The values of the map, in increasing order of their keys. -/
def values (t : BTreeMap κ α) : List α :=
  t.toList.map Prod.snd

lemma mem_values [LawfulEqOrd κ] {t : BTreeMap κ α} {v : α} :
    v ∈ values t ↔ ∃ k : κ, t[k]? = some v := by
  simp only [values, List.mem_map, Prod.exists, ExtTreeMap.mem_toList_iff_getElem?_eq_some]
  constructor
  · rintro ⟨k, w, h, rfl⟩
    exact ⟨k, h⟩
  · rintro ⟨k, h⟩
    exact ⟨k, v, h, rfl⟩

@[simp] lemma values_empty : values (∅ : BTreeMap κ α) = [] := by
  have h : (∅ : BTreeMap κ α).toList = [] := ExtTreeMap.toList_eq_nil_iff.mpr rfl
  rw [values, h, List.map_nil]

lemma values_map (f : α → β) (t : BTreeMap κ α) :
    values (ExtTreeMap.map (fun _ v => f v) t) = (values t).map f := by
  simp only [values, ExtTreeMap.toList_map, List.map_map]
  rfl

/-- Iteration visits the keys in strictly increasing order, whatever a value's key is
called inside the value. -/
lemma pairwise_values_of_key {t : BTreeMap κ α} {key : α → κ}
    (hkey : ∀ p ∈ t.toList, key p.2 = p.1) :
    (values t).Pairwise (fun a b => compare (key a) (key b) = .lt) := by
  rw [values, List.pairwise_map]
  refine List.Pairwise.imp_of_mem (fun {a b} ha hb hab => ?_) ExtTreeMap.ordered_keys_toList
  rw [hkey a ha, hkey b hb]
  exact hab

/-- Giving many keys one value, one insertion after the other. -/
lemma getElem?_foldl_insert [LawfulEqOrd κ] [DecidableEq κ] {f : β → κ} {v : α} (xs : List β)
    (t : BTreeMap κ α) (k : κ) :
    (xs.foldl (fun t x => t.insert (f x) v) t)[k]? =
      if k ∈ xs.map f then some v else t[k]? := by
  induction xs generalizing t with
  | nil => simp
  | cons x xs ih =>
    simp only [List.foldl_cons, ih, ExtTreeMap.getElem?_insert, List.map_cons, List.mem_cons]
    by_cases hxs : k ∈ xs.map f
    · rw [if_pos hxs, if_pos (Or.inr hxs)]
    · rw [if_neg hxs]
      by_cases hx : k = f x
      · rw [if_pos (Or.inl hx), if_pos (LawfulEqCmp.compare_eq_iff_eq.mpr hx.symm)]
      · rw [if_neg (not_or.mpr ⟨hx, hxs⟩),
          if_neg (fun hc => hx (LawfulEqCmp.compare_eq_iff_eq.mp hc).symm)]

end BTreeMap

lemma flatMap_filterMap_of_forall {α β γ : Type} {g : α → Option β} {f : α → List γ}
    {f' : β → List γ} {xs : List α} (h : ∀ x ∈ xs, ∃ y, g x = some y ∧ f' y = f x) :
    (xs.filterMap g).flatMap f' = xs.flatMap f := by
  induction xs with
  | nil => rfl
  | cons x xs ih =>
    obtain ⟨y, hy, heq⟩ := h x List.mem_cons_self
    rw [List.filterMap_cons_some hy, List.flatMap_cons, List.flatMap_cons, heq,
      ih (fun z hz => h z (List.mem_cons_of_mem _ hz))]

lemma mem_flatten_of_mem_getD {α : Type} {xss : List (List α)} {n : ℕ} {x : α}
    (h : x ∈ xss.getD n []) : x ∈ xss.flatten := by
  rw [List.getD_eq_getElem?_getD] at h
  cases hxs : xss[n]? with
  | none => simp [hxs] at h
  | some xs =>
    rw [hxs, Option.getD_some] at h
    exact List.mem_flatten.mpr ⟨xs, List.mem_of_getElem? hxs, h⟩

section Append

variable {α : Type} [DecidableEq α]

/-- Appends an element unless the list already has it. -/
def pushNew (xs : List α) (x : α) : List α :=
  if x ∈ xs then xs else xs ++ [x]

lemma mem_pushNew {xs : List α} {x a : α} : a ∈ pushNew xs x ↔ a ∈ xs ∨ a = x := by
  unfold pushNew
  split_ifs with h
  · constructor
    · exact Or.inl
    · rintro (ha | rfl)
      · exact ha
      · exact h
  · simp

lemma mem_foldl_pushNew {xs ys : List α} {a : α} :
    a ∈ ys.foldl pushNew xs ↔ a ∈ xs ∨ a ∈ ys := by
  induction ys generalizing xs with
  | nil => simp
  | cons y ys ih =>
    rw [List.foldl_cons, ih, mem_pushNew, List.mem_cons, or_assoc]

lemma pushNew_nodup {xs : List α} {x : α} (h : xs.Nodup) : (pushNew xs x).Nodup := by
  unfold pushNew
  split_ifs with hx
  · exact h
  · rw [← List.concat_eq_append]
    exact h.concat hx

lemma foldl_pushNew_nodup {xs ys : List α} (h : xs.Nodup) : (ys.foldl pushNew xs).Nodup := by
  induction ys generalizing xs with
  | nil => exact h
  | cons y ys ih => exact ih (pushNew_nodup h)

/-- What is there already is not appended. -/
lemma foldl_pushNew_of_forall_mem {xs ys : List α} (h : ∀ y ∈ ys, y ∈ xs) :
    ys.foldl pushNew xs = xs := by
  induction ys with
  | nil => rfl
  | cons y ys ih =>
    obtain ⟨hy, hys⟩ := List.forall_mem_cons.mp h
    rw [List.foldl_cons, pushNew, if_pos hy]
    exact ih hys

/-- The list stays as it is in front of what is appended to it, each element once. -/
lemma foldl_pushNew_eq_append (xs ys : List α) :
    ∃ added, ys.foldl pushNew xs = xs ++ added ∧ added.Nodup ∧ ∀ a ∈ added, a ∉ xs := by
  induction ys generalizing xs with
  | nil => exact ⟨[], (List.append_nil xs).symm, List.nodup_nil, fun a ha => absurd ha (by simp)⟩
  | cons y ys ih =>
    rw [List.foldl_cons, pushNew]
    split_ifs with hy
    · exact ih xs
    · obtain ⟨added, heq, hnodup, hnew⟩ := ih (xs ++ [y])
      simp only [List.mem_append, List.mem_singleton, not_or] at hnew
      refine ⟨y :: added, ?_, ?_, ?_⟩
      · rw [heq, List.append_assoc, List.singleton_append]
      · exact List.nodup_cons.mpr ⟨fun hmem => (hnew y hmem).2 rfl, hnodup⟩
      · exact List.forall_mem_cons.mpr ⟨hy, fun a ha => (hnew a ha).1⟩

end Append

section Greatest

variable {α : Type} (cmp : α → α → Ordering)

/-- The greatest element of a list, the last one where several compare equal. -/
def maxBy : List α → Option α
  | [] => none
  | x :: xs => some (xs.foldl (fun best y => if cmp best y = .gt then best else y) x)

lemma maxBy_isSome {xs : List α} : (maxBy cmp xs).isSome = true ↔ ∃ x, x ∈ xs := by
  cases xs with
  | nil => simp [maxBy]
  | cons y ys =>
    simp only [maxBy, Option.isSome_some, true_iff]
    exact ⟨y, List.mem_cons_self⟩

variable [TransCmp cmp]

/-- Keeping the greater element at every step keeps the greatest. -/
lemma foldl_greater_spec {best : α} : ∀ (xs : List α) (x : α),
    xs.foldl (fun best y => if cmp best y = .gt then best else y) x = best →
      (best = x ∨ best ∈ xs) ∧ (cmp x best).isLE = true ∧ ∀ y ∈ xs, (cmp y best).isLE = true
  | [], x, h => by
    rw [List.foldl_nil] at h
    subst h
    have hself : (cmp x x).isLE = true := by
      rw [show cmp x x = .eq from ReflCmp.compare_self]
      rfl
    exact ⟨.inl rfl, hself, fun y hy => absurd hy List.not_mem_nil⟩
  | y :: ys, x, h => by
    rw [List.foldl_cons] at h
    by_cases hgt : cmp x y = .gt
    · have hyx : (cmp y x).isLE = true := by
        rw [OrientedCmp.lt_of_gt hgt]
        rfl
      rw [if_pos hgt] at h
      obtain ⟨hmem, hx, hys⟩ := foldl_greater_spec ys x h
      refine ⟨hmem.imp_right (List.mem_cons_of_mem _), hx, fun z hz => ?_⟩
      rcases List.mem_cons.mp hz with rfl | hz
      · exact TransCmp.isLE_trans hyx hx
      · exact hys z hz
    · have hxy : (cmp x y).isLE = true := Ordering.ne_gt_iff_isLE.mp hgt
      rw [if_neg hgt] at h
      obtain ⟨hmem, hy, hys⟩ := foldl_greater_spec ys y h
      refine ⟨.inr (List.mem_cons.mpr hmem), TransCmp.isLE_trans hxy hy, fun z hz => ?_⟩
      rcases List.mem_cons.mp hz with rfl | hz
      · exact hy
      · exact hys z hz

/-- No element of the list is greater than the greatest one. -/
lemma maxBy_spec {xs : List α} {best : α} (h : maxBy cmp xs = some best) :
    best ∈ xs ∧ ∀ x ∈ xs, (cmp x best).isLE = true := by
  cases xs with
  | nil => exact nomatch h
  | cons x xs =>
    rw [maxBy, Option.some.injEq] at h
    obtain ⟨hmem, hx, hxs⟩ := foldl_greater_spec cmp xs x h
    rw [List.mem_cons]
    refine ⟨hmem, fun y hy => ?_⟩
    rcases List.mem_cons.mp hy with rfl | hy
    · exact hx
    · exact hxs y hy

end Greatest

section Sorting

variable {α : Type} (cmp : α → α → Ordering)

/-- The comparator does not put `b` strictly before `a`. -/
def NotAfter (a b : α) : Prop :=
  (cmp a b).isLE = true

instance : DecidableRel (NotAfter cmp) := fun a b =>
  inferInstanceAs (Decidable ((cmp a b).isLE = true))

/-- Stable sort: elements that compare equal keep their order. -/
def sortBy (l : List α) : List α :=
  l.insertionSort (NotAfter cmp)

lemma sortBy_perm (l : List α) : (sortBy cmp l).Perm l :=
  List.perm_insertionSort _ l

@[simp] lemma mem_sortBy {l : List α} {a : α} : a ∈ sortBy cmp l ↔ a ∈ l :=
  List.mem_insertionSort _

variable [TransCmp cmp]

lemma NotAfter.trans {a b c : α} (hab : NotAfter cmp a b) (hbc : NotAfter cmp b c) :
    NotAfter cmp a c :=
  TransCmp.isLE_trans hab hbc

lemma sortBy_pairwise (l : List α) : (sortBy cmp l).Pairwise (NotAfter cmp) := by
  have htotal : Std.Total (NotAfter cmp) := ⟨fun a b => by
    have hswap : cmp b a = (cmp a b).swap := OrientedCmp.eq_swap
    unfold NotAfter
    rw [hswap]
    cases cmp a b <;> simp⟩
  have htrans : IsTrans α (NotAfter cmp) := ⟨fun _ _ _ => NotAfter.trans cmp⟩
  exact List.pairwise_insertionSort _ l

/-- Removing elements and inserting into a sorted list commute. -/
lemma filter_orderedInsert (p : α → Bool) (a : α) (l : List α) (hl : l.Pairwise (NotAfter cmp)) :
    (l.orderedInsert (NotAfter cmp) a).filter p =
      if p a then (l.filter p).orderedInsert (NotAfter cmp) a else l.filter p := by
  induction l with
  | nil => simp [List.filter_singleton]
  | cons b l ih =>
    have ih := ih (List.Pairwise.of_cons hl)
    rw [List.orderedInsert_cons]
    by_cases hab : NotAfter cmp a b
    · rw [if_pos hab]
      cases hpa : p a with
      | false => simp [List.filter_cons, hpa]
      | true =>
        have hle : ∀ c ∈ (b :: l).filter p, NotAfter cmp a c := by
          intro c hc
          rcases List.mem_cons.mp (List.mem_of_mem_filter hc) with rfl | hc
          · exact hab
          · exact hab.trans cmp ((List.pairwise_cons.mp hl).1 c hc)
        rw [List.filter_cons_of_pos hpa, if_pos rfl]
        cases hf : (b :: l).filter p with
        | nil => rfl
        | cons c rest =>
          exact (List.orderedInsert_cons_of_le (NotAfter cmp) rest (hle c (by simp [hf]))).symm
    · rw [if_neg hab]
      cases hpb : p b with
      | false => simpa [List.filter_cons, hpb] using ih
      | true =>
        simp only [List.filter_cons, hpb, if_true, ih]
        split_ifs with hpa
        · rw [List.orderedInsert_of_not_le (NotAfter cmp) _ hab]
        · rfl

/-- Deleting elements before or after a stable sort gives the same list. -/
theorem filter_sortBy (p : α → Bool) (l : List α) :
    (sortBy cmp l).filter p = sortBy cmp (l.filter p) := by
  induction l with
  | nil => rfl
  | cons a l ih =>
    have hs : (sortBy cmp (a :: l)).filter p =
        if p a then ((sortBy cmp l).filter p).orderedInsert (NotAfter cmp) a
        else (sortBy cmp l).filter p :=
      filter_orderedInsert cmp p a _ (sortBy_pairwise cmp l)
    rw [hs, ih, List.filter_cons]
    split_ifs <;> rfl

end Sorting

end Lib
