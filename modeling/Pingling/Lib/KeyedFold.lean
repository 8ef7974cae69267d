import Mathlib

/-!
# Folds of actions that have a key

Each action of a list says by its key which part of a state it is about. What is read of the state
in the end then depends on the actions of one key alone.
-/

namespace Lib

section Assignments

variable {σ κ β γ : Type} (assign : σ → κ → β → σ)

/-- The assignments of a list, one after the other. -/
def assignAll (s : σ) (entries : List (κ × β)) : σ :=
  entries.foldl (fun s entry => assign s entry.1 entry.2) s

variable {assign} in
lemma assignAll_untouched {get : σ → γ} (h : ∀ s k v, get (assign s k v) = get s) (s : σ)
    (entries : List (κ × β)) : get (assignAll assign s entries) = get s := by
  induction entries generalizing s with
  | nil => rfl
  | cons entry entries ih => exact (ih _).trans (h s entry.1 entry.2)

variable [DecidableEq κ]

/-- What `get` reads is set by assignments to one key, and left alone by all others. -/
def SetBy (get : σ → γ) (key : κ) (value : β → γ) : Prop :=
  ∀ s k v, get (assign s k v) = if k = key then value v else get s

variable {assign}

/-- With distinct keys, what is read in the end is what was assigned to the key, if anything. -/
lemma SetBy.assignAll {get : σ → γ} {key : κ} {value : β → γ} (h : SetBy assign get key value)
    (s : σ) (entries : List (κ × β)) (hnodup : (entries.map Prod.fst).Nodup) :
    get (assignAll assign s entries) = ((entries.lookup key).map value).getD (get s) := by
  induction entries generalizing s with
  | nil => rfl
  | cons entry entries ih =>
    obtain ⟨k, v⟩ := entry
    rw [List.map_cons, List.nodup_cons] at hnodup
    have hrest := ih (assign s k v) hnodup.2
    rw [Lib.assignAll, List.foldl_cons, ← Lib.assignAll, hrest, h s k v, List.lookup_cons]
    by_cases hkey : k = key
    · have hnone : entries.lookup key = none := by
        rw [List.lookup_eq_none_iff]
        intro p hp
        apply bne_iff_ne.mpr
        rintro rfl
        exact hnodup.1 (List.mem_map.mpr ⟨p, hp, hkey.symm⟩)
      rw [hnone, if_pos hkey, hkey, beq_self_eq_true]
      rfl
    · rw [if_neg hkey, beq_false_of_ne (Ne.symm hkey)]

end Assignments

section Actions

variable {σ κ ε β : Type} [DecidableEq κ]

/-- An action changes what is stored under its own key, by what is there, and nothing else. -/
def ActsAt (act : σ → ε → σ) (get : σ → κ → β) (key : ε → κ) (effect : β → ε → β) : Prop :=
  ∀ s e k, get (act s e) k = if key e = k then effect (get s k) e else get s k

/-- Only the actions with a key change what is stored under it. -/
lemma ActsAt.foldl {act : σ → ε → σ} {get : σ → κ → β} {key : ε → κ} {effect : β → ε → β}
    (h : ActsAt act get key effect) (es : List ε) (s : σ) (k : κ) :
    get (es.foldl act s) k = (es.filter (fun e => key e = k)).foldl effect (get s k) := by
  induction es generalizing s with
  | nil => rfl
  | cons e es ih =>
    rw [List.foldl_cons, ih (act s e), h s e k]
    by_cases hkey : key e = k
    · rw [if_pos hkey, List.filter_cons_of_pos (by simpa using hkey), List.foldl_cons]
    · rw [if_neg hkey, List.filter_cons_of_neg (by simpa using hkey)]

end Actions

section Keys

variable {α κ ε : Type} [DecidableEq κ] {key : α → κ} {xs : List α}

lemma filter_key_of_mem (hnodup : (xs.map key).Nodup) {x : α} (hx : x ∈ xs) :
    xs.filter (fun y => key y = key x) = [x] := by
  have hmem : ∀ y, y ∈ xs.filter (fun y => key y = key x) ↔ y ∈ [x] := by
    intro y
    rw [List.mem_filter, decide_eq_true_eq, List.mem_singleton]
    constructor
    · rintro ⟨hy, hkey⟩
      exact List.inj_on_of_nodup_map hnodup hy hx hkey
    · rintro rfl
      exact ⟨hx, rfl⟩
  have hfilter : (xs.filter (fun y => key y = key x)).Nodup := (hnodup.of_map key).filter _
  exact List.perm_singleton.mp
    ((List.perm_ext_iff_of_nodup hfilter (List.nodup_singleton x)).mpr hmem)

lemma filter_key_of_not_mem {k : κ} (h : k ∉ xs.map key) : xs.filter (fun y => key y = k) = [] := by
  rw [List.filter_eq_nil_iff]
  intro y hy hkey
  exact h (List.mem_map.mpr ⟨y, hy, by simpa using hkey⟩)

lemma filter_eq_of_nodup {keys : List κ} (hnodup : keys.Nodup) (k : κ) :
    keys.filter (fun j => j = k) = if k ∈ keys then [k] else [] := by
  have hnodup' : (keys.map id).Nodup := by rwa [List.map_id]
  split_ifs with hk
  · exact filter_key_of_mem hnodup' hk
  · exact filter_key_of_not_mem (by simpa using hk)

/-- What is made of an element has the element's key. -/
lemma filter_filterMap_key {f : α → Option ε} {key' : ε → κ}
    (h : ∀ x e, f x = some e → key' e = key x) (xs : List α) (k : κ) :
    (xs.filterMap f).filter (fun e => key' e = k) =
      (xs.filter (fun x => key x = k)).filterMap f := by
  rw [List.filter_filterMap, List.filterMap_filter]
  apply List.filterMap_congr
  intro x _
  cases hx : f x with
  | none => simp
  | some e => simp [Option.filter, h x e hx]

end Keys

end Lib
