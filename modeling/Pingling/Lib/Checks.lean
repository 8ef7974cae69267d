import Pingling.Lib.Collections

/-!
# Validators and runs

A validator is a sequence of checks that stops at the first error; the lemmas here turn
its success into the conjunction of what it checked. `Reachable` is the set of states a
machine can be in after any sequence of inputs, with its induction rule.
-/

namespace Lib
open Std

section Checks

variable {ε α β κ : Type}

lemma bind_eq_ok {x : Except ε α} {f : α → Except ε β} {b : β} :
    (x >>= f) = .ok b ↔ ∃ a, x = .ok a ∧ f a = .ok b := by
  cases x with
  | error e => simp [Bind.bind, Except.bind]
  | ok a => simp [Bind.bind, Except.bind]

lemma mapError_eq_ok {f : ε → κ} {x : Except ε α} {a : α} : x.mapError f = .ok a ↔ x = .ok a := by
  cases x <;> simp [Except.mapError]

lemma mapError_eq_error {f : ε → κ} {x : Except ε α} {k : κ} :
    x.mapError f = .error k ↔ ∃ e, x = .error e ∧ f e = k := by
  cases x <;> simp [Except.mapError]

/-- Two checks in sequence succeed together. -/
@[simp] lemma seq_eq_ok {x : Except ε Unit} {y : Except ε β} {b : β} :
    (x >>= fun _ => y) = .ok b ↔ x = .ok () ∧ y = .ok b := by
  rw [bind_eq_ok]
  constructor
  · rintro ⟨⟨⟩, hx, hy⟩
    exact ⟨hx, hy⟩
  · rintro ⟨hx, hy⟩
    exact ⟨(), hx, hy⟩

@[simp] lemma ite_error_eq_ok {p : Prop} [Decidable p] {e : ε} {x : Except ε α} {a : α} :
    (if p then .error e else x) = .ok a ↔ ¬p ∧ x = .ok a := by
  by_cases hp : p <;> simp [hp]

@[simp] lemma ite_ok_error_eq_ok {p : Prop} [Decidable p] {e : ε} {x : Except ε α} {a : α} :
    (if p then x else .error e) = .ok a ↔ p ∧ x = .ok a := by
  by_cases hp : p <;> simp [hp]

/-- Runs a check on every element, up to the first one that fails. -/
def checkAll (check : α → Except ε Unit) : List α → Except ε Unit
  | [] => .ok ()
  | x :: xs => do
    check x
    checkAll check xs

/-- Runs a check on a value that may be absent. -/
def checkSome (check : α → Except ε Unit) : Option α → Except ε Unit
  | none => .ok ()
  | some x => check x

/-- Runs a check on every element and refuses the first key that was seen before. -/
def checkDistinct [Ord κ] [TransOrd κ] (check : α → Except ε Unit) (key : α → κ)
    (duplicate : α → ε) : BTreeSet κ → List α → Except ε Unit
  | _, [] => .ok ()
  | seen, x :: xs => do
    check x
    if seen.contains (key x) then .error (duplicate x)
    else checkDistinct check key duplicate (seen.insert (key x)) xs

@[simp] lemma checkAll_eq_ok {check : α → Except ε Unit} {xs : List α} :
    checkAll check xs = .ok () ↔ ∀ x ∈ xs, check x = .ok () := by
  induction xs with
  | nil => simp [checkAll]
  | cons x xs ih => simp [checkAll, ih]

@[simp] lemma checkSome_eq_ok {check : α → Except ε Unit} {x : Option α} :
    checkSome check x = .ok () ↔ ∀ a, x = some a → check a = .ok () := by
  cases x <;> simp [checkSome]

lemma checkDistinct_eq_ok_of_seen [Ord κ] [TransOrd κ] [LawfulEqOrd κ]
    {check : α → Except ε Unit} {key : α → κ} {duplicate : α → ε} {seen : BTreeSet κ}
    {xs : List α} :
    checkDistinct check key duplicate seen xs = .ok () ↔
      (∀ x ∈ xs, check x = .ok ()) ∧ (∀ x ∈ xs, key x ∉ seen) ∧ (xs.map key).Nodup := by
  induction xs generalizing seen with
  | nil => simp [checkDistinct]
  | cons x xs ih =>
    simp only [checkDistinct, seq_eq_ok, ite_error_eq_ok, ih, List.mem_cons, forall_eq_or_imp,
      List.map_cons, List.nodup_cons, List.mem_map, not_exists, not_and,
      ExtTreeSet.mem_insert, not_or, ExtTreeSet.contains_iff_mem,
      LawfulEqCmp.compare_eq_iff_eq]
    constructor
    · rintro ⟨hx, hseen, hxs, hnot, hnodup⟩
      exact ⟨⟨hx, hxs⟩, ⟨hseen, fun y hy => (hnot y hy).2⟩,
        fun y hy h => (hnot y hy).1 h.symm, hnodup⟩
    · rintro ⟨⟨hx, hxs⟩, ⟨hseen, hrest⟩, hne, hnodup⟩
      exact ⟨hx, hseen, hxs, fun y hy => ⟨fun h => hne y hy h.symm, hrest y hy⟩, hnodup⟩

/-- The check succeeds exactly when every element passes and no key occurs twice. -/
@[simp] theorem checkDistinct_eq_ok [Ord κ] [TransOrd κ] [LawfulEqOrd κ]
    {check : α → Except ε Unit} {key : α → κ} {duplicate : α → ε} {xs : List α} :
    checkDistinct check key duplicate ∅ xs = .ok () ↔
      (∀ x ∈ xs, check x = .ok ()) ∧ (xs.map key).Nodup := by
  rw [checkDistinct_eq_ok_of_seen]
  constructor
  · rintro ⟨hxs, -, hnodup⟩
    exact ⟨hxs, hnodup⟩
  · rintro ⟨hxs, hnodup⟩
    exact ⟨hxs, fun x _ => ExtTreeSet.not_mem_empty, hnodup⟩

end Checks

section Runs

variable {σ ι : Type} (step : σ → ι → σ) (init : σ)

/-- The states a machine reaches from its initial state by any sequence of inputs. -/
inductive Reachable : σ → Prop
  | init : Reachable init
  | step {s : σ} (i : ι) : Reachable s → Reachable (step s i)

variable {step init}

/-- What holds initially and survives every step holds in every reachable state. -/
theorem Reachable.invariant {P : σ → Prop} (hinit : P init)
    (hstep : ∀ s i, Reachable step init s → P s → P (step s i)) {s : σ}
    (h : Reachable step init s) : P s := by
  induction h with
  | init => exact hinit
  | step i hs ih => exact hstep _ i hs ih

lemma Reachable.foldl {s : σ} (h : Reachable step init s) (is : List ι) :
    Reachable step init (is.foldl step s) := by
  induction is generalizing s with
  | nil => exact h
  | cons i is ih => exact ih (h.step i)

end Runs

end Lib
