import Mathlib

/-!
# Events behind a switch

Some steps of a run turn a switch on or off, and some bring an event. What passes are the events
that come while the switch is on.
-/

namespace Lib.Gate

variable {α κ : Type} (switch : α → Option Bool) (event : α → Option κ)

/-- How the switch stands after some steps. -/
def after (on : Bool) (steps : List α) : Bool :=
  steps.foldl (fun on a => (switch a).getD on) on

/-- The events that come while the switch is on. -/
def passed : Bool → List α → List κ
  | _, [] => []
  | on, a :: steps =>
    (if on then (event a).toList else []) ++ passed ((switch a).getD on) steps

variable {switch event}

lemma after_concat (on : Bool) (steps : List α) (a : α) :
    after switch on (steps ++ [a]) = (switch a).getD (after switch on steps) :=
  List.foldl_append

lemma passed_concat (on : Bool) (steps : List α) (a : α) :
    passed switch event on (steps ++ [a]) =
      passed switch event on steps ++ if after switch on steps then (event a).toList else [] := by
  induction steps generalizing on with
  | nil => cases on <;> simp [passed, after]
  | cons b steps ih =>
    rw [List.cons_append, passed, ih, passed, List.append_assoc]
    rfl

end Lib.Gate
