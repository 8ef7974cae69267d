import Mathlib

/-!
# Runs of guarded steps

A step is allowed in some states only. A run is a list of steps, each allowed where it is
taken; what one step preserves holds after every run.
-/

namespace Lib

variable {α σ : Type} (step : α → σ → Option σ)

/-- The state after a list of steps, if each is allowed. -/
def runSteps : List α → σ → Option σ
  | [], s => some s
  | a :: as, s => (step a s).bind (runSteps as)

variable {step}

@[simp] lemma runSteps_nil (s : σ) : runSteps step [] s = some s := rfl

lemma runSteps_cons {a : α} {as : List α} {s t : σ} :
    runSteps step (a :: as) s = some t ↔ ∃ m, step a s = some m ∧ runSteps step as m = some t :=
  Option.bind_eq_some_iff

lemma runSteps_append {as bs : List α} {s t : σ} :
    runSteps step (as ++ bs) s = some t ↔
      ∃ m, runSteps step as s = some m ∧ runSteps step bs m = some t := by
  induction as generalizing s with
  | nil => simp
  | cons a as ih =>
    rw [List.cons_append, runSteps_cons]
    constructor
    · rintro ⟨n, hstep, hrun⟩
      obtain ⟨m, has, hbs⟩ := ih.mp hrun
      exact ⟨m, runSteps_cons.mpr ⟨n, hstep, has⟩, hbs⟩
    · rintro ⟨m, hrun, hbs⟩
      obtain ⟨n, hstep, has⟩ := runSteps_cons.mp hrun
      exact ⟨n, hstep, ih.mpr ⟨m, has, hbs⟩⟩

/-- A statement about the steps taken and the state that they lead to holds after every run
when it holds at the start and each step keeps it. -/
theorem runSteps_invariant {s : σ} {P : List α → σ → Prop} (hstart : P [] s)
    (hstep : ∀ as a t t', runSteps step as s = some t → P as t → step a t = some t' →
      P (as ++ [a]) t')
    {as : List α} {t : σ} (h : runSteps step as s = some t) : P as t := by
  induction as using List.reverseRecOn generalizing t with
  | nil =>
    rw [runSteps_nil, Option.some.injEq] at h
    rw [← h]
    exact hstart
  | append_singleton as a ih =>
    obtain ⟨m, has, ha⟩ := runSteps_append.mp h
    obtain ⟨t', ha, hnil⟩ := runSteps_cons.mp ha
    rw [runSteps_nil, Option.some.injEq] at hnil
    rw [← hnil]
    exact hstep as a m t' has (ih has) ha

/-- A property of states that every step keeps is kept by every run. -/
theorem runSteps_preserves {P : σ → Prop} (hstep : ∀ a s t, P s → step a s = some t → P t)
    {as : List α} {s t : σ} (hs : P s) (h : runSteps step as s = some t) : P t :=
  runSteps_invariant (P := fun _ => P) hs (fun _ a m m' _ hm => hstep a m m' hm) h

variable (step) in
/-- Every step of a run meets a condition on the step and the state in which it is taken. -/
def EachStep (cond : α → σ → Prop) : List α → σ → Prop
  | [], _ => True
  | a :: as, s => cond a s ∧ ∀ t, step a s = some t → EachStep cond as t

section

variable {cond : α → σ → Prop}

lemma eachStep_append {as bs : List α} {s : σ} :
    EachStep step cond (as ++ bs) s ↔
      EachStep step cond as s ∧
        ∀ t, runSteps step as s = some t → EachStep step cond bs t := by
  induction as generalizing s with
  | nil => simp [EachStep]
  | cons a as ih =>
    simp only [List.cons_append, EachStep, ih, runSteps_cons]
    constructor
    · rintro ⟨ha, hall⟩
      exact ⟨⟨ha, fun m hm => (hall m hm).1⟩, fun t ⟨m, hm, hrun⟩ => (hall m hm).2 t hrun⟩
    · rintro ⟨⟨ha, has⟩, hbs⟩
      exact ⟨ha, fun m hm => ⟨has m hm, fun t hrun => hbs t ⟨m, hm, hrun⟩⟩⟩

lemma EachStep.cons {a : α} {as : List α} {s t : σ} (ha : step a s = some t) (hcond : cond a s)
    (h : EachStep step cond as t) : EachStep step cond (a :: as) s := by
  refine ⟨hcond, fun t' ht' => ?_⟩
  rw [ha, Option.some.injEq] at ht'
  rwa [← ht']

/-- A condition on the steps alone. -/
lemma eachStep_of_mem {p : α → Prop} {as : List α} (h : ∀ a ∈ as, p a) (s : σ) :
    EachStep step (fun a _ => p a) as s := by
  induction as generalizing s with
  | nil => trivial
  | cons a as ih =>
    exact ⟨h a List.mem_cons_self, fun t _ => ih (fun b hb => h b (List.mem_cons_of_mem a hb)) t⟩

lemma EachStep.and {cond' : α → σ → Prop} {as : List α} {s : σ} (h : EachStep step cond as s)
    (h' : EachStep step cond' as s) : EachStep step (fun a s => cond a s ∧ cond' a s) as s := by
  induction as generalizing s with
  | nil => trivial
  | cons a as ih => exact ⟨⟨h.1, h'.1⟩, fun t ht => ih (h.2 t ht) (h'.2 t ht)⟩

/-- A statement about the steps taken and the state that they lead to holds after every run
whose steps meet the condition when each such step keeps it. -/
theorem runSteps_invariant_of {s : σ} {P : List α → σ → Prop} (hstart : P [] s)
    (hstep : ∀ as a t t', P as t → cond a t → step a t = some t' → P (as ++ [a]) t')
    {as : List α} {t : σ} (hcond : EachStep step cond as s)
    (h : runSteps step as s = some t) : P as t := by
  induction as using List.reverseRecOn generalizing t with
  | nil =>
    rw [runSteps_nil, Option.some.injEq] at h
    rw [← h]
    exact hstart
  | append_singleton as a ih =>
    obtain ⟨has, ha⟩ := eachStep_append.mp hcond
    obtain ⟨m, hrun, hlast⟩ := runSteps_append.mp h
    obtain ⟨t', htaken, hnil⟩ := runSteps_cons.mp hlast
    rw [runSteps_nil, Option.some.injEq] at hnil
    rw [← hnil]
    exact hstep as a m t' (ih has hrun) (ha m hrun).1 htaken

/-- A property that every step meeting the condition keeps is kept by every run of such
steps. -/
theorem runSteps_preserves_of {P : σ → Prop}
    (hstep : ∀ a s t, P s → cond a s → step a s = some t → P t)
    {as : List α} {s t : σ} (hs : P s) (hcond : EachStep step cond as s)
    (h : runSteps step as s = some t) : P t :=
  runSteps_invariant_of (P := fun _ => P) hs (fun _ => hstep) hcond h

end

end Lib
