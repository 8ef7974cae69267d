import Pingling.Domain.HookPhases

/-!
# Errors of a pipeline

The wrap hooks of a pipeline decide which calls reach its hook runner, and `execute_log`
reads the log of an execution off these calls. A hook is told of an error when one of them
fails; an error that a wrap hook makes up is heard by none.
-/

namespace Pingling.Domain
open Lib

variable {I O E W ω ω' : Type}

/-- A hook was told of some error. -/
def Told (log : List (HookEvent I O E W)) (hook : Hook I O E W) : Prop :=
  ∃ snap e, .onError hook snap e ∈ log

namespace HookRunner

variable {runner : HookRunner I O E W} {input : I} {w : W}

/-- When a run fails, every hook is told. -/
lemma told_of_error {e : E} (h : ((runner.handle input).run w).value = .error e)
    {hook : Hook I O E W} (hhook : hook ∈ runner.hooks) :
    Told ((runner.handle input).run w).log hook := by
  have hcourse := runner.handle_course input w
  rw [h] at hcourse
  generalize ((runner.handle input).run w).log = log at hcourse ⊢
  have htold : ∀ snap, HookEvent.onError hook snap e ∈ onErrorCalls runner.hooks snap e :=
    fun snap => List.mem_map_of_mem hhook
  cases hcourse with
  | @rejected befores e snap => exact ⟨snap, e, List.mem_append_right _ (htold snap)⟩
  | @failed befores snap =>
    exact ⟨snap, e, List.mem_append_right _ (List.mem_cons_of_mem _ (htold snap))⟩
  | @revoked befores afters snap =>
    refine ⟨snap, e, List.mem_append_right _ (List.mem_cons_of_mem _ ?_)⟩
    exact List.mem_append_right _ (htold snap)

/-- When a run succeeds, no hook is told of anything. -/
lemma not_told_of_ok {output : O} (h : ((runner.handle input).run w).value = .ok output)
    (hook : Hook I O E W) : ¬ Told ((runner.handle input).run w).log hook := by
  have hcourse := runner.handle_course input w
  rw [h] at hcourse
  generalize ((runner.handle input).run w).log = log at hcourse ⊢
  cases hcourse with
  | completed hbefores hhandler hafters => simp [Told, walkEvents]

end HookRunner

/-- A chain is a chain over the calls that reach the inner handler, each written out. -/
lemma WrapCursor.handle_expand {turns : ℕ} {inner : Next I O E W ω} {inner' : Next I O E W ω'}
    {f : ω' → List ω} (h : ∀ input w, inner input w = (inner' input w).map (·.expand f))
    (wraps : List (WrapHook I O E W)) (input : I) (w : W) :
    WrapCursor.handle turns inner wraps input w =
      (WrapCursor.handle turns inner' wraps input w).map (·.expand f) := by
  induction wraps generalizing input w with
  | nil => exact h input w
  | cons head tail ih => exact head.body.serve_expand ih turns _ w

lemma WrapCursor.handle_mono {turns turns' : ℕ} (hle : turns ≤ turns') (inner : Next I O E W ω)
    (wraps : List (WrapHook I O E W)) {input : I} {w : W} {run : Execution W ω (Except E O)}
    (h : WrapCursor.handle turns inner wraps input w = some run) :
    WrapCursor.handle turns' inner wraps input w = some run := by
  induction wraps generalizing input w run with
  | nil => exact h
  | cons head tail ih => exact head.body.serve_mono (fun _ _ _ => ih) hle h

namespace Pipeline

variable (pipeline : Pipeline I O E W)

/-- The hook runner, recording the calls of it and nothing else. -/
def recorded : Next I O E W (I × W) :=
  fun input w =>
    let run := (pipeline.runner.handle input).run w
    some ⟨run.value, run.world, [(input, w)]⟩

/-- The calls that the wrap hooks make of the hook runner, each with the world it finds. -/
def innerCalls (turns : ℕ) (input : I) (w : W) : List (I × W) :=
  ((WrapCursor.handle turns pipeline.recorded pipeline.wraps input w).map (·.log)).getD []

/-- The result of a call of the hook runner. -/
def innerResult (call : I × W) : Except E O :=
  ((pipeline.runner.handle call.1).run call.2).value

variable {pipeline} {turns : ℕ} {input : I} {w : W}
  {run : Execution W (HookEvent I O E W) (Except E O)}

/-- An execution that has returned is not changed by further turns. -/
theorem execute_mono {turns' : ℕ} (hle : turns ≤ turns')
    (h : pipeline.execute turns input w = some run) :
    pipeline.execute turns' input w = some run :=
  WrapCursor.handle_mono hle _ _ h

/-- The log of an execution is that of the calls of the hook runner, one after the other. -/
theorem execute_log (h : pipeline.execute turns input w = some run) :
    run.log = (pipeline.innerCalls turns input w).flatMap
      (fun call => ((pipeline.runner.handle call.1).run call.2).log) := by
  have hinner : ∀ (input : I) (w : W), some ((pipeline.runner.handle input).run w) =
      (pipeline.recorded input w).map
        (·.expand (fun call => ((pipeline.runner.handle call.1).run call.2).log)) := by
    intro input w
    simp [recorded, Execution.expand]
  rw [execute, WrapCursor.handle_expand hinner, Option.map_eq_some_iff] at h
  obtain ⟨recording, hrecording, rfl⟩ := h
  rw [innerCalls, hrecording]
  rfl

/-- Without wrap hooks the input goes to the hook runner. -/
lemma innerCalls_of_no_wraps (h : pipeline.wraps = []) :
    pipeline.innerCalls turns input w = [(input, w)] := by
  rw [innerCalls, h]
  rfl

lemma value_of_no_wraps (h : pipeline.wraps = [])
    (hrun : pipeline.execute turns input w = some run) :
    run.value = pipeline.innerResult (input, w) := by
  rw [execute, h] at hrun
  cases hrun
  rfl

/-- Some call of the hook runner fails. -/
def InnerFailure (pipeline : Pipeline I O E W) (turns : ℕ) (input : I) (w : W) : Prop :=
  ∃ call ∈ pipeline.innerCalls turns input w, ∃ e, pipeline.innerResult call = .error e

/-- An execution that returns an error has told every hook of one, in a call of the hook
runner that failed; or no call failed and no hook was told, and the error is one that a
wrap hook returned of its own. -/
theorem execute_error {pipeline : Pipeline I O E W} {turns : ℕ} {input : I} {w : W}
    {run : Execution W (HookEvent I O E W) (Except E O)} {e : E}
    (hrun : pipeline.execute turns input w = some run) (herror : run.value = .error e) :
    pipeline.InnerFailure turns input w ∧ (∀ hook ∈ pipeline.hooks, Told run.log hook) ∨
      ¬ pipeline.InnerFailure turns input w ∧ (∀ hook, ¬ Told run.log hook) ∧
        pipeline.wraps ≠ [] := by
  have hlog := execute_log hrun
  by_cases hfails : pipeline.InnerFailure turns input w
  · refine Or.inl ⟨hfails, fun hook hhook => ?_⟩
    obtain ⟨call, hcall, e', he'⟩ := hfails
    obtain ⟨snap, e'', hmem⟩ := HookRunner.told_of_error he' hhook
    refine ⟨snap, e'', ?_⟩
    rw [hlog]
    exact List.mem_flatMap.mpr ⟨call, hcall, hmem⟩
  · refine Or.inr ⟨hfails, fun hook htold => ?_, fun hwraps => ?_⟩
    · obtain ⟨snap, e', hmem⟩ := htold
      rw [hlog] at hmem
      obtain ⟨call, hcall, hmem⟩ := List.mem_flatMap.mp hmem
      cases hresult : pipeline.innerResult call with
      | error e' => exact hfails ⟨call, hcall, e', hresult⟩
      | ok output => exact HookRunner.not_told_of_ok hresult hook ⟨snap, e', hmem⟩
    · -- a bare chain passes on the result of its one call
      apply hfails
      refine ⟨(input, w), ?_, e, ?_⟩
      · rw [innerCalls_of_no_wraps hwraps]
        exact List.mem_singleton_self _
      · rw [← value_of_no_wraps hwraps hrun, herror]

/-- A handler that fails, behind a wrap hook that returns what the chain returns. -/
def failing : Pipeline (ℕ × ℕ) ℕ String ℕ :=
  ((Pipeline.new (fun _ count => (.error "fail", count))).pushHook
    (countOnError "count")).pushWrap (passOn "pass-on").toWrapHook

theorem execute_error_failing :
    ∃ run, failing.execute 2 (0, 0) 0 = some run ∧ run.value = .error "fail" ∧ run.world = 1 ∧
      (failing.InnerFailure 2 (0, 0) 0 ∧ (∀ hook ∈ failing.hooks, Told run.log hook) ∨
        ¬ failing.InnerFailure 2 (0, 0) 0 ∧ (∀ hook, ¬ Told run.log hook) ∧
          failing.wraps ≠ []) :=
  ⟨_, rfl, rfl, rfl, execute_error rfl rfl⟩

/-- A handler that would succeed, behind a wrap hook that blocks every request. -/
def blocked : Pipeline String String String ℕ :=
  ((Pipeline.new (fun name count => (.ok ("Hello, " ++ name ++ "!"), count))).pushHook
    (countOnError "count")).pushWrap (block "block" "blocked by policy").toWrapHook

/-- The error of a wrap hook that never calls the chain reaches no hook. -/
theorem blocked_not_told :
    ∃ run, blocked.execute 1 "world" 0 = some run ∧ run.value = .error "blocked by policy" ∧
      ¬ ∀ hook ∈ blocked.hooks, Told run.log hook := by
  refine ⟨_, rfl, rfl, fun htold => ?_⟩
  obtain ⟨snap, e, hmem⟩ := htold (countOnError "count") List.mem_cons_self
  exact List.not_mem_nil hmem

end Pipeline
end Pingling.Domain
