import Pingling.Domain.Pipeline

/-!
# The phases of a hook runner

A run goes one of four ways: a before hook rejects the input, the handler fails, an after
hook revokes the output, or all of them pass. `HookRunner.Course` lists them with the calls
that each one makes, and `HookRunner.handle_course` finds the one a run goes.
-/

namespace Pingling.Domain
open Lib

variable {I O E W : Type}

/-- A before hook as a step on the input and the world. -/
abbrev beforeStep : Hook I O E W → I × W → Except E Unit × (I × W) :=
  withWorld Hook.before

/-- An after hook as a step on the output and the world. -/
abbrev afterStep (snap : I) : Hook I O E W → O × W → Except E Unit × (O × W) :=
  withWorld (fun hook => hook.after snap)

/-- The calls of a walk along the before hooks. -/
abbrev beforeCalls : List (Hook I O E W × I × W) → List (HookEvent I O E W) :=
  walkEvents .before

/-- The calls of a walk along the after hooks. -/
abbrev afterCalls (snap : I) : List (Hook I O E W × O × W) → List (HookEvent I O E W) :=
  walkEvents (fun hook output => .after hook snap output)

/-- The calls that tell every hook of an error. -/
def onErrorCalls (hooks : List (Hook I O E W)) (input : I) (err : E) :
    List (HookEvent I O E W) :=
  hooks.map (fun hook => .onError hook input err)

namespace HookRunner

lemma onErrorLoop_log (input : I) (err : E) (hooks : List (Hook I O E W)) (w : W) :
    ((onErrorLoop input err hooks).run w).log = onErrorCalls hooks input err := by
  induction hooks generalizing w with
  | nil => rfl
  | cons hook hooks ih =>
    rw [onErrorLoop, Action.run_perform_bind]
    exact congrArg (List.cons _) (ih _)

variable (runner : HookRunner I O E W)

/-- The ways a run can go, with its result and the calls it makes. -/
inductive Course (input : I) (w : W) : Except E O → List (HookEvent I O E W) → Prop
  | rejected {befores : List (Hook I O E W × I × W)} {e : E} {snap : I} {w₁ : W} :
    Walks beforeStep runner.hooks (input, w) befores (some e) (snap, w₁) →
    Course input w (.error e) (beforeCalls befores ++ onErrorCalls runner.hooks snap e)
  | failed {befores : List (Hook I O E W × I × W)} {snap : I} {w₁ w₂ : W} {e : E} :
    Walks beforeStep runner.hooks (input, w) befores none (snap, w₁) →
    runner.handler snap w₁ = (.error e, w₂) →
    Course input w (.error e)
      (beforeCalls befores ++ .handle snap :: onErrorCalls runner.hooks snap e)
  | revoked {befores : List (Hook I O E W × I × W)} {afters : List (Hook I O E W × O × W)}
    {snap : I} {output final : O} {w₁ w₂ w₃ : W} {e : E} :
    Walks beforeStep runner.hooks (input, w) befores none (snap, w₁) →
    runner.handler snap w₁ = (.ok output, w₂) →
    Walks (afterStep snap) runner.hooks.reverse (output, w₂) afters (some e) (final, w₃) →
    Course input w (.error e)
      (beforeCalls befores ++ .handle snap ::
        (afterCalls snap afters ++ onErrorCalls runner.hooks snap e))
  | completed {befores : List (Hook I O E W × I × W)} {afters : List (Hook I O E W × O × W)}
    {snap : I} {output final : O} {w₁ w₂ w₃ : W} :
    Walks beforeStep runner.hooks (input, w) befores none (snap, w₁) →
    runner.handler snap w₁ = (.ok output, w₂) →
    Walks (afterStep snap) runner.hooks.reverse (output, w₂) afters none (final, w₃) →
    Course input w (.ok final) (beforeCalls befores ++ .handle snap :: afterCalls snap afters)

theorem handle_course (input : I) (w : W) :
    runner.Course input w ((runner.handle input).run w).value
      ((runner.handle input).run w).log := by
  obtain ⟨befores, rejection, snap, w₁, hbefores, hbefore⟩ :=
    Action.walk_spec HookEvent.before Hook.before
      (fun input e => onErrorLoop input e runner.hooks) runner.hooks input w
  cases rejection with
  | some e =>
    rw [handle, Action.run_bind, beforeLoop, hbefore]
    simp only [Action.run_pure, List.append_nil, onErrorLoop_log]
    exact .rejected hbefores
  | none =>
    rw [handle, Action.run_bind, beforeLoop, hbefore]
    simp only [Action.run_perform_bind]
    rcases hhandler : runner.handler snap w₁ with ⟨e | output, w₂⟩
    · simp only [Action.run_bind, Action.run_pure, List.append_nil, onErrorLoop_log]
      exact .failed hbefores hhandler
    · obtain ⟨afters, revocation, final, w₃, hafters, hafter⟩ :=
        Action.walk_spec (fun hook output => HookEvent.after hook snap output)
          (fun hook => hook.after snap) (fun _ e => onErrorLoop snap e runner.hooks)
          runner.hooks.reverse output w₂
      simp only [afterLoop, hafter]
      cases revocation with
      | some e =>
        simp only [onErrorLoop_log]
        exact .revoked hbefores hhandler hafters
      | none => exact .completed hbefores hhandler hafters

/-- The phase contract: the before hooks are walked, and unless one of them rejects the
input the handler is called with what they left of it; an output of the handler is walked
back through the after hooks. Every hook is told of an error, last of all, and of nothing
else. -/
theorem handle_phases (input : I) (w : W) :
    ∃ befores rejection snap w₁,
      Walks beforeStep runner.hooks (input, w) befores rejection (snap, w₁) ∧
      let run := (runner.handle input).run w
      match rejection, runner.handler snap w₁ with
      | some e, _ =>
        run.value = .error e ∧
          run.log = beforeCalls befores ++ onErrorCalls runner.hooks snap e
      | none, (.error e, _) =>
        run.value = .error e ∧
          run.log = beforeCalls befores ++ .handle snap :: onErrorCalls runner.hooks snap e
      | none, (.ok output, w₂) =>
        ∃ afters revocation final w₃,
          Walks (afterStep snap) runner.hooks.reverse (output, w₂) afters revocation
            (final, w₃) ∧
          match revocation with
          | some e =>
            run.value = .error e ∧
              run.log = beforeCalls befores ++ .handle snap ::
                (afterCalls snap afters ++ onErrorCalls runner.hooks snap e)
          | none =>
            run.value = .ok final ∧
              run.log = beforeCalls befores ++ .handle snap :: afterCalls snap afters := by
  have hcourse := runner.handle_course input w
  generalize (runner.handle input).run w = run at hcourse ⊢
  generalize hvalue : run.value = value at hcourse
  generalize hlog : run.log = log at hcourse
  cases hcourse with
  | rejected hbefores =>
    refine ⟨_, some _, _, _, hbefores, ?_⟩
    exact ⟨hvalue, hlog⟩
  | failed hbefores hhandler =>
    refine ⟨_, none, _, _, hbefores, ?_⟩
    simp only [hhandler]
    exact ⟨hvalue, hlog⟩
  | revoked hbefores hhandler hafters =>
    refine ⟨_, none, _, _, hbefores, ?_⟩
    simp only [hhandler]
    exact ⟨_, some _, _, _, hafters, hvalue, hlog⟩
  | completed hbefores hhandler hafters =>
    refine ⟨_, none, _, _, hbefores, ?_⟩
    simp only [hhandler]
    exact ⟨_, none, _, _, hafters, hvalue, hlog⟩

end HookRunner
end Pingling.Domain
