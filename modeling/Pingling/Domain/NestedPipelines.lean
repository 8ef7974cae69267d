import Pingling.Domain.WrapCalls

/-!
# Pipelines inside pipelines

The terminal handler of a pipeline may itself run a pipeline. A wrap hook then cannot tell
whether `next` is the rest of its own chain or a handler that runs the rest of it, and wrap
hooks nest in the order in which they were registered.
-/

namespace Pingling.Domain
open Lib

variable {I O E W : Type}

/-- A handler that may run wrap hooks, which take so many turns each. Its log lists the
calls of hooks and handlers that are made in it. -/
abbrev ChainHandler (I O E W : Type) : Type :=
  ℕ → Next I O E W (HookEvent I O E W)

/-- A pipeline whose terminal handler may run wrap hooks. -/
structure NestedPipeline (I O E W : Type) where
  handler : ChainHandler I O E W
  hooks : List (Hook I O E W)
  wraps : List (WrapHook I O E W)

namespace NestedPipeline

/-- The before hooks, until the first `Err`. -/
def before (hooks : List (Hook I O E W)) :
    I → Action W (HookEvent I O E W) (Except E I) :=
  Action.walk .before Hook.before (fun input e => HookRunner.onErrorLoop input e hooks) hooks

/-- What the hooks make of the handler's result. -/
def settle (hooks : List (Hook I O E W)) (snap : I) :
    Except E O → Action W (HookEvent I O E W) (Except E O)
  | .ok output =>
    Action.walk (fun hook output => .after hook snap output) (fun hook => hook.after snap)
      (fun _ e => HookRunner.onErrorLoop snap e hooks) hooks.reverse output
  | .error e => do
    HookRunner.onErrorLoop snap e hooks
    pure (.error e)

/-- The hook runner, around a handler that is a chain. -/
def runner (hooks : List (Hook I O E W)) (handler : Next I O E W (HookEvent I O E W)) :
    Next I O E W (HookEvent I O E W) :=
  fun input w =>
    let started := (before hooks input).run w
    match started.value with
    | .error e => some ⟨.error e, started.world, started.log⟩
    | .ok snap =>
      (handler snap started.world).map (fun reply =>
        let finished := (settle hooks snap reply.value).run reply.world
        ⟨finished.value, finished.world, started.log ++ (reply.log ++ finished.log)⟩)

def execute (pipeline : NestedPipeline I O E W) : ChainHandler I O E W :=
  fun turns =>
    WrapCursor.handle turns (runner pipeline.hooks (pipeline.handler turns)) pipeline.wraps

/-- Without hooks the runner is its handler. -/
lemma runner_nil (handler : Next I O E W (HookEvent I O E W)) : runner [] handler = handler := by
  funext input w
  have hbefore : (before ([] : List (Hook I O E W)) input).run w = ⟨.ok input, w, []⟩ := rfl
  have hsettle : ∀ (result : Except E O) (w : W),
      (settle ([] : List (Hook I O E W)) input result).run w = ⟨result, w, []⟩ := by
    intro result w
    cases result <;> rfl
  simp only [runner, hbefore, hsettle, List.nil_append, List.append_nil]
  exact Option.map_id'

end NestedPipeline

namespace Pipeline

/-- A plain handler, as a chain of one call. -/
def plain (handler : I → W → Except E O × W) : ChainHandler I O E W :=
  fun _ input w => some ⟨(handler input w).1, (handler input w).2, [.handle input]⟩

/-- A pipeline is a nested one whose handler is plain. -/
theorem execute_eq_nested (pipeline : Pipeline I O E W) :
    pipeline.execute =
      (⟨plain pipeline.handler, pipeline.hooks, pipeline.wraps⟩ :
        NestedPipeline I O E W).execute := by
  have hrunner : ∀ turns, (fun input w => some ((pipeline.runner.handle input).run w)) =
      NestedPipeline.runner pipeline.hooks (plain pipeline.handler turns) := by
    intro turns
    funext input w
    have hbefore : pipeline.runner.beforeLoop pipeline.runner.hooks input =
      NestedPipeline.before pipeline.hooks input := rfl
    have hhandler : pipeline.runner.handler = pipeline.handler := rfl
    rw [NestedPipeline.runner, HookRunner.handle, Action.run_bind, hbefore, hhandler]
    rcases (NestedPipeline.before pipeline.hooks input).run w with ⟨e | snap, w', log⟩
    · simp
    · simp only [plain, Option.map_some, Action.run_perform_bind]
      cases (pipeline.handler snap w').1 <;> rfl
  funext turns
  rw [execute, NestedPipeline.execute, hrunner turns]

end Pipeline

/-- The wrap hooks of a longer list see the chain of the rest as their inner handler. -/
lemma WrapCursor.handle_append {ω : Type} (turns : ℕ) (inner : Next I O E W ω)
    (outer rest : List (WrapHook I O E W)) :
    WrapCursor.handle turns inner (outer ++ rest) =
      WrapCursor.handle turns (WrapCursor.handle turns inner rest) outer := by
  induction outer with
  | nil => rfl
  | cons head tail ih =>
    rw [List.cons_append, WrapCursor.handle, WrapCursor.handle, ih]

/-- A wrap hook that calls `next` once, with its input, and returns what that returned. -/
def WrapHook.Forwards (wrap : WrapHook I O E W) : Prop :=
  ∀ input w, ∃ resume, wrap.body.turn (wrap.body.start input) w = (.request input resume, w) ∧
    ∀ result w', wrap.body.turn (resume result) w' = (.answer result, w')

lemma WrapHook.Forwards.handle_eq {ω : Type} {wrap : WrapHook I O E W} (h : wrap.Forwards)
    (turns : ℕ) (next : Next I O E W ω) : wrap.handle (turns + 2) next = next := by
  funext input w
  obtain ⟨resume, hrequest, hanswer⟩ := h input w
  have hresume : ∀ result w',
      wrap.body.serve next (turns + 1) (resume result) w' = some ⟨result, w', []⟩ := by
    intro result w'
    rw [Routine.serve, hanswer]
  rw [WrapHook.handle, Routine.serve, hrequest]
  simp only [hresume]
  cases next input w with
  | none => rfl
  | some reply => simp [Execution.prepend]

lemma passOn_forwards (label : String) :
    (passOn label : FnWrapHook I O E W).toWrapHook.Forwards :=
  fun _ _ => ⟨Sum.inr, rfl, fun _ _ => rfl⟩

/-- A chain gives a run once its wrap hooks have turns enough. -/
def Returns (execute : ChainHandler I O E W) (input : I) (w : W)
    (run : Execution W (HookEvent I O E W) (Except E O)) : Prop :=
  ∃ turns, execute turns input w = some run

namespace Pipeline

lemma execute_append (handler : I → W → Except E O × W) (hooks : List (Hook I O E W))
    (outer rest : List (WrapHook I O E W)) :
    (⟨handler, hooks, outer ++ rest⟩ : Pipeline I O E W).execute =
      (⟨(⟨handler, hooks, rest⟩ : Pipeline I O E W).execute, [], outer⟩ :
        NestedPipeline I O E W).execute := by
  funext turns
  rw [NestedPipeline.execute, NestedPipeline.runner_nil]
  exact WrapCursor.handle_append turns _ outer rest

lemma execute_forwards (handler : I → W → Except E O × W) (hooks : List (Hook I O E W))
    (outer rest : List (WrapHook I O E W)) {forward : WrapHook I O E W}
    (h : forward.Forwards) (turns : ℕ) :
    (⟨handler, hooks, outer ++ forward :: rest⟩ : Pipeline I O E W).execute (turns + 2) =
      (⟨handler, hooks, outer ++ rest⟩ : Pipeline I O E W).execute (turns + 2) := by
  unfold execute
  simp only [WrapCursor.handle_append, WrapCursor.handle, h.handle_eq turns]
  rfl

/-- A pipeline returns the runs that a pipeline without hooks returns when the later of its
wrap hooks are moved, with the hooks and the handler, into the terminal handler of that one;
and a wrap hook that only forwards changes no run, wherever it stands. -/
theorem wraps_nest (handler : I → W → Except E O × W) (hooks : List (Hook I O E W))
    (ws₁ ws₂ : List (WrapHook I O E W)) (forward : WrapHook I O E W)
    (hforward : forward.Forwards) (input : I) (w : W)
    (run : Execution W (HookEvent I O E W) (Except E O)) :
    (Returns (⟨handler, hooks, ws₁ ++ ws₂⟩ : Pipeline I O E W).execute input w run ↔
      Returns (⟨(⟨handler, hooks, ws₂⟩ : Pipeline I O E W).execute, [], ws₁⟩ :
        NestedPipeline I O E W).execute input w run) ∧
    (Returns (⟨handler, hooks, ws₁ ++ forward :: ws₂⟩ : Pipeline I O E W).execute input w run ↔
      Returns (⟨handler, hooks, ws₁ ++ ws₂⟩ : Pipeline I O E W).execute input w run) := by
  constructor
  · rw [execute_append]
  · have hlater : ∀ {pipeline : Pipeline I O E W} {turns : ℕ},
        pipeline.execute turns input w = some run →
          pipeline.execute (turns + 2) input w = some run :=
      fun h => execute_mono (by omega) h
    constructor
    · rintro ⟨turns, hrun⟩
      have hrun := hlater hrun
      rw [execute_forwards handler hooks ws₁ ws₂ hforward] at hrun
      exact ⟨turns + 2, hrun⟩
    · rintro ⟨turns, hrun⟩
      have hrun := hlater hrun
      rw [← execute_forwards handler hooks ws₁ ws₂ hforward] at hrun
      exact ⟨turns + 2, hrun⟩

/-- A wrap hook that passes on, in front of one that blocks, leaves the refusal as it is. -/
theorem wraps_nest_blocked :
    Returns (⟨blocked.handler, blocked.hooks, [] ++ (passOn "pass-on").toWrapHook ::
        blocked.wraps⟩ : Pipeline String String String ℕ).execute "world" 0
      ⟨.error "blocked by policy", 0, []⟩ :=
  (wraps_nest blocked.handler blocked.hooks [] blocked.wraps (passOn "pass-on").toWrapHook
    (passOn_forwards "pass-on") "world" 0 ⟨.error "blocked by policy", 0, []⟩).2.mpr ⟨1, rfl⟩

end Pipeline
end Pingling.Domain
