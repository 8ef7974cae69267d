import Pingling.Lib.Walk

/-!
# The hook pipeline

An operation runs through a pipeline: its hooks go around a handler, and its wrap hooks go
around both. Hooks, handler and wrap hooks may all change a world `W` that they share. The
log of an execution lists the calls that the pipeline makes of its hooks and of its handler.
-/

namespace Pingling.Domain
open Lib

/-- A lifecycle hook. The phases that it leaves out do nothing. -/
structure Hook (I O E W : Type) where
  name : String
  before : I → W → (Except E Unit × I) × W := fun input w => ((.ok (), input), w)
  after : I → O → W → (Except E Unit × O) × W := fun _ output w => ((.ok (), output), w)
  onError : I → E → W → W := fun _ _ w => w

/-- A call of a hook or of the handler, with its arguments. -/
inductive HookEvent (I O E W : Type) where
  | before (hook : Hook I O E W) (input : I)
  | handle (input : I)
  | after (hook : Hook I O E W) (snap : I) (output : O)
  | onError (hook : Hook I O E W) (input : I) (err : E)

/-- The before, after and error hooks around the terminal handler. -/
structure HookRunner (I O E W : Type) where
  handler : I → W → Except E O × W
  hooks : List (Hook I O E W)

variable {I O E W ω : Type}

namespace HookRunner

/-- The error goes to the hooks in their order. -/
def onErrorLoop (input : I) (err : E) :
    List (Hook I O E W) → Action W (HookEvent I O E W) Unit
  | [] => pure ()
  | h :: hooks => do
    Action.perform (.onError h input err) (fun w => ((), h.onError input err w))
    onErrorLoop input err hooks

/-- The before hooks, on the input, until the first `Err`. -/
def beforeLoop (runner : HookRunner I O E W) :
    List (Hook I O E W) → I → Action W (HookEvent I O E W) (Except E I) :=
  Action.walk .before Hook.before (fun input e => onErrorLoop input e runner.hooks)

/-- The after hooks, on the output, until the first `Err`. -/
def afterLoop (runner : HookRunner I O E W) (snap : I) :
    List (Hook I O E W) → O → Action W (HookEvent I O E W) (Except E O) :=
  Action.walk (fun hook output => .after hook snap output) (fun hook => hook.after snap)
    (fun _ e => onErrorLoop snap e runner.hooks)

def handle (runner : HookRunner I O E W) (input : I) :
    Action W (HookEvent I O E W) (Except E O) := do
  match ← runner.beforeLoop runner.hooks input with
  | .error e => pure (.error e)
  | .ok input =>
    let snap := input
    match ← Action.perform (.handle input) (runner.handler input) with
    | .ok output => runner.afterLoop snap runner.hooks.reverse output
    | .error e =>
      onErrorLoop snap e runner.hooks
      pure (.error e)

end HookRunner

/-- A wrap hook is a routine: it may call `next` any number of times before it returns. -/
structure WrapHook (I O E W : Type) where
  name : String
  body : Routine I (Except E O) W

/-- The rest of the chain, as a wrap hook sees it; it gives `none` when `turns` run out. -/
abbrev Next (I O E W ω : Type) : Type :=
  I → W → Option (Execution W ω (Except E O))

def WrapHook.handle (wrap : WrapHook I O E W) (turns : ℕ) (next : Next I O E W ω) :
    Next I O E W ω :=
  fun input w => wrap.body.serve next turns (wrap.body.start input) w

/-- The walk through the wrap hooks, each of which may take so many turns whenever it is
called. -/
def WrapCursor.handle (turns : ℕ) (inner : Next I O E W ω) :
    List (WrapHook I O E W) → Next I O E W ω
  | head :: tail => head.handle turns (WrapCursor.handle turns inner tail)
  | [] => inner

/-- A handler with its hooks and the wraps around them. -/
structure Pipeline (I O E W : Type) where
  handler : I → W → Except E O × W
  hooks : List (Hook I O E W)
  wraps : List (WrapHook I O E W)

namespace Pipeline

def new (handler : I → W → Except E O × W) : Pipeline I O E W :=
  ⟨handler, [], []⟩

def pushHook (pipeline : Pipeline I O E W) (hook : Hook I O E W) : Pipeline I O E W :=
  { pipeline with hooks := pipeline.hooks ++ [hook] }

def pushWrap (pipeline : Pipeline I O E W) (wrap : WrapHook I O E W) : Pipeline I O E W :=
  { pipeline with wraps := pipeline.wraps ++ [wrap] }

def runner (pipeline : Pipeline I O E W) : HookRunner I O E W :=
  ⟨pipeline.handler, pipeline.hooks⟩

/-- An execution of the pipeline, if its wrap hooks return within so many turns each. -/
def execute (pipeline : Pipeline I O E W) (turns : ℕ) : Next I O E W (HookEvent I O E W) :=
  WrapCursor.handle turns (fun input w => some ((pipeline.runner.handle input).run w))
    pipeline.wraps

def hookNames (pipeline : Pipeline I O E W) : List String :=
  pipeline.hooks.map (·.name)

def wrapNames (pipeline : Pipeline I O E W) : List String :=
  pipeline.wraps.map (·.name)

def isEmpty (pipeline : Pipeline I O E W) : Bool :=
  pipeline.hooks.isEmpty && pipeline.wraps.isEmpty

lemma isEmpty_iff (pipeline : Pipeline I O E W) :
    pipeline.isEmpty ↔ pipeline.hookNames = [] ∧ pipeline.wrapNames = [] := by
  simp [isEmpty, hookNames, wrapNames]

end Pipeline

/-- A hook made from functions, each of which may be missing. -/
structure FnHook (I O E W : Type) where
  label : String
  beforeFn : Option (I → W → (Except E Unit × I) × W)
  afterFn : Option (I → O → W → (Except E Unit × O) × W)
  onErrorFn : Option (I → E → W → W)

namespace FnHook

def new (label : String) : FnHook I O E W :=
  ⟨label, none, none, none⟩

def before (hook : FnHook I O E W) (f : I → W → (Except E Unit × I) × W) : FnHook I O E W :=
  { hook with beforeFn := some f }

def after (hook : FnHook I O E W) (f : I → O → W → (Except E Unit × O) × W) : FnHook I O E W :=
  { hook with afterFn := some f }

def onError (hook : FnHook I O E W) (f : I → E → W → W) : FnHook I O E W :=
  { hook with onErrorFn := some f }

/-- What is missing does nothing. -/
def toHook (hook : FnHook I O E W) : Hook I O E W where
  name := hook.label
  before := hook.beforeFn.getD (fun input w => ((.ok (), input), w))
  after := hook.afterFn.getD (fun _ output w => ((.ok (), output), w))
  onError := hook.onErrorFn.getD (fun _ _ w => w)

end FnHook

/-- A wrap hook made from a function. -/
structure FnWrapHook (I O E W : Type) where
  label : String
  f : Routine I (Except E O) W

def FnWrapHook.toWrapHook (wrap : FnWrapHook I O E W) : WrapHook I O E W :=
  ⟨wrap.label, wrap.f⟩

/-- A wrap hook that calls the chain once and returns its result. -/
def passOn (label : String) : FnWrapHook I O E W where
  label := label
  f := {
    Frame := I ⊕ Except E O
    start := .inl
    turn := fun frame w => match frame with
      | .inl input => (.request input .inr, w)
      | .inr result => (.answer result, w) }

/-- A wrap hook that returns an error and never calls the chain. -/
def block (label : String) (e : E) : FnWrapHook I O E W where
  label := label
  f := { Frame := Unit, start := fun _ => (), turn := fun _ w => (.answer (.error e), w) }

/-- A hook that counts the errors it is told of. -/
def countOnError (label : String) : Hook I O E ℕ :=
  ((FnHook.new label).onError (fun _ _ count => count + 1)).toHook

end Pingling.Domain
