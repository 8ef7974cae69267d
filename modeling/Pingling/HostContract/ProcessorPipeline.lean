import Pingling.HostContract.Slot
import Pingling.Lib.Json
import Pingling.Lib.Relay

/-!
# The config pipeline of plugins

The contract has a config pipeline of its own. It passes requests on as JSON, and a processor's
failure becomes a plugin error.
-/

namespace Pingling.HostContract
open Lib

/-- What the callback is told of a processor that has answered. -/
structure ProcessorStep where
  processorName : String
  input : Value
  output : Value

/-- A processor is known by its name and its function. -/
structure ConfigProcessor where
  name : String
  process : Value → Value → HostResult Value

/-- The processors in the order of their turns. -/
structure ProcessorPipeline where
  processors : List ConfigProcessor

namespace ProcessorPipeline

/-- A run with the calls of the processors and of the callback. -/
abbrev Run := Traced (Relay.Event String Value ProcessorStep) HostFailure Value

section

variable {σ : Type} (onStep : ProcessorStep → σ → σ) (request : Value)

/-- The loop along the processors. The callback may keep a state. -/
def walk : List ConfigProcessor → Value → σ → Run × σ
  | [], config, state => (pure config, state)
  | processor :: processors, config, state =>
    let input := config
    match (processor.process config request).mapError (fun error =>
        HostFailure.pluginError s!"processor[{processor.name}]: {error.toString}") with
    | .error error => (⟨[.called processor.name config], .error error⟩, state)
    | .ok output =>
      let step : ProcessorStep := ⟨processor.name, input, output⟩
      let (rest, state) := walk processors output (onStep step state)
      (⟨.called processor.name config :: .reported step :: rest.log, rest.result⟩, state)

end

/-- The run of the pipeline, and the state that the callback ends with. -/
def processWith {σ : Type} (pipeline : ProcessorPipeline) (onStep : ProcessorStep → σ → σ)
    (state : σ) (config request : Value) : Run × σ :=
  walk onStep request pipeline.processors config state

/-- The run of the pipeline without a callback. -/
def process (pipeline : ProcessorPipeline) (config request : Value) : Run :=
  (pipeline.processWith (fun _ state => state) () config request).1

/-- The stage that a processor is for a request. -/
def stage (request : Value) (processor : ConfigProcessor) :
    Relay.Stage String Value HostFailure where
  name := processor.name
  act config := (processor.process config request).mapError (fun error =>
    HostFailure.pluginError s!"processor[{processor.name}]: {error.toString}")

def ofStep (step : Relay.Step String Value) : ProcessorStep :=
  ⟨step.name, step.input, step.output⟩

/-- The loop is the relay of its processors, with its callback run on every step. -/
lemma walk_eq {σ : Type} (onStep : ProcessorStep → σ → σ) (request : Value)
    (processors : List ConfigProcessor) (config : Value) (state : σ) :
    let run := Relay.run (processors.map (stage request)) config
    walk onStep request processors config state =
      (⟨run.log.map (.map ofStep), run.result⟩,
        (Relay.reports run.log).foldl (fun state step => onStep (ofStep step) state) state) := by
  induction processors generalizing config state with
  | nil => rfl
  | cons processor processors ih =>
    have hact : (stage request processor).act config =
        (processor.process config request).mapError (fun error =>
          HostFailure.pluginError s!"processor[{processor.name}]: {error.toString}") := rfl
    rw [List.map_cons, walk]
    cases hprocess : (processor.process config request).mapError (fun error =>
        HostFailure.pluginError s!"processor[{processor.name}]: {error.toString}") with
    | error error =>
      rw [Relay.run_of_error _ (hact.trans hprocess)]
      rfl
    | ok output =>
      rw [Relay.run_of_ok _ (hact.trans hprocess)]
      simp only [ih]
      rfl

end ProcessorPipeline
end Pingling.HostContract
