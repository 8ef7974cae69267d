import Pingling.Config.ErrorKind
import Pingling.Config.Strategy
import Pingling.Lib.Json
import Pingling.Lib.Relay

/-!
# The config pipeline

Processors transform a config one after the other, each given the output of the one before. A
callback is told of every step, and the error of a processor ends the run under the processor's
name.
-/

namespace Pingling.Config
open Lib

/-- What has been tried so far. -/
structure AttemptInfo where
  strategy : ConnectionStrategy
  attemptNumber : UInt32
  previousError : Option PreviousError

structure ConfigRequest where
  withHostDns : Bool
  defaultDnsServer : Option String
  attempt : AttemptInfo

/-- Processors are deterministic, so one is known by its name and its function. -/
structure ConfigProcessor where
  name : String
  process : Value → ConfigRequest → Except String Value

structure ProcessorStep where
  processorName : String
  input : Value
  output : Value

structure ProcessorPipeline where
  processors : List ConfigProcessor

namespace ProcessorPipeline

/-- A run with the calls of the processors and of the callback. -/
abbrev Run := Traced (Relay.Event String Value ProcessorStep) String Value

section

variable {σ : Type} (onStep : ProcessorStep → σ → σ) (request : ConfigRequest)

/-- The loop along the processors. The callback may keep a state. -/
def walk : List ConfigProcessor → Value → σ → Run × σ
  | [], config, state => (pure config, state)
  | processor :: processors, config, state =>
    let inputSnapshot := config
    match (processor.process config request).mapError
        (fun e => s!"processor[{processor.name}]: {e}") with
    | .error e => (⟨[.called processor.name config], .error e⟩, state)
    | .ok output =>
      let step : ProcessorStep := ⟨processor.name, inputSnapshot, output⟩
      let (rest, state) := walk processors output (onStep step state)
      (⟨.called processor.name config :: .reported step :: rest.log, rest.result⟩, state)

end

def processWith {σ : Type} (pipeline : ProcessorPipeline) (onStep : ProcessorStep → σ → σ)
    (state : σ) (config : Value) (request : ConfigRequest) : Run × σ :=
  walk onStep request pipeline.processors config state

def process (pipeline : ProcessorPipeline) (config : Value) (request : ConfigRequest) : Run :=
  (pipeline.processWith (fun _ state => state) () config request).1

/-- The stage that a processor is for a request. -/
def stage (request : ConfigRequest) (processor : ConfigProcessor) :
    Relay.Stage String Value String where
  name := processor.name
  act config := (processor.process config request).mapError
    (fun e => s!"processor[{processor.name}]: {e}")

def ofStep (step : Relay.Step String Value) : ProcessorStep :=
  ⟨step.name, step.input, step.output⟩

/-- The loop is the relay of its processors, with its callback run on every step. -/
lemma walk_eq {σ : Type} (onStep : ProcessorStep → σ → σ) (request : ConfigRequest)
    (processors : List ConfigProcessor) (config : Value) (state : σ) :
    let run := Relay.run (processors.map (stage request)) config
    walk onStep request processors config state =
      (⟨run.log.map (.map ofStep), run.result⟩,
        (Relay.reports run.log).foldl (fun state step => onStep (ofStep step) state) state) := by
  induction processors generalizing config state with
  | nil => rfl
  | cons processor processors ih =>
    have hact : (stage request processor).act config = (processor.process config request).mapError
        (fun e => s!"processor[{processor.name}]: {e}") := rfl
    rw [List.map_cons, walk]
    cases hprocess : (processor.process config request).mapError
        (fun e => s!"processor[{processor.name}]: {e}") with
    | error e =>
      rw [Relay.run_of_error _ (hact.trans hprocess)]
      rfl
    | ok output =>
      rw [Relay.run_of_ok _ (hact.trans hprocess)]
      simp only [ih]
      rfl

end ProcessorPipeline
end Pingling.Config
