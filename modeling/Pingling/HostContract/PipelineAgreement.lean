import Pingling.Config.ProcessorPipeline
import Pingling.HostContract.ProcessorPipeline
import Pingling.Lib.JsonObject

/-!
# The two config pipelines

The native pipeline and the one of the plugin contract are copies of one loop. Given processors
that behave the same, they call the same processors, report the same steps and end the same way.
-/

namespace Pingling.HostContract
open Lib Relay

/-- The processors have one name, and for these requests one makes a config just when the other
makes it too. -/
def SameBehaviour (request : Config.ConfigRequest) (hostRequest : Value)
    (processor : Config.ConfigProcessor) (hostProcessor : ConfigProcessor) : Prop :=
  processor.name = hostProcessor.name ∧ ∀ config output,
    processor.process config request = .ok output ↔
      hostProcessor.process config hostRequest = .ok output

/-- A step of the native pipeline in the words of the contract. -/
def hostStep (step : Config.ProcessorStep) : ProcessorStep :=
  ⟨step.processorName, step.input, step.output⟩

/-- The call that a step begins with. -/
def stepCall (step : Config.ProcessorStep) : String × Value :=
  (step.processorName, step.input)

/-- The step is what the processor makes of the step's input. -/
def Performs (request : Config.ConfigRequest) (processor : Config.ConfigProcessor)
    (step : Config.ProcessorStep) : Prop :=
  step.processorName = processor.name ∧ processor.process step.input request = .ok step.output

/-- Both runs leave the same log. Its steps are those of the first processors, one each, and what
goes into a step, or out in the end, is the config or what came out of the step before. Both runs
make this last value of all processors, or fail at the processor that is given it. -/
structure PipelinesAgree (processors : List Config.ConfigProcessor)
    (hostProcessors : List ConfigProcessor) (config : Value) (request : Config.ConfigRequest)
    (hostRequest : Value) (run : Config.ProcessorPipeline.Run) (hostRun : ProcessorPipeline.Run) :
    Prop where
  log : hostRun.log = run.log.map (.map hostStep)
  performed : List.Forall₂ (Performs request) (processors.take (reports run.log).length)
    (reports run.log)
  outcome : (∃ output, run.result = .ok output ∧ hostRun.result = .ok output ∧
      (reports run.log).length = processors.length ∧
      calls run.log = (reports run.log).map stepCall ∧
      (reports run.log).map (·.input) ++ [output] = config :: (reports run.log).map (·.output)) ∨
    ∃ k processor hostProcessor last e error, processors[k]? = some processor ∧
      hostProcessors[k]? = some hostProcessor ∧
      processor.process last request = .error e ∧
      hostProcessor.process last hostRequest = .error error ∧
      run.result = .error s!"processor[{processor.name}]: {e}" ∧
      hostRun.result =
        .error (.pluginError s!"processor[{hostProcessor.name}]: {error.toString}") ∧
      (reports run.log).length = k ∧
      calls run.log = (reports run.log).map stepCall ++ [(processor.name, last)] ∧
      (reports run.log).map (·.input) ++ [last] = config :: (reports run.log).map (·.output)

section

variable {request : Config.ConfigRequest} {hostRequest : Value}

lemma same_stages {processors : List Config.ConfigProcessor} {hostProcessors : List ConfigProcessor}
    (h : List.Forall₂ (SameBehaviour request hostRequest) processors hostProcessors) :
    List.Forall₂ Stage.Same (processors.map (Config.ProcessorPipeline.stage request))
      (hostProcessors.map (ProcessorPipeline.stage hostRequest)) := by
  rw [List.forall₂_map_left_iff, List.forall₂_map_right_iff]
  apply h.imp
  rintro processor hostProcessor ⟨hname, hsame⟩
  refine ⟨hname, fun config output => ?_⟩
  exact mapError_eq_ok.trans ((hsame config output).trans mapError_eq_ok.symm)

lemma performed_of_made {processors : List Config.ConfigProcessor}
    {steps : List (Step String Value)}
    (h : List.Forall₂ Stage.Makes (processors.map (Config.ProcessorPipeline.stage request)) steps) :
    List.Forall₂ (Performs request) processors (steps.map Config.ProcessorPipeline.ofStep) := by
  rw [List.forall₂_map_left_iff] at h
  rw [List.forall₂_map_right_iff]
  apply h.imp
  rintro processor step ⟨hname, hact⟩
  exact ⟨hname, mapError_eq_ok.mp hact⟩

lemma exists_processor {processors : List Config.ConfigProcessor} {k : ℕ} {last : Value}
    {e : String} {stage : Stage String Value String}
    (hstage : (processors.map (Config.ProcessorPipeline.stage request))[k]? = some stage)
    (hfails : stage.act last = .error e) :
    ∃ processor message, processors[k]? = some processor ∧ stage.name = processor.name ∧
      processor.process last request = .error message ∧
      e = s!"processor[{processor.name}]: {message}" := by
  rw [List.getElem?_map, Option.map_eq_some_iff] at hstage
  obtain ⟨processor, hprocessor, rfl⟩ := hstage
  obtain ⟨message, hmessage, rfl⟩ := mapError_eq_error.mp hfails
  exact ⟨processor, message, hprocessor, rfl, hmessage, rfl⟩

lemma exists_hostProcessor {hostProcessors : List ConfigProcessor} {k : ℕ} {last : Value}
    {error : HostFailure} {stage : Stage String Value HostFailure}
    (hstage : (hostProcessors.map (ProcessorPipeline.stage hostRequest))[k]? = some stage)
    (hfails : stage.act last = .error error) :
    ∃ processor failure, hostProcessors[k]? = some processor ∧
      processor.process last hostRequest = .error failure ∧
      error = .pluginError s!"processor[{processor.name}]: {failure.toString}" := by
  rw [List.getElem?_map, Option.map_eq_some_iff] at hstage
  obtain ⟨processor, hprocessor, rfl⟩ := hstage
  obtain ⟨failure, hfailure, rfl⟩ := mapError_eq_error.mp hfails
  exact ⟨processor, failure, hprocessor, hfailure, rfl⟩

variable {processors : List Config.ConfigProcessor} {hostProcessors : List ConfigProcessor}
  {config : Value} {steps : List (Step String Value)}

/-- The runs agree when the relays behind them succeed. -/
lemma agree_of_succeeds {output : Value} {run : Config.ProcessorPipeline.Run}
    {hostRun : ProcessorPipeline.Run}
    (hrun : run = ⟨(trace steps).map (.map Config.ProcessorPipeline.ofStep), .ok output⟩)
    (hhostRun : hostRun = ⟨(trace steps).map (.map ProcessorPipeline.ofStep), .ok output⟩)
    (htakes : Takes (processors.map (Config.ProcessorPipeline.stage request)) config steps
      output) :
    PipelinesAgree processors hostProcessors config request hostRequest run hostRun := by
  have hreports : reports run.log = steps.map Config.ProcessorPipeline.ofStep := by
    rw [hrun, reports_map, reports_trace]
  have hcalls : calls run.log = (reports run.log).map stepCall := by
    rw [hreports, hrun, calls_map, calls_trace, List.map_map]
    rfl
  have hmade := performed_of_made htakes.made
  have hlength := hmade.length_eq
  constructor
  · rw [hhostRun, hrun, List.map_map, Event.map_comp]
    rfl
  · rw [hreports, ← hlength, List.take_length]
    exact hmade
  · left
    refine ⟨output, by rw [hrun], by rw [hhostRun], by rw [hreports, hlength], hcalls, ?_⟩
    rw [hreports, List.map_map, List.map_map]
    exact htakes.handsOn

/-- The runs agree when the relays behind them fail at the same place. -/
lemma agree_of_failsAt {k : ℕ} {stage : Stage String Value String}
    {hostStage : Stage String Value HostFailure} {last : Value} {e : String} {error : HostFailure}
    {run : Config.ProcessorPipeline.Run} {hostRun : ProcessorPipeline.Run}
    (hrun : run = ⟨(trace steps ++ [Event.called stage.name last]).map
      (.map Config.ProcessorPipeline.ofStep), .error e⟩)
    (hhostRun : hostRun = ⟨(trace steps ++ [Event.called stage.name last]).map
      (.map ProcessorPipeline.ofStep), .error error⟩)
    (h : FailsAt (processors.map (Config.ProcessorPipeline.stage request)) config k stage steps
      last e)
    (hhost : FailsAt (hostProcessors.map (ProcessorPipeline.stage hostRequest)) config k hostStage
      steps last error) :
    PipelinesAgree processors hostProcessors config request hostRequest run hostRun := by
  obtain ⟨processor, message, hprocessor, hname, hmessage, rfl⟩ :=
    exists_processor h.stage_eq h.fails
  obtain ⟨hostProcessor, failure, hhostProcessor, hfailure, rfl⟩ :=
    exists_hostProcessor hhost.stage_eq hhost.fails
  have hreports : reports run.log = steps.map Config.ProcessorPipeline.ofStep := by
    rw [hrun, reports_map, reports_append, reports_trace]
    exact congrArg (List.map _) (List.append_nil steps)
  have hcalls : calls run.log = (reports run.log).map stepCall ++ [(processor.name, last)] := by
    rw [hreports, hrun, calls_map, calls_append, calls_trace, List.map_map, ← hname]
    rfl
  have hmade := h.takes.made
  rw [← List.map_take] at hmade
  have hmade := performed_of_made hmade
  have hk : k < processors.length := (List.getElem?_eq_some_iff.mp hprocessor).1
  have hlength : (reports run.log).length = k := by
    rw [hreports, ← hmade.length_eq, List.length_take]
    omega
  constructor
  · rw [hhostRun, hrun, List.map_map, Event.map_comp]
    rfl
  · rw [hlength, hreports]
    exact hmade
  · right
    refine ⟨k, processor, hostProcessor, last, message, failure, hprocessor, hhostProcessor,
      hmessage, hfailure, by rw [hrun], by rw [hhostRun], hlength, hcalls, ?_⟩
    rw [hreports, List.map_map, List.map_map]
    exact h.takes.handsOn

end

/-- Pipelines of processors that behave the same agree, whatever their callbacks do with the steps
they are told of, and so does a run without a callback. -/
theorem pipelines_agree {request : Config.ConfigRequest} {hostRequest : Value}
    {processors : List Config.ConfigProcessor} {hostProcessors : List ConfigProcessor}
    (h : List.Forall₂ (SameBehaviour request hostRequest) processors hostProcessors)
    (config : Value) {σ τ : Type} (onStep : Config.ProcessorStep → σ → σ) (state : σ)
    (hostOnStep : ProcessorStep → τ → τ) (hostState : τ) :
    let pipeline : Config.ProcessorPipeline := ⟨processors⟩
    let hostPipeline : ProcessorPipeline := ⟨hostProcessors⟩
    let run := pipeline.processWith onStep state config request
    let hostRun := hostPipeline.processWith hostOnStep hostState config hostRequest
    PipelinesAgree processors hostProcessors config request hostRequest run.1 hostRun.1 ∧
      run.2 = (reports run.1.log).foldl (fun state step => onStep step state) state ∧
      hostRun.2 = (reports hostRun.1.log).foldl (fun state step => hostOnStep step state)
        hostState ∧
      pipeline.process config request = run.1 ∧
      hostPipeline.process config hostRequest = hostRun.1 := by
  intro pipeline hostPipeline run hostRun
  have hrun : run = _ := Config.ProcessorPipeline.walk_eq onStep request processors config state
  have hhostRun : hostRun = _ :=
    ProcessorPipeline.walk_eq hostOnStep hostRequest hostProcessors config hostState
  refine ⟨?_, ?_, ?_, ?_, ?_⟩
  · obtain ⟨steps, hsteps⟩ := Relay.run_agree (same_stages h) config
    rcases hsteps with ⟨output, hleft, hright⟩ |
      ⟨k, stage, hostStage, last, e, error, hname, hleft, hright⟩
    · refine agree_of_succeeds ?_ ?_ hleft.takes
      · rw [hrun, hleft.run_eq]
      · rw [hhostRun, hright.run_eq]
    · refine agree_of_failsAt ?_ ?_ hleft hright
      · rw [hrun, hleft.run_eq]
      · rw [hhostRun, hright.run_eq, hname]
  · rw [hrun, reports_map, List.foldl_map]
  · rw [hhostRun, reports_map, List.foldl_map]
  · rw [hrun, Config.ProcessorPipeline.process, Config.ProcessorPipeline.processWith,
      Config.ProcessorPipeline.walk_eq]
  · rw [hhostRun, ProcessorPipeline.process, ProcessorPipeline.processWith,
      ProcessorPipeline.walk_eq]

/-- Adds a key to a config. -/
def appendKey (key : String) : Value → Value
  | .object entries => .object (insertEntry key (.bool true) entries)
  | config => config

def sampleRequest : Config.ConfigRequest :=
  ⟨false, none, ⟨⟨"test", .system, .doh, .fromMillis 30000, .noRetry⟩, 1, none⟩⟩

/-- A pipeline whose second processor always fails. -/
def samplePipeline : Config.ProcessorPipeline :=
  ⟨[⟨"first", fun config _ => .ok (appendKey "first" config)⟩,
    ⟨"always_error", fun _ _ => .error "boom"⟩]⟩

def sampleHostPipeline : ProcessorPipeline :=
  ⟨[⟨"first", fun config _ => .ok (appendKey "first" config)⟩,
    ⟨"always_error", fun _ _ => .error (.pluginError "boom")⟩]⟩

theorem pipelines_agree_boom :
    let run := samplePipeline.processWith (fun step steps => steps ++ [step]) [] (.object [])
      sampleRequest
    let hostRun := sampleHostPipeline.processWith (fun _ count => count + 1) 0 (.object []) .null
    PipelinesAgree samplePipeline.processors sampleHostPipeline.processors (.object [])
        sampleRequest .null run.1 hostRun.1 ∧
      run.2 = (reports run.1.log).foldl (fun steps step => steps ++ [step]) [] ∧
      hostRun.2 = (reports hostRun.1.log).foldl (fun count _ => count + 1) 0 ∧
      samplePipeline.process (.object []) sampleRequest = run.1 ∧
      sampleHostPipeline.process (.object []) .null = hostRun.1 :=
  pipelines_agree (.cons ⟨rfl, fun _ _ => by simp⟩ (.cons ⟨rfl, fun _ _ => by simp⟩ .nil))
    _ _ _ _ _

end Pingling.HostContract
