import Pingling.HostContract.Registry
import Pingling.Lib.Traced

/-!
# The plugin runtime

A loaded registry pairs the index of manifests with the plugins themselves. It dispatches
methods and runs slot chains; a single plugin can run a chain without a registry. The log of
a run records every call of a plugin and whatever the observer keeps of the observations it
is handed.
-/

namespace Pingling.HostRuntime
open Lib Std HostContract

/-- A plugin is a function from a method and its parameters to an answer. -/
structure Plugin where
  name : String
  handleIpc : String → Value → Option (HostResult Value)

inductive SlotEvent where
  | enter
  | skipped
  | unhandled
  | unchanged
  | continue
  | halt
  | error
  | suppressedError
  deriving DecidableEq

def SlotEvent.asStr : SlotEvent → String
  | enter => "enter"
  | skipped => "skipped"
  | unhandled => "unhandled"
  | unchanged => "unchanged"
  | «continue» => "continue"
  | halt => "halt"
  | error => "error"
  | suppressedError => "suppressed_error"

structure SlotObservation where
  pluginId : String
  slot : Slot
  phase : SlotPhase
  policy : SlotPolicy
  wireVersion : UInt32
  invocationId : String
  event : SlotEvent
  payloadJson : Value
  errorMessage : Option String

/-- An observer is known by what it records of each observation. -/
structure SlotObserver where
  observe : SlotObservation → List SlotObservation

def SlotObserver.null : SlotObserver :=
  ⟨fun _ => []⟩

structure IpcCall where
  pluginId : String
  method : String
  params : Value

inductive RuntimeEvent where
  | observed (observation : SlotObservation)
  | called (call : IpcCall)

/-- The plugin calls of a log, in order. -/
def calls (log : List RuntimeEvent) : List IpcCall :=
  log.filterMap (fun
    | .called call => some call
    | .observed _ => none)

abbrev Run (α : Type) := Traced RuntimeEvent HostFailure α

/-- The arguments that every step of one plugin's phase passes on. -/
structure PhaseCall where
  pluginId : String
  slot : Slot
  phase : SlotPhase
  policy : SlotPolicy
  wireVersion : UInt32
  invocationId : String

namespace PhaseCall

def method (call : PhaseCall) : String :=
  s!"slot.{call.slot.value}.{call.phase.asStr}"

def context {P : Type} (call : PhaseCall) (payload : P) : SlotContext P :=
  ⟨call.slot, call.phase, call.wireVersion, call.invocationId, payload⟩

def observe (call : PhaseCall) (observer : SlotObserver) (event : SlotEvent) (payloadJson : Value)
    (errorMessage : Option String) : Run Unit :=
  Traced.emit ((observer.observe ⟨call.pluginId, call.slot, call.phase, call.policy,
    call.wireVersion, call.invocationId, event, payloadJson, errorMessage⟩).map .observed)

/-- What a failing step says about itself. -/
def describe (call : PhaseCall) (message : String) : String :=
  s!"slot {call.slot.value}.{call.phase.asStr}: {message}"

end PhaseCall

def Plugin.call (plugin : Plugin) (pluginId method : String) (params : Value) :
    Run (Option (HostResult Value)) := do
  Traced.emit [.called ⟨pluginId, method, params⟩]
  pure (plugin.handleIpc method params)

inductive PhaseResult (P : Type) where
  | unhandled (payload : P)
  | handled (payload : P)
  | halted (payload : P)

inductive PluginPhaseResult (P : Type) where
  | unhandled (payload : P)
  | observed (payload : P)
  | handled (payload : P)
  | halted (payload : P)

section Phase

variable {P : Type} [SlotPayload P]

/-- The payload as an observer sees it. -/
def payloadJson (payload : P) : Value :=
  match SlotPayload.toValue payload with
  | .ok json => json
  | .error _ => .null

/-- An error of the plugin: suppressed under `bestEffort`, else the error of the run. -/
def applyError (call : PhaseCall) (payload : P) (observer : SlotObserver) (original : Value)
    (message : String) (failure : HostFailure) : Run (PluginPhaseResult P) :=
  if call.policy = .bestEffort then do
    call.observe observer .suppressedError original (some message)
    pure (.unhandled payload)
  else do
    call.observe observer .error original (some message)
    Traced.fail failure

def applyOutcome (call : PhaseCall) (payload : P) (outcome : SlotOutcome P)
    (observer : SlotObserver) (original : Value) : Run (PluginPhaseResult P) :=
  match outcome with
  | .unhandled => do
    call.observe observer .unhandled original none
    pure (.unhandled payload)
  | .unchanged => do
    call.observe observer .unchanged original none
    pure (.observed payload)
  | .continue newPayload => do
    call.observe observer .continue (payloadJson newPayload) none
    if call.policy = .broadcast ∨ call.policy = .bestEffort then pure (.observed payload)
    else pure (.handled newPayload)
  | .halt finalPayload => do
    call.observe observer .halt (payloadJson finalPayload) none
    if call.policy = .broadcast ∨ call.policy = .bestEffort then pure (.observed payload)
    else pure (.halted finalPayload)
  | .error message =>
    applyError call payload observer original message (.pluginError (call.describe message))

def runPluginPhase (plugin : Plugin) (call : PhaseCall) (payload : P) (observer : SlotObserver) :
    Run (PluginPhaseResult P) :=
  match (call.context payload).toValue with
  | .error error => Traced.fail (.invalidInput (call.describe s!"serialize context: {error}"))
  | .ok ctxValue => do
    let original := ctxValue.field "payload"
    call.observe observer .enter original none
    match ← plugin.call call.pluginId call.method ctxValue with
    | none => do
      call.observe observer .skipped original none
      pure (.unhandled payload)
    | some (.error error) => applyError call payload observer original error.toString error
    | some (.ok raw) =>
      match SlotPayload.outcomeFromValue raw with
      | .ok outcome => applyOutcome call payload outcome observer original
      | .error error =>
        let message := call.describe s!"parse outcome: {error}"
        -- unlike the other failures, this one is not observed when it fails the run
        if call.policy = .bestEffort then do
          call.observe observer .suppressedError original (some message)
          pure (.unhandled payload)
        else Traced.fail (.pluginError message)

end Phase

section SinglePlugin

variable {P : Type} [SlotPayload P] (pluginId : String) (plugin : Plugin) (slot : Slot)

/-- The loop of a single plugin over the phases. -/
def runSinglePluginPhases (wireVersion : UInt32) (invocationId : String)
    (observer : SlotObserver) : List SlotPhase → P → Bool → Run (Option P)
  | [], payload, anyHandled => pure (if anyHandled then some payload else none)
  | phase :: phases, payload, anyHandled => do
    match ← runPluginPhase plugin ⟨pluginId, slot, phase, .pipeline, wireVersion, invocationId⟩
        payload observer with
    | .unhandled next =>
      runSinglePluginPhases wireVersion invocationId observer phases next anyHandled
    | .observed next => runSinglePluginPhases wireVersion invocationId observer phases next true
    | .handled next => runSinglePluginPhases wireVersion invocationId observer phases next true
    | .halted finalPayload => pure (some finalPayload)

def runSinglePluginSlotChainObserved (wireVersion : UInt32) (invocationId : String)
    (initialPayload : P) (observer : SlotObserver) : Run (Option P) :=
  runSinglePluginPhases pluginId plugin slot wireVersion invocationId observer SlotPhase.order
    initialPayload false

def runSinglePluginSlotChain (wireVersion : UInt32) (invocationId : String) (initialPayload : P) :
    Run (Option P) :=
  runSinglePluginSlotChainObserved pluginId plugin slot wireVersion invocationId initialPayload
    .null

def runSinglePluginSlotPhaseObserved (phase : SlotPhase) (wireVersion : UInt32)
    (invocationId : String) (payload : P) (observer : SlotObserver) : Run (Option P) := do
  match ← runPluginPhase plugin ⟨pluginId, slot, phase, .pipeline, wireVersion, invocationId⟩
      payload observer with
  | .unhandled _ => pure none
  | .observed payload => pure (some payload)
  | .handled payload => pure (some payload)
  | .halted payload => pure (some payload)

def runSinglePluginSlotPhase (phase : SlotPhase) (wireVersion : UInt32) (invocationId : String)
    (payload : P) : Run (Option P) :=
  runSinglePluginSlotPhaseObserved pluginId plugin slot phase wireVersion invocationId payload .null

end SinglePlugin

structure LoadedPluginRegistry where
  registry : PluginRegistry
  plugins : BTreeMap String Plugin

namespace LoadedPluginRegistry

def new : LoadedPluginRegistry :=
  ⟨.new, ∅⟩

def register (self : LoadedPluginRegistry) (manifest : PluginManifest) (plugin : Plugin) :
    HostResult Unit × LoadedPluginRegistry :=
  match self.registry.register manifest with
  | (.error e, registry) => (.error e, { self with registry := registry })
  | (.ok (), registry) => (.ok (), ⟨registry, self.plugins.insert manifest.id plugin⟩)

/-- A registry that some sequence of `register` calls, successful or refused, leads to. -/
abbrev Reachable : LoadedPluginRegistry → Prop :=
  Lib.Reachable (fun registry (loaded : PluginManifest × Plugin) =>
    (register registry loaded.1 loaded.2).2) new

def notLoaded (pluginId : String) : HostFailure :=
  .pluginError s!"plugin {pluginId} is indexed but not loaded"

/-- Asks the bound plugins in turn until one answers; the calls made come first. -/
def dispatchMethodBindings (self : LoadedPluginRegistry) (method : String) (params : Value) :
    List MethodBinding → List IpcCall × Option (HostResult Value)
  | [] => ([], none)
  | binding :: bindings =>
    match self.plugins[binding.pluginId]? with
    | none => ([], some (.error (notLoaded binding.pluginId)))
    | some plugin =>
      match plugin.handleIpc method params with
      | some result => ([⟨binding.pluginId, method, params⟩], some result)
      | none =>
        let rest := self.dispatchMethodBindings method params bindings
        (⟨binding.pluginId, method, params⟩ :: rest.1, rest.2)

def dispatchMethod (self : LoadedPluginRegistry) (method : String) (params : Value) :
    List IpcCall × Option (HostResult Value) :=
  self.dispatchMethodBindings method params (self.registry.methodBindings method)

section Slots

variable {P : Type} [SlotPayload P] (self : LoadedPluginRegistry) (slot : Slot)
  (wireVersion : UInt32) (invocationId : String) (observer : SlotObserver)

/-- The loop of a phase over its bindings. -/
def runBindings (phase : SlotPhase) : List PluginBinding → P → Bool → Run (PhaseResult P)
  | [], payload, anyHandled =>
    if anyHandled then pure (.handled payload) else pure (.unhandled payload)
  | binding :: bindings, payload, anyHandled =>
    match self.plugins[binding.pluginId]? with
    | none => Traced.fail (notLoaded binding.pluginId)
    | some plugin => do
      match ← runPluginPhase plugin
          ⟨binding.pluginId, slot, phase, binding.policy, wireVersion, invocationId⟩
          payload observer with
      | .unhandled next => runBindings phase bindings next anyHandled
      | .observed next => runBindings phase bindings next true
      | .handled next =>
        if binding.policy = .firstSuccess then pure (.handled next)
        else runBindings phase bindings next true
      | .halted finalPayload => pure (.halted finalPayload)

def runSlotPhaseObserved (phase : SlotPhase) (payload : P) : Run (PhaseResult P) :=
  self.runBindings slot wireVersion invocationId observer phase
    (self.registry.bindingsFor slot phase) payload false

/-- The loop of a chain over the phases. -/
def runPhases : List SlotPhase → P → Bool → Run (Option P)
  | [], payload, anyHandled => pure (if anyHandled then some payload else none)
  | phase :: phases, payload, anyHandled => do
    match ← self.runSlotPhaseObserved slot wireVersion invocationId observer phase payload with
    | .unhandled next => runPhases phases next anyHandled
    | .handled next => runPhases phases next true
    | .halted finalPayload => pure (some finalPayload)

def runSlotChainObserved (initialPayload : P) : Run (Option P) :=
  self.runPhases slot wireVersion invocationId observer SlotPhase.order initialPayload false

def runSlotChain (initialPayload : P) : Run (Option P) :=
  self.runSlotChainObserved slot wireVersion invocationId .null initialPayload

def runSlotPhase (phase : SlotPhase) (payload : P) : Run (Option P) := do
  match ← self.runSlotPhaseObserved slot wireVersion invocationId .null phase payload with
  | .unhandled _ => pure none
  | .handled payload => pure (some payload)
  | .halted payload => pure (some payload)

end Slots

end LoadedPluginRegistry

end Pingling.HostRuntime
