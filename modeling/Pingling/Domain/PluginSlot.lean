import Pingling.Domain.Types
import Pingling.HostRuntime.SinglePlugin

/-!
# The slot chain of a domain plugin

The domain runs its plugin through the public runtime. Adapters carry the plugin and its
observer there, and errors cross as a code and a message.
-/

namespace Pingling.Domain
open Lib HostContract

/-- A plugin is a function from a method and its parameters to an answer. -/
structure Plugin where
  name : String
  handleIpc : String → Value → Option (Except VpnError Value)

/-- What an observer of the domain is told. -/
structure SlotObservation where
  slot : String
  phase : String
  wireVersion : UInt32
  invocationId : String
  event : String
  payloadJson : Value
  errorMessage : Option String

/-- An observer is known by what it records of each observation. -/
structure SlotObserver where
  observe : SlotObservation → List SlotObservation

def SlotObserver.null : SlotObserver :=
  ⟨fun _ => []⟩

/-- An event of a slot chain of one plugin. -/
inductive SlotChainEvent where
  | observed (observation : SlotObservation)
  | called (call : HostRuntime.IpcCall)

/-- The plugin calls of a log, in order. -/
def slotCalls (log : List SlotChainEvent) : List HostRuntime.IpcCall :=
  log.filterMap (fun
    | .called call => some call
    | .observed _ => none)

abbrev SlotChainResult (P : Type) := Traced SlotChainEvent VpnError (Option P)

/-- The host is told the code and the text of the error. -/
def hostFailureFromVpnError (error : VpnError) : HostFailure :=
  ⟨error.code, error.toString⟩

/-- Only invalid input is told apart from other failures. -/
def vpnErrorFromHostFailure (error : HostFailure) : VpnError :=
  match error.code with
  | "invalid_input" => .invalidConfiguration error.message
  | _ => .unknown error.message

/-- A plugin of the domain as one of the host. -/
def publicPluginAdapter (plugin : Plugin) : HostRuntime.Plugin where
  name := plugin.name
  handleIpc method params :=
    (plugin.handleIpc method params).map (fun result => result.mapError hostFailureFromVpnError)

/-- The adapter is told of everything, and tells the observer. -/
def publicObserverAdapter (observer : SlotObserver) : HostRuntime.RuntimeEvent → List SlotChainEvent
  | .called call => [.called call]
  | .observed observation =>
    (observer.observe ⟨observation.slot.value, observation.phase.asStr, observation.wireVersion,
      observation.invocationId, observation.event.asStr, observation.payloadJson,
      observation.errorMessage⟩).map .observed

section

variable {P : Type} [SlotPayload P] (plugin : Plugin) (slot : String) (wireVersion : UInt32)
  (invocationId : String) (initialPayload : P)

def runSlotChainObserved (observer : SlotObserver) : SlotChainResult P :=
  match Slot.new slot with
  | .error error => Traced.fail (vpnErrorFromHostFailure error)
  | .ok slot =>
    (HostRuntime.runSinglePluginSlotChainObserved plugin.name (publicPluginAdapter plugin) slot
      wireVersion invocationId initialPayload ⟨fun observation => [observation]⟩).translate
      (publicObserverAdapter observer) vpnErrorFromHostFailure

def runSlotChain : SlotChainResult P :=
  runSlotChainObserved plugin slot wireVersion invocationId initialPayload .null

end

/-- No error of the domain has the one code that the way back knows. -/
lemma vpnErrorFromHostFailure_hostFailureFromVpnError (error : VpnError) :
    vpnErrorFromHostFailure (hostFailureFromVpnError error) = .unknown error.toString := by
  cases error <;> rfl

lemma slotCalls_flatMap_publicObserverAdapter (observer : SlotObserver)
    (log : List HostRuntime.RuntimeEvent) :
    slotCalls (log.flatMap (publicObserverAdapter observer)) = HostRuntime.calls log := by
  have hevent : ∀ event : HostRuntime.RuntimeEvent,
      slotCalls (publicObserverAdapter observer event) = HostRuntime.calls [event] := by
    intro event
    cases event with
    | called call => rfl
    | observed observation => simp [slotCalls, publicObserverAdapter, HostRuntime.calls]
  induction log with
  | nil => rfl
  | cons event log ih =>
    have hcalls : HostRuntime.calls (event :: log) =
        HostRuntime.calls [event] ++ HostRuntime.calls log :=
      HostRuntime.calls_append [event] log
    rw [hcalls, ← hevent, ← ih, List.flatMap_cons]
    exact List.filterMap_append

/-- The chain ends at the first call that the plugin answers with an error. -/
theorem runSlotChainObserved_of_error {P : Type} [SlotPayload P] {plugin : Plugin} {slot : String}
    {wireVersion : UInt32} {invocationId : String} {initialPayload : P} {observer : SlotObserver}
    {call : HostRuntime.IpcCall} {error : VpnError}
    (hcall : call ∈ slotCalls (runSlotChainObserved plugin slot wireVersion invocationId
      initialPayload observer).log)
    (hfails : plugin.handleIpc call.method call.params = some (.error error)) :
    (runSlotChainObserved plugin slot wireVersion invocationId initialPayload observer).result =
      .error (.unknown error.toString) := by
  unfold runSlotChainObserved at hcall ⊢
  cases hslot : Slot.new slot with
  | error failure => simp [hslot, slotCalls] at hcall
  | ok slot =>
    simp only [hslot, Traced.translate, slotCalls_flatMap_publicObserverAdapter] at hcall ⊢
    have hpublic : (publicPluginAdapter plugin).handleIpc call.method call.params =
        some (.error (hostFailureFromVpnError error)) := by
      simp [publicPluginAdapter, hfails, Except.mapError]
    rw [HostRuntime.runSinglePluginSlotChainObserved_of_error _ _ _ _ _ hcall hpublic,
      Except.mapError, vpnErrorFromHostFailure_hostFailureFromVpnError]

end Pingling.Domain
