import Pingling.HostRuntime.TraceReplay
import Pingling.Ipc.SlotObserver

/-!
# A listener that follows a slot chain

The daemon runs its plugin through a slot and publishes what it observes. A client that picks out
the notifications of one invocation knows how the run ended: whether it failed, whether the plugin
took part, and with which payload.
-/

namespace Pingling.Ipc
open Lib Domain HostContract HostRuntime

/-- How a slot chain ends. -/
inductive Ending where
  | failed
  | unhandled
  | handled (payload : Value)

/-- The ending of a run with this result. -/
def Ending.ofResult {P : Type} [SlotPayload P] : Except VpnError (Option P) → Ending
  | .error _ => .failed
  | .ok none => .unhandled
  | .ok (some payload) => .handled (payloadJson payload)

/-- The ending that a listener reads off the observations of a run: an error or an entry that
nothing follows, else the last payload of the plugin if it took part. -/
def Ending.ofTrace (initial : Value) (trace : List Domain.SlotObservation) : Ending :=
  if trace.any (fun o => o.event = "error") ∨ trace.getLast?.any (fun o => o.event = "enter") then
    .failed
  else if trace.any (fun o => o.event = "unchanged" ∨ o.event = "continue" ∨ o.event = "halt") then
    .handled (((trace.filter fun o => o.event = "continue" ∨ o.event = "halt").getLast?.map
      Domain.SlotObservation.payloadJson).getD initial)
  else .unhandled

/-- The observations of a log, in order. -/
def slotObservations (log : List SlotChainEvent) : List Domain.SlotObservation :=
  log.filterMap fun
    | .observed observation => some observation
    | .called _ => none

/-- An observation of the runtime as the domain passes it on. -/
def passedOn (o : HostRuntime.SlotObservation) : Domain.SlotObservation :=
  ⟨o.slot.value, o.phase.asStr, o.wireVersion, o.invocationId, o.event.asStr, o.payloadJson,
    o.errorMessage⟩

/-- The observer that keeps every observation. -/
def keeping : Domain.SlotObserver :=
  ⟨fun observation => [observation]⟩

lemma slotObservations_flatMap (log : List RuntimeEvent) :
    slotObservations (log.flatMap (publicObserverAdapter keeping)) =
      (observations log).map passedOn := by
  induction log with
  | nil => rfl
  | cons event log ih =>
    rw [List.flatMap_cons, slotObservations, List.filterMap_append]
    change _ ++ slotObservations _ = _
    rw [ih]
    cases event <;> rfl

lemma asStr_injective : Function.Injective SlotEvent.asStr := by
  intro event event' h
  cases event <;> cases event' <;> first | rfl | exact absurd h (by decide)

lemma passedOn_event (o : HostRuntime.SlotObservation) (event : SlotEvent) :
    (passedOn o).event = event.asStr ↔ o.event = event :=
  asStr_injective.eq_iff

lemma ofTrace_passedOn {trace : List HostRuntime.SlotObservation}
    (hpolicy : ∀ o ∈ trace, o.policy = .pipeline) (initial : Value) :
    (TraceFails trace → Ending.ofTrace initial (trace.map passedOn) = .failed) ∧
    (¬TraceFails trace → TraceHandles trace →
      Ending.ofTrace initial (trace.map passedOn) = .handled (tracePayload initial trace)) ∧
    (¬TraceFails trace → ¬TraceHandles trace →
      Ending.ofTrace initial (trace.map passedOn) = .unhandled) := by
  have herror := fun o => passedOn_event o .error
  have henter := fun o => passedOn_event o .enter
  have hunchanged := fun o => passedOn_event o .unchanged
  have hcontinue := fun o => passedOn_event o .continue
  have hhalt := fun o => passedOn_event o .halt
  simp only [SlotEvent.asStr] at herror henter hunchanged hcontinue hhalt
  have hfails : ((trace.map passedOn).any (fun o => o.event = "error") ∨
      (trace.map passedOn).getLast?.any (fun o => o.event = "enter")) ↔ TraceFails trace := by
    simp [TraceFails, herror, henter, Option.any_eq_true]
  have hhandles : (trace.map passedOn).any
      (fun o => o.event = "unchanged" ∨ o.event = "continue" ∨ o.event = "halt") ↔
        TraceHandles trace := by
    simp [TraceHandles, HostRuntime.SlotObservation.Handles, hunchanged, hcontinue, hhalt]
  have hdecides : ∀ o ∈ trace,
      decide ((passedOn o).event = "continue" ∨ (passedOn o).event = "halt") =
        decide o.Decides := by
    intro o ho
    simp [HostRuntime.SlotObservation.Decides, hcontinue, hhalt, hpolicy o ho]
  have hpayload : (((trace.map passedOn).filter
      fun o => o.event = "continue" ∨ o.event = "halt").getLast?.map
        Domain.SlotObservation.payloadJson).getD initial = tracePayload initial trace := by
    rw [List.filter_map, List.getLast?_map, Option.map_map, tracePayload]
    have hfilter : trace.filter ((fun o : Domain.SlotObservation =>
        decide (o.event = "continue" ∨ o.event = "halt")) ∘ passedOn) =
        trace.filter fun o => o.Decides :=
      List.filter_congr hdecides
    rw [hfilter]
    cases (trace.filter fun o => o.Decides).getLast? <;> rfl
  unfold Ending.ofTrace
  rw [hpayload]
  refine ⟨fun h => if_pos (hfails.mpr h), fun h h' => ?_, fun h h' => ?_⟩
  · rw [if_neg (mt hfails.mp h), if_pos (hhandles.mpr h')]
  · rw [if_neg (mt hfails.mp h), if_neg (mt hhandles.mp h')]

section Run

variable {P : Type} [SlotPayload P]

/-- What the plugin is asked in one phase. -/
def phaseLink (plugin : Domain.Plugin) (slot : Slot) (wireVersion : UInt32)
    (invocationId : String) (phase : SlotPhase) : PhaseLink :=
  ⟨publicPluginAdapter plugin, plugin.name, slot, phase, .pipeline, wireVersion, invocationId⟩

/-- The phases that are visited, each with the payload that it is given. -/
def phaseVisits (plugin : Domain.Plugin) (slot : Slot) (wireVersion : UInt32)
    (invocationId : String) (initial : P) : List (SlotPhase × P) :=
  Chain.visits
    (singleVerdict plugin.name (publicPluginAdapter plugin) slot wireVersion invocationId)
    SlotPhase.order initial

/-- An observation of a phase has the policy of its call. -/
lemma policy_of_observed {link : PhaseLink} {payload : P} (hcalled : link.Called payload)
    {o : HostRuntime.SlotObservation}
    (ho : o ∈ observations (PhaseLink.log .recording link payload)) :
    o.policy = link.call.policy := by
  by_cases hgarbled : link.Garbled payload
  · obtain ⟨-, params, hlog⟩ := hgarbled.log_recording
    rw [hlog] at ho
    obtain rfl := List.mem_singleton.mp ho
    rfl
  · obtain ⟨params, hparams⟩ := hcalled
    obtain ⟨message, hlog⟩ := PhaseLink.log_recording hparams hgarbled
    rw [hlog] at ho
    simp only [observations_observed_cons, observations_called_cons, observations_nil,
      List.mem_cons, List.not_mem_nil, or_false] at ho
    rcases ho with rfl | rfl <;> rfl

variable {plugin : Domain.Plugin} {slot : Slot} {wireVersion : UInt32} {invocationId : String}
  {initial : P}

/-- The run of a single plugin, told by its trace. -/
lemma recounts_single
    (hserialises : ∀ v ∈ phaseVisits plugin slot wireVersion invocationId initial,
      ∃ json, SlotPayload.toValue v.2 = .ok json) :
    let run := runSinglePluginSlotChainObserved plugin.name (publicPluginAdapter plugin) slot
      wireVersion invocationId initial .recording
    (∀ o ∈ observations run.log, o.policy = .pipeline) ∧
      ∃ outcome, run.result = chainResult outcome ∧
        Recounts (observations run.log) false initial outcome := by
  intro run
  let link := phaseLink plugin slot wireVersion invocationId
  obtain ⟨hresult, hlog⟩ := runSinglePluginPhases_trace plugin.name (publicPluginAdapter plugin)
    slot wireVersion invocationId .recording SlotPhase.order initial false
  obtain ⟨hrun, hvisits⟩ := Chain.run_map (PhaseLink.verdict (P := P)) link SlotPhase.order false
    initial
  have hthreaded := Chain.threaded_visits (PhaseLink.verdict (P := P)) (SlotPhase.order.map link)
    initial
  rw [hvisits] at hthreaded
  have hcalled : ∀ v ∈ (phaseVisits plugin slot wireVersion invocationId initial).map
      (fun v => (link v.1, v.2)), v.1.Called v.2 := by
    intro v hv
    obtain ⟨u, hu, rfl⟩ := List.mem_map.mp hv
    exact SlotContext.toValue_eq_ok.mpr (hserialises u hu)
  have hlog : run.log = ((phaseVisits plugin slot wireVersion invocationId initial).map
      (fun v => (link v.1, v.2))).flatMap (fun v => PhaseLink.log .recording v.1 v.2) := by
    rw [List.flatMap_map]
    exact hlog
  have hrecounts := recounts_replay false hthreaded hcalled
  constructor
  · intro o ho
    rw [hlog, observations, List.filterMap_flatMap, List.mem_flatMap] at ho
    obtain ⟨v, hv, ho⟩ := ho
    obtain ⟨u, -, rfl⟩ := List.mem_map.mp hv
    exact policy_of_observed (hcalled _ hv) ho
  · refine ⟨_, hresult, ?_⟩
    have hreplay := Chain.run_eq_replay (PhaseLink.verdict (P := P)) (SlotPhase.order.map link)
      false initial
    rw [hrun, hvisits] at hreplay
    rw [hlog]
    exact hreplay ▸ hrecounts

/-- The ending that the trace of a run tells is the ending of the run. -/
lemma ofTrace_recounts {trace : List HostRuntime.SlotObservation}
    (hpolicy : ∀ o ∈ trace, o.policy = .pipeline) {outcome : Chain.Outcome P HostFailure}
    (h : Recounts trace false initial outcome) :
    Ending.ofTrace (payloadJson initial) (trace.map passedOn) =
      Ending.ofResult ((chainResult outcome).mapError vpnErrorFromHostFailure) := by
  obtain ⟨hfailed, hhandled, hunhandled⟩ := ofTrace_passedOn hpolicy (payloadJson initial)
  cases outcome with
  | failed error => exact hfailed h
  | halted final =>
    obtain ⟨hfails, hhandles, hpayload⟩ := h
    rw [hhandled hfails hhandles, ← hpayload]
    rfl
  | finished took final =>
    obtain ⟨hfails, htook, hpayload⟩ := h
    have htook : took = true ↔ TraceHandles trace :=
      htook.trans (or_iff_right Bool.false_ne_true)
    cases took with
    | true =>
      rw [hhandled hfails (htook.mp rfl), ← hpayload]
      rfl
    | false =>
      rw [hunhandled hfails fun hhandles => Bool.false_ne_true (htook.mpr hhandles)]
      rfl

/-- A client that reads the stream of the daemon, however it is cut, and picks out the slot events
of one invocation knows how the slot chain of this invocation ended, when the payloads that it
hands to the plugin serialise. Other publications and other invocations may come in between. -/
theorem listener_knows_ending (float : UInt64 → List Char) (parse : List Char → Option UInt64)
    {name : String}
    (hslot : Slot.new name = .ok slot)
    (hserialises : ∀ v ∈ phaseVisits plugin slot wireVersion invocationId initial,
      ∃ json, SlotPayload.toValue v.2 = .ok json)
    (publications : List Publication) (hreadable : ∀ p ∈ publications, p.Readable float parse)
    (hpublished : (publications.filterMap Publication.observation).filter
        (fun o => o.invocationId = invocationId) =
      slotObservations
        (runSlotChainObserved plugin name wireVersion invocationId initial keeping).log)
    (chunks : List (List Char))
    (hchunks : chunks.flatten = Lines.stream (publications.map fun p => p.message.line float)) :
    let told := (Lines.feedAll [] chunks).1.filterMap fun text =>
      (Document.read parse text).bind fun v => heard v
    Ending.ofTrace (payloadJson initial) (told.filter fun o => o.invocationId = invocationId) =
      Ending.ofResult
        (runSlotChainObserved plugin name wireVersion invocationId initial keeping).result := by
  intro told
  have htold : told = publications.filterMap Publication.observation :=
    Publication.heard_stream hreadable hchunks
  obtain ⟨hpolicy, outcome, hresult, hrecounts⟩ := recounts_single hserialises
  have hrun : runSlotChainObserved plugin name wireVersion invocationId initial keeping =
      (runSinglePluginSlotChainObserved plugin.name (publicPluginAdapter plugin) slot wireVersion
        invocationId initial .recording).translate (publicObserverAdapter keeping)
        vpnErrorFromHostFailure := by
    rw [runSlotChainObserved, hslot]
    rfl
  rw [htold, hpublished, hrun, Traced.translate, slotObservations_flatMap, hresult]
  exact ofTrace_recounts hpolicy hrecounts

end Run

/-- A plugin that refuses the call, heard between other notifications. -/
theorem listener_knows_ending_refused :
    let plugin : Domain.Plugin := ⟨"watcher", fun _ _ => some (.error (.unknown "boom"))⟩
    let run : SlotChainResult Value :=
      Domain.runSlotChainObserved plugin "vpn.connect" 1 "inv" .null keeping
    let publications := .state "connecting" false "mock" ::
      ((slotObservations run.log).map Publication.slot ++ [.log "info" "done"])
    let told := (Lines.feedAll []
        [Lines.stream (publications.map fun p => p.message.line fun _ => [])]).1.filterMap
      fun text => (Document.read (fun _ => none) text).bind fun v => heard v
    Ending.ofTrace .null (told.filter fun o => o.invocationId = "inv") = .failed := by
  intro plugin run publications told
  have htrace : (slotObservations run.log).map (fun o => (o.payloadJson, o.invocationId)) =
      [(.null, "inv"), (.null, "inv")] := rfl
  have hobserved : ∀ o ∈ slotObservations run.log,
      o.payloadJson = .null ∧ o.invocationId = "inv" := by
    intro o ho
    have hmem := List.mem_map_of_mem (f := fun o => (o.payloadJson, o.invocationId)) ho
    rw [htrace] at hmem
    simp_all
  have hpublications : publications.filterMap Publication.observation =
      slotObservations run.log := by
    simp only [publications, List.filterMap_cons, List.filterMap_append, List.filterMap_map,
      List.filterMap_nil]
    exact (List.append_nil _).trans List.filterMap_some
  have hreadable : ∀ p ∈ publications, p.Readable (fun _ => []) fun _ => none := by
    intro p hp o ho
    have hmem : o ∈ publications.filterMap Publication.observation :=
      List.mem_filterMap.mpr ⟨p, hp, ho⟩
    rw [(hobserved o (hpublications ▸ hmem)).1]
    exact .null _
  have hserialises : ∀ v ∈ phaseVisits plugin ⟨"vpn.connect"⟩ 1 "inv" Value.null,
      ∃ json, SlotPayload.toValue v.2 = .ok json := fun v _ => ⟨v.2, rfl⟩
  have hpublished : (publications.filterMap Publication.observation).filter
      (fun o => o.invocationId = "inv") = slotObservations run.log := by
    rw [hpublications, List.filter_eq_self]
    intro o ho
    simp [(hobserved o ho).2]
  have hfailed : Ending.ofResult run.result = .failed := rfl
  have hslot : Slot.new "vpn.connect" = .ok ⟨"vpn.connect"⟩ := rfl
  have hstream : [Lines.stream (publications.map fun p => p.message.line fun _ => [])].flatten =
      Lines.stream (publications.map fun p => p.message.line fun _ => []) := by simp
  have hending := listener_knows_ending (fun _ => []) (fun _ => none) hslot hserialises publications
    hreadable hpublished _ hstream
  exact hending.trans hfailed

end Pingling.Ipc
