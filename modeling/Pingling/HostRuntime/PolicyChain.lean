import Pingling.HostRuntime.Runtime
import Pingling.HostContract.Registration
import Pingling.Lib.Chain

/-!
# The policies as a chain

`policyVerdict` is the meaning of the five policies: what becomes of a payload when a
plugin, bound under a policy, gives an answer. The loops of the runtime refine the chain
built from it: they end as the chain ends and call the plugins the chain visits.
-/

namespace Pingling.HostRuntime
open Lib Std HostContract

/-- An answer of a plugin as the host reads it. Every way of failing is one failure. -/
inductive Answer (P : Type) where
  | skipped
  | unhandled
  | unchanged
  | continue (payload : P)
  | halt (payload : P)
  | failure (error : HostFailure)

/-- What a policy makes of an answer. -/
def policyVerdict {P : Type} (policy : SlotPolicy) : Answer P → Chain.Verdict P HostFailure
  | .skipped => .pass
  | .unhandled => .pass
  | .unchanged => .observed
  | .continue payload =>
    match policy with
    | .pipeline => .replaced payload
    | .singleOwner => .replaced payload
    | .firstSuccess => .won payload
    | .broadcast => .observed
    | .bestEffort => .observed
  | .halt payload =>
    match policy with
    | .broadcast => .observed
    | .bestEffort => .observed
    | _ => .halted payload
  | .failure error =>
    match policy with
    | .bestEffort => .pass
    | _ => .failed error

section

variable {P : Type} {policy : SlotPolicy} {error : HostFailure}

/-- Only `bestEffort` suppresses a failure. -/
lemma policyVerdict_failure :
    policyVerdict policy (.failure error : Answer P) =
      if policy = .bestEffort then .pass else .failed error := by
  cases policy <;> rfl

lemma policyVerdict_eq_failed {answer : Answer P}
    (h : policyVerdict policy answer = .failed error) :
    answer = .failure error := by
  cases policy <;> cases answer <;> simp_all [policyVerdict]

/-- Only a concrete result of a `firstSuccess` handler wins. -/
lemma policyVerdict_eq_won {answer : Answer P} {next : P} :
    policyVerdict policy answer = .won next ↔
      policy = .firstSuccess ∧ answer = .continue next := by
  cases policy <;> cases answer <;> simp [policyVerdict]

lemma policyVerdict_bestEffort (answer : Answer P) :
    policyVerdict .bestEffort answer = .pass ∨ policyVerdict .bestEffort answer = .observed := by
  cases answer <;> simp [policyVerdict]

lemma policyVerdict_broadcast (answer : Answer P) :
    policyVerdict .broadcast answer = .pass ∨ policyVerdict .broadcast answer = .observed ∨
      ∃ error, policyVerdict .broadcast answer = .failed error := by
  cases answer <;> simp [policyVerdict]

end

section

variable {P : Type} [SlotPayload P]

/-- Reads the answer of `handleIpc`: none, an error, or a value that may decode as an outcome. -/
def readAnswer (call : PhaseCall) : Option (HostResult Value) → Answer P
  | none => .skipped
  | some (.error error) => .failure error
  | some (.ok raw) =>
    match SlotPayload.outcomeFromValue raw with
    | .error error => .failure (.pluginError (call.describe s!"parse outcome: {error}"))
    | .ok .unhandled => .unhandled
    | .ok .unchanged => .unchanged
    | .ok (.continue payload) => .continue payload
    | .ok (.halt payload) => .halt payload
    | .ok (.error message) => .failure (.pluginError (call.describe message))

/-- The verdict of one plugin's phase; a payload that does not serialise fails it. -/
def phaseVerdict (plugin : Plugin) (call : PhaseCall) (payload : P) :
    Chain.Verdict P HostFailure :=
  match (call.context payload).toValue with
  | .error error => .failed (.invalidInput (call.describe s!"serialize context: {error}"))
  | .ok params => policyVerdict call.policy (readAnswer call (plugin.handleIpc call.method params))

/-- The plugin calls of one plugin's phase. -/
def phaseCalls (call : PhaseCall) (payload : P) : List IpcCall :=
  match (call.context payload).toValue with
  | .error _ => []
  | .ok params => [⟨call.pluginId, call.method, params⟩]

/-- A verdict as the result of one plugin's phase. -/
def pluginPhaseResult (payload : P) :
    Chain.Verdict P HostFailure → HostResult (PluginPhaseResult P)
  | .pass => .ok (.unhandled payload)
  | .observed => .ok (.observed payload)
  | .replaced next => .ok (.handled next)
  | .won next => .ok (.handled next)
  | .halted final => .ok (.halted final)
  | .failed error => .error error

@[simp] lemma calls_nil : calls [] = [] := rfl

@[simp] lemma calls_called_cons (call : IpcCall) (log : List RuntimeEvent) :
    calls (.called call :: log) = call :: calls log := rfl

@[simp] lemma calls_append (log log' : List RuntimeEvent) :
    calls (log ++ log') = calls log ++ calls log' :=
  List.filterMap_append

@[simp] lemma calls_observed (observations : List SlotObservation) :
    calls (observations.map .observed) = [] := by
  induction observations with
  | nil => rfl
  | cons o os ih => simp [calls]

omit [SlotPayload P] in
lemma applyError_spec (call : PhaseCall) (payload : P) (observer : SlotObserver) (original : Value)
    (message : String) (failure : HostFailure) :
    (applyError call payload observer original message failure).result =
      pluginPhaseResult payload (policyVerdict call.policy (.failure failure)) ∧
    calls (applyError call payload observer original message failure).log = [] := by
  rw [policyVerdict_failure, applyError]
  split_ifs <;> simp [PhaseCall.observe, pluginPhaseResult]

lemma applyOutcome_spec (call : PhaseCall) (payload : P) (outcome : SlotOutcome P)
    (observer : SlotObserver) (original raw : Value)
    (hraw : SlotPayload.outcomeFromValue raw = .ok outcome) :
    (applyOutcome call payload outcome observer original).result =
      pluginPhaseResult payload (policyVerdict call.policy (readAnswer call (some (.ok raw)))) ∧
    calls (applyOutcome call payload outcome observer original).log = [] := by
  rw [readAnswer, hraw]
  cases outcome with
  | unchanged => simp [applyOutcome, PhaseCall.observe, policyVerdict, pluginPhaseResult]
  | unhandled => simp [applyOutcome, PhaseCall.observe, policyVerdict, pluginPhaseResult]
  | error message => exact applyError_spec call payload observer original message _
  | «continue» next =>
    unfold applyOutcome PhaseCall.observe
    cases call.policy <;> simp [policyVerdict, pluginPhaseResult]
  | halt final =>
    unfold applyOutcome PhaseCall.observe
    cases call.policy <;> simp [policyVerdict, pluginPhaseResult]

/-- One plugin's phase gives the policy's verdict and calls the plugin once. -/
theorem runPluginPhase_spec (plugin : Plugin) (call : PhaseCall) (payload : P)
    (observer : SlotObserver) :
    (runPluginPhase plugin call payload observer).result =
      pluginPhaseResult payload (phaseVerdict plugin call payload) ∧
    calls (runPluginPhase plugin call payload observer).log = phaseCalls call payload := by
  unfold runPluginPhase phaseVerdict phaseCalls
  cases hctx : (call.context payload).toValue with
  | error e => exact ⟨rfl, rfl⟩
  | ok params =>
    simp only [PhaseCall.observe, Traced.emit_bind, Plugin.call]
    cases hanswer : plugin.handleIpc call.method params with
    | none => simp [Traced.bind_of_ok, readAnswer, policyVerdict, pluginPhaseResult]
    | some answer =>
      cases answer with
      | error e =>
        have he := applyError_spec call payload observer (params.field "payload") e.toString e
        simp [Traced.bind_of_ok, he, readAnswer]
      | ok raw =>
        cases hraw : SlotPayload.outcomeFromValue (P := P) raw with
        | ok outcome =>
          have ho :=
            applyOutcome_spec call payload outcome observer (params.field "payload") raw hraw
          simp [Traced.bind_of_ok, ho, hraw]
        | error message =>
          rw [readAnswer, hraw, policyVerdict_failure]
          split_ifs <;> simp [Traced.bind_of_ok, hraw, pluginPhaseResult]

/-- Unless its context does not serialise, a phase's verdict is the policy's. -/
lemma phaseVerdict_cases (plugin : Plugin) (call : PhaseCall) (payload : P) :
    (∃ error, phaseVerdict plugin call payload = .failed error) ∨
      ∃ answer, phaseVerdict plugin call payload = policyVerdict call.policy answer := by
  unfold phaseVerdict
  cases (call.context payload).toValue with
  | error message => exact Or.inl ⟨_, rfl⟩
  | ok params => exact Or.inr ⟨_, rfl⟩

lemma firstSuccess_of_won {plugin : Plugin} {call : PhaseCall} {payload next : P}
    (h : phaseVerdict plugin call payload = .won next) : call.policy = .firstSuccess := by
  rcases phaseVerdict_cases plugin call payload with ⟨error, hfailed⟩ | ⟨answer, hanswer⟩
  · rw [hfailed] at h
    exact nomatch h
  · rw [hanswer] at h
    exact (policyVerdict_eq_won.mp h).1

lemma ne_firstSuccess_of_replaced {plugin : Plugin} {call : PhaseCall} {payload next : P}
    (h : phaseVerdict plugin call payload = .replaced next) : call.policy ≠ .firstSuccess := by
  rcases phaseVerdict_cases plugin call payload with ⟨error, hfailed⟩ | ⟨answer, hanswer⟩
  · rw [hfailed] at h
    exact nomatch h
  · rw [hanswer] at h
    intro hpolicy
    rw [hpolicy] at h
    cases answer <;> exact nomatch h

end

/-- A binding as the arguments of its plugin's phase. -/
abbrev phaseCallOf (binding : PluginBinding) (wireVersion : UInt32) (invocationId : String) :
    PhaseCall :=
  ⟨binding.pluginId, binding.slot, binding.phase, binding.policy, wireVersion, invocationId⟩

/-- The outcome of a chain as the result of a phase. -/
def phaseResult {P : Type} : Chain.Outcome P HostFailure → HostResult (PhaseResult P)
  | .finished handled payload => .ok (if handled then .handled payload else .unhandled payload)
  | .halted payload => .ok (.halted payload)
  | .failed error => .error error

/-- The outcome of a chain of phases as the result of a run. -/
def chainResult {P : Type} : Chain.Outcome P HostFailure → HostResult (Option P)
  | .finished handled payload => .ok (if handled then some payload else none)
  | .halted payload => .ok (some payload)
  | .failed error => .error error

namespace LoadedPluginRegistry

variable {P : Type} [SlotPayload P] (self : LoadedPluginRegistry) (slot : Slot)
  (wireVersion : UInt32) (invocationId : String)

/-- What a binding makes of a payload. -/
def verdict (binding : PluginBinding) (payload : P) : Chain.Verdict P HostFailure :=
  match self.plugins[binding.pluginId]? with
  | none => .failed (notLoaded binding.pluginId)
  | some plugin => phaseVerdict plugin (phaseCallOf binding wireVersion invocationId) payload

/-- The calls of one visit of a binding. -/
def visitCalls (visit : PluginBinding × P) : List IpcCall :=
  match self.plugins[visit.1.pluginId]? with
  | none => []
  | some _ => phaseCalls (phaseCallOf visit.1 wireVersion invocationId) visit.2

/-- The log of one visit of a binding. -/
def visitLog (observer : SlotObserver) (visit : PluginBinding × P) : List RuntimeEvent :=
  match self.plugins[visit.1.pluginId]? with
  | none => []
  | some plugin =>
    (runPluginPhase plugin (phaseCallOf visit.1 wireVersion invocationId) visit.2 observer).log

lemma calls_flatMap_visitLog (observer : SlotObserver) (vs : List (PluginBinding × P)) :
    calls (vs.flatMap (self.visitLog wireVersion invocationId observer)) =
      vs.flatMap (self.visitCalls wireVersion invocationId) := by
  have hvisit : ∀ v : PluginBinding × P,
      calls (self.visitLog wireVersion invocationId observer v) =
        self.visitCalls wireVersion invocationId v := by
    intro v
    unfold visitLog visitCalls
    cases self.plugins[v.1.pluginId]? with
    | none => rfl
    | some plugin => exact (runPluginPhase_spec plugin _ v.2 observer).2
  rw [calls, List.filterMap_flatMap]
  exact List.flatMap_congr (fun v _ => hvisit v)

/-- The loop of a phase refines a stage of the chain, and logs its visits one by one. -/
theorem runBindings_trace (observer : SlotObserver) (phase : SlotPhase) (bs : List PluginBinding)
    (hbs : ∀ b ∈ bs, b.slot = slot ∧ b.phase = phase) (payload : P) (handled : Bool) :
    (self.runBindings slot wireVersion invocationId observer phase bs payload handled).result =
      phaseResult (Chain.run (self.verdict wireVersion invocationId) bs handled payload) ∧
    (self.runBindings slot wireVersion invocationId observer phase bs payload handled).log =
      (Chain.visits (self.verdict wireVersion invocationId) bs payload).flatMap
        (self.visitLog wireVersion invocationId observer) := by
  induction bs generalizing payload handled with
  | nil => cases handled <;> exact ⟨rfl, rfl⟩
  | cons b bs ih =>
    have ih := ih (fun b' hb' => hbs b' (List.mem_cons_of_mem _ hb'))
    obtain ⟨rfl, rfl⟩ := hbs b List.mem_cons_self
    rw [runBindings, Chain.run, Chain.visits, List.flatMap_cons]
    cases hplugin : self.plugins[b.pluginId]? with
    | none => simp [verdict, visitLog, hplugin, phaseResult]
    | some plugin =>
      have hresult := (runPluginPhase_spec plugin
        (phaseCallOf b wireVersion invocationId) payload observer).1
      have hverdict : self.verdict wireVersion invocationId b payload =
          phaseVerdict plugin (phaseCallOf b wireVersion invocationId) payload := by
        rw [verdict, hplugin]
      have hvisit : self.visitLog wireVersion invocationId observer (b, payload) =
          (runPluginPhase plugin (phaseCallOf b wireVersion invocationId) payload
            observer).log := by
        rw [visitLog, hplugin]
      rw [hverdict, hvisit]
      cases hv : phaseVerdict plugin (phaseCallOf b wireVersion invocationId) payload with
      | pass =>
        rw [hv] at hresult
        simp only [Traced.bind_of_ok hresult, ih, and_self]
      | observed =>
        rw [hv] at hresult
        simp only [Traced.bind_of_ok hresult, ih, and_self]
      | replaced next =>
        rw [hv] at hresult
        have hpolicy : b.policy ≠ .firstSuccess := ne_firstSuccess_of_replaced hv
        simp only [Traced.bind_of_ok hresult, if_neg hpolicy, ih, and_self]
      | won next =>
        rw [hv] at hresult
        have hpolicy : b.policy = .firstSuccess := firstSuccess_of_won hv
        simp only [Traced.bind_of_ok hresult, if_pos hpolicy]
        simp [phaseResult]
      | halted final =>
        rw [hv] at hresult
        simp [Traced.bind_of_ok hresult, phaseResult]
      | failed error =>
        rw [hv] at hresult
        simp [Traced.bind_of_error hresult, phaseResult]

theorem runSlotPhaseObserved_trace (observer : SlotObserver) (phase : SlotPhase) (payload : P) :
    (self.runSlotPhaseObserved slot wireVersion invocationId observer phase payload).result =
      phaseResult (Chain.run (self.verdict wireVersion invocationId)
        (self.registry.bindingsFor slot phase) false payload) ∧
    (self.runSlotPhaseObserved slot wireVersion invocationId observer phase payload).log =
      (Chain.visits (self.verdict wireVersion invocationId)
        (self.registry.bindingsFor slot phase) payload).flatMap
          (self.visitLog wireVersion invocationId observer) := by
  apply self.runBindings_trace slot wireVersion invocationId observer phase
  intro b hb
  obtain ⟨m, -, s, -, -, -, rfl⟩ := PluginRegistry.mem_bindingsFor.mp hb
  exact ⟨rfl, rfl⟩

/-- The calls of a phase are those of its visits. -/
theorem runSlotPhaseObserved_spec (observer : SlotObserver) (phase : SlotPhase) (payload : P) :
    (self.runSlotPhaseObserved slot wireVersion invocationId observer phase payload).result =
      phaseResult (Chain.run (self.verdict wireVersion invocationId)
        (self.registry.bindingsFor slot phase) false payload) ∧
    calls (self.runSlotPhaseObserved slot wireVersion invocationId observer phase payload).log =
      (Chain.visits (self.verdict wireVersion invocationId)
        (self.registry.bindingsFor slot phase) payload).flatMap
          (self.visitCalls wireVersion invocationId) := by
  obtain ⟨hresult, hlog⟩ :=
    self.runSlotPhaseObserved_trace slot wireVersion invocationId observer phase payload
  rw [hlog, calls_flatMap_visitLog]
  exact ⟨hresult, rfl⟩

/-- The loop over the phases refines a chain with one stage a phase, and logs its visits one by
one. -/
theorem runPhases_trace (observer : SlotObserver) (phases : List SlotPhase) (payload : P)
    (handled : Bool) :
    (self.runPhases slot wireVersion invocationId observer phases payload handled).result =
      chainResult (Chain.runStages (self.verdict wireVersion invocationId)
        (phases.map (self.registry.bindingsFor slot)) handled payload) ∧
    (self.runPhases slot wireVersion invocationId observer phases payload handled).log =
      (Chain.stageVisits (self.verdict wireVersion invocationId)
        (phases.map (self.registry.bindingsFor slot)) payload).flatten.flatMap
          (self.visitLog wireVersion invocationId observer) := by
  induction phases generalizing payload handled with
  | nil => exact ⟨rfl, rfl⟩
  | cons phase phases ih =>
    obtain ⟨hresult, hlog⟩ :=
      self.runSlotPhaseObserved_trace slot wireVersion invocationId observer phase payload
    rw [runPhases, List.map_cons, Chain.runStages, Chain.stageVisits, List.flatten_cons,
      List.flatMap_append, ← hlog]
    cases hrun : Chain.run (self.verdict wireVersion invocationId)
        (self.registry.bindingsFor slot phase) false payload with
    | finished h next =>
      rw [hrun, phaseResult] at hresult
      cases h with
      | false =>
        simp only [Traced.bind_of_ok hresult, Bool.false_eq_true, if_false, ih, Bool.or_false,
          and_self]
      | true =>
        simp only [Traced.bind_of_ok hresult, if_true, ih, Bool.or_true, and_self]
    | halted final =>
      rw [hrun, phaseResult] at hresult
      simp [Traced.bind_of_ok hresult, chainResult]
    | failed error =>
      rw [hrun, phaseResult] at hresult
      simp [Traced.bind_of_error hresult, chainResult]

/-- The calls of a chain are those of its visits. -/
theorem runPhases_spec (observer : SlotObserver) (phases : List SlotPhase) (payload : P)
    (handled : Bool) :
    (self.runPhases slot wireVersion invocationId observer phases payload handled).result =
      chainResult (Chain.runStages (self.verdict wireVersion invocationId)
        (phases.map (self.registry.bindingsFor slot)) handled payload) ∧
    calls (self.runPhases slot wireVersion invocationId observer phases payload handled).log =
      (Chain.stageVisits (self.verdict wireVersion invocationId)
        (phases.map (self.registry.bindingsFor slot)) payload).flatten.flatMap
          (self.visitCalls wireVersion invocationId) := by
  obtain ⟨hresult, hlog⟩ :=
    self.runPhases_trace slot wireVersion invocationId observer phases payload handled
  rw [hlog, calls_flatMap_visitLog]
  exact ⟨hresult, rfl⟩

/-- The index is well formed and every indexed plugin is loaded. -/
structure WellFormed (runtime : LoadedPluginRegistry) : Prop where
  registry : runtime.registry.WellFormed
  loaded : ∀ id, runtime.registry.plugins.contains id = runtime.plugins.contains id

lemma wellFormed_new : new.WellFormed where
  registry := PluginRegistry.wellFormed_new
  loaded id := by simp [new, PluginRegistry.new]

variable {self}

/-- One call of `register`, taken or refused, keeps every indexed plugin loaded. -/
lemma WellFormed.register (h : self.WellFormed) (manifest : PluginManifest) (plugin : Plugin) :
    (self.register manifest plugin).2.WellFormed := by
  have hregistry := h.registry.register manifest
  cases hc : self.registry.checkManifest manifest with
  | error e =>
    rw [LoadedPluginRegistry.register, PluginRegistry.register_of_error hc]
    exact h
  | ok u =>
    rw [PluginRegistry.register_of_ok hc] at hregistry
    rw [LoadedPluginRegistry.register, PluginRegistry.register_of_ok hc]
    refine ⟨hregistry, fun id => ?_⟩
    simp only [ExtTreeMap.contains_insert, h.loaded id]

theorem Reachable.wellFormed (h : Reachable self) : self.WellFormed :=
  Lib.Reachable.invariant wellFormed_new (fun _ loaded _ hs => hs.register loaded.1 loaded.2) h

/-- The registry after loading some plugins, one after the other. -/
def load (loaded : List (PluginManifest × Plugin)) : LoadedPluginRegistry :=
  loaded.foldl (fun runtime plugin => (runtime.register plugin.1 plugin.2).2) new

lemma reachable_load (loaded : List (PluginManifest × Plugin)) : Reachable (load loaded) :=
  Lib.Reachable.init.foldl loaded

lemma WellFormed.plugin_of_mem (h : self.WellFormed) {m : PluginManifest}
    (hm : m ∈ self.registry.manifests) : ∃ plugin, self.plugins[m.id]? = some plugin := by
  have hindexed : self.registry.plugins.contains m.id = true := by
    rw [ExtTreeMap.contains_eq_isSome_getElem?,
      (PluginRegistry.mem_manifests h.registry.keyed).mp hm]
    rfl
  rw [h.loaded, ExtTreeMap.contains_eq_isSome_getElem?] at hindexed
  exact Option.isSome_iff_exists.mp hindexed

/-- The plugin of a planned binding is there to be called. -/
lemma WellFormed.plugin_of_binding (h : self.WellFormed) {slot : Slot} {phase : SlotPhase}
    {b : PluginBinding} (hb : b ∈ self.registry.bindingsFor slot phase) :
    ∃ plugin, self.plugins[b.pluginId]? = some plugin := by
  obtain ⟨m, hm, s, -, -, -, rfl⟩ := PluginRegistry.mem_bindingsFor.mp hb
  exact h.plugin_of_mem hm

end LoadedPluginRegistry

/-- A plugin that gives every call the same answer. -/
def constantPlugin (name : String) (answer : Option (HostResult Value)) : Plugin :=
  ⟨name, fun _ _ => answer⟩

end Pingling.HostRuntime
