import Pingling.HostRuntime.SlotChain

/-!
# Policies that cannot interfere

Deleting all bindings under one policy is the yardstick. A `bestEffort` binding never
matters to the result of a chain; a `broadcast` binding matters only by failing.
-/

namespace Pingling.HostContract
open Lib Std

def PluginManifest.without (manifest : PluginManifest) (policy : SlotPolicy) : PluginManifest :=
  { manifest with slots := manifest.slots.filter (·.policy ≠ policy) }

/-- The registry with every binding under a policy deleted from its manifests. -/
def PluginRegistry.without (self : PluginRegistry) (policy : SlotPolicy) : PluginRegistry :=
  ⟨ExtTreeMap.map (fun _ manifest => manifest.without policy) self.plugins⟩

lemma PluginManifest.filterMap_bindingAt_without (manifest : PluginManifest) (policy : SlotPolicy)
    (slot : Slot) (phase : SlotPhase) :
    (manifest.without policy).slots.filterMap ((manifest.without policy).bindingAt slot phase) =
      (manifest.slots.filterMap (manifest.bindingAt slot phase)).filter (·.policy ≠ policy) := by
  rw [PluginManifest.without, List.filterMap_filter, List.filter_filterMap]
  refine List.filterMap_congr (fun b _ => ?_)
  unfold PluginManifest.bindingAt
  by_cases hcovers : (b.name = slot && b.containsPhase phase) = true
  · by_cases hpolicy : b.policy = policy <;> simp [hcovers, hpolicy, Option.filter]
  · simp [hcovers]

/-- What remains is planned in the order it had. -/
theorem PluginRegistry.bindingsFor_without (self : PluginRegistry) (policy : SlotPolicy)
    (slot : Slot) (phase : SlotPhase) :
    (self.without policy).bindingsFor slot phase =
      (self.bindingsFor slot phase).filter (·.policy ≠ policy) := by
  rw [bindingsFor, bindingsFor, filter_sortBy, manifests, manifests, without,
    BTreeMap.values_map, List.flatMap_map, List.filter_flatMap]
  simp only [PluginManifest.filterMap_bindingAt_without]

end Pingling.HostContract

namespace Pingling.HostRuntime
open Lib Std HostContract

namespace LoadedPluginRegistry

def without (self : LoadedPluginRegistry) (policy : SlotPolicy) : LoadedPluginRegistry :=
  { self with registry := self.registry.without policy }

end LoadedPluginRegistry

section Same

variable {P : Type} {o o' : Chain.Outcome P HostFailure}

/-- Results of a phase that differ at most by `unhandled` having become `handled`. -/
def SamePhase (result result' : HostResult (PhaseResult P)) : Prop :=
  result = result' ∨ ∃ payload, result = .ok (.handled payload) ∧ result' = .ok (.unhandled payload)

/-- Results of a chain that differ at most by the initial payload in the place of none. -/
def SameChain (initial : P) (result result' : HostResult (Option P)) : Prop :=
  result = result' ∨ result = .ok (some initial) ∧ result' = .ok none

lemma samePhase_of_agrees (h : Chain.Agrees o o') : SamePhase (phaseResult o) (phaseResult o') := by
  cases o with
  | finished handled payload =>
    obtain ⟨handled', rfl, hhandled⟩ := h.of_finished
    cases handled <;> cases handled' <;> simp_all [SamePhase, phaseResult]
  | halted payload => exact Or.inl (by rw [h.of_halted])
  | failed error => exact Or.inl (by rw [h.of_failed])

lemma sameChain_of_agrees {initial : P} (h : Chain.Agrees o o')
    (huntouched : ∀ payload, o' = .finished false payload → payload = initial) :
    SameChain initial (chainResult o) (chainResult o') := by
  cases o with
  | finished handled payload =>
    obtain ⟨handled', rfl, hhandled⟩ := h.of_finished
    cases handled <;> cases handled' <;> simp_all [SameChain, chainResult]
  | halted payload => exact Or.inl (by rw [h.of_halted])
  | failed error => exact Or.inl (by rw [h.of_failed])

end Same

namespace LoadedPluginRegistry

variable {P : Type} [SlotPayload P] {self : LoadedPluginRegistry}

/-- Deleting the `bestEffort` bindings leaves the result of a chain alone, whatever their
plugins do. -/
theorem runSlotChain_without_bestEffort (h : Reachable self)
    (hserialises : ∀ payload : P, ∃ json, SlotPayload.toValue payload = .ok json) (slot : Slot)
    (wireVersion : UInt32) (invocationId : String) (initial : P) :
    SameChain initial (self.runSlotChain slot wireVersion invocationId initial).result
      ((self.without .bestEffort).runSlotChain slot wireVersion invocationId initial).result := by
  have hplan : SlotPhase.order.map ((self.without .bestEffort).registry.bindingsFor slot) =
      (SlotPhase.order.map (self.registry.bindingsFor slot)).map
        (·.filter (·.policy ≠ .bestEffort)) := by
    rw [List.map_map]
    exact List.map_congr_left
      (fun phase _ => self.registry.bindingsFor_without .bestEffort slot phase)
  have hneutral : ∀ stage ∈ SlotPhase.order.map (self.registry.bindingsFor slot), ∀ b ∈ stage,
      ∀ payload : P, decide (b.policy ≠ .bestEffort) = false →
        self.verdict wireVersion invocationId b payload = .pass ∨
          self.verdict wireVersion invocationId b payload = .observed := by
    intro stage hstage b hb payload hpolicy
    obtain ⟨phase, -, rfl⟩ := List.mem_map.mp hstage
    have hserved : self.Served wireVersion invocationId (b, payload) :=
      h.wellFormed.served hb (hserialises payload)
    rw [decide_eq_false_iff_not, not_not] at hpolicy
    rw [hserved.slotCall.2.2, SlotCall.verdict, slotCall_binding, hpolicy]
    exact policyVerdict_bestEffort _
  have hagrees : Chain.Agrees
      (Chain.runStages (self.verdict wireVersion invocationId)
        (SlotPhase.order.map (self.registry.bindingsFor slot)) false initial)
      (Chain.runStages (self.verdict wireVersion invocationId)
        (SlotPhase.order.map ((self.without .bestEffort).registry.bindingsFor slot))
          false initial) := by
    rw [hplan]
    exact Chain.runStages_filter_neutral _ hneutral id initial
  have hsame := sameChain_of_agrees hagrees (fun _ hrun => Chain.runStages_untouched _ hrun)
  have hresult := (self.runPhases_spec slot wireVersion invocationId .null SlotPhase.order
    initial false).1
  have hresult' := ((self.without .bestEffort).runPhases_spec slot wireVersion invocationId .null
    SlotPhase.order initial false).1
  rw [runSlotChain, runSlotChain, runSlotChainObserved, runSlotChainObserved, hresult, hresult']
  exact hsame

/-- The call of a binding fails on a payload: the context does not serialise, or the answer
of the plugin is a failure. -/
def FailsOn (self : LoadedPluginRegistry) (wireVersion : UInt32) (invocationId : String)
    (b : PluginBinding) (payload : P) (error : HostFailure) : Prop :=
  let call := phaseCallOf b wireVersion invocationId
  ∃ plugin, self.plugins[b.pluginId]? = some plugin ∧
    match (call.context payload).toValue with
    | .error message => error = .invalidInput (call.describe s!"serialize context: {message}")
    | .ok params => readAnswer (P := P) call (plugin.handleIpc call.method params) = .failure error

/-- A run of a phase ends in the failure of a `broadcast` binding: if it was called, its call
is the last one, and the error is the error of the run. -/
def BroadcastFailed (self : LoadedPluginRegistry) (slot : Slot) (wireVersion : UInt32)
    (invocationId : String) (phase : SlotPhase) (run : Run (PhaseResult P)) : Prop :=
  ∃ b ∈ self.registry.bindingsFor slot phase, b.policy = .broadcast ∧ ∃ (payload : P) (error : _),
    self.FailsOn wireVersion invocationId b payload error ∧ run.result = .error error ∧
    ∀ params, ((phaseCallOf b wireVersion invocationId).context payload).toValue = .ok params →
      (calls run.log).getLast? =
        some ⟨b.pluginId, (phaseCallOf b wireVersion invocationId).method, params⟩

lemma failsOn_of_verdict {wireVersion : UInt32} {invocationId : String} {b : PluginBinding}
    {payload : P} {error : HostFailure}
    (hloaded : ∃ plugin, self.plugins[b.pluginId]? = some plugin)
    (h : self.verdict wireVersion invocationId b payload = .failed error) :
    self.FailsOn wireVersion invocationId b payload error := by
  obtain ⟨plugin, hplugin⟩ := hloaded
  refine ⟨plugin, hplugin, ?_⟩
  simp only [verdict, hplugin, phaseVerdict] at h
  cases hparams : ((phaseCallOf b wireVersion invocationId).context payload).toValue with
  | error message =>
    simp only [hparams, Chain.Verdict.failed.injEq] at h
    exact h.symm
  | ok params =>
    simp only [hparams] at h
    exact policyVerdict_eq_failed h

/-- A `broadcast` binding passes, observes or fails. -/
lemma verdict_broadcast (self : LoadedPluginRegistry) (wireVersion : UInt32)
    (invocationId : String) {b : PluginBinding} (hpolicy : b.policy = .broadcast) (payload : P) :
    self.verdict wireVersion invocationId b payload = .pass ∨
      self.verdict wireVersion invocationId b payload = .observed ∨
      ∃ error, self.verdict wireVersion invocationId b payload = .failed error := by
  unfold verdict
  cases self.plugins[b.pluginId]? with
  | none => exact Or.inr (Or.inr ⟨_, rfl⟩)
  | some plugin =>
    rcases phaseVerdict_cases plugin (phaseCallOf b wireVersion invocationId) payload with
      hfailed | ⟨answer, hanswer⟩
    · exact Or.inr (Or.inr hfailed)
    · have hbroadcast := policyVerdict_broadcast answer
      rw [← hpolicy, ← hanswer] at hbroadcast
      exact hbroadcast

/-- Deleting the `broadcast` bindings leaves the result of a phase alone, unless one of them
fails it. -/
lemma broadcastFailed_or_samePhase (h : Reachable self) (slot : Slot) (wireVersion : UInt32)
    (invocationId : String) (observer : SlotObserver) (phase : SlotPhase) (payload : P) :
    self.BroadcastFailed slot wireVersion invocationId phase
        (self.runSlotPhaseObserved slot wireVersion invocationId observer phase payload) ∨
      SamePhase
        (self.runSlotPhaseObserved slot wireVersion invocationId observer phase payload).result
        ((self.without .broadcast).runSlotPhaseObserved slot wireVersion invocationId observer
          phase payload).result := by
  obtain ⟨hresult, hcalls⟩ :=
    self.runSlotPhaseObserved_spec slot wireVersion invocationId observer phase payload
  have hresult' := ((self.without .broadcast).runSlotPhaseObserved_spec slot wireVersion
    invocationId observer phase payload).1
  have hneutral : ∀ b ∈ self.registry.bindingsFor slot phase, ∀ payload : P,
      decide (b.policy ≠ .broadcast) = false →
        self.verdict wireVersion invocationId b payload = .pass ∨
          self.verdict wireVersion invocationId b payload = .observed ∨
          ∃ error, self.verdict wireVersion invocationId b payload = .failed error := by
    intro b _ payload hpolicy
    rw [decide_eq_false_iff_not, not_not] at hpolicy
    exact self.verdict_broadcast wireVersion invocationId hpolicy payload
  rcases Chain.run_filter (self.verdict wireVersion invocationId) hneutral
    (fun h : false = true => h) payload with ⟨v, hv, hpolicy, error, hfailed, hrun⟩ | hagrees
  · left
    rw [decide_eq_false_iff_not, not_not] at hpolicy
    have hb : v.1 ∈ self.registry.bindingsFor slot phase :=
      (Chain.visits_isPrefix _ _ _).1.subset (List.mem_map_of_mem hv)
    obtain ⟨plugin, hplugin⟩ := h.wellFormed.plugin_of_binding hb
    refine ⟨v.1, hb, hpolicy, v.2, error, failsOn_of_verdict ⟨plugin, hplugin⟩ hfailed, ?_, ?_⟩
    · rw [hresult, hrun]
      rfl
    · intro params hparams
      obtain ⟨pre, post, hsplit⟩ := List.append_of_mem hv
      have hthreaded := Chain.threaded_visits (self.verdict wireVersion invocationId)
        (self.registry.bindingsFor slot phase) payload
      rw [hsplit] at hthreaded hcalls
      have hpost : post = [] := hthreaded.split.2 (by rw [hfailed]; exact Option.some_ne_none _)
      have hlast : self.visitCalls wireVersion invocationId v =
          [⟨v.1.pluginId, (phaseCallOf v.1 wireVersion invocationId).method, params⟩] := by
        rw [visitCalls, hplugin]
        simp only [phaseCalls, hparams]
      rw [hcalls, hpost, List.flatMap_append, List.flatMap_singleton, hlast,
        List.getLast?_concat]
  · right
    rw [hresult, hresult']
    rw [← PluginRegistry.bindingsFor_without] at hagrees
    exact samePhase_of_agrees hagrees

/-- An all-`broadcast` phase that finishes reaches its whole plan. -/
lemma visits_of_broadcast {wireVersion : UInt32} {invocationId : String}
    {bs : List PluginBinding} (hbroadcast : ∀ b ∈ bs, b.policy = .broadcast) {payload final : P}
    {handled : Bool} (hrun : Chain.run (self.verdict wireVersion invocationId) bs false payload =
      .finished handled final) :
    (Chain.visits (self.verdict wireVersion invocationId) bs payload).map Prod.fst = bs := by
  obtain ⟨hinitial, hproper⟩ :=
    Chain.visits_isPrefix (self.verdict wireVersion invocationId) bs payload
  by_contra hne
  obtain ⟨vs, v, hvs, hstops⟩ := hproper hne
  have hv : v ∈ Chain.visits (self.verdict wireVersion invocationId) bs payload := by
    rw [hvs]
    exact List.mem_append_right _ List.mem_cons_self
  have hends := (Chain.run_finished _ hrun).1 v hv
  have hpolicy := hbroadcast v.1 (hinitial.subset (List.mem_map_of_mem hv))
  rcases self.verdict_broadcast wireVersion invocationId hpolicy v.2 with
    hpass | hobserved | ⟨error, hfailed⟩
  · rw [hpass] at hstops
    exact hstops
  · rw [hobserved] at hstops
    exact hstops
  · rw [hfailed] at hends
    exact nomatch hends

/-- A `broadcast` binding can only fail a phase: apart from that the result is the same without
it, and a phase of `broadcast` bindings calls all their plugins and returns what it was given. -/
theorem runSlotPhaseObserved_without_broadcast (h : Reachable self) (slot : Slot)
    (wireVersion : UInt32) (invocationId : String) (observer : SlotObserver) (phase : SlotPhase)
    (payload : P) :
    let run := self.runSlotPhaseObserved slot wireVersion invocationId observer phase payload
    let run' := (self.without .broadcast).runSlotPhaseObserved slot wireVersion invocationId
      observer phase payload
    (self.BroadcastFailed slot wireVersion invocationId phase run ∨
      SamePhase run.result run'.result) ∧
    ((∀ b ∈ self.registry.bindingsFor slot phase, b.policy = .broadcast) →
      self.BroadcastFailed slot wireVersion invocationId phase run ∨
      ((run.result = .ok (.unhandled payload) ∨ run.result = .ok (.handled payload)) ∧
        (calls run.log).map IpcCall.pluginId =
          (self.registry.bindingsFor slot phase).map PluginBinding.pluginId)) := by
  intro run run'
  have hfirst := broadcastFailed_or_samePhase h slot wireVersion invocationId observer phase payload
  refine ⟨hfirst, fun hbroadcast => hfirst.imp_right (fun hsame => ?_)⟩
  have hrun' : run'.result = .ok (.unhandled payload) := by
    have hnone : (self.without .broadcast).registry.bindingsFor slot phase = [] := by
      have hplan := self.registry.bindingsFor_without .broadcast slot phase
      rw [List.filter_eq_nil_iff.mpr (fun b hb => by simp [hbroadcast b hb])] at hplan
      exact hplan
    rw [((self.without .broadcast).runSlotPhaseObserved_spec slot wireVersion invocationId
      observer phase payload).1, hnone]
    rfl
  have hresult : run.result = .ok (.unhandled payload) ∨ run.result = .ok (.handled payload) := by
    rcases hsame with heq | ⟨p, hhandled, hunhandled⟩
    · exact Or.inl (heq.trans hrun')
    · rw [hrun', Except.ok.injEq, PhaseResult.unhandled.injEq] at hunhandled
      exact Or.inr (hunhandled ▸ hhandled)
  refine ⟨hresult, ?_⟩
  obtain ⟨hspec, hcalls⟩ :=
    self.runSlotPhaseObserved_spec slot wireVersion invocationId observer phase payload
  rw [← show run = self.runSlotPhaseObserved slot wireVersion invocationId observer phase payload
    from rfl] at hspec hcalls
  obtain ⟨handled, hrun⟩ := finished_of_phaseResult (hspec ▸ hresult)
  have hvisits := congrArg (List.map PluginBinding.pluginId) (visits_of_broadcast hbroadcast hrun)
  rw [hcalls, flatMap_visitCalls (served_of_finished hrun), List.map_map, List.map_map, ← hvisits,
    List.map_map]
  refine List.map_congr_left (fun v _ => ?_)
  simp [SlotCall.ipcCall]

end LoadedPluginRegistry

/-- A loaded registry with one plugin, bound to a slot under a policy. -/
def observerRuntime (policy : SlotPolicy) (answer : Option (HostResult Value)) :
    LoadedPluginRegistry :=
  .load [(manifestFor "watcher" 0 "config.process" [.exec] policy,
    constantPlugin "watcher" answer)]

def failWith (message : String) : Option (HostResult Value) :=
  some (.error (.pluginError message))

theorem runSlotChain_without_bestEffort_watcher :
    let r := observerRuntime .bestEffort (failWith "boom")
    SameChain Value.null (r.runSlotChain ⟨"config.process"⟩ 1 "inv" Value.null).result
      ((r.without .bestEffort).runSlotChain ⟨"config.process"⟩ 1 "inv" Value.null).result :=
  LoadedPluginRegistry.runSlotChain_without_bestEffort (LoadedPluginRegistry.reachable_load _)
    (fun payload => ⟨payload, rfl⟩) ⟨"config.process"⟩ 1 "inv" Value.null

theorem runSlotPhaseObserved_without_broadcast_watcher :
    let r := observerRuntime .broadcast (continueWith (.string "ignored"))
    let run := r.runSlotPhaseObserved ⟨"config.process"⟩ 1 "inv" .null .exec Value.null
    let run' := (r.without .broadcast).runSlotPhaseObserved ⟨"config.process"⟩ 1 "inv" .null .exec
      Value.null
    (r.BroadcastFailed ⟨"config.process"⟩ 1 "inv" .exec run ∨ SamePhase run.result run'.result) ∧
    ((∀ b ∈ r.registry.bindingsFor ⟨"config.process"⟩ .exec, b.policy = .broadcast) →
      r.BroadcastFailed ⟨"config.process"⟩ 1 "inv" .exec run ∨
      ((run.result = .ok (.unhandled .null) ∨ run.result = .ok (.handled .null)) ∧
        (calls run.log).map IpcCall.pluginId =
          (r.registry.bindingsFor ⟨"config.process"⟩ .exec).map PluginBinding.pluginId)) :=
  LoadedPluginRegistry.runSlotPhaseObserved_without_broadcast
    (LoadedPluginRegistry.reachable_load _) ⟨"config.process"⟩ 1 "inv" .null .exec Value.null

/-- The error of a `broadcast` plugin becomes the error of the phase. -/
theorem broadcast_failure_not_ignored :
    let r := observerRuntime .broadcast (failWith "boom")
    let run := r.runSlotPhaseObserved ⟨"config.process"⟩ 1 "inv" .null .exec Value.null
    let run' := (r.without .broadcast).runSlotPhaseObserved ⟨"config.process"⟩ 1 "inv" .null .exec
      Value.null
    r.Reachable ∧ (∀ b ∈ r.registry.bindingsFor ⟨"config.process"⟩ .exec, b.policy = .broadcast) ∧
    run.result = .error (.pluginError "boom") ∧ run'.result = .ok (.unhandled .null) ∧
    ¬SamePhase run.result run'.result := by
  intro r run run'
  have hrun : run.result = .error (.pluginError "boom") := rfl
  have hrun' : run'.result = .ok (.unhandled .null) := rfl
  refine ⟨LoadedPluginRegistry.reachable_load _, by decide, hrun, hrun', ?_⟩
  rintro (heq | ⟨payload, hhandled, -⟩)
  · rw [hrun, hrun'] at heq
    exact nomatch heq
  · rw [hrun] at hhandled
    exact nomatch hhandled

end Pingling.HostRuntime
