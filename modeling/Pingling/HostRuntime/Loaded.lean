import Pingling.HostRuntime.Noninterference
import Pingling.HostRuntime.MethodDispatch

/-!
# The index and the loaded plugins

The index of manifests and the map of plugins have the same ids after any sequence of
`register` calls, so a planned plugin is always there to be called. An error of a run is
the error of a plugin that was called, and never the host's complaint about a plugin that
is indexed but not loaded.
-/

namespace Pingling.HostRuntime
open Lib Std HostContract

lemma describe_ne_notLoaded (call : PhaseCall) (message id : String) :
    call.describe message ≠ s!"plugin {id} is indexed but not loaded" := by
  intro h
  have hhead := congrArg (fun text => text.toList.head?) h
  simp [PhaseCall.describe, toString] at hhead

variable {P : Type} [SlotPayload P]

/-- The error of a plugin that is not loaded can only be read off an answer that gives it. -/
lemma readAnswer_notLoaded {call : PhaseCall} {answer : Option (HostResult Value)} {id : String}
    (h : readAnswer (P := P) call answer = .failure (LoadedPluginRegistry.notLoaded id)) :
    answer = some (.error (LoadedPluginRegistry.notLoaded id)) := by
  cases answer with
  | none => cases h
  | some answer =>
    cases answer with
    | error error =>
      rw [readAnswer, Answer.failure.injEq] at h
      rw [h]
    | ok raw =>
      have hhost : ∀ message, (Answer.failure (.pluginError (call.describe message)) : Answer P) ≠
          .failure (LoadedPluginRegistry.notLoaded id) := by
        intro message heq
        rw [Answer.failure.injEq] at heq
        exact describe_ne_notLoaded call message id (congrArg HostFailure.message heq)
      rw [readAnswer] at h
      cases hraw : SlotPayload.outcomeFromValue (P := P) raw with
      | error message =>
        rw [hraw] at h
        exact absurd h (hhost _)
      | ok outcome =>
        rw [hraw] at h
        cases outcome with
        | error message => exact absurd h (hhost _)
        | _ => cases h

namespace LoadedPluginRegistry

variable {self : LoadedPluginRegistry}

/-- A plugin of the plan itself answers that a plugin is indexed but not loaded. -/
def AnswersNotLoaded (self : LoadedPluginRegistry) (pluginId method id : String) : Prop :=
  ∃ plugin, self.plugins[pluginId]? = some plugin ∧
    ∃ params, plugin.handleIpc method params = some (.error (notLoaded id))

/-- A failing visit of a planned binding was answered by its plugin, or its context did not
serialise; the host does not miss the plugin. -/
lemma WellFormed.failed_notLoaded (h : self.WellFormed) {slot : Slot} {phase : SlotPhase}
    {wireVersion : UInt32} {invocationId : String} {b : PluginBinding} {payload : P} {id : String}
    (hb : b ∈ self.registry.bindingsFor slot phase)
    (hfailed : self.verdict wireVersion invocationId b payload = .failed (notLoaded id)) :
    self.AnswersNotLoaded b.pluginId (phaseCallOf b wireVersion invocationId).method id := by
  obtain ⟨plugin, hplugin, hfails⟩ := failsOn_of_verdict (h.plugin_of_binding hb) hfailed
  refine ⟨plugin, hplugin, ?_⟩
  cases hparams : ((phaseCallOf b wireVersion invocationId).context payload).toValue with
  | error message =>
    simp only [hparams] at hfails
    have hcode := congrArg HostFailure.code hfails
    simp [notLoaded, HostFailure.pluginError, HostFailure.invalidInput] at hcode
  | ok params =>
    simp only [hparams] at hfails
    exact ⟨params, readAnswer_notLoaded hfails⟩

lemma WellFormed.runSlotPhase_notLoaded (h : self.WellFormed) {slot : Slot} {phase : SlotPhase}
    {wireVersion : UInt32} {invocationId : String} {payload : P} {id : String}
    (herror : (self.runSlotPhase slot wireVersion invocationId phase payload).result =
      .error (notLoaded id)) :
    ∃ b ∈ self.registry.bindingsFor slot phase, self.AnswersNotLoaded b.pluginId
      (phaseCallOf b wireVersion invocationId).method id := by
  have hspec := (self.runSlotPhaseObserved_spec slot wireVersion invocationId .null phase payload).1
  rw [Chain.run_eq_replay] at hspec
  have hthreaded := Chain.threaded_visits (self.verdict wireVersion invocationId)
    (self.registry.bindingsFor slot phase) payload
  have hfailed : Chain.replay (self.verdict wireVersion invocationId)
      (Chain.visits (self.verdict wireVersion invocationId)
        (self.registry.bindingsFor slot phase) payload) false payload =
      .failed (notLoaded id) := by
    cases hrun : (self.runSlotPhaseObserved slot wireVersion invocationId .null phase
        payload).result with
    | ok result =>
      rw [runSlotPhase, Traced.bind_of_ok hrun] at herror
      cases result <;> exact nomatch herror
    | error error =>
      rw [runSlotPhase, Traced.bind_of_error hrun] at herror
      rw [hrun, Except.error.inj herror] at hspec
      exact phaseResult_eq_error.mp hspec.symm
  obtain ⟨v, hv, hends⟩ := hthreaded.replay_failed_iff.mp hfailed
  have hb : v.1 ∈ self.registry.bindingsFor slot phase :=
    (Chain.visits_isPrefix _ _ _).1.subset (List.mem_map_of_mem hv)
  exact ⟨v.1, hb, h.failed_notLoaded hb (Chain.Verdict.ending_eq_failed.mp hends)⟩

lemma WellFormed.runSlotChain_notLoaded (h : self.WellFormed) {slot : Slot} {wireVersion : UInt32}
    {invocationId : String} {initial : P} {id : String}
    (herror : (self.runSlotChain slot wireVersion invocationId initial).result =
      .error (notLoaded id)) :
    ∃ phase, ∃ b ∈ self.registry.bindingsFor slot phase, self.AnswersNotLoaded b.pluginId
      (phaseCallOf b wireVersion invocationId).method id := by
  have hspec := (self.runPhases_spec slot wireVersion invocationId .null SlotPhase.order initial
    false).1
  rw [Chain.runStages_eq_replay] at hspec
  have hthreaded := Chain.threaded_stageVisits (self.verdict wireVersion invocationId)
    (SlotPhase.order.map (self.registry.bindingsFor slot)) initial
  have hfailed := chainResult_eq_error.mp (hspec.symm.trans herror)
  obtain ⟨v, hv, hends⟩ := hthreaded.replay_failed_iff.mp hfailed
  obtain ⟨stage, hstage, hb⟩ := Chain.mem_stage_of_mem_stageVisits _ hv
  obtain ⟨phase, -, rfl⟩ := List.mem_map.mp hstage
  exact ⟨phase, v.1, hb, h.failed_notLoaded hb (Chain.Verdict.ending_eq_failed.mp hends)⟩

/-- Over loaded plugins, the loop of a dispatch gives the answer of one of them. -/
lemma answered_of_dispatchMethodBindings {method : String} {params : Value}
    {answer : HostResult Value} {bs : List MethodBinding}
    (hbs : ∀ b ∈ bs, ∃ plugin, self.plugins[b.pluginId]? = some plugin)
    (h : (self.dispatchMethodBindings method params bs).2 = some answer) :
    ∃ b ∈ bs, ∃ plugin, self.plugins[b.pluginId]? = some plugin ∧
      plugin.handleIpc method params = some answer := by
  induction bs with
  | nil => exact nomatch h
  | cons b bs ih =>
    obtain ⟨plugin, hplugin⟩ := hbs b List.mem_cons_self
    cases hanswer : plugin.handleIpc method params with
    | some own =>
      have hown : own = answer := by simpa [dispatchMethodBindings, hplugin, hanswer] using h
      exact ⟨b, List.mem_cons_self, plugin, hplugin, hown ▸ hanswer⟩
    | none =>
      have hrest : (self.dispatchMethodBindings method params bs).2 = some answer := by
        simpa [dispatchMethodBindings, hplugin, hanswer] using h
      obtain ⟨b', hb', hfound⟩ := ih (fun c hc => hbs c (List.mem_cons_of_mem _ hc)) hrest
      exact ⟨b', List.mem_cons_of_mem _ hb', hfound⟩

lemma WellFormed.plugin_of_methodBinding (h : self.WellFormed) {method : String}
    {b : MethodBinding} (hb : b ∈ self.registry.methodBindings method) :
    ∃ plugin, self.plugins[b.pluginId]? = some plugin := by
  obtain ⟨m, hm, hbinding⟩ := PluginRegistry.mem_methodBindings.mp hb
  rw [(PluginManifest.methodBinding_eq_some hbinding).1]
  exact h.plugin_of_mem hm

/-- The two maps have the same ids, a refused registration changes neither, and every planned
plugin is loaded. -/
structure InStep (runtime : LoadedPluginRegistry) : Prop where
  ids : ∀ id, id ∈ runtime.registry.plugins ↔ id ∈ runtime.plugins
  refused : ∀ manifest plugin error, (runtime.register manifest plugin).1 = .error error →
    (runtime.register manifest plugin).2 = runtime
  slotPlan : ∀ slot phase, ∀ b ∈ runtime.registry.bindingsFor slot phase,
    ∃ plugin, runtime.plugins[b.pluginId]? = some plugin
  methodPlan : ∀ method, ∀ b ∈ runtime.registry.methodBindings method,
    ∃ plugin, runtime.plugins[b.pluginId]? = some plugin

lemma WellFormed.inStep (h : self.WellFormed) : self.InStep where
  ids id := by
    have hcontains := h.loaded id
    rw [← ExtTreeMap.contains_iff_mem, ← ExtTreeMap.contains_iff_mem, hcontains]
  refused manifest plugin error hrefused := by
    cases hcheck : self.registry.checkManifest manifest with
    | error e => rw [LoadedPluginRegistry.register, PluginRegistry.register_of_error hcheck]
    | ok u =>
      rw [LoadedPluginRegistry.register, PluginRegistry.register_of_ok hcheck] at hrefused
      cases hrefused
  slotPlan slot phase b hb := h.plugin_of_binding hb
  methodPlan method b hb := h.plugin_of_methodBinding hb

/-- The index and the loaded plugins never drift apart, so no run ends with the host missing
a plugin: such an error is always the answer of a plugin that is loaded and was asked. -/
theorem registered_in_step (h : Reachable self) :
    self.InStep ∧
    (∀ method params id,
      (self.dispatchMethod method params).2 = some (.error (notLoaded id)) →
      ∃ b ∈ self.registry.methodBindings method, self.AnswersNotLoaded b.pluginId method id) ∧
    (∀ slot phase wireVersion invocationId (payload : P) id,
      (self.runSlotPhase slot wireVersion invocationId phase payload).result =
        .error (notLoaded id) →
      ∃ b ∈ self.registry.bindingsFor slot phase, self.AnswersNotLoaded b.pluginId
        (phaseCallOf b wireVersion invocationId).method id) ∧
    (∀ slot wireVersion invocationId (initial : P) id,
      (self.runSlotChain slot wireVersion invocationId initial).result = .error (notLoaded id) →
      ∃ phase, ∃ b ∈ self.registry.bindingsFor slot phase, self.AnswersNotLoaded b.pluginId
        (phaseCallOf b wireVersion invocationId).method id) := by
  have hwf := h.wellFormed
  refine ⟨hwf.inStep, fun method params id herror => ?_,
    fun slot phase wireVersion invocationId payload id herror => hwf.runSlotPhase_notLoaded herror,
    fun slot wireVersion invocationId initial id herror => hwf.runSlotChain_notLoaded herror⟩
  obtain ⟨b, hb, plugin, hplugin, hanswer⟩ := answered_of_dispatchMethodBindings
    (fun b hb => hwf.plugin_of_methodBinding hb) herror
  exact ⟨b, hb, plugin, hplugin, params, hanswer⟩

end LoadedPluginRegistry

theorem registered_in_step_resolver :
    resolverRuntime.InStep ∧
    (∀ method params id,
      (resolverRuntime.dispatchMethod method params).2 =
        some (.error (LoadedPluginRegistry.notLoaded id)) →
      ∃ b ∈ resolverRuntime.registry.methodBindings method,
        resolverRuntime.AnswersNotLoaded b.pluginId method id) ∧
    (∀ slot phase wireVersion invocationId (payload : Value) id,
      (resolverRuntime.runSlotPhase slot wireVersion invocationId phase payload).result =
        .error (LoadedPluginRegistry.notLoaded id) →
      ∃ b ∈ resolverRuntime.registry.bindingsFor slot phase,
        resolverRuntime.AnswersNotLoaded b.pluginId
          (phaseCallOf b wireVersion invocationId).method id) ∧
    (∀ slot wireVersion invocationId (initial : Value) id,
      (resolverRuntime.runSlotChain slot wireVersion invocationId initial).result =
        .error (LoadedPluginRegistry.notLoaded id) →
      ∃ phase, ∃ b ∈ resolverRuntime.registry.bindingsFor slot phase,
        resolverRuntime.AnswersNotLoaded b.pluginId
          (phaseCallOf b wireVersion invocationId).method id) :=
  LoadedPluginRegistry.registered_in_step (LoadedPluginRegistry.reachable_load _)

end Pingling.HostRuntime
