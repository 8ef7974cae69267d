import Pingling.HostRuntime.Noninterference

/-!
# Which observers a phase reaches

A `firstSuccess` handler that answers with a result ends its phase, also for the observing
bindings planned after it; and a plugin that is bound twice is called twice.
`everyObserverCalled_iff` says when each observer is called exactly once.
-/

namespace Pingling.HostRuntime
open Lib Std HostContract

/-- The policies whose plugins are only asked to observe. -/
def Observes (policy : SlotPolicy) : Prop :=
  policy = .broadcast ∨ policy = .bestEffort

instance (policy : SlotPolicy) : Decidable (Observes policy) :=
  inferInstanceAs (Decidable (_ ∨ _))

namespace LoadedPluginRegistry

variable {P : Type} [SlotPayload P] (self : LoadedPluginRegistry) (slot : Slot)
  (wireVersion : UInt32) (invocationId : String)

/-- The plugin of each observing binding of the plan is called exactly once. -/
def EveryObserverCalled (phase : SlotPhase) (run : Run (PhaseResult P)) : Prop :=
  ∀ b ∈ self.registry.bindingsFor slot phase, Observes b.policy →
    ((calls run.log).map IpcCall.pluginId).count b.pluginId = 1

/-- The plugin of a binding answers `Continue` to a payload. -/
def AnswersContinue (b : PluginBinding) (payload : P) : Prop :=
  let call := phaseCallOf b wireVersion invocationId
  ∃ plugin params, self.plugins[b.pluginId]? = some plugin ∧
    (call.context payload).toValue = .ok params ∧
    ∃ next : P, readAnswer call (plugin.handleIpc call.method params) = .continue next

/-- The payload that comes out of some bindings, one after the other. -/
def payloadThrough (payload : P) (bs : List PluginBinding) : P :=
  Chain.through (self.verdict wireVersion invocationId) payload bs

/-- A `firstSuccess` binding answers `Continue` to the payload that comes out of the bindings
before it. -/
def WinsAfter (payload : P) (pre : List PluginBinding) (b : PluginBinding) : Prop :=
  b.policy = .firstSuccess ∧
    self.AnswersContinue wireVersion invocationId b
      (self.payloadThrough wireVersion invocationId payload pre)

variable {self slot wireVersion invocationId}

/-- A binding wins its phase exactly when it is a `firstSuccess` binding that continues. -/
lemma verdict_won_iff {b : PluginBinding} {payload : P} :
    (∃ next, self.verdict wireVersion invocationId b payload = .won next) ↔
      b.policy = .firstSuccess ∧ self.AnswersContinue wireVersion invocationId b payload := by
  unfold verdict AnswersContinue phaseVerdict
  cases hplugin : self.plugins[b.pluginId]? with
  | none => simp
  | some plugin =>
    cases hparams : ((phaseCallOf b wireVersion invocationId).context payload).toValue with
    | error message => simp [hparams]
    | ok params => simp [policyVerdict_eq_won, hparams]

/-- A finished phase calls the plugins of its plan up to the first binding that wins, one call
for each binding. -/
lemma calls_of_finished {phase : SlotPhase} {payload final : P} {handled : Bool}
    (hrun : Chain.run (self.verdict wireVersion invocationId)
      (self.registry.bindingsFor slot phase) false payload = .finished handled final)
    (observer : SlotObserver) :
    ∃ reached rest, CutBehind (self.WinsAfter wireVersion invocationId payload)
        (self.registry.bindingsFor slot phase) reached rest ∧
      (calls (self.runSlotPhaseObserved slot wireVersion invocationId observer phase
        payload).log).map IpcCall.pluginId = reached.map PluginBinding.pluginId := by
  obtain ⟨rest, hrest⟩ := (Chain.visits_isPrefix (self.verdict wireVersion invocationId)
    (self.registry.bindingsFor slot phase) payload).1
  have hcut := Chain.cutBehind_visits _ hrun hrest.symm
  simp only [verdict_won_iff] at hcut
  refine ⟨_, rest, hcut, ?_⟩
  rw [(self.runSlotPhaseObserved_spec slot wireVersion invocationId observer phase payload).2,
    flatMap_visitCalls (served_of_finished hrun), List.map_map, List.map_map, List.map_map]
  exact List.map_congr_left fun v _ => by simp [SlotCall.ipcCall]

/-- Each observer of a phase that ends without a halt or a failure is called exactly once when its
plugin has exactly one binding up to the first `firstSuccess` binding that answers `Continue`, and
only then. -/
theorem everyObserverCalled_iff (slot : Slot) (wireVersion : UInt32)
    (invocationId : String) (observer : SlotObserver) (phase : SlotPhase) (payload final : P)
    (hrun : (self.runSlotPhaseObserved slot wireVersion invocationId observer phase
        payload).result = .ok (.unhandled final) ∨
      (self.runSlotPhaseObserved slot wireVersion invocationId observer phase
        payload).result = .ok (.handled final)) :
    self.EveryObserverCalled slot phase
        (self.runSlotPhaseObserved slot wireVersion invocationId observer phase payload) ↔
      ∃ reached rest, CutBehind (self.WinsAfter wireVersion invocationId payload)
          (self.registry.bindingsFor slot phase) reached rest ∧
        ∀ b ∈ self.registry.bindingsFor slot phase, Observes b.policy →
          (reached.map PluginBinding.pluginId).count b.pluginId = 1 := by
  have hspec := (self.runSlotPhaseObserved_spec slot wireVersion invocationId observer phase
    payload).1
  obtain ⟨handled, hfinished⟩ := finished_of_phaseResult (hspec ▸ hrun)
  obtain ⟨reached, rest, hcut, hcalls⟩ := calls_of_finished hfinished observer
  rw [EveryObserverCalled, hcalls]
  constructor
  · intro honce
    exact ⟨reached, rest, hcut, honce⟩
  · rintro ⟨reached', rest', hcut', honce⟩
    rw [hcut.unique hcut'] at honce
    exact honce

end LoadedPluginRegistry

/-- A resolver under `firstSuccess`, planned before an observer under `broadcast`. -/
def resolvedBefore (answer : Option (HostResult Value)) : LoadedPluginRegistry :=
  .load [(manifestFor "resolver" 0 "deeplink.resolve" [.exec] .firstSuccess,
      constantPlugin "resolver" answer),
    (manifestFor "watcher" 1 "deeplink.resolve" [.exec] .broadcast, constantPlugin "watcher" none)]

theorem everyObserverCalled_iff_skipped :
    let r := resolvedBefore (continueWith (.string "target"))
    r.EveryObserverCalled ⟨"deeplink.resolve"⟩ .exec
        (r.runSlotPhaseObserved ⟨"deeplink.resolve"⟩ 1 "inv" .null .exec Value.null) ↔
      ∃ reached rest, CutBehind (r.WinsAfter 1 "inv" Value.null)
          (r.registry.bindingsFor ⟨"deeplink.resolve"⟩ .exec) reached rest ∧
        ∀ b ∈ r.registry.bindingsFor ⟨"deeplink.resolve"⟩ .exec, Observes b.policy →
          (reached.map PluginBinding.pluginId).count b.pluginId = 1 :=
  LoadedPluginRegistry.everyObserverCalled_iff ⟨"deeplink.resolve"⟩ 1 "inv" .null .exec Value.null
    (.string "target") (Or.inr rfl)

/-- A resolver that wins the phase keeps the observer after it from being called. -/
theorem observer_skipped :
    let r := resolvedBefore (continueWith (.string "target"))
    let run := r.runSlotPhaseObserved ⟨"deeplink.resolve"⟩ 1 "inv" .null .exec Value.null
    r.Reachable ∧ run.result = .ok (.handled (.string "target")) ∧
    (∃ o ∈ r.registry.bindingsFor ⟨"deeplink.resolve"⟩ .exec, o.policy = .broadcast ∧
      ((calls run.log).map IpcCall.pluginId).count o.pluginId = 0) ∧
    ¬r.EveryObserverCalled ⟨"deeplink.resolve"⟩ .exec run := by
  intro r run
  have hplan : r.registry.bindingsFor ⟨"deeplink.resolve"⟩ .exec =
      [⟨"resolver", 0, ⟨"deeplink.resolve"⟩, .exec, .firstSuccess⟩,
        ⟨"watcher", 1, ⟨"deeplink.resolve"⟩, .exec, .broadcast⟩] := by decide
  have hcalls : (calls run.log).map IpcCall.pluginId = ["resolver"] := rfl
  refine ⟨LoadedPluginRegistry.reachable_load _, rfl, ?_, fun hall => ?_⟩
  · rw [hplan, hcalls]
    exact ⟨_, List.mem_cons_of_mem _ List.mem_cons_self, rfl, rfl⟩
  · have hwatcher : (⟨"watcher", 1, ⟨"deeplink.resolve"⟩, .exec, .broadcast⟩ : PluginBinding) ∈
        r.registry.bindingsFor ⟨"deeplink.resolve"⟩ .exec := by
      rw [hplan]
      exact List.mem_cons_of_mem _ List.mem_cons_self
    have honce := hall _ hwatcher (Or.inl rfl)
    rw [hcalls] at honce
    exact absurd honce (by decide)

end Pingling.HostRuntime
