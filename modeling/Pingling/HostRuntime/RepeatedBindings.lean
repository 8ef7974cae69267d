import Pingling.HostRuntime.SlotChain

/-!
# Plugins that a phase calls twice

Validation accepts a manifest that lists a slot phase in several entries, and each entry
becomes a binding. `calledOnce_iff` says that such entries are the only way for a phase to
call a plugin twice.
-/

namespace Pingling.HostContract
open Lib Std

/-- The entries of a manifest that cover a slot phase. -/
def PluginManifest.entriesAt (manifest : PluginManifest) (slot : Slot) (phase : SlotPhase) :
    List SlotBinding :=
  manifest.slots.filter (fun entry => entry.name = slot && entry.containsPhase phase)

namespace PluginRegistry

/-- No registered manifest has two entries for one slot phase. -/
def SingleEntries (self : PluginRegistry) (slot : Slot) (phase : SlotPhase) : Prop :=
  ∀ m ∈ self.manifests, (m.entriesAt slot phase).length ≤ 1

instance (self : PluginRegistry) (slot : Slot) (phase : SlotPhase) :
    Decidable (self.SingleEntries slot phase) :=
  inferInstanceAs (Decidable (∀ m ∈ self.manifests, _))

/-- Each entry of a manifest for a slot phase is one binding of its plugin. -/
lemma map_pluginId_bindingAt (m : PluginManifest) (slot : Slot) (phase : SlotPhase) :
    (m.slots.filterMap (m.bindingAt slot phase)).map PluginBinding.pluginId =
      List.replicate (m.entriesAt slot phase).length m.id := by
  rw [PluginManifest.entriesAt]
  induction m.slots with
  | nil => rfl
  | cons entry entries ih =>
    rw [List.filterMap_cons, List.filter_cons, PluginManifest.bindingAt]
    by_cases hcovers : (entry.name = slot && entry.containsPhase phase) = true
    · rw [if_pos hcovers, if_pos hcovers, List.length_cons, List.replicate_succ, ← ih]
      rfl
    · rw [if_neg hcovers, if_neg hcovers]
      exact ih

/-- The plan of a phase repeats a plugin exactly when a manifest repeats the slot phase. -/
theorem WellFormed.nodup_bindingsFor_iff {self : PluginRegistry} (h : self.WellFormed)
    (slot : Slot) (phase : SlotPhase) :
    ((self.bindingsFor slot phase).map PluginBinding.pluginId).Nodup ↔
      self.SingleEntries slot phase := by
  have hperm := (sortBy_perm bindingOrder (self.manifests.flatMap
    (fun m => m.slots.filterMap (m.bindingAt slot phase)))).map PluginBinding.pluginId
  have hids : (self.manifests.flatMap (fun m => m.slots.filterMap (m.bindingAt slot phase))).map
      PluginBinding.pluginId =
      self.manifests.flatMap
        (fun m => List.replicate (m.entriesAt slot phase).length m.id) := by
    rw [List.map_flatMap]
    exact List.flatMap_congr (fun m _ => map_pluginId_bindingAt m slot phase)
  have hdisjoint : self.manifests.Pairwise (fun m m' =>
      (List.replicate (m.entriesAt slot phase).length m.id).Disjoint
        (List.replicate (m'.entriesAt slot phase).length m'.id)) := by
    apply h.manifests_pairwise_lt.imp
    intro m m' hlt
    rw [List.disjoint_left]
    intro id hid hid'
    rw [List.eq_of_mem_replicate hid] at hid'
    have hself : compare m'.id m'.id = .eq := ReflCmp.compare_self
    rw [List.eq_of_mem_replicate hid', hself] at hlt
    exact nomatch hlt
  rw [bindingsFor, hperm.nodup_iff, hids, List.nodup_flatMap]
  simp only [List.nodup_replicate]
  exact and_iff_left hdisjoint

end PluginRegistry

end Pingling.HostContract

namespace Pingling.HostRuntime
open Lib Std HostContract

namespace LoadedPluginRegistry

variable {P : Type} [SlotPayload P] {self : LoadedPluginRegistry}

/-- A phase calls no plugin more often than its plan lists it. -/
lemma calls_sublist_bindingsFor (self : LoadedPluginRegistry) (slot : Slot) (wireVersion : UInt32)
    (invocationId : String) (observer : SlotObserver) (phase : SlotPhase) (payload : P) :
    ((calls (self.runSlotPhaseObserved slot wireVersion invocationId observer phase
        payload).log).map IpcCall.pluginId).Sublist
      ((self.registry.bindingsFor slot phase).map PluginBinding.pluginId) := by
  rw [(self.runSlotPhaseObserved_spec slot wireVersion invocationId observer phase payload).2]
  have hreached := (Chain.visits_isPrefix (self.verdict wireVersion invocationId)
    (self.registry.bindingsFor slot phase) payload).1.sublist.map PluginBinding.pluginId
  have hcalls : ∀ vs : List (PluginBinding × P),
      ((vs.flatMap (self.visitCalls wireVersion invocationId)).map IpcCall.pluginId).Sublist
        ((vs.map Prod.fst).map PluginBinding.pluginId) := by
    intro vs
    induction vs with
    | nil => exact List.Sublist.slnil
    | cons v vs ih =>
      have hvisit : ((self.visitCalls wireVersion invocationId v).map IpcCall.pluginId).Sublist
          [v.1.pluginId] := by
        unfold visitCalls phaseCalls
        cases self.plugins[v.1.pluginId]? with
        | none => exact List.nil_sublist _
        | some plugin =>
          cases ((phaseCallOf v.1 wireVersion invocationId).context v.2).toValue with
          | error message => exact List.nil_sublist _
          | ok params => exact List.Sublist.refl _
      rw [List.flatMap_cons, List.map_append]
      exact hvisit.append ih
  exact (hcalls _).trans hreached

/-- Every index that registration leads to can be loaded with one plugin throughout. -/
lemma exists_loaded_with {index : PluginRegistry} (h : index.Reachable) (plugin : Plugin) :
    ∃ runtime : LoadedPluginRegistry, runtime.Reachable ∧ runtime.registry = index ∧
      ∀ (id : String) (loaded : Plugin), runtime.plugins[id]? = some loaded → loaded = plugin := by
  induction h with
  | init =>
    refine ⟨new, Lib.Reachable.init, rfl, fun id loaded hloaded => ?_⟩
    simp [new] at hloaded
  | @step index m h ih =>
    obtain ⟨runtime, hruntime, hindex, hplugins⟩ := ih
    refine ⟨(runtime.register m plugin).2, hruntime.step (m, plugin), ?_⟩
    cases hcheck : index.checkManifest m with
    | error error =>
      rw [register, hindex, PluginRegistry.register_of_error hcheck]
      exact ⟨rfl, hplugins⟩
    | ok u =>
      rw [register, hindex, PluginRegistry.register_of_ok hcheck]
      refine ⟨rfl, fun id loaded hloaded => ?_⟩
      simp only [ExtTreeMap.getElem?_insert, LawfulEqCmp.compare_eq_iff_eq] at hloaded
      by_cases hid : m.id = id
      · rw [if_pos hid, Option.some.injEq] at hloaded
        exact hloaded.symm
      · rw [if_neg hid] at hloaded
        exact hplugins id loaded hloaded

/-- Plugins that answer nothing are called once for each binding of the plan. -/
lemma calls_of_silent (h : self.Reachable)
    (hsilent : ∀ (id : String) (plugin : Plugin), self.plugins[id]? = some plugin →
      plugin.handleIpc = fun _ _ => none)
    (slot : Slot) (wireVersion : UInt32) (invocationId : String) (observer : SlotObserver)
    (phase : SlotPhase) {payload : P}
    (hserialises : ∃ json, SlotPayload.toValue payload = .ok json) :
    (calls (self.runSlotPhaseObserved slot wireVersion invocationId observer phase
        payload).log).map IpcCall.pluginId =
      (self.registry.bindingsFor slot phase).map PluginBinding.pluginId := by
  have hserved : ∀ b ∈ self.registry.bindingsFor slot phase,
      self.Served wireVersion invocationId (b, payload) :=
    fun b hb => h.wellFormed.served hb hserialises
  have hpass : ∀ b ∈ self.registry.bindingsFor slot phase,
      self.verdict wireVersion invocationId b payload = .pass := by
    intro b hb
    obtain ⟨⟨plugin, hplugin⟩, params, hparams⟩ := hserved b hb
    simp only [verdict, hplugin, phaseVerdict, hparams, hsilent _ plugin hplugin, readAnswer,
      policyVerdict]
  rw [(self.runSlotPhaseObserved_spec slot wireVersion invocationId observer phase payload).2,
    Chain.visits_of_pass _ hpass, flatMap_visitCalls, List.map_map, List.map_map, List.map_map]
  · exact List.map_congr_left (fun b _ => by simp [SlotCall.ipcCall])
  · intro v hv
    obtain ⟨b, hb, rfl⟩ := List.mem_map.mp hv
    exact hserved b hb

/-- A phase calls no plugin twice, whatever the plugins do, exactly when no registered manifest
has two entries for that slot phase. -/
theorem calledOnce_iff {index : PluginRegistry} (h : index.Reachable) (slot : Slot)
    (phase : SlotPhase) (hserialises : ∃ (payload : P) (json : Value),
      SlotPayload.toValue payload = .ok json) :
    (((index.bindingsFor slot phase).map PluginBinding.pluginId).Nodup ↔
      index.SingleEntries slot phase) ∧
    ((∀ runtime : LoadedPluginRegistry, runtime.Reachable → runtime.registry = index →
      ∀ (wireVersion : UInt32) (invocationId : String) (observer : SlotObserver) (payload : P),
        ((calls (runtime.runSlotPhaseObserved slot wireVersion invocationId observer phase
          payload).log).map IpcCall.pluginId).Nodup) ↔
      index.SingleEntries slot phase) := by
  have hplan := h.wellFormed.nodup_bindingsFor_iff slot phase
  refine ⟨hplan, fun honce => ?_, fun hsingle runtime _ hindex wireVersion invocationId observer
    payload => ?_⟩
  · obtain ⟨payload, hpayload⟩ := hserialises
    obtain ⟨runtime, hruntime, hindex, hplugins⟩ :=
      exists_loaded_with h (constantPlugin "silent" none)
    have hsilent : ∀ (id : String) (plugin : Plugin), runtime.plugins[id]? = some plugin →
        plugin.handleIpc = fun _ _ => none := by
      intro id plugin hplugin
      rw [hplugins id plugin hplugin]
      rfl
    have hcalls := honce runtime hruntime hindex 1 "" .null payload
    rw [calls_of_silent hruntime hsilent slot 1 "" .null phase hpayload, hindex] at hcalls
    exact hplan.mp hcalls
  · have hsublist := runtime.calls_sublist_bindingsFor slot wireVersion invocationId observer phase
      payload
    rw [hindex] at hsublist
    exact (hplan.mpr hsingle).sublist hsublist

end LoadedPluginRegistry

/-- A plugin that wraps every payload in a list. -/
def wrapPlugin (name : String) : Plugin :=
  ⟨name, fun _ params => continueWith (.array [params.field "payload"])⟩

def repeatedManifest : PluginManifest :=
  ⟨"wrapper", 0, [], [⟨⟨"vpn.connect"⟩, [.exec], .pipeline⟩, ⟨⟨"vpn.connect"⟩, [.exec], .pipeline⟩],
    [], [], none⟩

def repeatedRuntime : LoadedPluginRegistry :=
  .load [(repeatedManifest, wrapPlugin "wrapper")]

theorem calledOnce_iff_resolver :
    (((resolverRuntime.registry.bindingsFor ⟨"config.process"⟩ .exec).map
        PluginBinding.pluginId).Nodup ↔
      resolverRuntime.registry.SingleEntries ⟨"config.process"⟩ .exec) ∧
    ((∀ runtime : LoadedPluginRegistry, runtime.Reachable →
      runtime.registry = resolverRuntime.registry →
      ∀ (wireVersion : UInt32) (invocationId : String) (observer : SlotObserver) (payload : Value),
        ((calls (runtime.runSlotPhaseObserved ⟨"config.process"⟩ wireVersion invocationId observer
          .exec payload).log).map IpcCall.pluginId).Nodup) ↔
      resolverRuntime.registry.SingleEntries ⟨"config.process"⟩ .exec) :=
  LoadedPluginRegistry.calledOnce_iff
    (Lib.Reachable.init.step (manifestFor "resolver" 0 "config.process" [.exec] .pipeline))
    ⟨"config.process"⟩ .exec ⟨Value.null, Value.null, rfl⟩

/-- The transform of a plugin with two equal entries is applied to its own output. -/
theorem transform_applied_twice :
    let run := repeatedRuntime.runSlotPhaseObserved ⟨"vpn.connect"⟩ 1 "inv" .null .exec Value.null
    repeatedRuntime.Reachable ∧
    (calls run.log).map IpcCall.pluginId = ["wrapper", "wrapper"] ∧
    run.result = .ok (.handled (.array [.array [.null]])) ∧
    ¬((repeatedRuntime.registry.bindingsFor ⟨"vpn.connect"⟩ .exec).map
      PluginBinding.pluginId).Nodup := by
  refine ⟨LoadedPluginRegistry.reachable_load _, rfl, rfl, by decide⟩

end Pingling.HostRuntime
