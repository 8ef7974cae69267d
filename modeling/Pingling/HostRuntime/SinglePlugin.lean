import Pingling.HostRuntime.PolicyChain

/-!
# A plugin that runs alone

The runner of a single plugin asks it in every phase, as a pipeline. It is a flat chain, and
the same run as that of a registry in which only this plugin is bound to the slot.
-/

namespace Pingling.HostContract
open Lib Std

/-- The only slot binding of a manifest is a pipeline over every phase of the slot. -/
def PluginManifest.BoundThroughout (manifest : PluginManifest) (slot : Slot) : Prop :=
  ∃ phases, manifest.slots = [⟨slot, phases, .pipeline⟩] ∧ ∀ phase, phase ∈ phases

namespace PluginRegistry

lemma manifests_of_single {m : PluginManifest} (h : new.checkManifest m = .ok ()) :
    (new.register m).2.manifests = [m] := by
  have hwf := wellFormed_new.register m
  have hcompatible := ((checkManifest_eq_ok wellFormed_new.keyed).mp h).2
  have hnodup : (new.register m).2.manifests.Nodup := by
    apply hwf.manifests_pairwise_lt.imp
    rintro m₁ m' hlt rfl
    have hself : compare m₁.id m₁.id = .eq := ReflCmp.compare_self
    rw [hself] at hlt
    exact nomatch hlt
  have hmem : ∀ m', m' ∈ (new.register m).2.manifests ↔ m' ∈ [m] := by
    intro m'
    have hnone : ¬m' ∈ new.manifests := by simp [manifests, new]
    rw [register_of_ok h, mem_manifests_insert wellFormed_new.keyed
      (fun m₁ h₁ => (hcompatible m₁ h₁).id), List.mem_singleton]
    exact or_iff_left hnone
  exact List.perm_singleton.mp
    ((List.perm_ext_iff_of_nodup hnodup (List.nodup_singleton m)).mpr hmem)

/-- Alone in the registry, the plugin is the whole plan of every phase of its slot. -/
lemma bindingsFor_of_single {m : PluginManifest} {slot : Slot}
    (h : new.checkManifest m = .ok ()) (hbound : m.BoundThroughout slot) (phase : SlotPhase) :
    (new.register m).2.bindingsFor slot phase = [⟨m.id, m.priority, slot, phase, .pipeline⟩] := by
  obtain ⟨phases, hslots, hphases⟩ := hbound
  have hentry : m.slots.filterMap (m.bindingAt slot phase) =
      [⟨m.id, m.priority, slot, phase, .pipeline⟩] := by
    simp [hslots, PluginManifest.bindingAt, SlotBinding.containsPhase, hphases phase]
  have hperm := sortBy_perm bindingOrder
    ((new.register m).2.manifests.flatMap (fun m => m.slots.filterMap (m.bindingAt slot phase)))
  rw [manifests_of_single h, List.flatMap_singleton, hentry] at hperm
  rw [bindingsFor, manifests_of_single h, List.flatMap_singleton, hentry]
  exact List.perm_singleton.mp hperm

end PluginRegistry

end Pingling.HostContract

namespace Pingling.HostRuntime
open Lib Std HostContract

section

variable {P : Type} [SlotPayload P] (pluginId : String) (plugin : Plugin) (slot : Slot)
  (wireVersion : UInt32) (invocationId : String)

/-- What a plugin that runs alone makes of a payload in a phase. -/
def singleVerdict (phase : SlotPhase) (payload : P) : Chain.Verdict P HostFailure :=
  phaseVerdict plugin ⟨pluginId, slot, phase, .pipeline, wireVersion, invocationId⟩ payload

/-- The log of one phase of a plugin that runs alone. -/
def singleLog (observer : SlotObserver) (visit : SlotPhase × P) : List RuntimeEvent :=
  (runPluginPhase plugin ⟨pluginId, slot, visit.1, .pipeline, wireVersion, invocationId⟩ visit.2
    observer).log

lemma singleVerdict_ne_won (phase : SlotPhase) (payload next : P) :
    singleVerdict pluginId plugin slot wireVersion invocationId phase payload ≠ .won next := by
  intro hwon
  have hpolicy := firstSuccess_of_won hwon
  exact nomatch hpolicy

/-- The flat loop refines a chain with the phases as its links, and logs its visits. -/
theorem runSinglePluginPhases_trace (observer : SlotObserver) (phases : List SlotPhase)
    (payload : P) (handled : Bool) :
    (runSinglePluginPhases pluginId plugin slot wireVersion invocationId observer phases payload
        handled).result =
      chainResult (Chain.run (singleVerdict pluginId plugin slot wireVersion invocationId) phases
        handled payload) ∧
    (runSinglePluginPhases pluginId plugin slot wireVersion invocationId observer phases payload
        handled).log =
      (Chain.visits (singleVerdict pluginId plugin slot wireVersion invocationId) phases
        payload).flatMap (singleLog pluginId plugin slot wireVersion invocationId observer) := by
  induction phases generalizing payload handled with
  | nil => exact ⟨rfl, rfl⟩
  | cons phase phases ih =>
    have hresult := (runPluginPhase_spec plugin
      ⟨pluginId, slot, phase, .pipeline, wireVersion, invocationId⟩ payload observer).1
    rw [runSinglePluginPhases, Chain.run, Chain.visits, List.flatMap_cons, singleLog]
    have hverdict : singleVerdict pluginId plugin slot wireVersion invocationId phase payload =
        phaseVerdict plugin ⟨pluginId, slot, phase, .pipeline, wireVersion, invocationId⟩ payload :=
      rfl
    rw [hverdict]
    cases hv : phaseVerdict plugin ⟨pluginId, slot, phase, .pipeline, wireVersion, invocationId⟩
        payload with
    | won next => exact absurd hv (singleVerdict_ne_won pluginId plugin slot wireVersion
        invocationId phase payload next)
    | pass =>
      rw [hv] at hresult
      simp only [Traced.bind_of_ok hresult, ih, and_self]
    | observed =>
      rw [hv] at hresult
      simp only [Traced.bind_of_ok hresult, ih, and_self]
    | replaced next =>
      rw [hv] at hresult
      simp only [Traced.bind_of_ok hresult, ih, and_self]
    | halted final =>
      rw [hv] at hresult
      simp [Traced.bind_of_ok hresult, chainResult]
    | failed error =>
      rw [hv] at hresult
      simp [Traced.bind_of_error hresult, chainResult]

/-- The run ends at the first call that the plugin answers with an error, in this error. -/
lemma runSinglePluginSlotChainObserved_of_error {observer : SlotObserver} {initialPayload : P}
    {call : IpcCall} {failure : HostFailure}
    (hcall : call ∈ calls (runSinglePluginSlotChainObserved pluginId plugin slot wireVersion
      invocationId initialPayload observer).log)
    (hfails : plugin.handleIpc call.method call.params = some (.error failure)) :
    (runSinglePluginSlotChainObserved pluginId plugin slot wireVersion invocationId initialPayload
      observer).result = .error failure := by
  obtain ⟨hresult, hlog⟩ := runSinglePluginPhases_trace pluginId plugin slot wireVersion
    invocationId observer SlotPhase.order initialPayload false
  rw [runSinglePluginSlotChainObserved, hlog, calls, List.filterMap_flatMap,
    List.mem_flatMap] at hcall
  obtain ⟨visit, hvisit, hcall⟩ := hcall
  have hphase := (runPluginPhase_spec plugin
    ⟨pluginId, slot, visit.1, .pipeline, wireVersion, invocationId⟩ visit.2 observer).2
  have hcall' : call ∈ phaseCalls
      ⟨pluginId, slot, visit.1, .pipeline, wireVersion, invocationId⟩ visit.2 := by
    rw [← hphase]
    exact hcall
  have hverdict : singleVerdict pluginId plugin slot wireVersion invocationId visit.1 visit.2 =
      .failed failure := by
    unfold singleVerdict phaseVerdict
    unfold phaseCalls at hcall'
    cases hctx : (PhaseCall.context ⟨pluginId, slot, visit.1, .pipeline, wireVersion, invocationId⟩
        visit.2).toValue with
    | error message => simp [hctx] at hcall'
    | ok params =>
      simp only [hctx, List.mem_singleton] at hcall'
      subst hcall'
      simp only [hfails]
      rfl
  have hending : (singleVerdict pluginId plugin slot wireVersion invocationId visit.1
      visit.2).ending = some (.failed failure) := by
    rw [hverdict]
    rfl
  rw [runSinglePluginSlotChainObserved, hresult, Chain.run_eq_replay,
    (Chain.threaded_visits _ SlotPhase.order initialPayload).replay_ends hvisit hending]
  rfl

end

namespace LoadedPluginRegistry

variable {P : Type} [SlotPayload P]

/-- The first registration of all. -/
lemma register_single {m : PluginManifest} (hcheck : PluginRegistry.new.checkManifest m = .ok ())
    (plugin : Plugin) : new.register m plugin =
      (.ok (), ⟨(PluginRegistry.new.register m).2, new.plugins.insert m.id plugin⟩) := by
  rw [register, show new.registry = PluginRegistry.new from rfl,
    PluginRegistry.register_of_ok hcheck]

/-- The binding of a plugin that is bound throughout a slot. -/
def singleBinding (m : PluginManifest) (slot : Slot) (phase : SlotPhase) : PluginBinding :=
  ⟨m.id, m.priority, slot, phase, .pipeline⟩

section

variable {self : LoadedPluginRegistry} {m : PluginManifest} {plugin : Plugin}

lemma verdict_of_single (h : self.plugins[m.id]? = some plugin) (slot : Slot)
    (wireVersion : UInt32) (invocationId : String) :
    (fun phase => self.verdict (P := P) wireVersion invocationId (singleBinding m slot phase)) =
      singleVerdict m.id plugin slot wireVersion invocationId := by
  funext phase payload
  rw [verdict, singleBinding, h]
  rfl

lemma visitLog_of_single (h : self.plugins[m.id]? = some plugin) (slot : Slot)
    (wireVersion : UInt32) (invocationId : String) (observer : SlotObserver)
    (v : SlotPhase × P) :
    self.visitLog wireVersion invocationId observer (singleBinding m slot v.1, v.2) =
      singleLog m.id plugin slot wireVersion invocationId observer v := by
  rw [visitLog, singleBinding, h]
  rfl

end

/-- A registry that holds one plugin, bound throughout a slot, runs the slot as the plugin
would alone. -/
lemma runPhases_of_single {m : PluginManifest} {plugin : Plugin} {slot : Slot}
    (hcheck : PluginRegistry.new.checkManifest m = .ok ()) (hbound : m.BoundThroughout slot)
    (wireVersion : UInt32) (invocationId : String) (observer : SlotObserver)
    (phases : List SlotPhase) (payload : P) (handled : Bool) :
    (new.register m plugin).2.runPhases slot wireVersion invocationId observer phases payload
        handled =
      runSinglePluginPhases m.id plugin slot wireVersion invocationId observer phases payload
        handled := by
  have hplugin : (new.register m plugin).2.plugins[m.id]? = some plugin := by
    rw [register_single hcheck]
    exact ExtTreeMap.getElem?_insert_self
  have hplan : phases.map ((new.register m plugin).2.registry.bindingsFor slot) =
      (phases.map (singleBinding m slot)).map (fun b => [b]) := by
    rw [List.map_map]
    refine List.map_congr_left (fun phase _ => ?_)
    rw [register_single hcheck, PluginRegistry.bindingsFor_of_single hcheck hbound]
    rfl
  have hverdict := verdict_of_single (P := P) hplugin slot wireVersion invocationId
  have hwon : ∀ b ∈ phases.map (singleBinding m slot), ∀ p next : P,
      (new.register m plugin).2.verdict wireVersion invocationId b p ≠ .won next := by
    intro b hb p next
    obtain ⟨phase, -, rfl⟩ := List.mem_map.mp hb
    rw [congrFun (congrFun hverdict phase) p]
    exact singleVerdict_ne_won m.id plugin slot wireVersion invocationId phase p next
  obtain ⟨hresult, hlogged⟩ := (new.register m plugin).2.runPhases_trace slot wireVersion
    invocationId observer phases payload handled
  obtain ⟨hresult', hlogged'⟩ := runSinglePluginPhases_trace m.id plugin slot wireVersion
    invocationId observer phases payload handled
  obtain ⟨hrun, hvisits⟩ := Chain.runStages_singletons
    ((new.register m plugin).2.verdict wireVersion invocationId) hwon handled payload
  obtain ⟨hrun', hvisits'⟩ := Chain.run_map
    ((new.register m plugin).2.verdict wireVersion invocationId) (singleBinding m slot) phases
    handled payload
  rw [hplan, hrun, hrun', hverdict] at hresult
  rw [hplan, hvisits, hvisits', hverdict, List.flatMap_map] at hlogged
  apply Traced.ext
  · rw [hlogged, hlogged']
    exact List.flatMap_congr (fun v _ =>
      visitLog_of_single hplugin slot wireVersion invocationId observer v)
  · rw [hresult, hresult']

/-- The runner of a single plugin is the runner of a registry that holds only this plugin,
bound as a pipeline to every phase of the slot. -/
theorem runSinglePluginSlotChainObserved_eq {pluginId : String} (hid : IsToken pluginId)
    (plugin : Plugin) (slot : Slot) (wireVersion : UInt32) (invocationId : String)
    (initialPayload : P) (observer : SlotObserver) :
    (∃ m : PluginManifest, m.id = pluginId ∧ m.BoundThroughout slot ∧
      (new.register m plugin).1 = .ok ()) ∧
    ∀ m : PluginManifest, m.id = pluginId → m.BoundThroughout slot →
      (new.register m plugin).1 = .ok () →
      runSinglePluginSlotChainObserved pluginId plugin slot wireVersion invocationId
          initialPayload observer =
        (new.register m plugin).2.runSlotChainObserved slot wireVersion invocationId observer
          initialPayload := by
  constructor
  · let m := manifestFor pluginId 0 slot.value SlotPhase.order .pipeline
    have hvalid : m.Valid :=
      { id := hid
        methods := nofun
        needs := nofun
        hosts := nofun
        slots := by simp [m, manifestFor, SlotPhase.order]
        package := nofun }
    have hcheck : PluginRegistry.new.checkManifest m = .ok () :=
      (PluginRegistry.checkManifest_eq_ok PluginRegistry.wellFormed_new.keyed).mpr
        ⟨hvalid, by simp [PluginRegistry.manifests, PluginRegistry.new]⟩
    refine ⟨m, rfl, ⟨SlotPhase.order, rfl, fun phase => by cases phase <;> decide⟩, ?_⟩
    rw [register_single hcheck]
  · rintro m rfl hbound hregistered
    cases hcheck : PluginRegistry.new.checkManifest m with
    | error error =>
      rw [register, show new.registry = PluginRegistry.new from rfl,
        PluginRegistry.register_of_error hcheck] at hregistered
      cases hregistered
    | ok u =>
      exact (runPhases_of_single hcheck hbound wireVersion invocationId observer SlotPhase.order
        initialPayload false).symm

end LoadedPluginRegistry

theorem runSinglePluginSlotChainObserved_eq_watcher :
    let plugin := constantPlugin "watcher" (some (.error (.pluginError "boom")))
    (∃ m : PluginManifest, m.id = "watcher" ∧ m.BoundThroughout ⟨"vpn.connect"⟩ ∧
      (LoadedPluginRegistry.new.register m plugin).1 = .ok ()) ∧
    ∀ m : PluginManifest, m.id = "watcher" → m.BoundThroughout ⟨"vpn.connect"⟩ →
      (LoadedPluginRegistry.new.register m plugin).1 = .ok () →
      runSinglePluginSlotChainObserved "watcher" plugin ⟨"vpn.connect"⟩ 1 "inv" Value.null
          ⟨fun o => [o]⟩ =
        (LoadedPluginRegistry.new.register m plugin).2.runSlotChainObserved ⟨"vpn.connect"⟩ 1
          "inv" ⟨fun o => [o]⟩ Value.null :=
  LoadedPluginRegistry.runSinglePluginSlotChainObserved_eq (by decide)
    (constantPlugin "watcher" (some (.error (.pluginError "boom")))) ⟨"vpn.connect"⟩ 1 "inv"
    Value.null ⟨fun o => [o]⟩

end Pingling.HostRuntime
