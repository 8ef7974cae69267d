import Pingling.HostContract.Registration

/-!
# The passthrough host

The primitive host registers one plugin, which is bound to every slot that is known beforehand and
observes it with the lowest priority. Whatever plugins are registered after it, it comes last on
these slots, and no plugin gets one of them for itself.
-/

namespace Pingling.PrimitiveHost
open Lib HostContract

/-- The slots that are known beforehand. -/
def wellKnown : List String :=
  ["config.process", "deeplink.resolve", "auth.session", "vpn.connect", "vpn.disconnect",
    "plugin.load", "core.start", "core.stop", "profile.activate", "profile.persist",
    "daemon.startup", "daemon.shutdown", "outbound.select", "outbound.test_latency",
    "netwatch.event", "log.emit", "update.check", "config.validate", "config.transform",
    "runtime.command", "runtime.observe", "storage.lookup", "telemetry.observe"]

namespace PassthroughHost

def pluginId : String :=
  "pingling.primitive.passthrough"

/-- The binding to a slot. Where it is none, `manifest` panics. -/
def bind (slot : String) : HostResult SlotBinding := do
  let slot ← Slot.new slot
  SlotBinding.new slot SlotPhase.order .bestEffort

/-- The manifest of the passthrough plugin. -/
def manifest : HostResult PluginManifest := do
  let slots ← wellKnown.mapM bind
  return {
    id := pluginId
    priority := Int32.maxValue
    methods := []
    slots := slots
    needs := []
    allowedHosts := []
    package := none }

/-- A registry with the passthrough plugin alone. -/
def registry : HostResult PluginRegistry := do
  let manifest ← manifest
  match PluginRegistry.new.register manifest with
  | (.ok (), registry) => .ok registry
  | (.error e, _) => .error e

/-- The binding of the plugin to a slot in one phase. -/
def binding (slot : String) (phase : SlotPhase) : PluginBinding :=
  ⟨pluginId, Int32.maxValue, ⟨slot⟩, phase, .bestEffort⟩

/-- The manifest that `manifest` makes. -/
def accepted : PluginManifest where
  id := pluginId
  priority := Int32.maxValue
  methods := []
  slots := wellKnown.map fun slot => ⟨⟨slot⟩, SlotPhase.order, .bestEffort⟩
  needs := []
  allowedHosts := []
  package := none

lemma manifest_eq : manifest = .ok accepted := by
  rfl

lemma wellKnown_nodup : wellKnown.Nodup := by
  decide

lemma filterMap_one {α β : Type} [DecidableEq α] {xs : List α} (hnodup : xs.Nodup) {a : α}
    (ha : a ∈ xs) (b : β) : xs.filterMap (fun x => if x = a then some b else none) = [b] := by
  induction xs with
  | nil => exact absurd ha List.not_mem_nil
  | cons x xs ih =>
    obtain ⟨hx, hnodup⟩ := List.nodup_cons.mp hnodup
    by_cases heq : x = a
    · have hrest : xs.filterMap (fun x => if x = a then some b else none) = [] := by
        rw [List.filterMap_eq_nil_iff]
        intro y hy
        rw [if_neg]
        rintro rfl
        exact hx (heq ▸ hy)
      rw [List.filterMap_cons, if_pos heq, hrest]
    · rw [List.filterMap_cons, if_neg heq]
      exact ih hnodup ((List.mem_cons.mp ha).resolve_left fun h => heq h.symm)

/-- On a slot that is known beforehand the manifest has one binding for each phase. -/
lemma bindings_accepted {slot : String} (hslot : slot ∈ wellKnown) (phase : SlotPhase) :
    accepted.slots.filterMap (accepted.bindingAt ⟨slot⟩ phase) = [binding slot phase] := by
  have hphase : SlotPhase.order.contains phase = true := by
    cases phase <;> rfl
  rw [accepted, List.filterMap_map, ← filterMap_one wellKnown_nodup hslot (binding slot phase)]
  congr 1
  funext name
  rw [Function.comp_apply, PluginManifest.bindingAt, SlotBinding.containsPhase, hphase]
  by_cases hname : name = slot
  · simp [hname, binding]
  · simp [hname]

section

variable {primitive self : PluginRegistry}

/-- The only registration of the host succeeds. -/
lemma registry_eq (h : registry = .ok primitive) :
    PluginRegistry.new.checkManifest accepted = .ok () ∧
      primitive = ⟨PluginRegistry.new.plugins.insert accepted.id accepted⟩ := by
  rw [registry, manifest_eq] at h
  change (match PluginRegistry.new.register accepted with
    | (.ok (), registry) => Except.ok registry
    | (.error e, _) => .error e) = .ok primitive at h
  cases hcheck : PluginRegistry.new.checkManifest accepted with
  | ok u =>
    rw [PluginRegistry.register_of_ok hcheck] at h
    exact ⟨rfl, (Except.ok.inj h).symm⟩
  | error e =>
    rw [PluginRegistry.register_of_error hcheck] at h
    cases h

/-- Registering keeps the manifests that are there. -/
lemma mem_register (hwell : self.WellFormed) {m : PluginManifest} (hm : m ∈ self.manifests)
    (other : PluginManifest) : m ∈ (self.register other).2.manifests := by
  cases hcheck : self.checkManifest other with
  | error e =>
    rw [PluginRegistry.register_of_error hcheck]
    exact hm
  | ok u =>
    have hcompatible := ((PluginRegistry.checkManifest_eq_ok hwell.keyed).mp hcheck).2
    rw [PluginRegistry.register_of_ok hcheck]
    exact (PluginRegistry.mem_manifests_insert hwell.keyed
      (fun m' hm' => (hcompatible m' hm').id) m).mpr (Or.inr hm)

lemma kept (hprimitive : registry = .ok primitive)
    (h : Lib.Reachable (fun registry m => (PluginRegistry.register registry m).2) primitive self) :
    self.WellFormed ∧ accepted ∈ self.manifests := by
  obtain ⟨hcheck, rfl⟩ := registry_eq hprimitive
  have hnew := PluginRegistry.wellFormed_new
  obtain ⟨hvalid, hcompatible⟩ := (PluginRegistry.checkManifest_eq_ok hnew.keyed).mp hcheck
  have hmem := (PluginRegistry.mem_manifests_insert hnew.keyed
    (fun m' hm' => (hcompatible m' hm').id) accepted).mpr (Or.inl rfl)
  refine Lib.Reachable.invariant
    (P := fun registry => registry.WellFormed ∧ accepted ∈ registry.manifests)
    ⟨hnew.insert hvalid hcompatible, hmem⟩ (fun _ m _ hs => ?_) h
  exact ⟨hs.1.register m, mem_register hs.1 hs.2 m⟩

/-- Of the bindings of a manifest, those of a plugin are all or none. -/
lemma filter_bindings (m : PluginManifest) (slot : Slot) (phase : SlotPhase) :
    (m.slots.filterMap (m.bindingAt slot phase)).filter (fun b => b.pluginId = pluginId) =
      if m.id = pluginId then m.slots.filterMap (m.bindingAt slot phase) else [] := by
  have hid : ∀ b ∈ m.slots.filterMap (m.bindingAt slot phase), b.pluginId = m.id := by
    intro b hb
    obtain ⟨s, -, hs⟩ := List.mem_filterMap.mp hb
    obtain ⟨-, hs⟩ := Option.ite_none_right_eq_some.mp hs
    rw [← Option.some.inj hs]
  split_ifs with hown
  · exact List.filter_eq_self.mpr fun b hb => by simp [hid b hb, hown]
  · exact List.filter_eq_nil_iff.mpr fun b hb => by simp [hid b hb, hown]

/-- The plugin has exactly one binding to a slot that is known beforehand. -/
lemma filter_bindingsFor (hwell : self.WellFormed) (hmem : accepted ∈ self.manifests)
    {slot : String} (hslot : slot ∈ wellKnown) (phase : SlotPhase) :
    (self.bindingsFor ⟨slot⟩ phase).filter (fun b => b.pluginId = pluginId) =
      [binding slot phase] := by
  have hperm : (self.bindingsFor ⟨slot⟩ phase).Perm _ := sortBy_perm bindingOrder _
  obtain ⟨before, after, hsplit⟩ := List.append_of_mem hmem
  have hids : self.manifests.Pairwise (fun m m' => m.id ≠ m'.id) :=
    hwell.manifests_pairwise_lt.imp fun hlt heq => by
      rw [heq] at hlt
      exact absurd (hlt.symm.trans Std.ReflCmp.compare_self) (by decide)
  rw [hsplit, List.pairwise_append, List.pairwise_cons] at hids
  have hnone : ∀ ms : List PluginManifest, (∀ m ∈ ms, m.id ≠ pluginId) →
      (ms.flatMap fun m => m.slots.filterMap (m.bindingAt ⟨slot⟩ phase)).filter
        (fun b => b.pluginId = pluginId) = [] := by
    intro ms hms
    rw [List.filter_flatMap, List.flatMap_eq_nil_iff]
    intro m hm
    rw [filter_bindings, if_neg (hms m hm)]
  have hid : accepted.id = pluginId := rfl
  have hfilter := hperm.filter (fun b => b.pluginId = pluginId)
  rw [hsplit, List.flatMap_append, List.flatMap_cons, List.filter_append, List.filter_append,
    hnone before fun m hm => hids.2.2 m hm accepted List.mem_cons_self,
    hnone after fun m hm => (hids.2.1.1 m hm).symm, filter_bindings,
    if_pos hid, bindings_accepted hslot, List.append_nil, List.nil_append] at hfilter
  exact List.perm_singleton.mp hfilter

/-- What comes after a binding of lowest priority has that priority and another id. -/
lemma after_binding {slot : String} {phase : SlotPhase} {b : PluginBinding}
    (h : NotAfter bindingOrder (binding slot phase) b) (hid : b.pluginId ≠ pluginId) :
    b.priority = Int32.maxValue ∧ pluginId < b.pluginId := by
  rw [NotAfter, bindingOrder, compareLex, Ordering.isLE_then_iff_or] at h
  have hnotlt : compareOn PluginBinding.priority (binding slot phase) b ≠ .lt := by
    rw [compareOn, Ne, Std.compare_eq_lt]
    exact Std.not_lt.mpr (Int32.le_maxValue _)
  obtain ⟨hpriority, hle⟩ := h.resolve_left hnotlt
  refine ⟨(Std.LawfulEqOrd.eq_of_compare hpriority).symm, ?_⟩
  rw [compareOn, Ordering.isLE_iff_eq_lt_or_eq_eq] at hle
  rcases hle with hlt | heq
  · exact compareOfLessAndEq_eq_lt.mp hlt
  · exact absurd (Std.LawfulEqOrd.eq_of_compare heq).symm hid

/-- Whatever plugins are registered after it, the passthrough plugin is bound once to each phase
of each slot that is known beforehand, and only plugins of the same priority with greater ids come
after it. No plugin owns such a slot, and one that wants to is refused. -/
theorem passthrough_last (hprimitive : registry = .ok primitive)
    (h : Lib.Reachable (fun registry m => (PluginRegistry.register registry m).2) primitive self)
    {slot : String} (hslot : slot ∈ wellKnown) (phase : SlotPhase) :
    (∃ before after, self.bindingsFor ⟨slot⟩ phase = before ++ binding slot phase :: after ∧
      (∀ b ∈ before ++ after, b.pluginId ≠ pluginId) ∧
      ∀ b ∈ after, b.priority = Int32.maxValue ∧ pluginId < b.pluginId) ∧
    (∀ b ∈ self.bindingsFor ⟨slot⟩ phase, b.policy ≠ .singleOwner) ∧
    ∀ m : PluginManifest,
      (∃ b ∈ m.slots, b.name = ⟨slot⟩ ∧ phase ∈ b.phases ∧ b.policy = .singleOwner) →
        ∃ e, self.register m = (.error e, self) := by
  obtain ⟨hwell, hmem⟩ := kept hprimitive h
  have hfilter := filter_bindingsFor hwell hmem hslot phase
  have hphase : phase ∈ SlotPhase.order := by
    cases phase <;> decide
  have hown : ⟨⟨slot⟩, SlotPhase.order, .bestEffort⟩ ∈ accepted.slots :=
    List.mem_map_of_mem hslot
  refine ⟨?_, ?_, ?_⟩
  · have hbinding : binding slot phase ∈ self.bindingsFor ⟨slot⟩ phase := by
      have hmem := hfilter ▸ List.mem_singleton_self (binding slot phase)
      exact (List.mem_filter.mp hmem).1
    obtain ⟨before, after, hsplit⟩ := List.append_of_mem hbinding
    have hothers : ∀ b ∈ before ++ after, b.pluginId ≠ pluginId := by
      rw [hsplit, List.filter_append, List.filter_cons_of_pos (by simp [binding])] at hfilter
      have hlength := congrArg List.length hfilter
      rw [List.length_append, List.length_cons, List.length_singleton] at hlength
      have hnil : (before ++ after).filter (fun b => b.pluginId = pluginId) = [] := by
        rw [List.filter_append, ← List.length_eq_zero_iff, List.length_append]
        omega
      intro b hb
      simpa using List.filter_eq_nil_iff.mp hnil b hb
    refine ⟨before, after, hsplit, hothers, fun b hb => ?_⟩
    have hsorted := sortBy_pairwise bindingOrder (self.manifests.flatMap
      fun manifest => manifest.slots.filterMap (manifest.bindingAt ⟨slot⟩ phase))
    rw [← PluginRegistry.bindingsFor, hsplit, List.pairwise_append, List.pairwise_cons] at hsorted
    exact after_binding (hsorted.2.1.1 b hb) (hothers b (List.mem_append_right _ hb))
  · intro b hb
    obtain ⟨m, hm, s, hs, hsname, hsphase, rfl⟩ := PluginRegistry.mem_bindingsFor.mp hb
    by_cases heq : m = accepted
    · rw [heq] at hs
      obtain ⟨name, -, rfl⟩ := List.mem_map.mp hs
      exact SlotPolicy.noConfusion
    · exact ((hwell.compatible m hm accepted hmem heq).slots s hs _ hown hsname phase hsphase
        hphase).1
  · rintro m ⟨b, hb, hbname, hbphase, hpolicy⟩
    cases hcheck : self.checkManifest m with
    | error e => exact ⟨e, PluginRegistry.register_of_error hcheck⟩
    | ok u =>
      have hcompatible := ((PluginRegistry.checkManifest_eq_ok hwell.keyed).mp hcheck).2
      exact absurd hpolicy
        ((hcompatible accepted hmem).slots b hb _ hown hbname phase hbphase hphase).1

end

/-- A plugin of the lowest priority that follows the configuration. -/
def follower : PluginManifest :=
  manifestFor "zeta" Int32.maxValue "config.process" [.exec] .broadcast

/-- A plugin that wants the configuration for itself. -/
def owner : PluginManifest :=
  manifestFor "owner" 0 "config.process" [.exec] .singleOwner

/-- The follower is accepted and the owner refused. The passthrough plugin is bound, only followers
of its priority come after it, and the owner is refused again. -/
theorem passthrough_last_config :
    ∃ primitive self, registry = .ok primitive ∧
      self = ((primitive.register follower).2.register owner).2 ∧
      self.plugins.keys = [pluginId, follower.id] ∧
      (∃ before after, self.bindingsFor ⟨"config.process"⟩ .exec =
          before ++ binding "config.process" .exec :: after ∧
        (∀ b ∈ before ++ after, b.pluginId ≠ pluginId) ∧
        ∀ b ∈ after, b.priority = Int32.maxValue ∧ pluginId < b.pluginId) ∧
      ∃ e, self.register owner = (.error e, self) := by
  obtain ⟨primitive, hprimitive⟩ : ∃ primitive, registry = .ok primitive := ⟨_, rfl⟩
  have hkeys : ((primitive.register follower).2.register owner).2.plugins.keys =
      [pluginId, follower.id] := by
    cases hprimitive
    decide
  have hlast := passthrough_last hprimitive ((Lib.Reachable.init.step follower).step owner)
    (by decide : "config.process" ∈ wellKnown) .exec
  exact ⟨primitive, _, hprimitive, rfl, hkeys, hlast.1,
    hlast.2.2 owner ⟨_, List.mem_singleton_self _, rfl, by decide, rfl⟩⟩

end PassthroughHost
end Pingling.PrimitiveHost
