import Pingling.HostRuntime.PolicyChain

/-!
# Method dispatch

`dispatchMethod` asks the plugins that have a pattern for the method, by priority and id,
until one of them answers.
-/

namespace Pingling.HostContract
open Lib Std

/-- A pattern is the method itself, or `front.*` for the method `front` and all below it. -/
def PatternMatches (pattern method : String) : Prop :=
  (Text.endsWith ".*" pattern = false ∧ method = pattern) ∨
    ∃ front, pattern = front ++ ".*" ∧
      (method = front ∨ ∃ rest, method = front ++ "." ++ rest)

theorem methodMatches_iff {pattern method : String} :
    methodMatches pattern method = true ↔ PatternMatches pattern method := by
  unfold methodMatches PatternMatches
  cases hfront : Text.stripSuffix ".*" pattern with
  | none =>
    have hends := Text.stripSuffix_eq_none.mp hfront
    have hno : ∀ front, pattern ≠ front ++ ".*" := by
      intro front heq
      rw [Text.stripSuffix_eq_some.mpr heq] at hfront
      exact nomatch hfront
    constructor
    · intro h
      exact Or.inl ⟨hends, (beq_iff_eq.mp h).symm⟩
    · rintro (⟨-, rfl⟩ | ⟨front, hpattern, -⟩)
      · exact beq_self_eq_true _
      · exact absurd hpattern (hno front)
  | some front =>
    have hpattern := Text.stripSuffix_eq_some.mp hfront
    have hends : Text.endsWith ".*" pattern = true := Text.endsWith_iff.mpr ⟨front, hpattern⟩
    simp only [Bool.or_eq_true, beq_iff_eq, Text.startsWith_iff]
    constructor
    · intro h
      exact Or.inr ⟨front, hpattern, h⟩
    · rintro (⟨hnot, -⟩ | ⟨front', hpattern', h⟩)
      · rw [hends] at hnot
        exact nomatch hnot
      · rw [Text.stripSuffix_eq_some.mpr hpattern', Option.some.injEq] at hfront
        rw [← hfront]
        exact h

/-- A manifest has a pattern for the method. -/
def PluginManifest.Serves (manifest : PluginManifest) (method : String) : Prop :=
  ∃ pattern ∈ manifest.dispatchMethods, PatternMatches pattern method

/-- Lower priority first, then plugin id. -/
def DispatchedBefore (m m' : PluginManifest) : Prop :=
  m.priority < m'.priority ∨ m.priority = m'.priority ∧ m.id < m'.id

namespace PluginManifest

lemma methodBinding_isSome {manifest : PluginManifest} {method : String} :
    (∃ b, manifest.methodBinding method = some b) ↔ manifest.Serves method := by
  rw [← Option.isSome_iff_exists, methodBinding, Option.isSome_map, maxBy_isSome]
  simp only [List.mem_filter, methodMatches_iff, Serves]

lemma methodBinding_eq_some {manifest : PluginManifest} {method : String} {b : MethodBinding}
    (h : manifest.methodBinding method = some b) :
    b.pluginId = manifest.id ∧ b.priority = manifest.priority := by
  rw [methodBinding, Option.map_eq_some_iff] at h
  obtain ⟨pattern, -, rfl⟩ := h
  exact ⟨rfl, rfl⟩

end PluginManifest

namespace PluginRegistry

variable {self : PluginRegistry}

lemma mem_methodBindings {method : String} {b : MethodBinding} :
    b ∈ self.methodBindings method ↔ ∃ m ∈ self.manifests, m.methodBinding method = some b := by
  rw [methodBindings, mem_sortBy, List.mem_filterMap]

/-- No two method bindings tie, so their order is strict. -/
lemma WellFormed.methodBindings_pairwise (h : self.WellFormed) (method : String) :
    (self.methodBindings method).Pairwise (fun b b' => b.priority < b'.priority ∨
      b.priority = b'.priority ∧ b.pluginId < b'.pluginId) := by
  have hids : (self.manifests.filterMap (·.methodBinding method)).Pairwise
      (fun b b' => b.pluginId ≠ b'.pluginId) := by
    refine List.Pairwise.filterMap _ (fun m m' hlt b hb b' hb' => ?_) h.manifests_pairwise_lt
    rw [(PluginManifest.methodBinding_eq_some hb).1, (PluginManifest.methodBinding_eq_some hb').1]
    intro heq
    rw [heq, compare_self] at hlt
    exact nomatch hlt
  have hdistinct : (self.methodBindings method).Pairwise (fun b b' => b.pluginId ≠ b'.pluginId) :=
    ((sortBy_perm methodBindingOrder _).pairwise_iff Ne.symm).mpr hids
  refine (hdistinct.and (sortBy_pairwise methodBindingOrder _)).imp ?_
  rintro b b' ⟨hne, hle⟩
  simp only [NotAfter, methodBindingOrder, compareLex, compareOn] at hle
  cases hpriority : compare b.priority b'.priority with
  | lt => exact Or.inl (compare_eq_lt.mp hpriority)
  | gt => simp [hpriority] at hle
  | eq =>
    refine Or.inr ⟨LawfulEqCmp.compare_eq_iff_eq.mp hpriority, ?_⟩
    cases hid : compare b.pluginId b'.pluginId with
    | lt => exact compare_lt_iff_lt.mp hid
    | gt => simp [hpriority, hid] at hle
    | eq => exact absurd (LawfulEqCmp.compare_eq_iff_eq.mp hid) hne

end PluginRegistry

end Pingling.HostContract

namespace Pingling.HostRuntime
open Lib Std HostContract

namespace LoadedPluginRegistry

variable {self : LoadedPluginRegistry}

/-- The manifest and the plugin of a binding. -/
def bound (self : LoadedPluginRegistry) (b : MethodBinding) : Option (PluginManifest × Plugin) := do
  let manifest ← self.registry.get b.pluginId
  let plugin ← self.plugins[b.pluginId]?
  some (manifest, plugin)

/-- The manifests and plugins with a pattern for the method, in the order they are asked. -/
def matching (self : LoadedPluginRegistry) (method : String) : List (PluginManifest × Plugin) :=
  (self.registry.methodBindings method).filterMap self.bound

/-- The calls of some plugins with one method. -/
def callAll (method : String) (params : Value) (asked : List (PluginManifest × Plugin)) :
    List IpcCall :=
  asked.map (fun q => ⟨q.1.id, method, params⟩)

/-- What dispatching a method does, by the plugins that match it: they are the plugins with a
pattern for the method, by priority and id; they are called up to the first one that
answers, and the result is its answer. -/
structure DispatchSemantics (runtime : LoadedPluginRegistry) (method : String) (params : Value)
    (matched : List (PluginManifest × Plugin)) : Prop where
  matching : ∀ m plugin, (m, plugin) ∈ matched ↔ m ∈ runtime.registry.manifests ∧
    runtime.plugins[m.id]? = some plugin ∧ m.Serves method
  ordered : matched.Pairwise (fun q q' => DispatchedBefore q.1 q'.1)
  asked : (runtime.dispatchMethod method params = (callAll method params matched, none) ∧
      ∀ q ∈ matched, q.2.handleIpc method params = none) ∨
    ∃ before last rest answer, matched = before ++ last :: rest ∧
      (∀ q ∈ before, q.2.handleIpc method params = none) ∧
      last.2.handleIpc method params = some answer ∧
      runtime.dispatchMethod method params =
        (callAll method params (before ++ [last]), some answer)
  unanswered : (runtime.dispatchMethod method params).2 = none ↔
    ∀ q ∈ matched, q.2.handleIpc method params = none

lemma WellFormed.bound_eq_some (h : self.WellFormed) {method : String} {b : MethodBinding}
    (hb : b ∈ self.registry.methodBindings method) :
    ∃ m plugin, self.bound b = some (m, plugin) ∧ m ∈ self.registry.manifests ∧
      self.plugins[m.id]? = some plugin ∧ m.methodBinding method = some b := by
  obtain ⟨m, hm, hbinding⟩ := PluginRegistry.mem_methodBindings.mp hb
  obtain ⟨plugin, hplugin⟩ := h.plugin_of_mem hm
  have hid := (PluginManifest.methodBinding_eq_some hbinding).1
  have hget : self.registry.get m.id = some m :=
    (PluginRegistry.mem_manifests h.registry.keyed).mp hm
  exact ⟨m, plugin, by simp [bound, hid, hget, hplugin], hm, hplugin, hbinding⟩

/-- The matching plugins are those with a pattern for the method. -/
lemma WellFormed.mem_matching (h : self.WellFormed) {method : String} {m : PluginManifest}
    {plugin : Plugin} :
    (m, plugin) ∈ self.matching method ↔
      m ∈ self.registry.manifests ∧ self.plugins[m.id]? = some plugin ∧ m.Serves method := by
  rw [matching, List.mem_filterMap]
  constructor
  · rintro ⟨b, hb, hbound⟩
    obtain ⟨m', plugin', hbound', hm', hplugin', hbinding⟩ := h.bound_eq_some hb
    rw [hbound', Option.some.injEq, Prod.mk.injEq] at hbound
    obtain ⟨rfl, rfl⟩ := hbound
    exact ⟨hm', hplugin', PluginManifest.methodBinding_isSome.mp ⟨b, hbinding⟩⟩
  · rintro ⟨hm, hplugin, hserves⟩
    obtain ⟨b, hbinding⟩ := PluginManifest.methodBinding_isSome.mpr hserves
    have hb := PluginRegistry.mem_methodBindings.mpr ⟨m, hm, hbinding⟩
    obtain ⟨m', plugin', hbound, hm', hplugin', hbinding'⟩ := h.bound_eq_some hb
    have hid : m'.id = m.id := by
      rw [← (PluginManifest.methodBinding_eq_some hbinding').1,
        (PluginManifest.methodBinding_eq_some hbinding).1]
    obtain rfl := h.registry.eq_of_id hm' hm hid
    rw [hplugin, Option.some.injEq] at hplugin'
    exact ⟨b, hb, hplugin' ▸ hbound⟩

lemma WellFormed.matching_pairwise (h : self.WellFormed) (method : String) :
    (self.matching method).Pairwise (fun q q' => DispatchedBefore q.1 q'.1) := by
  rw [matching, List.pairwise_filterMap]
  refine (h.registry.methodBindings_pairwise method).imp_of_mem (fun {b b'} hb hb' hlt => ?_)
  rintro q hq q' hq'
  obtain ⟨m, plugin, hbound, -, -, hbinding⟩ := h.bound_eq_some hb
  obtain ⟨m', plugin', hbound', -, -, hbinding'⟩ := h.bound_eq_some hb'
  rw [hbound, Option.some.injEq] at hq
  rw [hbound', Option.some.injEq] at hq'
  rw [← hq, ← hq', DispatchedBefore, ← (PluginManifest.methodBinding_eq_some hbinding).1,
    ← (PluginManifest.methodBinding_eq_some hbinding).2,
    ← (PluginManifest.methodBinding_eq_some hbinding').1,
    ← (PluginManifest.methodBinding_eq_some hbinding').2]
  exact hlt

/-- The loop calls the plugins of its bindings up to the first one that answers. -/
lemma dispatchMethodBindings_spec (method : String) (params : Value) {bs : List MethodBinding}
    (hbs : ∀ b ∈ bs, ∃ m plugin, self.bound b = some (m, plugin) ∧ m.id = b.pluginId ∧
      self.plugins[b.pluginId]? = some plugin) :
    (self.dispatchMethodBindings method params bs =
        (callAll method params (bs.filterMap self.bound), none) ∧
      ∀ q ∈ bs.filterMap self.bound, q.2.handleIpc method params = none) ∨
    ∃ before last rest answer, bs.filterMap self.bound = before ++ last :: rest ∧
      (∀ q ∈ before, q.2.handleIpc method params = none) ∧
      last.2.handleIpc method params = some answer ∧
      self.dispatchMethodBindings method params bs =
        (callAll method params (before ++ [last]), some answer) := by
  induction bs with
  | nil => exact Or.inl ⟨rfl, fun q hq => absurd hq List.not_mem_nil⟩
  | cons b bs ih =>
    have ih := ih (fun b' hb' => hbs b' (List.mem_cons_of_mem _ hb'))
    obtain ⟨m, plugin, hbound, hid, hplugin⟩ := hbs b List.mem_cons_self
    rw [List.filterMap_cons_some hbound]
    simp only [dispatchMethodBindings, hplugin]
    cases hanswer : plugin.handleIpc method params with
    | some answer =>
      refine Or.inr ⟨[], (m, plugin), _, answer, rfl, fun q hq => absurd hq List.not_mem_nil,
        hanswer, ?_⟩
      simp [callAll, hid]
    | none =>
      rcases ih with ⟨hrun, hnone⟩ | ⟨before, last, rest, answer, hsplit, hbefore, hlast, hrun⟩
      · left
        refine ⟨by simp [hrun, callAll, hid], fun q hq => ?_⟩
        rcases List.mem_cons.mp hq with rfl | hq
        · exact hanswer
        · exact hnone q hq
      · right
        refine ⟨(m, plugin) :: before, last, rest, answer, ?_, fun q hq => ?_, hlast, ?_⟩
        · rw [hsplit, List.cons_append]
        · rcases List.mem_cons.mp hq with rfl | hq
          · exact hanswer
          · exact hbefore q hq
        · simp [hrun, callAll, hid]

/-- Dispatch is exact and ordered. -/
theorem dispatchMethod_semantics (h : Reachable self) (method : String) (params : Value) :
    ∃ matched, self.DispatchSemantics method params matched := by
  have hwf := h.wellFormed
  have hbs : ∀ b ∈ self.registry.methodBindings method, ∃ m plugin,
      self.bound b = some (m, plugin) ∧ m.id = b.pluginId ∧
        self.plugins[b.pluginId]? = some plugin := by
    intro b hb
    obtain ⟨m, plugin, hbound, -, hplugin, hbinding⟩ := hwf.bound_eq_some hb
    have hid := (PluginManifest.methodBinding_eq_some hbinding).1
    exact ⟨m, plugin, hbound, hid.symm, hid ▸ hplugin⟩
  have hasked := dispatchMethodBindings_spec method params hbs
  refine ⟨self.matching method, fun m plugin => hwf.mem_matching, hwf.matching_pairwise method,
    hasked, ?_⟩
  rcases hasked with ⟨hrun, hnone⟩ | ⟨before, last, rest, answer, hsplit, -, hlast, hrun⟩
  · rw [dispatchMethod, hrun]
    exact iff_of_true rfl hnone
  · rw [dispatchMethod, hrun]
    refine iff_of_false (Option.some_ne_none answer) (fun hnone => ?_)
    have hmem : last ∈ self.matching method := by
      rw [matching, hsplit]
      exact List.mem_append_right _ List.mem_cons_self
    rw [hnone last hmem] at hlast
    exact nomatch hlast

end LoadedPluginRegistry

theorem dispatchMethod_semantics_identity :
    ∃ matched, (LoadedPluginRegistry.load
      [(⟨"identity", 100, ["identity.*"], [], [], [], none⟩,
        constantPlugin "identity" (some (.ok (.object [("ok", .bool true)]))))]).DispatchSemantics
      "identity.login" (.object [("token", .string "t")]) matched :=
  LoadedPluginRegistry.dispatchMethod_semantics (LoadedPluginRegistry.reachable_load _)
    "identity.login" (.object [("token", .string "t")])

end Pingling.HostRuntime
