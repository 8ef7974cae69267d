import Pingling.Cores.CoreRegistry

/-!
# Whether the active core could be selected

Selecting a core asks that it is available. Registering one does not: the first core
becomes active as it is, and a later registration or a linked binary replaces the descriptor
of the core that is active. This file says which calls keep the active core selectable.
-/

namespace Pingling.Cores
open Lib Domain Std

namespace CoreRegistry

variable {C : Type}

/-- Selecting the active core once more would succeed. -/
def ActiveSelectable (r : CoreRegistry C) : Prop :=
  ∀ k, r.activeType = some k → (r.switch k).1 = .ok ()

end CoreRegistry

/-- What a call must bring when it writes the descriptor of the core that is active after
it. -/
def RegistryCall.KeepsSelectable {C : Type} (r : CoreRegistry C) : RegistryCall C → Prop
  | .register descriptor _ =>
    r.activeType = none ∨ r.activeType = some descriptor.coreType → descriptor.available = true
  | .setBinaryPath pathExists coreType path =>
    r.activeType = some coreType → pathExists path = true
  | .discover _ => True
  | .switch _ => True

namespace CoreRegistry

variable {C : Type} {r : CoreRegistry C}

lemma ActiveSelectable.new : (new : CoreRegistry C).ActiveSelectable := by
  intro k hk
  simp [activeType, CoreRegistry.new] at hk

/-- The active core always has an instance, so only its descriptor can refuse it. -/
lemma Consistent.activeSelectable_iff (h : r.Consistent) :
    r.ActiveSelectable ↔
      ∀ k, r.activeType = some k → ∃ d, r.descriptors[k]? = some d ∧ d.available = true := by
  constructor
  · intro hs k hk
    exact (switch_eq_ok.mp (hs k hk)).1
  · intro hs k hk
    exact switch_eq_ok.mpr ⟨hs k hk, h.selected k hk⟩

lemma getElem?_descriptors_discoverSystemCore {search : Search} {known : String × String}
    {k : String} {d : CoreDescriptor} (h : r.descriptors[k]? = some d) :
    (CoreRegistry.discoverSystemCore search r known).descriptors[k]? = some d := by
  unfold CoreRegistry.discoverSystemCore
  split_ifs with hknown
  · exact h
  · split
    · exact h
    · -- A descriptor is added only where there was none.
      have hne : known.1 ≠ k := by
        rintro rfl
        rw [ExtTreeMap.contains_iff_mem, ← ExtTreeMap.isSome_getElem?_iff_mem, h] at hknown
        exact hknown rfl
      simp [ExtTreeMap.getElem?_insert, hne, h]

lemma activeType_discoverSystemCore (r : CoreRegistry C) (search : Search)
    (known : String × String) :
    (CoreRegistry.discoverSystemCore search r known).activeType = r.activeType := by
  unfold CoreRegistry.discoverSystemCore
  split_ifs
  · rfl
  · split <;> rfl

lemma Consistent.activeSelectable_register (h : r.Consistent) (hs : r.ActiveSelectable)
    (descriptor : CoreDescriptor) (core : C) :
    (r.register descriptor core).ActiveSelectable ↔
      (RegistryCall.register descriptor core).KeepsSelectable r := by
  rw [(h.register descriptor core).activeSelectable_iff]
  rw [h.activeSelectable_iff] at hs
  simp only [activeType] at hs
  simp only [RegistryCall.KeepsSelectable, CoreRegistry.register, activeType,
    ExtTreeMap.getElem?_insert, LawfulEqCmp.compare_eq_iff_eq]
  cases hactive : r.active with
  | none => simp
  | some k =>
    by_cases hk : descriptor.coreType = k
    · simp [hk]
    · have hkept := hs k hactive
      have hne : ¬k = descriptor.coreType := fun heq => hk heq.symm
      simpa [hk, hne] using hkept

lemma Consistent.activeSelectable_discover (h : r.Consistent) (hs : r.ActiveSelectable)
    (search : Search) : (r.discover search).ActiveSelectable := by
  have hfound := h.discoverSystemCores search
  rw [h.discover_eq, hfound.activeSelectable_iff]
  intro k hk
  have hactive : r.activeType = some k := by
    rw [← hk]
    simp [CoreRegistry.discoverSystemCores, knownCores, activeType_discoverSystemCore]
  obtain ⟨d, hd, havail⟩ := h.activeSelectable_iff.mp hs k hactive
  have hstep :
      (CoreRegistry.discoverSystemCore search r ("sing-box", "Sing-Box")).descriptors[k]? =
        some d :=
    getElem?_descriptors_discoverSystemCore hd
  exact ⟨d, getElem?_descriptors_discoverSystemCore hstep, havail⟩

lemma ActiveSelectable.switch (hs : r.ActiveSelectable) (k : String) :
    (r.switch k).2.ActiveSelectable := by
  cases hresult : (r.switch k).1 with
  | error e =>
    rw [switch_of_error hresult]
    exact hs
  | ok =>
    rw [switch_of_ok hresult]
    intro k' hk'
    have heq : k = k' := Option.some.inj hk'
    subst heq
    have hok := switch_eq_ok.mp hresult
    exact switch_eq_ok.mpr hok

lemma Consistent.activeSelectable_setBinaryPath (h : r.Consistent) (hs : r.ActiveSelectable)
    (pathExists : String → Bool) (k path : String) :
    (r.setBinaryPath pathExists k path).2.ActiveSelectable ↔
      (RegistryCall.setBinaryPath (C := C) pathExists k path).KeepsSelectable r := by
  rw [(h.setBinaryPath pathExists k path).activeSelectable_iff]
  rw [h.activeSelectable_iff] at hs
  simp only [RegistryCall.KeepsSelectable]
  unfold CoreRegistry.setBinaryPath
  split
  · rename_i hnone
    -- A core without a descriptor is not the active one, and the call is refused.
    have hne : r.activeType ≠ some k := by
      intro hk
      obtain ⟨d, hd, -⟩ := hs k hk
      simp [hnone] at hd
    exact ⟨fun _ hk => absurd hk hne, fun _ => hs⟩
  · rename_i desc hdesc
    simp only [activeType, ExtTreeMap.getElem?_insert, LawfulEqCmp.compare_eq_iff_eq] at hs ⊢
    constructor
    · intro hall hk
      obtain ⟨d, hd, havail⟩ := hall k hk
      rw [if_pos rfl] at hd
      rw [← Option.some.inj hd] at havail
      exact havail
    · intro hexists k' hk'
      by_cases heq : k = k'
      · subst heq
        exact ⟨_, if_pos rfl, hexists hk'⟩
      · rw [if_neg heq]
        exact hs k' hk'

/-- One call keeps the active core selectable exactly under the condition on that call. -/
theorem Consistent.activeSelectable_run (h : r.Consistent) (hs : r.ActiveSelectable)
    (call : RegistryCall C) : (call.run r).ActiveSelectable ↔ call.KeepsSelectable r := by
  cases call with
  | register descriptor core => exact h.activeSelectable_register hs descriptor core
  | discover search => exact ⟨fun _ => trivial, fun _ => h.activeSelectable_discover hs search⟩
  | switch k => exact ⟨fun _ => trivial, fun _ => hs.switch k⟩
  | setBinaryPath pathExists k path => exact h.activeSelectable_setBinaryPath hs pathExists k path

/-- In a sequence of calls the active core is selectable after every one of them exactly when
every call that writes the descriptor of the core active after it makes that core
available. -/
theorem active_core_selectable (calls : List (RegistryCall C)) :
    (∀ before, before <+: calls → (Cores.registryAfter before).ActiveSelectable) ↔
      ∀ before call, before ++ [call] <+: calls →
        call.KeepsSelectable (Cores.registryAfter before) := by
  induction calls using List.reverseRecOn with
  | nil =>
    constructor
    · intro _ before call hpre
      simp at hpre
    · intro _ before hpre
      rw [List.prefix_nil.mp hpre]
      exact ActiveSelectable.new
  | append_singleton calls call ih =>
    have hr := Consistent.registryAfter calls
    constructor
    · intro hall before call' hpre
      rcases List.prefix_concat_iff.mp hpre with heq | hpre
      · obtain ⟨rfl, hcall⟩ := List.append_inj' heq rfl
        have hlast := hall (before ++ [call]) (List.prefix_refl _)
        rw [registryAfter_append] at hlast
        rw [List.singleton_inj.mp hcall]
        exact (hr.activeSelectable_run (hall before (List.prefix_append _ _)) call).mp hlast
      · exact ih.mp (fun b hb => hall b (hb.trans (List.prefix_append _ _))) before call' hpre
    · intro hall before hpre
      have hbefore := ih.mpr
        (fun b c hb => hall b c (hb.trans (List.prefix_append _ _)))
      rcases List.prefix_concat_iff.mp hpre with rfl | hpre
      · rw [registryAfter_append]
        exact (hr.activeSelectable_run (hbefore calls (List.prefix_refl _)) call).mpr
          (hall calls call (List.prefix_refl _))
      · exact hbefore before hpre

/-- The first core registered is active although its descriptor says that it is not
available, and selecting it is refused. -/
theorem unavailable_core_active :
    ∃ calls : List (RegistryCall Unit), ∃ k,
      (Cores.registryAfter calls).activeType = some k ∧
        ((Cores.registryAfter calls).switch k).1 =
          .error (.prerequisiteMissing "core 'xray' is not available") := by
  refine ⟨[.register ⟨"xray", "Xray", .system, none, false⟩ ()], "xray", rfl, ?_⟩
  simp [Cores.registryAfter, RegistryCall.run, CoreRegistry.register, CoreRegistry.switch,
    CoreRegistry.new]
  rfl

end CoreRegistry

end Pingling.Cores
