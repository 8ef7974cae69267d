import Pingling.HostContract.Registration

/-!
# Registration in any order

A list of manifests registers without a refusal exactly when every manifest is valid and
every two are compatible. Both conditions are blind to the order of the list, and so is the
registry they lead to.
-/

namespace Pingling.HostContract
open Lib Std

namespace PluginRegistry

variable {self : PluginRegistry}

/-- Registers the manifests one after the other, up to the first refusal. -/
def registerAll : List PluginManifest → PluginRegistry → HostResult PluginRegistry
  | [], registry => .ok registry
  | manifest :: manifests, registry =>
    match registry.register manifest with
    | (.error e, _) => .error e
    | (.ok (), registry) => registerAll manifests registry

/-- Well-formed registries are determined by which manifests they hold. -/
lemma WellFormed.ext {r r' : PluginRegistry} (h : r.WellFormed) (h' : r'.WellFormed)
    (hmem : ∀ m, m ∈ r.manifests ↔ m ∈ r'.manifests) : r = r' := by
  have hlookup : ∀ {s : PluginRegistry}, s.WellFormed → ∀ (id : String) (m : PluginManifest),
      s.plugins[id]? = some m ↔ m ∈ s.manifests ∧ m.id = id := by
    intro s hs id m
    rw [mem_manifests hs.keyed]
    constructor
    · intro hm
      have hid := hs.keyed id m hm
      exact ⟨by rw [hid]; exact hm, hid⟩
    · rintro ⟨hm, rfl⟩
      exact hm
  have hplugins : r.plugins = r'.plugins := by
    apply ExtTreeMap.ext_getElem?
    intro id
    apply Option.ext
    intro m
    rw [hlookup h, hlookup h', hmem m]
  cases r
  cases r'
  exact congrArg _ hplugins

/-- The loop of registrations succeeds exactly when no two manifests, new or already there,
stand in each other's way; it then holds the old and the new manifests. -/
theorem registerAll_spec (h : self.WellFormed) (ms : List PluginManifest) :
    ((∃ r, registerAll ms self = .ok r) ↔
      (∀ m ∈ ms, m.Valid ∧ ∀ m' ∈ self.manifests, Compatible m m') ∧ ms.Pairwise Compatible) ∧
    ∀ r, registerAll ms self = .ok r →
      r.WellFormed ∧ ∀ m, m ∈ r.manifests ↔ m ∈ ms ∨ m ∈ self.manifests := by
  induction ms generalizing self with
  | nil => simp [registerAll, h]
  | cons m ms ih =>
    cases hc : self.checkManifest m with
    | error e =>
      have hrun : registerAll (m :: ms) self = .error e := by
        rw [registerAll, register_of_error hc]
      have hnot : ¬(m.Valid ∧ ∀ m' ∈ self.manifests, Compatible m m') := by
        rw [← checkManifest_eq_ok h.keyed, hc]
        exact nofun
      rw [hrun]
      refine ⟨⟨nofun, fun hall => ?_⟩, nofun⟩
      exact absurd (hall.1 m List.mem_cons_self) hnot
    | ok u =>
      have hm := (checkManifest_eq_ok h.keyed).mp hc
      have hrun : registerAll (m :: ms) self =
          registerAll ms ⟨self.plugins.insert m.id m⟩ := by
        rw [registerAll, register_of_ok hc]
      have hmem := mem_manifests_insert h.keyed (fun m' hm' => (hm.2 m' hm').id)
      obtain ⟨hiff, hspec⟩ := ih (h.insert hm.1 hm.2)
      rw [hrun]
      constructor
      · rw [hiff, List.pairwise_cons]
        constructor
        · rintro ⟨hall, hpair⟩
          refine ⟨fun m' hm' => ?_, fun m' hm' => ?_, hpair⟩
          · rcases List.mem_cons.mp hm' with rfl | hm'
            · exact hm
            · exact ⟨(hall m' hm').1, fun m'' hm'' =>
                (hall m' hm').2 m'' ((hmem m'').mpr (Or.inr hm''))⟩
          · exact ((hall m' hm').2 m ((hmem m).mpr (Or.inl rfl))).symm
        · rintro ⟨hall, hhead, hpair⟩
          refine ⟨fun m' hm' => ?_, hpair⟩
          refine ⟨(hall m' (List.mem_cons_of_mem _ hm')).1, fun m'' hm'' => ?_⟩
          rcases (hmem m'').mp hm'' with rfl | hm''
          · exact (hhead m' hm').symm
          · exact (hall m' (List.mem_cons_of_mem _ hm')).2 m'' hm''
      · intro r hr
        obtain ⟨hwf, hin⟩ := hspec r hr
        refine ⟨hwf, fun m' => ?_⟩
        rw [hin m', hmem m', List.mem_cons]
        constructor
        · rintro (hm' | rfl | hm')
          · exact Or.inl (Or.inr hm')
          · exact Or.inl (Or.inl rfl)
          · exact Or.inr hm'
        · rintro ((rfl | hm') | hm')
          · exact Or.inr (Or.inl rfl)
          · exact Or.inl hm'
          · exact Or.inr (Or.inr hm')

/-- Permuting a list of manifests changes neither whether they all register nor the
registry, the plans and the contract they lead to. -/
theorem registerAll_perm {ms ms' : List PluginManifest} (h : ms.Perm ms') :
    ((∃ r, registerAll ms new = .ok r) ↔ ∃ r', registerAll ms' new = .ok r') ∧
    ∀ r r', registerAll ms new = .ok r → registerAll ms' new = .ok r' →
      r = r' ∧ (∀ slot phase, r.bindingsFor slot phase = r'.bindingsFor slot phase) ∧
        (∀ method, r.methodBindings method = r'.methodBindings method) ∧
        r.mergedContract = r'.mergedContract := by
  obtain ⟨hiff, hspec⟩ := registerAll_spec wellFormed_new ms
  obtain ⟨hiff', hspec'⟩ := registerAll_spec wellFormed_new ms'
  constructor
  · rw [hiff, hiff', h.pairwise_iff Compatible.symm]
    refine and_congr_left (fun _ => ?_)
    exact forall_congr' (fun m => by rw [h.mem_iff])
  · intro r r' hr hr'
    obtain ⟨hwf, hmem⟩ := hspec r hr
    obtain ⟨hwf', hmem'⟩ := hspec' r' hr'
    have heq : r = r' := hwf.ext hwf' (fun m => by rw [hmem, hmem', h.mem_iff])
    subst heq
    exact ⟨rfl, fun _ _ => rfl, fun _ => rfl, rfl⟩

/-- Two plugins that share a slot phase, registered in both orders. -/
theorem registerAll_perm_swap :
    let a := manifestFor "example.a" 100 "config.process" [.exec] .pipeline
    let z := manifestFor "example.z" 100 "config.process" [.before, .exec] .broadcast
    ((∃ r, registerAll [z, a] new = .ok r) ↔ ∃ r', registerAll [a, z] new = .ok r') ∧
    ∀ r r', registerAll [z, a] new = .ok r → registerAll [a, z] new = .ok r' →
      r = r' ∧ (∀ slot phase, r.bindingsFor slot phase = r'.bindingsFor slot phase) ∧
        (∀ method, r.methodBindings method = r'.methodBindings method) ∧
        r.mergedContract = r'.mergedContract :=
  registerAll_perm (List.Perm.swap _ _ [])

end PluginRegistry

end Pingling.HostContract
