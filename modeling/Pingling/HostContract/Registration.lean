import Pingling.HostContract.Registry

/-!
# What registration establishes

A registry is well formed after any sequence of `register` calls: `register` takes a
manifest exactly when it is valid and compatible with every registered one, and leaves the
registry alone otherwise. Ownership of slot phases follows.
-/

namespace Pingling.HostContract
open Lib Std

namespace PluginRegistry

variable {self : PluginRegistry}

lemma nameOwner_eq_none {names : IpcPackageDescriptor → List String} {name : String} :
    self.nameOwner names name = none ↔
      ∀ m ∈ self.manifests, ∀ p, m.normalizedPackage = some p → name ∉ names p := by
  rw [nameOwner, List.findSome?_eq_none_iff]
  refine forall_congr' (fun m => forall_congr' (fun _ => ?_))
  cases m.normalizedPackage with
  | none => simp
  | some p => simp

lemma methodOwner_eq_none {method : String} :
    self.methodOwner method = none ↔ ∀ m ∈ self.manifests, method ∉ m.methodNames := by
  rw [methodOwner, nameOwner_eq_none]
  refine forall_congr' (fun m => forall_congr' (fun _ => ?_))
  unfold PluginManifest.methodNames
  cases m.normalizedPackage with
  | none => simp
  | some p => simp

lemma eventOwner_eq_none {event : String} :
    self.eventOwner event = none ↔ ∀ m ∈ self.manifests, event ∉ m.eventNames := by
  rw [eventOwner, nameOwner_eq_none]
  refine forall_congr' (fun m => forall_congr' (fun _ => ?_))
  unfold PluginManifest.eventNames
  cases m.normalizedPackage with
  | none => simp
  | some p => simp

lemma checkNameOwner_eq_ok {kind : String} {owner : String → Option String} {name : String} :
    checkNameOwner kind owner name = .ok () ↔ owner name = none := by
  unfold checkNameOwner
  cases owner name <;> simp

lemma checkSlotOwner_eq_ok {candidate : SlotBinding} {phase : SlotPhase} :
    self.checkSlotOwner candidate phase = .ok () ↔
      ∀ b ∈ self.bindingsFor candidate.name phase,
        candidate.policy ≠ .singleOwner ∧ b.policy ≠ .singleOwner := by
  simp only [checkSlotOwner, checkAll_eq_ok, ite_error_eq_ok, and_true, not_or, ne_eq]

/-- The conflict check is the conjunction of three symmetric conditions. -/
lemma validateSingleOwnerConflicts_eq_ok {m : PluginManifest} :
    self.validateSingleOwnerConflicts m = .ok () ↔
      (∀ m' ∈ self.manifests, ∀ b ∈ m.slots, ∀ b' ∈ m'.slots, b.name = b'.name →
        ∀ phase ∈ b.phases, phase ∈ b'.phases →
          b.policy ≠ .singleOwner ∧ b'.policy ≠ .singleOwner) ∧
      (∀ m' ∈ self.manifests, m.methodNames.Disjoint m'.methodNames) ∧
      (∀ m' ∈ self.manifests, m.eventNames.Disjoint m'.eventNames) := by
  have hslots : (∀ b ∈ m.slots, ∀ phase ∈ b.phases, self.checkSlotOwner b phase = .ok ()) ↔
      ∀ m' ∈ self.manifests, ∀ b ∈ m.slots, ∀ b' ∈ m'.slots, b.name = b'.name →
        ∀ phase ∈ b.phases, phase ∈ b'.phases →
          b.policy ≠ .singleOwner ∧ b'.policy ≠ .singleOwner := by
    constructor
    · intro h m' hm' b hb b' hb' hname phase hphase hphase'
      have hmem : (⟨m'.id, m'.priority, b.name, phase, b'.policy⟩ : PluginBinding) ∈
          self.bindingsFor b.name phase :=
        mem_bindingsFor.mpr ⟨m', hm', b', hb', hname.symm, hphase', rfl⟩
      exact checkSlotOwner_eq_ok.mp (h b hb phase hphase) _ hmem
    · intro h b hb phase hphase
      rw [checkSlotOwner_eq_ok]
      intro existing hexisting
      obtain ⟨m', hm', b', hb', hname, hphase', rfl⟩ := mem_bindingsFor.mp hexisting
      exact h m' hm' b hb b' hb' hname.symm phase hphase hphase'
  have hmethods : (∀ name ∈ m.methodNames, self.methodOwner name = none) ↔
      ∀ m' ∈ self.manifests, m.methodNames.Disjoint m'.methodNames := by
    simp only [methodOwner_eq_none, List.disjoint_left]
    exact ⟨fun h m' hm' name hname => h name hname m' hm',
      fun h name hname m' hm' => h m' hm' hname⟩
  have hevents : (∀ name ∈ m.eventNames, self.eventOwner name = none) ↔
      ∀ m' ∈ self.manifests, m.eventNames.Disjoint m'.eventNames := by
    simp only [eventOwner_eq_none, List.disjoint_left]
    exact ⟨fun h m' hm' name hname => h name hname m' hm',
      fun h name hname m' hm' => h m' hm' hname⟩
  rw [← hslots, ← hmethods, ← hevents, validateSingleOwnerConflicts]
  cases hp : m.normalizedPackage with
  | none =>
    simp [hp, PluginManifest.methodNames, PluginManifest.eventNames, checkSome]
  | some p =>
    simp [hp, PluginManifest.methodNames, PluginManifest.eventNames, checkSome,
      checkNameOwner_eq_ok]

/-- Registration takes a manifest exactly when it is valid and compatible with all others. -/
theorem checkManifest_eq_ok
    (hkeyed : ∀ (id : String) (m : PluginManifest), self.plugins[id]? = some m → m.id = id)
    {m : PluginManifest} :
    self.checkManifest m = .ok () ↔ m.Valid ∧ ∀ m' ∈ self.manifests, Compatible m m' := by
  have hid : self.plugins.contains m.id = false ↔ ∀ m' ∈ self.manifests, m.id ≠ m'.id := by
    rw [Bool.eq_false_iff, ne_eq, ExtTreeMap.contains_iff_mem]
    constructor
    · intro h m' hm' heq
      rw [mem_manifests hkeyed, ← heq] at hm'
      exact h (ExtTreeMap.mem_iff_isSome_getElem?.mpr (by rw [hm']; rfl))
    · intro h hmem
      obtain ⟨m', hm'⟩ := Option.isSome_iff_exists.mp (ExtTreeMap.mem_iff_isSome_getElem?.mp hmem)
      have hkey := hkeyed _ _ hm'
      refine h m' ((mem_manifests hkeyed).mpr ?_) hkey.symm
      rw [hkey]
      exact hm'
  rw [checkManifest, seq_eq_ok, ite_error_eq_ok, PluginManifest.validate_eq_ok,
    Bool.not_eq_true, hid, validateSingleOwnerConflicts_eq_ok]
  refine and_congr_right (fun _ => ⟨?_, fun h => ?_⟩)
  · rintro ⟨hids, hslots, hmethods, hevents⟩ m' hm'
    exact ⟨hids m' hm', hslots m' hm', hmethods m' hm', hevents m' hm'⟩
  · exact ⟨fun m' hm' => (h m' hm').id, fun m' hm' => (h m' hm').slots,
      fun m' hm' => (h m' hm').methods, fun m' hm' => (h m' hm').events⟩

lemma register_of_ok {m : PluginManifest} (h : self.checkManifest m = .ok ()) :
    self.register m = (.ok (), ⟨self.plugins.insert m.id m⟩) := by
  rw [register, h]

lemma register_of_error {m : PluginManifest} {e : HostFailure}
    (h : self.checkManifest m = .error e) :
    self.register m = (.error e, self) := by
  rw [register, h]

/-- Registration adds the manifest and nothing else. -/
lemma mem_manifests_insert
    (hkeyed : ∀ (id : String) (m : PluginManifest), self.plugins[id]? = some m → m.id = id)
    {m : PluginManifest} (hnew : ∀ m' ∈ self.manifests, m.id ≠ m'.id)
    (m' : PluginManifest) :
    m' ∈ (⟨self.plugins.insert m.id m⟩ : PluginRegistry).manifests ↔
      m' = m ∨ m' ∈ self.manifests := by
  have hkeyed' : ∀ (id : String) (m' : PluginManifest),
      (⟨self.plugins.insert m.id m⟩ : PluginRegistry).plugins[id]? = some m' → m'.id = id := by
    intro id m' h
    simp only [ExtTreeMap.getElem?_insert, LawfulEqCmp.compare_eq_iff_eq] at h
    split_ifs at h with heq
    · rw [← heq, ← Option.some.inj h]
    · exact hkeyed id m' h
  rw [mem_manifests hkeyed', mem_manifests hkeyed]
  simp only [ExtTreeMap.getElem?_insert, LawfulEqCmp.compare_eq_iff_eq]
  by_cases heq : m.id = m'.id
  · rw [if_pos heq, Option.some.injEq]
    constructor
    · intro h
      exact Or.inl h.symm
    · rintro (rfl | h)
      · rfl
      · exact absurd heq (hnew m' ((mem_manifests hkeyed).mpr h))
  · rw [if_neg heq]
    constructor
    · exact Or.inr
    · rintro (rfl | h)
      · exact absurd rfl heq
      · exact h

lemma wellFormed_new : new.WellFormed where
  keyed id m h := by simp [new] at h
  valid m hm := by simp [manifests, new] at hm
  compatible m hm := by simp [manifests, new] at hm

lemma WellFormed.insert (h : self.WellFormed) {m : PluginManifest} (hvalid : m.Valid)
    (hcompatible : ∀ m' ∈ self.manifests, Compatible m m') :
    (⟨self.plugins.insert m.id m⟩ : PluginRegistry).WellFormed := by
  have hmem := mem_manifests_insert h.keyed (fun m' hm' => (hcompatible m' hm').id)
  refine ⟨fun id m' hm' => ?_, fun m' hm' => ?_, fun m₁ hm₁ m₂ hm₂ hne => ?_⟩
  · simp only [ExtTreeMap.getElem?_insert, LawfulEqCmp.compare_eq_iff_eq] at hm'
    split_ifs at hm' with heq
    · rw [← heq, ← Option.some.inj hm']
    · exact h.keyed id m' hm'
  · rcases (hmem m').mp hm' with rfl | hm'
    · exact hvalid
    · exact h.valid m' hm'
  · rcases (hmem m₁).mp hm₁ with rfl | h₁
    · rcases (hmem m₂).mp hm₂ with rfl | h₂
      · exact absurd rfl hne
      · exact hcompatible m₂ h₂
    · rcases (hmem m₂).mp hm₂ with rfl | h₂
      · exact (hcompatible m₁ h₁).symm
      · exact h.compatible m₁ h₁ m₂ h₂ hne

/-- One call of `register`, taken or refused, keeps the registry well formed. -/
lemma WellFormed.register (h : self.WellFormed) (m : PluginManifest) :
    (self.register m).2.WellFormed := by
  cases hc : self.checkManifest m with
  | error e =>
    rw [register_of_error hc]
    exact h
  | ok u =>
    have hm := (checkManifest_eq_ok h.keyed).mp hc
    rw [register_of_ok hc]
    exact h.insert hm.1 hm.2

theorem Reachable.wellFormed (h : Reachable self) : self.WellFormed :=
  Lib.Reachable.invariant wellFormed_new (fun _ m _ hs => hs.register m) h

/-- If a single owner holds a slot phase, every binding of that slot phase is its own. -/
theorem bindingsFor_singleOwner (h : Reachable self) (slot : Slot) (phase : SlotPhase)
    (howner : ∃ b ∈ self.bindingsFor slot phase, b.policy = .singleOwner) :
    ∃ id, ∀ b ∈ self.bindingsFor slot phase, b.pluginId = id := by
  obtain ⟨owner, howner, hpolicy⟩ := howner
  obtain ⟨m, hm, s, hs, hname, hphase, rfl⟩ := mem_bindingsFor.mp howner
  refine ⟨m.id, fun b hb => ?_⟩
  obtain ⟨m', hm', s', hs', hname', hphase', rfl⟩ := mem_bindingsFor.mp hb
  by_contra hne
  have hcompatible := h.wellFormed.compatible m hm m' hm' (fun heq => hne (by rw [heq]))
  exact (hcompatible.slots s hs s' hs' (hname.trans hname'.symm) phase hphase hphase').1 hpolicy

end PluginRegistry

/-- A manifest with one slot binding. -/
def manifestFor (id : String) (priority : Int32) (slot : String) (phases : List SlotPhase)
    (policy : SlotPolicy) : PluginManifest :=
  ⟨id, priority, [], [⟨⟨slot⟩, phases, policy⟩], [], [], none⟩

/-- The session has an owner, another plugin follows it in a later phase, and a third one that
wants to take part in its phase is refused. -/
theorem bindingsFor_singleOwner_auth :
    let identity := manifestFor "identity" 0 "auth.session" [.exec] .singleOwner
    let audit := manifestFor "audit" 1 "auth.session" [.after] .broadcast
    let guest := manifestFor "guest" 2 "auth.session" [.before, .exec] .pipeline
    let registry := ((PluginRegistry.new.register identity).2.register audit).2
    registry.plugins.keys = ["audit", "identity"] ∧
      (registry.register guest).1 = .error (.invalidInput
        "slot auth.session phase exec already has owner identity") ∧
      ∃ id, ∀ b ∈ (registry.register guest).2.bindingsFor ⟨"auth.session"⟩ .exec,
        b.pluginId = id := by
  intro identity audit guest registry
  refine ⟨by decide, by decide, ?_⟩
  exact PluginRegistry.bindingsFor_singleOwner
    (((Lib.Reachable.init.step identity).step audit).step guest) ⟨"auth.session"⟩ .exec
    ⟨⟨"identity", 0, ⟨"auth.session"⟩, .exec, .singleOwner⟩, by decide, rfl⟩

end Pingling.HostContract
