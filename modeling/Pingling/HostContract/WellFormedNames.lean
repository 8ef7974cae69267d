import Pingling.HostContract.ManifestJson
import Pingling.HostContract.Registration

/-!
# What an accepted manifest is made of

The constructors of slots, bindings and descriptors check what they are given; a manifest
that is read from JSON passes none of them. Validation makes up for it everywhere but in
two places: no slot name is looked at, and the bindings of a package may have no phase.
-/

namespace Pingling.HostContract
open Lib Std

/-- What `Slot::new` and `SlotBinding::new` make sure of. -/
structure SlotBinding.WellFormed (binding : SlotBinding) : Prop where
  name : IsToken binding.name.value
  phases : binding.phases ≠ []

/-- Every name is a token, or a token and a wildcard; every binding has a phase. -/
structure IpcPackageDescriptor.WellFormed (package : IpcPackageDescriptor) : Prop where
  id : IsToken package.id
  domain : ∀ domain, package.domain = some domain → IsToken domain
  methods : ∀ method ∈ package.methods, IsToken method.name
  events : ∀ event ∈ package.events, IsToken event.name
  slots : ∀ binding ∈ package.slots, binding.WellFormed
  capabilities : ∀ capability ∈ package.requiredCapabilities, IsToken capability.name

namespace PluginManifest

/-- What the constructors make sure of in a manifest and its package. -/
structure WellFormed (manifest : PluginManifest) : Prop where
  id : IsToken manifest.id
  methods : ∀ method ∈ manifest.methods,
    IsToken ((Text.stripSuffix ".*" method).getD method)
  needs : ∀ need ∈ manifest.needs, IsToken need
  slots : ∀ binding ∈ manifest.slots, binding.WellFormed
  package : ∀ package, manifest.package = some package → package.WellFormed

/-- The slots of a manifest, and of its package, are such as the constructors build: this is
what validation leaves open. -/
structure SlotsBuilt (manifest : PluginManifest) : Prop where
  names : ∀ binding ∈ manifest.slots, ∃ slot, Slot.new binding.name.value = .ok slot
  bindings : ∀ package, manifest.package = some package → ∀ binding ∈ package.slots,
    ∃ slot, Slot.new binding.name.value = .ok slot ∧
      SlotBinding.new slot binding.phases binding.policy = .ok binding

end PluginManifest

lemma Slot.new_exists_iff {value : String} :
    (∃ slot, Slot.new value = .ok slot) ↔ IsToken value := by
  simp [Slot.new]

lemma SlotBinding.built_iff {binding : SlotBinding} :
    (∃ slot, Slot.new binding.name.value = .ok slot ∧
      SlotBinding.new slot binding.phases binding.policy = .ok binding) ↔ binding.WellFormed := by
  have hnew : ∀ slot, Slot.new binding.name.value = .ok slot ↔
      IsToken binding.name.value ∧ binding.name = slot := by
    intro slot
    simp [Slot.new]
  simp only [hnew, SlotBinding.new, ite_error_eq_ok, List.isEmpty_iff]
  constructor
  · rintro ⟨slot, ⟨hname, -⟩, hphases, -⟩
    exact ⟨hname, hphases⟩
  · intro h
    exact ⟨binding.name, ⟨h.name, rfl⟩, h.phases, rfl⟩

lemma validateMethodPattern_eq_ok {method : String} :
    validateMethodPattern method = .ok () ↔
      IsToken ((Text.stripSuffix ".*" method).getD method) := by
  unfold validateMethodPattern
  cases Text.stripSuffix ".*" method <;> simp

lemma MethodDescriptor.isToken_of_validate {method : MethodDescriptor}
    (h : method.validate = .ok ()) : IsToken method.name := by
  simp only [MethodDescriptor.validate, seq_eq_ok, validateToken_eq_ok] at h
  exact h.1

namespace PluginManifest

lemma Valid.packageWellFormed {manifest : PluginManifest} (h : manifest.Valid)
    {package : IpcPackageDescriptor} (hpackage : manifest.package = some package)
    (hslots : ∀ binding ∈ package.slots, binding.WellFormed) : package.WellFormed := by
  obtain ⟨hvalid, -⟩ := h.package package hpackage
  obtain ⟨hid, hdomain, -, -, ⟨hmethods, -⟩, ⟨hevents, -⟩, hcapabilities, -⟩ :=
    IpcPackageDescriptor.validate_eq_ok.mp hvalid
  exact
    { id := hid
      domain := hdomain
      methods := fun method hmethod =>
        MethodDescriptor.isToken_of_validate (hmethods method hmethod)
      events := fun event hevent => validateToken_eq_ok.mp (hevents event hevent)
      slots := hslots
      capabilities := hcapabilities }

/-- A valid manifest is well formed exactly when its slots are as the constructors build
them: names in both lists, and phases in the list of the package. -/
theorem Valid.wellFormed_iff {manifest : PluginManifest} (h : manifest.Valid) :
    manifest.WellFormed ↔ manifest.SlotsBuilt := by
  constructor
  · intro hwf
    apply SlotsBuilt.mk
    · intro binding hbinding
      exact Slot.new_exists_iff.mpr (hwf.slots binding hbinding).name
    · intro package hpackage binding hbinding
      exact SlotBinding.built_iff.mpr ((hwf.package package hpackage).slots binding hbinding)
  · intro hbuilt
    exact
      { id := h.id
        methods := fun method hmethod =>
          validateMethodPattern_eq_ok.mp (h.methods method hmethod)
        needs := h.needs
        slots := fun binding hbinding =>
          ⟨Slot.new_exists_iff.mp (hbuilt.names binding hbinding), h.slots binding hbinding⟩
        package := fun package hpackage => h.packageWellFormed hpackage
          (fun binding hbinding =>
            SlotBinding.built_iff.mp (hbuilt.bindings package hpackage binding hbinding)) }

end PluginManifest

namespace PluginRegistry

lemma valid_of_register {registry : PluginRegistry} {manifest : PluginManifest}
    (h : (registry.register manifest).1 = .ok ()) : manifest.Valid := by
  cases hcheck : registry.checkManifest manifest with
  | error e =>
    rw [register_of_error hcheck] at h
    cases h
  | ok =>
    rw [checkManifest, seq_eq_ok] at hcheck
    exact PluginManifest.validate_eq_ok.mp hcheck.1

theorem accepted_wellFormed_iff (registry : PluginRegistry) (manifest : PluginManifest)
    (h : (registry.register manifest).1 = .ok ()) :
    manifest.WellFormed ↔ manifest.SlotsBuilt :=
  (valid_of_register h).wellFormed_iff

/-- What is read from a manifest file with an id and one slot name. -/
def slotManifest (name : String) : PluginManifest :=
  ⟨"geo", 0, [], [⟨⟨name⟩, SlotPhase.order, .pipeline⟩], [], [], none⟩

lemma fromValue_slotManifest (name : String) :
    PluginManifest.fromValue (.object [("id", .string "geo"),
      ("slots", .array [.object [("name", .string name)]])]) = some (slotManifest name) :=
  rfl

lemma register_slotManifest (name : String) : (new.register (slotManifest name)).1 = .ok () := by
  have hvalid : (slotManifest name).Valid :=
    { id := show IsToken "geo" by decide
      methods := by simp [slotManifest]
      needs := by simp [slotManifest]
      hosts := by simp [slotManifest]
      slots := by simp [slotManifest, SlotPhase.order]
      package := by simp [slotManifest] }
  have hcheck : new.checkManifest (slotManifest name) = .ok () := by
    rw [checkManifest_eq_ok wellFormed_new.keyed]
    exact ⟨hvalid, by simp [new, manifests]⟩
  rw [register_of_ok hcheck]

/-- A manifest with a method pattern, a slot and a package that declares both. -/
def connectManifest : PluginManifest where
  id := "vpn.core"
  priority := 10
  methods := ["vpn.*"]
  slots := [⟨⟨"vpn.connect"⟩, [.exec], .firstSuccess⟩]
  needs := ["geo"]
  allowedHosts := []
  package := some
    { id := "vpn.core"
      version := some "1"
      domain := some "vpn"
      compatibility := none
      methods := [⟨"vpn.status", none, defaultOpenSchema, defaultOpenSchema, [⟨1, "down"⟩], none⟩]
      events := [⟨"vpn.changed", none, defaultOpenSchema, none, none⟩]
      slots := [⟨⟨"vpn.connect"⟩, [.exec], .firstSuccess⟩]
      requiredCapabilities := [⟨.need, "geo"⟩]
      component := none }

theorem accepted_wellFormed_connect : connectManifest.WellFormed := by
  apply (accepted_wellFormed_iff new connectManifest (by decide)).mpr
  have hbuilt : ∃ slot, Slot.new "vpn.connect" = .ok slot :=
    Slot.new_exists_iff.mpr (show IsToken "vpn.connect" by decide)
  apply PluginManifest.SlotsBuilt.mk
  · intro binding hbinding
    rw [List.mem_singleton.mp hbinding]
    exact hbuilt
  · intro package hpackage binding hbinding
    rw [← Option.some.inj hpackage, List.mem_singleton] at hbinding
    rw [hbinding]
    exact SlotBinding.built_iff.mpr ⟨show IsToken "vpn.connect" by decide, by decide⟩

/-- A manifest file whose slot has an empty name is read and registered. -/
theorem accepted_emptySlotName :
    ∃ manifest, PluginManifest.fromValue (.object [("id", .string "geo"),
        ("slots", .array [.object [("name", .string "")]])]) = some manifest ∧
      (new.register manifest).1 = .ok () ∧ ¬manifest.WellFormed := by
  refine ⟨slotManifest "", fromValue_slotManifest "", register_slotManifest "", ?_⟩
  intro hwf
  exact (hwf.slots _ (List.mem_singleton_self _)).name.1 rfl

end PluginRegistry

end Pingling.HostContract
