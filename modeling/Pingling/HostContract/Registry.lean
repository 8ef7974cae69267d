import Pingling.HostContract.Manifest

/-!
# The plugin registry

`PluginRegistry` indexes manifests by plugin id. Registration validates a manifest and
refuses one that conflicts with a registered plugin; `bindingsFor` and `methodBindings`
plan, in a deterministic order, which plugins run for a slot phase or a method.

Two manifests are `Compatible` when neither takes what the other owns; a registry is
`WellFormed` when its manifests are valid and pairwise compatible.
-/

namespace Pingling.HostContract
open Lib Std

/-- A plugin that has a part in a slot phase. -/
structure PluginBinding where
  pluginId : String
  priority : Int32
  slot : Slot
  phase : SlotPhase
  policy : SlotPolicy
  deriving DecidableEq

/-- A plugin that is asked for a method, and the pattern by which it is. -/
structure MethodBinding where
  pluginId : String
  priority : Int32
  pattern : String
  deriving DecidableEq

/-- The manifests of the registered plugins by id. -/
structure PluginRegistry where
  plugins : BTreeMap String PluginManifest

/-- Lower priority first, then plugin id. -/
def bindingOrder : PluginBinding → PluginBinding → Ordering :=
  compareLex (compareOn PluginBinding.priority) (compareOn PluginBinding.pluginId)

instance : TransCmp bindingOrder :=
  inferInstanceAs (TransCmp (compareLex _ _))

def methodBindingOrder : MethodBinding → MethodBinding → Ordering :=
  compareLex (compareLex (compareOn MethodBinding.priority) (compareOn MethodBinding.pluginId))
    (compareOn MethodBinding.pattern)

instance : TransCmp methodBindingOrder :=
  inferInstanceAs (TransCmp (compareLex _ _))

/-- More specific patterns are greater; the text breaks ties. -/
def patternOrder : String → String → Ordering :=
  compareLex (compareOn (fun pattern => (methodPatternSpecificity pattern).1))
    (compareLex (compareOn (fun pattern => (methodPatternSpecificity pattern).2))
      (compareOn id))

/-- The binding of a manifest's slot entry to one slot phase, if the entry covers it. -/
def PluginManifest.bindingAt (manifest : PluginManifest) (slot : Slot) (phase : SlotPhase)
    (binding : SlotBinding) : Option PluginBinding :=
  if binding.name = slot && binding.containsPhase phase then
    some ⟨manifest.id, manifest.priority, binding.name, phase, binding.policy⟩
  else none

/-- The binding of a manifest for a method has its greatest pattern that matches. -/
def PluginManifest.methodBinding (manifest : PluginManifest) (method : String) :
    Option MethodBinding :=
  (maxBy patternOrder (manifest.dispatchMethods.filter (methodMatches · method))).map
    (fun pattern => ⟨manifest.id, manifest.priority, pattern⟩)

namespace PluginRegistry

def new : PluginRegistry :=
  ⟨∅⟩

/-- The manifests in order of their ids. -/
def manifests (self : PluginRegistry) : List PluginManifest :=
  BTreeMap.values self.plugins

def get (self : PluginRegistry) (pluginId : String) : Option PluginManifest :=
  self.plugins[pluginId]?

/-- The plan of a slot phase. -/
def bindingsFor (self : PluginRegistry) (slot : Slot) (phase : SlotPhase) : List PluginBinding :=
  sortBy bindingOrder
    (self.manifests.flatMap
      (fun manifest => manifest.slots.filterMap (manifest.bindingAt slot phase)))

/-- The plan of a method. -/
def methodBindings (self : PluginRegistry) (method : String) : List MethodBinding :=
  sortBy methodBindingOrder (self.manifests.filterMap (·.methodBinding method))

/-- The first plugin, by id, whose normalised package has a name in the given list. -/
def nameOwner (self : PluginRegistry) (names : IpcPackageDescriptor → List String)
    (name : String) : Option String :=
  self.manifests.findSome? (fun manifest => do
    let package ← manifest.normalizedPackage
    if name ∈ names package then some manifest.id else none)

def methodOwner (self : PluginRegistry) (method : String) : Option String :=
  self.nameOwner (fun package => package.methods.map (·.name)) method

def eventOwner (self : PluginRegistry) (event : String) : Option String :=
  self.nameOwner (fun package => package.events.map (·.name)) event

/-- Refuses a binding beside one that owns the slot phase, and one that wants to own it beside
others. -/
def checkSlotOwner (self : PluginRegistry) (candidate : SlotBinding) (phase : SlotPhase) :
    HostResult Unit :=
  checkAll (fun existing : PluginBinding =>
      if candidate.policy = .singleOwner ∨ existing.policy = .singleOwner then
        .error (.invalidInput
          s!"slot {candidate.name.value} phase {phase.asStr} already has owner {existing.pluginId}")
      else .ok ())
    (self.bindingsFor candidate.name phase)

/-- Refuses a name that a package of the registry has. -/
def checkNameOwner (kind : String) (owner : String → Option String) (name : String) :
    HostResult Unit :=
  match owner name with
  | some existing => .error (.invalidInput s!"{kind} {name} is already owned by {existing}")
  | none => .ok ()

/-- The checks of a manifest against those that are registered. -/
def validateSingleOwnerConflicts (self : PluginRegistry) (manifest : PluginManifest) :
    HostResult Unit := do
  checkAll
    (fun candidate : SlotBinding => checkAll (self.checkSlotOwner candidate) candidate.phases)
    manifest.slots
  checkSome (fun package : IpcPackageDescriptor => do
      checkAll (fun method => checkNameOwner "method" self.methodOwner method.name) package.methods
      checkAll (fun event => checkNameOwner "event" self.eventOwner event.name) package.events)
    manifest.normalizedPackage

/-- Every check of `register`; none of them changes the registry. -/
def checkManifest (self : PluginRegistry) (manifest : PluginManifest) : HostResult Unit := do
  manifest.validate
  if self.plugins.contains manifest.id then
    .error (.invalidInput s!"plugin {manifest.id} is already registered")
  else self.validateSingleOwnerConflicts manifest

/-- A manifest that fails a check leaves the registry as it was. -/
def register (self : PluginRegistry) (manifest : PluginManifest) :
    HostResult Unit × PluginRegistry :=
  match self.checkManifest manifest with
  | .error e => (.error e, self)
  | .ok () => (.ok (), ⟨self.plugins.insert manifest.id manifest⟩)

/-- Registers the packages of all plugins, in order of their ids. -/
def mergeManifests :
    List PluginManifest → MergedContractRegistry → HostResult MergedContractRegistry
  | [], merged => .ok merged
  | manifest :: manifests, merged =>
    match manifest.normalizedPackage with
    | none => mergeManifests manifests merged
    | some package =>
      match merged.registerPackage package with
      | (.error e, _) => .error e
      | (.ok (), merged) => mergeManifests manifests merged

/-- The contract of all packages, if no two of them are in conflict. -/
def mergedContract (self : PluginRegistry) : HostResult MergedContractRegistry :=
  mergeManifests self.manifests .new

/-- A registry that some sequence of `register` calls, successful or refused, leads to. -/
abbrev Reachable : PluginRegistry → Prop :=
  Lib.Reachable (fun registry manifest => (register registry manifest).2) new

end PluginRegistry

/-- Neither of two manifests takes a slot phase, a method or an event that the other owns. -/
structure Compatible (m m' : PluginManifest) : Prop where
  id : m.id ≠ m'.id
  slots : ∀ b ∈ m.slots, ∀ b' ∈ m'.slots, b.name = b'.name →
    ∀ phase ∈ b.phases, phase ∈ b'.phases → b.policy ≠ .singleOwner ∧ b'.policy ≠ .singleOwner
  methods : m.methodNames.Disjoint m'.methodNames
  events : m.eventNames.Disjoint m'.eventNames

lemma Compatible.symm {m m' : PluginManifest} (h : Compatible m m') : Compatible m' m where
  id := h.id.symm
  slots b hb b' hb' hname phase hphase hphase' :=
    (h.slots b' hb' b hb hname.symm phase hphase' hphase).symm
  methods := h.methods.symm
  events := h.events.symm

namespace PluginRegistry

/-- Manifests are indexed by their id, valid, and pairwise compatible. -/
structure WellFormed (registry : PluginRegistry) : Prop where
  keyed : ∀ (id : String) (m : PluginManifest), registry.plugins[id]? = some m → m.id = id
  valid : ∀ m ∈ registry.manifests, m.Valid
  compatible : ∀ m ∈ registry.manifests, ∀ m' ∈ registry.manifests, m ≠ m' → Compatible m m'

variable {self : PluginRegistry}

lemma mem_manifests
    (hkeyed : ∀ (id : String) (m : PluginManifest), self.plugins[id]? = some m → m.id = id)
    {m : PluginManifest} : m ∈ self.manifests ↔ self.plugins[m.id]? = some m := by
  rw [manifests, BTreeMap.mem_values]
  constructor
  · rintro ⟨k, hk⟩
    rw [hkeyed k m hk]
    exact hk
  · intro h
    exact ⟨m.id, h⟩

/-- Manifests are listed in the order of their ids. -/
lemma WellFormed.manifests_pairwise_lt (h : self.WellFormed) :
    self.manifests.Pairwise (fun m m' => compare m.id m'.id = .lt) :=
  BTreeMap.pairwise_values_of_key (fun p hp =>
    h.keyed p.1 p.2 (ExtTreeMap.mem_toList_iff_getElem?_eq_some.mp hp))

/-- Two registered manifests with one id are one manifest. -/
lemma WellFormed.eq_of_id (h : self.WellFormed) {m m' : PluginManifest} (hm : m ∈ self.manifests)
    (hm' : m' ∈ self.manifests) (hid : m.id = m'.id) : m = m' := by
  rw [mem_manifests h.keyed] at hm hm'
  rw [hid, hm', Option.some.injEq] at hm
  exact hm.symm

lemma mem_bindingsFor {slot : Slot} {phase : SlotPhase} {b : PluginBinding} :
    b ∈ self.bindingsFor slot phase ↔
      ∃ m ∈ self.manifests, ∃ s ∈ m.slots, s.name = slot ∧ phase ∈ s.phases ∧
        b = ⟨m.id, m.priority, slot, phase, s.policy⟩ := by
  rw [bindingsFor, mem_sortBy, List.mem_flatMap]
  refine exists_congr (fun m => and_congr_right (fun _ => ?_))
  rw [List.mem_filterMap]
  refine exists_congr (fun s => and_congr_right (fun _ => ?_))
  unfold PluginManifest.bindingAt SlotBinding.containsPhase
  by_cases hname : s.name = slot
  · subst hname
    by_cases hphase : phase ∈ s.phases <;> simp [hphase, eq_comm]
  · simp [hname]

end PluginRegistry

end Pingling.HostContract
