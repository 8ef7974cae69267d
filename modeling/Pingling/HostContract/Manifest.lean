import Pingling.HostContract.Package

/-!
# Plugin manifests

A manifest says which methods and slots a plugin answers, with what priority, and what it
needs from the host. `normalizedPackage` is the package a manifest stands for: the explicit
one, or an empty one, extended by what the manifest itself lists.
-/

namespace Pingling.HostContract
open Lib Std

/-- What a plugin says of itself: its patterns of methods, its slot bindings, what it needs, and the
package that it may spell out. -/
structure PluginManifest where
  id : String
  priority : Int32
  methods : List String
  slots : List SlotBinding
  needs : List String
  allowedHosts : List String
  package : Option IpcPackageDescriptor

/-- The capabilities of a package, then those that the needs and the hosts of its manifest stand
for. -/
def mergeManifestCapabilities (capabilities : List HostCapabilityDescriptor)
    (needs allowedHosts : List String) : List HostCapabilityDescriptor :=
  (allowedHosts.map (fun host => ⟨.httpHost, host⟩)).foldl pushNew
    ((needs.map (fun need => ⟨.need, need⟩)).foldl pushNew capabilities)

/-- The slots of a package that also carries the slots of its manifest. -/
def mergeSlots (package manifest : List SlotBinding) : List SlotBinding :=
  if package.isEmpty then manifest else manifest.foldl pushNew package

/-- Appends an open descriptor for every name that has none yet. -/
def appendMethods : List MethodDescriptor → List String → Option (List MethodDescriptor)
  | methods, [] => some methods
  | methods, name :: names =>
    if methods.any (fun descriptor => descriptor.name == name) then appendMethods methods names
    else do
      let descriptor ← (MethodDescriptor.opaqueOf name).toOption
      appendMethods (methods ++ [descriptor]) names

namespace PluginManifest

/-- The manifest of a plugin without bindings. -/
def new (id : String) : HostResult PluginManifest := do
  validateToken "plugin id" id
  .ok ⟨id, 0, [], [], [], [], none⟩

/-- A package that is spelled out has the id of its manifest. -/
def validatePackage (self : PluginManifest) (package : IpcPackageDescriptor) : HostResult Unit := do
  package.validate
  if package.id ≠ self.id then
    .error (.invalidInput s!"manifest id {self.id} does not match package id {package.id}")
  else .ok ()

/-- A binding has at least one phase. The name of its slot is not looked at. -/
def validateSlot (slot : SlotBinding) : HostResult Unit :=
  if slot.phases.isEmpty then .error (.invalidInput s!"slot {slot.name.value} has no phases")
  else .ok ()

/-- The checks of a manifest, in the order of its fields. -/
def validate (self : PluginManifest) : HostResult Unit := do
  validateToken "plugin id" self.id
  checkAll validateMethodPattern self.methods
  checkAll (validateToken "capability") self.needs
  checkAll validateHostPattern self.allowedHosts
  checkAll validateSlot self.slots
  checkSome self.validatePackage self.package

/-- The methods that are names, not patterns for every method below a prefix. -/
def exactMethods (self : PluginManifest) : List String :=
  self.methods.filter (fun method => !Text.endsWith ".*" method)

/-- The package that is registered for a manifest, with its slots and capabilities. There is none
when one cannot be made from the names of the manifest. -/
def normalizedPackage (self : PluginManifest) : Option IpcPackageDescriptor := do
  let package ← match self.package with
    | some package => some package
    | none => (IpcPackageDescriptor.new self.id).toOption
  -- only a package that the manifest does not spell out takes its methods from the manifest
  let methods ← if self.package.isSome then some package.methods
    else appendMethods package.methods self.exactMethods
  some { package with
    slots := mergeSlots package.slots self.slots
    methods := methods
    requiredCapabilities :=
      mergeManifestCapabilities package.requiredCapabilities self.needs self.allowedHosts }

/-- The patterns by which a plugin is asked: its own, and the methods of its package. -/
def dispatchMethods (self : PluginManifest) : List String :=
  let methods : BTreeSet String := ExtTreeSet.ofList self.methods
  match self.normalizedPackage with
  | some package => (methods.insertMany (package.methods.map (·.name))).toList
  | none => methods.toList

end PluginManifest

/-- A wildcard matches its front and every method below it. -/
def methodMatches (pattern method : String) : Bool :=
  match Text.stripSuffix ".*" pattern with
  | some front => method == front || Text.startsWith (front ++ ".") method
  | none => pattern == method

/-- Whether the pattern is exact, then its length in bytes. -/
def methodPatternSpecificity (pattern : String) : Nat × Nat :=
  match Text.stripSuffix ".*" pattern with
  | some front => (0, front.utf8ByteSize)
  | none => (1, pattern.utf8ByteSize)

lemma mem_mergeManifestCapabilities {capabilities : List HostCapabilityDescriptor}
    {needs allowedHosts : List String} {c : HostCapabilityDescriptor} :
    c ∈ mergeManifestCapabilities capabilities needs allowedHosts ↔
      c ∈ capabilities ∨ (∃ need ∈ needs, c = ⟨.need, need⟩) ∨
        ∃ host ∈ allowedHosts, c = ⟨.httpHost, host⟩ := by
  rw [mergeManifestCapabilities, mem_foldl_pushNew, mem_foldl_pushNew, or_assoc]
  simp only [List.mem_map, eq_comm]

lemma mem_mergeSlots {package manifest : List SlotBinding} {b : SlotBinding} :
    b ∈ mergeSlots package manifest ↔ b ∈ package ∨ b ∈ manifest := by
  unfold mergeSlots
  cases package with
  | nil => simp
  | cons c cs => rw [List.isEmpty_cons, if_neg Bool.false_ne_true, mem_foldl_pushNew]

/-- Appending valid names always succeeds and adds each new name once, in order. -/
lemma appendMethods_names {names : List String} (h : ∀ name ∈ names, IsToken name)
    (methods : List MethodDescriptor) :
    ∃ methods', appendMethods methods names = some methods' ∧
      methods'.map (·.name) = names.foldl pushNew (methods.map (·.name)) ∧
      ∀ m ∈ methods', m ∈ methods ∨ m.name ∈ names ∧ m.validate = .ok () := by
  induction names generalizing methods with
  | nil => exact ⟨methods, rfl, rfl, fun m hm => Or.inl hm⟩
  | cons name names ih =>
    have htail : ∀ n ∈ names, IsToken n := fun n hn => h n (List.mem_cons_of_mem _ hn)
    have hany : methods.any (fun descriptor => descriptor.name == name) = true ↔
        name ∈ methods.map (·.name) := by
      simp only [List.any_eq_true, beq_iff_eq, List.mem_map]
    rw [appendMethods, List.foldl_cons]
    by_cases hmem : name ∈ methods.map (·.name)
    · obtain ⟨methods', hrun, hnames, hfrom⟩ := ih htail methods
      rw [if_pos (hany.mpr hmem)]
      refine ⟨methods', hrun, ?_, fun m hm => ?_⟩
      · rw [pushNew, if_pos hmem, hnames]
      · exact (hfrom m hm).imp_right (fun hm => ⟨List.mem_cons_of_mem _ hm.1, hm.2⟩)
    · have hname : IsToken name := h name List.mem_cons_self
      let d : MethodDescriptor := ⟨name, none, defaultOpenSchema, defaultOpenSchema, [], none⟩
      obtain ⟨methods', hrun, hnames, hfrom⟩ := ih htail (methods ++ [d])
      rw [if_neg (fun hc => hmem (hany.mp hc)), MethodDescriptor.opaqueOf,
        MethodDescriptor.new_of_isToken hname]
      refine ⟨methods', hrun, ?_, fun m hm => ?_⟩
      · rw [hnames, pushNew, if_neg hmem, List.map_append]
        rfl
      · rcases hfrom m hm with hm | hm
        · rcases List.mem_append.mp hm with hm | hm
          · exact Or.inl hm
          · obtain rfl := List.mem_singleton.mp hm
            refine Or.inr ⟨List.mem_cons_self, ?_⟩
            simp only [MethodDescriptor.validate, seq_eq_ok, validateToken_eq_ok, checkAll_eq_ok]
            exact ⟨hname, fun e he => absurd he List.not_mem_nil⟩
        · exact Or.inr ⟨List.mem_cons_of_mem _ hm.1, hm.2⟩

lemma validateMethodPattern_exact {method : String} (h : validateMethodPattern method = .ok ())
    (he : Text.endsWith ".*" method = false) : IsToken method := by
  rw [validateMethodPattern, Text.stripSuffix_eq_none.mpr he] at h
  exact validateToken_eq_ok.mp h

namespace PluginManifest

/-- What an accepted manifest satisfies. -/
structure Valid (manifest : PluginManifest) : Prop where
  id : IsToken manifest.id
  methods : ∀ m ∈ manifest.methods, validateMethodPattern m = .ok ()
  needs : ∀ n ∈ manifest.needs, IsToken n
  hosts : ∀ host ∈ manifest.allowedHosts, validateHostPattern host = .ok ()
  slots : ∀ slot ∈ manifest.slots, slot.phases ≠ []
  package : ∀ p, manifest.package = some p → p.validate = .ok () ∧ p.id = manifest.id

theorem validate_eq_ok {self : PluginManifest} : self.validate = .ok () ↔ self.Valid := by
  simp only [validate, validatePackage, validateSlot, seq_eq_ok, checkAll_eq_ok, checkSome_eq_ok,
    validateToken_eq_ok, ite_error_eq_ok, List.isEmpty_iff, not_not, and_true]
  constructor
  · rintro ⟨hid, hmethods, hneeds, hhosts, hslots, hpackage⟩
    exact ⟨hid, hmethods, hneeds, hhosts, hslots, hpackage⟩
  · intro h
    exact ⟨h.id, h.methods, h.needs, h.hosts, h.slots, h.package⟩

/-- The package normalisation starts from. -/
def basePackage (self : PluginManifest) : IpcPackageDescriptor :=
  self.package.getD ⟨self.id, none, none, none, [], [], [], [], none⟩

/-- The names of the methods of the normalised package. -/
def methodNames (self : PluginManifest) : List String :=
  match self.normalizedPackage with
  | some package => package.methods.map (·.name)
  | none => []

/-- The names of the events of the normalised package. -/
def eventNames (self : PluginManifest) : List String :=
  match self.normalizedPackage with
  | some package => package.events.map (·.name)
  | none => []

lemma isToken_of_mem_exactMethods {self : PluginManifest} (h : self.Valid) {name : String}
    (hname : name ∈ self.exactMethods) : IsToken name := by
  rw [exactMethods, List.mem_filter] at hname
  exact validateMethodPattern_exact (h.methods name hname.1) (by simpa using hname.2)

/-- Normalisation of an accepted manifest succeeds, keeps an explicit package's methods,
and otherwise makes a valid method of every exact name of the manifest. -/
theorem normalizedPackage_of_valid {self : PluginManifest} (h : self.Valid) :
    ∃ methods, self.normalizedPackage = some { self.basePackage with
        slots := mergeSlots self.basePackage.slots self.slots
        methods := methods
        requiredCapabilities := mergeManifestCapabilities
          self.basePackage.requiredCapabilities self.needs self.allowedHosts } ∧
      (∀ p, self.package = some p → methods = p.methods) ∧
      (self.package = none → methods.map (·.name) = self.exactMethods.foldl pushNew []) ∧
      ∀ m ∈ methods, m.validate = .ok () := by
  cases hp : self.package with
  | some p =>
    have hv := IpcPackageDescriptor.validate_eq_ok.mp (h.package p hp).1
    refine ⟨p.methods, ?_, fun q hq => by rw [Option.some.inj hq], nofun, hv.2.2.2.2.1.1⟩
    simp [normalizedPackage, basePackage, hp]
  | none =>
    obtain ⟨methods, hrun, hnames, hfrom⟩ :=
      appendMethods_names (fun n hn => isToken_of_mem_exactMethods h hn) []
    refine ⟨methods, ?_, nofun, fun _ => hnames, fun m hm => ?_⟩
    · simp [normalizedPackage, basePackage, hp, IpcPackageDescriptor.new_of_isToken h.id,
        Except.toOption, hrun]
    · rcases hfrom m hm with hm | hm
      · exact absurd hm List.not_mem_nil
      · exact hm.2

lemma normalizedPackage_isSome {self : PluginManifest} (h : self.Valid) :
    ∃ p, self.normalizedPackage = some p ∧ p.id = self.id := by
  obtain ⟨methods, hp, -⟩ := normalizedPackage_of_valid h
  refine ⟨_, hp, ?_⟩
  cases hq : self.package with
  | none => simp [basePackage, hq]
  | some q => simpa [basePackage, hq] using (h.package q hq).2

lemma mem_methodNames {self : PluginManifest} {p : IpcPackageDescriptor}
    (h : self.normalizedPackage = some p) {name : String} :
    name ∈ self.methodNames ↔ ∃ m ∈ p.methods, m.name = name := by
  simp [methodNames, h]

/-- A manifest without a package owns its exact methods, one with a package owns the
methods of the package. -/
lemma mem_methodNames_of_valid {self : PluginManifest} (h : self.Valid) {name : String} :
    name ∈ self.methodNames ↔
      match self.package with
      | some p => name ∈ p.methods.map (·.name)
      | none => name ∈ self.exactMethods := by
  obtain ⟨methods, hp, hsome, hnone, -⟩ := normalizedPackage_of_valid h
  rw [mem_methodNames hp]
  cases hq : self.package with
  | some p => simp [hsome p hq]
  | none =>
    have hmem : (∃ m ∈ methods, m.name = name) ↔ name ∈ methods.map (·.name) := by simp
    simp only [hmem, hnone hq, mem_foldl_pushNew, List.not_mem_nil, false_or]

lemma mem_dispatchMethods {self : PluginManifest} {pattern : String} :
    pattern ∈ self.dispatchMethods ↔ pattern ∈ self.methods ∨ pattern ∈ self.methodNames := by
  unfold dispatchMethods methodNames
  cases self.normalizedPackage with
  | none => simp
  | some p => simp [ExtTreeSet.mem_insertMany_list]

end PluginManifest

end Pingling.HostContract
