import Pingling.HostContract.MergedContract

/-!
# The indexes of the merged contract

The registry answers who owns a name from two maps and lists the owned names from the
packages. `OwnerIndex` says that a map of owners is the inverse of what the packages
declare; it holds of both maps in every reachable registry, and it makes the listing and
the maps agree.
-/

namespace Pingling.HostContract
open Lib Std

/-- A descriptor with the id of the package that declares it. -/
structure OwnedDescriptor (α : Type) where
  packageId : String
  descriptor : α

abbrev OwnedMethodDescriptor := OwnedDescriptor MethodDescriptor

abbrev OwnedEventDescriptor := OwnedDescriptor EventDescriptor

section

variable {α : Type}

/-- By name, and by package where two names are equal. -/
def OwnedDescriptor.compareBy (name : α → String) (left right : OwnedDescriptor α) : Ordering :=
  (compare (name left.descriptor) (name right.descriptor)).then
    (compare left.packageId right.packageId)

instance (name : α → String) : TransCmp (OwnedDescriptor.compareBy name) :=
  inferInstanceAs (TransCmp (compareLex
    (compareOn (fun owned : OwnedDescriptor α => name owned.descriptor))
    (compareOn OwnedDescriptor.packageId)))

/-- Every item of every package with the id of its package, sorted. -/
def ownedDescriptors (items : IpcPackageDescriptor → List α) (name : α → String)
    (packages : BTreeMap String IpcPackageDescriptor) : List (OwnedDescriptor α) :=
  sortBy (OwnedDescriptor.compareBy name)
    (packages.toList.flatMap fun (packageId, package) =>
      (items package).map fun descriptor => ⟨packageId, descriptor⟩)

end

/-- The names of all methods and of all events. -/
structure ContractInventorySummary where
  methods : List String
  events : List String
  deriving DecidableEq

namespace MergedContractRegistry

/-- What `packages` iterates over. -/
def packageList (self : MergedContractRegistry) : List IpcPackageDescriptor :=
  self.packages.values

/-- The methods of all packages, in order of their names. -/
def methods (self : MergedContractRegistry) : List OwnedMethodDescriptor :=
  ownedDescriptors (·.methods) (·.name) self.packages

/-- The events of all packages, in order of their names. -/
def events (self : MergedContractRegistry) : List OwnedEventDescriptor :=
  ownedDescriptors (·.events) (·.name) self.packages

/-- What the listings of methods and events name. -/
def inventorySummary (self : MergedContractRegistry) : ContractInventorySummary where
  methods := self.methods.map fun item => item.descriptor.name
  events := self.events.map fun item => item.descriptor.name

end MergedContractRegistry

/-- The owner of a name is the package that declares it; no package declares a name twice. -/
structure OwnerIndex (names : IpcPackageDescriptor → List String)
    (packages : BTreeMap String IpcPackageDescriptor) (owners : BTreeMap String String) :
    Prop where
  distinct : ∀ (id : String) (p : IpcPackageDescriptor),
    packages[id]? = some p → (names p).Nodup
  owner : ∀ name id : String,
    owners[name]? = some id ↔ ∃ p, packages[id]? = some p ∧ name ∈ names p

namespace OwnerIndex

section

variable {names : IpcPackageDescriptor → List String}
  {packages : BTreeMap String IpcPackageDescriptor} {owners : BTreeMap String String}

lemma empty : OwnerIndex names ∅ ∅ where
  distinct id p h := by simp at h
  owner name id := by simp

/-- Packages that declare one name are one package. -/
lemma unique (h : OwnerIndex names packages owners) {id id' name : String}
    {p p' : IpcPackageDescriptor} (hp : packages[id]? = some p) (hp' : packages[id']? = some p')
    (hname : name ∈ names p) (hname' : name ∈ names p') : id = id' := by
  have howner := (h.owner name id).mpr ⟨p, hp, hname⟩
  have howner' := (h.owner name id').mpr ⟨p', hp', hname'⟩
  exact Option.some.inj (howner.symm.trans howner')

/-- A new package becomes the owner of names that had none. -/
lemma insert (h : OwnerIndex names packages owners) {α : Type} {f : α → String} {xs : List α}
    {id : String} {p : IpcPackageDescriptor} (hxs : xs.map f = names p) (hnew : id ∉ packages)
    (hdistinct : (names p).Nodup) (hfree : ∀ name ∈ names p, owners[name]? = none) :
    OwnerIndex names (packages.insert id p)
      (xs.foldl (fun owners x => owners.insert (f x) id) owners) where
  distinct id' p' hp' := by
    simp only [ExtTreeMap.getElem?_insert, LawfulEqCmp.compare_eq_iff_eq] at hp'
    split_ifs at hp' with hid
    · rw [← Option.some.inj hp']
      exact hdistinct
    · exact h.distinct id' p' hp'
  owner name id' := by
    rw [BTreeMap.getElem?_foldl_insert, hxs, ExtTreeMap.getElem?_insert]
    simp only [LawfulEqCmp.compare_eq_iff_eq]
    by_cases hid : id = id'
    · subst hid
      have hold : owners[name]? ≠ some id := fun howner => by
        obtain ⟨p', hp', -⟩ := (h.owner name id).mp howner
        exact hnew (ExtTreeMap.isSome_getElem?_iff_mem.mp (by simp [hp']))
      by_cases hname : name ∈ names p <;> simp [hname, hold]
    · rw [if_neg hid]
      by_cases hname : name ∈ names p
      · have hnone : ¬∃ p', packages[id']? = some p' ∧ name ∈ names p' := fun hp' => by
          have howner := (h.owner name id').mpr hp'
          simp [hfree name hname] at howner
        simp [hname, hid, hnone]
      · rw [if_neg hname, h.owner name id']

/-- The owner of a name is the one package that declares it, and it declares it once. -/
lemma owner_iff_once (h : OwnerIndex names packages owners)
    (hkey : ∀ (id : String) (p : IpcPackageDescriptor), packages[id]? = some p → p.id = id)
    (name id : String) :
    owners[name]? = some id ↔
      (∃ p ∈ packages.values, p.id = id ∧ (names p).count name = 1) ∧
        ∀ p ∈ packages.values, p.id ≠ id → name ∉ names p := by
  rw [h.owner name id]
  constructor
  · rintro ⟨p, hp, hname⟩
    refine ⟨⟨p, BTreeMap.mem_values.mpr ⟨id, hp⟩, hkey id p hp,
      List.count_eq_one_of_mem (h.distinct id p hp) hname⟩, ?_⟩
    intro p' hp' hne hname'
    obtain ⟨id', hid'⟩ := BTreeMap.mem_values.mp hp'
    apply hne
    rw [hkey id' p' hid', h.unique hid' hp hname' hname]
  · rintro ⟨⟨p, hp, hid, hcount⟩, -⟩
    obtain ⟨id', hid'⟩ := BTreeMap.mem_values.mp hp
    have heq : id' = id := (hkey id' p hid').symm.trans hid
    subst heq
    exact ⟨p, hid', List.count_pos_iff.mp (by omega)⟩

end

section

variable {α : Type} {items : IpcPackageDescriptor → List α} {name : α → String}
  {packages : BTreeMap String IpcPackageDescriptor} {owners : BTreeMap String String}

lemma mem_ownedDescriptors {owned : OwnedDescriptor α} :
    owned ∈ ownedDescriptors items name packages ↔
      ∃ p, packages[owned.packageId]? = some p ∧ owned.descriptor ∈ items p := by
  simp only [ownedDescriptors, mem_sortBy, List.mem_flatMap, List.mem_map, Prod.exists,
    ExtTreeMap.mem_toList_iff_getElem?_eq_some]
  constructor
  · rintro ⟨id, p, hp, descriptor, hmem, rfl⟩
    exact ⟨p, hp, hmem⟩
  · rintro ⟨p, hp, hmem⟩
    exact ⟨owned.packageId, p, hp, owned.descriptor, hmem, rfl⟩

lemma mem_ownedNames (h : OwnerIndex (fun p => (items p).map name) packages owners)
    {n : String} :
    n ∈ (ownedDescriptors items name packages).map (fun owned => name owned.descriptor) ↔
      n ∈ owners.keys := by
  rw [ExtTreeMap.mem_keys, ← ExtTreeMap.isSome_getElem?_iff_mem, Option.isSome_iff_exists]
  simp only [h.owner, List.mem_map, mem_ownedDescriptors]
  constructor
  · rintro ⟨owned, ⟨p, hp, hmem⟩, rfl⟩
    exact ⟨owned.packageId, p, hp, owned.descriptor, hmem, rfl⟩
  · rintro ⟨id, p, hp, descriptor, hmem, rfl⟩
    exact ⟨⟨id, descriptor⟩, ⟨p, hp, hmem⟩, rfl⟩

/-- No name is listed twice: not by one package, and not by two. -/
lemma ownedNames_nodup (h : OwnerIndex (fun p => (items p).map name) packages owners) :
    ((ownedDescriptors items name packages).map
      (fun owned => name owned.descriptor)).Nodup := by
  have hperm := (sortBy_perm (OwnedDescriptor.compareBy name)
    (packages.toList.flatMap fun entry =>
      (items entry.2).map (OwnedDescriptor.mk entry.1))).map (fun owned => name owned.descriptor)
  apply hperm.nodup_iff.mpr
  rw [List.map_flatMap]
  apply List.nodup_flatMap.mpr
  constructor
  · rintro ⟨id, p⟩ hp
    rw [List.map_map]
    exact h.distinct id p (ExtTreeMap.mem_toList_iff_getElem?_eq_some.mp hp)
  · refine List.Pairwise.imp_of_mem ?_
      (ExtTreeMap.distinct_keys_toList (t := packages))
    rintro ⟨id, p⟩ ⟨id', p'⟩ hp hp' hne n hn hn'
    rw [ExtTreeMap.mem_toList_iff_getElem?_eq_some] at hp hp'
    simp only [List.map_map] at hn hn'
    exact hne (LawfulEqCmp.compare_eq_iff_eq.mpr (h.unique hp hp' hn hn'))

lemma ownedNames_sorted (h : OwnerIndex (fun p => (items p).map name) packages owners) :
    ((ownedDescriptors items name packages).map
      (fun owned => name owned.descriptor)).Pairwise (fun a b => compare a b = .lt) := by
  have hsorted := sortBy_pairwise (OwnedDescriptor.compareBy name)
    (packages.toList.flatMap fun entry =>
      (items entry.2).map (OwnedDescriptor.mk entry.1))
  have hnodup := List.pairwise_map.mp h.ownedNames_nodup
  apply List.pairwise_map.mpr
  refine List.Pairwise.imp₂ ?_ hsorted hnodup
  intro left right hle hne
  unfold NotAfter OwnedDescriptor.compareBy at hle
  cases hcompare : compare (name left.descriptor) (name right.descriptor) with
  | lt => rfl
  | eq => exact absurd (LawfulEqCmp.compare_eq_iff_eq.mp hcompare) hne
  | gt => simp [hcompare] at hle

/-- The listing and the map name the same names in the same order. -/
lemma ownedNames_eq_keys (h : OwnerIndex (fun p => (items p).map name) packages owners) :
    (ownedDescriptors items name packages).map (fun owned => name owned.descriptor) =
      owners.keys := by
  have hperm : ((ownedDescriptors items name packages).map
      (fun owned => name owned.descriptor)).Perm owners.keys :=
    (List.perm_ext_iff_of_nodup h.ownedNames_nodup ExtTreeMap.nodup_keys).mpr
      (fun _ => h.mem_ownedNames)
  apply hperm.eq_of_pairwise _ h.ownedNames_sorted ExtTreeMap.ordered_keys
  intro a b _ _ hab hba
  exact absurd hba (OrientedCmp.not_lt_of_lt hab)

end
end OwnerIndex

namespace MergedContractRegistry

/-- What every call of `registerPackage` keeps. -/
structure Indexed (r : MergedContractRegistry) : Prop where
  key : ∀ (id : String) (p : IpcPackageDescriptor), r.packages[id]? = some p → p.id = id
  methods : OwnerIndex (fun p => p.methods.map (·.name)) r.packages r.methodOwners
  events : OwnerIndex (fun p => p.events.map (·.name)) r.packages r.eventOwners

lemma Indexed.new : new.Indexed where
  key id p h := by simp [MergedContractRegistry.new] at h
  methods := OwnerIndex.empty
  events := OwnerIndex.empty

lemma registerPackage_of_error {self : MergedContractRegistry} {package : IpcPackageDescriptor}
    {e : HostFailure} (h : (self.registerPackage package).1 = .error e) :
    (self.registerPackage package).2 = self := by
  unfold registerPackage at h ⊢
  split at h
  · rfl
  · cases h

lemma checkPackage_eq_ok {self : MergedContractRegistry} {package : IpcPackageDescriptor} :
    self.checkPackage package = .ok () ↔
      package.validate = .ok () ∧ package.id ∉ self.packages ∧
        (∀ method ∈ package.methods, self.methodOwners[method.name]? = none) ∧
        (∀ event ∈ package.events, self.eventOwners[event.name]? = none) := by
  simp only [checkPackage, seq_eq_ok, ite_error_eq_ok, checkAll_eq_ok,
    PluginRegistry.checkUnowned_eq_ok, ExtTreeMap.contains_iff_mem]

lemma Indexed.insertPackage {self : MergedContractRegistry} (h : self.Indexed)
    {package : IpcPackageDescriptor} (hcheck : self.checkPackage package = .ok ()) :
    (self.insertPackage package).Indexed := by
  obtain ⟨hvalid, hnew, hmethods, hevents⟩ := checkPackage_eq_ok.mp hcheck
  obtain ⟨-, -, -, -, ⟨-, hmethodNames⟩, ⟨-, heventNames⟩, -⟩ :=
    IpcPackageDescriptor.validate_eq_ok.mp hvalid
  refine ⟨?_, h.methods.insert rfl hnew hmethodNames ?_, h.events.insert rfl hnew heventNames ?_⟩
  · intro id p hp
    simp only [MergedContractRegistry.insertPackage, ExtTreeMap.getElem?_insert,
      LawfulEqCmp.compare_eq_iff_eq] at hp
    split_ifs at hp with hid
    · rw [← Option.some.inj hp, hid]
    · exact h.key id p hp
  · simpa using hmethods
  · simpa using hevents

lemma Indexed.registerPackage {self : MergedContractRegistry} (h : self.Indexed)
    (package : IpcPackageDescriptor) : (self.registerPackage package).2.Indexed := by
  unfold MergedContractRegistry.registerPackage
  split
  · exact h
  · rename_i hcheck
    exact h.insertPackage hcheck

/-- The registries that calls of `registerPackage` build from an empty one. -/
def Reachable (self : MergedContractRegistry) : Prop :=
  Lib.Reachable (fun r package => (registerPackage r package).2) new self

theorem Reachable.indexed {self : MergedContractRegistry} (h : self.Reachable) : self.Indexed :=
  h.invariant Indexed.new fun _ package _ hr => hr.registerPackage package

/-- The owner of a name is the one registered package that declares it, once; the listings
have every owned name once, in increasing order, and the summary is the keys of the two
maps; a refused package leaves the registry as it was. -/
theorem contract_indexed (self : MergedContractRegistry) (h : self.Reachable) :
    (∀ method id, self.methodOwner method = some id ↔
      (∃ p ∈ self.packageList, p.id = id ∧ (p.methods.map (·.name)).count method = 1) ∧
        ∀ p ∈ self.packageList, p.id ≠ id → method ∉ p.methods.map (·.name)) ∧
    (∀ event id, self.eventOwner event = some id ↔
      (∃ p ∈ self.packageList, p.id = id ∧ (p.events.map (·.name)).count event = 1) ∧
        ∀ p ∈ self.packageList, p.id ≠ id → event ∉ p.events.map (·.name)) ∧
    (self.methods.map (·.descriptor.name)).Pairwise (fun a b => compare a b = .lt) ∧
    (∀ method, method ∈ self.methods.map (·.descriptor.name) ↔
      ∃ id, self.methodOwner method = some id) ∧
    (self.events.map (·.descriptor.name)).Pairwise (fun a b => compare a b = .lt) ∧
    (∀ event, event ∈ self.events.map (·.descriptor.name) ↔
      ∃ id, self.eventOwner event = some id) ∧
    self.inventorySummary = ⟨self.methodOwners.keys, self.eventOwners.keys⟩ ∧
    (∀ package e, (self.registerPackage package).1 = .error e →
      (self.registerPackage package).2 = self) := by
  have hindexed := h.indexed
  have hmem : ∀ (owners : BTreeMap String String) (name : String),
      name ∈ owners.keys ↔ ∃ id, owners[name]? = some id := by
    intro owners name
    rw [ExtTreeMap.mem_keys, ← ExtTreeMap.isSome_getElem?_iff_mem, Option.isSome_iff_exists]
  refine ⟨hindexed.methods.owner_iff_once hindexed.key,
    hindexed.events.owner_iff_once hindexed.key, hindexed.methods.ownedNames_sorted,
    ?_, hindexed.events.ownedNames_sorted, ?_, ?_, fun _ _ => registerPackage_of_error⟩
  · intro method
    exact hindexed.methods.mem_ownedNames.trans (hmem _ _)
  · intro event
    exact hindexed.events.mem_ownedNames.trans (hmem _ _)
  · unfold inventorySummary MergedContractRegistry.methods MergedContractRegistry.events
    rw [hindexed.methods.ownedNames_eq_keys, hindexed.events.ownedNames_eq_keys]

/-- A package whose methods and events have open schemas. -/
def openPackage (id : String) (methods events : List String) : IpcPackageDescriptor :=
  ⟨id, none, none, none,
    methods.map fun name => ⟨name, none, defaultOpenSchema, defaultOpenSchema, [], none⟩,
    events.map fun name => ⟨name, none, defaultOpenSchema, none, none⟩, [], [], none⟩

/-- A registry with two packages. -/
def geoRegistry : MergedContractRegistry :=
  ((new.registerPackage (openPackage "geo" ["geo.current"] ["geo.changed"])).2.registerPackage
    (openPackage "auth" ["auth.login", "auth.logout"] [])).2

/-- A third package that wants a method of the first one is refused. -/
theorem contract_indexed_geo :
    let audit := openPackage "audit" ["audit.list", "geo.current"] ["audit.added"]
    (geoRegistry.registerPackage audit).1 =
        .error (.invalidInput "method geo.current is already owned by geo") ∧
      (geoRegistry.registerPackage audit).2 = geoRegistry ∧
      geoRegistry.methodOwner "geo.current" = some "geo" ∧
      geoRegistry.inventorySummary =
        ⟨["auth.login", "auth.logout", "geo.current"], ["geo.changed"]⟩ := by
  intro audit
  have hreachable : geoRegistry.Reachable := (Lib.Reachable.init.step _).step _
  have hindexed := contract_indexed geoRegistry hreachable
  have hrefused : (geoRegistry.registerPackage audit).1 =
      .error (.invalidInput "method geo.current is already owned by geo") := by decide
  refine ⟨hrefused, hindexed.2.2.2.2.2.2.2 audit _ hrefused, ?_, ?_⟩
  · apply (hindexed.1 "geo.current" "geo").mpr
    decide
  · rw [hindexed.2.2.2.2.2.2.1]
    decide

end MergedContractRegistry

end Pingling.HostContract
