import Pingling.Lib.Collections
import Pingling.Domain.Types

/-!
# The registry of cores

Registration adds a core and its descriptor, discovery adds descriptors of binaries on the
search path, and one of the registered cores is active. The cores themselves are opaque
here: `C` is their type.
-/

namespace Pingling.Cores
open Lib Domain Std

structure CoreRegistry (C : Type) where
  cores : BTreeMap String C
  descriptors : BTreeMap String CoreDescriptor
  active : Option String

/-- What a search of the path answers while one call runs. -/
structure Search where
  which : String → Option String
  pathExists : String → Bool

namespace CoreRegistry

variable {C : Type}

def new : CoreRegistry C :=
  ⟨∅, ∅, none⟩

def register (self : CoreRegistry C) (descriptor : CoreDescriptor) (core : C) :
    CoreRegistry C :=
  let key := descriptor.coreType
  { cores := self.cores.insert key core
    descriptors := self.descriptors.insert key descriptor
    active := if self.active.isNone then some key else self.active }

def knownCores : List (String × String) :=
  [("sing-box", "Sing-Box"), ("xray", "Xray")]

def discoverSystemCore (search : Search) (self : CoreRegistry C) (known : String × String) :
    CoreRegistry C :=
  if self.descriptors.contains known.1 then self
  else
    match search.which known.1 with
    | none => self
    | some path =>
      let descriptor : CoreDescriptor :=
        ⟨known.1, known.2, .system, some path, search.pathExists path⟩
      { self with descriptors := self.descriptors.insert known.1 descriptor }

def discoverSystemCores (self : CoreRegistry C) (search : Search) : CoreRegistry C :=
  knownCores.foldl (discoverSystemCore search) self

def discover (self : CoreRegistry C) (search : Search) : CoreRegistry C :=
  let found := self.discoverSystemCores search
  if found.active.isNone then { found with active := found.cores.keys.head? } else found

def list (self : CoreRegistry C) : List CoreDescriptor :=
  self.descriptors.values

def descriptor (self : CoreRegistry C) (coreType : String) : Option CoreDescriptor :=
  self.descriptors[coreType]?

def activeType (self : CoreRegistry C) : Option String :=
  self.active

def activeCore (self : CoreRegistry C) : Option C := do
  let key ← self.active
  self.cores[key]?

def switch (self : CoreRegistry C) (coreType : String) :
    Except VpnError Unit × CoreRegistry C :=
  match self.descriptors[coreType]? with
  | none => (.error (.coreNotFound coreType), self)
  | some desc =>
    if !desc.available then
      (.error (.prerequisiteMissing s!"core '{coreType}' is not available"), self)
    else if !self.cores.contains coreType then
      (.error (.coreNotFound s!"{coreType} (no registered instance)"), self)
    else (.ok (), { self with active := some coreType })

def setBinaryPath (self : CoreRegistry C) (pathExists : String → Bool)
    (coreType path : String) : Except VpnError Unit × CoreRegistry C :=
  match self.descriptors[coreType]? with
  | none => (.error (.coreNotFound coreType), self)
  | some desc =>
    let desc :=
      { desc with binaryPath := some path, available := pathExists path, source := .linked path }
    (.ok (), { self with descriptors := self.descriptors.insert coreType desc })

end CoreRegistry

inductive RegistryCall (C : Type) where
  | register (descriptor : CoreDescriptor) (core : C)
  | discover (search : Search)
  | switch (coreType : String)
  | setBinaryPath (pathExists : String → Bool) (coreType path : String)

namespace RegistryCall

variable {C : Type}

def run : RegistryCall C → CoreRegistry C → CoreRegistry C
  | register descriptor core, r => r.register descriptor core
  | discover search, r => r.discover search
  | switch coreType, r => (r.switch coreType).2
  | setBinaryPath pathExists coreType path, r => (r.setBinaryPath pathExists coreType path).2

/-- The core that a call registers under a type. -/
def registeredAs (coreType : String) : RegistryCall C → Option C
  | register descriptor core => if descriptor.coreType = coreType then some core else none
  | _ => none

end RegistryCall

section

variable {C : Type}

/-- The registry after a sequence of calls on a new one. -/
def registryAfter (calls : List (RegistryCall C)) : CoreRegistry C :=
  calls.foldl (fun r call => call.run r) CoreRegistry.new

/-- The core that was registered last under a type. -/
def lastRegistered (coreType : String) (calls : List (RegistryCall C)) : Option C :=
  calls.reverse.findSome? (RegistryCall.registeredAs coreType)

lemma registryAfter_append (calls : List (RegistryCall C)) (call : RegistryCall C) :
    registryAfter (calls ++ [call]) = call.run (registryAfter calls) := by
  simp [registryAfter]

lemma lastRegistered_append (coreType : String) (calls : List (RegistryCall C))
    (call : RegistryCall C) :
    lastRegistered coreType (calls ++ [call]) =
      (call.registeredAs coreType).or (lastRegistered coreType calls) := by
  unfold lastRegistered
  rw [List.reverse_append, List.reverse_singleton, List.singleton_append, List.findSome?_cons]
  cases call.registeredAs coreType <;> rfl

lemma registered_of_registeredAs {coreType : String} {call : RegistryCall C} {core : C}
    (h : call.registeredAs coreType = some core) :
    ∃ descriptor, call = .register descriptor core ∧ descriptor.coreType = coreType := by
  cases call with
  | register descriptor core' =>
    rw [RegistryCall.registeredAs] at h
    split_ifs at h with htype
    exact ⟨descriptor, by rw [Option.some.inj h], htype⟩
  | discover search => simp [RegistryCall.registeredAs] at h
  | switch k => simp [RegistryCall.registeredAs] at h
  | setBinaryPath pathExists k path => simp [RegistryCall.registeredAs] at h

/-- Something is registered under a type exactly when some call registers it. -/
lemma isSome_lastRegistered {coreType : String} {calls : List (RegistryCall C)} :
    (lastRegistered coreType calls).isSome = true ↔
      ∃ descriptor core, .register descriptor core ∈ calls ∧ descriptor.coreType = coreType := by
  rw [lastRegistered, List.isSome_findSome?, List.any_eq_true]
  constructor
  · rintro ⟨call, hmem, hsome⟩
    obtain ⟨core, hcore⟩ := Option.isSome_iff_exists.mp hsome
    obtain ⟨descriptor, rfl, htype⟩ := registered_of_registeredAs hcore
    exact ⟨descriptor, core, List.mem_reverse.mp hmem, htype⟩
  · rintro ⟨descriptor, core, hmem, htype⟩
    refine ⟨.register descriptor core, List.mem_reverse.mpr hmem, ?_⟩
    simp [RegistryCall.registeredAs, htype]

end

namespace CoreRegistry

variable {C : Type}

/-- A descriptor stands under its own type, every core has one, and the active type is that
of a core, of which there is one as soon as there are cores. -/
structure Consistent (r : CoreRegistry C) : Prop where
  key : ∀ (k : String) (d : CoreDescriptor), r.descriptors[k]? = some d → d.coreType = k
  described : ∀ k, k ∈ r.cores → k ∈ r.descriptors
  idle : r.active = none → ∀ k, k ∉ r.cores
  selected : ∀ k, r.active = some k → k ∈ r.cores

lemma Consistent.new : (new : CoreRegistry C).Consistent where
  key k d h := by simp [CoreRegistry.new] at h
  described k h := absurd h ExtTreeMap.not_mem_empty
  idle _ k := ExtTreeMap.not_mem_empty
  selected k h := by simp [CoreRegistry.new] at h

section

variable {r : CoreRegistry C}

/-- A descriptor may be written under its own type at any time. -/
lemma Consistent.insertDescriptor (h : r.Consistent) (d : CoreDescriptor) :
    Consistent { r with descriptors := r.descriptors.insert d.coreType d } where
  key k e he := by
    simp only [ExtTreeMap.getElem?_insert, LawfulEqCmp.compare_eq_iff_eq] at he
    split_ifs at he with hk
    · rw [← Option.some.inj he, hk]
    · exact h.key k e he
  described k hk := ExtTreeMap.mem_insert.mpr (Or.inr (h.described k hk))
  idle := h.idle
  selected := h.selected

lemma Consistent.register (h : r.Consistent) (descriptor : CoreDescriptor) (core : C) :
    (r.register descriptor core).Consistent where
  key := (h.insertDescriptor descriptor).key
  described k hk := by
    simp only [CoreRegistry.register, ExtTreeMap.mem_insert] at hk ⊢
    exact hk.imp_right (h.described k)
  idle hidle := by
    simp only [CoreRegistry.register] at hidle
    cases hactive : r.active <;> simp [hactive] at hidle
  selected k hk := by
    simp only [CoreRegistry.register, ExtTreeMap.mem_insert,
      LawfulEqCmp.compare_eq_iff_eq] at hk ⊢
    split_ifs at hk with hnone
    · exact Or.inl (Option.some.inj hk)
    · exact Or.inr (h.selected k hk)

lemma Consistent.discoverSystemCore (h : r.Consistent) (search : Search)
    (known : String × String) : (discoverSystemCore search r known).Consistent := by
  unfold CoreRegistry.discoverSystemCore
  split_ifs
  · exact h
  · split
    · exact h
    · rename_i path _
      exact h.insertDescriptor ⟨known.1, known.2, .system, some path, search.pathExists path⟩

@[simp] lemma cores_discoverSystemCores (r : CoreRegistry C) (search : Search) :
    (r.discoverSystemCores search).cores = r.cores := by
  have hstep : ∀ (r : CoreRegistry C) known,
      (CoreRegistry.discoverSystemCore search r known).cores = r.cores := by
    intro r known
    unfold CoreRegistry.discoverSystemCore
    split_ifs
    · rfl
    · split <;> rfl
  simp [discoverSystemCores, knownCores, hstep]

lemma Consistent.discoverSystemCores (h : r.Consistent) (search : Search) :
    (r.discoverSystemCores search).Consistent :=
  (h.discoverSystemCore search _).discoverSystemCore search _

/-- Discovery selects nothing new: where no core was active there is none to select. -/
lemma Consistent.discover_eq (h : r.Consistent) (search : Search) :
    r.discover search = r.discoverSystemCores search := by
  unfold CoreRegistry.discover
  dsimp only
  split_ifs with hnone
  · have hactive := Option.isNone_iff_eq_none.mp hnone
    have hempty : (r.discoverSystemCores search).cores.keys = [] := by
      apply List.eq_nil_iff_forall_not_mem.mpr
      intro k hk
      exact (h.discoverSystemCores search).idle hactive k (ExtTreeMap.mem_keys.mp hk)
    rw [hempty, List.head?_nil, ← hactive]
  · rfl

lemma switch_eq_ok {k : String} :
    (r.switch k).1 = .ok () ↔
      (∃ d, r.descriptors[k]? = some d ∧ d.available = true) ∧ k ∈ r.cores := by
  unfold CoreRegistry.switch
  rw [← ExtTreeMap.contains_iff_mem]
  cases hdesc : r.descriptors[k]? with
  | none => simp
  | some d =>
    cases havail : d.available <;> cases hcore : r.cores.contains k <;> simp [havail]

/-- A refusal changes nothing. -/
lemma switch_of_error {k : String} {e : VpnError} (h : (r.switch k).1 = .error e) :
    (r.switch k).2 = r := by
  unfold CoreRegistry.switch at h ⊢
  split at h
  · rfl
  · split_ifs at h ⊢
    · rfl
    · rfl

lemma switch_of_ok {k : String} (h : (r.switch k).1 = .ok ()) :
    (r.switch k).2 = { r with active := some k } := by
  unfold CoreRegistry.switch at h ⊢
  split at h
  · simp at h
  · split_ifs at h ⊢
    rfl

/-- An available core is refused only for want of an instance. -/
lemma switch_of_not_mem {d : CoreDescriptor} {k : String} (hdesc : r.descriptors[k]? = some d)
    (havail : d.available = true) (hcore : k ∉ r.cores) :
    r.switch k = (.error (.coreNotFound s!"{k} (no registered instance)"), r) := by
  simp [CoreRegistry.switch, hdesc, havail, hcore]

lemma Consistent.switch (h : r.Consistent) (k : String) : (r.switch k).2.Consistent := by
  cases hresult : (r.switch k).1 with
  | error e =>
    rw [switch_of_error hresult]
    exact h
  | ok =>
    rw [switch_of_ok hresult]
    exact { h with
      idle := fun hnone => by simp at hnone
      selected := fun k' hk' => Option.some.inj hk' ▸ (switch_eq_ok.mp hresult).2 }

lemma setBinaryPath_of_error {pathExists : String → Bool} {k path : String} {e : VpnError}
    (h : (r.setBinaryPath pathExists k path).1 = .error e) :
    (r.setBinaryPath pathExists k path).2 = r := by
  unfold CoreRegistry.setBinaryPath at h ⊢
  split at h
  · rfl
  · simp at h

lemma Consistent.setBinaryPath (h : r.Consistent) (pathExists : String → Bool)
    (k path : String) : (r.setBinaryPath pathExists k path).2.Consistent := by
  unfold CoreRegistry.setBinaryPath
  split
  · exact h
  · rename_i desc hdesc
    have hkey := h.key k desc hdesc
    subst hkey
    exact h.insertDescriptor
      { desc with binaryPath := some path, available := pathExists path, source := .linked path }

@[simp] lemma cores_setBinaryPath (r : CoreRegistry C) (pathExists : String → Bool)
    (k path : String) : (r.setBinaryPath pathExists k path).2.cores = r.cores := by
  unfold CoreRegistry.setBinaryPath
  split <;> rfl

@[simp] lemma cores_switch (r : CoreRegistry C) (k : String) :
    (r.switch k).2.cores = r.cores := by
  cases hresult : (r.switch k).1 with
  | error e => rw [switch_of_error hresult]
  | ok => rw [switch_of_ok hresult]

@[simp] lemma cores_discover (r : CoreRegistry C) (search : Search) :
    (r.discover search).cores = r.cores := by
  unfold CoreRegistry.discover
  dsimp only
  split_ifs <;> simp

end

theorem Consistent.run {r : CoreRegistry C} (h : r.Consistent) (call : RegistryCall C) :
    (call.run r).Consistent := by
  cases call with
  | register descriptor core => exact h.register descriptor core
  | discover search =>
    rw [RegistryCall.run, h.discover_eq]
    exact h.discoverSystemCores search
  | switch k => exact h.switch k
  | setBinaryPath pathExists k path => exact h.setBinaryPath pathExists k path

lemma getElem?_cores_run (r : CoreRegistry C) (call : RegistryCall C) (k : String) :
    (call.run r).cores[k]? = (call.registeredAs k).or r.cores[k]? := by
  cases call with
  | register descriptor core =>
    simp only [RegistryCall.run, RegistryCall.registeredAs, register,
      ExtTreeMap.getElem?_insert, LawfulEqCmp.compare_eq_iff_eq]
    split_ifs <;> rfl
  | discover search => simp [RegistryCall.run, RegistryCall.registeredAs]
  | switch k' => simp [RegistryCall.run, RegistryCall.registeredAs]
  | setBinaryPath pathExists k' path => simp [RegistryCall.run, RegistryCall.registeredAs]

theorem Consistent.registryAfter (calls : List (RegistryCall C)) :
    (registryAfter calls).Consistent := by
  induction calls using List.reverseRecOn with
  | nil => exact Consistent.new
  | append_singleton calls call ih =>
    rw [registryAfter_append]
    exact ih.run call

/-- The core under a type is the one registered last. -/
theorem getElem?_cores_registryAfter (calls : List (RegistryCall C)) (k : String) :
    (Cores.registryAfter calls).cores[k]? = lastRegistered k calls := by
  induction calls using List.reverseRecOn with
  | nil => simp [Cores.registryAfter, new, lastRegistered]
  | append_singleton calls call ih =>
    rw [registryAfter_append, getElem?_cores_run, ih, lastRegistered_append]

lemma mem_cores_registryAfter {calls : List (RegistryCall C)} {k : String} :
    k ∈ (Cores.registryAfter calls).cores ↔
      ∃ descriptor core, .register descriptor core ∈ calls ∧ descriptor.coreType = k := by
  rw [← isSome_lastRegistered, ← getElem?_cores_registryAfter, ExtTreeMap.isSome_getElem?_iff_mem]

/-- Some core is active as soon as one was registered; the active core is the one registered
last under its type, every registered core has a descriptor, and a call that is refused
changes nothing. -/
theorem active_core_is_registered (calls : List (RegistryCall C)) :
    ((Cores.registryAfter calls).activeType = none ↔
      ∀ descriptor core, .register descriptor core ∉ calls) ∧
    (∀ k, (Cores.registryAfter calls).activeType = some k →
      ∃ core, (Cores.registryAfter calls).activeCore = some core ∧
        lastRegistered k calls = some core) ∧
    (∀ descriptor core, .register descriptor core ∈ calls →
      ((Cores.registryAfter calls).descriptor descriptor.coreType).isSome = true) ∧
    (∀ k e, ((Cores.registryAfter calls).switch k).1 = .error e →
      ((Cores.registryAfter calls).switch k).2 = Cores.registryAfter calls) ∧
    (∀ pathExists k path e,
      ((Cores.registryAfter calls).setBinaryPath pathExists k path).1 = .error e →
      ((Cores.registryAfter calls).setBinaryPath pathExists k path).2 =
        Cores.registryAfter calls) := by
  have hr := Consistent.registryAfter calls
  refine ⟨⟨?_, ?_⟩, ?_, ?_, fun k e => switch_of_error, fun p k path e => setBinaryPath_of_error⟩
  · intro hnone descriptor core hmem
    exact hr.idle hnone _ (mem_cores_registryAfter.mpr ⟨descriptor, core, hmem, rfl⟩)
  · intro hall
    by_contra hsome
    obtain ⟨k, hk⟩ := Option.ne_none_iff_exists'.mp hsome
    obtain ⟨descriptor, core, hmem, -⟩ := mem_cores_registryAfter.mp (hr.selected k hk)
    exact hall descriptor core hmem
  · intro k hk
    have hcore := ExtTreeMap.isSome_getElem?_iff_mem.mpr (hr.selected k hk)
    obtain ⟨core, hcore⟩ := Option.isSome_iff_exists.mp hcore
    refine ⟨core, ?_, (getElem?_cores_registryAfter calls k) ▸ hcore⟩
    unfold activeType at hk
    simp [activeCore, hk, hcore]
  · intro descriptor core hmem
    have hcore := mem_cores_registryAfter.mpr ⟨descriptor, core, hmem, rfl⟩
    exact ExtTreeMap.isSome_getElem?_iff_mem.mpr (hr.described _ hcore)

/-- An available core can be selected exactly when a core of its type was registered. One
that was only discovered or linked is refused, and the refusal says so. -/
theorem available_switch (calls : List (RegistryCall C)) (d : CoreDescriptor)
    (hlist : d ∈ (Cores.registryAfter calls).list) (havail : d.available = true) :
    (((Cores.registryAfter calls).switch d.coreType).1 = .ok () ↔
      ∃ descriptor core, .register descriptor core ∈ calls ∧
        descriptor.coreType = d.coreType) ∧
    ((¬∃ descriptor core, .register descriptor core ∈ calls ∧
        descriptor.coreType = d.coreType) →
      (Cores.registryAfter calls).switch d.coreType =
        (.error (.coreNotFound s!"{d.coreType} (no registered instance)"),
          Cores.registryAfter calls)) := by
  have hr := Consistent.registryAfter calls
  obtain ⟨k, hk⟩ := BTreeMap.mem_values.mp hlist
  have hkey := hr.key k d hk
  subst hkey
  rw [← mem_cores_registryAfter, switch_eq_ok]
  exact ⟨⟨And.right, fun hcore => ⟨⟨d, hk, havail⟩, hcore⟩⟩, switch_of_not_mem hk havail⟩

/-- A registered core and one that is found on the path. -/
def mockedAndFound : List (RegistryCall Unit) :=
  [.discover ⟨fun core => if core = "xray" then some "/usr/bin/xray" else none, fun _ => true⟩,
    .register ⟨"mock", "Mock", .mocked, none, true⟩ ()]

/-- Both are listed as available, and only the registered one can be selected. -/
theorem available_switch_mock :
    ((Cores.registryAfter mockedAndFound).switch "mock").1 = .ok () ∧
      (Cores.registryAfter mockedAndFound).switch "xray" =
        (.error (.coreNotFound "xray (no registered instance)"),
          Cores.registryAfter mockedAndFound) := by
  have hmock : (⟨"mock", "Mock", .mocked, none, true⟩ : CoreDescriptor) ∈
      (Cores.registryAfter mockedAndFound).list :=
    BTreeMap.mem_values.mpr ⟨"mock", rfl⟩
  have hxray : (⟨"xray", "Xray", .system, some "/usr/bin/xray", true⟩ : CoreDescriptor) ∈
      (Cores.registryAfter mockedAndFound).list :=
    BTreeMap.mem_values.mpr ⟨"xray", rfl⟩
  constructor
  · apply (available_switch _ _ hmock rfl).1.mpr
    exact ⟨_, (), List.mem_cons_of_mem _ (List.mem_singleton_self _), rfl⟩
  · apply (available_switch _ _ hxray rfl).2
    rintro ⟨descriptor, core, hmem, htype⟩
    simp only [mockedAndFound, List.mem_cons, List.not_mem_nil, or_false, reduceCtorEq,
      false_or, RegistryCall.register.injEq] at hmem
    rw [hmem.1] at htype
    revert htype
    decide

/-- Discovery lists a core as available that no call has registered, and selecting it is
refused. -/
theorem discovered_core_refused :
    ∃ d ∈ (Cores.registryAfter
        [RegistryCall.discover (C := Unit)
          ⟨fun core => if core = "xray" then some "/usr/bin/xray" else none,
            fun _ => true⟩]).list,
      d.available = true ∧
        ((Cores.registryAfter
          [RegistryCall.discover (C := Unit)
            ⟨fun core => if core = "xray" then some "/usr/bin/xray" else none,
              fun _ => true⟩]).switch d.coreType).1 =
          .error (.coreNotFound "xray (no registered instance)") := by
  refine ⟨⟨"xray", "Xray", .system, some "/usr/bin/xray", true⟩,
    BTreeMap.mem_values.mpr ⟨"xray", ?_⟩, rfl, ?_⟩
  · simp [Cores.registryAfter, RegistryCall.run, discover, discoverSystemCores, knownCores,
      discoverSystemCore, new]
  · simp [Cores.registryAfter, RegistryCall.run, discover, discoverSystemCores, knownCores,
      discoverSystemCore, new, switch]
    rfl

end CoreRegistry

end Pingling.Cores
