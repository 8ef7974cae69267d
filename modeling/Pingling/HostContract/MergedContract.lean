import Pingling.HostContract.Registration

/-!
# The contract of a registry

`mergedContract` normalises every manifest and registers the packages again, with the
package validator this time. Since registered manifests are compatible, only that validator
can refuse, and it refuses exactly the host patterns with a star. The owners it records are
the plugins whose normalised package declares the name.
-/

namespace Pingling.HostContract
open Lib Std

lemma isToken_iff_of_host {host : String} (h : validateHostPattern host = .ok ()) :
    IsToken host ↔ '*' ∉ host.toList := by
  obtain ⟨hne, hchars⟩ := validateHostPattern_eq_ok.mp h
  simp only [Text.allChars, List.all_eq_true] at hchars
  constructor
  · intro htoken hstar
    have halphabet := htoken.2
    simp only [Text.allChars, List.all_eq_true] at halphabet
    exact absurd (halphabet '*' hstar) (by decide)
  · intro hstar
    refine ⟨hne, ?_⟩
    simp only [Text.allChars, List.all_eq_true]
    intro c hc
    have hhost := hchars c hc
    have hcne : c ≠ '*' := fun heq => hstar (heq ▸ hc)
    simp only [isHostChar, isTokenChar, Bool.or_eq_true, beq_iff_eq] at hhost ⊢
    tauto

namespace PluginManifest

/-- The package validator accepts the package of an accepted manifest exactly when no
allowed host has a star. -/
theorem normalizedPackage_validate {m : PluginManifest} (h : m.Valid)
    {p : IpcPackageDescriptor} (hp : m.normalizedPackage = some p) :
    p.validate = .ok () ↔ ∀ host ∈ m.allowedHosts, '*' ∉ host.toList := by
  obtain ⟨methods, hp', hsome, hnone, hmethods⟩ := normalizedPackage_of_valid h
  rw [hp', Option.some.injEq] at hp
  subst hp
  have hbase : m.basePackage.validate = .ok () := by
    unfold basePackage
    cases hq : m.package with
    | some q => exact (h.package q hq).1
    | none => simp [IpcPackageDescriptor.validate_eq_ok, h.id]
  have hnames : (methods.map (·.name)).Nodup := by
    cases hq : m.package with
    | some q =>
      rw [hsome q hq]
      exact (IpcPackageDescriptor.validate_eq_ok.mp (h.package q hq).1).2.2.2.2.1.2
    | none =>
      rw [hnone hq]
      exact foldl_pushNew_nodup List.nodup_nil
  obtain ⟨hid, hdomain, hversion, hcompat, -, hevents, hcaps, hcomponent⟩ :=
    IpcPackageDescriptor.validate_eq_ok.mp hbase
  have hhosts : (∀ c ∈ mergeManifestCapabilities m.basePackage.requiredCapabilities m.needs
      m.allowedHosts, IsToken c.name) ↔ ∀ host ∈ m.allowedHosts, '*' ∉ host.toList := by
    simp only [mem_mergeManifestCapabilities]
    constructor
    · intro hall host hhost
      have htoken := hall ⟨.httpHost, host⟩ (Or.inr (Or.inr ⟨host, hhost, rfl⟩))
      exact (isToken_iff_of_host (h.hosts host hhost)).mp htoken
    · rintro hall c (hc | ⟨need, hneed, rfl⟩ | ⟨host, hhost, rfl⟩)
      · exact hcaps c hc
      · exact h.needs need hneed
      · exact (isToken_iff_of_host (h.hosts host hhost)).mpr (hall host hhost)
  rw [IpcPackageDescriptor.validate_eq_ok, hhosts]
  constructor
  · rintro ⟨-, -, -, -, -, -, hall, -⟩
    exact hall
  · intro hall
    exact ⟨hid, hdomain, hversion, hcompat, ⟨hmethods, hnames⟩, hevents, hall, hcomponent⟩

end PluginManifest

namespace PluginRegistry

/-- The merged registry indexes exactly the packages of the given manifests. -/
structure MergedFrom (ms : List PluginManifest) (merged : MergedContractRegistry) : Prop where
  packages : ∀ id : String, id ∈ merged.packages ↔ ∃ m ∈ ms, m.id = id
  methods : ∀ name id : String,
    merged.methodOwners[name]? = some id ↔ ∃ m ∈ ms, name ∈ m.methodNames ∧ m.id = id
  events : ∀ name id : String,
    merged.eventOwners[name]? = some id ↔ ∃ m ∈ ms, name ∈ m.eventNames ∧ m.id = id

lemma mergedFrom_new : MergedFrom [] .new where
  packages id := by simp [MergedContractRegistry.new]
  methods name id := by simp [MergedContractRegistry.new]
  events name id := by simp [MergedContractRegistry.new]

lemma checkUnowned_eq_ok {kind : String} {owners : BTreeMap String String} {name : String} :
    MergedContractRegistry.checkUnowned kind owners name = .ok () ↔ owners[name]? = none := by
  unfold MergedContractRegistry.checkUnowned
  cases owners[name]? <;> simp

/-- Names that no manifest shares with the given one have no owner among them. -/
lemma owners_eq_none {ms : List PluginManifest} {owners : BTreeMap String String}
    {names : PluginManifest → List String} {m : PluginManifest} {α : Type} {f : α → String}
    {xs : List α} (hxs : xs.map f = names m)
    (h : ∀ name id : String, owners[name]? = some id ↔ ∃ m ∈ ms, name ∈ names m ∧ m.id = id)
    (hdisjoint : ∀ m' ∈ ms, (names m).Disjoint (names m')) :
    ∀ x ∈ xs, owners[f x]? = none := by
  intro x hx
  rw [Option.eq_none_iff_forall_not_mem]
  intro id hid
  obtain ⟨m', hm', hname, -⟩ := (h (f x) id).mp hid
  exact hdisjoint m' hm' (hxs ▸ List.mem_map_of_mem hx) hname

/-- Recording one more manifest as the owner of its names. -/
lemma owners_insert {ms : List PluginManifest} {owners : BTreeMap String String}
    {names : PluginManifest → List String} {m : PluginManifest} {α : Type} {f : α → String}
    {xs : List α} (hxs : xs.map f = names m)
    (h : ∀ name id : String, owners[name]? = some id ↔ ∃ m ∈ ms, name ∈ names m ∧ m.id = id)
    (hdisjoint : ∀ m' ∈ ms, (names m).Disjoint (names m')) (name id : String) :
    (xs.foldl (fun owners x => owners.insert (f x) m.id) owners)[name]? = some id ↔
      ∃ m' ∈ m :: ms, name ∈ names m' ∧ m'.id = id := by
  rw [BTreeMap.getElem?_foldl_insert, hxs]
  simp only [List.mem_cons, exists_eq_or_imp]
  split_ifs with hname
  · have hothers : ¬∃ m' ∈ ms, name ∈ names m' ∧ m'.id = id := fun ⟨m', hm', hname', _⟩ =>
      hdisjoint m' hm' hname hname'
    simp [hname, hothers]
  · rw [h name id]
    simp [hname]

/-- One more compatible manifest: only the package validator can refuse it. -/
lemma registerPackage_spec {ms : List PluginManifest} {merged : MergedContractRegistry}
    (h : MergedFrom ms merged) {m : PluginManifest} {p : IpcPackageDescriptor}
    (hp : m.normalizedPackage = some p) (hid : p.id = m.id)
    (hcompatible : ∀ m' ∈ ms, Compatible m m') :
    (p.validate = .ok () ∧
      (merged.registerPackage p).1 = .ok () ∧ MergedFrom (m :: ms) (merged.registerPackage p).2) ∨
    ∃ e, p.validate = .error e ∧ (merged.registerPackage p).1 = .error e := by
  have hmethodNames : p.methods.map (·.name) = m.methodNames := by
    simp [PluginManifest.methodNames, hp]
  have heventNames : p.events.map (·.name) = m.eventNames := by
    simp [PluginManifest.eventNames, hp]
  cases hv : p.validate with
  | error e =>
    refine Or.inr ⟨e, rfl, ?_⟩
    simp [MergedContractRegistry.registerPackage, MergedContractRegistry.checkPackage, hv,
      Bind.bind, Except.bind]
  | ok u =>
    have hfresh : merged.packages.contains p.id = false := by
      rw [Bool.eq_false_iff, ne_eq, ExtTreeMap.contains_iff_mem, h.packages, hid]
      rintro ⟨m', hm', heq⟩
      exact (hcompatible m' hm').id heq.symm
    have hmethods : ∀ d ∈ p.methods, merged.methodOwners[d.name]? = none :=
      owners_eq_none hmethodNames h.methods (fun m' hm' => (hcompatible m' hm').methods)
    have hevents : ∀ d ∈ p.events, merged.eventOwners[d.name]? = none :=
      owners_eq_none heventNames h.events (fun m' hm' => (hcompatible m' hm').events)
    have hcheck : merged.checkPackage p = .ok () := by
      simp only [MergedContractRegistry.checkPackage, seq_eq_ok, ite_error_eq_ok, checkAll_eq_ok,
        checkUnowned_eq_ok, hfresh]
      exact ⟨hv, Bool.false_ne_true, hmethods, hevents⟩
    have hrun : merged.registerPackage p = (.ok (), merged.insertPackage p) := by
      rw [MergedContractRegistry.registerPackage, hcheck]
    rw [hrun]
    refine Or.inl ⟨rfl, rfl, ?_, ?_, ?_⟩
    · intro id
      simp only [MergedContractRegistry.insertPackage, ExtTreeMap.mem_insert, h.packages, hid,
        LawfulEqCmp.compare_eq_iff_eq, List.mem_cons, exists_eq_or_imp]
    · intro name id
      simp only [MergedContractRegistry.insertPackage, hid]
      exact owners_insert hmethodNames h.methods (fun m' hm' => (hcompatible m' hm').methods)
        name id
    · intro name id
      simp only [MergedContractRegistry.insertPackage, hid]
      exact owners_insert heventNames h.events (fun m' hm' => (hcompatible m' hm').events) name id

/-- The merging loop over pairwise compatible manifests. -/
lemma mergeManifests_spec {ms done : List PluginManifest} {merged : MergedContractRegistry}
    (h : MergedFrom done merged) (hvalid : ∀ m ∈ ms, m.Valid)
    (hpairwise : ms.Pairwise Compatible) (hdone : ∀ m ∈ ms, ∀ m' ∈ done, Compatible m m') :
    ((∃ merged', mergeManifests ms merged = .ok merged') ↔
      ∀ m ∈ ms, ∀ host ∈ m.allowedHosts, '*' ∉ host.toList) ∧
    ∀ merged', mergeManifests ms merged = .ok merged' →
      MergedFrom (ms.reverse ++ done) merged' := by
  induction ms generalizing done merged with
  | nil => simp [mergeManifests, h]
  | cons m ms ih =>
    obtain ⟨hm, hpairwise⟩ := List.pairwise_cons.mp hpairwise
    have hmvalid := hvalid m List.mem_cons_self
    obtain ⟨p, hp, hid⟩ := PluginManifest.normalizedPackage_isSome hmvalid
    have hstar := PluginManifest.normalizedPackage_validate hmvalid hp
    rcases registerPackage_spec h hp hid (hdone m List.mem_cons_self) with
      ⟨hv, hok, hfrom⟩ | ⟨e, hv, herror⟩
    · have hrun : mergeManifests (m :: ms) merged =
          mergeManifests ms (merged.registerPackage p).2 := by
        have hpair : merged.registerPackage p = (.ok (), (merged.registerPackage p).2) := by
          rw [← hok]
        rw [mergeManifests, hp]
        simp only
        rw [hpair]
      have hdone' : ∀ m' ∈ ms, ∀ m'' ∈ m :: done, Compatible m' m'' := by
        intro m' hm' m'' hm''
        rcases List.mem_cons.mp hm'' with rfl | hm''
        · exact (hm m' hm').symm
        · exact hdone m' (List.mem_cons_of_mem _ hm') m'' hm''
      obtain ⟨hiff, hspec⟩ := ih hfrom (fun m' hm' => hvalid m' (List.mem_cons_of_mem _ hm'))
        hpairwise hdone'
      rw [hrun]
      constructor
      · rw [hiff, List.forall_mem_cons]
        exact ⟨fun hall => ⟨hstar.mp hv, hall⟩, fun hall => hall.2⟩
      · intro merged' hmerged
        rw [List.reverse_cons, List.append_assoc]
        exact hspec merged' hmerged
    · have hrun : mergeManifests (m :: ms) merged = .error e := by
        have hpair : merged.registerPackage p = (.error e, (merged.registerPackage p).2) := by
          rw [← herror]
        rw [mergeManifests, hp]
        simp only
        rw [hpair]
      rw [hrun]
      refine ⟨⟨nofun, fun hall => ?_⟩, nofun⟩
      have hok := hstar.mpr (hall m List.mem_cons_self)
      rw [hv] at hok
      exact nomatch hok

variable {self : PluginRegistry}

/-- Iteration over a well-formed registry is in strictly increasing order of the ids. -/
lemma WellFormed.manifests_pairwise (h : self.WellFormed) : self.manifests.Pairwise Compatible := by
  refine h.manifests_pairwise_lt.imp_of_mem (fun {m m'} hm hm' hlt => ?_)
  apply h.compatible m hm m' hm'
  rintro rfl
  rw [compare_self] at hlt
  exact nomatch hlt

lemma WellFormed.mergedContract_spec (h : self.WellFormed) :
    ((∃ merged, self.mergedContract = .ok merged) ↔
      ∀ m ∈ self.manifests, ∀ host ∈ m.allowedHosts, '*' ∉ host.toList) ∧
    ∀ merged, self.mergedContract = .ok merged → MergedFrom self.manifests.reverse merged := by
  obtain ⟨hiff, hspec⟩ := mergeManifests_spec mergedFrom_new h.valid h.manifests_pairwise
    (fun m _ m' hm' => absurd hm' List.not_mem_nil)
  refine ⟨hiff, fun merged hmerged => ?_⟩
  have hfrom := hspec merged hmerged
  rwa [List.append_nil] at hfrom

/-- The merged contract of a reachable registry exists, with every normalised package
accepted and in conflict with no other, exactly when no allowed host has a star. -/
theorem mergedContract_exists_iff (h : Reachable self) :
    ((∃ merged, self.mergedContract = .ok merged) ∧
      ∀ m ∈ self.manifests, ∃ p, m.normalizedPackage = some p ∧ p.validate = .ok () ∧
        ∀ m' ∈ self.manifests, m' ≠ m → ∀ p', m'.normalizedPackage = some p' →
          p.id ≠ p'.id ∧ (p.methods.map (·.name)).Disjoint (p'.methods.map (·.name)) ∧
            (p.events.map (·.name)).Disjoint (p'.events.map (·.name))) ↔
    ∀ m ∈ self.manifests, ∀ host ∈ m.allowedHosts, '*' ∉ host.toList := by
  have hwf := h.wellFormed
  rw [hwf.mergedContract_spec.1]
  constructor
  · exact And.left
  · intro hstar
    refine ⟨hstar, fun m hm => ?_⟩
    obtain ⟨p, hp, hid⟩ := PluginManifest.normalizedPackage_isSome (hwf.valid m hm)
    refine ⟨p, hp, ?_, fun m' hm' hne p' hp' => ?_⟩
    · exact (PluginManifest.normalizedPackage_validate (hwf.valid m hm) hp).mpr (hstar m hm)
    · have hcompatible := hwf.compatible m hm m' hm' hne.symm
      obtain ⟨q, hq, hid'⟩ := PluginManifest.normalizedPackage_isSome (hwf.valid m' hm')
      rw [hp', Option.some.injEq] at hq
      subst hq
      have hmethods := hcompatible.methods
      have hevents := hcompatible.events
      simp only [PluginManifest.methodNames, PluginManifest.eventNames, hp, hp'] at hmethods hevents
      exact ⟨by rw [hid, hid']; exact hcompatible.id, hmethods, hevents⟩

theorem mergedContract_exists_iff_identity :
    let r := (new.register (manifestFor "identity" 0 "auth.session" [.exec] .singleOwner)).2
    ((∃ merged, r.mergedContract = .ok merged) ∧
      ∀ m ∈ r.manifests, ∃ p, m.normalizedPackage = some p ∧ p.validate = .ok () ∧
        ∀ m' ∈ r.manifests, m' ≠ m → ∀ p', m'.normalizedPackage = some p' →
          p.id ≠ p'.id ∧ (p.methods.map (·.name)).Disjoint (p'.methods.map (·.name)) ∧
            (p.events.map (·.name)).Disjoint (p'.events.map (·.name))) ↔
    ∀ m ∈ r.manifests, ∀ host ∈ m.allowedHosts, '*' ∉ host.toList :=
  mergedContract_exists_iff (Lib.Reachable.init.step _)

/-- A manifest for one host pattern. -/
def wildcardHost : PluginManifest :=
  ⟨"example.config", 100, [], [], [], ["*.example.test"], none⟩

/-- Registration takes a host pattern with a star; the merged contract then is an error. -/
theorem mergedContract_wildcardHost :
    Reachable (new.register wildcardHost).2 ∧ (new.register wildcardHost).1 = .ok () ∧
      ¬∃ merged, (new.register wildcardHost).2.mergedContract = .ok merged := by
  have hok : (new.register wildcardHost).1 = .ok () := by decide
  have hreach : Reachable (new.register wildcardHost).2 := Lib.Reachable.init.step wildcardHost
  refine ⟨hreach, hok, fun hmerged => ?_⟩
  have hmem : wildcardHost ∈ (new.register wildcardHost).2.manifests := by
    rw [mem_manifests hreach.wellFormed.keyed]
    rfl
  have hstar := hreach.wellFormed.mergedContract_spec.1.mp hmerged wildcardHost hmem
    "*.example.test" List.mem_cons_self
  exact hstar (by decide)

end PluginRegistry

/-- The manifest dispatches the name, not a wildcard, and an explicit package declares it. -/
def PluginManifest.DeclaresMethod (m : PluginManifest) (name : String) : Prop :=
  name ∈ m.dispatchMethods ∧ Text.endsWith ".*" name = false ∧
    ∀ p, m.package = some p → name ∈ p.methods.map (·.name)

lemma PluginManifest.declaresMethod_iff {m : PluginManifest} (h : m.Valid) {name : String} :
    m.DeclaresMethod name ↔ name ∈ m.methodNames := by
  unfold DeclaresMethod
  rw [mem_dispatchMethods, mem_methodNames_of_valid h]
  cases hq : m.package with
  | none =>
    simp only [exactMethods, List.mem_filter, Bool.not_eq_true', reduceCtorEq, false_implies,
      implies_true, and_true]
    tauto
  | some q =>
    simp only [Option.some.injEq, forall_eq']
    constructor
    · rintro ⟨-, -, hname⟩
      exact hname
    · intro hname
      obtain ⟨d, hd, rfl⟩ := List.mem_map.mp hname
      have hvalid := (IpcPackageDescriptor.validate_eq_ok.mp (h.package q hq).1).2.2.2.2.1.1 d hd
      simp only [MethodDescriptor.validate, seq_eq_ok, validateToken_eq_ok] at hvalid
      exact ⟨Or.inr hname, not_endsWith_wildcard_of_isToken hvalid.1, hname⟩

namespace PluginRegistry

variable {self : PluginRegistry}

/-- The registry's own owner lookup finds the one manifest that declares the method. -/
lemma WellFormed.methodOwner_eq_some (h : self.WellFormed) {name id : String} :
    self.methodOwner name = some id ↔ ∃ m ∈ self.manifests, name ∈ m.methodNames ∧ m.id = id := by
  have hfound : ∀ id, self.methodOwner name = some id →
      ∃ m ∈ self.manifests, name ∈ m.methodNames ∧ m.id = id := by
    intro id hid
    obtain ⟨m, hm, hid⟩ := List.exists_of_findSome?_eq_some hid
    refine ⟨m, hm, ?_⟩
    unfold PluginManifest.methodNames
    cases hp : m.normalizedPackage with
    | none => simp [hp] at hid
    | some p => simpa [hp] using hid
  refine ⟨hfound id, ?_⟩
  rintro ⟨m, hm, hname, rfl⟩
  cases howner : self.methodOwner name with
  | none => exact absurd hname (methodOwner_eq_none.mp howner m hm)
  | some id =>
    obtain ⟨m', hm', hname', rfl⟩ := hfound id howner
    by_contra hne
    have hcompatible := h.compatible m hm m' hm' (fun heq => hne (by rw [heq]))
    exact hcompatible.methods hname hname'

/-- A method that the contracts of registered plugins declare is declared by one of them,
which both owner lookups report. -/
theorem declaresMethod_unique (h : Reachable self) (name : String) :
    (∀ m ∈ self.manifests, ∀ m' ∈ self.manifests,
      m.DeclaresMethod name → m'.DeclaresMethod name → m = m') ∧
    (∀ id, self.methodOwner name = some id ↔
      ∃ m ∈ self.manifests, m.DeclaresMethod name ∧ m.id = id) ∧
    ∀ merged, self.mergedContract = .ok merged → ∀ id, merged.methodOwner name = some id ↔
      ∃ m ∈ self.manifests, m.DeclaresMethod name ∧ m.id = id := by
  have hwf := h.wellFormed
  have hdeclares : ∀ id, (∃ m ∈ self.manifests, m.DeclaresMethod name ∧ m.id = id) ↔
      ∃ m ∈ self.manifests, name ∈ m.methodNames ∧ m.id = id := fun id =>
    exists_congr (fun m => and_congr_right (fun hm => by
      rw [PluginManifest.declaresMethod_iff (hwf.valid m hm)]))
  refine ⟨fun m hm m' hm' hname hname' => ?_, fun id => ?_, fun merged hmerged id => ?_⟩
  · rw [PluginManifest.declaresMethod_iff (hwf.valid m hm)] at hname
    rw [PluginManifest.declaresMethod_iff (hwf.valid m' hm')] at hname'
    by_contra hne
    exact (hwf.compatible m hm m' hm' hne).methods hname hname'
  · rw [hwf.methodOwner_eq_some, hdeclares]
  · have hfrom := hwf.mergedContract_spec.2 merged hmerged
    rw [MergedContractRegistry.methodOwner, hfrom.methods, hdeclares]
    simp only [List.mem_reverse]

theorem declaresMethod_unique_login :
    let r := (new.register ⟨"identity", 0, ["identity.login"], [], [], [], none⟩).2
    (∀ m ∈ r.manifests, ∀ m' ∈ r.manifests,
      m.DeclaresMethod "identity.login" → m'.DeclaresMethod "identity.login" → m = m') ∧
    (∀ id, r.methodOwner "identity.login" = some id ↔
      ∃ m ∈ r.manifests, m.DeclaresMethod "identity.login" ∧ m.id = id) ∧
    ∀ merged, r.mergedContract = .ok merged → ∀ id,
      merged.methodOwner "identity.login" = some id ↔
        ∃ m ∈ r.manifests, m.DeclaresMethod "identity.login" ∧ m.id = id :=
  declaresMethod_unique (Lib.Reachable.init.step _) "identity.login"

/-- A plugin whose explicit package leaves out an exact method of the manifest. -/
def undeclaredLogin (id : String) : PluginManifest :=
  ⟨id, 0, ["identity.login"], [], [], [],
    some ⟨id, none, none, none, [], [], [], [], none⟩⟩

/-- An explicit package hides exact methods of its manifest from the ownership check: two
such plugins register and dispatch the same name. -/
theorem dispatchMethods_shared :
    let r := ((new.register (undeclaredLogin "example.first")).2.register
      (undeclaredLogin "example.second")).2
    Reachable r ∧ undeclaredLogin "example.first" ∈ r.manifests ∧
      undeclaredLogin "example.second" ∈ r.manifests ∧
      "identity.login" ∈ (undeclaredLogin "example.first").dispatchMethods ∧
      "identity.login" ∈ (undeclaredLogin "example.second").dispatchMethods ∧
      Text.endsWith ".*" "identity.login" = false ∧
      undeclaredLogin "example.first" ≠ undeclaredLogin "example.second" := by
  intro r
  have hreach : Reachable r :=
    (Lib.Reachable.init.step (undeclaredLogin "example.first")).step
      (undeclaredLogin "example.second")
  have hkeyed := hreach.wellFormed.keyed
  refine ⟨hreach, (mem_manifests hkeyed).mpr rfl, (mem_manifests hkeyed).mpr rfl, ?_, ?_, ?_, ?_⟩
  · exact PluginManifest.mem_dispatchMethods.mpr (Or.inl List.mem_cons_self)
  · exact PluginManifest.mem_dispatchMethods.mpr (Or.inl List.mem_cons_self)
  · decide
  · intro heq
    exact absurd (congrArg PluginManifest.id heq) (by decide)

/-- Some entry of a slot list binds the slot phase under the policy. -/
def DeclaresSlot (slots : List SlotBinding) (slot : Slot) (phase : SlotPhase)
    (policy : SlotPolicy) : Prop :=
  ∃ b ∈ slots, b.name = slot ∧ phase ∈ b.phases ∧ b.policy = policy

instance (slots : List SlotBinding) (slot : Slot) (phase : SlotPhase) (policy : SlotPolicy) :
    Decidable (DeclaresSlot slots slot phase policy) :=
  inferInstanceAs (Decidable (∃ b ∈ slots, _))

/-- The plan reads the slots of the manifest itself. -/
lemma WellFormed.planned_iff (h : self.WellFormed) {m : PluginManifest} (hm : m ∈ self.manifests)
    {slot : Slot} {phase : SlotPhase} {policy : SlotPolicy} :
    (∃ b ∈ self.bindingsFor slot phase, b.pluginId = m.id ∧ b.policy = policy) ↔
      DeclaresSlot m.slots slot phase policy := by
  constructor
  · rintro ⟨b, hb, hid, hpolicy⟩
    obtain ⟨m', hm', s, hs, hname, hphase, rfl⟩ := mem_bindingsFor.mp hb
    obtain rfl := h.eq_of_id hm' hm hid
    exact ⟨s, hs, hname, hphase, hpolicy⟩
  · rintro ⟨s, hs, hname, hphase, hpolicy⟩
    exact ⟨_, mem_bindingsFor.mpr ⟨m, hm, s, hs, hname, hphase, rfl⟩, rfl, hpolicy⟩

/-- The contract of a registered plugin declares the slots that run exactly when its
manifest repeats what an explicit package declares. -/
theorem declared_iff_planned_iff (h : Reachable self) {m : PluginManifest}
    (hm : m ∈ self.manifests) (slot : Slot) (phase : SlotPhase) (policy : SlotPolicy) :
    ((∃ p, m.normalizedPackage = some p ∧ DeclaresSlot p.slots slot phase policy) ↔
      ∃ b ∈ self.bindingsFor slot phase, b.pluginId = m.id ∧ b.policy = policy) ↔
    ∀ q, m.package = some q → DeclaresSlot q.slots slot phase policy →
      DeclaresSlot m.slots slot phase policy := by
  have hwf := h.wellFormed
  obtain ⟨methods, hp, -⟩ := PluginManifest.normalizedPackage_of_valid (hwf.valid m hm)
  have hdeclared : (∃ p, m.normalizedPackage = some p ∧ DeclaresSlot p.slots slot phase policy) ↔
      (∃ q, m.package = some q ∧ DeclaresSlot q.slots slot phase policy) ∨
        DeclaresSlot m.slots slot phase policy := by
    rw [hp]
    simp only [Option.some.injEq, exists_eq_left', DeclaresSlot, mem_mergeSlots, or_and_right,
      exists_or]
    cases hq : m.package with
    | none => simp [PluginManifest.basePackage, hq]
    | some q => simp [PluginManifest.basePackage, hq]
  rw [hdeclared, hwf.planned_iff hm]
  constructor
  · intro hiff q hq hslot
    exact hiff.mp (Or.inl ⟨q, hq, hslot⟩)
  · intro hrepeat
    constructor
    · rintro (⟨q, hq, hslot⟩ | hslot)
      · exact hrepeat q hq hslot
      · exact hslot
    · exact Or.inr

/-- A plugin whose package alone declares a slot. -/
def packageSlot : PluginManifest :=
  ⟨"example.config", 0, [], [], [], [],
    some ⟨"example.config", none, none, none, [], [],
      [⟨⟨"config.process"⟩, [.exec], .singleOwner⟩], [], none⟩⟩

theorem declared_iff_planned_iff_packageSlot :
    ((∃ p, packageSlot.normalizedPackage = some p ∧
        DeclaresSlot p.slots ⟨"config.process"⟩ .exec .singleOwner) ↔
      ∃ b ∈ (new.register packageSlot).2.bindingsFor ⟨"config.process"⟩ .exec,
        b.pluginId = packageSlot.id ∧ b.policy = .singleOwner) ↔
    ∀ q, packageSlot.package = some q →
      DeclaresSlot q.slots ⟨"config.process"⟩ .exec .singleOwner →
        DeclaresSlot packageSlot.slots ⟨"config.process"⟩ .exec .singleOwner :=
  have hreach : Reachable (new.register packageSlot).2 := Lib.Reachable.init.step packageSlot
  declared_iff_planned_iff hreach ((mem_manifests hreach.wellFormed.keyed).mpr rfl) _ _ _

/-- A slot that only the package declares is in the contract and in no plan. -/
theorem packageSlot_not_planned :
    Reachable (new.register packageSlot).2 ∧ packageSlot ∈ (new.register packageSlot).2.manifests ∧
      (∃ p, packageSlot.normalizedPackage = some p ∧
        DeclaresSlot p.slots ⟨"config.process"⟩ .exec .singleOwner) ∧
      (new.register packageSlot).2.bindingsFor ⟨"config.process"⟩ .exec = [] := by
  have hreach : Reachable (new.register packageSlot).2 := Lib.Reachable.init.step packageSlot
  refine ⟨hreach, (mem_manifests hreach.wellFormed.keyed).mpr rfl, ?_, ?_⟩
  · exact ⟨_, rfl, by decide⟩
  · decide

end PluginRegistry

end Pingling.HostContract
