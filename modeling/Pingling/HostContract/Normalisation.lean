import Pingling.HostContract.Manifest

/-!
# Normalising a package again

`normalizedPackage` extends a package by what its manifest lists. It takes nothing away, and
a manifest whose package is normalised already has nothing to add to it.
-/

namespace Pingling.HostContract
open Lib

/-- Elements appended to a list, each of which was not there when it was appended. -/
def AppendsNew {α : Type} (before after : List α) : Prop :=
  ∃ added, after = before ++ added ∧ added.Nodup ∧ ∀ a ∈ added, a ∉ before

lemma AppendsNew.isPrefix {α : Type} {before after : List α} (h : AppendsNew before after) :
    before <+: after := by
  obtain ⟨added, rfl, -⟩ := h
  exact List.prefix_append before added

lemma mergeSlots_again (package manifest : List SlotBinding) :
    mergeSlots (mergeSlots package manifest) manifest = mergeSlots package manifest := by
  rw [mergeSlots]
  split_ifs with hempty
  · -- nothing was listed, neither by the package nor by the manifest
    have hmerged := List.isEmpty_iff.mp hempty
    rw [hmerged, List.eq_nil_iff_forall_not_mem]
    intro b hb
    have hmem : b ∈ mergeSlots package manifest := mem_mergeSlots.mpr (Or.inr hb)
    rw [hmerged] at hmem
    exact List.not_mem_nil hmem
  · exact foldl_pushNew_of_forall_mem fun b hb => mem_mergeSlots.mpr (Or.inr hb)

lemma mergeSlots_appendsNew {package : List SlotBinding} (h : package ≠ [])
    (manifest : List SlotBinding) : AppendsNew package (mergeSlots package manifest) := by
  rw [mergeSlots, if_neg (mt List.isEmpty_iff.mp h)]
  exact foldl_pushNew_eq_append package manifest

lemma mergeSlots_prefix (package manifest : List SlotBinding) :
    package <+: mergeSlots package manifest := by
  by_cases h : package = []
  · rw [h]
    exact List.nil_prefix
  · exact (mergeSlots_appendsNew h manifest).isPrefix

/-- What the needs and the hosts of a manifest require. -/
def manifestCapabilities (needs allowedHosts : List String) : List HostCapabilityDescriptor :=
  needs.map (fun need => ⟨.need, need⟩) ++ allowedHosts.map (fun host => ⟨.httpHost, host⟩)

lemma mergeManifestCapabilities_eq (capabilities : List HostCapabilityDescriptor)
    (needs allowedHosts : List String) :
    mergeManifestCapabilities capabilities needs allowedHosts =
      (manifestCapabilities needs allowedHosts).foldl pushNew capabilities := by
  rw [mergeManifestCapabilities, manifestCapabilities, List.foldl_append]

lemma mergeManifestCapabilities_again (capabilities : List HostCapabilityDescriptor)
    (needs allowedHosts : List String) :
    mergeManifestCapabilities (mergeManifestCapabilities capabilities needs allowedHosts) needs
      allowedHosts = mergeManifestCapabilities capabilities needs allowedHosts := by
  rw [mergeManifestCapabilities_eq (mergeManifestCapabilities _ _ _)]
  apply foldl_pushNew_of_forall_mem
  intro c hc
  rw [mergeManifestCapabilities_eq]
  exact mem_foldl_pushNew.mpr (Or.inr hc)

lemma mergeManifestCapabilities_appendsNew (capabilities : List HostCapabilityDescriptor)
    (needs allowedHosts : List String) :
    AppendsNew capabilities (mergeManifestCapabilities capabilities needs allowedHosts) := by
  rw [mergeManifestCapabilities_eq]
  exact foldl_pushNew_eq_append _ _

namespace PluginManifest

/-- What `p` has of a manifest `m` whose normalised package it is. -/
structure Normalises (m : PluginManifest) (p : IpcPackageDescriptor) : Prop where
  again : { m with package := some p }.normalizedPackage = some p
  kept : ∀ q, m.package = some q →
    p = { q with slots := p.slots, requiredCapabilities := p.requiredCapabilities } ∧
      q.slots <+: p.slots ∧ q.requiredCapabilities <+: p.requiredCapabilities
  slots : ∀ slot ∈ m.slots, slot ∈ p.slots
  needs : ∀ need ∈ m.needs, ⟨.need, need⟩ ∈ p.requiredCapabilities
  hosts : ∀ host ∈ m.allowedHosts, ⟨.httpHost, host⟩ ∈ p.requiredCapabilities
  methods : m.package = none → (p.methods.map (·.name)).Nodup ∧
    ∀ name, name ∈ p.methods.map (·.name) ↔
      name ∈ m.methods ∧ Text.endsWith ".*" name = false
  newSlots : ∀ q, m.package = some q → q.slots ≠ [] → AppendsNew q.slots p.slots
  newCapabilities : AppendsNew m.basePackage.requiredCapabilities p.requiredCapabilities

/-- Normalisation keeps the package of an accepted manifest, adds what the manifest lists
beside it and nothing twice, and changes nothing when it is made again. -/
theorem normalizedPackage_normalises (m : PluginManifest) (h : m.validate = .ok ()) :
    ∃ p, m.normalizedPackage = some p ∧ m.Normalises p := by
  obtain ⟨methods, hp, hexplicit, himplicit, -⟩ :=
    normalizedPackage_of_valid (validate_eq_ok.mp h)
  refine ⟨_, hp, ?_⟩
  constructor
  · simp [normalizedPackage, mergeSlots_again, mergeManifestCapabilities_again]
  · intro q hq
    have hbase : m.basePackage = q := by rw [basePackage, hq, Option.getD_some]
    rw [hbase, hexplicit q hq]
    exact ⟨rfl, mergeSlots_prefix _ _, (mergeManifestCapabilities_appendsNew _ _ _).isPrefix⟩
  · exact fun slot hslot => mem_mergeSlots.mpr (Or.inr hslot)
  · exact fun need hneed =>
      mem_mergeManifestCapabilities.mpr (Or.inr (Or.inl ⟨need, hneed, rfl⟩))
  · exact fun host hhost =>
      mem_mergeManifestCapabilities.mpr (Or.inr (Or.inr ⟨host, hhost, rfl⟩))
  · intro hnone
    have hnames := himplicit hnone
    dsimp only
    rw [hnames]
    refine ⟨foldl_pushNew_nodup List.nodup_nil, fun name => ?_⟩
    simp [mem_foldl_pushNew, exactMethods]
  · intro q hq hne
    have hbase : m.basePackage = q := by rw [basePackage, hq, Option.getD_some]
    rw [hbase]
    exact mergeSlots_appendsNew hne m.slots
  · exact mergeManifestCapabilities_appendsNew _ _ _

/-- A manifest that lists a need twice, beside a package that has it already. -/
def mailManifest : PluginManifest where
  id := "mail"
  priority := 0
  methods := ["mail.send", "mail.*"]
  slots := []
  needs := ["clock", "storage", "storage"]
  allowedHosts := ["example.org"]
  package := some ⟨"mail", none, none, none, [], [], [], [⟨.need, "clock"⟩], none⟩

theorem normalizedPackage_normalises_mail :
    ∃ p, mailManifest.normalizedPackage = some p ∧ mailManifest.Normalises p ∧
      p.requiredCapabilities =
        [⟨.need, "clock"⟩, ⟨.need, "storage"⟩, ⟨.httpHost, "example.org"⟩] := by
  obtain ⟨p, hp, hnormal⟩ := normalizedPackage_normalises mailManifest rfl
  refine ⟨p, hp, hnormal, ?_⟩
  have hvalue : mailManifest.normalizedPackage.map (·.requiredCapabilities) =
      some [⟨.need, "clock"⟩, ⟨.need, "storage"⟩, ⟨.httpHost, "example.org"⟩] := rfl
  rw [hp] at hvalue
  exact Option.some.inj hvalue

end PluginManifest

end Pingling.HostContract
