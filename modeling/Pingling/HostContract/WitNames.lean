import Pingling.HostContract.WitReads

/-!
# Names of a rendered world

The validators look for repeated names in the imports, in the exports, in the records and in
the functions, each list by itself. The text has other name spaces: the world and the bodies of
imports and exports are items of one package, records and functions members of one interface,
and external imports are known by their paths. A text is free of repeated names exactly when
the lists that share a space there have no name in common.
-/

namespace Pingling.HostContract
open Lib

/-- No name is declared twice in a name space of the document. -/
def WitDocument.NamesDistinct (document : WitDocument) : Prop :=
  (document.world :: document.interfaces.map (·.name)).Nodup ∧
    (∀ i ∈ document.interfaces, (i.records.map (·.name) ++ i.functions.map (·.name)).Nodup) ∧
    document.imports.Nodup ∧ document.exports.Nodup

instance (document : WitDocument) : Decidable document.NamesDistinct :=
  inferInstanceAs (Decidable (_ ∧ _))

/-- The lists that are rendered into one name space share no name. -/
structure ComponentDescriptor.NamesApart (component : ComponentDescriptor) : Prop where
  bodies : ∀ i ∈ component.imports, i.external = none → ∀ e ∈ component.exports, i.name ≠ e.name
  world : ∀ i ∈ component.localInterfaces, i.name ≠ component.world
  members : ∀ i ∈ component.localInterfaces, ∀ r ∈ i.records, ∀ f ∈ i.functions, r.name ≠ f.name
  paths : (component.imports.filterMap (·.external)).Nodup

/-- The bodies have names of their own when no local import is named like an export. -/
lemma nodup_localInterfaces_iff {component : ComponentDescriptor}
    (h : component.validate = .ok ()) :
    (component.localInterfaces.map (·.name)).Nodup ↔
      ∀ i ∈ component.imports, i.external = none → ∀ e ∈ component.exports, i.name ≠ e.name := by
  obtain ⟨-, -, ⟨-, himports⟩, -, hexports⟩ := ComponentDescriptor.validate_eq_ok.mp h
  have hlocal : ((component.imports.filter fun interface => interface.external.isNone).map
      (·.name)).Nodup := himports.sublist (List.filter_sublist.map _)
  rw [ComponentDescriptor.localInterfaces_eq h, List.map_append, List.nodup_append]
  constructor
  · rintro ⟨-, -, hapart⟩ i hi hexternal e he
    have hmem : i ∈ component.imports.filter fun interface => interface.external.isNone :=
      List.mem_filter.mpr ⟨hi, Option.isNone_iff_eq_none.mpr hexternal⟩
    exact hapart _ (List.mem_map.mpr ⟨i, hmem, rfl⟩) _ (List.mem_map.mpr ⟨e, he, rfl⟩)
  · intro hapart
    refine ⟨hlocal, hexports, fun name hname other hother => ?_⟩
    obtain ⟨i, hi, rfl⟩ := List.mem_map.mp hname
    obtain ⟨e, he, rfl⟩ := List.mem_map.mp hother
    have hmem := List.mem_filter.mp hi
    exact hapart i hmem.1 (Option.isNone_iff_eq_none.mp hmem.2) e he

/-- The members of an accepted interface are apart when no record is named like a function. -/
lemma nodup_members_iff {i : ComponentInterfaceDescriptor} (h : i.validate = .ok ()) :
    (i.document.records.map (·.name) ++ i.document.functions.map (·.name)).Nodup ↔
      ∀ r ∈ i.records, ∀ f ∈ i.functions, r.name ≠ f.name := by
  simp only [ComponentInterfaceDescriptor.validate, seq_eq_ok, checkDistinct_eq_ok] at h
  obtain ⟨-, -, ⟨-, hrecords⟩, -, hfunctions⟩ := h
  have hnames : i.document.functions.map (·.name) = i.functions.map (·.name) := by
    rw [ComponentInterfaceDescriptor.document, List.map_map]
    rfl
  rw [hnames, List.nodup_append]
  simp only [ComponentInterfaceDescriptor.document, hrecords, hfunctions, true_and, List.mem_map,
    forall_exists_index, and_imp, forall_apply_eq_imp_iff₂]

/-- A world imports the local interfaces by their names and the others by their paths. -/
lemma importNames_perm (imports : List ComponentInterfaceDescriptor) :
    (imports.map importName).Perm
      ((imports.filter fun interface => interface.external.isNone).map (·.name) ++
        imports.filterMap (·.external)) := by
  induction imports with
  | nil => exact .refl _
  | cons i imports ih =>
    cases hexternal : i.external with
    | none =>
      simp only [List.map_cons, List.filter_cons, hexternal, Option.isNone_none, if_true,
        List.filterMap_cons, importName_local hexternal]
      exact ih.cons _
    | some path =>
      simp only [List.map_cons, List.filter_cons, hexternal, Option.isNone_some, if_false,
        List.filterMap_cons, importName_external hexternal, Bool.false_eq_true]
      exact (ih.cons path).trans List.perm_middle.symm

/-- A path has a colon and a name has none, so only paths can be imported twice. -/
lemma nodup_imports_iff {component : ComponentDescriptor} (h : component.validate = .ok ()) :
    (component.imports.map importName).Nodup ↔
      (component.imports.filterMap (·.external)).Nodup := by
  obtain ⟨-, -, ⟨hvalid, himports⟩, -⟩ := ComponentDescriptor.validate_eq_ok.mp h
  have hlocal : ((component.imports.filter fun interface => interface.external.isNone).map
      (·.name)).Nodup := himports.sublist (List.filter_sublist.map _)
  rw [(importNames_perm component.imports).nodup_iff, List.nodup_append]
  constructor
  · exact fun hnodup => hnodup.2.1
  · intro hpaths
    refine ⟨hlocal, hpaths, ?_⟩
    rintro name hname path hpath rfl
    obtain ⟨i, hi, rfl⟩ := List.mem_map.mp hname
    obtain ⟨j, hj, hexternal⟩ := List.mem_filterMap.mp hpath
    have hword := isWord_of_validate_interface (hvalid i (List.mem_of_mem_filter hi))
    exact colon_not_mem hword (isWord_of_external (hvalid j hj) hexternal).2

lemma namesDistinct_document_iff {component : ComponentDescriptor}
    (h : component.validate = .ok ()) :
    component.document.NamesDistinct ↔ component.NamesApart := by
  obtain ⟨-, -, -, -, hexports⟩ := ComponentDescriptor.validate_eq_ok.mp h
  have hnames : component.document.interfaces.map (·.name) =
      component.localInterfaces.map (·.name) := by
    rw [ComponentDescriptor.document, List.map_map]
    rfl
  have hbodies := nodup_localInterfaces_iff h
  have hmembers : (∀ i ∈ component.document.interfaces,
      (i.records.map (·.name) ++ i.functions.map (·.name)).Nodup) ↔
      ∀ i ∈ component.localInterfaces, ∀ r ∈ i.records, ∀ f ∈ i.functions, r.name ≠ f.name := by
    rw [ComponentDescriptor.document, List.forall_mem_map]
    exact forall₂_congr fun i hi =>
      nodup_members_iff (ComponentDescriptor.validate_localInterfaces h hi)
  have himports := nodup_imports_iff h
  unfold WitDocument.NamesDistinct
  rw [hnames, hmembers, List.nodup_cons, hbodies]
  constructor
  · rintro ⟨⟨hworld, hbodies⟩, hmembers, hpaths, -⟩
    refine ⟨hbodies, fun i hi heq => hworld ?_, hmembers, himports.mp hpaths⟩
    exact List.mem_map.mpr ⟨i, hi, heq⟩
  · intro hapart
    refine ⟨⟨fun hworld => ?_, hapart.bodies⟩, hapart.members, himports.mpr hapart.paths, hexports⟩
    obtain ⟨i, hi, heq⟩ := List.mem_map.mp hworld
    exact hapart.world i hi heq

/-- The text of an accepted component declares no name twice exactly when the lists that share
a name space in it have no name in common. -/
theorem rendered_names_distinct_iff {component : ComponentDescriptor}
    (h : component.validate = .ok ()) :
    ∃ text document, renderWitWorld component = .ok text ∧ parseWit text = some document ∧
      (document.NamesDistinct ↔ component.NamesApart) := by
  obtain ⟨text, hrender⟩ := exists_renderWitWorld h
  exact ⟨text, component.document, hrender, parseWit_renderWitWorld hrender,
    namesDistinct_document_iff h⟩

def outgoingHandler : ComponentInterfaceDescriptor where
  name := "wasi-http-outgoing-handler"
  external := some "wasi:http/outgoing-handler@0.2.9"
  records := []
  functions := []

def geoInterface : ComponentInterfaceDescriptor where
  name := "geo"
  external := none
  records := []
  functions := [⟨"current", [], some ⟨some "string", some "string"⟩⟩]

/-- A component that imports from elsewhere and exports an interface of its own. -/
def geoComponent : ComponentDescriptor where
  witPackage := "pingle:ipc-plugin"
  world := "plugin"
  imports := [outgoingHandler]
  exports := [geoInterface]

theorem rendered_names_distinct_geo :
    ∃ text document, renderWitWorld geoComponent = .ok text ∧ parseWit text = some document ∧
      document.NamesDistinct := by
  have hapart : geoComponent.NamesApart := by
    refine ⟨?_, ?_, ?_, ?_⟩
    · intro i hi hexternal
      rw [List.mem_singleton.mp hi] at hexternal
      cases hexternal
    · decide
    · decide
    · decide
  obtain ⟨text, document, hrender, hparse, hiff⟩ :=
    rendered_names_distinct_iff (rfl : geoComponent.validate = .ok ())
  exact ⟨text, document, hrender, hparse, hiff.mpr hapart⟩

def geoBothWays : ComponentDescriptor where
  witPackage := "pingle:ipc-plugin"
  world := "plugin"
  imports := [geoInterface]
  exports := [geoInterface]

/-- An interface that is imported and exported has its body twice in the text. -/
theorem both_ways_declared_twice :
    geoBothWays.validate = .ok () ∧ ∃ text document, renderWitWorld geoBothWays = .ok text ∧
      parseWit text = some document ∧ document.interfaces.map (·.name) = ["geo", "geo"] ∧
      ¬ document.NamesDistinct := by
  have hvalid : geoBothWays.validate = .ok () := rfl
  obtain ⟨text, hrender⟩ := exists_renderWitWorld hvalid
  exact ⟨hvalid, text, geoBothWays.document, hrender, parseWit_renderWitWorld hrender, rfl,
    by decide⟩

end Pingling.HostContract
