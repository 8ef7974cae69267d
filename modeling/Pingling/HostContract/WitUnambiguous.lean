import Pingling.HostContract.WitReads

/-!
# Rendering is unambiguous

What a document says about the component that it was rendered from: an import that is a path
comes from elsewhere, the other imports have the first bodies, and the exports the rest. The
local name of an external import and an ok type that is left out beside an err type are the
only parts of an accepted descriptor that do not come back.
-/

namespace Pingling.HostContract
open Lib

/-- The empty type stands for an ok type that is left out beside an err type. -/
def WitResultDescriptor.normalised (result : WitResultDescriptor) : WitResultDescriptor :=
  match result.ok, result.err with
  | none, some err => ⟨some "_", some err⟩
  | ok, err => ⟨ok, err⟩

def ComponentFunctionDescriptor.normalised (function : ComponentFunctionDescriptor) :
    ComponentFunctionDescriptor :=
  { function with result := function.result.map WitResultDescriptor.normalised }

/-- An interface from elsewhere is known by its path. -/
def ComponentInterfaceDescriptor.normalised (interface : ComponentInterfaceDescriptor) :
    ComponentInterfaceDescriptor :=
  { interface with
    name := if interface.external.isSome then "" else interface.name
    functions := interface.functions.map ComponentFunctionDescriptor.normalised }

/-- The component up to what its text does not say. -/
def ComponentDescriptor.normalised (component : ComponentDescriptor) : ComponentDescriptor :=
  { component with
    imports := component.imports.map ComponentInterfaceDescriptor.normalised
    exports := component.exports.map ComponentInterfaceDescriptor.normalised }

/-- The result that a return type stands for. -/
def WitReturn.descriptor (returns : WitReturn) : WitResultDescriptor :=
  match returns with
  | .type ty => ⟨some ty, none⟩
  | .result ok err => ⟨some ok, some err⟩

def WitFunction.descriptor (function : WitFunction) : ComponentFunctionDescriptor where
  name := function.name
  params := function.params
  result := function.returns.map WitReturn.descriptor

/-- An interface with a body, from its document. -/
def WitInterface.descriptor (interface : WitInterface) : ComponentInterfaceDescriptor where
  name := interface.name
  external := none
  records := interface.records
  functions := interface.functions.map WitFunction.descriptor

/-- The imports with their bodies, and the bodies that are left. -/
def takeImports : List String → List WitInterface →
    List ComponentInterfaceDescriptor × List WitInterface
  | [], bodies => ([], bodies)
  | name :: names, bodies =>
    if Text.contains ':' name then
      let (imports, rest) := takeImports names bodies
      (⟨"", some name, [], []⟩ :: imports, rest)
    else
      match bodies with
      | [] => ([], [])
      | body :: bodies =>
        let (imports, rest) := takeImports names bodies
        (body.descriptor :: imports, rest)

/-- The component that a document describes. -/
def WitDocument.descriptor (document : WitDocument) : ComponentDescriptor :=
  let (imports, exports) := takeImports document.imports document.interfaces
  ⟨document.package, document.world, imports, exports.map WitInterface.descriptor⟩

lemma WitResultDescriptor.descriptor_document {result : WitResultDescriptor}
    (h : result.validate = .ok ()) : result.document.descriptor = result.normalised := by
  simp only [validate, ite_error_eq_ok] at h
  obtain ⟨ok, err⟩ := result
  cases ok with
  | none =>
    cases err with
    | none => simp at h
    | some err => rfl
  | some ok =>
    cases err with
    | none => rfl
    | some err => rfl

lemma ComponentFunctionDescriptor.descriptor_document {function : ComponentFunctionDescriptor}
    (h : function.validate = .ok ()) : function.document.descriptor = function.normalised := by
  simp only [validate, seq_eq_ok, checkSome_eq_ok] at h
  have hresult : (function.result.map WitResultDescriptor.document).map WitReturn.descriptor =
      function.result.map WitResultDescriptor.normalised := by
    rw [Option.map_map]
    apply Option.map_congr
    intro result hmem
    exact WitResultDescriptor.descriptor_document (h.2.2 result (Option.mem_def.mp hmem))
  rw [WitFunction.descriptor, document, normalised, hresult]

lemma ComponentInterfaceDescriptor.descriptor_document {interface : ComponentInterfaceDescriptor}
    (h : interface.validate = .ok ()) (hlocal : interface.external = none) :
    interface.document.descriptor = interface.normalised := by
  simp only [validate, seq_eq_ok, checkDistinct_eq_ok] at h
  obtain ⟨-, -, -, hfunctions, -⟩ := h
  have hmap : (interface.functions.map ComponentFunctionDescriptor.document).map
      WitFunction.descriptor = interface.functions.map ComponentFunctionDescriptor.normalised := by
    rw [List.map_map]
    apply List.map_congr_left
    intro function hmem
    exact ComponentFunctionDescriptor.descriptor_document (hfunctions function hmem)
  rw [WitInterface.descriptor, document, normalised, hmap, hlocal]
  rfl

/-- An accepted external import has no body. -/
lemma ComponentInterfaceDescriptor.normalised_external {interface : ComponentInterfaceDescriptor}
    {path : String} (h : interface.validate = .ok ())
    (hexternal : interface.external = some path) :
    interface.normalised = ⟨"", some path, [], []⟩ := by
  simp only [validate, seq_eq_ok, checkSome_eq_ok, validateExternal, ite_error_eq_ok,
    Bool.or_eq_true, not_or] at h
  have hbody := (h.2.1 path hexternal).2.1
  simp only [Bool.not_eq_true', Bool.not_eq_false, List.isEmpty_iff] at hbody
  rw [normalised, hexternal, hbody.1, hbody.2]
  rfl

lemma takeImports_path {name : String} (h : Text.contains ':' name = true) (names : List String)
    (bodies : List WitInterface) :
    takeImports (name :: names) bodies =
      (⟨"", some name, [], []⟩ :: (takeImports names bodies).1, (takeImports names bodies).2) := by
  rw [takeImports.eq_def]
  simp only [h, if_true]

lemma takeImports_local {name : String} (h : ¬ Text.contains ':' name = true)
    (names : List String) (body : WitInterface) (bodies : List WitInterface) :
    takeImports (name :: names) (body :: bodies) =
      (body.descriptor :: (takeImports names bodies).1, (takeImports names bodies).2) := by
  rw [takeImports, if_neg h]

/-- By induction on the imports: a path has a colon and a local name has none, so each import
finds its own body. -/
lemma takeImports_map {imports : List ComponentInterfaceDescriptor}
    (h : ∀ i ∈ imports, i.validate = .ok ()) (rest : List WitInterface) :
    takeImports (imports.map importName)
        ((imports.filter fun interface => interface.external.isNone).map
          ComponentInterfaceDescriptor.document ++ rest) =
      (imports.map ComponentInterfaceDescriptor.normalised, rest) := by
  induction imports with
  | nil => rfl
  | cons i imports ih =>
    have hi := h i List.mem_cons_self
    have ih := ih fun j hj => h j (List.mem_cons_of_mem _ hj)
    cases hexternal : i.external with
    | none =>
      have hcolon : ¬ Text.contains ':' i.name = true := by
        rw [Text.contains, List.contains_iff_mem]
        exact colon_not_mem (isWord_of_validate_interface hi)
      simp only [List.map_cons, List.filter_cons, hexternal, Option.isNone_none, if_true,
        List.cons_append, importName_local hexternal]
      rw [takeImports_local hcolon, ih,
        ComponentInterfaceDescriptor.descriptor_document hi hexternal]
    | some path =>
      have hcolon : Text.contains ':' path = true := by
        rw [Text.contains, List.contains_iff_mem]
        exact (isWord_of_external hi hexternal).2
      simp only [List.map_cons, List.filter_cons, hexternal, Option.isNone_some,
        Bool.false_eq_true, if_false, importName_external hexternal]
      rw [takeImports_path hcolon, ih,
        ComponentInterfaceDescriptor.normalised_external hi hexternal]

/-- The document of an accepted component has everything but the two parts that rendering
leaves out. -/
lemma ComponentDescriptor.descriptor_document {component : ComponentDescriptor}
    (h : component.validate = .ok ()) : component.document.descriptor = component.normalised := by
  obtain ⟨-, -, ⟨himports, -⟩, hexports, -⟩ := validate_eq_ok.mp h
  have hmap : (component.exports.map ComponentInterfaceDescriptor.document).map
      WitInterface.descriptor =
      component.exports.map ComponentInterfaceDescriptor.normalised := by
    rw [List.map_map]
    apply List.map_congr_left
    intro interface hmem
    have hinterface := hexports interface hmem
    exact ComponentInterfaceDescriptor.descriptor_document hinterface.1 hinterface.2
  unfold WitDocument.descriptor document
  rw [localInterfaces_eq h, List.map_append]
  simp only [takeImports_map himports, hmap]
  rfl

lemma validate_of_renderWitWorld {component : ComponentDescriptor} {text : String}
    (h : renderWitWorld component = .ok text) : component.validate = .ok () := by
  simp only [renderWitWorld, seq_eq_ok] at h
  exact h.1

/-- Two accepted components with one text differ in nothing but the local names of external
imports and the ok types left out, and the text says what is in both. -/
theorem renderWitWorld_unambiguous {component other : ComponentDescriptor} {text : String}
    (h : renderWitWorld component = .ok text) (hother : renderWitWorld other = .ok text) :
    component.normalised = other.normalised ∧ parseWit text = some component.document ∧
      component.document.descriptor = component.normalised := by
  have hread := parseWit_renderWitWorld h
  have hreadOther := parseWit_renderWitWorld hother
  have hdocument : component.document = other.document :=
    Option.some.inj (hread.symm.trans hreadOther)
  have hdescriptor := ComponentDescriptor.descriptor_document (validate_of_renderWitWorld h)
  have hdescriptorOther :=
    ComponentDescriptor.descriptor_document (validate_of_renderWitWorld hother)
  refine ⟨?_, hread, hdescriptor⟩
  rw [← hdescriptor, ← hdescriptorOther, hdocument]

def refreshComponent (handler : String) (ok : Option String) : ComponentDescriptor where
  witPackage := "pingle:ipc-plugin"
  world := "plugin"
  imports := [⟨handler, some "wasi:http/outgoing-handler@0.2.9", [], []⟩]
  exports := [⟨"geo", none, [], [⟨"refresh", [], some ⟨ok, some "string"⟩⟩]⟩]

/-- Two descriptors that differ in both parts. -/
theorem renderWitWorld_unambiguous_refresh :
    ∃ text, renderWitWorld (refreshComponent "wasi-http" none) = .ok text ∧
      renderWitWorld (refreshComponent "outgoing" (some "_")) = .ok text ∧
      (refreshComponent "wasi-http" none).normalised =
        (refreshComponent "outgoing" (some "_")).normalised := by
  have hvalid : (refreshComponent "wasi-http" none).validate = .ok () := rfl
  obtain ⟨text, hrender⟩ := exists_renderWitWorld hvalid
  have hother : renderWitWorld (refreshComponent "outgoing" (some "_")) = .ok text := by
    rw [← hrender]
    rfl
  exact ⟨text, hrender, hother, (renderWitWorld_unambiguous hrender hother).1⟩

end Pingling.HostContract
