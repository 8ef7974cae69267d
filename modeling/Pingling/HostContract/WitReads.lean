import Pingling.HostContract.Wit

/-!
# Reading rendered WIT

What the validators accept are words of the grammar, so the text of an accepted component is
read as the document of its descriptor: every interface with the records and functions of its
body, and the names that the world imports and exports.
-/

namespace Pingling.HostContract
open Lib Parser

lemma isWord_of_validateWitIdentifier {kind value : String}
    (h : validateWitIdentifier kind value = .ok ()) : IsWord isWitIdentifierChar value := by
  unfold validateWitIdentifier at h
  split at h
  · cases h
  · next first rest hvalue =>
    simp only [ite_ok_error_eq_ok, and_true, Bool.or_eq_true, beq_iff_eq, List.all_eq_true] at h
    have hfirst : isWitIdentifierChar first = true := by
      simp only [isWitIdentifierChar, Char.isAlphanum, Bool.or_eq_true, beq_iff_eq]
      tauto
    constructor
    · rw [hvalue]
      exact List.cons_ne_nil _ _
    · rw [hvalue]
      exact List.forall_mem_cons.mpr ⟨hfirst, h.2⟩

/-- The primitive types are identifiers themselves, so a type is checked as one. -/
lemma validateWitType_eq (kind value : String) :
    validateWitType kind value = validateWitIdentifier kind value := by
  unfold validateWitType
  split_ifs with hprimitive
  · simp only [witPrimitives, List.mem_cons, List.not_mem_nil, or_false] at hprimitive
    rcases hprimitive with rfl | rfl | rfl | rfl | rfl | rfl | rfl | rfl | rfl | rfl | rfl | rfl |
      rfl | rfl <;> rfl
  · rfl

lemma isWord_of_validateWitType {kind value : String} (h : validateWitType kind value = .ok ()) :
    IsWord isWitIdentifierChar value := by
  rw [validateWitType_eq] at h
  exact isWord_of_validateWitIdentifier h

lemma isWord_of_validateWitPackage {value : String} (h : validateWitPackage value = .ok ()) :
    IsWord isWitPackageChar value := by
  unfold validateWitPackage Text.splitOnce at h
  have hcat := List.takeWhile_append_dropWhile (p := (· != ':')) (l := value.toList)
  cases hrest : value.toList.dropWhile (· != ':') with
  | nil => simp [hrest] at h
  | cons colon rest =>
    simp only [hrest, seq_eq_ok] at h
    have hscope := isWord_of_validateWitIdentifier h.1
    have hpackage := isWord_of_validateWitIdentifier h.2
    have hcolon : colon = ':' := by
      have hhead := List.head?_dropWhile_not (· != ':') value.toList
      simpa [hrest] using hhead
    rw [hrest, hcolon] at hcat
    have hmem : ∀ c ∈ value.toList, isWitPackageChar c = true := by
      intro c hc
      rw [← hcat, List.mem_append, List.mem_cons] at hc
      have hs := hscope.mem c
      have hp := hpackage.mem c
      rw [String.toList_ofList] at hs hp
      simp only [isWitPackageChar, Bool.or_eq_true, beq_iff_eq]
      tauto
    refine ⟨?_, hmem⟩
    rw [← hcat]
    exact List.append_ne_nil_of_right_ne_nil _ (List.cons_ne_nil _ _)

lemma isWord_of_validateWitImportPath {kind value : String}
    (h : validateWitImportPath kind value = .ok ()) :
    IsWord isWitImportChar value ∧ ':' ∈ value.toList := by
  simp only [validateWitImportPath, Text.contains, Text.allChars, ite_error_eq_ok,
    ite_ok_error_eq_ok, and_true, Bool.or_eq_true, Bool.not_eq_true', not_or,
    Bool.not_eq_false, List.contains_iff_mem, List.all_eq_true] at h
  obtain ⟨-, ⟨hcolon, -⟩, hall⟩ := h
  exact ⟨⟨List.ne_nil_of_mem hcolon, hall⟩, hcolon⟩

lemma isWord_import {value : String} (h : IsWord isWitIdentifierChar value) :
    IsWord isWitImportChar value := by
  refine ⟨h.ne_nil, fun c hc => ?_⟩
  have hidentifier := h.mem c hc
  simp only [isWitIdentifierChar, isWitImportChar, Bool.or_eq_true] at hidentifier ⊢
  tauto

lemma colon_not_mem {value : String} (h : IsWord isWitIdentifierChar value) :
    ':' ∉ value.toList :=
  fun hcolon => absurd (h.mem ':' hcolon) (by decide)

/-- What is read of a result. -/
def WitResultDescriptor.document (result : WitResultDescriptor) : WitReturn :=
  match result.ok, result.err with
  | some ok, some err => .result ok err
  | some ok, none => .type ok
  | none, some err => .result "_" err
  | none, none => .type "result"

/-- What is read of a function. -/
def ComponentFunctionDescriptor.document (function : ComponentFunctionDescriptor) :
    WitFunction where
  name := function.name
  params := function.params
  returns := function.result.map WitResultDescriptor.document

/-- What is read of an interface with a body. -/
def ComponentInterfaceDescriptor.document (interface : ComponentInterfaceDescriptor) :
    WitInterface where
  name := interface.name
  records := interface.records
  functions := interface.functions.map ComponentFunctionDescriptor.document

/-- What is read of a component. -/
def ComponentDescriptor.document (component : ComponentDescriptor) : WitDocument where
  package := component.witPackage
  interfaces := component.localInterfaces.map ComponentInterfaceDescriptor.document
  world := component.world
  imports := component.imports.map importName
  exports := component.exports.map (·.name)

lemma toList_join_map {α : Type} (render : α → String) (xs : List α) :
    (String.join (xs.map render)).toList = xs.flatMap fun x => (render x).toList := by
  rw [String.toList_join, List.flatMap_map]

lemma isWord_of_validate_field {field : WitFieldDescriptor} (h : field.validate = .ok ()) :
    IsWord isWitIdentifierChar field.name ∧ IsWord isWitIdentifierChar field.ty := by
  simp only [WitFieldDescriptor.validate, seq_eq_ok] at h
  exact ⟨isWord_of_validateWitIdentifier h.1, isWord_of_validateWitType h.2⟩

lemma reads_field {field : WitFieldDescriptor} (h : field.validate = .ok ()) :
    Reads parseField (renderField field).toList field := by
  have hword := isWord_of_validate_field h
  have htext : (renderField field).toList = "    ".toList ++ (field.name.toList ++
      (": ".toList ++ (field.ty.toList ++ ",\n".toList))) := by
    simp only [renderField, String.toList_append, List.append_assoc]
  rw [htext]
  refine Reads.literal ?_
  refine Reads.word_literal hword.1 (stops_toList rfl rfl) ?_
  refine Reads.word hword.2 (stops_toList rfl rfl) ?_
  exact Reads.literal_end _ field

lemma reads_record {record : ComponentRecordDescriptor} (h : record.validate = .ok ()) :
    Reads parseRecord (renderRecord record).toList record := by
  simp only [ComponentRecordDescriptor.validate, seq_eq_ok, checkDistinct_eq_ok] at h
  have hname := isWord_of_validateWitIdentifier h.1
  have hkeyword : IsWord isWitIdentifierChar "record" := @isWord_of_validateWitIdentifier "" _ rfl
  have htext : (renderRecord record).toList = "  ".toList ++ ("record".toList ++ (" ".toList ++
      (record.name.toList ++ (" \x7b\n".toList ++
        ((record.fields.flatMap fun field => (renderField field).toList) ++
          "  \x7d\n\n".toList))))) := by
    simp only [renderRecord, String.toList_append, toList_join_map, List.append_assoc]
    rfl
  rw [htext]
  refine Reads.literal ?_
  refine Reads.word hkeyword ((stops_toList rfl rfl).append _) ?_
  rw [if_pos rfl]
  refine Reads.literal ?_
  refine Reads.word_literal hname (stops_toList rfl rfl) ?_
  refine Reads.many id (fun field hfield => reads_field (h.2.1 field hfield)) ?_ ?_
  · exact Refuses.bind (Refuses.literal fun _ => rfl) _
  · rw [List.map_id]
    exact Reads.literal_end _ record

lemma toList_renderParam (param : WitFieldDescriptor) (stop : String) :
    (renderParam param ++ stop).toList = param.name.toList ++ (": ".toList ++
      (param.ty.toList ++ stop.toList)) := by
  simp only [renderParam, String.toList_append, List.append_assoc]

lemma reads_param {param : WitFieldDescriptor} (h : param.validate = .ok ()) {stop : String}
    (hstop : Stops isWitIdentifierChar stop.toList) :
    Reads (parseParam stop) (renderParam param ++ stop).toList param := by
  have hword := isWord_of_validate_field h
  rw [toList_renderParam]
  refine Reads.word_literal hword.1 (stops_toList rfl rfl) ?_
  refine Reads.word hword.2 hstop ?_
  exact Reads.literal_end _ param

/-- A separator after every item but the last. -/
lemma toList_intercalate_concat {α : Type} (separator : String) (render : α → String)
    (xs : List α) (x : α) :
    (String.intercalate separator ((xs ++ [x]).map render)).toList =
      (xs.flatMap fun y => (render y ++ separator).toList) ++ (render x).toList := by
  induction xs with
  | nil => simp
  | cons y ys ih =>
    have hne : (ys ++ [x]).map render ≠ [] := by simp
    rw [List.cons_append, List.map_cons, String.intercalate_cons_of_ne_nil hne,
      String.toList_append, String.toList_append, ih, List.flatMap_cons, String.toList_append]
    simp only [List.append_assoc]

/-- The last parameter ends with the parenthesis, so the comma is refused there. -/
lemma param_refuses_last {param : WitFieldDescriptor} (h : param.validate = .ok ()) :
    Refuses (parseParam ", ") (renderParam param ++ ")").toList := by
  have hword := isWord_of_validate_field h
  rw [toList_renderParam]
  refine Refuses.word hword.1 ((stops_toList rfl rfl).append _) ?_
  refine Refuses.bind_right (reads_literal _) ?_
  refine Refuses.word hword.2 (stops_toList rfl rfl) ?_
  exact Refuses.bind (Refuses.literal fun _ => rfl) _

lemma param_refuses_paren {param : WitFieldDescriptor} (h : param.validate = .ok ())
    (stop : String) : Refuses (literal ")") (renderParam param ++ stop).toList := by
  have hword := isWord_of_validate_field h
  rw [toList_renderParam]
  exact (Refuses.literal_word hword.1 (stops_toList rfl rfl)).append _

lemma reads_params {params : List WitFieldDescriptor}
    (h : ∀ param ∈ params, param.validate = .ok ()) :
    Reads parseParams
      ((String.intercalate ", " (params.map renderParam)).toList ++ ")".toList) params := by
  rcases List.eq_nil_or_concat params with rfl | ⟨front, last, rfl⟩
  · exact Reads.orElse_left (Reads.literal_end _ _)
  · rw [List.concat_eq_append] at h ⊢
    have hlast := h last (by simp)
    have htext : (String.intercalate ", " ((front ++ [last]).map renderParam)).toList ++
        ")".toList = (front.flatMap fun param => (renderParam param ++ ", ").toList) ++
          (renderParam last ++ ")").toList := by
      rw [toList_intercalate_concat, List.append_assoc, ← String.toList_append]
    have hfront : ∀ param ∈ front, param.validate = .ok () :=
      fun param hparam => h param (List.mem_append_left _ hparam)
    rw [htext]
    refine Reads.orElse_right ?_ ?_
    · refine Refuses.bind (Refuses.flatMap (fun param hparam => ?_) ?_) _
      · exact param_refuses_paren (hfront param hparam) _
      · exact param_refuses_paren hlast _
    · refine Reads.many id (fun param hparam => ?_) (param_refuses_last hlast) ?_
      · exact reads_param (hfront param hparam) (stops_toList rfl rfl)
      · rw [List.map_id]
        have hstop : Stops isWitIdentifierChar ")".toList := stops_toList rfl rfl
        exact (reads_param hlast hstop).bind_pure fun last => front ++ [last]

/-- The text after the parameters. -/
def renderReturns (result : Option WitResultDescriptor) : String :=
  match result with
  | some result => " -> " ++ renderResult result ++ ";\n"
  | none => ";\n"

lemma toList_renderFunction (function : ComponentFunctionDescriptor) :
    (renderFunction function).toList = "  ".toList ++ (function.name.toList ++
      (": func(".toList ++
        (((String.intercalate ", " (function.params.map renderParam)).toList ++ ")".toList) ++
          (renderReturns function.result).toList))) := by
  unfold renderFunction renderReturns
  cases function.result with
  | none =>
    simp only [String.toList_append, List.append_assoc]
    rfl
  | some result =>
    simp only [String.toList_append, List.append_assoc]
    rfl

lemma reads_type {ty : String} (h : IsWord isWitIdentifierChar ty) :
    Reads parseReturns (" -> " ++ ty ++ ";\n").toList (some (.type ty)) := by
  simp only [String.toList_append, List.append_assoc]
  refine Reads.orElse_right (Refuses.bind (Refuses.literal fun _ => rfl) _) ?_
  refine Reads.literal ?_
  refine Reads.word h (stops_toList rfl rfl) ?_
  exact Reads.orElse_left (Reads.literal_end _ _)

lemma reads_result {ok err : String} (hok : IsWord isWitIdentifierChar ok)
    (herr : IsWord isWitIdentifierChar err) :
    Reads parseReturns (" -> " ++ ("result<" ++ ok ++ ", " ++ err ++ ">") ++ ";\n").toList
      (some (.result ok err)) := by
  have hkeyword : IsWord isWitIdentifierChar "result" := @isWord_of_validateWitIdentifier "" _ rfl
  have hopen : "result<".toList = "result".toList ++ "<".toList := rfl
  have hclose : ">".toList ++ ";\n".toList = ">;\n".toList := rfl
  simp only [String.toList_append, List.append_assoc, hopen, hclose]
  refine Reads.orElse_right (Refuses.bind (Refuses.literal fun _ => rfl) _) ?_
  refine Reads.literal ?_
  refine Reads.word hkeyword ((stops_toList rfl rfl).append _) ?_
  refine Reads.orElse_right (Refuses.bind (Refuses.literal fun _ => rfl) _) ?_
  rw [if_pos rfl]
  refine Reads.literal ?_
  refine Reads.word_literal hok (stops_toList rfl rfl) ?_
  refine Reads.word herr (stops_toList rfl rfl) ?_
  exact Reads.literal_end _ _

lemma reads_returns {result : Option WitResultDescriptor}
    (h : ∀ r, result = some r → r.validate = .ok ()) :
    Reads parseReturns (renderReturns result).toList
      (result.map WitResultDescriptor.document) := by
  cases result with
  | none => exact Reads.orElse_left (Reads.literal_end _ _)
  | some result =>
    have hvalid := h result rfl
    simp only [WitResultDescriptor.validate, ite_error_eq_ok, seq_eq_ok, checkSome_eq_ok] at hvalid
    obtain ⟨hsome, hok, herr⟩ := hvalid
    obtain ⟨ok, err⟩ := result
    cases ok with
    | none =>
      cases err with
      | none => simp at hsome
      | some err =>
        have hempty : ("result<_, " : String) = "result<" ++ "_" ++ ", " := rfl
        simp only [renderReturns, renderResult, hempty]
        exact reads_result (@isWord_of_validateWitIdentifier "" "_" rfl)
          (isWord_of_validateWitType (herr err rfl))
    | some ok =>
      have hword := isWord_of_validateWitType (hok ok rfl)
      cases err with
      | none => exact reads_type hword
      | some err => exact reads_result hword (isWord_of_validateWitType (herr err rfl))

lemma reads_function {function : ComponentFunctionDescriptor} (h : function.validate = .ok ()) :
    Reads parseFunction (renderFunction function).toList function.document := by
  simp only [ComponentFunctionDescriptor.validate, seq_eq_ok, checkDistinct_eq_ok,
    checkSome_eq_ok] at h
  obtain ⟨hname, ⟨hparams, -⟩, hresult⟩ := h
  rw [toList_renderFunction]
  have hword := isWord_of_validateWitIdentifier hname
  refine Reads.literal ?_
  refine Reads.word_literal hword (stops_toList rfl rfl) ?_
  refine (reads_params hparams).bind ?_
  exact (reads_returns hresult).bind_pure (WitFunction.mk function.name function.params)

/-- A function has a colon after its name, even where it is named after the keyword. -/
lemma record_refuses_function {function : ComponentFunctionDescriptor}
    (h : function.validate = .ok ()) : Refuses parseRecord (renderFunction function).toList := by
  simp only [ComponentFunctionDescriptor.validate, seq_eq_ok] at h
  rw [toList_renderFunction]
  refine Refuses.bind_right (reads_literal _) ?_
  refine Refuses.word (isWord_of_validateWitIdentifier h.1)
    ((stops_toList rfl rfl).append _) ?_
  split_ifs
  · exact Refuses.bind (Refuses.literal fun _ => rfl) _
  · exact refuses_refuse _

lemma reads_interface {interface : ComponentInterfaceDescriptor}
    (h : interface.validate = .ok ()) :
    Reads parseInterface (renderInterface interface ++ "\n").toList interface.document := by
  simp only [ComponentInterfaceDescriptor.validate, seq_eq_ok, checkDistinct_eq_ok] at h
  obtain ⟨hname, -, ⟨hrecords, -⟩, hfunctions, -⟩ := h
  have hclose : "\x7d\n".toList ++ "\n".toList = "\x7d\n\n".toList := rfl
  simp only [renderInterface, String.toList_append, toList_join_map, List.append_assoc, hclose]
  have hword := isWord_of_validateWitIdentifier hname
  refine Reads.literal ?_
  refine Reads.word_literal hword (stops_toList rfl rfl) ?_
  refine Reads.many id (fun record hrecord => reads_record (hrecords record hrecord)) ?_ ?_
  · refine Refuses.flatMap (fun function hfunction => ?_) ?_
    · exact record_refuses_function (hfunctions function hfunction)
    · exact Refuses.bind (Refuses.literal fun _ => rfl) _
  refine Reads.many _ (fun function hfunction => reads_function (hfunctions function hfunction))
    ?_ ?_
  · exact Refuses.bind (Refuses.literal fun _ => rfl) _
  · rw [List.map_id]
    exact Reads.literal_end _ interface.document

lemma isWord_of_validate_interface {interface : ComponentInterfaceDescriptor}
    (h : interface.validate = .ok ()) : IsWord isWitIdentifierChar interface.name := by
  simp only [ComponentInterfaceDescriptor.validate, seq_eq_ok] at h
  exact isWord_of_validateWitIdentifier h.1

/-- A path is a word over a larger alphabet, and has a colon where no identifier has one. -/
lemma isWord_of_external {interface : ComponentInterfaceDescriptor} {path : String}
    (h : interface.validate = .ok ()) (hexternal : interface.external = some path) :
    IsWord isWitImportChar path ∧ ':' ∈ path.toList := by
  simp only [ComponentInterfaceDescriptor.validate, seq_eq_ok, checkSome_eq_ok,
    ComponentInterfaceDescriptor.validateExternal] at h
  exact isWord_of_validateWitImportPath (h.2.1 path hexternal).1

lemma importName_local {interface : ComponentInterfaceDescriptor}
    (h : interface.external = none) : importName interface = interface.name := by
  rw [importName, h]

lemma importName_external {interface : ComponentInterfaceDescriptor} {path : String}
    (h : interface.external = some path) : importName interface = path := by
  rw [importName, h]

lemma isWord_importName {interface : ComponentInterfaceDescriptor}
    (h : interface.validate = .ok ()) : IsWord isWitImportChar (importName interface) := by
  cases hexternal : interface.external with
  | none =>
    rw [importName_local hexternal]
    exact isWord_import (isWord_of_validate_interface h)
  | some path =>
    rw [importName_external hexternal]
    exact (isWord_of_external h hexternal).1

lemma reads_import {interface : ComponentInterfaceDescriptor} (h : interface.validate = .ok ()) :
    Reads parseImport (renderImport interface).toList (importName interface) := by
  simp only [renderImport, String.toList_append, List.append_assoc]
  refine Reads.literal ?_
  refine Reads.word (isWord_importName h) (stops_toList rfl rfl) ?_
  exact Reads.literal_end _ _

lemma reads_export {interface : ComponentInterfaceDescriptor} (h : interface.validate = .ok ()) :
    Reads parseExport (renderExport interface).toList interface.name := by
  simp only [renderExport, String.toList_append, List.append_assoc]
  refine Reads.literal ?_
  refine Reads.word (isWord_of_validate_interface h) (stops_toList rfl rfl) ?_
  exact Reads.literal_end _ _

lemma import_refuses_export (interface : ComponentInterfaceDescriptor) :
    Refuses parseImport (renderExport interface).toList := by
  simp only [renderExport, String.toList_append, List.append_assoc]
  exact (Refuses.bind (Refuses.literal fun _ => rfl) _).append _

lemma validateComponentInterface_import {interface : ComponentInterfaceDescriptor} :
    validateComponentInterface "import" interface = .ok () ↔ interface.validate = .ok () := by
  simp [validateComponentInterface]

lemma validateComponentInterface_export {interface : ComponentInterfaceDescriptor} :
    validateComponentInterface "export" interface = .ok () ↔
      interface.validate = .ok () ∧ interface.external = none := by
  simp [validateComponentInterface, Option.eq_none_iff_forall_ne_some]

/-- What `validate` accepts, part by part. -/
lemma ComponentDescriptor.validate_eq_ok {component : ComponentDescriptor} :
    component.validate = .ok () ↔
      validateWitPackage component.witPackage = .ok () ∧
      validateWitIdentifier "WIT world" component.world = .ok () ∧
      ((∀ i ∈ component.imports, i.validate = .ok ()) ∧
        (component.imports.map (·.name)).Nodup) ∧
      ((∀ i ∈ component.exports, i.validate = .ok () ∧ i.external = none) ∧
        (component.exports.map (·.name)).Nodup) := by
  simp only [ComponentDescriptor.validate, validateComponentInterfaces, seq_eq_ok,
    checkDistinct_eq_ok, validateComponentInterface_import, validateComponentInterface_export]

lemma filter_local_exports {exports : List ComponentInterfaceDescriptor}
    (h : ∀ i ∈ exports, i.validate = .ok () ∧ i.external = none) :
    exports.filter (fun interface => interface.external.isNone) = exports := by
  apply List.filter_eq_self.mpr
  intro i hi
  rw [(h i hi).2]
  rfl

lemma ComponentDescriptor.localInterfaces_eq {component : ComponentDescriptor}
    (h : component.validate = .ok ()) :
    component.localInterfaces =
      (component.imports.filter fun interface => interface.external.isNone) ++
        component.exports := by
  obtain ⟨-, -, -, hexports, -⟩ := validate_eq_ok.mp h
  rw [localInterfaces, List.filter_append, filter_local_exports hexports]

lemma ComponentDescriptor.validate_localInterfaces {component : ComponentDescriptor}
    (h : component.validate = .ok ()) {i : ComponentInterfaceDescriptor}
    (hi : i ∈ component.localInterfaces) : i.validate = .ok () := by
  obtain ⟨-, -, ⟨himports, -⟩, hexports, -⟩ := validate_eq_ok.mp h
  simp only [localInterfaces, List.mem_filter, List.mem_append] at hi
  rcases hi.1 with hmem | hmem
  · exact himports i hmem
  · exact (hexports i hmem).1

lemma exists_renderWitWorld {component : ComponentDescriptor} (h : component.validate = .ok ()) :
    ∃ text, renderWitWorld component = .ok text := by
  unfold renderWitWorld
  rw [h]
  exact ⟨_, rfl⟩

/-- The text of an accepted component is read as its document. -/
theorem parseWit_renderWitWorld {component : ComponentDescriptor} {text : String}
    (h : renderWitWorld component = .ok text) : parseWit text = some component.document := by
  simp only [renderWitWorld, seq_eq_ok, Except.ok.injEq] at h
  obtain ⟨hvalid, htext⟩ := h
  obtain ⟨hpackage, hworld, ⟨himports, -⟩, hexports, -⟩ :=
    ComponentDescriptor.validate_eq_ok.mp hvalid
  apply Reads.parse
  rw [← htext]
  simp only [String.toList_append, toList_join_map, List.append_assoc]
  have hpackageWord := isWord_of_validateWitPackage hpackage
  have hworldWord := isWord_of_validateWitIdentifier hworld
  refine Reads.literal ?_
  refine Reads.word_literal hpackageWord (stops_toList rfl rfl) ?_
  refine Reads.many ComponentInterfaceDescriptor.document (fun interface hinterface => ?_)
    (Refuses.append (Refuses.bind (Refuses.literal fun _ => rfl) _) _) ?_
  · rw [← String.toList_append]
    exact reads_interface (ComponentDescriptor.validate_localInterfaces hvalid hinterface)
  refine Reads.literal ?_
  refine Reads.word_literal hworldWord (stops_toList rfl rfl) ?_
  refine Reads.many importName (fun interface hinterface => ?_) (Refuses.flatMap ?_ ?_) ?_
  · exact reads_import (himports interface hinterface)
  · exact fun interface _ => import_refuses_export interface
  · exact Refuses.bind (Refuses.literal fun _ => rfl) _
  refine Reads.many (·.name) (fun interface hinterface => ?_) ?_ ?_
  · exact reads_export (hexports interface hinterface).1
  · exact Refuses.bind (Refuses.literal fun _ => rfl) _
  · exact Reads.literal_end _ component.document

end Pingling.HostContract
