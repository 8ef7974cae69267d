import Pingling.HostContract.WitReads

/-!
# Types of a rendered world

The validators read a type name as a word and know nothing of the records around it. What
they promise about the types of an accepted component is their spelling; whether a type is
declared plays no part in the answer.
-/

namespace Pingling.HostContract
open Lib

/-- The spelling of a type: a primitive, or an identifier. -/
def IsWitTypeName (ty : String) : Prop :=
  ty ∈ witPrimitives ∨ ∃ first rest, ty.toList = first :: rest ∧
    (first.isAlpha = true ∨ first = '_') ∧ ∀ c ∈ rest, isWitIdentifierChar c = true

/-- The types that a result mentions. -/
def WitResultDescriptor.typeNames (result : WitResultDescriptor) : List String :=
  result.ok.toList ++ result.err.toList

/-- The types that a function mentions. -/
def ComponentFunctionDescriptor.typeNames (function : ComponentFunctionDescriptor) :
    List String :=
  function.params.map (·.ty) ++ function.result.toList.flatMap WitResultDescriptor.typeNames

/-- The types that a record mentions. -/
def ComponentRecordDescriptor.typeNames (record : ComponentRecordDescriptor) : List String :=
  record.fields.map (·.ty)

/-- The types that the body of an interface mentions. -/
def ComponentInterfaceDescriptor.typeNames (interface : ComponentInterfaceDescriptor) :
    List String :=
  interface.records.flatMap ComponentRecordDescriptor.typeNames ++
    interface.functions.flatMap ComponentFunctionDescriptor.typeNames

/-- Every type is primitive or a record of the interface. -/
def ComponentInterfaceDescriptor.Closed (interface : ComponentInterfaceDescriptor) : Prop :=
  ∀ ty ∈ interface.typeNames, ty ∈ witPrimitives ∨ ty ∈ interface.records.map (·.name)

instance (interface : ComponentInterfaceDescriptor) : Decidable interface.Closed :=
  inferInstanceAs (Decidable (∀ _ ∈ _, _))

def WitReturn.typeNames : WitReturn → List String
  | .type ty => [ty]
  | .result ok err => [ok, err]

def WitFunction.typeNames (function : WitFunction) : List String :=
  function.params.map (·.ty) ++ function.returns.toList.flatMap WitReturn.typeNames

/-- The types that an interface of a document mentions. -/
def WitInterface.typeNames (interface : WitInterface) : List String :=
  interface.records.flatMap ComponentRecordDescriptor.typeNames ++
    interface.functions.flatMap WitFunction.typeNames

/-- Every type is primitive or a record of the interface. -/
def WitInterface.Closed (interface : WitInterface) : Prop :=
  ∀ ty ∈ interface.typeNames, ty ∈ witPrimitives ∨ ty ∈ interface.records.map (·.name)

instance (interface : WitInterface) : Decidable interface.Closed :=
  inferInstanceAs (Decidable (∀ _ ∈ _, _))

def WitFieldDescriptor.mapTypes (f : String → String) (field : WitFieldDescriptor) :
    WitFieldDescriptor :=
  { field with ty := f field.ty }

def WitResultDescriptor.mapTypes (f : String → String) (result : WitResultDescriptor) :
    WitResultDescriptor :=
  ⟨result.ok.map f, result.err.map f⟩

def ComponentFunctionDescriptor.mapTypes (f : String → String)
    (function : ComponentFunctionDescriptor) : ComponentFunctionDescriptor :=
  { function with
    params := function.params.map (WitFieldDescriptor.mapTypes f)
    result := function.result.map (WitResultDescriptor.mapTypes f) }

def ComponentRecordDescriptor.mapTypes (f : String → String)
    (record : ComponentRecordDescriptor) : ComponentRecordDescriptor :=
  { record with fields := record.fields.map (WitFieldDescriptor.mapTypes f) }

/-- The interface with every type name replaced. -/
def ComponentInterfaceDescriptor.mapTypes (f : String → String)
    (interface : ComponentInterfaceDescriptor) : ComponentInterfaceDescriptor :=
  { interface with
    records := interface.records.map (ComponentRecordDescriptor.mapTypes f)
    functions := interface.functions.map (ComponentFunctionDescriptor.mapTypes f) }

/-- The component with every type name replaced. The names of its records stay. -/
def ComponentDescriptor.mapTypes (f : String → String) (component : ComponentDescriptor) :
    ComponentDescriptor :=
  { component with
    imports := component.imports.map (ComponentInterfaceDescriptor.mapTypes f)
    exports := component.exports.map (ComponentInterfaceDescriptor.mapTypes f) }

lemma validateWitType_eq_ok {kind ty : String} :
    validateWitType kind ty = .ok () ↔ IsWitTypeName ty := by
  unfold validateWitType IsWitTypeName
  by_cases hprimitive : ty ∈ witPrimitives
  · simp [hprimitive]
  · rw [if_neg hprimitive]
    unfold validateWitIdentifier
    cases hty : ty.toList with
    | nil => simp [hprimitive]
    | cons first rest =>
      simp only [ite_ok_error_eq_ok, and_true, Bool.or_eq_true, beq_iff_eq, List.all_eq_true,
        hprimitive, false_or]
      constructor
      · rintro ⟨hfirst, hrest⟩
        exact ⟨first, rest, rfl, hfirst, hrest⟩
      · rintro ⟨first', rest', heq, hfirst, hrest⟩
        rw [List.cons.injEq] at heq
        rw [heq.1, heq.2]
        exact ⟨hfirst, hrest⟩

lemma WitFieldDescriptor.validate_eq_ok {field : WitFieldDescriptor} :
    field.validate = .ok () ↔
      validateWitIdentifier "WIT field" field.name = .ok () ∧ IsWitTypeName field.ty := by
  rw [validate, seq_eq_ok, validateWitType_eq_ok]

lemma WitResultDescriptor.validate_eq_ok {result : WitResultDescriptor} :
    result.validate = .ok () ↔
      ¬(result.ok.isNone && result.err.isNone) = true ∧
        ∀ ty ∈ result.typeNames, IsWitTypeName ty := by
  simp only [validate, ite_error_eq_ok, seq_eq_ok, checkSome_eq_ok, validateWitType_eq_ok,
    typeNames, List.mem_append, Option.mem_toList, or_imp, forall_and]

section

variable (f : String → String)

lemma validate_mapTypes_fields {fields : List WitFieldDescriptor}
    (h : ∀ field ∈ fields, field.validate = .ok ()) :
    (∀ field ∈ fields.map (WitFieldDescriptor.mapTypes f), field.validate = .ok ()) ↔
      ∀ ty ∈ fields.map (·.ty), IsWitTypeName (f ty) := by
  simp only [List.forall_mem_map]
  refine forall₂_congr fun field hfield => ?_
  have hname := (WitFieldDescriptor.validate_eq_ok.mp (h field hfield)).1
  rw [WitFieldDescriptor.validate_eq_ok]
  exact ⟨And.right, fun hty => ⟨hname, hty⟩⟩

/-- A change of types keeps the names. -/
lemma names_mapTypes {α : Type} {change : α → α} {name : α → String}
    (h : name ∘ change = name) (items : List α) :
    (items.map change).map name = items.map name := by
  rw [List.map_map, h]

lemma ComponentRecordDescriptor.validate_mapTypes {record : ComponentRecordDescriptor}
    (h : record.validate = .ok ()) :
    (record.mapTypes f).validate = .ok () ↔ ∀ ty ∈ record.typeNames, IsWitTypeName (f ty) := by
  simp only [validate, seq_eq_ok, checkDistinct_eq_ok] at h ⊢
  obtain ⟨hname, hfields, hdistinct⟩ := h
  have htypes := validate_mapTypes_fields f hfields
  have hnames : (record.fields.map (WitFieldDescriptor.mapTypes f)).map (·.name) =
      record.fields.map (·.name) := names_mapTypes rfl record.fields
  simp only [mapTypes, typeNames, hnames, hname, hdistinct, htypes, true_and, and_true]

lemma WitResultDescriptor.validate_mapTypes {result : WitResultDescriptor}
    (h : result.validate = .ok ()) :
    (result.mapTypes f).validate = .ok () ↔ ∀ ty ∈ result.typeNames, IsWitTypeName (f ty) := by
  rw [validate_eq_ok] at h ⊢
  have htypes : (result.mapTypes f).typeNames = result.typeNames.map f := by
    obtain ⟨ok, err⟩ := result
    cases ok <;> cases err <;> rfl
  rw [htypes, List.forall_mem_map]
  simpa [mapTypes] using fun _ => h.1

lemma ComponentFunctionDescriptor.validate_mapTypes {function : ComponentFunctionDescriptor}
    (h : function.validate = .ok ()) :
    (function.mapTypes f).validate = .ok () ↔
      ∀ ty ∈ function.typeNames, IsWitTypeName (f ty) := by
  simp only [validate, seq_eq_ok, checkDistinct_eq_ok, checkSome_eq_ok] at h ⊢
  obtain ⟨hname, ⟨hparams, hdistinct⟩, hresult⟩ := h
  have htypes := validate_mapTypes_fields f hparams
  have hnames : (function.params.map (WitFieldDescriptor.mapTypes f)).map (·.name) =
      function.params.map (·.name) := names_mapTypes rfl function.params
  have hreturns : (∀ r, function.result.map (WitResultDescriptor.mapTypes f) = some r →
      r.validate = .ok ()) ↔
        ∀ ty ∈ function.result.toList.flatMap WitResultDescriptor.typeNames,
          IsWitTypeName (f ty) := by
    cases hr : function.result with
    | none => simp
    | some result => simpa using (WitResultDescriptor.validate_mapTypes f (hresult result hr))
  simp only [mapTypes, typeNames, hnames, hname, hdistinct, htypes, hreturns, true_and, and_true,
    List.mem_append, or_imp, forall_and]

lemma ComponentInterfaceDescriptor.validate_mapTypes {interface : ComponentInterfaceDescriptor}
    (h : interface.validate = .ok ()) :
    (interface.mapTypes f).validate = .ok () ↔
      ∀ ty ∈ interface.typeNames, IsWitTypeName (f ty) := by
  simp only [validate, seq_eq_ok, checkDistinct_eq_ok] at h ⊢
  obtain ⟨hname, hexternal, ⟨hrecords, hrecordNames⟩, hfunctions, hfunctionNames⟩ := h
  -- what an external interface must not have is not a matter of types
  have hsame : (interface.mapTypes f).validateExternal = interface.validateExternal := by
    funext external
    have hrecord : (interface.mapTypes f).records.isEmpty = interface.records.isEmpty :=
      List.isEmpty_map
    have hfunction : (interface.mapTypes f).functions.isEmpty = interface.functions.isEmpty :=
      List.isEmpty_map
    have hnameKept : (interface.mapTypes f).name = interface.name := rfl
    rw [validateExternal, validateExternal, hrecord, hfunction, hnameKept]
  have hrecordTypes : (∀ r ∈ (interface.mapTypes f).records, r.validate = .ok ()) ↔
      ∀ r ∈ interface.records, ∀ ty ∈ r.typeNames, IsWitTypeName (f ty) := by
    rw [mapTypes, List.forall_mem_map]
    exact forall₂_congr fun r hr => ComponentRecordDescriptor.validate_mapTypes f (hrecords r hr)
  have hfunctionTypes : (∀ g ∈ (interface.mapTypes f).functions, g.validate = .ok ()) ↔
      ∀ g ∈ interface.functions, ∀ ty ∈ g.typeNames, IsWitTypeName (f ty) := by
    rw [mapTypes, List.forall_mem_map]
    exact forall₂_congr fun g hg =>
      ComponentFunctionDescriptor.validate_mapTypes f (hfunctions g hg)
  have hrecordsKept : (interface.mapTypes f).records.map (·.name) =
      interface.records.map (·.name) := names_mapTypes rfl interface.records
  have hfunctionsKept : (interface.mapTypes f).functions.map (·.name) =
      interface.functions.map (·.name) := names_mapTypes rfl interface.functions
  rw [hsame, hrecordTypes, hfunctionTypes, hrecordsKept, hfunctionsKept]
  simp only [mapTypes, hname, hexternal, hrecordNames, hfunctionNames, true_and, and_true,
    typeNames, List.mem_append, List.mem_flatMap, or_imp, forall_and, forall_exists_index, and_imp]
  constructor
  · rintro ⟨hr, hg⟩
    exact ⟨fun ty r hmem hty => hr r hmem ty hty, fun ty g hmem hty => hg g hmem ty hty⟩
  · rintro ⟨hr, hg⟩
    exact ⟨fun r hmem ty hty => hr ty r hmem hty, fun g hmem ty hty => hg ty g hmem hty⟩

/-- An accepted component stays accepted when its types are replaced by names that are spelled
like types. -/
lemma ComponentDescriptor.validate_mapTypes {component : ComponentDescriptor}
    (h : component.validate = .ok ()) :
    (component.mapTypes f).validate = .ok () ↔
      ∀ i ∈ component.imports ++ component.exports, ∀ ty ∈ i.typeNames, IsWitTypeName (f ty) := by
  obtain ⟨hpackage, hworld, ⟨himports, himportNames⟩, hexports, hexportNames⟩ :=
    validate_eq_ok.mp h
  have hnames : ∀ is : List ComponentInterfaceDescriptor,
      (is.map (ComponentInterfaceDescriptor.mapTypes f)).map (·.name) = is.map (·.name) :=
    fun is => names_mapTypes rfl is
  have himportTypes : (∀ i ∈ (component.mapTypes f).imports, i.validate = .ok ()) ↔
      ∀ i ∈ component.imports, ∀ ty ∈ i.typeNames, IsWitTypeName (f ty) := by
    rw [mapTypes, List.forall_mem_map]
    exact forall₂_congr fun i hi =>
      ComponentInterfaceDescriptor.validate_mapTypes f (himports i hi)
  have hexportTypes :
      (∀ i ∈ (component.mapTypes f).exports, i.validate = .ok () ∧ i.external = none) ↔
        ∀ i ∈ component.exports, ∀ ty ∈ i.typeNames, IsWitTypeName (f ty) := by
    rw [mapTypes, List.forall_mem_map]
    refine forall₂_congr fun i hi => ?_
    rw [ComponentInterfaceDescriptor.validate_mapTypes f (hexports i hi).1]
    exact and_iff_left (hexports i hi).2
  rw [validate_eq_ok, himportTypes, hexportTypes]
  simp only [mapTypes, hnames, hpackage, hworld, himportNames, hexportNames, true_and, and_true,
    List.forall_mem_append]

end

lemma ComponentInterfaceDescriptor.mapTypes_id (interface : ComponentInterfaceDescriptor) :
    interface.mapTypes id = interface := by
  have hfield : WitFieldDescriptor.mapTypes id = id := rfl
  have hrecord : ComponentRecordDescriptor.mapTypes id = id := by
    funext record
    simp [ComponentRecordDescriptor.mapTypes, hfield]
  have hresult : WitResultDescriptor.mapTypes id = id := by
    funext result
    simp [WitResultDescriptor.mapTypes]
  have hfunction : ComponentFunctionDescriptor.mapTypes id = id := by
    funext function
    simp [ComponentFunctionDescriptor.mapTypes, hfield, hresult]
  simp [mapTypes, hrecord, hfunction]

/-- The types of an accepted interface are spelled like types. -/
lemma isWitTypeName_of_validate {interface : ComponentInterfaceDescriptor}
    (h : interface.validate = .ok ()) : ∀ ty ∈ interface.typeNames, IsWitTypeName ty := by
  have hmap := ComponentInterfaceDescriptor.validate_mapTypes id h
  rw [ComponentInterfaceDescriptor.mapTypes_id] at hmap
  exact hmap.mp h

lemma mem_typeNames_return {result : WitResultDescriptor} {ty : String}
    (h : result.validate = .ok ()) (hty : ty ∈ result.document.typeNames) :
    ty ∈ result.typeNames ∨ ty = "_" := by
  obtain ⟨ok, err⟩ := result
  cases ok with
  | none =>
    cases err with
    | none => simp [WitResultDescriptor.validate] at h
    | some err =>
      simp only [WitResultDescriptor.document, WitReturn.typeNames, List.mem_cons,
        List.not_mem_nil, or_false] at hty
      exact hty.symm.imp_left fun heq => by simp [WitResultDescriptor.typeNames, heq]
  | some ok =>
    left
    cases err <;> simpa [WitResultDescriptor.document, WitReturn.typeNames,
      WitResultDescriptor.typeNames] using hty

/-- The types of the text are those of the interface, and the empty type beside an err type. -/
lemma mem_typeNames_document {interface : ComponentInterfaceDescriptor} {ty : String}
    (h : interface.validate = .ok ()) (hty : ty ∈ interface.document.typeNames) :
    ty ∈ interface.typeNames ∨ ty = "_" := by
  simp only [ComponentInterfaceDescriptor.validate, seq_eq_ok, checkDistinct_eq_ok] at h
  obtain ⟨-, -, -, hfunctions, -⟩ := h
  simp only [WitInterface.typeNames, ComponentInterfaceDescriptor.typeNames, List.mem_append,
    ComponentInterfaceDescriptor.document] at hty ⊢
  rcases hty with hrecord | hfunction
  · exact Or.inl (Or.inl hrecord)
  rw [List.flatMap_map] at hfunction
  obtain ⟨function, hmem, hfunction⟩ := List.mem_flatMap.mp hfunction
  rcases List.mem_append.mp hfunction with hparam | hreturn
  · exact Or.inl (Or.inr (List.mem_flatMap.mpr ⟨function, hmem, List.mem_append_left _ hparam⟩))
  · have hvalid := hfunctions function hmem
    simp only [ComponentFunctionDescriptor.validate, seq_eq_ok, checkSome_eq_ok] at hvalid
    obtain ⟨returns, hreturns, hty⟩ := List.mem_flatMap.mp hreturn
    simp only [ComponentFunctionDescriptor.document, Option.mem_toList,
      Option.map_eq_some_iff] at hreturns
    obtain ⟨result, hresult, rfl⟩ := hreturns
    have hmentioned : ty ∈ result.typeNames ∨ ty = "_" :=
      mem_typeNames_return (hvalid.2.2 result hresult) hty
    refine hmentioned.imp_left fun hty => Or.inr (List.mem_flatMap.mpr ⟨function, hmem, ?_⟩)
    rw [ComponentFunctionDescriptor.typeNames, hresult]
    exact List.mem_append_right _ (List.mem_flatMap.mpr ⟨result, by simp, hty⟩)

/-- In an accepted component, and in its text, every type is spelled like one. Whether it is
declared does not matter: with other types in their places the component is accepted exactly
when these are spelled like types too. -/
theorem types_of_accepted (component : ComponentDescriptor) (h : component.validate = .ok ()) :
    (∀ i ∈ component.localInterfaces, ∀ ty ∈ i.typeNames, IsWitTypeName ty) ∧
    (∃ text document, renderWitWorld component = .ok text ∧ parseWit text = some document ∧
      ∀ i ∈ document.interfaces, ∀ ty ∈ i.typeNames, IsWitTypeName ty) ∧
    ∀ f, (component.mapTypes f).validate = .ok () ↔
      ∀ i ∈ component.imports ++ component.exports, ∀ ty ∈ i.typeNames,
        IsWitTypeName (f ty) := by
  have hlocal : ∀ i ∈ component.localInterfaces, i.validate = .ok () :=
    fun i hi => ComponentDescriptor.validate_localInterfaces h hi
  refine ⟨fun i hi => isWitTypeName_of_validate (hlocal i hi), ?_,
    fun f => ComponentDescriptor.validate_mapTypes f h⟩
  obtain ⟨text, hrender⟩ := exists_renderWitWorld h
  refine ⟨text, component.document, hrender, parseWit_renderWitWorld hrender, ?_⟩
  intro i hi ty hty
  obtain ⟨interface, hmem, rfl⟩ := List.mem_map.mp hi
  rcases mem_typeNames_document (hlocal interface hmem) hty with hty | rfl
  · exact isWitTypeName_of_validate (hlocal interface hmem) ty hty
  · exact Or.inl (by decide)

/-- An interface whose only function returns a type that is declared nowhere. -/
def lookupInterface : ComponentInterfaceDescriptor where
  name := "lookup"
  external := none
  records := [⟨"entry", [⟨"owner", "account"⟩]⟩]
  functions := [⟨"find", [⟨"key", "string"⟩], some ⟨some "entry", some "failure"⟩⟩]

def lookupComponent : ComponentDescriptor where
  witPackage := "pingle:lookup-plugin"
  world := "plugin"
  imports := []
  exports := [lookupInterface]

theorem types_of_accepted_lookup :
    (lookupComponent.mapTypes fun ty => if ty = "entry" then "listing" else ty).validate =
      .ok () := by
  refine ((types_of_accepted lookupComponent rfl).2.2 _).mpr ?_
  have hspelled : ∀ ty ∈ ["account", "string", "listing", "failure"],
      validateWitType "WIT field type" ty = .ok () := by
    simp only [List.forall_mem_cons]
    exact ⟨rfl, rfl, rfl, rfl, by simp⟩
  intro i hi ty hty
  rw [List.mem_singleton.mp hi] at hty
  have htypes : lookupInterface.typeNames = ["account", "string", "entry", "failure"] := rfl
  rw [htypes] at hty
  simp only [List.mem_cons, List.not_mem_nil, or_false] at hty
  rcases hty with rfl | rfl | rfl | rfl <;> exact validateWitType_eq_ok.mp (hspelled _ (by decide))

/-- The types `account` and `failure` of an accepted component are not declared, neither in
the descriptor nor in its text. -/
theorem undeclared_types_accepted :
    lookupComponent.validate = .ok () ∧ ¬ lookupInterface.Closed ∧
      ∃ text document, renderWitWorld lookupComponent = .ok text ∧
        parseWit text = some document ∧ ∃ i ∈ document.interfaces, ¬ i.Closed := by
  have hvalid : lookupComponent.validate = .ok () := rfl
  obtain ⟨text, hrender⟩ := exists_renderWitWorld hvalid
  exact ⟨hvalid, by decide, text, lookupComponent.document, hrender,
    parseWit_renderWitWorld hrender, lookupInterface.document, List.mem_singleton_self _,
    by decide⟩

end Pingling.HostContract
