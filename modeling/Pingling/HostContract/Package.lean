import Pingling.HostContract.Slot

/-!
# Package descriptors and the merged contract

The descriptors a package ships with, the validation of each, and the registry that
merges the packages of all plugins under one owner for every method and every event.
-/

namespace Pingling.HostContract
open Lib Std

def isWitImportChar (character : Char) : Bool :=
  character.isAlphanum || character == ':' || character == '/' || character == '@' ||
    character == '.' || character == '-' || character == '_'

def isWitIdentifierChar (character : Char) : Bool :=
  character.isAlphanum || character == '-' || character == '_'

/-- A letter or an underscore, and identifier characters after it. -/
def validateWitIdentifier (kind value : String) : HostResult Unit :=
  match value.toList with
  | [] => .error (.invalidInput s!"{kind} must not be empty")
  | first :: rest =>
    if first.isAlpha || first == '_' then
      if rest.all isWitIdentifierChar then .ok ()
      else .error (.invalidInput s!"{kind} contains unsupported characters")
    else .error (.invalidInput s!"{kind} must start with a letter or underscore")

/-- A namespace and a name, with a colon between them. -/
def validateWitPackage (value : String) : HostResult Unit :=
  match Text.splitOnce ':' value with
  | none => .error (.invalidInput "WIT package must use namespace:name form")
  | some (scope, package) => do
    validateWitIdentifier "WIT package namespace" scope
    validateWitIdentifier "WIT package name" package

/-- The path of an interface that is declared elsewhere. -/
def validateWitImportPath (kind value : String) : HostResult Unit :=
  if value.isEmpty then .error (.invalidInput s!"{kind} must not be empty")
  else if !Text.contains ':' value || !Text.contains '/' value then
    .error (.invalidInput s!"{kind} must use namespace:package/interface form")
  else if Text.allChars isWitImportChar value then .ok ()
  else .error (.invalidInput s!"{kind} contains unsupported characters")

/-- The type names that need no declaration. -/
def witPrimitives : List String :=
  ["bool", "u8", "u16", "u32", "u64", "s8", "s16", "s32", "s64", "f32", "f64", "char",
    "string", "_"]

/-- A type is primitive or spelled like an identifier. Whether it is declared is not looked at. -/
def validateWitType (kind value : String) : HostResult Unit :=
  if value ∈ witPrimitives then .ok () else validateWitIdentifier kind value

/-- A field of a record or a parameter of a function. -/
structure WitFieldDescriptor where
  name : String
  ty : String
  deriving DecidableEq

def WitFieldDescriptor.validate (self : WitFieldDescriptor) : HostResult Unit := do
  validateWitIdentifier "WIT field" self.name
  validateWitType "WIT field type" self.ty

/-- The types of a result, of which at least one is given. -/
structure WitResultDescriptor where
  ok : Option String
  err : Option String
  deriving DecidableEq

def WitResultDescriptor.validate (self : WitResultDescriptor) : HostResult Unit :=
  if self.ok.isNone && self.err.isNone then
    .error (.invalidInput "WIT result must include ok or err type")
  else do
    checkSome (validateWitType "WIT result ok type") self.ok
    checkSome (validateWitType "WIT result err type") self.err

/-- A function of an interface. -/
structure ComponentFunctionDescriptor where
  name : String
  params : List WitFieldDescriptor
  result : Option WitResultDescriptor
  deriving DecidableEq

def ComponentFunctionDescriptor.validate (self : ComponentFunctionDescriptor) :
    HostResult Unit := do
  validateWitIdentifier "WIT function" self.name
  checkDistinct WitFieldDescriptor.validate (·.name)
    (fun param => .invalidInput
      s!"WIT function {self.name} declares param {param.name} more than once") ∅ self.params
  checkSome WitResultDescriptor.validate self.result

/-- A record that an interface declares. -/
structure ComponentRecordDescriptor where
  name : String
  fields : List WitFieldDescriptor
  deriving DecidableEq

def ComponentRecordDescriptor.validate (self : ComponentRecordDescriptor) : HostResult Unit := do
  validateWitIdentifier "WIT record" self.name
  checkDistinct WitFieldDescriptor.validate (·.name)
    (fun field => .invalidInput
      s!"WIT record {self.name} declares field {field.name} more than once") ∅ self.fields

/-- An interface with a body of its own, or the path of one that is declared elsewhere. -/
structure ComponentInterfaceDescriptor where
  name : String
  external : Option String
  records : List ComponentRecordDescriptor
  functions : List ComponentFunctionDescriptor
  deriving DecidableEq

/-- An interface imported from elsewhere has a path and no local body. -/
def ComponentInterfaceDescriptor.validateExternal (self : ComponentInterfaceDescriptor)
    (external : String) : HostResult Unit := do
  validateWitImportPath "WIT external import" external
  if !self.records.isEmpty || !self.functions.isEmpty then
    .error (.invalidInput (s!"WIT interface {self.name} cannot declare local records or " ++
      s!"functions when external import {external} is set"))
  else .ok ()

/-- No two records of an interface and no two functions of it have one name. -/
def ComponentInterfaceDescriptor.validate (self : ComponentInterfaceDescriptor) :
    HostResult Unit := do
  validateWitIdentifier "WIT interface" self.name
  checkSome self.validateExternal self.external
  checkDistinct ComponentRecordDescriptor.validate (·.name)
    (fun record => .invalidInput
      s!"WIT interface {self.name} declares record {record.name} more than once") ∅ self.records
  checkDistinct ComponentFunctionDescriptor.validate (·.name)
    (fun function => .invalidInput
      s!"WIT interface {self.name} declares function {function.name} more than once")
    ∅ self.functions

/-- An export is always local; an import may be external. -/
def validateComponentInterface (kind : String) (interface : ComponentInterfaceDescriptor) :
    HostResult Unit := do
  interface.validate
  if kind = "export" then
    checkSome (fun external => .error (.invalidInput
      s!"WIT export interface {interface.name} cannot use external import {external}"))
      interface.external
  else .ok ()

/-- No two interfaces of a kind have one name. -/
def validateComponentInterfaces (kind : String)
    (interfaces : List ComponentInterfaceDescriptor) : HostResult Unit :=
  checkDistinct (validateComponentInterface kind) (·.name)
    (fun interface => .invalidInput
      s!"WIT {kind} interface {interface.name} is declared more than once") ∅ interfaces

/-- The WIT world of a component. -/
structure ComponentDescriptor where
  witPackage : String
  world : String
  imports : List ComponentInterfaceDescriptor
  exports : List ComponentInterfaceDescriptor
  deriving DecidableEq

def ComponentDescriptor.validate (self : ComponentDescriptor) : HostResult Unit := do
  validateWitPackage self.witPackage
  validateWitIdentifier "WIT world" self.world
  validateComponentInterfaces "import" self.imports
  validateComponentInterfaces "export" self.exports

/-- The kinds of capabilities, in their order. -/
inductive HostCapabilityKind where
  | hostFunction
  | permission
  | httpHost
  | need
  | runtimeCapability
  deriving DecidableEq, Ord

/-- What a package requires of its host. -/
structure HostCapabilityDescriptor where
  kind : HostCapabilityKind
  name : String
  deriving DecidableEq

/-- The versions of the protocol and of the host that a package works with. -/
structure CompatibilityRange where
  protocol : Option String
  minHostVersion : Option String
  maxHostVersion : Option String
  deriving DecidableEq

def CompatibilityRange.validate (self : CompatibilityRange) : HostResult Unit := do
  checkSome (validateToken "protocol") self.protocol
  checkSome (validateToken "minimum host version") self.minHostVersion
  checkSome (validateToken "maximum host version") self.maxHostVersion

/-- An error that a method documents. -/
structure MethodErrorDescriptor where
  code : Int64
  message : String
  deriving DecidableEq

def MethodErrorDescriptor.validate (self : MethodErrorDescriptor) : HostResult Unit :=
  if (Text.trim self.message).isEmpty then
    .error (.invalidInput "method error message must not be empty")
  else .ok ()

/-- The schema that every object satisfies. -/
def defaultOpenSchema : Value :=
  .object [("additionalProperties", .bool true), ("type", .string "object")]

/-- A method of a package with the schemas of its parameters and of its result. -/
structure MethodDescriptor where
  name : String
  summary : Option String
  paramsSchema : Value
  resultSchema : Value
  errors : List MethodErrorDescriptor
  stability : Option String

namespace MethodDescriptor

def new (name : String) : HostResult MethodDescriptor := do
  validateToken "method" name
  .ok ⟨name, none, defaultOpenSchema, defaultOpenSchema, [], none⟩

/-- A method whose schemas are open. -/
def opaqueOf (name : String) : HostResult MethodDescriptor :=
  new name

def validate (self : MethodDescriptor) : HostResult Unit := do
  validateToken "method" self.name
  checkAll MethodErrorDescriptor.validate self.errors

end MethodDescriptor

/-- An event of a package with the schema of its payload. -/
structure EventDescriptor where
  name : String
  summary : Option String
  payloadSchema : Value
  subscription : Option String
  stability : Option String

def EventDescriptor.validate (self : EventDescriptor) : HostResult Unit :=
  validateToken "event" self.name

/-- What one plugin adds to the contract of the host. -/
structure IpcPackageDescriptor where
  id : String
  version : Option String
  domain : Option String
  compatibility : Option CompatibilityRange
  methods : List MethodDescriptor
  events : List EventDescriptor
  slots : List SlotBinding
  requiredCapabilities : List HostCapabilityDescriptor
  component : Option ComponentDescriptor

namespace IpcPackageDescriptor

def new (id : String) : HostResult IpcPackageDescriptor := do
  validateToken "package id" id
  .ok ⟨id, none, none, none, [], [], [], [], none⟩

def validate (self : IpcPackageDescriptor) : HostResult Unit := do
  validateToken "package id" self.id
  checkSome (validateToken "package domain") self.domain
  checkSome (validateToken "package version") self.version
  checkSome CompatibilityRange.validate self.compatibility
  checkDistinct MethodDescriptor.validate (·.name)
    (fun method => .invalidInput
      s!"package {self.id} declares method {method.name} more than once") ∅ self.methods
  checkDistinct EventDescriptor.validate (·.name)
    (fun event => .invalidInput
      s!"package {self.id} declares event {event.name} more than once") ∅ self.events
  checkAll (fun capability => validateToken "capability" capability.name)
    self.requiredCapabilities
  checkSome ComponentDescriptor.validate self.component

/-- What an accepted package satisfies, field by field. -/
theorem validate_eq_ok {self : IpcPackageDescriptor} :
    self.validate = .ok () ↔
      IsToken self.id ∧ (∀ d, self.domain = some d → IsToken d) ∧
      (∀ v, self.version = some v → IsToken v) ∧
      (∀ c, self.compatibility = some c → c.validate = .ok ()) ∧
      ((∀ m ∈ self.methods, m.validate = .ok ()) ∧ (self.methods.map (·.name)).Nodup) ∧
      ((∀ e ∈ self.events, e.validate = .ok ()) ∧ (self.events.map (·.name)).Nodup) ∧
      (∀ c ∈ self.requiredCapabilities, IsToken c.name) ∧
      (∀ c, self.component = some c → c.validate = .ok ()) := by
  simp only [validate, seq_eq_ok, checkSome_eq_ok, checkDistinct_eq_ok, checkAll_eq_ok,
    validateToken_eq_ok]

end IpcPackageDescriptor

lemma MethodDescriptor.new_of_isToken {name : String} (h : IsToken name) :
    MethodDescriptor.new name =
      .ok ⟨name, none, defaultOpenSchema, defaultOpenSchema, [], none⟩ := by
  have hv : validateToken "method" name = .ok () := validateToken_eq_ok.mpr h
  rw [MethodDescriptor.new, hv]
  rfl

lemma IpcPackageDescriptor.new_of_isToken {id : String} (h : IsToken id) :
    IpcPackageDescriptor.new id = .ok ⟨id, none, none, none, [], [], [], [], none⟩ := by
  have hv : validateToken "package id" id = .ok () := validateToken_eq_ok.mpr h
  rw [IpcPackageDescriptor.new, hv]
  rfl

/-- The packages of all plugins by id, and who owns which method and which event. -/
structure MergedContractRegistry where
  packages : BTreeMap String IpcPackageDescriptor
  methodOwners : BTreeMap String String
  eventOwners : BTreeMap String String

namespace MergedContractRegistry

def new : MergedContractRegistry :=
  ⟨∅, ∅, ∅⟩

/-- Refuses a name that some package already owns. -/
def checkUnowned (kind : String) (owners : BTreeMap String String) (name : String) :
    HostResult Unit :=
  match owners[name]? with
  | some owner => .error (.invalidInput s!"{kind} {name} is already owned by {owner}")
  | none => .ok ()

/-- Every check of `registerPackage`; none of them changes the registry. -/
def checkPackage (self : MergedContractRegistry) (package : IpcPackageDescriptor) :
    HostResult Unit := do
  package.validate
  if self.packages.contains package.id then
    .error (.invalidInput s!"package {package.id} is already registered")
  else do
    checkAll (fun method => checkUnowned "method" self.methodOwners method.name) package.methods
    checkAll (fun event => checkUnowned "event" self.eventOwners event.name) package.events

/-- The package becomes the owner of all its names. -/
def insertPackage (self : MergedContractRegistry) (package : IpcPackageDescriptor) :
    MergedContractRegistry where
  packages := self.packages.insert package.id package
  methodOwners := package.methods.foldl (fun owners method => owners.insert method.name package.id)
    self.methodOwners
  eventOwners := package.events.foldl (fun owners event => owners.insert event.name package.id)
    self.eventOwners

/-- A package that fails a check leaves the registry as it was. -/
def registerPackage (self : MergedContractRegistry) (package : IpcPackageDescriptor) :
    HostResult Unit × MergedContractRegistry :=
  match self.checkPackage package with
  | .error e => (.error e, self)
  | .ok () => (.ok (), self.insertPackage package)

def methodOwner (self : MergedContractRegistry) (method : String) : Option String :=
  self.methodOwners[method]?

def eventOwner (self : MergedContractRegistry) (event : String) : Option String :=
  self.eventOwners[event]?

end MergedContractRegistry

end Pingling.HostContract
