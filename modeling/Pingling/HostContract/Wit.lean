import Pingling.Lib.Parse
import Pingling.HostContract.Package

/-!
# WIT texts

A component descriptor is rendered as a WIT document: the package, the bodies of its local
interfaces, and a world that imports and exports by name. The grammar of such documents
follows, with the documents that it reads.
-/

namespace Pingling.HostContract
open Lib

def renderField (field : WitFieldDescriptor) : String :=
  "    " ++ field.name ++ ": " ++ field.ty ++ ",\n"

/-- A record as the lines of its fields. -/
def renderRecord (record : ComponentRecordDescriptor) : String :=
  "  record " ++ record.name ++ " \x7b\n" ++ String.join (record.fields.map renderField) ++
    "  \x7d\n\n"

def renderParam (param : WitFieldDescriptor) : String :=
  param.name ++ ": " ++ param.ty

/-- A result with one type only is written as that type when it is the ok type. -/
def renderResult (result : WitResultDescriptor) : String :=
  match result.ok, result.err with
  | some ok, some err => "result<" ++ ok ++ ", " ++ err ++ ">"
  | some ok, none => ok
  | none, some err => "result<_, " ++ err ++ ">"
  | none, none => "result"

/-- A function as one line. -/
def renderFunction (function : ComponentFunctionDescriptor) : String :=
  let params := String.intercalate ", " (function.params.map renderParam)
  match function.result with
  | some result =>
    "  " ++ function.name ++ ": func(" ++ params ++ ") -> " ++ renderResult result ++ ";\n"
  | none => "  " ++ function.name ++ ": func(" ++ params ++ ");\n"

/-- An interface with its records before its functions. -/
def renderInterface (interface : ComponentInterfaceDescriptor) : String :=
  "interface " ++ interface.name ++ " \x7b\n" ++
    String.join (interface.records.map renderRecord) ++
    String.join (interface.functions.map renderFunction) ++ "\x7d\n"

/-- An import names the place that it comes from, or the interface that is declared here. -/
def importName (interface : ComponentInterfaceDescriptor) : String :=
  match interface.external with
  | some external => external
  | none => interface.name

def renderImport (interface : ComponentInterfaceDescriptor) : String :=
  "  import " ++ importName interface ++ ";\n"

def renderExport (interface : ComponentInterfaceDescriptor) : String :=
  "  export " ++ interface.name ++ ";\n"

/-- The interfaces whose bodies are rendered, those of the imports first. -/
def ComponentDescriptor.localInterfaces (self : ComponentDescriptor) :
    List ComponentInterfaceDescriptor :=
  (self.imports ++ self.exports).filter fun interface => interface.external.isNone

/-- The text of a component that passes its checks. -/
def renderWitWorld (component : ComponentDescriptor) : HostResult String := do
  component.validate
  .ok ("package " ++ component.witPackage ++ ";\n\n" ++
    String.join
      (component.localInterfaces.map fun interface => renderInterface interface ++ "\n") ++
    "world " ++ component.world ++ " \x7b\n" ++
    String.join (component.imports.map renderImport) ++
    String.join (component.exports.map renderExport) ++ "\x7d\n")

/-- What a function of a document returns. -/
inductive WitReturn where
  | type (ty : String)
  | result (ok err : String)
  deriving DecidableEq

/-- A function of a document. -/
structure WitFunction where
  name : String
  params : List WitFieldDescriptor
  returns : Option WitReturn
  deriving DecidableEq

/-- An interface of a document. -/
structure WitInterface where
  name : String
  records : List ComponentRecordDescriptor
  functions : List WitFunction
  deriving DecidableEq

/-- A WIT document. -/
structure WitDocument where
  package : String
  interfaces : List WitInterface
  world : String
  imports : List String
  exports : List String
  deriving DecidableEq

section
open Parser

def isWitPackageChar (character : Char) : Bool :=
  isWitIdentifierChar character || character == ':'

def identifier : Parser String :=
  word isWitIdentifierChar

def parseField : Parser WitFieldDescriptor := do
  literal "    "
  let name ← identifier
  literal ": "
  let ty ← identifier
  literal ",\n"
  pure ⟨name, ty⟩

/-- A record begins with a keyword, where a function has its name. -/
def parseRecord : Parser ComponentRecordDescriptor := do
  literal "  "
  let keyword ← identifier
  if keyword = "record" then do
    literal " "
    let name ← identifier
    literal " \x7b\n"
    let fields ← many parseField
    literal "  \x7d\n\n"
    pure ⟨name, fields⟩
  else refuse

/-- A parameter up to the text after it. -/
def parseParam (stop : String) : Parser WitFieldDescriptor := do
  let name ← identifier
  literal ": "
  let ty ← identifier
  literal stop
  pure ⟨name, ty⟩

/-- The parameters up to the bracket. -/
def parseParams : Parser (List WitFieldDescriptor) :=
  orElse
    (do
      literal ")"
      pure [])
    (do
      let params ← many (parseParam ", ")
      let last ← parseParam ")"
      pure (params ++ [last]))

def parseResult : Parser (Option WitReturn) := do
  literal "<"
  let ok ← identifier
  literal ", "
  let err ← identifier
  literal ">;\n"
  pure (some (.result ok err))

/-- The return type up to the end of the line. -/
def parseReturns : Parser (Option WitReturn) :=
  orElse
    (do
      literal ";\n"
      pure none)
    (do
      literal " -> "
      let ty ← identifier
      orElse
        (do
          literal ";\n"
          pure (some (.type ty)))
        (if ty = "result" then parseResult else refuse))

def parseFunction : Parser WitFunction := do
  literal "  "
  let name ← identifier
  literal ": func("
  let params ← parseParams
  let returns ← parseReturns
  pure ⟨name, params, returns⟩

/-- An interface with its records before its functions. -/
def parseInterface : Parser WitInterface := do
  literal "interface "
  let name ← identifier
  literal " \x7b\n"
  let records ← many parseRecord
  let functions ← many parseFunction
  literal "\x7d\n\n"
  pure ⟨name, records, functions⟩

def parseImport : Parser String := do
  literal "  import "
  let path ← word isWitImportChar
  literal ";\n"
  pure path

def parseExport : Parser String := do
  literal "  export "
  let name ← identifier
  literal ";\n"
  pure name

/-- The whole document. -/
def parseDocument : Parser WitDocument := do
  literal "package "
  let package ← word isWitPackageChar
  literal ";\n\n"
  let interfaces ← many parseInterface
  literal "world "
  let world ← identifier
  literal " \x7b\n"
  let imports ← many parseImport
  let exports ← many parseExport
  literal "\x7d\n"
  pure ⟨package, interfaces, world, imports, exports⟩

end

/-- The document that a text is. -/
def parseWit (text : String) : Option WitDocument :=
  Parser.parse parseDocument text

end Pingling.HostContract
