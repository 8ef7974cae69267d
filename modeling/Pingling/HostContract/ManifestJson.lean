import Pingling.Lib.WireRecord
import Pingling.HostContract.Manifest

/-!
# Manifests as JSON

Every type that a manifest is made of, with the fields that serde derives for it: their
names, their defaults, and which of them are left out when they hold nothing. A manifest
that was written is read back unchanged. Manifests are read from objects only, not from the
lists of their fields.
-/

namespace Pingling.HostContract
open Lib Std Wire

section

variable {V : Type} [WireFormat V]

/-- A slot is written as its name alone, and any text is read as a slot. -/
instance : Wire V Slot where
  write slot := write slot.value
  read v := (read v).map Slot.mk

instance : LosslessWire V Slot := ⟨fun slot => by simp [Wire.read, Wire.write]⟩

end

instance : WireEnum SlotPhase where
  name := SlotPhase.asStr
  ofName? name :=
    match name with
    | "before" => some .before
    | "exec" => some .exec
    | "after" => some .after
    | _ => none
  ofName?_name phase := by cases phase <;> rfl

instance : WireEnum SlotPolicy where
  name policy :=
    match policy with
    | .pipeline => "pipeline"
    | .firstSuccess => "first_success"
    | .singleOwner => "single_owner"
    | .broadcast => "broadcast"
    | .bestEffort => "best_effort"
  ofName? name :=
    match name with
    | "pipeline" => some .pipeline
    | "first_success" => some .firstSuccess
    | "single_owner" => some .singleOwner
    | "broadcast" => some .broadcast
    | "best_effort" => some .bestEffort
    | _ => none
  ofName?_name policy := by cases policy <;> rfl

instance : WireEnum HostCapabilityKind where
  name kind :=
    match kind with
    | .hostFunction => "host_function"
    | .permission => "permission"
    | .httpHost => "http_host"
    | .need => "need"
    | .runtimeCapability => "runtime_capability"
  ofName? name :=
    match name with
    | "host_function" => some .hostFunction
    | "permission" => some .permission
    | "http_host" => some .httpHost
    | "need" => some .need
    | "runtime_capability" => some .runtimeCapability
    | _ => none
  ofName?_name kind := by cases kind <;> rfl

instance : WireRecord Value SlotBinding where
  fields binding := [
    ("name", some (write binding.name)),
    ("phases", some (write binding.phases)),
    ("policy", some (write binding.policy))]
  keys_nodup _ := by simp
  build get := do
    let name ← required (get "name")
    let phases ← defaulted SlotPhase.order (get "phases")
    let policy ← defaulted .pipeline (get "policy")
    some ⟨name, phases, policy⟩

instance : LosslessRecord Value SlotBinding where
  build_fields _ := by simp [WireRecord.fields, WireRecord.build]

instance : WireRecord Value HostCapabilityDescriptor where
  fields capability := [
    ("kind", some (write capability.kind)),
    ("name", some (write capability.name))]
  keys_nodup _ := by simp
  build get := do
    let kind ← required (get "kind")
    let name ← required (get "name")
    some ⟨kind, name⟩

instance : LosslessRecord Value HostCapabilityDescriptor where
  build_fields _ := by simp [WireRecord.fields, WireRecord.build]

instance : WireRecord Value CompatibilityRange where
  fields range := [
    ("protocol", range.protocol.map write),
    ("min_host_version", range.minHostVersion.map write),
    ("max_host_version", range.maxHostVersion.map write)]
  keys_nodup _ := by simp
  build get := do
    let protocol ← nullable (get "protocol")
    let minHostVersion ← nullable (get "min_host_version")
    let maxHostVersion ← nullable (get "max_host_version")
    some ⟨protocol, minHostVersion, maxHostVersion⟩

instance : LosslessRecord Value CompatibilityRange where
  build_fields _ := by simp [WireRecord.fields, WireRecord.build]

instance : WireRecord Value MethodErrorDescriptor where
  fields error := [
    ("code", some (write error.code)),
    ("message", some (write error.message))]
  keys_nodup _ := by simp
  build get := do
    let code ← required (get "code")
    let message ← required (get "message")
    some ⟨code, message⟩

instance : LosslessRecord Value MethodErrorDescriptor where
  build_fields _ := by simp [WireRecord.fields, WireRecord.build]

instance : WireRecord Value MethodDescriptor where
  fields method := [
    ("name", some (write method.name)),
    ("summary", method.summary.map write),
    ("params_schema", some (write method.paramsSchema)),
    ("result_schema", some (write method.resultSchema)),
    ("errors", some (write method.errors)),
    ("stability", method.stability.map write)]
  keys_nodup _ := by simp
  build get := do
    let name ← required (get "name")
    let summary ← nullable (get "summary")
    let paramsSchema ← defaulted defaultOpenSchema (get "params_schema")
    let resultSchema ← defaulted defaultOpenSchema (get "result_schema")
    let errors ← defaulted [] (get "errors")
    let stability ← nullable (get "stability")
    some ⟨name, summary, paramsSchema, resultSchema, errors, stability⟩

instance : LosslessRecord Value MethodDescriptor where
  build_fields _ := by simp [WireRecord.fields, WireRecord.build]

instance : WireRecord Value EventDescriptor where
  fields event := [
    ("name", some (write event.name)),
    ("summary", event.summary.map write),
    ("payload_schema", some (write event.payloadSchema)),
    ("subscription", event.subscription.map write),
    ("stability", event.stability.map write)]
  keys_nodup _ := by simp
  build get := do
    let name ← required (get "name")
    let summary ← nullable (get "summary")
    let payloadSchema ← defaulted defaultOpenSchema (get "payload_schema")
    let subscription ← nullable (get "subscription")
    let stability ← nullable (get "stability")
    some ⟨name, summary, payloadSchema, subscription, stability⟩

instance : LosslessRecord Value EventDescriptor where
  build_fields _ := by simp [WireRecord.fields, WireRecord.build]

instance : WireRecord Value WitFieldDescriptor where
  fields field := [
    ("name", some (write field.name)),
    ("ty", some (write field.ty))]
  keys_nodup _ := by simp
  build get := do
    let name ← required (get "name")
    let ty ← required (get "ty")
    some ⟨name, ty⟩

instance : LosslessRecord Value WitFieldDescriptor where
  build_fields _ := by simp [WireRecord.fields, WireRecord.build]

instance : WireRecord Value WitResultDescriptor where
  fields result := [
    ("ok", result.ok.map write),
    ("err", result.err.map write)]
  keys_nodup _ := by simp
  build get := do
    let ok ← nullable (get "ok")
    let err ← nullable (get "err")
    some ⟨ok, err⟩

instance : LosslessRecord Value WitResultDescriptor where
  build_fields _ := by simp [WireRecord.fields, WireRecord.build]

instance : WireRecord Value ComponentFunctionDescriptor where
  fields function := [
    ("name", some (write function.name)),
    ("params", some (write function.params)),
    ("result", function.result.map write)]
  keys_nodup _ := by simp
  build get := do
    let name ← required (get "name")
    let params ← defaulted [] (get "params")
    let result ← nullable (get "result")
    some ⟨name, params, result⟩

instance : LosslessRecord Value ComponentFunctionDescriptor where
  build_fields _ := by simp [WireRecord.fields, WireRecord.build]

instance : WireRecord Value ComponentRecordDescriptor where
  fields record := [
    ("name", some (write record.name)),
    ("fields", some (write record.fields))]
  keys_nodup _ := by simp
  build get := do
    let name ← required (get "name")
    let fields ← defaulted [] (get "fields")
    some ⟨name, fields⟩

instance : LosslessRecord Value ComponentRecordDescriptor where
  build_fields _ := by simp [WireRecord.fields, WireRecord.build]

instance : WireRecord Value ComponentInterfaceDescriptor where
  fields interface := [
    ("name", some (write interface.name)),
    ("external", interface.external.map write),
    ("records", some (write interface.records)),
    ("functions", some (write interface.functions))]
  keys_nodup _ := by simp
  build get := do
    let name ← required (get "name")
    let external ← nullable (get "external")
    let records ← defaulted [] (get "records")
    let functions ← defaulted [] (get "functions")
    some ⟨name, external, records, functions⟩

instance : LosslessRecord Value ComponentInterfaceDescriptor where
  build_fields _ := by simp [WireRecord.fields, WireRecord.build]

instance : WireRecord Value ComponentDescriptor where
  fields component := [
    ("wit_package", some (write component.witPackage)),
    ("world", some (write component.world)),
    ("imports", some (write component.imports)),
    ("exports", some (write component.exports))]
  keys_nodup _ := by simp
  build get := do
    let witPackage ← required (get "wit_package")
    let world ← required (get "world")
    let imports ← defaulted [] (get "imports")
    let exports ← defaulted [] (get "exports")
    some ⟨witPackage, world, imports, exports⟩

instance : LosslessRecord Value ComponentDescriptor where
  build_fields _ := by simp [WireRecord.fields, WireRecord.build]

instance : WireRecord Value IpcPackageDescriptor where
  fields package := [
    ("id", some (write package.id)),
    ("version", package.version.map write),
    ("domain", package.domain.map write),
    ("compatibility", package.compatibility.map write),
    ("methods", some (write package.methods)),
    ("events", some (write package.events)),
    ("slots", some (write package.slots)),
    ("required_capabilities", some (write package.requiredCapabilities)),
    ("component", package.component.map write)]
  keys_nodup _ := by simp
  build get := do
    let id ← required (get "id")
    let version ← nullable (get "version")
    let domain ← nullable (get "domain")
    let compatibility ← nullable (get "compatibility")
    let methods ← defaulted [] (get "methods")
    let events ← defaulted [] (get "events")
    let slots ← defaulted [] (get "slots")
    let requiredCapabilities ← defaulted [] (get "required_capabilities")
    let component ← nullable (get "component")
    some ⟨id, version, domain, compatibility, methods, events, slots, requiredCapabilities,
      component⟩

instance : LosslessRecord Value IpcPackageDescriptor where
  build_fields _ := by simp [WireRecord.fields, WireRecord.build]

instance : WireRecord Value PluginManifest where
  fields manifest := [
    ("id", some (write manifest.id)),
    ("priority", some (write manifest.priority)),
    ("methods", some (write manifest.methods)),
    ("slots", some (write manifest.slots)),
    ("needs", some (write manifest.needs)),
    ("allowed_hosts", some (write manifest.allowedHosts)),
    ("package", manifest.package.map write)]
  keys_nodup _ := by simp
  build get := do
    let id ← required (get "id")
    let priority ← defaulted (0 : Int32) (get "priority")
    let methods ← defaulted [] (get "methods")
    let slots ← defaulted [] (get "slots")
    let needs ← defaulted [] (get "needs")
    let allowedHosts ← defaulted [] (get "allowed_hosts")
    let package ← nullable (get "package")
    some ⟨id, priority, methods, slots, needs, allowedHosts, package⟩

instance : LosslessRecord Value PluginManifest where
  build_fields _ := by simp [WireRecord.fields, WireRecord.build]

namespace PluginManifest

/-- The manifest as JSON. -/
def toValue (self : PluginManifest) : Value :=
  write self

/-- The manifest that a JSON object is, with defaults for the fields that it leaves out. -/
def fromValue (value : Value) : Option PluginManifest :=
  read value

/-- A manifest is read back from its JSON as it was, and so passes the same validation. -/
theorem fromValue_toValue (manifest : PluginManifest) :
    ∃ decoded, fromValue manifest.toValue = some decoded ∧ decoded = manifest ∧
      (decoded.validate = .ok () ↔ manifest.validate = .ok ()) :=
  ⟨manifest, LosslessWire.read_write manifest, rfl, Iff.rfl⟩

end PluginManifest

end Pingling.HostContract
