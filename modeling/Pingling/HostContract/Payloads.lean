import Pingling.Lib.WireRecord
import Pingling.HostContract.Slot

/-!
# The payloads of the slots

Every payload that the host contract gives a slot, as serde derives its JSON. Where a
free-form field is optional, an explicit null in it is read back as nothing at all.
-/

namespace Pingling.HostContract
open Lib Wire

/-- What connecting came to. -/
structure ConnectResult where
  started : Bool
  durationMs : UInt64
  error : Option String

instance : WireRecord Value ConnectResult where
  fields result := [
    ("started", some (write result.started)),
    ("duration_ms", some (write result.durationMs)),
    ("error", result.error.map write)]
  keys_nodup _ := by simp
  build get := do
    let started ← required (get "started")
    let durationMs ← required (get "duration_ms")
    let error ← nullable (get "error")
    some ⟨started, durationMs, error⟩

instance : LosslessRecord Value ConnectResult where
  build_fields _ := by simp [WireRecord.fields, WireRecord.build]

/-- What disconnecting came to. -/
structure DisconnectResult where
  stopped : Bool
  durationMs : UInt64
  error : Option String

instance : WireRecord Value DisconnectResult where
  fields result := [
    ("stopped", some (write result.stopped)),
    ("duration_ms", some (write result.durationMs)),
    ("error", result.error.map write)]
  keys_nodup _ := by simp
  build get := do
    let stopped ← required (get "stopped")
    let durationMs ← required (get "duration_ms")
    let error ← nullable (get "error")
    some ⟨stopped, durationMs, error⟩

instance : LosslessRecord Value DisconnectResult where
  build_fields _ := by simp [WireRecord.fields, WireRecord.build]

/-- What starting or stopping a core came to. -/
structure CoreLifecycleResult where
  ok : Bool
  durationMs : UInt64
  error : Option String

instance : WireRecord Value CoreLifecycleResult where
  fields result := [
    ("ok", some (write result.ok)),
    ("duration_ms", some (write result.durationMs)),
    ("error", result.error.map write)]
  keys_nodup _ := by simp
  build get := do
    let ok ← required (get "ok")
    let durationMs ← required (get "duration_ms")
    let error ← nullable (get "error")
    some ⟨ok, durationMs, error⟩

instance : LosslessRecord Value CoreLifecycleResult where
  build_fields _ := by simp [WireRecord.fields, WireRecord.build]

/-- What a latency test came to. -/
structure LatencyResult where
  rttMs : Option UInt32
  error : Option String

instance : WireRecord Value LatencyResult where
  fields result := [
    ("rtt_ms", result.rttMs.map write),
    ("error", result.error.map write)]
  keys_nodup _ := by simp
  build get := do
    let rttMs ← nullable (get "rtt_ms")
    let error ← nullable (get "error")
    some ⟨rttMs, error⟩

instance : LosslessRecord Value LatencyResult where
  build_fields _ := by simp [WireRecord.fields, WireRecord.build]

/-- The payload of `vpn.connect`. -/
structure VpnConnectPayload where
  coreType : String
  configPath : Option String
  hint : Option Value
  result : Option ConnectResult

instance : WireRecord Value VpnConnectPayload where
  fields payload := [
    ("core_type", some (write payload.coreType)),
    ("config_path", payload.configPath.map write),
    ("hint", payload.hint.map write),
    ("result", payload.result.map write)]
  keys_nodup _ := by simp
  build get := do
    let coreType ← required (get "core_type")
    let configPath ← nullable (get "config_path")
    let hint ← nullable (get "hint")
    let result ← nullable (get "result")
    some ⟨coreType, configPath, hint, result⟩

lemma VpnConnectPayload.read_write (payload : VpnConnectPayload) :
    (read (write payload : Value) : Option VpnConnectPayload) =
      some { payload with hint := keptValue payload.hint } := by
  rw [read_write_record]
  simp [WireRecord.fields, WireRecord.build]

lemma VpnConnectPayload.read_write_iff (payload : VpnConnectPayload) :
    (read (write payload : Value) : Option VpnConnectPayload) = some payload ↔
      payload.hint ≠ some .null := by
  rw [VpnConnectPayload.read_write, ← keptValue_eq_self]
  cases payload
  simp

/-- The payload of `vpn.disconnect`. -/
structure VpnDisconnectPayload where
  coreType : String
  reason : Option String
  result : Option DisconnectResult

instance : WireRecord Value VpnDisconnectPayload where
  fields payload := [
    ("core_type", some (write payload.coreType)),
    ("reason", payload.reason.map write),
    ("result", payload.result.map write)]
  keys_nodup _ := by simp
  build get := do
    let coreType ← required (get "core_type")
    let reason ← nullable (get "reason")
    let result ← nullable (get "result")
    some ⟨coreType, reason, result⟩

instance : LosslessRecord Value VpnDisconnectPayload where
  build_fields _ := by simp [WireRecord.fields, WireRecord.build]

/-- The payload of `core.start`. -/
structure CoreStartPayload where
  coreType : String
  configPath : String
  result : Option CoreLifecycleResult

instance : WireRecord Value CoreStartPayload where
  fields payload := [
    ("core_type", some (write payload.coreType)),
    ("config_path", some (write payload.configPath)),
    ("result", payload.result.map write)]
  keys_nodup _ := by simp
  build get := do
    let coreType ← required (get "core_type")
    let configPath ← required (get "config_path")
    let result ← nullable (get "result")
    some ⟨coreType, configPath, result⟩

instance : LosslessRecord Value CoreStartPayload where
  build_fields _ := by simp [WireRecord.fields, WireRecord.build]

/-- The payload of `core.stop`. -/
structure CoreStopPayload where
  coreType : String
  reason : Option String
  result : Option CoreLifecycleResult

instance : WireRecord Value CoreStopPayload where
  fields payload := [
    ("core_type", some (write payload.coreType)),
    ("reason", payload.reason.map write),
    ("result", payload.result.map write)]
  keys_nodup _ := by simp
  build get := do
    let coreType ← required (get "core_type")
    let reason ← nullable (get "reason")
    let result ← nullable (get "result")
    some ⟨coreType, reason, result⟩

instance : LosslessRecord Value CoreStopPayload where
  build_fields _ := by simp [WireRecord.fields, WireRecord.build]

/-- The payload of `profile.activate`. -/
structure ProfileActivatePayload where
  profileId : String
  reason : String

instance : WireRecord Value ProfileActivatePayload where
  fields payload := [
    ("profile_id", some (write payload.profileId)),
    ("reason", some (write payload.reason))]
  keys_nodup _ := by simp
  build get := do
    let profileId ← required (get "profile_id")
    let reason ← required (get "reason")
    some ⟨profileId, reason⟩

instance : LosslessRecord Value ProfileActivatePayload where
  build_fields _ := by simp [WireRecord.fields, WireRecord.build]

/-- The payload of `profile.persist`. -/
structure ProfilePersistPayload where
  profileId : String
  profile : Value
  source : String

instance : WireRecord Value ProfilePersistPayload where
  fields payload := [
    ("profile_id", some (write payload.profileId)),
    ("profile", some (write payload.profile)),
    ("source", some (write payload.source))]
  keys_nodup _ := by simp
  build get := do
    let profileId ← required (get "profile_id")
    let profile ← required (get "profile")
    let source ← required (get "source")
    some ⟨profileId, profile, source⟩

instance : LosslessRecord Value ProfilePersistPayload where
  build_fields _ := by simp [WireRecord.fields, WireRecord.build]

/-- The payload of `daemon.startup`. -/
structure DaemonStartupPayload where
  version : String
  pluginCount : UInt32
  coreTypes : List String

instance : WireRecord Value DaemonStartupPayload where
  fields payload := [
    ("version", some (write payload.version)),
    ("plugin_count", some (write payload.pluginCount)),
    ("core_types", some (write payload.coreTypes))]
  keys_nodup _ := by simp
  build get := do
    let version ← required (get "version")
    let pluginCount ← required (get "plugin_count")
    let coreTypes ← required (get "core_types")
    some ⟨version, pluginCount, coreTypes⟩

instance : LosslessRecord Value DaemonStartupPayload where
  build_fields _ := by simp [WireRecord.fields, WireRecord.build]

/-- The payload of `daemon.shutdown`. -/
structure DaemonShutdownPayload where
  trigger : String
  uptimeSeconds : UInt64

instance : WireRecord Value DaemonShutdownPayload where
  fields payload := [
    ("trigger", some (write payload.trigger)),
    ("uptime_seconds", some (write payload.uptimeSeconds))]
  keys_nodup _ := by simp
  build get := do
    let trigger ← required (get "trigger")
    let uptimeSeconds ← required (get "uptime_seconds")
    some ⟨trigger, uptimeSeconds⟩

instance : LosslessRecord Value DaemonShutdownPayload where
  build_fields _ := by simp [WireRecord.fields, WireRecord.build]

/-- The payload of `outbound.select`. -/
structure OutboundSelectPayload where
  tag : String
  previous : Option String

instance : WireRecord Value OutboundSelectPayload where
  fields payload := [
    ("tag", some (write payload.tag)),
    ("previous", payload.previous.map write)]
  keys_nodup _ := by simp
  build get := do
    let tag ← required (get "tag")
    let previous ← nullable (get "previous")
    some ⟨tag, previous⟩

instance : LosslessRecord Value OutboundSelectPayload where
  build_fields _ := by simp [WireRecord.fields, WireRecord.build]

/-- The payload of `outbound.test_latency`. -/
structure OutboundTestLatencyPayload where
  tag : String
  result : Option LatencyResult

instance : WireRecord Value OutboundTestLatencyPayload where
  fields payload := [
    ("tag", some (write payload.tag)),
    ("result", payload.result.map write)]
  keys_nodup _ := by simp
  build get := do
    let tag ← required (get "tag")
    let result ← nullable (get "result")
    some ⟨tag, result⟩

instance : LosslessRecord Value OutboundTestLatencyPayload where
  build_fields _ := by simp [WireRecord.fields, WireRecord.build]

/-- The payload of `config.process`. -/
structure ConfigProcessPayload where
  config : Value
  request : Value
  coreType : Option String
  coreVersion : Option String
  targetOs : Option String

instance : WireRecord Value ConfigProcessPayload where
  fields payload := [
    ("config", some (write payload.config)),
    ("request", some (write payload.request)),
    ("core_type", payload.coreType.map write),
    ("core_version", payload.coreVersion.map write),
    ("target_os", payload.targetOs.map write)]
  keys_nodup _ := by simp
  build get := do
    let config ← required (get "config")
    let request ← defaulted .null (get "request")
    let coreType ← nullable (get "core_type")
    let coreVersion ← nullable (get "core_version")
    let targetOs ← nullable (get "target_os")
    some ⟨config, request, coreType, coreVersion, targetOs⟩

instance : LosslessRecord Value ConfigProcessPayload where
  build_fields _ := by simp [WireRecord.fields, WireRecord.build]

/-- The payload of `deeplink.resolve`. -/
structure DeeplinkResolvePayload where
  request : Value
  installId : Option String
  platform : Option String
  resolution : Option Value

instance : WireRecord Value DeeplinkResolvePayload where
  fields payload := [
    ("request", some (write payload.request)),
    ("install_id", payload.installId.map write),
    ("platform", payload.platform.map write),
    ("resolution", payload.resolution.map write)]
  keys_nodup _ := by simp
  build get := do
    let request ← required (get "request")
    let installId ← nullable (get "install_id")
    let platform ← nullable (get "platform")
    let resolution ← nullable (get "resolution")
    some ⟨request, installId, platform, resolution⟩

lemma DeeplinkResolvePayload.read_write (payload : DeeplinkResolvePayload) :
    (read (write payload : Value) : Option DeeplinkResolvePayload) =
      some { payload with resolution := keptValue payload.resolution } := by
  rw [read_write_record]
  simp [WireRecord.fields, WireRecord.build]

lemma DeeplinkResolvePayload.read_write_iff (payload : DeeplinkResolvePayload) :
    (read (write payload : Value) : Option DeeplinkResolvePayload) = some payload ↔
      payload.resolution ≠ some .null := by
  rw [DeeplinkResolvePayload.read_write, ← keptValue_eq_self]
  cases payload
  simp

/-- The payload of `auth.session`. -/
structure AuthSessionPayload where
  session : Option Value

instance : WireRecord Value AuthSessionPayload where
  fields payload := [
    ("session", payload.session.map write)]
  keys_nodup _ := by simp
  build get := do
    let session ← nullable (get "session")
    some ⟨session⟩

lemma AuthSessionPayload.read_write (payload : AuthSessionPayload) :
    (read (write payload : Value) : Option AuthSessionPayload) =
      some { payload with session := keptValue payload.session } := by
  rw [read_write_record]
  simp [WireRecord.fields, WireRecord.build]

lemma AuthSessionPayload.read_write_iff (payload : AuthSessionPayload) :
    (read (write payload : Value) : Option AuthSessionPayload) = some payload ↔
      payload.session ≠ some .null := by
  rw [AuthSessionPayload.read_write, ← keptValue_eq_self]
  cases payload
  simp

/-- The payload of `plugin.load`. -/
structure PluginLoadPayload where
  pluginId : String
  manifest : Option Value

instance : WireRecord Value PluginLoadPayload where
  fields payload := [
    ("plugin_id", some (write payload.pluginId)),
    ("manifest", some (writeOrNull payload.manifest))]
  keys_nodup _ := by simp
  build get := do
    let pluginId ← defaulted "" (get "plugin_id")
    let manifest ← nullable (get "manifest")
    some ⟨pluginId, manifest⟩

lemma PluginLoadPayload.read_write (payload : PluginLoadPayload) :
    (read (write payload : Value) : Option PluginLoadPayload) =
      some { payload with manifest := keptValue payload.manifest } := by
  rw [read_write_record]
  simp [WireRecord.fields, WireRecord.build]

lemma PluginLoadPayload.read_write_iff (payload : PluginLoadPayload) :
    (read (write payload : Value) : Option PluginLoadPayload) = some payload ↔
      payload.manifest ≠ some .null := by
  rw [PluginLoadPayload.read_write, ← keptValue_eq_self]
  cases payload
  simp

end Pingling.HostContract
