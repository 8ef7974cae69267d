import Pingling.Domain.SlotPayloads
import Pingling.HostContract.Payloads

/-!
# Payloads across the wire

A payload that a plugin echoes comes back as it was unless an optional free-form field of it
holds an explicit null. The domain and the host contract each have a copy of ten of the
payload types; the copies write the same JSON, so either side reads what the other wrote.
-/

namespace Pingling.HostContract
open Lib Wire

lemma read_write_iff_true {P : Type} [Wire Value P] [LosslessWire Value P] (payload : P) :
    (read (write payload : Value) : Option P) = some payload ↔ True :=
  iff_of_true (LosslessWire.read_write payload) trivial

/-- The payload types of the host contract. -/
inductive PayloadKind where
  | vpnConnect
  | vpnDisconnect
  | coreStart
  | coreStop
  | profileActivate
  | profilePersist
  | daemonStartup
  | daemonShutdown
  | outboundSelect
  | outboundTestLatency
  | configProcess
  | deeplinkResolve
  | authSession
  | pluginLoad

namespace PayloadKind

/-- The payloads of a kind. -/
abbrev Payload : PayloadKind → Type
  | vpnConnect => VpnConnectPayload
  | vpnDisconnect => VpnDisconnectPayload
  | coreStart => CoreStartPayload
  | coreStop => CoreStopPayload
  | profileActivate => ProfileActivatePayload
  | profilePersist => ProfilePersistPayload
  | daemonStartup => DaemonStartupPayload
  | daemonShutdown => DaemonShutdownPayload
  | outboundSelect => OutboundSelectPayload
  | outboundTestLatency => OutboundTestLatencyPayload
  | configProcess => ConfigProcessPayload
  | deeplinkResolve => DeeplinkResolvePayload
  | authSession => AuthSessionPayload
  | pluginLoad => PluginLoadPayload

instance : (kind : PayloadKind) → WireRecord Value kind.Payload
  | vpnConnect => inferInstanceAs (WireRecord Value VpnConnectPayload)
  | vpnDisconnect => inferInstanceAs (WireRecord Value VpnDisconnectPayload)
  | coreStart => inferInstanceAs (WireRecord Value CoreStartPayload)
  | coreStop => inferInstanceAs (WireRecord Value CoreStopPayload)
  | profileActivate => inferInstanceAs (WireRecord Value ProfileActivatePayload)
  | profilePersist => inferInstanceAs (WireRecord Value ProfilePersistPayload)
  | daemonStartup => inferInstanceAs (WireRecord Value DaemonStartupPayload)
  | daemonShutdown => inferInstanceAs (WireRecord Value DaemonShutdownPayload)
  | outboundSelect => inferInstanceAs (WireRecord Value OutboundSelectPayload)
  | outboundTestLatency => inferInstanceAs (WireRecord Value OutboundTestLatencyPayload)
  | configProcess => inferInstanceAs (WireRecord Value ConfigProcessPayload)
  | deeplinkResolve => inferInstanceAs (WireRecord Value DeeplinkResolvePayload)
  | authSession => inferInstanceAs (WireRecord Value AuthSessionPayload)
  | pluginLoad => inferInstanceAs (WireRecord Value PluginLoadPayload)

/-- No optional free-form field holds an explicit null. -/
def NoNull : (kind : PayloadKind) → kind.Payload → Prop
  | vpnConnect, payload => payload.hint ≠ some .null
  | deeplinkResolve, payload => payload.resolution ≠ some .null
  | authSession, payload => payload.session ≠ some .null
  | pluginLoad, payload => payload.manifest ≠ some .null
  | _, _ => True

/-- A payload is read back from its JSON exactly when no null hides in it. -/
theorem read_write_iff (kind : PayloadKind) (payload : kind.Payload) :
    (read (write payload : Value) : Option kind.Payload) = some payload ↔
      kind.NoNull payload := by
  cases kind with
  | vpnConnect => exact VpnConnectPayload.read_write_iff payload
  | vpnDisconnect => exact read_write_iff_true (P := VpnDisconnectPayload) payload
  | coreStart => exact read_write_iff_true (P := CoreStartPayload) payload
  | coreStop => exact read_write_iff_true (P := CoreStopPayload) payload
  | profileActivate => exact read_write_iff_true (P := ProfileActivatePayload) payload
  | profilePersist => exact read_write_iff_true (P := ProfilePersistPayload) payload
  | daemonStartup => exact read_write_iff_true (P := DaemonStartupPayload) payload
  | daemonShutdown => exact read_write_iff_true (P := DaemonShutdownPayload) payload
  | outboundSelect => exact read_write_iff_true (P := OutboundSelectPayload) payload
  | outboundTestLatency => exact read_write_iff_true (P := OutboundTestLatencyPayload) payload
  | configProcess => exact read_write_iff_true (P := ConfigProcessPayload) payload
  | deeplinkResolve => exact DeeplinkResolvePayload.read_write_iff payload
  | authSession => exact AuthSessionPayload.read_write_iff payload
  | pluginLoad => exact PluginLoadPayload.read_write_iff payload

end PayloadKind

/-- The outcome that is read with payloads of another type. -/
def SlotOutcome.readPayload {P Q : Type} (f : P → Except String Q) :
    SlotOutcome P → Except String (SlotOutcome Q)
  | .unchanged => .ok .unchanged
  | .continue payload => (f payload).map .continue
  | .halt payload => (f payload).map .halt
  | .error message => .ok (.error message)
  | .unhandled => .ok .unhandled

/-- The derived JSON code of a payload type; `refusal` is the text of a value that is none. -/
abbrev SlotPayload.ofWire (P : Type) [Wire Value P] (refusal : Value → String) : SlotPayload P where
  toValue payload := .ok (write payload)
  outcomeFromValue value := do
    let outcome ← (SlotPayload.outcomeFromValue value : Except String (SlotOutcome Value))
    outcome.readPayload fun payload =>
      match read payload with
      | some payload => .ok payload
      | none => .error (refusal payload)

/-- A plugin that continues with the payload it was given. -/
def echoed (payload : Value) : Value :=
  .object [("kind", .string "continue"), ("payload", payload)]

theorem PayloadKind.echo_iff (kind : PayloadKind) (refusal : Value → String)
    (payload : kind.Payload) :
    (SlotPayload.ofWire kind.Payload refusal).outcomeFromValue (echoed (write payload)) =
      .ok (.continue payload) ↔ kind.NoNull payload := by
  rw [← kind.read_write_iff payload]
  change Except.map _ _ = _ ↔ _
  cases hread : (read (write payload : Value) : Option kind.Payload) <;>
    simp [Except.map, hread]

/-- The two copies of a result have the same fields. -/
def connectResultToHost : Domain.ConnectResult ≃ ConnectResult where
  toFun result := ⟨result.started, result.durationMs, result.error⟩
  invFun result := ⟨result.started, result.durationMs, result.error⟩
  left_inv _ := rfl
  right_inv _ := rfl

def disconnectResultToHost : Domain.DisconnectResult ≃ DisconnectResult where
  toFun result := ⟨result.stopped, result.durationMs, result.error⟩
  invFun result := ⟨result.stopped, result.durationMs, result.error⟩
  left_inv _ := rfl
  right_inv _ := rfl

def coreLifecycleResultToHost : Domain.CoreLifecycleResult ≃ CoreLifecycleResult where
  toFun result := ⟨result.ok, result.durationMs, result.error⟩
  invFun result := ⟨result.ok, result.durationMs, result.error⟩
  left_inv _ := rfl
  right_inv _ := rfl

def latencyResultToHost : Domain.LatencyResult ≃ LatencyResult where
  toFun result := ⟨result.rttMs, result.error⟩
  invFun result := ⟨result.rttMs, result.error⟩
  left_inv _ := rfl
  right_inv _ := rfl

/-- The payload types that the domain and the host contract both have. -/
inductive SharedKind where
  | vpnConnect
  | vpnDisconnect
  | coreStart
  | coreStop
  | profileActivate
  | profilePersist
  | daemonStartup
  | daemonShutdown
  | outboundSelect
  | outboundTestLatency

namespace SharedKind

/-- The kind that the host contract has for a shared one. -/
def payloadKind : SharedKind → PayloadKind
  | vpnConnect => .vpnConnect
  | vpnDisconnect => .vpnDisconnect
  | coreStart => .coreStart
  | coreStop => .coreStop
  | profileActivate => .profileActivate
  | profilePersist => .profilePersist
  | daemonStartup => .daemonStartup
  | daemonShutdown => .daemonShutdown
  | outboundSelect => .outboundSelect
  | outboundTestLatency => .outboundTestLatency

/-- The copy of the host contract. -/
abbrev HostPayload (kind : SharedKind) : Type :=
  kind.payloadKind.Payload

/-- The copy of the domain. -/
abbrev DomainPayload : SharedKind → Type
  | vpnConnect => Domain.VpnConnectPayload
  | vpnDisconnect => Domain.VpnDisconnectPayload
  | coreStart => Domain.CoreStartPayload
  | coreStop => Domain.CoreStopPayload
  | profileActivate => Domain.ProfileActivatePayload
  | profilePersist => Domain.ProfilePersistPayload
  | daemonStartup => Domain.DaemonStartupPayload
  | daemonShutdown => Domain.DaemonShutdownPayload
  | outboundSelect => Domain.OutboundSelectPayload
  | outboundTestLatency => Domain.OutboundTestLatencyPayload

instance : (kind : SharedKind) → WireRecord Value kind.DomainPayload
  | vpnConnect => inferInstanceAs (WireRecord Value Domain.VpnConnectPayload)
  | vpnDisconnect => inferInstanceAs (WireRecord Value Domain.VpnDisconnectPayload)
  | coreStart => inferInstanceAs (WireRecord Value Domain.CoreStartPayload)
  | coreStop => inferInstanceAs (WireRecord Value Domain.CoreStopPayload)
  | profileActivate => inferInstanceAs (WireRecord Value Domain.ProfileActivatePayload)
  | profilePersist => inferInstanceAs (WireRecord Value Domain.ProfilePersistPayload)
  | daemonStartup => inferInstanceAs (WireRecord Value Domain.DaemonStartupPayload)
  | daemonShutdown => inferInstanceAs (WireRecord Value Domain.DaemonShutdownPayload)
  | outboundSelect => inferInstanceAs (WireRecord Value Domain.OutboundSelectPayload)
  | outboundTestLatency => inferInstanceAs (WireRecord Value Domain.OutboundTestLatencyPayload)

/-- The payload of the other crate with the same fields. -/
def toHost : (kind : SharedKind) → kind.DomainPayload ≃ kind.HostPayload
  | vpnConnect =>
    { toFun := fun p : Domain.VpnConnectPayload =>
        (⟨p.coreType, p.configPath, p.hint, p.result.map connectResultToHost⟩ : VpnConnectPayload)
      invFun := fun p : VpnConnectPayload =>
        ⟨p.coreType, p.configPath, p.hint, p.result.map connectResultToHost.symm⟩
      left_inv := fun p => by simp
      right_inv := fun p => by simp; rfl }
  | vpnDisconnect =>
    { toFun := fun p : Domain.VpnDisconnectPayload =>
        (⟨p.coreType, p.reason, p.result.map disconnectResultToHost⟩ : VpnDisconnectPayload)
      invFun := fun p : VpnDisconnectPayload =>
        ⟨p.coreType, p.reason, p.result.map disconnectResultToHost.symm⟩
      left_inv := fun p => by simp
      right_inv := fun p => by simp; rfl }
  | coreStart =>
    { toFun := fun p : Domain.CoreStartPayload =>
        (⟨p.coreType, p.configPath, p.result.map coreLifecycleResultToHost⟩ : CoreStartPayload)
      invFun := fun p : CoreStartPayload =>
        ⟨p.coreType, p.configPath, p.result.map coreLifecycleResultToHost.symm⟩
      left_inv := fun p => by simp
      right_inv := fun p => by simp; rfl }
  | coreStop =>
    { toFun := fun p : Domain.CoreStopPayload =>
        (⟨p.coreType, p.reason, p.result.map coreLifecycleResultToHost⟩ : CoreStopPayload)
      invFun := fun p : CoreStopPayload =>
        ⟨p.coreType, p.reason, p.result.map coreLifecycleResultToHost.symm⟩
      left_inv := fun p => by simp
      right_inv := fun p => by simp; rfl }
  | profileActivate =>
    { toFun := fun p : Domain.ProfileActivatePayload =>
        (⟨p.profileId, p.reason⟩ : ProfileActivatePayload)
      invFun := fun p : ProfileActivatePayload =>
        ⟨p.profileId, p.reason⟩
      left_inv := fun _ => rfl
      right_inv := fun _ => rfl }
  | profilePersist =>
    { toFun := fun p : Domain.ProfilePersistPayload =>
        (⟨p.profileId, p.profile, p.source⟩ : ProfilePersistPayload)
      invFun := fun p : ProfilePersistPayload =>
        ⟨p.profileId, p.profile, p.source⟩
      left_inv := fun _ => rfl
      right_inv := fun _ => rfl }
  | daemonStartup =>
    { toFun := fun p : Domain.DaemonStartupPayload =>
        (⟨p.version, p.pluginCount, p.coreTypes⟩ : DaemonStartupPayload)
      invFun := fun p : DaemonStartupPayload =>
        ⟨p.version, p.pluginCount, p.coreTypes⟩
      left_inv := fun _ => rfl
      right_inv := fun _ => rfl }
  | daemonShutdown =>
    { toFun := fun p : Domain.DaemonShutdownPayload =>
        (⟨p.trigger, p.uptimeSeconds⟩ : DaemonShutdownPayload)
      invFun := fun p : DaemonShutdownPayload =>
        ⟨p.trigger, p.uptimeSeconds⟩
      left_inv := fun _ => rfl
      right_inv := fun _ => rfl }
  | outboundSelect =>
    { toFun := fun p : Domain.OutboundSelectPayload =>
        (⟨p.tag, p.previous⟩ : OutboundSelectPayload)
      invFun := fun p : OutboundSelectPayload =>
        ⟨p.tag, p.previous⟩
      left_inv := fun _ => rfl
      right_inv := fun _ => rfl }
  | outboundTestLatency =>
    { toFun := fun p : Domain.OutboundTestLatencyPayload =>
        (⟨p.tag, p.result.map latencyResultToHost⟩ : OutboundTestLatencyPayload)
      invFun := fun p : OutboundTestLatencyPayload =>
        ⟨p.tag, p.result.map latencyResultToHost.symm⟩
      left_inv := fun p => by simp
      right_inv := fun p => by simp; rfl }

/-- Both copies write the same JSON. -/
theorem write_toHost (kind : SharedKind) (payload : kind.DomainPayload) :
    (write (kind.toHost payload) : Value) = write payload := by
  cases kind with
  | vpnConnect =>
    obtain ⟨coreType, configPath, hint, result⟩ := payload
    cases result <;> rfl
  | vpnDisconnect =>
    obtain ⟨coreType, reason, result⟩ := payload
    cases result <;> rfl
  | coreStart =>
    obtain ⟨coreType, configPath, result⟩ := payload
    cases result <;> rfl
  | coreStop =>
    obtain ⟨coreType, reason, result⟩ := payload
    cases result <;> rfl
  | outboundTestLatency =>
    obtain ⟨tag, result⟩ := payload
    cases result <;> rfl
  | profileActivate => rfl
  | profilePersist => rfl
  | daemonStartup => rfl
  | daemonShutdown => rfl
  | outboundSelect => rfl

/-- The only payload with a free-form field is that of `vpn.connect`. -/
def NoNull : (kind : SharedKind) → kind.DomainPayload → Prop
  | vpnConnect, payload => payload.hint ≠ some .null
  | _, _ => True

lemma noNull_toHost (kind : SharedKind) (payload : kind.DomainPayload) :
    kind.payloadKind.NoNull (kind.toHost payload) ↔ kind.NoNull payload := by
  cases kind <;> rfl

theorem read_write_iff (kind : SharedKind) (payload : kind.DomainPayload) :
    (read (write payload : Value) : Option kind.DomainPayload) = some payload ↔
      kind.NoNull payload := by
  cases kind with
  | vpnConnect => exact Domain.VpnConnectPayload.read_write_iff payload
  | vpnDisconnect => exact read_write_iff_true (P := Domain.VpnDisconnectPayload) payload
  | coreStart => exact read_write_iff_true (P := Domain.CoreStartPayload) payload
  | coreStop => exact read_write_iff_true (P := Domain.CoreStopPayload) payload
  | profileActivate => exact read_write_iff_true (P := Domain.ProfileActivatePayload) payload
  | profilePersist => exact read_write_iff_true (P := Domain.ProfilePersistPayload) payload
  | daemonStartup => exact read_write_iff_true (P := Domain.DaemonStartupPayload) payload
  | daemonShutdown => exact read_write_iff_true (P := Domain.DaemonShutdownPayload) payload
  | outboundSelect => exact read_write_iff_true (P := Domain.OutboundSelectPayload) payload
  | outboundTestLatency =>
    exact read_write_iff_true (P := Domain.OutboundTestLatencyPayload) payload

/-- The host contract reads what the domain wrote. -/
theorem read_host_iff (kind : SharedKind) (payload : kind.DomainPayload) :
    (read (write payload : Value) : Option kind.HostPayload) = some (kind.toHost payload) ↔
      kind.NoNull payload := by
  rw [← kind.write_toHost, ← kind.noNull_toHost]
  exact kind.payloadKind.read_write_iff (kind.toHost payload)

/-- The domain reads what the host contract wrote. -/
theorem read_domain_iff (kind : SharedKind) (payload : kind.HostPayload) :
    (read (write payload : Value) : Option kind.DomainPayload) =
      some (kind.toHost.symm payload) ↔ kind.payloadKind.NoNull payload := by
  have hsame : (write payload : Value) = write (kind.toHost.symm payload) := by
    rw [← kind.write_toHost, Equiv.apply_symm_apply]
  rw [hsame, kind.read_write_iff, ← kind.noNull_toHost, Equiv.apply_symm_apply]

end SharedKind

/-- Every payload survives the wire, comes back from a plugin that echoes it, and is read by
the other crate as the same payload, exactly when no optional free-form field of it holds
an explicit null. -/
theorem payloads_survive_iff (kind : PayloadKind) (payload : kind.Payload)
    (refusal : Value → String) (shared : SharedKind) (ours : shared.DomainPayload)
    (theirs : shared.HostPayload) :
    ((read (write payload : Value) : Option kind.Payload) = some payload ↔
      kind.NoNull payload) ∧
    ((SlotPayload.ofWire kind.Payload refusal).outcomeFromValue (echoed (write payload)) =
      .ok (.continue payload) ↔ kind.NoNull payload) ∧
    ((read (write ours : Value) : Option shared.DomainPayload) = some ours ↔
      shared.NoNull ours) ∧
    ((read (write ours : Value) : Option shared.HostPayload) = some (shared.toHost ours) ↔
      shared.NoNull ours) ∧
    ((read (write theirs : Value) : Option shared.DomainPayload) =
      some (shared.toHost.symm theirs) ↔ shared.payloadKind.NoNull theirs) :=
  ⟨kind.read_write_iff payload, kind.echo_iff refusal payload, shared.read_write_iff ours,
    shared.read_host_iff ours, shared.read_domain_iff theirs⟩

/-- A hint that is an explicit null is lost. -/
theorem nullHint_lost :
    (read (write (⟨"sing-box", none, some .null, none⟩ : VpnConnectPayload) : Value) :
      Option VpnConnectPayload) ≠ some ⟨"sing-box", none, some .null, none⟩ := by
  rw [ne_eq, VpnConnectPayload.read_write_iff]
  simp

end Pingling.HostContract
