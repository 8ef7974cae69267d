import Pingling.ProxyDto.Blocks
import Pingling.ProxyDto.RoundTrip

/-!
# One name, one endpoint, one set of secrets

The three projections of an outbound nest its fields differently. Here are the places of
the name, of the server and of the secrets in each, and what stands there.
-/

namespace Pingling.ProxyDto
open Lib Std Wire

section

variable {o : Object} {name : String} {path : Path}

@[simp] lemma at?_toValue_key :
    o.toValue.at? (.key name :: path) = (o.get? name).bind (·.at? path) :=
  rfl

@[simp] lemma at?_array_index {items : List Value} {i : ℕ} :
    (Value.array items).at? (.index i :: path) = items[i]?.bind (·.at? path) :=
  rfl

@[simp] lemma at?_nil (v : Value) : v.at? [] = some v :=
  rfl

end

namespace ProxyOutbound

/-- The server that a variant talks to. -/
def endpoint : ProxyOutbound → Option (String × UInt16)
  | direct _ | reject _ => none
  | ss s => some (s.commonOpts.server, s.commonOpts.port)
  | socks5 s => some (s.commonOpts.server, s.commonOpts.port)
  | trojan t => some (t.commonOpts.server, t.commonOpts.port)
  | vmess v => some (v.commonOpts.server, v.commonOpts.port)
  | vless v => some (v.commonOpts.server, v.commonOpts.port)
  | wireguard w => some (w.commonOpts.server, w.commonOpts.port)
  | tuic t => some (t.commonOpts.server, t.commonOpts.port)
  | hysteria2 h => some (h.server, h.port)

/-- Where xray has the server of the variants that it supports. -/
def xrayServer : ProxyOutbound → Option Path
  | ss _ | trojan _ => some [.key "settings", .key "servers", .index 0]
  | vmess _ | vless _ => some [.key "settings", .key "vnext", .index 0]
  | _ => none

/-- The secrets of the variants that xray supports: the place in the sing-box projection,
the place below the server in the xray projection, and the value. -/
def secrets : ProxyOutbound → List (Path × Path × Value)
  | ss s => [
    ([.key "method"], [.key "method"], .string s.cipher),
    ([.key "password"], [.key "password"], .string s.password)]
  | trojan t => [([.key "password"], [.key "password"], .string t.password)]
  | vmess v => [
    ([.key "uuid"], [.key "users", .index 0, .key "id"], .string v.uuid),
    ([.key "alter_id"], [.key "users", .index 0, .key "alterId"], .ofUInt16 v.alterId),
    ([.key "security"], [.key "users", .index 0, .key "security"],
      .string (v.cipher.getD "auto"))]
  | vless v =>
    ([.key "uuid"], [.key "users", .index 0, .key "id"], .string v.uuid) ::
      (v.flow.map fun flow =>
        ([.key "flow"], [.key "users", .index 0, .key "flow"], .string flow)).toList
  | _ => []

end ProxyOutbound

/-- The projections of an outbound agree on who it is, whom it talks to and with which
secrets. -/
structure ProjectionsAgree (o : ProxyOutbound) : Prop where
  singboxTag : o.toSingboxJson.at? [.key "tag"] = some (.string o.name)
  xrayTag : o.toXrayJson.at? [.key "tag"] = some (.string o.name)
  clashName : (WireFormat.entries o.toClashYaml).bind (·.lookup "name") = some (.string o.name)
  singboxEndpoint : ∀ server port, o.endpoint = some (server, port) →
    o.toSingboxJson.at? [.key "server"] = some (.string server) ∧
      o.toSingboxJson.at? [.key "server_port"] = some (.ofUInt16 port)
  xrayEndpoint : ∀ server port place, o.endpoint = some (server, port) →
    o.xrayServer = some place →
      o.toXrayJson.at? (place ++ [.key "address"]) = some (.string server) ∧
        o.toXrayJson.at? (place ++ [.key "port"]) = some (.ofUInt16 port)
  secrets : ∀ place, o.xrayServer = some place → ∀ secret ∈ o.secrets,
    o.toSingboxJson.at? secret.1 = some secret.2.2 ∧
      o.toXrayJson.at? (place ++ secret.2.1) = some secret.2.2

section

variable (o : ProxyOutbound)

lemma singbox_tag : o.toSingboxJson.at? [.key "tag"] = some (.string o.name) := by
  unfold ProxyOutbound.toSingboxJson ProxyOutbound.singbox
  cases o <;> simp [json, shadowsocksToSingbox, trojanToSingbox, vmessToSingbox, vlessToSingbox,
    wireguardToSingbox, tuicToSingbox, hysteria2ToSingbox, get?_attachTransport_of_ne,
    ProxyOutbound.name]

lemma xray_tag : o.toXrayJson.at? [.key "tag"] = some (.string o.name) := by
  unfold ProxyOutbound.toXrayJson ProxyOutbound.xray
  cases o <;> simp [json, shadowsocksToXray, trojanToXray, vmessToXray, vlessToXray,
    unsupportedXray, ProxyOutbound.name]

lemma clash_name :
    (WireFormat.entries o.toClashYaml).bind (·.lookup "name") = some (.string o.name) := by
  unfold ProxyOutbound.toClashYaml
  rw [lookup_entries_write]
  cases o <;> simp [WireRecord.fields, ProxyOutbound.fields, ProxyOutbound.name] <;> rfl

lemma singbox_endpoint {server : String} {port : UInt16}
    (h : o.endpoint = some (server, port)) :
    o.toSingboxJson.at? [.key "server"] = some (.string server) ∧
      o.toSingboxJson.at? [.key "server_port"] = some (.ofUInt16 port) := by
  unfold ProxyOutbound.toSingboxJson ProxyOutbound.singbox
  cases o <;> simp [ProxyOutbound.endpoint] at h <;> obtain ⟨rfl, rfl⟩ := h <;>
    simp [json, shadowsocksToSingbox, trojanToSingbox, vmessToSingbox, vlessToSingbox,
      wireguardToSingbox, tuicToSingbox, hysteria2ToSingbox, get?_attachTransport_of_ne]

lemma xray_endpoint {server : String} {port : UInt16} {place : Path}
    (h : o.endpoint = some (server, port)) (hplace : o.xrayServer = some place) :
    o.toXrayJson.at? (place ++ [.key "address"]) = some (.string server) ∧
      o.toXrayJson.at? (place ++ [.key "port"]) = some (.ofUInt16 port) := by
  unfold ProxyOutbound.toXrayJson ProxyOutbound.xray
  cases o <;> simp [ProxyOutbound.xrayServer] at hplace <;>
    simp [ProxyOutbound.endpoint] at h <;> obtain ⟨rfl, rfl⟩ := h <;> subst hplace <;>
    simp [json, shadowsocksToXray, trojanToXray, vmessToXray, vlessToXray]

lemma secrets_agree {place : Path} (hplace : o.xrayServer = some place) :
    ∀ secret ∈ o.secrets, o.toSingboxJson.at? secret.1 = some secret.2.2 ∧
      o.toXrayJson.at? (place ++ secret.2.1) = some secret.2.2 := by
  cases o with
  | ss s =>
    obtain rfl := Option.some.inj hplace
    simp [ProxyOutbound.toSingboxJson, ProxyOutbound.toXrayJson, ProxyOutbound.singbox,
      ProxyOutbound.xray, ProxyOutbound.secrets, json, shadowsocksToSingbox, shadowsocksToXray]
  | trojan t =>
    obtain rfl := Option.some.inj hplace
    simp [ProxyOutbound.toSingboxJson, ProxyOutbound.toXrayJson, ProxyOutbound.singbox,
      ProxyOutbound.xray, ProxyOutbound.secrets, json, trojanToSingbox, trojanToXray,
      get?_attachTransport_of_ne]
  | vmess v =>
    obtain rfl := Option.some.inj hplace
    simp [ProxyOutbound.toSingboxJson, ProxyOutbound.toXrayJson, ProxyOutbound.singbox,
      ProxyOutbound.xray, ProxyOutbound.secrets, json, vmessToSingbox, vmessToXray,
      get?_attachTransport_of_ne]
  | vless v =>
    obtain rfl := Option.some.inj hplace
    -- a flow that is absent is an empty text for xray alone
    cases hflow : v.flow <;>
      simp [ProxyOutbound.toSingboxJson, ProxyOutbound.toXrayJson, ProxyOutbound.singbox,
        ProxyOutbound.xray, ProxyOutbound.secrets, json, vlessToSingbox, vlessToXray,
        get?_attachTransport_of_ne, hflow]
  | direct d => cases hplace
  | reject r => cases hplace
  | socks5 s => cases hplace
  | wireguard w => cases hplace
  | tuic t => cases hplace
  | hysteria2 h => cases hplace

end

/-- For every outbound the projections agree. -/
theorem projectionsAgree (o : ProxyOutbound) : ProjectionsAgree o where
  singboxTag := singbox_tag o
  xrayTag := xray_tag o
  clashName := clash_name o
  singboxEndpoint _ _ := singbox_endpoint o
  xrayEndpoint _ _ _ := xray_endpoint o
  secrets _ := secrets_agree o

end Pingling.ProxyDto
