import Pingling.Lib.WireRecord
import Pingling.ProxyDto.Outbound

/-!
# The mihomo dialect

An outbound as a YAML mapping, with the attributes that serde is given: the protocol is a
tag beside the fields, the common options stand between them, keys are in kebab case, some
go by an old name too, and an option that is not set is left out.
-/

namespace Pingling.ProxyDto
open Lib Std Wire

instance : WireRecord YamlValue CommonOptions where
  fields c := [
    ("name", some (write c.name)),
    ("server", some (write c.server)),
    ("port", some (write c.port)),
    ("connect-via", c.connectVia.map write)]
  keys_nodup _ := by simp
  build get := do
    let name ← required (get "name")
    let server ← required (get "server")
    let port ← required (get "port")
    let connectVia ← nullable (← oneOf (get "connect-via") (get "dialer-proxy"))
    some ⟨name, server, port, connectVia⟩

instance : LosslessRecord YamlValue CommonOptions where
  build_fields _ := by simp [WireRecord.fields, WireRecord.build]

instance : WireRecord YamlValue WsOpt where
  fields ws := [
    ("path", ws.path.map write),
    ("headers", ws.headers.map write),
    ("max-early-data", ws.maxEarlyData.map write),
    ("early-data-header-name", ws.earlyDataHeaderName.map write)]
  keys_nodup _ := by simp
  build get := do
    let path ← nullable (get "path")
    let headers ← nullable (get "headers")
    let maxEarlyData ← nullable (get "max-early-data")
    let earlyDataHeaderName ← nullable (get "early-data-header-name")
    some ⟨path, headers, maxEarlyData, earlyDataHeaderName⟩

instance : LosslessRecord YamlValue WsOpt where
  build_fields _ := by simp [WireRecord.fields, WireRecord.build]

instance : WireRecord YamlValue H2Opt where
  fields h := [
    ("host", h.host.map write),
    ("path", h.path.map write)]
  keys_nodup _ := by simp
  build get := do
    let host ← nullable (get "host")
    let path ← nullable (get "path")
    some ⟨host, path⟩

instance : LosslessRecord YamlValue H2Opt where
  build_fields _ := by simp [WireRecord.fields, WireRecord.build]

instance : WireRecord YamlValue GrpcOpt where
  fields g := [
    ("grpc-service-name", g.grpcServiceName.map write)]
  keys_nodup _ := by simp
  build get := do
    let grpcServiceName ← nullable (get "grpc-service-name")
    some ⟨grpcServiceName⟩

instance : LosslessRecord YamlValue GrpcOpt where
  build_fields _ := by simp [WireRecord.fields, WireRecord.build]

instance : WireRecord YamlValue RealityOpt where
  fields reality := [
    ("public-key", some (write reality.publicKey)),
    ("short-id", some (write reality.shortId))]
  keys_nodup _ := by simp
  build get := do
    let publicKey ← required (get "public-key")
    let shortId ← required (get "short-id")
    some ⟨publicKey, shortId⟩

instance : LosslessRecord YamlValue RealityOpt where
  build_fields _ := by simp [WireRecord.fields, WireRecord.build]

instance : WireEnum Hysteria2Obfs where
  name obfs :=
    match obfs with
    | .salamander => "salamander"
  ofName? name := if name = "salamander" then some .salamander else none
  ofName?_name obfs := by cases obfs; rfl

instance : WireRecord YamlValue OutboundDirect where
  fields d := [
    ("name", some (write d.name))]
  keys_nodup _ := by simp
  build get := do
    let name ← required (get "name")
    some ⟨name⟩

instance : LosslessRecord YamlValue OutboundDirect where
  build_fields _ := by simp [WireRecord.fields, WireRecord.build]

instance : WireRecord YamlValue OutboundReject where
  fields r := [
    ("name", some (write r.name))]
  keys_nodup _ := by simp
  build get := do
    let name ← required (get "name")
    some ⟨name⟩

instance : LosslessRecord YamlValue OutboundReject where
  build_fields _ := by simp [WireRecord.fields, WireRecord.build]

instance : WireRecord YamlValue OutboundShadowsocks where
  fields s := WireRecord.fields s.commonOpts ++ [
    ("cipher", some (write s.cipher)),
    ("password", some (write s.password)),
    ("udp", some (write s.udp)),
    ("plugin", s.plugin.map write),
    ("plugin-opts", s.pluginOpts.map write)]
  keys_nodup _ := by simp [WireRecord.fields]
  build get := do
    let commonOpts ← WireRecord.build get
    let cipher ← required (get "cipher")
    let password ← required (get "password")
    let udp ← defaulted true (get "udp")
    let plugin ← nullable (get "plugin")
    let pluginOpts ← nullable (get "plugin-opts")
    some ⟨commonOpts, cipher, password, udp, plugin, pluginOpts⟩

instance : LosslessRecord YamlValue OutboundShadowsocks where
  build_fields _ := by simp [WireRecord.fields, WireRecord.build]

instance : WireRecord YamlValue OutboundSocks5 where
  fields s := WireRecord.fields s.commonOpts ++ [
    ("username", s.username.map write),
    ("password", s.password.map write),
    ("tls", some (write s.tls)),
    ("sni", s.sni.map write),
    ("skip-cert-verify", some (write s.skipCertVerify)),
    ("udp", some (write s.udp))]
  keys_nodup _ := by simp [WireRecord.fields]
  build get := do
    let commonOpts ← WireRecord.build get
    let username ← nullable (get "username")
    let password ← nullable (get "password")
    let tls ← defaulted false (get "tls")
    let sni ← nullable (get "sni")
    let skipCertVerify ← defaulted false (get "skip-cert-verify")
    let udp ← defaulted true (get "udp")
    some ⟨commonOpts, username, password, tls, sni, skipCertVerify, udp⟩

instance : LosslessRecord YamlValue OutboundSocks5 where
  build_fields _ := by simp [WireRecord.fields, WireRecord.build]

instance : WireRecord YamlValue OutboundTrojan where
  fields t := WireRecord.fields t.commonOpts ++ [
    ("password", some (write t.password)),
    ("alpn", t.alpn.map write),
    ("sni", t.sni.map write),
    ("skip-cert-verify", t.skipCertVerify.map write),
    ("udp", t.udp.map write),
    ("network", t.network.map write),
    ("grpc-opts", t.grpcOpts.map write),
    ("ws-opts", t.wsOpts.map write)]
  keys_nodup _ := by simp [WireRecord.fields]
  build get := do
    let commonOpts ← WireRecord.build get
    let password ← required (get "password")
    let alpn ← nullable (get "alpn")
    let sni ← nullable (get "sni")
    let skipCertVerify ← nullable (get "skip-cert-verify")
    let udp ← nullable (get "udp")
    let network ← nullable (get "network")
    let grpcOpts ← nullable (get "grpc-opts")
    let wsOpts ← nullable (get "ws-opts")
    some ⟨commonOpts, password, alpn, sni, skipCertVerify, udp, network, grpcOpts, wsOpts⟩

instance : LosslessRecord YamlValue OutboundTrojan where
  build_fields _ := by simp [WireRecord.fields, WireRecord.build]

instance : WireRecord YamlValue OutboundVmess where
  fields v := WireRecord.fields v.commonOpts ++ [
    ("uuid", some (write v.uuid)),
    ("alter-id", some (write v.alterId)),
    ("cipher", v.cipher.map write),
    ("udp", v.udp.map write),
    ("tls", v.tls.map write),
    ("skip-cert-verify", v.skipCertVerify.map write),
    ("server-name", v.serverName.map write),
    ("network", v.network.map write),
    ("ws-opts", v.wsOpts.map write),
    ("h2-opts", v.h2Opts.map write),
    ("grpc-opts", v.grpcOpts.map write)]
  keys_nodup _ := by simp [WireRecord.fields]
  build get := do
    let commonOpts ← WireRecord.build get
    let uuid ← required (get "uuid")
    let alterId ← defaulted (0 : UInt16) (← oneOf (get "alter-id") (get "alterId"))
    let cipher ← nullable (get "cipher")
    let udp ← nullable (get "udp")
    let tls ← nullable (get "tls")
    let skipCertVerify ← nullable (get "skip-cert-verify")
    let serverName ← nullable (← oneOf (get "server-name") (get "servername"))
    let network ← nullable (get "network")
    let wsOpts ← nullable (get "ws-opts")
    let h2Opts ← nullable (get "h2-opts")
    let grpcOpts ← nullable (get "grpc-opts")
    some ⟨commonOpts, uuid, alterId, cipher, udp, tls, skipCertVerify, serverName, network,
      wsOpts, h2Opts, grpcOpts⟩

instance : LosslessRecord YamlValue OutboundVmess where
  build_fields _ := by
    -- rewriting by proofs, so that the kernel does not compute with the range of an integer
    simp -implicitDefEqProofs [WireRecord.fields, WireRecord.build]

instance : WireRecord YamlValue OutboundVless where
  fields v := WireRecord.fields v.commonOpts ++ [
    ("uuid", some (write v.uuid)),
    ("udp", v.udp.map write),
    ("tls", v.tls.map write),
    ("skip-cert-verify", v.skipCertVerify.map write),
    ("server-name", v.serverName.map write),
    ("network", v.network.map write),
    ("ws-opts", v.wsOpts.map write),
    ("h2-opts", v.h2Opts.map write),
    ("grpc-opts", v.grpcOpts.map write),
    ("reality-opts", v.realityOpts.map write),
    ("flow", v.flow.map write),
    ("client-fingerprint", v.clientFingerprint.map write)]
  keys_nodup _ := by simp [WireRecord.fields]
  build get := do
    let commonOpts ← WireRecord.build get
    let uuid ← required (get "uuid")
    let udp ← nullable (get "udp")
    let tls ← nullable (get "tls")
    let skipCertVerify ← nullable (get "skip-cert-verify")
    let serverName ← nullable (← oneOf (get "server-name") (get "servername"))
    let network ← nullable (get "network")
    let wsOpts ← nullable (get "ws-opts")
    let h2Opts ← nullable (get "h2-opts")
    let grpcOpts ← nullable (get "grpc-opts")
    let realityOpts ← nullable (get "reality-opts")
    let flow ← nullable (get "flow")
    let clientFingerprint ← nullable (get "client-fingerprint")
    some ⟨commonOpts, uuid, udp, tls, skipCertVerify, serverName, network, wsOpts, h2Opts,
      grpcOpts, realityOpts, flow, clientFingerprint⟩

instance : LosslessRecord YamlValue OutboundVless where
  build_fields _ := by simp [WireRecord.fields, WireRecord.build]

instance : WireRecord YamlValue OutboundWireguard where
  fields w := WireRecord.fields w.commonOpts ++ [
    ("private-key", some (write w.privateKey)),
    ("public-key", some (write w.publicKey)),
    ("pre-shared-key", w.preSharedKey.map write),
    ("mtu", w.mtu.map write),
    ("udp", w.udp.map write),
    ("ip", some (write w.ip)),
    ("ipv6", w.ipv6.map write),
    ("remote-dns-resolve", w.remoteDnsResolve.map write),
    ("dns", w.dns.map write),
    ("allowed-ips", w.allowedIps.map write),
    ("reserved-bits", w.reservedBits.map write)]
  keys_nodup _ := by simp [WireRecord.fields]
  build get := do
    let commonOpts ← WireRecord.build get
    let privateKey ← required (get "private-key")
    let publicKey ← required (get "public-key")
    let preSharedKey ← nullable (← oneOf (get "pre-shared-key") (get "preshared-key"))
    let mtu ← nullable (get "mtu")
    let udp ← nullable (get "udp")
    let ip ← required (get "ip")
    let ipv6 ← nullable (get "ipv6")
    let remoteDnsResolve ← nullable (get "remote-dns-resolve")
    let dns ← nullable (get "dns")
    let allowedIps ← nullable (get "allowed-ips")
    let reservedBits ← nullable (get "reserved-bits")
    some ⟨commonOpts, privateKey, publicKey, preSharedKey, mtu, udp, ip, ipv6, remoteDnsResolve,
      dns, allowedIps, reservedBits⟩

instance : LosslessRecord YamlValue OutboundWireguard where
  build_fields _ := by simp [WireRecord.fields, WireRecord.build]

instance : WireRecord YamlValue OutboundTuic where
  fields t := WireRecord.fields t.commonOpts ++ [
    ("uuid", some (write t.uuid)),
    ("password", some (write t.password)),
    ("ip", t.ip.map write),
    ("heartbeat-interval", t.heartbeatInterval.map write),
    ("alpn", t.alpn.map write),
    ("disable-sni", t.disableSni.map write),
    ("reduce-rtt", t.reduceRtt.map write),
    ("request-timeout", t.requestTimeout.map write),
    ("udp-relay-mode", t.udpRelayMode.map write),
    ("congestion-controller", t.congestionController.map write),
    ("max-udp-relay-packet-size", t.maxUdpRelayPacketSize.map write),
    ("fast-open", t.fastOpen.map write),
    ("skip-cert-verify", t.skipCertVerify.map write),
    ("max-open-stream", t.maxOpenStream.map write),
    ("sni", t.sni.map write)]
  keys_nodup _ := by simp [WireRecord.fields]
  build get := do
    let commonOpts ← WireRecord.build get
    let uuid ← required (get "uuid")
    let password ← required (get "password")
    let ip ← nullable (get "ip")
    let heartbeatInterval ← nullable (get "heartbeat-interval")
    let alpn ← nullable (get "alpn")
    let disableSni ← nullable (get "disable-sni")
    let reduceRtt ← nullable (get "reduce-rtt")
    let requestTimeout ← nullable (get "request-timeout")
    let udpRelayMode ← nullable (get "udp-relay-mode")
    let congestionController ← nullable (get "congestion-controller")
    let maxUdpRelayPacketSize ← nullable (get "max-udp-relay-packet-size")
    let fastOpen ← nullable (get "fast-open")
    let skipCertVerify ← nullable (get "skip-cert-verify")
    let maxOpenStream ← nullable (get "max-open-stream")
    let sni ← nullable (get "sni")
    some ⟨commonOpts, uuid, password, ip, heartbeatInterval, alpn, disableSni, reduceRtt,
      requestTimeout, udpRelayMode, congestionController, maxUdpRelayPacketSize, fastOpen,
      skipCertVerify, maxOpenStream, sni⟩

instance : LosslessRecord YamlValue OutboundTuic where
  build_fields _ := by simp [WireRecord.fields, WireRecord.build]

instance : WireRecord YamlValue OutboundHysteria2 where
  fields h := [
    ("name", some (write h.name)),
    ("server", some (write h.server)),
    ("port", some (write h.port)),
    ("ports", h.ports.map write),
    ("password", some (write h.password)),
    ("obfs", h.obfs.map write),
    ("obfs-password", h.obfsPassword.map write),
    ("alpn", h.alpn.map write),
    ("up", h.up.map write),
    ("down", h.down.map write),
    ("sni", h.sni.map write),
    ("skip-cert-verify", some (write h.skipCertVerify)),
    ("ca", h.ca.map write),
    ("ca-str", h.caStr.map write),
    ("fingerprint", h.fingerprint.map write)]
  keys_nodup _ := by simp
  build get := do
    let name ← required (get "name")
    let server ← required (get "server")
    let port ← required (get "port")
    let ports ← nullable (get "ports")
    let password ← required (get "password")
    let obfs ← nullable (get "obfs")
    let obfsPassword ← nullable (get "obfs-password")
    let alpn ← nullable (get "alpn")
    let up ← nullable (get "up")
    let down ← nullable (get "down")
    let sni ← nullable (get "sni")
    let skipCertVerify ← defaulted false (get "skip-cert-verify")
    let ca ← nullable (get "ca")
    let caStr ← nullable (get "ca-str")
    let fingerprint ← nullable (get "fingerprint")
    some ⟨name, server, port, ports, password, obfs, obfsPassword, alpn, up, down, sni,
      skipCertVerify, ca, caStr, fingerprint⟩

instance : LosslessRecord YamlValue OutboundHysteria2 where
  build_fields _ := by simp [WireRecord.fields, WireRecord.build]

/-- The fields of the protocol of an outbound. -/
def ProxyOutbound.fields : ProxyOutbound → List (String × Option YamlValue)
  | direct d => WireRecord.fields d
  | reject r => WireRecord.fields r
  | ss s => WireRecord.fields s
  | socks5 s => WireRecord.fields s
  | trojan t => WireRecord.fields t
  | vmess v => WireRecord.fields v
  | vless v => WireRecord.fields v
  | wireguard w => WireRecord.fields w
  | tuic t => WireRecord.fields t
  | hysteria2 h => WireRecord.fields h

/-- The outbound of the tagged protocol. -/
def ProxyOutbound.ofFields (tag : String) (get : String → Option YamlValue) :
    Option ProxyOutbound :=
  match tag with
  | "direct" => (WireRecord.build get).map direct
  | "reject" => (WireRecord.build get).map reject
  | "ss" => (WireRecord.build get).map ss
  | "socks5" => (WireRecord.build get).map socks5
  | "trojan" => (WireRecord.build get).map trojan
  | "vmess" => (WireRecord.build get).map vmess
  | "vless" => (WireRecord.build get).map vless
  | "wireguard" => (WireRecord.build get).map wireguard
  | "tuic" => (WireRecord.build get).map tuic
  | "hysteria2" => (WireRecord.build get).map hysteria2
  | _ => none

instance : WireRecord YamlValue ProxyOutbound where
  fields o := ("type", some (write o.typeTag)) :: o.fields
  keys_nodup o := by cases o <;> simp [ProxyOutbound.fields, WireRecord.fields]
  build get := do
    let tag ← required (get "type")
    ProxyOutbound.ofFields tag (besideTag "type" get)

lemma ProxyOutbound.ofFields_fields (o : ProxyOutbound) :
    ofFields o.typeTag (fieldValue o.fields) = some o := by
  cases o <;> simp [ofFields, typeTag, fields, LosslessRecord.build_fields]

instance : LosslessRecord YamlValue ProxyOutbound where
  build_fields o := by
    have htag : fieldValue (WireRecord.fields o) "type" =
        some (write o.typeTag : YamlValue) := by
      simp [WireRecord.fields]
    have hbeside : besideTag "type" (fieldValue (WireRecord.fields o)) =
        fieldValue o.fields := besideTag_fieldValue (WireRecord.keys_nodup o)
    change (do
      let tag ← required (fieldValue (WireRecord.fields o) "type")
      ProxyOutbound.ofFields tag (besideTag "type" (fieldValue (WireRecord.fields o)))) = some o
    rw [htag, hbeside, required_write]
    exact o.ofFields_fields

end Pingling.ProxyDto
