import Pingling.Lib.JsonObject
import Pingling.ProxyDto.Outbound

/-!
# Projections of an outbound

An outbound in the native form of sing-box and of xray: protocol, server endpoint, secret,
TLS and transport.
-/

namespace Pingling.ProxyDto
open Lib Std

/-- The `tls` block of sing-box. Certificate checks are mentioned only where they are off. -/
def tlsBlock (enabled : Bool) (serverName : Option String) (insecure : Bool)
    (alpn : Option (List String)) : Object :=
  json [("enabled", .bool enabled)]
    |>.insertSome "server_name" (serverName.map .string)
    |>.insertSome "insecure" (if insecure then some (.bool true) else none)
    |>.insertSome "alpn" (alpn.map .ofStrings)

/-- The `transport` block for WebSocket. -/
def wsTransport (ws : WsOpt) : Object :=
  json [("type", .string "ws")]
    |>.insertSome "path" (ws.path.map .string)
    |>.insertSome "headers" (ws.headers.map .ofStringMap)
    |>.insertSome "max_early_data" (ws.maxEarlyData.map .ofInt32)
    |>.insertSome "early_data_header_name" (ws.earlyDataHeaderName.map .string)

/-- The `transport` block for gRPC. -/
def grpcTransport (g : GrpcOpt) : Object :=
  json [("type", .string "grpc"), ("service_name", .string (g.grpcServiceName.getD ""))]

/-- The `transport` block for HTTP/2. -/
def httpTransport (h : H2Opt) : Object :=
  json [("type", .string "http")]
    |>.insertSome "host" (h.host.map .ofStrings)
    |>.insertSome "path" (h.path.map .string)

/-- A transport is attached only with its options. -/
def attachTransport (out : Object) (network : Option String) (ws : Option WsOpt)
    (h2 : Option H2Opt) (grpc : Option GrpcOpt) : Object :=
  match network with
  | some "ws" | some "websocket" =>
    out.insertSome "transport" (ws.map (fun ws => (wsTransport ws).toValue))
  | some "grpc" => out.insertSome "transport" (grpc.map (fun g => (grpcTransport g).toValue))
  | some "h2" | some "http" | some "http2" =>
    out.insertSome "transport" (h2.map (fun h => (httpTransport h).toValue))
  | _ => out

def shadowsocksToSingbox (s : OutboundShadowsocks) : Object :=
  json [("type", .string "shadowsocks"),
    ("tag", .string s.commonOpts.name),
    ("server", .string s.commonOpts.server),
    ("server_port", .ofUInt16 s.commonOpts.port),
    ("method", .string s.cipher),
    ("password", .string s.password),
    ("udp_over_tcp", .bool (!s.udp))]

def trojanTls (t : OutboundTrojan) : Object :=
  tlsBlock true t.sni (t.skipCertVerify.getD false) t.alpn

def trojanToSingbox (t : OutboundTrojan) : Object :=
  let out := json [("type", .string "trojan"),
    ("tag", .string t.commonOpts.name),
    ("server", .string t.commonOpts.server),
    ("server_port", .ofUInt16 t.commonOpts.port),
    ("password", .string t.password),
    ("tls", (trojanTls t).toValue)]
  attachTransport out t.network t.wsOpts none t.grpcOpts

def vmessTls (v : OutboundVmess) : Object :=
  tlsBlock true v.serverName (v.skipCertVerify.getD false) none

def vmessToSingbox (v : OutboundVmess) : Object :=
  let out := json [("type", .string "vmess"),
    ("tag", .string v.commonOpts.name),
    ("server", .string v.commonOpts.server),
    ("server_port", .ofUInt16 v.commonOpts.port),
    ("uuid", .string v.uuid),
    ("alter_id", .ofUInt16 v.alterId),
    ("security", .string (v.cipher.getD "auto"))]
  let out := out.insertSome "tls" (if v.tls.getD false then some (vmessTls v).toValue else none)
  attachTransport out v.network v.wsOpts v.h2Opts v.grpcOpts

def realityBlock (reality : RealityOpt) : Object :=
  json [("enabled", .bool true), ("public_key", .string reality.publicKey),
    ("short_id", .string reality.shortId)]

def utlsBlock (fp : String) : Object :=
  json [("enabled", .bool true), ("fingerprint", .string fp)]

/-- The TLS block with the REALITY options and the fingerprint. -/
def vlessTls (v : OutboundVless) : Object :=
  tlsBlock true v.serverName (v.skipCertVerify.getD false) none
    |>.insertSome "reality" (v.realityOpts.map (fun reality => (realityBlock reality).toValue))
    |>.insertSome "utls" (v.clientFingerprint.map (fun fp => (utlsBlock fp).toValue))

def vlessToSingbox (v : OutboundVless) : Object :=
  let out := json [("type", .string "vless"),
    ("tag", .string v.commonOpts.name),
    ("server", .string v.commonOpts.server),
    ("server_port", .ofUInt16 v.commonOpts.port),
    ("uuid", .string v.uuid)]
  let out := out.insertSome "flow" (v.flow.map .string)
  let out := out.insertSome "tls" (if v.tls.getD false then some (vlessTls v).toValue else none)
  attachTransport out v.network v.wsOpts v.h2Opts v.grpcOpts

/-- The addresses get the lengths of single hosts. -/
def wireguardToSingbox (w : OutboundWireguard) : Object :=
  let addresses := (w.ip ++ "/32") :: (w.ipv6.map (· ++ "/128")).toList
  json [("type", .string "wireguard"),
    ("tag", .string w.commonOpts.name),
    ("server", .string w.commonOpts.server),
    ("server_port", .ofUInt16 w.commonOpts.port),
    ("local_address", .ofStrings addresses),
    ("private_key", .string w.privateKey),
    ("peer_public_key", .string w.publicKey)]
    |>.insertSome "pre_shared_key" (w.preSharedKey.map .string)
    |>.insertSome "mtu" (w.mtu.map .ofUInt16)
    |>.insertSome "reserved" (w.reservedBits.map (fun reserved => .array (reserved.map .ofUInt8)))

def tuicTls (t : OutboundTuic) : Object :=
  tlsBlock true t.sni (t.skipCertVerify.getD false) t.alpn

def tuicToSingbox (t : OutboundTuic) : Object :=
  json [("type", .string "tuic"),
    ("tag", .string t.commonOpts.name),
    ("server", .string t.commonOpts.server),
    ("server_port", .ofUInt16 t.commonOpts.port),
    ("uuid", .string t.uuid),
    ("password", .string t.password),
    ("tls", (tuicTls t).toValue)]
    |>.insertSome "congestion_control" (t.congestionController.map .string)
    |>.insertSome "udp_relay_mode" (t.udpRelayMode.map .string)
    |>.insertSome "zero_rtt_handshake"
      (if t.reduceRtt.getD false then some (.bool true) else none)

def obfsBlock (obfs : Hysteria2Obfs) (password : Option String) : Object :=
  let kind := match obfs with
    | .salamander => "salamander"
  json [("type", .string kind), ("password", .string (password.getD ""))]

def hysteria2Tls (h : OutboundHysteria2) : Object :=
  tlsBlock true h.sni h.skipCertVerify h.alpn

/-- The bandwidths are given in bits, and sing-box takes megabits. -/
def hysteria2ToSingbox (h : OutboundHysteria2) : Object :=
  json [("type", .string "hysteria2"),
    ("tag", .string h.name),
    ("server", .string h.server),
    ("server_port", .ofUInt16 h.port),
    ("password", .string h.password),
    ("tls", (hysteria2Tls h).toValue)]
    |>.insertSome "obfs" (h.obfs.map (fun obfs => (obfsBlock obfs h.obfsPassword).toValue))
    |>.insertSome "up_mbps" (h.up.map (fun up => .ofUInt64 (up / 1000000)))
    |>.insertSome "down_mbps" (h.down.map (fun down => .ofUInt64 (down / 1000000)))
    |>.insertSome "server_ports" (h.ports.map .string)

/-- The outbound as an object of the sing-box configuration. -/
def ProxyOutbound.singbox : ProxyOutbound → Object
  | direct d => json [("type", .string "direct"), ("tag", .string d.name)]
  | reject r => json [("type", .string "block"), ("tag", .string r.name)]
  | ss s => shadowsocksToSingbox s
  | socks5 s =>
    json [("type", .string "socks"),
      ("tag", .string s.commonOpts.name),
      ("server", .string s.commonOpts.server),
      ("server_port", .ofUInt16 s.commonOpts.port),
      ("version", .string "5"),
      ("username", .ofOption s.username),
      ("password", .ofOption s.password),
      ("udp_over_tcp", .bool (!s.udp))]
  | trojan t => trojanToSingbox t
  | vmess v => vmessToSingbox v
  | vless v => vlessToSingbox v
  | wireguard w => wireguardToSingbox w
  | tuic t => tuicToSingbox t
  | hysteria2 h => hysteria2ToSingbox h

/-- The sing-box form as JSON. -/
def ProxyOutbound.toSingboxJson (o : ProxyOutbound) : Value :=
  o.singbox.toValue

/-- The spelling of the network that xray knows. -/
def networkNormalised (network : String) : String :=
  match network with
  | "websocket" => "ws"
  | "http2" | "h2" => "http"
  | other => other

/-- The `tlsSettings` of xray. -/
def tlsSettings (sni : Option String) (insecure : Bool) (alpn : Option (List String))
    (fingerprint : Option String) : Object :=
  json []
    |>.insertSome "serverName" (sni.map .string)
    |>.insertSome "allowInsecure" (if insecure then some (.bool true) else none)
    |>.insertSome "alpn" (alpn.map .ofStrings)
    |>.insertSome "fingerprint" (fingerprint.map .string)

/-- The `realitySettings` of xray. -/
def realitySettings (reality : RealityOpt) (sni fingerprint : Option String) : Object :=
  json [("publicKey", .string reality.publicKey), ("shortId", .string reality.shortId)]
    |>.insertSome "serverName" (sni.map .string)
    |>.insertSome "fingerprint" (fingerprint.map .string)

/-- The `wsSettings` of xray. -/
def wsSettings (ws : WsOpt) : Object :=
  json []
    |>.insertSome "path" (ws.path.map .string)
    |>.insertSome "headers" (ws.headers.map .ofStringMap)

def grpcSettings (g : GrpcOpt) : Object :=
  json [("serviceName", .string (g.grpcServiceName.getD ""))]

/-- The `httpSettings` of xray. -/
def httpSettings (h : H2Opt) : Object :=
  json []
    |>.insertSome "host" (h.host.map .ofStrings)
    |>.insertSome "path" (h.path.map .string)

/-- REALITY goes before TLS, whether or not the outbound has TLS. -/
def securityOf (reality : Option RealityOpt) (tls : Bool) : String :=
  if reality.isSome then "reality" else if tls then "tls" else "none"

/-- The settings of the security that is chosen. -/
def insertSecurity (s : Object) (security : String) (sni : Option String) (insecure : Bool)
    (alpn : Option (List String)) (reality : Option RealityOpt) (fingerprint : Option String) :
    Object :=
  if security = "tls" then
    s.insert "tlsSettings" (tlsSettings sni insecure alpn fingerprint).toValue
  else if security = "reality" then
    -- the security is this one only if there are reality options
    s.insertSome "realitySettings"
      (reality.map (fun reality => (realitySettings reality sni fingerprint).toValue))
  else s

/-- The settings of the network, where its options are given. -/
def insertTransport (s : Object) (network : String) (ws : Option WsOpt) (h2 : Option H2Opt)
    (grpc : Option GrpcOpt) : Object :=
  match network with
  | "ws" => s.insertSome "wsSettings" (ws.map (fun ws => (wsSettings ws).toValue))
  | "grpc" => s.insertSome "grpcSettings" (grpc.map (fun g => (grpcSettings g).toValue))
  | "http" => s.insertSome "httpSettings" (h2.map (fun h => (httpSettings h).toValue))
  | _ => s

/-- The `streamSettings` of xray. -/
def xrayStreamSettings (network : String) (tls : Bool) (sni : Option String) (insecure : Bool)
    (alpn : Option (List String)) (ws : Option WsOpt) (h2 : Option H2Opt)
    (grpc : Option GrpcOpt) (reality : Option RealityOpt) (fingerprint : Option String) :
    Object :=
  let security := securityOf reality tls
  let s := json [("network", .string (networkNormalised network)),
    ("security", .string security)]
  let s := insertSecurity s security sni insecure alpn reality fingerprint
  insertTransport s (networkNormalised network) ws h2 grpc

/-- The plugin of the server has no place in it. -/
def shadowsocksToXray (s : OutboundShadowsocks) : Object :=
  let server := json [("address", .string s.commonOpts.server),
    ("port", .ofUInt16 s.commonOpts.port),
    ("method", .string s.cipher),
    ("password", .string s.password)]
  json [("tag", .string s.commonOpts.name),
    ("protocol", .string "shadowsocks"),
    ("settings", (json [("servers", .array [server.toValue])]).toValue)]

def trojanStream (t : OutboundTrojan) : Object :=
  xrayStreamSettings (t.network.getD "tcp") true t.sni (t.skipCertVerify.getD false) t.alpn
    t.wsOpts none t.grpcOpts none none

def trojanToXray (t : OutboundTrojan) : Object :=
  let server := json [("address", .string t.commonOpts.server),
    ("port", .ofUInt16 t.commonOpts.port),
    ("password", .string t.password)]
  json [("tag", .string t.commonOpts.name),
    ("protocol", .string "trojan"),
    ("settings", (json [("servers", .array [server.toValue])]).toValue),
    ("streamSettings", (trojanStream t).toValue)]

def vmessStream (v : OutboundVmess) : Object :=
  xrayStreamSettings (v.network.getD "tcp") (v.tls.getD false) v.serverName
    (v.skipCertVerify.getD false) none v.wsOpts v.h2Opts v.grpcOpts none none

def vmessToXray (v : OutboundVmess) : Object :=
  let user := json [("id", .string v.uuid),
    ("alterId", .ofUInt16 v.alterId),
    ("security", .string (v.cipher.getD "auto"))]
  let next := json [("address", .string v.commonOpts.server),
    ("port", .ofUInt16 v.commonOpts.port),
    ("users", .array [user.toValue])]
  json [("tag", .string v.commonOpts.name),
    ("protocol", .string "vmess"),
    ("settings", (json [("vnext", .array [next.toValue])]).toValue),
    ("streamSettings", (vmessStream v).toValue)]

def vlessStream (v : OutboundVless) : Object :=
  xrayStreamSettings (v.network.getD "tcp") (v.tls.getD false) v.serverName
    (v.skipCertVerify.getD false) none v.wsOpts v.h2Opts v.grpcOpts v.realityOpts
    v.clientFingerprint

def vlessToXray (v : OutboundVless) : Object :=
  let user := json [("id", .string v.uuid),
    ("flow", .string (v.flow.getD "")),
    ("encryption", .string "none")]
  let next := json [("address", .string v.commonOpts.server),
    ("port", .ofUInt16 v.commonOpts.port),
    ("users", .array [user.toValue])]
  json [("tag", .string v.commonOpts.name),
    ("protocol", .string "vless"),
    ("settings", (json [("vnext", .array [next.toValue])]).toValue),
    ("streamSettings", (vlessStream v).toValue)]

/-- What stands for an outbound that xray does not have. -/
def unsupportedXray (o : ProxyOutbound) : Object :=
  json [("tag", .string o.name),
    ("protocol", .string "unsupported"),
    ("_note", .string (o.typeTag ++ " is not representable in xray outbound JSON"))]

/-- The outbound as an object of the xray configuration. -/
def ProxyOutbound.xray : ProxyOutbound → Object
  | direct d =>
    json [("tag", .string d.name), ("protocol", .string "freedom"),
      ("settings", (json []).toValue)]
  | reject r =>
    json [("tag", .string r.name), ("protocol", .string "blackhole"),
      ("settings", (json []).toValue)]
  | ss s => shadowsocksToXray s
  | trojan t => trojanToXray t
  | vmess v => vmessToXray v
  | vless v => vlessToXray v
  | o => unsupportedXray o

/-- The xray form as JSON. -/
def ProxyOutbound.toXrayJson (o : ProxyOutbound) : Value :=
  o.xray.toValue

end Pingling.ProxyDto
