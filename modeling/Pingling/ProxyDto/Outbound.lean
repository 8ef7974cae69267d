import Pingling.Lib.Yaml

/-!
# Proxy outbounds

One proxy outbound in the dialect the panels speak, tagged by its protocol.
-/

namespace Pingling.ProxyDto
open Lib Std

/-- Options of every variant that talks to a server. -/
structure CommonOptions where
  name : String
  server : String
  port : UInt16
  connectVia : Option String

/-- Options of the WebSocket transport. -/
structure WsOpt where
  path : Option String
  headers : Option (ExtTreeMap String String)
  maxEarlyData : Option Int32
  earlyDataHeaderName : Option String

/-- Options of the HTTP/2 transport. -/
structure H2Opt where
  host : Option (List String)
  path : Option String

/-- Options of the gRPC transport. -/
structure GrpcOpt where
  grpcServiceName : Option String

/-- Options of REALITY. -/
structure RealityOpt where
  publicKey : String
  shortId : String

/-- Connects without a proxy. -/
structure OutboundDirect where
  name : String

/-- Refuses the connection. -/
structure OutboundReject where
  name : String

/-- A Shadowsocks server. The options of its plugin are free-form. -/
structure OutboundShadowsocks where
  commonOpts : CommonOptions
  cipher : String
  password : String
  udp : Bool
  plugin : Option String
  pluginOpts : Option (ExtTreeMap String YamlValue)

/-- A SOCKS5 server. -/
structure OutboundSocks5 where
  commonOpts : CommonOptions
  username : Option String
  password : Option String
  tls : Bool
  sni : Option String
  skipCertVerify : Bool
  udp : Bool

/-- A Trojan server, which always has TLS. -/
structure OutboundTrojan where
  commonOpts : CommonOptions
  password : String
  alpn : Option (List String)
  sni : Option String
  skipCertVerify : Option Bool
  udp : Option Bool
  network : Option String
  grpcOpts : Option GrpcOpt
  wsOpts : Option WsOpt

/-- A VMess server. -/
structure OutboundVmess where
  commonOpts : CommonOptions
  uuid : String
  alterId : UInt16
  cipher : Option String
  udp : Option Bool
  tls : Option Bool
  skipCertVerify : Option Bool
  serverName : Option String
  network : Option String
  wsOpts : Option WsOpt
  h2Opts : Option H2Opt
  grpcOpts : Option GrpcOpt

/-- A VLESS server. -/
structure OutboundVless where
  commonOpts : CommonOptions
  uuid : String
  udp : Option Bool
  tls : Option Bool
  skipCertVerify : Option Bool
  serverName : Option String
  network : Option String
  wsOpts : Option WsOpt
  h2Opts : Option H2Opt
  grpcOpts : Option GrpcOpt
  realityOpts : Option RealityOpt
  flow : Option String
  clientFingerprint : Option String

/-- A WireGuard peer. -/
structure OutboundWireguard where
  commonOpts : CommonOptions
  privateKey : String
  publicKey : String
  preSharedKey : Option String
  mtu : Option UInt16
  udp : Option Bool
  ip : String
  ipv6 : Option String
  remoteDnsResolve : Option Bool
  dns : Option (List String)
  allowedIps : Option (List String)
  reservedBits : Option (List UInt8)

/-- A TUIC server. -/
structure OutboundTuic where
  commonOpts : CommonOptions
  uuid : String
  password : String
  ip : Option String
  heartbeatInterval : Option UInt64
  alpn : Option (List String)
  disableSni : Option Bool
  reduceRtt : Option Bool
  requestTimeout : Option UInt64
  udpRelayMode : Option String
  congestionController : Option String
  maxUdpRelayPacketSize : Option UInt64
  fastOpen : Option Bool
  skipCertVerify : Option Bool
  maxOpenStream : Option UInt64
  sni : Option String

/-- How Hysteria2 hides its packets. -/
inductive Hysteria2Obfs where
  | salamander

/-- A Hysteria2 server. Its server and port are fields of its own. -/
structure OutboundHysteria2 where
  name : String
  server : String
  port : UInt16
  ports : Option String
  password : String
  obfs : Option Hysteria2Obfs
  obfsPassword : Option String
  alpn : Option (List String)
  up : Option UInt64
  down : Option UInt64
  sni : Option String
  skipCertVerify : Bool
  ca : Option String
  caStr : Option String
  fingerprint : Option String

/-- A single proxy outbound, tagged by protocol. -/
inductive ProxyOutbound where
  | direct (d : OutboundDirect)
  | reject (r : OutboundReject)
  | ss (s : OutboundShadowsocks)
  | socks5 (s : OutboundSocks5)
  | trojan (t : OutboundTrojan)
  | vmess (v : OutboundVmess)
  | vless (v : OutboundVless)
  | wireguard (w : OutboundWireguard)
  | tuic (t : OutboundTuic)
  | hysteria2 (h : OutboundHysteria2)

namespace ProxyOutbound

/-- The name that the other parts of a configuration know the outbound by. -/
def name : ProxyOutbound → String
  | direct x => x.name
  | reject x => x.name
  | ss x => x.commonOpts.name
  | socks5 x => x.commonOpts.name
  | trojan x => x.commonOpts.name
  | vmess x => x.commonOpts.name
  | vless x => x.commonOpts.name
  | wireguard x => x.commonOpts.name
  | tuic x => x.commonOpts.name
  | hysteria2 x => x.name

/-- The tag of the variant in Clash YAML. -/
def typeTag : ProxyOutbound → String
  | direct _ => "direct"
  | reject _ => "reject"
  | ss _ => "ss"
  | socks5 _ => "socks5"
  | trojan _ => "trojan"
  | vmess _ => "vmess"
  | vless _ => "vless"
  | wireguard _ => "wireguard"
  | tuic _ => "tuic"
  | hysteria2 _ => "hysteria2"

end ProxyOutbound

/-- A VLESS outbound over a websocket and TLS. -/
def sampleVless : OutboundVless where
  commonOpts := ⟨"jp-tokyo-1", "203.0.113.10", 443, none⟩
  uuid := "00000000-0000-0000-0000-000000000000"
  udp := some true
  tls := some true
  skipCertVerify := some false
  serverName := some "example.com"
  network := some "ws"
  wsOpts := some ⟨some "/vl", some ((∅ : ExtTreeMap String String).insert "Host" "example.com"),
    none, none⟩
  h2Opts := none
  grpcOpts := none
  realityOpts := none
  flow := some "xtls-rprx-vision"
  clientFingerprint := some "chrome"

end Pingling.ProxyDto
