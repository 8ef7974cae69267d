import Pingling.ProxyDto.TlsLevel

/-!
# Where certificate checks are switched off

A projection is searched at every place for its switches, the Boolean values. Those that switch
certificate checks off are set only for an outbound that asks for it.
-/

namespace Pingling.ProxyDto
open Lib Lib.Object Lib.Value ProxyOutbound

/-- The place of a field in nested objects. -/
def place (names : List String) : Path :=
  names.map .key

/-- The switches of a sing-box form that have nothing to do with certificate checks. -/
def singboxSwitches : List Path :=
  [place ["udp_over_tcp"], place ["zero_rtt_handshake"], place ["tls", "enabled"],
    place ["tls", "reality", "enabled"], place ["tls", "utls", "enabled"]]

/-- Where a sing-box form may have a switch. -/
def SingboxPlace (path : Path) : Prop :=
  path = place ["tls", "insecure"] ∨ path ∈ singboxSwitches

/-- An xray form has no other switch at all. -/
def XrayPlace (path : Path) : Prop :=
  path = place ["streamSettings", "tlsSettings", "allowInsecure"]

namespace ProxyOutbound

/-- Certificate checks are off in a projection exactly if it has TLS and the outbound asks for
it, and nothing else in a projection can switch them off. -/
structure SkipsOnRequest (o : ProxyOutbound) : Prop where
  singbox : (o.toSingboxJson.field "tls").field "insecure" = .bool true ↔
    (∃ block, o.toSingboxJson.field "tls" = .object block) ∧ o.skipCertVerify = true
  xray : ((o.toXrayJson.field "streamSettings").field "tlsSettings").field "allowInsecure" =
      .bool true ↔
    o.xraySecurity = .string "tls" ∧ o.skipCertVerify = true
  singboxPlaces : o.toSingboxJson.SwitchesIn SingboxPlace
  xrayPlaces : o.toXrayJson.SwitchesIn XrayPlace

end ProxyOutbound

section
variable {S : Path → Prop}

lemma switchesIn_wsTransport (ws : WsOpt) : (wsTransport ws).toValue.SwitchesIn S := by
  unfold wsTransport
  apply switchesIn_insertSome_map _ switchesIn_string
  apply switchesIn_insertSome_map _ (fun n => switchesIn_number _)
  apply switchesIn_insertSome_map _ switchesIn_ofStringMap
  apply switchesIn_insertSome_map _ switchesIn_string
  apply switchesIn_json
  simp

lemma switchesIn_grpcTransport (g : GrpcOpt) : (grpcTransport g).toValue.SwitchesIn S := by
  apply switchesIn_json
  simp

lemma switchesIn_httpTransport (h : H2Opt) : (httpTransport h).toValue.SwitchesIn S := by
  unfold httpTransport
  apply switchesIn_insertSome_map _ switchesIn_string
  apply switchesIn_insertSome_map _ switchesIn_ofStrings
  apply switchesIn_json
  simp

lemma switchesIn_attachTransport {out : Object} (h : out.toValue.SwitchesIn S)
    (network : Option String) (ws : Option WsOpt) (h2 : Option H2Opt) (grpc : Option GrpcOpt) :
    (attachTransport out network ws h2 grpc).toValue.SwitchesIn S := by
  unfold attachTransport
  split
  · exact switchesIn_insertSome_map h switchesIn_wsTransport
  · exact switchesIn_insertSome_map h switchesIn_wsTransport
  · exact switchesIn_insertSome_map h switchesIn_grpcTransport
  · exact switchesIn_insertSome_map h switchesIn_httpTransport
  · exact switchesIn_insertSome_map h switchesIn_httpTransport
  · exact switchesIn_insertSome_map h switchesIn_httpTransport
  · exact h

end

lemma switchesIn_tlsBlock (enabled : Bool) (serverName : Option String) (insecure : Bool)
    (alpn : Option (List String)) :
    (tlsBlock enabled serverName insecure alpn).toValue.SwitchesIn
      (fun path => SingboxPlace (.key "tls" :: path)) := by
  unfold tlsBlock
  apply switchesIn_insertSome_map _ switchesIn_ofStrings
  apply switchesIn_insertSome_ite
  · apply switchesIn_insertSome_map _ switchesIn_string
    apply switchesIn_json
    simp [SingboxPlace, singboxSwitches, place]
  · simp [SingboxPlace, place]

lemma switchesIn_vlessTls (v : OutboundVless) :
    (vlessTls v).toValue.SwitchesIn (fun path => SingboxPlace (.key "tls" :: path)) := by
  unfold vlessTls
  apply switchesIn_insertSome_map
  · apply switchesIn_insertSome_map
    · apply switchesIn_tlsBlock
    · intro reality
      apply switchesIn_json
      simp [SingboxPlace, singboxSwitches, place]
  · intro fp
    apply switchesIn_json
    simp [SingboxPlace, singboxSwitches, place]

lemma switchesIn_trojanToSingbox (t : OutboundTrojan) :
    (trojanToSingbox t).toValue.SwitchesIn SingboxPlace := by
  unfold trojanToSingbox
  apply switchesIn_attachTransport
  apply switchesIn_json
  simp [trojanTls, switchesIn_tlsBlock]

lemma switchesIn_vmessToSingbox (v : OutboundVmess) :
    (vmessToSingbox v).toValue.SwitchesIn SingboxPlace := by
  unfold vmessToSingbox
  apply switchesIn_attachTransport
  apply switchesIn_insertSome_ite
  · apply switchesIn_json
    simp
  · exact switchesIn_tlsBlock _ _ _ _

lemma switchesIn_vlessToSingbox (v : OutboundVless) :
    (vlessToSingbox v).toValue.SwitchesIn SingboxPlace := by
  unfold vlessToSingbox
  apply switchesIn_attachTransport
  apply switchesIn_insertSome_ite
  · apply switchesIn_insertSome_map _ switchesIn_string
    apply switchesIn_json
    simp
  · exact switchesIn_vlessTls v

lemma switchesIn_wireguardToSingbox (w : OutboundWireguard) :
    (wireguardToSingbox w).toValue.SwitchesIn SingboxPlace := by
  unfold wireguardToSingbox
  apply switchesIn_insertSome_map _ switchesIn_ofUInt8s
  apply switchesIn_insertSome_map _ switchesIn_ofUInt16
  apply switchesIn_insertSome_map _ switchesIn_string
  apply switchesIn_json
  simp

lemma switchesIn_tuicToSingbox (t : OutboundTuic) :
    (tuicToSingbox t).toValue.SwitchesIn SingboxPlace := by
  unfold tuicToSingbox
  apply switchesIn_insertSome_ite
  · apply switchesIn_insertSome_map _ switchesIn_string
    apply switchesIn_insertSome_map _ switchesIn_string
    apply switchesIn_json
    simp [tuicTls, switchesIn_tlsBlock]
  · simp [SingboxPlace, singboxSwitches, place]

lemma switchesIn_hysteria2ToSingbox (h : OutboundHysteria2) :
    (hysteria2ToSingbox h).toValue.SwitchesIn SingboxPlace := by
  unfold hysteria2ToSingbox
  apply switchesIn_insertSome_map _ switchesIn_string
  apply switchesIn_insertSome_map _ (fun n => switchesIn_ofUInt64 _)
  apply switchesIn_insertSome_map _ (fun n => switchesIn_ofUInt64 _)
  apply switchesIn_insertSome_map
  · apply switchesIn_json
    simp [hysteria2Tls, switchesIn_tlsBlock]
  · intro obfs
    apply switchesIn_json
    simp

lemma switchesIn_toSingboxJson (o : ProxyOutbound) :
    o.toSingboxJson.SwitchesIn SingboxPlace := by
  cases o with
  | direct d =>
    apply switchesIn_json
    simp
  | reject r =>
    apply switchesIn_json
    simp
  | ss s =>
    apply switchesIn_json
    simp [SingboxPlace, singboxSwitches, place]
  | socks5 s =>
    apply switchesIn_json
    simp [SingboxPlace, singboxSwitches, place]
  | trojan t => exact switchesIn_trojanToSingbox t
  | vmess v => exact switchesIn_vmessToSingbox v
  | vless v => exact switchesIn_vlessToSingbox v
  | wireguard w => exact switchesIn_wireguardToSingbox w
  | tuic t => exact switchesIn_tuicToSingbox t
  | hysteria2 h => exact switchesIn_hysteria2ToSingbox h

section
variable {S : Path → Prop}

lemma switchesIn_tlsSettings (sni : Option String) (insecure : Bool)
    (alpn : Option (List String)) (fingerprint : Option String) :
    (tlsSettings sni insecure alpn fingerprint).toValue.SwitchesIn
      (fun path => XrayPlace (.key "streamSettings" :: .key "tlsSettings" :: path)) := by
  unfold tlsSettings
  apply switchesIn_insertSome_map _ switchesIn_string
  apply switchesIn_insertSome_map _ switchesIn_ofStrings
  apply switchesIn_insertSome_ite
  · apply switchesIn_insertSome_map _ switchesIn_string
    apply switchesIn_json
    simp
  · simp [XrayPlace, place]

lemma switchesIn_realitySettings (reality : RealityOpt) (sni fingerprint : Option String) :
    (realitySettings reality sni fingerprint).toValue.SwitchesIn S := by
  unfold realitySettings
  apply switchesIn_insertSome_map _ switchesIn_string
  apply switchesIn_insertSome_map _ switchesIn_string
  apply switchesIn_json
  simp

lemma switchesIn_wsSettings (ws : WsOpt) : (wsSettings ws).toValue.SwitchesIn S := by
  unfold wsSettings
  apply switchesIn_insertSome_map _ switchesIn_ofStringMap
  apply switchesIn_insertSome_map _ switchesIn_string
  apply switchesIn_json
  simp

lemma switchesIn_grpcSettings (g : GrpcOpt) : (grpcSettings g).toValue.SwitchesIn S := by
  apply switchesIn_json
  simp

lemma switchesIn_httpSettings (h : H2Opt) : (httpSettings h).toValue.SwitchesIn S := by
  unfold httpSettings
  apply switchesIn_insertSome_map _ switchesIn_string
  apply switchesIn_insertSome_map _ switchesIn_ofStrings
  apply switchesIn_json
  simp

lemma switchesIn_insertTransport {s : Object} (h : s.toValue.SwitchesIn S) (network : String)
    (ws : Option WsOpt) (h2 : Option H2Opt) (grpc : Option GrpcOpt) :
    (insertTransport s network ws h2 grpc).toValue.SwitchesIn S := by
  unfold insertTransport
  split
  · exact switchesIn_insertSome_map h switchesIn_wsSettings
  · exact switchesIn_insertSome_map h switchesIn_grpcSettings
  · exact switchesIn_insertSome_map h switchesIn_httpSettings
  · exact h

lemma switchesIn_insertSecurity {s : Object}
    (h : s.toValue.SwitchesIn (fun path => XrayPlace (.key "streamSettings" :: path)))
    (security : String) (sni : Option String) (insecure : Bool) (alpn : Option (List String))
    (reality : Option RealityOpt) (fingerprint : Option String) :
    (insertSecurity s security sni insecure alpn reality fingerprint).toValue.SwitchesIn
      (fun path => XrayPlace (.key "streamSettings" :: path)) := by
  unfold insertSecurity
  split_ifs
  · apply switchesIn_insert h
    apply switchesIn_tlsSettings
  · apply switchesIn_insertSome_map h
    intro reality
    apply switchesIn_realitySettings
  · exact h

lemma switchesIn_xrayStreamSettings (network : String) (tls : Bool) (sni : Option String)
    (insecure : Bool) (alpn : Option (List String)) (ws : Option WsOpt) (h2 : Option H2Opt)
    (grpc : Option GrpcOpt) (reality : Option RealityOpt) (fingerprint : Option String) :
    (xrayStreamSettings network tls sni insecure alpn ws h2 grpc reality
      fingerprint).toValue.SwitchesIn (fun path => XrayPlace (.key "streamSettings" :: path)) := by
  unfold xrayStreamSettings
  apply switchesIn_insertTransport
  apply switchesIn_insertSecurity
  apply switchesIn_json
  simp

/-- The settings of an outbound are a list of one server. -/
lemma switchesIn_settings {key : String} {server : Object}
    (h : ∀ S, server.toValue.SwitchesIn S) :
    (json [(key, .array [server.toValue])]).toValue.SwitchesIn S := by
  apply switchesIn_json
  simp [switchesIn_singleton h]

lemma switchesIn_shadowsocksToXray (s : OutboundShadowsocks) :
    (shadowsocksToXray s).toValue.SwitchesIn S := by
  apply switchesIn_json
  simp only [List.forall_mem_cons, switchesIn_string, true_and]
  apply And.intro
  · apply switchesIn_settings
    intro S
    apply switchesIn_json
    simp
  · simp

end

/-- An outbound with a stream: its switches are those of the stream. -/
lemma switchesIn_streamed {tag protocol servers : String} {server stream : Object}
    (hserver : ∀ S, server.toValue.SwitchesIn S)
    (hstream : stream.toValue.SwitchesIn (fun path => XrayPlace (.key "streamSettings" :: path))) :
    (json [("tag", .string tag), ("protocol", .string protocol),
      ("settings", (json [(servers, .array [server.toValue])]).toValue),
      ("streamSettings", stream.toValue)]).toValue.SwitchesIn XrayPlace := by
  apply switchesIn_json
  simp only [List.forall_mem_cons, switchesIn_string, true_and]
  apply And.intro
  · exact switchesIn_settings hserver
  · simp [hstream]

lemma switchesIn_trojanToXray (t : OutboundTrojan) :
    (trojanToXray t).toValue.SwitchesIn XrayPlace := by
  apply switchesIn_streamed
  · intro S
    apply switchesIn_json
    simp
  · apply switchesIn_xrayStreamSettings

/-- The server of a VMess or a VLESS outbound: its endpoint and one user. -/
lemma switchesIn_next {S : Path → Prop} {address : String} {port : UInt16} {user : Object}
    (h : ∀ S, user.toValue.SwitchesIn S) :
    (json [("address", .string address), ("port", ofUInt16 port),
      ("users", .array [user.toValue])]).toValue.SwitchesIn S := by
  apply switchesIn_json
  simp [switchesIn_singleton h]

lemma switchesIn_vmessToXray (v : OutboundVmess) :
    (vmessToXray v).toValue.SwitchesIn XrayPlace := by
  apply switchesIn_streamed
  · intro S
    apply switchesIn_next
    intro S
    apply switchesIn_json
    simp
  · apply switchesIn_xrayStreamSettings

lemma switchesIn_vlessToXray (v : OutboundVless) :
    (vlessToXray v).toValue.SwitchesIn XrayPlace := by
  apply switchesIn_streamed
  · intro S
    apply switchesIn_next
    intro S
    apply switchesIn_json
    simp
  · apply switchesIn_xrayStreamSettings

lemma switchesIn_unsupportedXray {S : Path → Prop} (o : ProxyOutbound) :
    (unsupportedXray o).toValue.SwitchesIn S := by
  apply switchesIn_json
  simp

lemma switchesIn_freedom {S : Path → Prop} (tag protocol : String) :
    (json [("tag", .string tag), ("protocol", .string protocol),
      ("settings", (json []).toValue)]).toValue.SwitchesIn S := by
  apply switchesIn_json
  simp only [List.forall_mem_cons, switchesIn_string, true_and]
  apply And.intro
  · exact switchesIn_empty
  · simp

lemma switchesIn_toXrayJson (o : ProxyOutbound) : o.toXrayJson.SwitchesIn XrayPlace := by
  cases o with
  | direct d => exact switchesIn_freedom _ _
  | reject r => exact switchesIn_freedom _ _
  | ss s => exact switchesIn_shadowsocksToXray s
  | trojan t => exact switchesIn_trojanToXray t
  | vmess v => exact switchesIn_vmessToXray v
  | vless v => exact switchesIn_vlessToXray v
  | _ => exact switchesIn_unsupportedXray _

lemma singbox_insecure_iff (o : ProxyOutbound) :
    (o.toSingboxJson.field "tls").field "insecure" = .bool true ↔
      (∃ block, o.toSingboxJson.field "tls" = .object block) ∧ o.skipCertVerify = true := by
  rw [field_singbox_tls]
  cases h : o.singboxTls with
  | none => simp [Value.field]
  | some tls =>
    have hobject : ∃ block, tls.toValue = .object block := ⟨_, rfl⟩
    cases hskip : o.skipCertVerify <;> simp [get?_singboxTls_insecure h, hskip, hobject]

lemma get?_tlsSettings_allowInsecure (sni : Option String) (insecure : Bool)
    (alpn : Option (List String)) (fingerprint : Option String) :
    (tlsSettings sni insecure alpn fingerprint).get? "allowInsecure" =
      if insecure then some (.bool true) else none := by
  simp [tlsSettings, json]

lemma xray_allowInsecure_iff (o : ProxyOutbound) :
    ((o.toXrayJson.field "streamSettings").field "tlsSettings").field "allowInsecure" =
        .bool true ↔
      o.xraySecurity = .string "tls" ∧ o.skipCertVerify = true := by
  by_cases h : o.HasStream
  · obtain ⟨sni, alpn, ws, h2, grpc, fingerprint, hstream⟩ := xrayStream_eq h
    rw [h.xraySecurity_eq, field_xray_streamSettings, hstream, Option.map_some,
      Option.getD_some, Object.field_toValue, get?_xrayStreamSettings_tlsSettings]
    by_cases htls : securityOf o.realityOpts o.asksTls = "tls"
    · cases hskip : o.skipCertVerify <;> simp [htls, get?_tlsSettings_allowInsecure]
    · simp [htls, Value.field]
  · unfold ProxyOutbound.xraySecurity
    rw [field_xray_streamSettings, xrayStream_eq_none h]
    simp [Value.field]

/-- Neither projection of an outbound switches certificate checks off unless the outbound asks
for it. -/
theorem skipsOnRequest (o : ProxyOutbound) : o.SkipsOnRequest where
  singbox := singbox_insecure_iff o
  xray := xray_allowInsecure_iff o
  singboxPlaces := switchesIn_toSingboxJson o
  xrayPlaces := switchesIn_toXrayJson o

end Pingling.ProxyDto
