import Pingling.ProxyDto.Project

/-!
# The security and the transport of a projected outbound

What each projection says about TLS and about the transport, read back from its object: the
`tls` block and the `transport` block of sing-box, the stream settings of xray.
-/

namespace Pingling.ProxyDto
open Lib Std

namespace ProxyOutbound

/-- The variants that have stream settings under xray. -/
def HasStream : ProxyOutbound → Prop
  | trojan _ | vmess _ | vless _ => True
  | _ => False

/-- The outbound sets its own TLS flag, or its protocol always runs over TLS. -/
def asksTls : ProxyOutbound → Bool
  | socks5 s => s.tls
  | vmess v => v.tls.getD false
  | vless v => v.tls.getD false
  | trojan _ | tuic _ | hysteria2 _ => true
  | direct _ | reject _ | ss _ | wireguard _ => false

/-- The outbound asks for certificates not to be checked. -/
def skipCertVerify : ProxyOutbound → Bool
  | socks5 s => s.skipCertVerify
  | trojan t => t.skipCertVerify.getD false
  | vmess v => v.skipCertVerify.getD false
  | vless v => v.skipCertVerify.getD false
  | tuic t => t.skipCertVerify.getD false
  | hysteria2 h => h.skipCertVerify
  | direct _ | reject _ | ss _ | wireguard _ => false

/-- The REALITY options, which only Vless has. -/
def realityOpts : ProxyOutbound → Option RealityOpt
  | vless v => v.realityOpts
  | _ => none

/-- The network string, where the variant has one. -/
def network : ProxyOutbound → Option String
  | trojan t => t.network
  | vmess v => v.network
  | vless v => v.network
  | _ => none

end ProxyOutbound

/-- The TLS block that goes into the sing-box form, if any. -/
def ProxyOutbound.singboxTls : ProxyOutbound → Option Object
  | trojan t => some (trojanTls t)
  | vmess v => if v.tls.getD false then some (vmessTls v) else none
  | vless v => if v.tls.getD false then some (vlessTls v) else none
  | tuic t => some (tuicTls t)
  | hysteria2 h => some (hysteria2Tls h)
  | _ => none

lemma singboxTls_isSome_iff (o : ProxyOutbound) :
    o.singboxTls.isSome ↔ o.asksTls = true ∧ ¬ ∃ s, o = .socks5 s := by
  cases o <;> simp [ProxyOutbound.singboxTls, ProxyOutbound.asksTls]

/-- A TLS block is enabled and checks certificates as the outbound asks; REALITY is in it if the
outbound has its options. -/
lemma singboxTls_eq {o : ProxyOutbound} {tls : Object} (h : o.singboxTls = some tls) :
    ∃ serverName alpn fingerprint, tls =
      ((tlsBlock true serverName o.skipCertVerify alpn).insertSome "reality"
        (o.realityOpts.map (fun reality => (realityBlock reality).toValue))).insertSome "utls"
        (Option.map (fun fp => (utlsBlock fp).toValue) fingerprint) := by
  cases o with
  | trojan t => exact ⟨t.sni, t.alpn, none, (Option.some.inj h).symm⟩
  | tuic t => exact ⟨t.sni, t.alpn, none, (Option.some.inj h).symm⟩
  | hysteria2 t => exact ⟨t.sni, t.alpn, none, (Option.some.inj h).symm⟩
  | vmess v =>
    obtain ⟨-, htls⟩ := Option.ite_none_right_eq_some.mp h
    exact ⟨v.serverName, none, none, (Option.some.inj htls).symm⟩
  | vless v =>
    obtain ⟨-, htls⟩ := Option.ite_none_right_eq_some.mp h
    exact ⟨v.serverName, none, v.clientFingerprint, (Option.some.inj htls).symm⟩
  | _ => cases h

lemma get?_attachTransport_of_ne {name : String} (h : name ≠ "transport") (out : Object)
    (network : Option String) (ws : Option WsOpt) (h2 : Option H2Opt) (grpc : Option GrpcOpt) :
    (attachTransport out network ws h2 grpc).get? name = out.get? name := by
  unfold attachTransport
  split <;> simp [h]

lemma get?_singbox_tls (o : ProxyOutbound) :
    o.singbox.get? "tls" = o.singboxTls.map Object.toValue := by
  unfold ProxyOutbound.singbox ProxyOutbound.singboxTls
  cases o with
  | direct d => simp [json]
  | reject r => simp [json]
  | ss s => simp [shadowsocksToSingbox, json]
  | socks5 s => simp [json]
  | trojan t => simp [trojanToSingbox, get?_attachTransport_of_ne, json]
  | vmess v =>
    by_cases h : v.tls.getD false <;>
      simp [vmessToSingbox, get?_attachTransport_of_ne, json, h]
  | vless v =>
    by_cases h : v.tls.getD false <;>
      simp [vlessToSingbox, get?_attachTransport_of_ne, json, h]
  | wireguard w => simp [wireguardToSingbox, json]
  | tuic t => simp [tuicToSingbox, json]
  | hysteria2 h => simp [hysteria2ToSingbox, json]

lemma field_singbox_tls (o : ProxyOutbound) :
    o.toSingboxJson.field "tls" = (o.singboxTls.map Object.toValue).getD .null := by
  unfold ProxyOutbound.toSingboxJson
  rw [Object.field_toValue, get?_singbox_tls]

lemma get?_singboxTls_enabled {o : ProxyOutbound} {tls : Object} (h : o.singboxTls = some tls) :
    tls.get? "enabled" = some (.bool true) := by
  obtain ⟨serverName, alpn, fingerprint, rfl⟩ := singboxTls_eq h
  simp [tlsBlock, json]

lemma get?_singboxTls_insecure {o : ProxyOutbound} {tls : Object} (h : o.singboxTls = some tls) :
    tls.get? "insecure" = if o.skipCertVerify then some (.bool true) else none := by
  obtain ⟨serverName, alpn, fingerprint, rfl⟩ := singboxTls_eq h
  simp [tlsBlock, json]

lemma get?_singboxTls_reality {o : ProxyOutbound} {tls : Object} (h : o.singboxTls = some tls) :
    tls.get? "reality" =
      o.realityOpts.map (fun reality => (realityBlock reality).toValue) := by
  obtain ⟨serverName, alpn, fingerprint, rfl⟩ := singboxTls_eq h
  simp [tlsBlock, json]

/-- The stream settings that go into the xray form, if any. -/
def ProxyOutbound.xrayStream : ProxyOutbound → Option Object
  | trojan t => some (trojanStream t)
  | vmess v => some (vmessStream v)
  | vless v => some (vlessStream v)
  | _ => none

lemma xrayStream_eq {o : ProxyOutbound} (h : o.HasStream) :
    ∃ sni alpn ws h2 grpc fingerprint, o.xrayStream =
      some (xrayStreamSettings (o.network.getD "tcp") o.asksTls sni o.skipCertVerify alpn ws h2
        grpc o.realityOpts fingerprint) := by
  cases o with
  | trojan t => exact ⟨t.sni, t.alpn, t.wsOpts, none, t.grpcOpts, none, rfl⟩
  | vmess v => exact ⟨v.serverName, none, v.wsOpts, v.h2Opts, v.grpcOpts, none, rfl⟩
  | vless v =>
    exact ⟨v.serverName, none, v.wsOpts, v.h2Opts, v.grpcOpts, v.clientFingerprint, rfl⟩
  | _ => exact h.elim

lemma xrayStream_eq_none {o : ProxyOutbound} (h : ¬ o.HasStream) : o.xrayStream = none := by
  cases o with
  | trojan t => exact (h trivial).elim
  | vmess v => exact (h trivial).elim
  | vless v => exact (h trivial).elim
  | _ => rfl

lemma get?_xray_streamSettings (o : ProxyOutbound) :
    o.xray.get? "streamSettings" = o.xrayStream.map Object.toValue := by
  cases o <;> simp [ProxyOutbound.xray, shadowsocksToXray, trojanToXray, vmessToXray,
    vlessToXray, unsupportedXray, json, ProxyOutbound.xrayStream]

lemma field_xray_streamSettings (o : ProxyOutbound) :
    o.toXrayJson.field "streamSettings" = (o.xrayStream.map Object.toValue).getD .null := by
  unfold ProxyOutbound.toXrayJson
  rw [Object.field_toValue, get?_xray_streamSettings]

section
variable (network : String) (tls : Bool) (sni : Option String) (insecure : Bool)
  (alpn : Option (List String)) (ws : Option WsOpt) (h2 : Option H2Opt)
  (grpc : Option GrpcOpt) (reality : Option RealityOpt) (fingerprint : Option String)

lemma get?_insertTransport_of_ne {name : String} (hws : name ≠ "wsSettings")
    (hgrpc : name ≠ "grpcSettings") (hhttp : name ≠ "httpSettings") (s : Object) :
    (insertTransport s network ws h2 grpc).get? name = s.get? name := by
  unfold insertTransport
  split <;> simp [hws, hgrpc, hhttp]

lemma get?_insertSecurity_of_ne {name : String} (htls : name ≠ "tlsSettings")
    (hreality : name ≠ "realitySettings") (s : Object) (security : String) :
    (insertSecurity s security sni insecure alpn reality fingerprint).get? name =
      s.get? name := by
  unfold insertSecurity
  split_ifs <;> simp [htls, hreality]

lemma get?_xrayStreamSettings_security :
    (xrayStreamSettings network tls sni insecure alpn ws h2 grpc reality fingerprint).get?
      "security" = some (.string (securityOf reality tls)) := by
  simp [xrayStreamSettings, get?_insertTransport_of_ne, get?_insertSecurity_of_ne, json]

lemma get?_xrayStreamSettings_network :
    (xrayStreamSettings network tls sni insecure alpn ws h2 grpc reality fingerprint).get?
      "network" = some (.string (networkNormalised network)) := by
  simp [xrayStreamSettings, get?_insertTransport_of_ne, get?_insertSecurity_of_ne, json]

lemma get?_xrayStreamSettings_tlsSettings :
    (xrayStreamSettings network tls sni insecure alpn ws h2 grpc reality fingerprint).get?
      "tlsSettings" =
      if securityOf reality tls = "tls" then
        some (tlsSettings sni insecure alpn fingerprint).toValue
      else none := by
  simp only [xrayStreamSettings, get?_insertTransport_of_ne, ne_eq, String.reduceEq,
    not_false_eq_true, insertSecurity]
  split_ifs <;> simp [json]

end

namespace ProxyOutbound

/-- The sing-box form switches TLS on. -/
def TlsEnabled (o : ProxyOutbound) : Prop :=
  (o.toSingboxJson.field "tls").field "enabled" = .bool true

/-- The sing-box form has REALITY options. -/
def HasRealityBlock (o : ProxyOutbound) : Prop :=
  ∃ block, (o.toSingboxJson.field "tls").field "reality" = .object block

/-- The security that the xray form names. -/
def xraySecurity (o : ProxyOutbound) : Value :=
  (o.toXrayJson.field "streamSettings").field "security"

/-- The network that the xray form names. -/
def xrayNetwork (o : ProxyOutbound) : Value :=
  (o.toXrayJson.field "streamSettings").field "network"

lemma tlsEnabled_iff (o : ProxyOutbound) :
    o.TlsEnabled ↔ o.asksTls = true ∧ ¬ ∃ s, o = socks5 s := by
  rw [← singboxTls_isSome_iff]
  unfold TlsEnabled
  rw [field_singbox_tls]
  cases h : o.singboxTls with
  | none => simp [Value.field]
  | some tls => simp [get?_singboxTls_enabled h]

lemma HasStream.not_socks5 {o : ProxyOutbound} (h : o.HasStream) : ¬ ∃ s, o = socks5 s := by
  rintro ⟨s, rfl⟩
  exact h

lemma HasStream.tlsEnabled_iff {o : ProxyOutbound} (h : o.HasStream) :
    o.TlsEnabled ↔ o.asksTls = true := by
  rw [o.tlsEnabled_iff]
  exact and_iff_left h.not_socks5

lemma HasStream.hasRealityBlock_iff {o : ProxyOutbound} (h : o.HasStream) :
    o.HasRealityBlock ↔ o.asksTls = true ∧ o.realityOpts.isSome := by
  have hsome : o.singboxTls.isSome ↔ o.asksTls = true :=
    (singboxTls_isSome_iff o).trans (and_iff_left h.not_socks5)
  unfold HasRealityBlock
  rw [field_singbox_tls, ← hsome]
  cases htls : o.singboxTls with
  | none => simp [Value.field]
  | some tls =>
    simp only [Option.map_some, Option.getD_some, Object.field_toValue,
      get?_singboxTls_reality htls, Option.isSome_some, true_and]
    cases o.realityOpts with
    | none => simp
    | some reality => simp [Object.toValue]

lemma HasStream.xraySecurity_eq {o : ProxyOutbound} (h : o.HasStream) :
    o.xraySecurity = .string (securityOf o.realityOpts o.asksTls) := by
  obtain ⟨sni, alpn, ws, h2, grpc, fingerprint, hstream⟩ := xrayStream_eq h
  unfold xraySecurity
  rw [field_xray_streamSettings, hstream, Option.map_some, Option.getD_some,
    Object.field_toValue, get?_xrayStreamSettings_security]
  rfl

lemma HasStream.xrayNetwork_eq {o : ProxyOutbound} (h : o.HasStream) :
    o.xrayNetwork = .string (networkNormalised (o.network.getD "tcp")) := by
  obtain ⟨sni, alpn, ws, h2, grpc, fingerprint, hstream⟩ := xrayStream_eq h
  unfold xrayNetwork
  rw [field_xray_streamSettings, hstream, Option.map_some, Option.getD_some,
    Object.field_toValue, get?_xrayStreamSettings_network]
  rfl

end ProxyOutbound

end Pingling.ProxyDto
