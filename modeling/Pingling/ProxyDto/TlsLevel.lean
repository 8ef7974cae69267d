import Pingling.ProxyDto.Blocks

/-!
# The level of TLS under the two cores

Both projections of an outbound agree on plain text, TLS and REALITY unless a VLESS outbound
has REALITY options without its TLS flag. No outbound but SOCKS5 loses a TLS it asks for.
-/

namespace Pingling.ProxyDto
open Lib ProxyOutbound

namespace ProxyOutbound

/-- The two projections are plain text, TLS or REALITY together. -/
structure TlsAgrees (o : ProxyOutbound) : Prop where
  enabled : o.TlsEnabled ↔ o.xraySecurity = .string "tls" ∨ o.xraySecurity = .string "reality"
  reality : o.HasRealityBlock ↔ o.xraySecurity = .string "reality"

/-- The outbound has REALITY options, and its TLS flag is not set. -/
def RealityWithoutTls (o : ProxyOutbound) : Prop :=
  o.realityOpts.isSome ∧ o.asksTls = false

end ProxyOutbound

lemma securityOf_eq_reality (reality : Option RealityOpt) (tls : Bool) :
    securityOf reality tls = "reality" ↔ reality.isSome := by
  cases reality <;> cases tls <;> simp [securityOf]

lemma securityOf_eq_tls (reality : Option RealityOpt) (tls : Bool) :
    securityOf reality tls = "tls" ↔ tls = true ∧ reality = none := by
  cases reality <;> cases tls <;> simp [securityOf]

/-- The two cores run an outbound at the same level of TLS, unless it has REALITY options
without its TLS flag. -/
theorem tlsAgrees_iff (o : ProxyOutbound) (h : o.HasStream) :
    o.TlsAgrees ↔ ¬ o.RealityWithoutTls := by
  have henabled := h.tlsEnabled_iff
  have hblock := h.hasRealityBlock_iff
  have hreality : o.xraySecurity = .string "reality" ↔ o.realityOpts.isSome := by
    rw [h.xraySecurity_eq, Value.string.injEq, securityOf_eq_reality]
  have htls : o.xraySecurity = .string "tls" ↔ o.asksTls = true ∧ o.realityOpts = none := by
    rw [h.xraySecurity_eq, Value.string.injEq, securityOf_eq_tls]
  apply Iff.intro
  · intro hagrees hwithout
    -- xray runs REALITY, so sing-box should have TLS
    have hsecurity := hreality.mpr hwithout.1
    have hasks := henabled.mp (hagrees.enabled.mpr (.inr hsecurity))
    simp [hwithout.2] at hasks
  · intro hwithout
    have hasks : o.realityOpts.isSome → o.asksTls = true := by
      intro hsome
      by_contra hoff
      exact hwithout ⟨hsome, Bool.eq_false_iff.mpr hoff⟩
    refine ⟨?_, ?_⟩
    · rw [henabled, htls, hreality]
      cases hopts : o.realityOpts with
      | none => simp
      | some reality => simp [hasks (hopts ▸ rfl)]
    · rw [hblock, hreality]
      exact ⟨And.right, fun hsome => ⟨hasks hsome, hsome⟩⟩

theorem tlsAgrees_sampleVless :
    (vless sampleVless).HasStream ∧ (vless sampleVless).TlsAgrees :=
  ⟨trivial, (tlsAgrees_iff (vless sampleVless) trivial).mpr (by simp [RealityWithoutTls, asksTls,
    sampleVless])⟩

/-- The REALITY options of this outbound reach xray only: sing-box sends plain text. -/
def realityWithoutTls : OutboundVless :=
  { sampleVless with tls := none, realityOpts := some ⟨"pkpkpk", "beef"⟩ }

theorem not_tlsAgrees_realityWithoutTls : ¬ (vless realityWithoutTls).TlsAgrees := by
  intro h
  have hstream : (vless realityWithoutTls).HasStream := trivial
  have hsecurity : (vless realityWithoutTls).xraySecurity = .string "reality" :=
    hstream.xraySecurity_eq
  have hasks := hstream.tlsEnabled_iff.mp (h.enabled.mpr (.inr hsecurity))
  cases hasks

/-- The sing-box form of an outbound that asks for TLS has TLS enabled, except for SOCKS5. -/
theorem tlsEnabled_of_asksTls_iff (o : ProxyOutbound) :
    (o.asksTls = true → o.TlsEnabled) ↔ ¬ ∃ s, o = .socks5 s ∧ s.tls = true := by
  rw [o.tlsEnabled_iff]
  apply Iff.intro
  · rintro h ⟨s, rfl, htls⟩
    exact (h htls).2 ⟨s, rfl⟩
  · intro h hasks
    apply And.intro hasks
    rintro ⟨s, rfl⟩
    exact h ⟨s, rfl, hasks⟩

def socksOverTls : OutboundSocks5 where
  commonOpts := ⟨"socks-tls", "203.0.113.60", 1080, none⟩
  username := some "user"
  password := some "secret"
  tls := true
  sni := some "example.com"
  skipCertVerify := false
  udp := true

theorem not_tlsEnabled_socksOverTls :
    ¬ ((socks5 socksOverTls).asksTls = true → (socks5 socksOverTls).TlsEnabled) := by
  intro h
  have henabled := (tlsEnabled_iff _).mp (h rfl)
  exact henabled.2 ⟨socksOverTls, rfl⟩

end Pingling.ProxyDto
