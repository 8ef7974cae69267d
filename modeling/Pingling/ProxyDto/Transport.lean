import Pingling.ProxyDto.Blocks

/-!
# The transport under the two cores

A network string names a transport, by any of its aliases, or none. Under xray the name alone
decides; under sing-box the options of the transport have to be there as well. So the two
projections agree exactly when they are.
-/

namespace Pingling.ProxyDto
open Lib ProxyOutbound

/-- A transport other than plain TCP. -/
inductive TransportKind where
  | ws
  | grpc
  | http
  deriving DecidableEq

namespace TransportKind

/-- The word of both cores for the transport. -/
def tag : TransportKind → String
  | ws => "ws"
  | grpc => "grpc"
  | http => "http"

/-- What an outbound may call the transport. -/
def aliases : TransportKind → List String
  | ws => ["ws", "websocket"]
  | grpc => ["grpc"]
  | http => ["h2", "http", "http2"]

end TransportKind

/-- The options of a transport are there. -/
def optionsGiven (ws : Option WsOpt) (h2 : Option H2Opt) (grpc : Option GrpcOpt) :
    TransportKind → Bool
  | .ws => ws.isSome
  | .grpc => grpc.isSome
  | .http => h2.isSome

namespace ProxyOutbound

/-- The outbound has the options of the transport. A Trojan outbound has none for HTTP/2. -/
def HasOptions : ProxyOutbound → TransportKind → Prop
  | trojan t, kind => optionsGiven t.wsOpts none t.grpcOpts kind
  | vmess v, kind => optionsGiven v.wsOpts v.h2Opts v.grpcOpts kind
  | vless v, kind => optionsGiven v.wsOpts v.h2Opts v.grpcOpts kind
  | _, _ => False

/-- The network string of the outbound names the transport. -/
def AsksTransport (o : ProxyOutbound) (kind : TransportKind) : Prop :=
  ∃ name ∈ kind.aliases, o.network = some name

/-- The transport that the sing-box form names. -/
def singboxTransport (o : ProxyOutbound) : Value :=
  (o.toSingboxJson.field "transport").field "type"

/-- The two projections name the same transport, or none. -/
def TransportAgrees (o : ProxyOutbound) : Prop :=
  ∀ kind : TransportKind,
    o.singboxTransport = .string kind.tag ↔ o.xrayNetwork = .string kind.tag

end ProxyOutbound

/-- The transport that `attachTransport` attaches, if any. -/
def transportBlock (network : Option String) (ws : Option WsOpt) (h2 : Option H2Opt)
    (grpc : Option GrpcOpt) : Option Object :=
  match network with
  | some "ws" | some "websocket" => ws.map wsTransport
  | some "grpc" => grpc.map grpcTransport
  | some "h2" | some "http" | some "http2" => h2.map httpTransport
  | _ => none

lemma attachTransport_eq (out : Object) (network : Option String) (ws : Option WsOpt)
    (h2 : Option H2Opt) (grpc : Option GrpcOpt) :
    attachTransport out network ws h2 grpc =
      out.insertSome "transport" ((transportBlock network ws h2 grpc).map Object.toValue) := by
  unfold attachTransport transportBlock
  split <;> simp only [Option.map_map, Option.map_none] <;> rfl

lemma get?_wsTransport_type (ws : WsOpt) :
    (wsTransport ws).get? "type" = some (.string "ws") := by
  simp [wsTransport, json]

lemma get?_grpcTransport_type (g : GrpcOpt) :
    (grpcTransport g).get? "type" = some (.string "grpc") := by
  simp [grpcTransport, json]

lemma get?_httpTransport_type (h : H2Opt) :
    (httpTransport h).get? "type" = some (.string "http") := by
  simp [httpTransport, json]

lemma bind_type_iff {α : Type} {block : α → Object} {tag : String}
    (h : ∀ options, (block options).get? "type" = some (.string tag)) (options : Option α)
    (word : String) :
    (options.map block).bind (·.get? "type") = some (.string word) ↔
      word = tag ∧ options.isSome := by
  cases options with
  | none => simp
  | some options => simp [h, eq_comm]

/-- The attached block is of a kind only if that is named and its options are there. -/
lemma transportBlock_type_iff (network : Option String) (ws : Option WsOpt)
    (h2 : Option H2Opt) (grpc : Option GrpcOpt) (kind : TransportKind) :
    (transportBlock network ws h2 grpc).bind (·.get? "type") = some (.string kind.tag) ↔
      (∃ name ∈ kind.aliases, network = some name) ∧ optionsGiven ws h2 grpc kind := by
  unfold transportBlock
  split
  all_goals
    simp only [bind_type_iff get?_wsTransport_type, bind_type_iff get?_grpcTransport_type,
      bind_type_iff get?_httpTransport_type, Option.bind_none]
    cases kind <;> simp_all [TransportKind.tag, TransportKind.aliases, optionsGiven]

lemma singboxTransport_eq {o : ProxyOutbound} (block : Option Object)
    (h : o.singbox.get? "transport" = block.map Object.toValue) (kind : TransportKind) :
    o.singboxTransport = .string kind.tag ↔
      block.bind (·.get? "type") = some (.string kind.tag) := by
  unfold ProxyOutbound.singboxTransport ProxyOutbound.toSingboxJson
  rw [Object.field_toValue, h]
  cases block with
  | none => simp [Value.field]
  | some block =>
    cases htype : block.get? "type" with
    | none => simp [htype]
    | some value => simp [htype]

lemma singboxTransport_iff (o : ProxyOutbound) (h : o.HasStream) (kind : TransportKind) :
    o.singboxTransport = .string kind.tag ↔ o.AsksTransport kind ∧ o.HasOptions kind := by
  cases o with
  | trojan t =>
    rw [singboxTransport_eq (transportBlock t.network t.wsOpts none t.grpcOpts) (by
      simp [ProxyOutbound.singbox, trojanToSingbox, attachTransport_eq, json])]
    exact transportBlock_type_iff _ _ _ _ kind
  | vmess v =>
    rw [singboxTransport_eq (transportBlock v.network v.wsOpts v.h2Opts v.grpcOpts) (by
      simp [ProxyOutbound.singbox, vmessToSingbox, attachTransport_eq, json])]
    exact transportBlock_type_iff _ _ _ _ kind
  | vless v =>
    rw [singboxTransport_eq (transportBlock v.network v.wsOpts v.h2Opts v.grpcOpts) (by
      simp [ProxyOutbound.singbox, vlessToSingbox, attachTransport_eq, json])]
    exact transportBlock_type_iff _ _ _ _ kind
  | _ => exact h.elim

lemma networkNormalised_eq_tag_iff (name : String) (kind : TransportKind) :
    networkNormalised name = kind.tag ↔ name ∈ kind.aliases := by
  unfold networkNormalised
  split <;> cases kind <;> simp_all [TransportKind.aliases, TransportKind.tag]

/-- The network an outbound without a network string runs over is of no kind. -/
lemma getD_tcp_mem_aliases_iff (network : Option String) (kind : TransportKind) :
    network.getD "tcp" ∈ kind.aliases ↔ ∃ name ∈ kind.aliases, network = some name := by
  cases network with
  | none => cases kind <;> simp [TransportKind.aliases]
  | some name => simp

lemma xrayNetwork_iff (o : ProxyOutbound) (h : o.HasStream) (kind : TransportKind) :
    o.xrayNetwork = .string kind.tag ↔ o.AsksTransport kind := by
  rw [h.xrayNetwork_eq, Value.string.injEq, networkNormalised_eq_tag_iff,
    getD_tcp_mem_aliases_iff]
  rfl

/-- The two cores run an outbound over the same transport, unless it names a transport whose
options it does not have. -/
theorem transportAgrees_iff (o : ProxyOutbound) (h : o.HasStream) :
    o.TransportAgrees ↔ ∀ kind, o.AsksTransport kind → o.HasOptions kind := by
  unfold TransportAgrees
  apply forall_congr'
  intro kind
  rw [singboxTransport_iff o h, xrayNetwork_iff o h]
  apply Iff.intro
  · intro hagrees hasks
    exact (hagrees.mpr hasks).2
  · intro hoptions
    apply Iff.intro
    · exact And.left
    · intro hasks
      exact ⟨hasks, hoptions hasks⟩

theorem transportAgrees_sampleVless :
    (vless sampleVless).HasStream ∧ (vless sampleVless).TransportAgrees := by
  apply And.intro trivial
  apply (transportAgrees_iff (vless sampleVless) trivial).mpr
  intro kind hasks
  cases kind with
  | ws => rfl
  | grpc => simp [AsksTransport, TransportKind.aliases, ProxyOutbound.network, sampleVless] at hasks
  | http => simp [AsksTransport, TransportKind.aliases, ProxyOutbound.network, sampleVless] at hasks

/-- A websocket without options: sing-box runs this outbound over plain TCP. -/
def websocketWithoutOptions : OutboundVless :=
  { sampleVless with wsOpts := none }

theorem not_transportAgrees_websocketWithoutOptions :
    ¬ (vless websocketWithoutOptions).TransportAgrees := by
  intro h
  have hxray : (vless websocketWithoutOptions).xrayNetwork = .string TransportKind.ws.tag :=
    (xrayNetwork_iff (vless websocketWithoutOptions) trivial .ws).mpr
      ⟨"ws", by simp [TransportKind.aliases], rfl⟩
  have hsingbox := (h .ws).mpr hxray
  rw [singboxTransport_iff (vless websocketWithoutOptions) trivial .ws] at hsingbox
  cases hsingbox.2

end Pingling.ProxyDto
