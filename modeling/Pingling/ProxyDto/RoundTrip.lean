import Pingling.Lib.Untagged
import Pingling.ProxyDto.ClashYaml

/-!
# Reading the mihomo dialect back

Reading an outbound stores the whole mapping before the protocol is known, and what is
stored may not have tags. Every outbound whose plugin options have none is written without
a tag and is read back field by field.
-/

namespace Pingling.ProxyDto
open Lib Std Wire

namespace ProxyOutbound

/-- The outbound as the YAML that Clash reads. -/
def toClashYaml (o : ProxyOutbound) : YamlValue :=
  write o

/-- The outbound that a YAML value without tags is. -/
def fromClashYaml (value : YamlValue) : Option ProxyOutbound :=
  if value.untagged then read value else none

/-- The plugin options have no tags. -/
def PluginOptsUntagged (o : ProxyOutbound) : Prop :=
  ∀ s opts, o = ss s → s.pluginOpts = some opts →
    ∀ (key : String) (value : YamlValue), opts[key]? = some value → value.untagged = true

end ProxyOutbound

instance : UntaggedRecord CommonOptions := ⟨fun _ => by simp [WireRecord.fields]⟩

instance : UntaggedRecord WsOpt := ⟨fun _ => by simp [WireRecord.fields]⟩

instance : UntaggedRecord H2Opt := ⟨fun _ => by simp [WireRecord.fields]⟩

instance : UntaggedRecord GrpcOpt := ⟨fun _ => by simp [WireRecord.fields]⟩

instance : UntaggedRecord RealityOpt := ⟨fun _ => by simp [WireRecord.fields]⟩

namespace ProxyOutbound

lemma untagged_fields {o : ProxyOutbound} (h : o.PluginOptsUntagged) :
    UntaggedFields o.fields := by
  cases o with
  | ss s =>
    have hopts : UntaggedField (s.pluginOpts.map write) := by
      intro w hw
      obtain ⟨opts, hsome, rfl⟩ := Option.map_eq_some_iff.mp hw
      exact untagged_write_map (h s opts rfl hsome)
    simp [fields, WireRecord.fields, hopts]
  | direct d => simp [fields, WireRecord.fields]
  | reject r => simp [fields, WireRecord.fields]
  | socks5 s => simp [fields, WireRecord.fields]
  | trojan t => simp [fields, WireRecord.fields]
  | vmess v => simp [fields, WireRecord.fields]
  | vless v => simp [fields, WireRecord.fields]
  | wireguard w => simp [fields, WireRecord.fields]
  | tuic t => simp [fields, WireRecord.fields]
  | hysteria2 x => simp [fields, WireRecord.fields]

lemma untagged_toClashYaml {o : ProxyOutbound} (h : o.PluginOptsUntagged) :
    o.toClashYaml.untagged = true := by
  apply untagged_write_record
  apply untaggedFields_cons.mpr
  exact ⟨by simp, untagged_fields h⟩

/-- An outbound is read back from its YAML as it was. -/
theorem fromClashYaml_toClashYaml (o : ProxyOutbound) (h : o.PluginOptsUntagged) :
    fromClashYaml o.toClashYaml = some o := by
  rw [fromClashYaml, if_pos (untagged_toClashYaml h)]
  exact LosslessWire.read_write o

/-- A Shadowsocks outbound with a plugin. -/
def sampleShadowsocks : OutboundShadowsocks where
  commonOpts := ⟨"jp-osaka-1", "203.0.113.20", 8388, some "relay"⟩
  cipher := "aes-256-gcm"
  password := "secret"
  udp := false
  plugin := some "v2ray-plugin"
  pluginOpts := some ((∅ : ExtTreeMap String YamlValue).insert "mode" (.string "websocket"))

theorem fromClashYaml_sampleShadowsocks :
    fromClashYaml (toClashYaml (ss sampleShadowsocks)) = some (ss sampleShadowsocks) := by
  apply fromClashYaml_toClashYaml (ss sampleShadowsocks)
  rintro s opts hs hopts key value hvalue
  rw [← ss.inj hs] at hopts
  rw [← Option.some.inj hopts] at hvalue
  simp only [ExtTreeMap.getElem?_insert] at hvalue
  split_ifs at hvalue
  · rw [← Option.some.inj hvalue]
    simp [YamlValue.untagged]
  · simp at hvalue

end ProxyOutbound

end Pingling.ProxyDto
