import Pingling.Lib.KeyedFold
import Pingling.Lib.Lowercase
import Pingling.Lib.OsString
import Pingling.Lib.Wire

/-!
# Configuration from the environment

The loader walks along all variables of the process and overrides a field for each name it
knows. The walk reads every variable as text, and panics at the first one that is none, whether
or not it would have known its name.
-/

namespace Pingling.Shared
open Lib

structure PluginsConfig where
  pluginsDir : String
  enabled : List String
  deriving DecidableEq

@[ext] structure PinglingConfig where
  coreType : String
  coreBinaryPath : String
  coreConfigPath : String
  logLevel : String
  listenAddr : String
  pidFile : String
  tray : Bool
  autoConnect : Bool
  plugins : PluginsConfig
  deriving DecidableEq

namespace PinglingConfig

def default : PinglingConfig where
  coreType := "sing-box"
  coreBinaryPath := ""
  coreConfigPath := ""
  logLevel := "info"
  listenAddr := "127.0.0.1:8624"
  pidFile := ""
  tray := true
  autoConnect := false
  plugins := ⟨"", []⟩

end PinglingConfig

/-- Every value switches on but the empty one, `0`, and `false` in any case. -/
def parseBoolEnv (value : String) : Bool :=
  !value.isEmpty && value != "0" && !eqIgnoreAsciiCase value "false"

/-- The key and the value of a variable. -/
abbrev EnvVar := OsString × OsString

/-- The variable of a key and a value that are text. -/
def EnvVar.ofStr (t : String × String) : EnvVar :=
  (.ofString t.1, .ofString t.2)

/-- A variable as text. The iteration panics where there is none. -/
def EnvVar.toStr (v : EnvVar) : Option (String × String) := do
  let key ← OsString.toStr v.1
  let value ← OsString.toStr v.2
  some (key, value)

def EnvVar.IsText (v : EnvVar) : Prop :=
  v.1.toStr.isSome ∧ v.2.toStr.isSome

lemma EnvVar.toStr_eq_some {v : EnvVar} {t : String × String} :
    v.toStr = some t ↔ v = EnvVar.ofStr t := by
  obtain ⟨key, value⟩ := v
  obtain ⟨keyText, valueText⟩ := t
  simp [EnvVar.toStr, EnvVar.ofStr, Option.bind_eq_some_iff, OsString.toStr_eq_some]

lemma EnvVar.isText_iff {v : EnvVar} : v.IsText ↔ ∃ t, v = EnvVar.ofStr t := by
  obtain ⟨key, value⟩ := v
  simp [EnvVar.IsText, EnvVar.ofStr, Option.isSome_iff_exists, OsString.toStr_eq_some]

structure ConfigLoader where
  appName : String
  envPrefix : String
  includeSystemPaths : Bool

/-- The override of the field that the rest of a key names, if there is one. -/
def PinglingConfig.override (cfg : PinglingConfig) (rest value : String) : PinglingConfig :=
  match rest with
  | "CORE_TYPE" => { cfg with coreType := value }
  | "CORE_BINARY_PATH" => { cfg with coreBinaryPath := value }
  | "CORE_CONFIG_PATH" => { cfg with coreConfigPath := value }
  | "LOG_LEVEL" => { cfg with logLevel := value }
  | "LISTEN_ADDR" => { cfg with listenAddr := value }
  | "PID_FILE" => { cfg with pidFile := value }
  | "TRAY" => { cfg with tray := parseBoolEnv value }
  | "AUTO_CONNECT" => { cfg with autoConnect := parseBoolEnv value }
  | _ => cfg

/-- A name overrides its own field and no other. -/
lemma PinglingConfig.override_eq (cfg : PinglingConfig) (rest value : String) :
    cfg.override rest value =
      { coreType := if rest = "CORE_TYPE" then value else cfg.coreType
        coreBinaryPath := if rest = "CORE_BINARY_PATH" then value else cfg.coreBinaryPath
        coreConfigPath := if rest = "CORE_CONFIG_PATH" then value else cfg.coreConfigPath
        logLevel := if rest = "LOG_LEVEL" then value else cfg.logLevel
        listenAddr := if rest = "LISTEN_ADDR" then value else cfg.listenAddr
        pidFile := if rest = "PID_FILE" then value else cfg.pidFile
        tray := if rest = "TRAY" then parseBoolEnv value else cfg.tray
        autoConnect := if rest = "AUTO_CONNECT" then parseBoolEnv value else cfg.autoConnect
        plugins := cfg.plugins } := by
  unfold override
  split <;> simp_all

namespace ConfigLoader

def applyEnvVar (loader : ConfigLoader) (cfg : PinglingConfig) (key value : String) :
    PinglingConfig :=
  match Text.stripPrefix loader.envPrefix key with
  | some rest => cfg.override rest value
  | none => cfg

/-- The walk along the variables, if it does not panic. -/
def applyEnvOverrides (loader : ConfigLoader) : List EnvVar → PinglingConfig → Option PinglingConfig
  | [], cfg => some cfg
  | v :: env, cfg => do
    let (key, value) ← v.toStr
    applyEnvOverrides loader env (loader.applyEnvVar cfg key value)

def loadEnvOnly (loader : ConfigLoader) (env : List EnvVar) :
    Option (Except String PinglingConfig) := do
  let cfg ← loader.applyEnvOverrides env .default
  some (.ok cfg)

/-- The text of a field's variable, if it is set to one. -/
def textOf (loader : ConfigLoader) (env : List EnvVar) (name : String) : Option String :=
  (env.lookup (.ofString (loader.envPrefix ++ name))).bind OsString.toStr

/-- The defaults, but for the fields whose variables are set to some text. -/
def overridden (loader : ConfigLoader) (env : List EnvVar) : PinglingConfig where
  coreType := (loader.textOf env "CORE_TYPE").getD PinglingConfig.default.coreType
  coreBinaryPath := (loader.textOf env "CORE_BINARY_PATH").getD
    PinglingConfig.default.coreBinaryPath
  coreConfigPath := (loader.textOf env "CORE_CONFIG_PATH").getD
    PinglingConfig.default.coreConfigPath
  logLevel := (loader.textOf env "LOG_LEVEL").getD PinglingConfig.default.logLevel
  listenAddr := (loader.textOf env "LISTEN_ADDR").getD PinglingConfig.default.listenAddr
  pidFile := (loader.textOf env "PID_FILE").getD PinglingConfig.default.pidFile
  tray := ((loader.textOf env "TRAY").map parseBoolEnv).getD PinglingConfig.default.tray
  autoConnect := ((loader.textOf env "AUTO_CONNECT").map parseBoolEnv).getD
    PinglingConfig.default.autoConnect
  plugins := PinglingConfig.default.plugins

section

variable (loader : ConfigLoader)

/-- A field that one name overrides is set by the variable of that name. -/
lemma setBy_of_override {γ : Type} {get : PinglingConfig → γ} {name : String} {value : String → γ}
    (h : ∀ cfg rest v, get (PinglingConfig.override cfg rest v) =
      if rest = name then value v else get cfg) :
    SetBy loader.applyEnvVar get (loader.envPrefix ++ name) value := by
  intro cfg key v
  unfold applyEnvVar
  cases hrest : Text.stripPrefix loader.envPrefix key with
  | none =>
    have hne : key ≠ loader.envPrefix ++ name := by
      intro heq
      rw [Text.stripPrefix_eq_some.mpr heq] at hrest
      exact nomatch hrest
    rw [if_neg hne]
  | some rest =>
    have hkey : key = loader.envPrefix ++ name ↔ rest = name := by
      rw [← Text.stripPrefix_eq_some, hrest, Option.some.injEq]
    simp only [h, hkey]

lemma textOf_texts (texts : List (String × String)) (name : String) :
    loader.textOf (texts.map EnvVar.ofStr) name = texts.lookup (loader.envPrefix ++ name) := by
  unfold textOf
  induction texts with
  | nil => rfl
  | cons t texts ih =>
    obtain ⟨key, value⟩ := t
    rw [List.map_cons, EnvVar.ofStr, List.lookup_cons, List.lookup_cons]
    by_cases hkey : loader.envPrefix ++ name = key
    · simp [hkey]
    · have hne : OsString.ofString (loader.envPrefix ++ name) ≠ OsString.ofString key :=
        fun h => hkey (OsString.ofString_injective h)
      rw [beq_false_of_ne hne, beq_false_of_ne hkey]
      exact ih

/-- Overriding the fields by some texts overrides those whose variables are among them. -/
lemma assignAll_texts (texts : List (String × String)) (hnodup : (texts.map Prod.fst).Nodup) :
    assignAll loader.applyEnvVar .default texts =
      loader.overridden (texts.map EnvVar.ofStr) := by
  have hfield : ∀ {γ : Type} (get : PinglingConfig → γ) (name : String) (value : String → γ),
      (∀ cfg rest v, get (PinglingConfig.override cfg rest v) =
        if rest = name then value v else get cfg) →
      get (assignAll loader.applyEnvVar .default texts) =
        ((loader.textOf (texts.map EnvVar.ofStr) name).map value).getD (get .default) := by
    intro γ get name value h
    rw [(setBy_of_override loader h).assignAll _ _ hnodup, textOf_texts]
  have htext : ∀ (get : PinglingConfig → String) (name : String),
      (∀ cfg rest v, get (PinglingConfig.override cfg rest v) =
        if rest = name then v else get cfg) →
      get (assignAll loader.applyEnvVar .default texts) =
        (loader.textOf (texts.map EnvVar.ofStr) name).getD (get .default) := by
    intro get name h
    rw [hfield get name id h, Option.map_id_fun]
    rfl
  apply PinglingConfig.ext
  · exact htext _ "CORE_TYPE" (fun cfg rest v => by rw [cfg.override_eq])
  · exact htext _ "CORE_BINARY_PATH" (fun cfg rest v => by rw [cfg.override_eq])
  · exact htext _ "CORE_CONFIG_PATH" (fun cfg rest v => by rw [cfg.override_eq])
  · exact htext _ "LOG_LEVEL" (fun cfg rest v => by rw [cfg.override_eq])
  · exact htext _ "LISTEN_ADDR" (fun cfg rest v => by rw [cfg.override_eq])
  · exact htext _ "PID_FILE" (fun cfg rest v => by rw [cfg.override_eq])
  · exact hfield _ "TRAY" parseBoolEnv (fun cfg rest v => by rw [cfg.override_eq])
  · exact hfield _ "AUTO_CONNECT" parseBoolEnv (fun cfg rest v => by rw [cfg.override_eq])
  · have hplugins : ∀ cfg key value, (loader.applyEnvVar cfg key value).plugins = cfg.plugins := by
      intro cfg key value
      unfold applyEnvVar
      cases Text.stripPrefix loader.envPrefix key with
      | none => rfl
      | some rest =>
        dsimp only
        rw [cfg.override_eq]
    exact assignAll_untouched hplugins .default texts

lemma applyEnvOverrides_texts (texts : List (String × String)) (cfg : PinglingConfig) :
    loader.applyEnvOverrides (texts.map EnvVar.ofStr) cfg =
      some (assignAll loader.applyEnvVar cfg texts) := by
  induction texts generalizing cfg with
  | nil => rfl
  | cons t texts ih =>
    have htext : (EnvVar.ofStr t).toStr = some t := by
      simp [EnvVar.toStr, EnvVar.ofStr]
    rw [List.map_cons, applyEnvOverrides, htext]
    exact ih (loader.applyEnvVar cfg t.1 t.2)

/-- A walk that does not panic has read every variable as text. -/
lemma isText_of_applyEnvOverrides {env : List EnvVar} {cfg cfg' : PinglingConfig}
    (h : loader.applyEnvOverrides env cfg = some cfg') : ∀ v ∈ env, v.IsText := by
  induction env generalizing cfg with
  | nil => simp
  | cons v env ih =>
    rw [applyEnvOverrides, Option.bind_eq_bind, Option.bind_eq_some_iff] at h
    obtain ⟨t, ht, hrest⟩ := h
    intro v' hv'
    rcases List.mem_cons.mp hv' with rfl | hv'
    · exact EnvVar.isText_iff.mpr ⟨t, EnvVar.toStr_eq_some.mp ht⟩
    · exact ih hrest v' hv'

lemma overridden_perm {env env' : List EnvVar} (hnodup : (env.map Prod.fst).Nodup)
    (h : env'.Perm env) : loader.overridden env' = loader.overridden env := by
  unfold overridden textOf
  simp only [lookup_perm hnodup h]

end

/-- In whatever order the variables come, loading gives the defaults with the fields overridden
whose variables are text, just when every variable of the process is text. -/
theorem loadEnvOnly_iff (loader : ConfigLoader) (env : List EnvVar)
    (hnodup : (env.map Prod.fst).Nodup) :
    (∀ env', env'.Perm env → loader.loadEnvOnly env' = some (.ok (loader.overridden env))) ↔
      ∀ v ∈ env, v.IsText := by
  constructor
  · intro h
    have hload := h env (List.Perm.refl env)
    unfold loadEnvOnly at hload
    cases happly : loader.applyEnvOverrides env .default with
    | none => simp [happly] at hload
    | some cfg => exact isText_of_applyEnvOverrides loader happly
  · intro htext env' hperm
    obtain ⟨texts, rfl⟩ : ∃ texts, List.map EnvVar.ofStr texts = env' := by
      rw [← Set.mem_range, Set.range_list_map]
      intro v hv
      obtain ⟨t, rfl⟩ := EnvVar.isText_iff.mp (htext v (hperm.mem_iff.mp hv))
      exact ⟨t, rfl⟩
    have hnodup' : (texts.map Prod.fst).Nodup := by
      have hkeys := (hperm.map Prod.fst).nodup_iff.mpr hnodup
      have hmap : (texts.map EnvVar.ofStr).map Prod.fst =
          (texts.map Prod.fst).map OsString.ofString := by
        rw [List.map_map, List.map_map]
        rfl
      rw [hmap] at hkeys
      exact List.Nodup.of_map _ hkeys
    rw [loadEnvOnly, applyEnvOverrides_texts, assignAll_texts loader texts hnodup',
      overridden_perm loader hnodup hperm]
    rfl

/-- The loader of the name alone. -/
def pingling : ConfigLoader :=
  ⟨"pingling", "PINGLING_", true⟩

/-- Variables of the program, one that it does not know, and those of others. -/
def someEnv : List EnvVar :=
  [("HOME", "/root"), ("PINGLING_CORE_TYPE", "xray"), ("LANG", "C"), ("PINGLING_TRAY", "False"),
    ("PINGLING_UNKNOWN", "1"), ("PINGLING_LOG_LEVEL", "")].map EnvVar.ofStr

/-- The variables give the same configuration in two orders. -/
theorem loadEnvOnly_iff_someEnv :
    let cfg := { PinglingConfig.default with coreType := "xray", logLevel := "", tray := false }
    pingling.loadEnvOnly someEnv = some (.ok cfg) ∧
      pingling.loadEnvOnly someEnv.reverse = some (.ok cfg) := by
  intro cfg
  have htext : ∀ v ∈ someEnv, v.IsText := by
    intro v hv
    obtain ⟨t, -, rfl⟩ := List.mem_map.mp hv
    exact EnvVar.isText_iff.mpr ⟨t, rfl⟩
  have hloads := (loadEnvOnly_iff pingling someEnv (by decide)).mpr htext
  have hcfg : pingling.overridden someEnv = cfg := by decide
  rw [hcfg] at hloads
  exact ⟨hloads _ (List.Perm.refl _), hloads _ someEnv.reverse_perm⟩

/-- A variable of another program, whose value is no text, makes loading panic. -/
theorem foreign_variable_panics :
    let env : List EnvVar := [(.ofString "NOISE", [0xFF])]
    (env.map Prod.fst).Nodup ∧ pingling.overridden env = .default ∧
      pingling.loadEnvOnly env = none ∧
      ¬∀ env', env'.Perm env →
        pingling.loadEnvOnly env' = some (.ok (pingling.overridden env)) := by
  intro env
  have hpanics : pingling.loadEnvOnly env = none := by decide
  refine ⟨by decide, by decide, hpanics, fun h => ?_⟩
  have hload := h env (List.Perm.refl env)
  rw [hpanics] at hload
  exact nomatch hload

end ConfigLoader
end Pingling.Shared
