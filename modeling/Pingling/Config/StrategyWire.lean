import Pingling.Lib.WireRecord
import Pingling.Config.Strategy

/-!
# Strategy plans as JSON

Durations travel as whole milliseconds in a word of 64 bits. Everything else in a plan
travels as it is.
-/

namespace Pingling.Config
open Lib Wire

/-- What is left of a duration: its whole milliseconds, modulo the word. -/
def keptDuration (d : Duration) : Duration :=
  .fromMillis (UInt64.ofNat d.asMillis)

section

variable {V : Type} [WireFormat V]

instance : Wire V Duration where
  write d := write (UInt64.ofNat d.asMillis)
  read v := (read v : Option UInt64).map Duration.fromMillis

instance : NonNullWire V Duration :=
  ⟨fun d => NonNullWire.isNull_write (UInt64.ofNat d.asMillis)⟩

lemma read_write_duration (d : Duration) :
    (read (write d : V) : Option Duration) = some (keptDuration d) := by
  change ((read (write (UInt64.ofNat d.asMillis) : V) : Option UInt64).map
    Duration.fromMillis) = _
  rw [LosslessWire.read_write]
  rfl

end

lemma toNanos_keptDuration (d : Duration) :
    (keptDuration d).toNanos = d.asMillis % 2 ^ 64 * 1000000 := by
  rw [keptDuration, Duration.toNanos_fromMillis, UInt64.toNat_ofNat']

/-- A duration is kept when it is so many whole milliseconds as fit into the word. -/
lemma keptDuration_eq_self {d : Duration} :
    keptDuration d = d ↔ ∃ ms, ms < 2 ^ 64 ∧ d.toNanos = ms * 1000000 := by
  rw [← Duration.toNanos_inj, toNanos_keptDuration, Duration.asMillis_eq]
  constructor
  · intro h
    exact ⟨d.toNanos / 1000000 % 2 ^ 64, Nat.mod_lt _ (by decide), h.symm⟩
  · rintro ⟨ms, hlt, h⟩
    rw [h, Nat.mul_div_cancel _ (by decide), Nat.mod_eq_of_lt hlt]

lemma keptDuration_idem (d : Duration) : keptDuration (keptDuration d) = keptDuration d :=
  keptDuration_eq_self.mpr
    ⟨d.asMillis % 2 ^ 64, Nat.mod_lt _ (by decide), toNanos_keptDuration d⟩

instance : WireEnum StackType where
  name stack :=
    match stack with
    | .system => "system"
    | .gVisor => "g_visor"
    | .mixed => "mixed"
  ofName? name :=
    match name with
    | "system" => some .system
    | "g_visor" => some .gVisor
    | "mixed" => some .mixed
    | _ => none
  ofName?_name stack := by cases stack <;> rfl

instance : WireEnum ResolverType where
  name resolver :=
    match resolver with
    | .doh => "doh"
    | .tcp => "tcp"
    | .udp => "udp"
    | .system => "system"
  ofName? name :=
    match name with
    | "doh" => some .doh
    | "tcp" => some .tcp
    | "udp" => some .udp
    | "system" => some .system
    | _ => none
  ofName?_name resolver := by cases resolver <;> rfl

def RetryPolicy.mapDurations (f : Duration → Duration) : RetryPolicy → RetryPolicy
  | .noRetry => .noRetry
  | .fixed maxAttempts delay => .fixed maxAttempts (f delay)
  | .exponential maxAttempts initialDelay maxDelay =>
    .exponential maxAttempts (f initialDelay) (f maxDelay)

def RetryPolicy.kind : RetryPolicy → String
  | .noRetry => "no_retry"
  | .fixed _ _ => "fixed"
  | .exponential _ _ _ => "exponential"

def RetryPolicy.fields : RetryPolicy → List (String × Option Value)
  | .noRetry => []
  | .fixed maxAttempts delay => [
    ("max_attempts", some (write maxAttempts)),
    ("delay", some (write delay))]
  | .exponential maxAttempts initialDelay maxDelay => [
    ("max_attempts", some (write maxAttempts)),
    ("initial_delay", some (write initialDelay)),
    ("max_delay", some (write maxDelay))]

/-- The policy of the tagged kind. -/
def RetryPolicy.ofFields (kind : String) (get : String → Option Value) : Option RetryPolicy :=
  match kind with
  | "no_retry" => some .noRetry
  | "fixed" => do
    let maxAttempts ← required (get "max_attempts")
    let delay ← required (get "delay")
    some (.fixed maxAttempts delay)
  | "exponential" => do
    let maxAttempts ← required (get "max_attempts")
    let initialDelay ← required (get "initial_delay")
    let maxDelay ← required (get "max_delay")
    some (.exponential maxAttempts initialDelay maxDelay)
  | _ => none

instance : WireRecord Value RetryPolicy where
  fields policy := ("kind", some (write policy.kind)) :: policy.fields
  keys_nodup policy := by cases policy <;> simp [RetryPolicy.fields]
  build get := do
    let kind ← required (get "kind")
    RetryPolicy.ofFields kind (besideTag "kind" get)

lemma RetryPolicy.ofFields_fields (policy : RetryPolicy) :
    ofFields policy.kind (fieldValue policy.fields) =
      some (policy.mapDurations keptDuration) := by
  cases policy with
  | noRetry => rfl
  | fixed maxAttempts delay =>
    have hdelay := required_of_read (read_write_duration (V := Value) delay)
    simp [ofFields, kind, fields, mapDurations, hdelay]
  | exponential maxAttempts initialDelay maxDelay =>
    have hinitial := required_of_read (read_write_duration (V := Value) initialDelay)
    have hmax := required_of_read (read_write_duration (V := Value) maxDelay)
    simp [ofFields, kind, fields, mapDurations, hinitial, hmax]

lemma read_write_policy (policy : RetryPolicy) :
    read (write policy : Value) = some (policy.mapDurations keptDuration) := by
  have hbeside : besideTag "kind" (fieldValue (WireRecord.fields policy)) =
      fieldValue policy.fields := besideTag_fieldValue (WireRecord.keys_nodup policy)
  have hkind : fieldValue (WireRecord.fields policy) "kind" =
      some (write policy.kind : Value) := by
    simp [WireRecord.fields]
  rw [read_write_record]
  change (do
    let kind ← required (fieldValue (WireRecord.fields policy) "kind")
    RetryPolicy.ofFields kind (besideTag "kind" (fieldValue (WireRecord.fields policy)))) = _
  rw [hkind, hbeside, required_write]
  exact policy.ofFields_fields

def ConnectionStrategy.mapDurations (f : Duration → Duration) (strategy : ConnectionStrategy) :
    ConnectionStrategy :=
  { strategy with
    totalTimeout := f strategy.totalTimeout
    retry := strategy.retry.mapDurations f }

instance : WireRecord Value ConnectionStrategy where
  fields strategy := [
    ("id", some (write strategy.id)),
    ("stack", some (write strategy.stack)),
    ("resolver_type", some (write strategy.resolverType)),
    ("total_timeout", some (write strategy.totalTimeout)),
    ("retry", some (write strategy.retry))]
  keys_nodup _ := by simp
  build get := do
    let id ← required (get "id")
    let stack ← required (get "stack")
    let resolverType ← required (get "resolver_type")
    let totalTimeout ← required (get "total_timeout")
    let retry ← required (get "retry")
    some ⟨id, stack, resolverType, totalTimeout, retry⟩

lemma read_write_strategy (strategy : ConnectionStrategy) :
    read (write strategy : Value) = some (strategy.mapDurations keptDuration) := by
  have htimeout := required_of_read (read_write_duration (V := Value) strategy.totalTimeout)
  have hretry := required_of_read (read_write_policy strategy.retry)
  rw [read_write_record]
  simp [WireRecord.build, WireRecord.fields, htimeout, hretry, ConnectionStrategy.mapDurations]

/-- The plan with other durations and nothing else changed. -/
def StrategyPlan.mapDurations (f : Duration → Duration) (plan : StrategyPlan) : StrategyPlan where
  strategies := plan.strategies.map (ConnectionStrategy.mapDurations f)
  globalTimeout := plan.globalTimeout.map f

/-- A plan without a global timeout is written with a null. -/
instance : WireRecord Value StrategyPlan where
  fields plan := [
    ("strategies", some (write plan.strategies)),
    ("global_timeout", some (writeOrNull plan.globalTimeout))]
  keys_nodup _ := by simp
  build get := do
    let strategies ← required (get "strategies")
    let globalTimeout ← nullable (get "global_timeout")
    some ⟨strategies, globalTimeout⟩

lemma read_write_plan (plan : StrategyPlan) :
    read (write plan : Value) = some (plan.mapDurations keptDuration) := by
  have hstrategies := required_of_read (read_write_list read_write_strategy plan.strategies)
  have hglobal := nullable_writeOrNull_of_read (V := Value) read_write_duration
    plan.globalTimeout
  rw [read_write_record]
  simp [WireRecord.build, WireRecord.fields, hstrategies, hglobal, StrategyPlan.mapDurations]

def RetryPolicy.durations : RetryPolicy → List Duration
  | .noRetry => []
  | .fixed _ delay => [delay]
  | .exponential _ initialDelay maxDelay => [initialDelay, maxDelay]

/-- Every duration of a plan. -/
def StrategyPlan.durations (plan : StrategyPlan) : List Duration :=
  plan.strategies.flatMap (fun strategy => strategy.totalTimeout :: strategy.retry.durations) ++
    plan.globalTimeout.toList

section

variable {f : Duration → Duration}

lemma RetryPolicy.mapDurations_eq_self {policy : RetryPolicy} :
    policy.mapDurations f = policy ↔ ∀ d ∈ policy.durations, f d = d := by
  cases policy <;> simp [mapDurations, durations]

lemma ConnectionStrategy.mapDurations_eq_self {strategy : ConnectionStrategy} :
    strategy.mapDurations f = strategy ↔
      ∀ d ∈ strategy.totalTimeout :: strategy.retry.durations, f d = d := by
  rw [List.forall_mem_cons, ← RetryPolicy.mapDurations_eq_self]
  obtain ⟨id, stack, resolverType, totalTimeout, retry⟩ := strategy
  simp [mapDurations]

lemma StrategyPlan.mapDurations_eq_self {plan : StrategyPlan} :
    plan.mapDurations f = plan ↔ ∀ d ∈ plan.durations, f d = d := by
  obtain ⟨strategies, globalTimeout⟩ := plan
  have hstrategies : strategies.map (ConnectionStrategy.mapDurations f) = strategies ↔
      ∀ strategy ∈ strategies, strategy.mapDurations f = strategy := by
    rw [← List.map_inj_left, List.map_id']
  have hglobal : globalTimeout.map f = globalTimeout ↔ ∀ d ∈ globalTimeout.toList, f d = d := by
    cases globalTimeout <;> simp
  simp only [mapDurations, durations, mk.injEq, hstrategies, hglobal, List.forall_mem_append,
    List.forall_mem_flatMap, ConnectionStrategy.mapDurations_eq_self]

lemma StrategyPlan.durations_mapDurations (plan : StrategyPlan) :
    (plan.mapDurations f).durations = plan.durations.map f := by
  have hpolicy : ∀ policy : RetryPolicy,
      (policy.mapDurations f).durations = policy.durations.map f := by
    intro policy
    cases policy <;> rfl
  have hglobal : (plan.globalTimeout.map f).toList = plan.globalTimeout.toList.map f := by
    cases plan.globalTimeout <;> rfl
  simp only [durations, mapDurations, hglobal, List.map_append, List.map_flatMap,
    List.flatMap_map, ConnectionStrategy.mapDurations, hpolicy, List.map_cons]

end

/-- What comes back of a plan is the plan with every duration cut to its whole milliseconds,
modulo the word; so a plan of whole milliseconds below 2^64 comes back as it is, no other
does, and what came back once comes back again. -/
theorem strategy_plan_round_trip (plan : StrategyPlan) :
    read (write plan : Value) = some (plan.mapDurations keptDuration) ∧
    (∀ d, (keptDuration d).toNanos = d.toNanos / 1000000 % 2 ^ 64 * 1000000) ∧
    (read (write plan : Value) = some plan ↔
      ∀ d ∈ plan.durations, ∃ ms, ms < 2 ^ 64 ∧ d.toNanos = ms * 1000000) ∧
    read (write (plan.mapDurations keptDuration) : Value) =
      some (plan.mapDurations keptDuration) := by
  have hread := read_write_plan plan
  have hkept : (plan.mapDurations keptDuration).mapDurations keptDuration =
      plan.mapDurations keptDuration := by
    rw [StrategyPlan.mapDurations_eq_self, StrategyPlan.durations_mapDurations,
      List.forall_mem_map]
    exact fun d _ => keptDuration_idem d
  refine ⟨hread, fun d => ?_, ?_, ?_⟩
  · rw [toNanos_keptDuration, Duration.asMillis_eq]
  · rw [hread, Option.some.injEq, StrategyPlan.mapDurations_eq_self]
    exact forall₂_congr fun d _ => keptDuration_eq_self
  · rw [read_write_plan, hkept]

end Pingling.Config
