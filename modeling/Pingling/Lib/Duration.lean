import Mathlib

/-!
# Durations

A duration is a count of seconds in 64 bits and a rest of nanoseconds below one second. The
operations are those on the two parts; `toNanos` says what they come to.
-/

namespace Lib

def checkedMul (a b : UInt64) : Option UInt64 :=
  if a.toNat * b.toNat < 2 ^ 64 then some (a * b) else none

def checkedAdd (a b : UInt64) : Option UInt64 :=
  if a.toNat + b.toNat < 2 ^ 64 then some (a + b) else none

/-- A subtraction that gives nothing where it would underflow. -/
def checkedSub (a b : UInt32) : Option UInt32 :=
  if b ≤ a then some (a - b) else none

/-- A shift by the width of the word or more is refused. -/
def checkedShl (a b : UInt32) : Option UInt32 :=
  if b.toNat < 32 then some (a <<< b) else none

lemma checkedMul_eq_some {a b c : UInt64} :
    checkedMul a b = some c ↔ a.toNat * b.toNat < 2 ^ 64 ∧ c.toNat = a.toNat * b.toNat := by
  unfold checkedMul
  split_ifs with h
  · rw [Option.some.injEq, ← UInt64.toNat_inj, UInt64.toNat_mul, Nat.mod_eq_of_lt h]
    exact ⟨fun heq => ⟨h, heq.symm⟩, fun heq => heq.2.symm⟩
  · simp only [h, false_and]

lemma checkedMul_eq_none {a b : UInt64} :
    checkedMul a b = none ↔ 2 ^ 64 ≤ a.toNat * b.toNat := by
  rw [checkedMul, ite_eq_right_iff, ← Nat.not_lt]
  simp

lemma checkedAdd_eq_some {a b c : UInt64} :
    checkedAdd a b = some c ↔ a.toNat + b.toNat < 2 ^ 64 ∧ c.toNat = a.toNat + b.toNat := by
  unfold checkedAdd
  split_ifs with h
  · rw [Option.some.injEq, ← UInt64.toNat_inj, UInt64.toNat_add, Nat.mod_eq_of_lt h]
    exact ⟨fun heq => ⟨h, heq.symm⟩, fun heq => heq.2.symm⟩
  · simp only [h, false_and]

lemma checkedAdd_eq_none {a b : UInt64} :
    checkedAdd a b = none ↔ 2 ^ 64 ≤ a.toNat + b.toNat := by
  rw [checkedAdd, ite_eq_right_iff, ← Nat.not_lt]
  simp

lemma checkedSub_of_le {a b : UInt32} (h : b.toNat ≤ a.toNat) :
    ∃ c, checkedSub a b = some c ∧ c.toNat = a.toNat - b.toNat := by
  have hle : b ≤ a := UInt32.le_iff_toNat_le.mpr h
  refine ⟨a - b, if_pos hle, ?_⟩
  exact UInt32.toNat_sub_of_le a b hle

lemma checkedShl_one {b : UInt32} (h : b.toNat < 32) :
    ∃ c, checkedShl 1 b = some c ∧ c.toNat = 2 ^ b.toNat := by
  refine ⟨1 <<< b, if_pos h, ?_⟩
  have hlt : 2 ^ b.toNat < 2 ^ 32 := Nat.pow_lt_pow_right (by omega) h
  rw [UInt32.toNat_shiftLeft, Nat.mod_eq_of_lt h, UInt32.toNat_one, Nat.one_shiftLeft,
    Nat.mod_eq_of_lt hlt]

structure Duration where
  secs : UInt64
  nanos : UInt32
  valid : nanos.toNat < 1000000000
  deriving DecidableEq

namespace Duration

def zero : Duration :=
  ⟨0, 0, by decide⟩

def toNanos (d : Duration) : ℕ :=
  d.secs.toNat * 1000000000 + d.nanos.toNat

lemma toNanos_inj {d e : Duration} : d.toNanos = e.toNanos ↔ d = e := by
  constructor
  · intro h
    obtain ⟨secs, nanos, hvalid⟩ := d
    obtain ⟨secs', nanos', hvalid'⟩ := e
    simp only [toNanos] at h
    have hsecs : secs = secs' := UInt64.toNat_inj.mp (by omega)
    have hnanos : nanos = nanos' := UInt32.toNat_inj.mp (by omega)
    subst hsecs hnanos
    rfl
  · rintro rfl
    rfl

lemma toNanos_lt (d : Duration) : d.toNanos < 2 ^ 64 * 1000000000 := by
  have hsecs := d.secs.toNat_lt
  have hnanos := d.valid
  unfold toNanos
  omega

/-- The seconds decide, and then the nanoseconds. -/
instance : LT Duration :=
  ⟨fun d e => d.secs < e.secs ∨ d.secs = e.secs ∧ d.nanos < e.nanos⟩

instance (d e : Duration) : Decidable (d < e) :=
  inferInstanceAs (Decidable (d.secs < e.secs ∨ d.secs = e.secs ∧ d.nanos < e.nanos))

instance : Min Duration :=
  ⟨fun d e => if e < d then e else d⟩

lemma lt_iff {d e : Duration} : d < e ↔ d.toNanos < e.toNanos := by
  change d.secs < e.secs ∨ d.secs = e.secs ∧ d.nanos < e.nanos ↔ _
  have hd := d.valid
  have he := e.valid
  rw [UInt64.lt_iff_toNat_lt, ← UInt64.toNat_inj, UInt32.lt_iff_toNat_lt]
  unfold toNanos
  omega

lemma toNanos_min (d e : Duration) : (min d e).toNanos = min d.toNanos e.toNanos := by
  change (if e < d then e else d).toNanos = _
  split_ifs with h
  · have hlt := lt_iff.mp h
    omega
  · have hle := mt lt_iff.mpr h
    omega

/-- The product, unless the seconds overflow. -/
def checkedMul (d : Duration) (r : UInt32) : Option Duration :=
  let total := d.nanos.toUInt64 * r.toUInt64
  let extra := total / 1000000000
  let nanos := (total % 1000000000).toUInt32
  match Lib.checkedMul d.secs r.toUInt64 with
  | none => none
  | some s =>
    match checkedAdd s extra with
    | none => none
    | some secs => some ⟨secs, nanos, by
        have hlt : (total % 1000000000).toNat < 1000000000 := by
          rw [UInt64.toNat_mod]
          exact Nat.mod_lt _ (by decide)
        rw [UInt64.toNat_toUInt32]
        exact (Nat.mod_le _ _).trans_lt hlt⟩

/-- The nanoseconds of a product fit into a word. -/
lemma toNat_nanos_mul (d : Duration) (r : UInt32) :
    (d.nanos.toUInt64 * r.toUInt64).toNat = d.nanos.toNat * r.toNat := by
  have hnanos := d.valid
  have hr := r.toNat_lt
  have hlt : d.nanos.toNat * r.toNat < 2 ^ 64 := by
    calc d.nanos.toNat * r.toNat
        ≤ 1000000000 * 2 ^ 32 := Nat.mul_le_mul hnanos.le hr.le
      _ < 2 ^ 64 := by decide
  rw [UInt64.toNat_mul, UInt32.toNat_toUInt64, UInt32.toNat_toUInt64, Nat.mod_eq_of_lt hlt]

/-- The product is exact where there is one, and it is missing only where it is too long. -/
theorem checkedMul_spec (d : Duration) (r : UInt32) :
    match d.checkedMul r with
    | some e => e.toNanos = d.toNanos * r.toNat
    | none => 2 ^ 64 * 1000000000 ≤ d.toNanos * r.toNat := by
  have htotal := toNat_nanos_mul d r
  have hextra : (d.nanos.toUInt64 * r.toUInt64 / 1000000000).toNat =
      d.nanos.toNat * r.toNat / 1000000000 := by
    rw [UInt64.toNat_div, htotal]
    rfl
  have hexact : d.toNanos * r.toNat =
      d.secs.toNat * r.toNat * 1000000000 + d.nanos.toNat * r.toNat := by
    unfold toNanos
    ring
  rw [hexact]
  unfold checkedMul
  dsimp only
  cases hsecs : Lib.checkedMul d.secs r.toUInt64 with
  | none =>
    have hover := checkedMul_eq_none.mp hsecs
    rw [UInt32.toNat_toUInt64] at hover
    dsimp only
    omega
  | some s =>
    obtain ⟨hlt, hs⟩ := checkedMul_eq_some.mp hsecs
    rw [UInt32.toNat_toUInt64] at hlt hs
    dsimp only
    cases hadd : checkedAdd s (d.nanos.toUInt64 * r.toUInt64 / 1000000000) with
    | none =>
      have hover := checkedAdd_eq_none.mp hadd
      rw [hextra] at hover
      dsimp only
      omega
    | some secs =>
      obtain ⟨-, hsecs⟩ := checkedAdd_eq_some.mp hadd
      rw [hextra] at hsecs
      have hnanos : ((d.nanos.toUInt64 * r.toUInt64) % 1000000000).toUInt32.toNat =
          d.nanos.toNat * r.toNat % 1000000000 := by
        rw [UInt64.toNat_toUInt32, UInt64.toNat_mod, htotal]
        have hlt : d.nanos.toNat * r.toNat % 1000000000 < 1000000000 := Nat.mod_lt _ (by decide)
        exact Nat.mod_eq_of_lt (hlt.trans (by decide))
      simp only [toNanos, hnanos, hsecs, hs]
      omega

/-- The whole milliseconds, in a wider word. -/
def asMillis (d : Duration) : ℕ :=
  d.secs.toNat * 1000 + d.nanos.toNat / 1000000

lemma toNat_millis_rest (ms : UInt64) :
    ((ms % 1000) * 1000000).toUInt32.toNat = ms.toNat % 1000 * 1000000 := by
  have hlt : ms.toNat % 1000 < 1000 := Nat.mod_lt _ (by decide)
  have hmod : (ms % 1000).toNat = ms.toNat % 1000 := by
    rw [UInt64.toNat_mod]
    rfl
  have hmillion : (1000000 : UInt64).toNat = 1000000 := rfl
  rw [UInt64.toNat_toUInt32, UInt64.toNat_mul, hmod, hmillion]
  omega

def fromMillis (ms : UInt64) : Duration :=
  ⟨ms / 1000, ((ms % 1000) * 1000000).toUInt32, by rw [toNat_millis_rest]; omega⟩

lemma asMillis_eq (d : Duration) : d.asMillis = d.toNanos / 1000000 := by
  unfold asMillis toNanos
  omega

lemma toNanos_fromMillis (ms : UInt64) : (fromMillis ms).toNanos = ms.toNat * 1000000 := by
  have hsecs : (ms / 1000).toNat = ms.toNat / 1000 := by
    rw [UInt64.toNat_div]
    rfl
  have hnanos := toNat_millis_rest ms
  simp only [toNanos, fromMillis, hsecs, hnanos]
  omega

end Duration

end Lib
