import Pingling.Lib.Hex
import Pingling.Lib.Steps

/-!
# Invocation ids

An id is made of a number that a call draws from a counter and of the reading of a clock that it
takes afterwards. The clock may stand still, jump or fail, and other calls may come in between:
the ids of two calls differ as long as the counter has not come round.
-/

namespace Pingling.HostRuntime
open Lib

/-- The id of a call that has drawn `n`. `nanos` is the time since the epoch, if the clock is
not before it. -/
def newInvocationId (n : UInt64) (nanos : Option ℕ) : String :=
  let seed := (nanos.map UInt64.ofNat).getD 0
  String.ofList (Hex.write (seed + n).toNat ++ '-' :: Hex.write n.toNat)

/-- How far a call has come. -/
inductive IdCall where
  | start
  | counted (n : UInt64)
  | returned (id : String)
  deriving DecidableEq

/-- The counter and the calls. -/
structure IdSystem (κ : Type) where
  counter : UInt64
  calls : κ → IdCall

inductive IdStep (κ : Type) where
  | fetchAdd (call : κ)
  | readClock (call : κ) (nanos : Option ℕ)

variable {κ : Type} [DecidableEq κ]

namespace IdSystem

def init : IdSystem κ :=
  ⟨0, fun _ => .start⟩

def step : IdStep κ → IdSystem κ → Option (IdSystem κ)
  | .fetchAdd call, s =>
    if s.calls call = .start then
      some ⟨s.counter + 1, Function.update s.calls call (.counted s.counter)⟩
    else none
  | .readClock call nanos, s =>
    match s.calls call with
    | .counted n =>
      some { s with calls := Function.update s.calls call (.returned (newInvocationId n nanos)) }
    | _ => none

abbrev run (steps : List (IdStep κ)) : Option (IdSystem κ) :=
  runSteps step steps init

end IdSystem

/-- The calls that have drawn a number, in this order. -/
def drawn (steps : List (IdStep κ)) : List κ :=
  steps.filterMap fun
    | .fetchAdd call => some call
    | .readClock _ _ => none

/-- An id keeps the number that was drawn. -/
lemma newInvocationId_inj {n n' : UInt64} {nanos nanos' : Option ℕ}
    (h : newInvocationId n nanos = newInvocationId n' nanos') : n = n' := by
  have hlists := String.ofList_injective h
  have hparts := (List.append_cons_inj_of_notMem (Hex.dash_notMem_write _)
    (Hex.dash_notMem_write _)).mp hlists
  exact UInt64.toNat_inj.mp (Hex.write_injective hparts.2.2)

/-- The call has drawn the number. -/
def IdCall.Has (n : UInt64) : IdCall → Prop
  | .start => False
  | .counted m => m = n
  | .returned id => ∃ nanos, id = newInvocationId n nanos

/-- What the steps taken say about the counter and the calls. -/
structure Numbered (steps : List (IdStep κ)) (s : IdSystem κ) : Prop where
  counter : s.counter = UInt64.ofNat (drawn steps).length
  nodup : (drawn steps).Nodup
  start : ∀ call, call ∉ drawn steps → s.calls call = .start
  has : ∀ call ∈ drawn steps, (s.calls call).Has (UInt64.ofNat ((drawn steps).idxOf call))

namespace IdSystem

variable {s t : IdSystem κ} {steps : List (IdStep κ)}

lemma step_readClock {call : κ} {nanos : Option ℕ} (h : step (.readClock call nanos) s = some t) :
    ∃ n, s.calls call = .counted n ∧ t = { s with
      calls := Function.update s.calls call (.returned (newInvocationId n nanos)) } := by
  rw [step] at h
  cases hcall : s.calls call with
  | counted n =>
    rw [hcall] at h
    exact ⟨n, rfl, (Option.some.inj h).symm⟩
  | start =>
    rw [hcall] at h
    cases h
  | returned id =>
    rw [hcall] at h
    cases h

lemma numbered_fetchAdd (h : Numbered steps s) {call : κ} (hstart : s.calls call = .start) :
    Numbered (steps ++ [.fetchAdd call])
      ⟨s.counter + 1, Function.update s.calls call (.counted s.counter)⟩ := by
  have hnew : call ∉ drawn steps := by
    intro hmem
    have hhas := h.has call hmem
    rw [hstart] at hhas
    exact hhas
  have hdrawn : drawn (steps ++ [.fetchAdd call]) = drawn steps ++ [call] :=
    List.filterMap_append
  constructor
  · rw [hdrawn, List.length_append, List.length_singleton, h.counter]
    exact (UInt64.ofNat_add _ _).symm
  · rw [hdrawn]
    exact List.nodup_append'.mpr ⟨h.nodup, List.nodup_singleton call, by simpa using hnew⟩
  · intro other hother
    rw [hdrawn, List.mem_append, List.mem_singleton, not_or] at hother
    exact (Function.update_of_ne hother.2 _ _).trans (h.start other hother.1)
  · intro other hother
    rw [hdrawn] at hother ⊢
    by_cases hsame : other = call
    · have hindex : (drawn steps ++ [call]).idxOf call = (drawn steps).length := by
        rw [List.idxOf_append_of_notMem hnew]
        simp
      rw [hsame, hindex, ← h.counter]
      simp [IdCall.Has]
    · have hmem : other ∈ drawn steps := by simpa [hsame] using hother
      rw [List.idxOf_append_of_mem hmem]
      simpa [Function.update_of_ne hsame] using h.has other hmem

lemma numbered_readClock (h : Numbered steps s) {call : κ} {nanos : Option ℕ} {n : UInt64}
    (hcounted : s.calls call = .counted n) :
    Numbered (steps ++ [.readClock call nanos]) { s with
      calls := Function.update s.calls call (.returned (newInvocationId n nanos)) } := by
  have hdrawn : drawn (steps ++ [.readClock call nanos]) = drawn steps :=
    List.filterMap_append.trans (List.append_nil _)
  have hmem : call ∈ drawn steps := by
    by_contra hnot
    have hstart := h.start call hnot
    rw [hcounted] at hstart
    cases hstart
  have hnumber : n = UInt64.ofNat ((drawn steps).idxOf call) := by
    have hhas := h.has call hmem
    rw [hcounted] at hhas
    exact hhas
  constructor
  · rw [hdrawn]
    exact h.counter
  · rw [hdrawn]
    exact h.nodup
  · intro other hother
    rw [hdrawn] at hother
    have hne : other ≠ call := fun heq => hother (heq ▸ hmem)
    exact (Function.update_of_ne hne _ _).trans (h.start other hother)
  · intro other hother
    rw [hdrawn] at hother ⊢
    by_cases hsame : other = call
    · rw [hsame, ← hnumber]
      simp only [Function.update_self]
      exact ⟨nanos, rfl⟩
    · simpa [Function.update_of_ne hsame] using h.has other hother

lemma numbered_of_run (h : run steps = some s) : Numbered steps s := by
  refine runSteps_invariant ?_ ?_ h
  · exact ⟨rfl, List.nodup_nil, fun _ _ => rfl, nofun⟩
  · intro as a m m' _ hm ha
    cases a with
    | fetchAdd call =>
      rw [step, Option.ite_none_right_eq_some, Option.some.injEq] at ha
      obtain ⟨hstart, rfl⟩ := ha
      exact numbered_fetchAdd hm hstart
    | readClock call nanos =>
      obtain ⟨n, hcounted, rfl⟩ := step_readClock ha
      exact numbered_readClock hm hcounted

/-- A call that has returned an id has drawn the number in it. -/
lemma returned_of_numbered (h : Numbered steps s) {call : κ} {id : String}
    (hid : s.calls call = .returned id) : call ∈ drawn steps ∧
      ∃ nanos, id = newInvocationId (UInt64.ofNat ((drawn steps).idxOf call)) nanos := by
  have hmem : call ∈ drawn steps := by
    by_contra hnot
    have hstart := h.start call hnot
    rw [hid] at hstart
    cases hstart
  have hhas := h.has call hmem
  rw [hid] at hhas
  exact ⟨hmem, hhas⟩

/-- In every interleaving, and whatever the clock says, two calls return different ids unless the
counter has come round. -/
theorem ids_distinct (h : run steps = some s) (hfew : (drawn steps).length ≤ 2 ^ 64)
    {call call' : κ} (hne : call ≠ call') {id id' : String} (hid : s.calls call = .returned id)
    (hid' : s.calls call' = .returned id') : id ≠ id' := by
  have hnumbered := numbered_of_run h
  obtain ⟨hmem, nanos, hnumber⟩ := returned_of_numbered hnumbered hid
  obtain ⟨hmem', nanos', hnumber'⟩ := returned_of_numbered hnumbered hid'
  rintro rfl
  have hsame := newInvocationId_inj (hnumber.symm.trans hnumber')
  have hlt := List.idxOf_lt_length_of_mem hmem
  have hlt' := List.idxOf_lt_length_of_mem hmem'
  have hsize : UInt64.size = 2 ^ 64 := rfl
  have hindex : (drawn steps).idxOf call = (drawn steps).idxOf call' := by
    have hnat := congrArg UInt64.toNat hsame
    rw [UInt64.toNat_ofNat_of_lt' (by omega), UInt64.toNat_ofNat_of_lt' (by omega)] at hnat
    exact hnat
  exact hne ((List.idxOf_inj hmem).mp hindex)

/-- Two calls with the same reading of the clock, the second of which draws its number first. -/
def standingClock : List (IdStep ℕ) :=
  [.fetchAdd 1, .fetchAdd 0, .readClock 0 (some 7), .readClock 1 (some 7)]

theorem ids_distinct_standingClock : ∃ (s : IdSystem ℕ) (id id' : String),
    run standingClock = some s ∧ s.calls 0 = .returned id ∧ s.calls 1 = .returned id' ∧
      id ≠ id' := by
  have hfew : (drawn standingClock).length ≤ 2 ^ 64 := by decide
  have hne : (0 : ℕ) ≠ 1 := by decide
  exact ⟨_, _, _, rfl, rfl, rfl, ids_distinct rfl hfew hne rfl rfl⟩

end IdSystem
end Pingling.HostRuntime
