import Pingling.Domain.Types

/-!
# The contract of a VPN core

A core is started, stopped and killed, and says how its connection stands; `restart` is
written once, over these. Two cores that keep a relation between their states through
`start`, `stop` and `kill` answer every sequence of calls alike.
-/

namespace Pingling.Domain

abbrev VpnResult := Except VpnError Unit

/-- The lifecycle of a core whose states are `σ`. -/
structure VpnCore (σ : Type) where
  start : String → σ → VpnResult × σ
  stop : σ → VpnResult × σ
  kill : σ → VpnResult × σ
  status : σ → ConnectionState

/-- A call of a core. -/
inductive CoreCall where
  | start (configPath : String)
  | stop
  | kill
  | restart (configPath : String)
  deriving DecidableEq

namespace VpnCore

variable {σ τ : Type}

/-- Stop, unless the core is inactive, and then start. -/
def restart (core : VpnCore σ) (configPath : String) (s : σ) : VpnResult × σ :=
  if (core.status s).isActive then
    match core.stop s with
    | (.error e, s) => (.error e, s)
    | (.ok (), s) => core.start configPath s
  else core.start configPath s

def perform (core : VpnCore σ) : CoreCall → σ → VpnResult × σ
  | .start configPath => core.start configPath
  | .stop => core.stop
  | .kill => core.kill
  | .restart configPath => core.restart configPath

/-- The results of a sequence of calls, and the state after them. -/
def serve (core : VpnCore σ) : List CoreCall → σ → List VpnResult × σ
  | [], s => ([], s)
  | call :: calls, s =>
    let (result, s) := core.perform call s
    let (results, s) := core.serve calls s
    (result :: results, s)

@[simp] lemma serve_nil (core : VpnCore σ) (s : σ) : core.serve [] s = ([], s) := rfl

lemma serve_concat (core : VpnCore σ) (calls : List CoreCall) (call : CoreCall) (s : σ) :
    core.serve (calls ++ [call]) s =
      ((core.serve calls s).1 ++ [(core.perform call (core.serve calls s).2).1],
        (core.perform call (core.serve calls s).2).2) := by
  induction calls generalizing s with
  | nil => rfl
  | cons c calls ih => simp only [List.cons_append, serve, ih]

/-- A relation between the states of two cores that agree on their status, and that `start`,
`stop` and `kill` keep while giving equal results. -/
structure Simulates (core : VpnCore σ) (other : VpnCore τ) (R : σ → τ → Prop) : Prop where
  status : ∀ s t, R s t → core.status s = other.status t
  start : ∀ configPath s t, R s t →
    (core.start configPath s).1 = (other.start configPath t).1 ∧
      R (core.start configPath s).2 (other.start configPath t).2
  stop : ∀ s t, R s t →
    (core.stop s).1 = (other.stop t).1 ∧ R (core.stop s).2 (other.stop t).2
  kill : ∀ s t, R s t →
    (core.kill s).1 = (other.kill t).1 ∧ R (core.kill s).2 (other.kill t).2

section

variable {core : VpnCore σ} {other : VpnCore τ} {R : σ → τ → Prop}

lemma Simulates.restart (h : core.Simulates other R) (configPath : String) {s : σ} {t : τ}
    (hR : R s t) :
    (core.restart configPath s).1 = (other.restart configPath t).1 ∧
      R (core.restart configPath s).2 (other.restart configPath t).2 := by
  unfold VpnCore.restart
  rw [h.status s t hR]
  by_cases hactive : (other.status t).isActive = true
  · rw [if_pos hactive, if_pos hactive]
    obtain ⟨hresult, hstop⟩ := h.stop s t hR
    cases hs : core.stop s with
    | mk result s' =>
      cases ht : other.stop t with
      | mk result' t' =>
        rw [hs, ht] at hresult hstop
        simp only at hresult hstop
        rw [hresult]
        cases result' with
        | error e => exact ⟨rfl, hstop⟩
        | ok => exact h.start configPath s' t' hstop
  · rw [if_neg hactive, if_neg hactive]
    exact h.start configPath s t hR

lemma Simulates.perform (h : core.Simulates other R) (call : CoreCall) {s : σ} {t : τ}
    (hR : R s t) :
    (core.perform call s).1 = (other.perform call t).1 ∧
      R (core.perform call s).2 (other.perform call t).2 := by
  cases call with
  | start configPath => exact h.start configPath s t hR
  | stop => exact h.stop s t hR
  | kill => exact h.kill s t hR
  | restart configPath => exact h.restart configPath hR

/-- Cores in related states give the same results on every sequence of calls. -/
theorem Simulates.serve (h : core.Simulates other R) (calls : List CoreCall) {s : σ} {t : τ}
    (hR : R s t) :
    (core.serve calls s).1 = (other.serve calls t).1 ∧
      R (core.serve calls s).2 (other.serve calls t).2 := by
  induction calls generalizing s t with
  | nil => exact ⟨rfl, hR⟩
  | cons call calls ih =>
    obtain ⟨hresult, hnext⟩ := h.perform call hR
    obtain ⟨hresults, hlast⟩ := ih hnext
    simp only [VpnCore.serve]
    exact ⟨by rw [hresult, hresults], hlast⟩

end
end VpnCore

end Pingling.Domain
