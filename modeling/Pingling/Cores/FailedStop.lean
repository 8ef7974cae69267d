import Pingling.Cores.ProcessCore

/-!
# Stops that fail

`stop` takes the child out of the slot and writes the state before it kills, so a kill that
fails leaves a core that has lost its child. What the other threads do during the call is
taken for itself here, as if the call were not made, and the failed call is compared with it.
-/

namespace Pingling.Cores
open Lib Domain

/-- A step of the thread that uses the core. The others are those of the reapers and of the
children. -/
def CoreStep.byController : CoreStep → Bool
  | .wake _ _ | .reapState _ _ _ | .sendCrashed _ _ _ | .exit _ _ | .printLine _ _ _ => false
  | _ => true

/-- The controller is inside a `stop` that no `restart` makes, and has the lock of the slot. -/
def Controller.stopping : Controller → Bool
  | .writeDisconnecting _ none | .killChild _ none | .waitChild _ none
  | .writeDisconnected none => true
  | _ => false

lemma Controller.locksSlot_of_stopping {controller : Controller}
    (h : controller.stopping = true) : controller.locksSlot = true := by
  unfold stopping at h
  split at h <;> first | rfl | cases h

namespace System

variable {spec : ProcessCoreSpec} {s t u m : System}

/-- The steps from a call of `stop` or `kill` up to the one with which it returns an error,
among steps of the other threads. -/
structure StopFails (spec : ProcessCoreSpec) (s : System) (call : CoreCall)
    (steps : List CoreStep) (last : CoreStep) (t : System) (error : VpnError) : Prop where
  stops : call = .stop ∨ call = .kill
  run : runSteps (step spec) (.call call :: (steps ++ [last])) s = some t
  one : ∀ other, .call other ∉ steps ++ [last]
  last : last.byController = true
  returned : t.controller = .idle
  result : t.returned = s.returned ++ [.error error]

/-- The steps of the other threads. -/
def others (steps : List CoreStep) : List CoreStep :=
  steps.filter (fun a => !a.byController)

/-- The child and the state are those that the other threads alone would have left. -/
def LeftAsItWas (spec : ProcessCoreSpec) (s : System) (steps : List CoreStep)
    (t : System) : Prop :=
  ∃ u, runSteps (step spec) (others steps) s = some u ∧ t.child = u.child ∧ t.state = u.state

/-- The operating system fails to kill a child. -/
def KillFails (steps : List CoreStep) : Prop :=
  ∃ child next e, .killChild child next (.error e) ∈ steps

/-- A reaper that wakes up neither reads nor moves the controller. -/
lemma wake_withController (u : System) (controller : Controller) (reaper : ℕ) (failed : Bool) :
    wake reaper failed { u with controller := controller } =
        { u.wake reaper failed with controller := controller } ∧
      (u.wake reaper failed).controller = u.controller := by
  cases hchild : u.child with
  | none =>
    rw [wake_none hchild, wake_none (s := { u with controller := controller }) hchild]
    exact ⟨rfl, rfl⟩
  | some child =>
    cases failed with
    | true =>
      rw [wake_failed hchild, wake_failed (s := { u with controller := controller }) hchild]
      exact ⟨rfl, rfl⟩
    | false =>
      cases hexited : u.exited child with
      | none =>
        rw [wake_running hchild hexited,
          wake_running (s := { u with controller := controller }) hchild hexited]
        exact ⟨rfl, rfl⟩
      | some status =>
        rw [wake_exited hchild hexited,
          wake_exited (s := { u with controller := controller }) hchild hexited]
        exact ⟨rfl, rfl⟩

/-- Up to the lock of the slot, `stop` has moved nothing but the controller. -/
lemma step_of_unlocked {a : CoreStep} {controller : Controller} (ha : a.byController = false)
    (hu : u.controller.locksSlot = false)
    (h : step spec a { u with controller := controller } = some t) :
    ∃ v, step spec a u = some v ∧ v.controller = u.controller ∧
      t = { v with controller := controller } := by
  obtain ⟨hguard, rfl⟩ := step_eq_some.mp h
  cases a with
  | wake reaper failed =>
    obtain ⟨hwake, hcontroller⟩ := wake_withController u controller reaper failed
    exact ⟨_, step_eq_some.mpr ⟨⟨hguard.1, hu⟩, rfl⟩, hcontroller, hwake⟩
  | reapState | sendCrashed | exit | printLine =>
    exact ⟨_, step_eq_some.mpr ⟨hguard, rfl⟩, rfl, rfl⟩
  | _ => cases ha

/-- What the steps of the other threads read, apart from the slot. -/
structure SameThreads (u m : System) : Prop where
  reapers : m.reapers = u.reapers
  spawned : m.spawned = u.spawned
  exited : m.exited = u.exited

/-- While `stop` has the lock of the slot no reaper looks into it, and the other threads do
what they would do without the call. -/
lemma step_of_locked {a : CoreStep} (ha : a.byController = false)
    (hm : m.controller.locksSlot = true) (hsame : u.SameThreads m)
    (h : step spec a m = some t) :
    ∃ v, step spec a u = some v ∧ v.child = u.child ∧ v.controller = u.controller ∧
      v.SameThreads t ∧ t.child = m.child ∧ t.controller = m.controller := by
  obtain ⟨hguard, rfl⟩ := step_eq_some.mp h
  obtain ⟨hreapers, hspawned, hexited⟩ := hsame
  cases a with
  | wake reaper failed =>
    have hfree := hguard.2
    rw [hm] at hfree
    cases hfree
  | reapState reaper child status =>
    have hphase : m.reapers reaper = .cleared child status := hguard
    rw [hreapers] at hphase
    exact ⟨_, step_eq_some.mpr ⟨hphase, rfl⟩, rfl, rfl,
      ⟨by simp only [CoreStep.effect, hreapers], hspawned, hexited⟩, rfl, rfl⟩
  | sendCrashed reaper child status =>
    have hphase : m.reapers reaper = .written child status := hguard
    rw [hreapers] at hphase
    exact ⟨_, step_eq_some.mpr ⟨hphase, rfl⟩, rfl, rfl,
      ⟨by simp only [CoreStep.effect, hreapers], hspawned, hexited⟩, rfl, rfl⟩
  | exit child status =>
    have hrunning : child < m.spawned ∧ m.exited child = none := hguard
    rw [hspawned, hexited] at hrunning
    exact ⟨_, step_eq_some.mpr ⟨hrunning, rfl⟩, rfl, rfl,
      ⟨hreapers, hspawned, by simp only [CoreStep.effect, hexited]⟩, rfl, rfl⟩
  | printLine child line stderr =>
    have hchild : child < m.spawned := hguard
    rw [hspawned] at hchild
    exact ⟨_, step_eq_some.mpr ⟨hchild, rfl⟩, rfl, rfl,
      ⟨hreapers, hspawned, hexited⟩, rfl, rfl⟩
  | _ => cases ha

lemma controller_of_other {a : CoreStep} (ha : a.byController = false)
    (h : step spec a s = some t) : t.controller = s.controller := by
  obtain ⟨-, rfl⟩ := step_eq_some.mp h
  cases a with
  | wake reaper failed => exact (wake_withController s s.controller reaper failed).2
  | reapState | sendCrashed | exit | printLine => rfl
  | _ => cases ha

lemma returned_of_other {a : CoreStep} (ha : a.byController = false)
    (h : step spec a s = some t) : t.returned = s.returned := by
  obtain ⟨-, rfl⟩ := step_eq_some.mp h
  cases a with
  | wake reaper failed =>
    simp only [CoreStep.effect, wake]
    split
    · rfl
    · split_ifs
      · rfl
      · split <;> rfl
  | reapState | sendCrashed | exit | printLine => rfl
  | _ => cases ha

lemma run_others_concat {as : List CoreStep} {a : CoreStep} (ha : a.byController = false)
    (hrun : runSteps (step spec) (others as) s = some u) (h : step spec a u = some t) :
    runSteps (step spec) (others (as ++ [a])) s = some t := by
  rw [others, List.filter_append, List.filter_singleton, ha]
  exact runSteps_append.mpr ⟨u, hrun, runSteps_cons.mpr ⟨t, h, rfl⟩⟩

lemma others_concat {as : List CoreStep} {a : CoreStep} (ha : a.byController = true) :
    others (as ++ [a]) = others as := by
  simp [others, ha]

lemma killFails_concat {as : List CoreStep} {a : CoreStep} :
    KillFails (as ++ [a]) ↔
      KillFails as ∨ ∃ child next e, a = .killChild child next (.error e) := by
  simp only [KillFails, List.mem_append, List.mem_singleton, exists_or]
  simp only [eq_comm]

/-- An idle controller takes no step but to begin a call. -/
lemma not_enabled_of_idle {a : CoreStep} (ha : a.byController = true)
    (hcall : ∀ call, a ≠ .call call) (hidle : m.controller = .idle) : ¬a.Enabled m := by
  intro hguard
  cases a with
  | call call => exact hcall call rfl
  | waitChild child next => simp [CoreStep.Enabled, hidle] at hguard
  | wake | reapState | sendCrashed | exit | printLine => cases ha
  | _ => simp [CoreStep.Enabled, hidle] at hguard

lemma eq_takeChild_of_enabled {a : CoreStep} {next : Option String} (ha : a.byController = true)
    (hcontroller : m.controller = .takeChild next) (hguard : a.Enabled m) :
    a = .takeChild next := by
  cases a with
  | takeChild next' =>
    simp only [CoreStep.Enabled, hcontroller, Controller.takeChild.injEq] at hguard
    rw [hguard]
  | wake | reapState | sendCrashed | exit | printLine => cases ha
  | _ => simp [CoreStep.Enabled, hcontroller] at hguard

/-- What the controller can do while `stop` has the lock of the slot. -/
lemma stopping_cases {a : CoreStep} (ha : a.byController = true)
    (hstopping : m.controller.stopping = true) (hguard : a.Enabled m) :
    (∃ child, a = .writeDisconnecting child none) ∨
      (∃ child answer, a = .killChild child none answer) ∨
      (∃ child, a = .waitChild child none) ∨ a = .writeDisconnected none := by
  have hphase : ∀ controller, m.controller = controller → controller.stopping = true :=
    fun controller heq => heq ▸ hstopping
  cases a with
  | writeDisconnecting child next =>
    have hnext := hphase _ hguard
    cases next with
    | none => simp
    | some configPath => cases hnext
  | killChild child next answer =>
    have hnext := hphase _ hguard
    cases next with
    | none => simp
    | some configPath => cases hnext
  | waitChild child next =>
    have hnext := hphase _ hguard.1
    cases next with
    | none => simp
    | some configPath => cases hnext
  | writeDisconnected next =>
    have hnext := hphase _ hguard
    cases next with
    | none => simp
    | some configPath => cases hnext
  | wake | reapState | sendCrashed | exit | printLine => cases ha
  | _ => cases hphase _ hguard

/-- How far the call has come, beside what the other threads alone would have done. -/
inductive StopPhase (spec : ProcessCoreSpec) (s : System) (as : List CoreStep)
    (m : System) : Prop where
  | waiting (u : System) (others : runSteps (step spec) (others as) s = some u)
      (idle : u.controller = .idle) (moved : m = { u with controller := .takeChild none })
      (returned : m.returned = s.returned) (healthy : ¬KillFails as)
  | holding (u : System) (others : runSteps (step spec) (others as) s = some u)
      (idle : u.controller = .idle) (held : u.child ≠ none) (taken : m.child = none)
      (threads : u.SameThreads m) (stopping : m.controller.stopping = true)
      (returned : m.returned = s.returned) (healthy : ¬KillFails as)
  | finished (idle : m.controller = .idle)

lemma StopPhase.other {as : List CoreStep} {a : CoreStep} (h : StopPhase spec s as m)
    (ha : a.byController = false) (hstep : step spec a m = some t) :
    StopPhase spec s (as ++ [a]) t := by
  have hkill : ∀ {as}, ¬KillFails as → ¬KillFails (as ++ [a]) := by
    intro as hnone hfails
    rcases killFails_concat.mp hfails with hfails | ⟨child, next, e, rfl⟩
    · exact hnone hfails
    · cases ha
  have hreturned := returned_of_other ha hstep
  have hcontroller := controller_of_other ha hstep
  cases h with
  | waiting u hothers hidle hmoved hret hhealthy =>
    subst hmoved
    have hfree : u.controller.locksSlot = false := by rw [hidle]; rfl
    obtain ⟨v, hv, hvidle, rfl⟩ := step_of_unlocked ha hfree hstep
    exact .waiting v (run_others_concat ha hothers hv) (hvidle.trans hidle) rfl
      (hreturned.trans hret) (hkill hhealthy)
  | holding u hothers hidle hheld htaken hthreads hstopping hret hhealthy =>
    have hlocked := Controller.locksSlot_of_stopping hstopping
    obtain ⟨v, hv, hchild, hvidle, hsame, htchild, -⟩ :=
      step_of_locked ha hlocked hthreads hstep
    refine .holding v (run_others_concat ha hothers hv) (hvidle.trans hidle) ?_
      (htchild.trans htaken) hsame ?_ (hreturned.trans hret) (hkill hhealthy)
    · rw [hchild]
      exact hheld
    · rw [hcontroller]
      exact hstopping
  | finished hidle => exact .finished (hcontroller.trans hidle)

/-- A step of `stop` itself leads from one phase to the next. -/
lemma StopPhase.controller {as : List CoreStep} {a : CoreStep} (h : StopPhase spec s as m)
    (ha : a.byController = true) (hcall : ∀ call, a ≠ .call call)
    (hstep : step spec a m = some t) : StopPhase spec s (as ++ [a]) t := by
  obtain ⟨hguard, rfl⟩ := step_eq_some.mp hstep
  have hkill : ¬KillFails as → (∀ child next e, a ≠ .killChild child next (.error e)) →
      ¬KillFails (as ++ [a]) := by
    intro hhealthy hne
    rw [killFails_concat]
    rintro (hfails | ⟨child, next, e, heq⟩)
    · exact hhealthy hfails
    · exact hne child next e heq
  cases h with
  | waiting u hothers hidle hmoved hret hhealthy =>
    subst hmoved
    have ha' : a = .takeChild none := eq_takeChild_of_enabled ha rfl hguard
    subst ha'
    rw [← others_concat ha] at hothers
    cases hchild : u.child with
    | none =>
      rw [CoreStep.effect, takeChild_none (s := { u with controller := .takeChild none }) hchild]
      exact .finished rfl
    | some child =>
      rw [CoreStep.effect, takeChild_some (s := { u with controller := .takeChild none }) hchild]
      exact .holding u hothers hidle (by simp [hchild]) rfl ⟨rfl, rfl, rfl⟩ rfl hret
        (hkill hhealthy (by simp))
  | holding u hothers hidle hheld htaken hthreads hstopping hret hhealthy =>
    rw [← others_concat ha] at hothers
    obtain ⟨hreapers, hspawned, hexited⟩ := hthreads
    rcases stopping_cases ha hstopping hguard with
      ⟨child, rfl⟩ | ⟨child, answer, rfl⟩ | ⟨child, rfl⟩ | rfl
    · exact .holding u hothers hidle hheld htaken ⟨hreapers, hspawned, hexited⟩ rfl hret
        (hkill hhealthy (by simp))
    · cases answer with
      | ok =>
        exact .holding u hothers hidle hheld htaken ⟨hreapers, hspawned, hexited⟩ rfl hret
          (hkill hhealthy (by simp))
      | error e => exact .finished rfl
    · exact .holding u hothers hidle hheld htaken ⟨hreapers, hspawned, hexited⟩ rfl hret
        (hkill hhealthy (by simp))
    · exact .finished rfl
  | finished hidle => exact absurd hguard (not_enabled_of_idle ha hcall hidle)

/-- The phase in which a call stands after some of its steps. -/
lemma stopPhase_of_run {call : CoreCall} (hcall : call = .stop ∨ call = .kill)
    {as : List CoreStep} (hone : ∀ other, .call other ∉ as)
    (hrun : runSteps (step spec) (.call call :: as) s = some m) : StopPhase spec s as m := by
  obtain ⟨entered, henter, hrun⟩ := runSteps_cons.mp hrun
  obtain ⟨hidle, rfl⟩ := step_eq_some.mp henter
  have hentered : (CoreStep.call call).effect spec s =
      { s with controller := .takeChild none } := by
    rcases hcall with rfl | rfl <;> rfl
  rw [hentered] at hrun
  have hstart : StopPhase spec s [] { s with controller := .takeChild none } :=
    .waiting s rfl hidle rfl rfl (by simp [KillFails])
  refine runSteps_invariant_of (P := StopPhase spec s) hstart ?_
    (eachStep_of_mem (p := fun a => ∀ other, a ≠ .call other) ?_ _) hrun
  · intro as a m m' hphase hne hstep
    cases ha : a.byController with
    | false => exact hphase.other ha hstep
    | true => exact hphase.controller ha hne hstep
  · rintro a ha other rfl
    exact hone other ha

/-- The step that returns the error finds the slot empty, or it is a kill that fails. -/
lemma StopPhase.leftAsItWas {steps : List CoreStep} {last : CoreStep} {error : VpnError}
    (h : StopPhase spec s steps m) (ha : last.byController = true)
    (hcall : ∀ other, last ≠ .call other) (hstep : step spec last m = some t)
    (hreturned : t.controller = .idle) (hresult : t.returned = s.returned ++ [.error error]) :
    LeftAsItWas spec s steps t ↔ ¬KillFails (steps ++ [last]) := by
  obtain ⟨hguard, rfl⟩ := step_eq_some.mp hstep
  rw [killFails_concat]
  cases h with
  | waiting u hothers hidle hmoved hret hhealthy =>
    subst hmoved
    have hlast : last = .takeChild none := eq_takeChild_of_enabled ha rfl hguard
    subst hlast
    cases hchild : u.child with
    | none =>
      have hleft : LeftAsItWas spec s steps
          ((CoreStep.takeChild none).effect spec { u with controller := .takeChild none }) := by
        rw [CoreStep.effect, takeChild_none (s := { u with controller := .takeChild none }) hchild]
        exact ⟨u, hothers, rfl, rfl⟩
      simp [hleft, hhealthy]
    | some child =>
      rw [CoreStep.effect,
        takeChild_some (s := { u with controller := .takeChild none }) hchild] at hreturned
      cases hreturned
  | holding u hothers hidle hheld htaken hthreads hstopping hret hhealthy =>
    rcases stopping_cases ha hstopping hguard with
      ⟨child, rfl⟩ | ⟨child, answer, rfl⟩ | ⟨child, rfl⟩ | rfl
    · cases hreturned
    · cases answer with
      | ok => cases hreturned
      | error e =>
        have hlost : ¬LeftAsItWas spec s steps
            ((CoreStep.killChild child none (.error e)).effect spec m) := by
          rintro ⟨v, hv, hsame, -⟩
          rw [hothers, Option.some.injEq] at hv
          subst hv
          exact hheld (hsame.symm.trans htaken)
        simp [hlost]
    · cases hreturned
    · simp [CoreStep.effect, stopped, ret, hret] at hresult
  | finished hidle => exact absurd hguard (not_enabled_of_idle ha hcall hidle)

/-- A `stop` or `kill` that returns an error leaves the child and the state as they were
exactly when no kill has failed. -/
theorem failed_stop_leaves (spec : ProcessCoreSpec) (s t : System) (call : CoreCall)
    (steps : List CoreStep) (last : CoreStep) (error : VpnError)
    (h : StopFails spec s call steps last t error) :
    LeftAsItWas spec s steps t ↔ ¬KillFails (steps ++ [last]) := by
  have hrun := h.run
  rw [← List.cons_append] at hrun
  obtain ⟨m, hm, hlast⟩ := runSteps_append.mp hrun
  obtain ⟨t', hstep, hnil⟩ := runSteps_cons.mp hlast
  rw [runSteps_nil, Option.some.injEq] at hnil
  subst hnil
  have hsteps : ∀ other, .call other ∉ steps := by
    intro other hmem
    exact h.one other (List.mem_append_left _ hmem)
  have hother : ∀ other, last ≠ .call other := by
    rintro other rfl
    exact h.one other (List.mem_append_right _ List.mem_cons_self)
  have hphase := stopPhase_of_run h.stops hsteps hm
  exact hphase.leftAsItWas h.last hother hstep h.returned h.result

/-- A core that runs, its child that crashes, and the reaper that has taken it out of the slot. -/
def crashedCore : List CoreStep :=
  .call (.start "a") :: startSections "a" healthyOs 0 ++ [.exit 0 ⟨some 1⟩, .wake 0 false]

/-- What the child and the reaper do after that. -/
def reaping : List CoreStep :=
  [.printLine 0 "bye" false, .reapState 0 0 ⟨some 1⟩]

/-- A `stop` while the reaper is at work fails, and the core is as the reaper leaves it. -/
theorem failed_stop_leaves_crashed :
    ∃ s t, run sleepSpec crashedCore = some s ∧ s.state = .connected ∧
      StopFails sleepSpec s .stop reaping (.takeChild none) t .notConnected ∧
      LeftAsItWas sleepSpec s reaping t ∧ t.state = .disconnected := by
  obtain ⟨s, t, hrun, hstate, hfails, hleft⟩ : ∃ s t, run sleepSpec crashedCore = some s ∧
      s.state = .connected ∧
      StopFails sleepSpec s .stop reaping (.takeChild none) t .notConnected ∧
      t.state = .disconnected :=
    ⟨_, _, rfl, rfl, ⟨.inl rfl, rfl, by simp [reaping], rfl, rfl, rfl⟩, rfl⟩
  refine ⟨s, t, hrun, hstate, hfails, ?_, hleft⟩
  apply (failed_stop_leaves sleepSpec s t .stop reaping (.takeChild none) .notConnected hfails).mpr
  simp [KillFails, reaping]

/-- The steps of a `stop` whose kill fails. -/
def failingStop : List CoreStep :=
  [.takeChild none, .writeDisconnecting 0 none]

/-- A core that runs loses its child when the kill fails: the child is alive, the state stays
at `disconnecting`, and every later `stop` or `restart` finds no child. -/
theorem failed_stop_loses_child :
    ∃ s t, run sleepSpec (.call (.start "a") :: startSections "a" healthyOs 0) = some s ∧
      StopFails sleepSpec s .stop failingStop (.killChild 0 none (.error "denied")) t
        (.processStopFailed "denied") ∧
      s.child = some 0 ∧ s.state = .connected ∧
      t.child = none ∧ t.state = .disconnecting ∧ t.exited 0 = none ∧
      (∃ u, runSteps (step sleepSpec) [.call .stop, .takeChild none] t = some u ∧
        u.returned.getLast? = some (.error .notConnected)) ∧
      ∃ u, runSteps (step sleepSpec)
          [.call (.restart "a"), .readStatus "a", .takeChild (some "a")] t = some u ∧
        u.returned.getLast? = some (.error .notConnected) := by
  refine ⟨_, _, rfl, ⟨.inl rfl, rfl, by simp [failingStop], rfl, rfl, rfl⟩, rfl, rfl, rfl, rfl,
    rfl, ⟨_, rfl, rfl⟩, ⟨_, rfl, rfl⟩⟩

end System

end Pingling.Cores
