import Pingling.Cores.MockCore
import Pingling.Cores.Ownership

/-!
# The mock and the process core

While its spawns and kills succeed and its children stay until they are stopped, a process
core acts as the switch that the mock is. What a call in progress will return is known in
every section of it, and no other thread changes it.
-/

namespace Pingling.Cores
open Lib Domain

namespace CoreStep

/-- Spawns and kills succeed, and only a child that `stop` took goes. -/
def Quiet (spec : ProcessCoreSpec) : CoreStep → System → Prop
  | .spawn configPath os, _ =>
    spec.spawnProcess os (expandArgs spec.startArgs configPath) = .ok ()
  | .killChild _ _ answer, _ => answer = .ok ()
  | .exit child _, s => child ∈ s.taken
  | _, _ => True

/-- The call that a step begins. -/
def begins : CoreStep → Option CoreCall
  | .call c => some c
  | _ => none

end CoreStep

abbrev callsOf (steps : List CoreStep) : List CoreCall :=
  steps.filterMap CoreStep.begins

namespace System

variable {spec : ProcessCoreSpec} {s t : System}

/-- What follows a `stop` that succeeds. -/
def afterStop : Option String → VpnResult × Bool
  | none => (.ok (), false)
  | some configPath => switchCore.start configPath false

/-- What a call in progress will return, and whether the core will be on, by the section that
comes next and whether the slot is full. -/
def remaining : Controller → Bool → VpnResult × Bool
  | .idle, on => (.ok (), on)
  | .readStatus configPath, on => switchCore.restart configPath on
  | .checkSlot _, on => if on then (.error .alreadyConnected, on) else (.ok (), true)
  | .writeConnecting _, _ | .spawn _, _ | .storeChild _, _ | .writeConnected _, _
  | .spawnReaper _, _ => (.ok (), true)
  | .giveUp error, _ => (.error error, false)
  | .takeChild next, on => if on then afterStop next else (.error .notConnected, on)
  | .writeDisconnecting _ next, _ | .killChild _ next, _ | .waitChild _ next, _
  | .writeDisconnected next, _ => afterStop next

/-- The results of the calls, that of the call in progress included, and whether the core
will be on after them. -/
def completed (s : System) : List VpnResult × Bool :=
  match s.controller with
  | .idle => (s.returned, s.child.isSome)
  | controller =>
    (s.returned ++ [(remaining controller s.child.isSome).1],
      (remaining controller s.child.isSome).2)

/-- The state and the slot, by the section that the controller takes next. -/
def QuietFits (s : System) : Prop :=
  match s.controller with
  | .idle | .readStatus _ | .checkSlot _ | .takeChild _ =>
    s.state = switchCore.status s.child.isSome
  | .writeConnected _ => s.child.isSome = true
  | .spawnReaper _ => s.child.isSome = true ∧ s.state = .connected
  | .writeDisconnecting child _ | .killChild child _ | .waitChild child _ =>
    s.child = none ∧ child ∈ s.taken
  | .writeDisconnected _ => s.child = none
  | .giveUp _ => False
  | _ => True

/-- Only children that `stop` took are gone, and no reaper has found one. -/
structure Calm (s : System) : Prop where
  exited : ∀ child, s.exited child ≠ none → child ∈ s.taken
  reaping : ∀ reaper, (s.reapers reaper).reaping = none

structure Undisturbed (s : System) : Prop extends s.Calm where
  newborn : s.Newborn
  exclusive : s.Exclusive
  fits : s.QuietFits

/-- The results and the switch once a call has been made that leaves `outcome`. -/
def answered (s : System) (outcome : VpnResult × Bool) : List VpnResult × Bool :=
  (s.returned ++ [outcome.1], outcome.2)

/-- A controller that rests in a state that fits, with nothing else changed. -/
lemma enterStart_quiet (hstate : s.state = switchCore.status s.child.isSome)
    (configPath : String) : (s.enterStart configPath).QuietFits ∧
      (s.enterStart configPath).completed =
        s.answered (switchCore.start configPath s.child.isSome) := by
  unfold enterStart
  by_cases hempty : configPath = ""
  · rw [if_pos hempty]
    refine ⟨hstate, ?_⟩
    simp [completed, ret, answered, switchCore, hempty]
  · rw [if_neg hempty]
    refine ⟨hstate, ?_⟩
    simp only [completed, remaining, answered, switchCore, if_neg hempty]

lemma enter_quiet (hstate : s.state = switchCore.status s.child.isSome) (call : CoreCall) :
    (s.enter call).QuietFits ∧
      (s.enter call).completed = s.answered (switchCore.perform call s.child.isSome) := by
  cases call with
  | start configPath => exact enterStart_quiet hstate configPath
  | stop => exact ⟨hstate, rfl⟩
  | kill => exact ⟨hstate, rfl⟩
  | restart configPath => exact ⟨hstate, rfl⟩

lemma readStatus_quiet (spec : ProcessCoreSpec)
    (hstate : s.state = switchCore.status s.child.isSome) (configPath : String) :
    ((CoreStep.readStatus configPath).effect spec s).QuietFits ∧
      ((CoreStep.readStatus configPath).effect spec s).completed =
        s.answered (switchCore.restart configPath s.child.isSome) := by
  have hactive : s.state.isActive = s.child.isSome := by rw [hstate, isActive_switchCore]
  simp only [CoreStep.effect, hactive, VpnCore.restart, isActive_switchCore]
  by_cases hon : s.child.isSome = true
  · rw [if_pos hon, if_pos hon]
    refine ⟨hstate, ?_⟩
    simp only [completed, remaining, hon, if_true, answered]
    rfl
  · rw [if_neg hon, if_neg hon]
    exact enterStart_quiet hstate configPath

lemma stopped_quiet (hchild : s.child = none) (hstate : s.state = .disconnected)
    (next : Option String) :
    (s.stopped next).QuietFits ∧ (s.stopped next).completed = s.answered (afterStop next) := by
  have hoff : s.child.isSome = false := by rw [hchild]; rfl
  have hfits : s.state = switchCore.status s.child.isSome := by rw [hstate, hoff]; rfl
  cases next with
  | none => exact ⟨hfits, by simp [stopped, ret, completed, hoff, answered, afterStop]⟩
  | some configPath =>
    have hstart := enterStart_quiet hfits configPath
    rw [hoff] at hstart
    exact hstart

lemma checkSlot_quiet (spec : ProcessCoreSpec)
    (hstate : s.state = switchCore.status s.child.isSome) (configPath : String) :
    ((CoreStep.checkSlot configPath).effect spec s).QuietFits ∧
      ((CoreStep.checkSlot configPath).effect spec s).completed =
        s.answered (remaining (.checkSlot configPath) s.child.isSome) := by
  simp only [CoreStep.effect]
  by_cases hon : s.child.isSome = true
  · rw [if_pos hon]
    refine ⟨hstate, ?_⟩
    simp [completed, ret, answered, remaining, hon]
  · rw [if_neg hon]
    refine ⟨trivial, ?_⟩
    simp [completed, answered, remaining, hon]

lemma spawnReaper_quiet (spec : ProcessCoreSpec) (hchild : s.child.isSome = true)
    (hstate : s.state = .connected) (child : ℕ) :
    ((CoreStep.spawnReaper child).effect spec s).QuietFits ∧
      ((CoreStep.spawnReaper child).effect spec s).completed =
        s.answered (remaining (.spawnReaper child) s.child.isSome) := by
  simp only [CoreStep.effect]
  constructor
  · simp [QuietFits, ret, hchild, hstate, switchCore]
  · simp [completed, ret, answered, remaining, hchild]

lemma takeChild_quiet (spec : ProcessCoreSpec)
    (hstate : s.state = switchCore.status s.child.isSome) (next : Option String) :
    ((CoreStep.takeChild next).effect spec s).QuietFits ∧
      ((CoreStep.takeChild next).effect spec s).completed =
        s.answered (remaining (.takeChild next) s.child.isSome) := by
  cases hchild : s.child with
  | none =>
    simp only [CoreStep.effect, takeChild_none hchild]
    rw [hchild] at hstate
    constructor
    · simp [QuietFits, ret, hchild, hstate]
    · simp [completed, ret, answered, remaining, hchild]
  | some child =>
    simp only [CoreStep.effect, takeChild_some hchild]
    exact ⟨⟨rfl, by simp⟩, rfl⟩

lemma completed_eq {controller : Controller} (hphase : s.controller = controller)
    (hbusy : controller ≠ .idle) :
    s.completed = s.answered (remaining controller s.child.isSome) := by
  rw [completed, hphase]
  cases controller <;> first | rfl | exact absurd rfl hbusy

/-- A section that leaves what its call will return completes what was completed. -/
lemma completes {controller : Controller} (hphase : s.controller = controller)
    (hbusy : controller ≠ .idle) (h : t.QuietFits ∧
      t.completed = s.answered (remaining controller s.child.isSome)) :
    t.QuietFits ∧ t.completed = s.completed :=
  ⟨h.1, h.2.trans (completed_eq hphase hbusy).symm⟩

/-- What is completed after a step that begins a call, or none. -/
def expected (s : System) : Option CoreCall → List VpnResult × Bool
  | none => s.completed
  | some call => s.answered (switchCore.perform call s.child.isSome)

/-- A step of another thread that leaves the core and the controller alone. -/
lemma QuietFits.of_same (h : s.QuietFits) (hstate : t.state = s.state)
    (hchild : t.child = s.child) (htaken : t.taken = s.taken)
    (hcontroller : t.controller = s.controller) (hreturned : t.returned = s.returned) :
    t.QuietFits ∧ t.completed = s.completed := by
  constructor
  · rwa [QuietFits, hstate, hchild, htaken, hcontroller]
  · rw [completed, completed, hchild, hcontroller, hreturned]

lemma Undisturbed.exited_none (h : s.Undisturbed) {child : ℕ} (hchild : s.child = some child) :
    s.exited child = none := by
  by_contra hexited
  have hstop : s.Owns .stop child := h.exited child hexited
  have hslot : s.Owns .slot child := hchild
  cases h.exclusive.owner child _ _ hstop hslot

/-- A reaper that wakes up finds the slot empty, or a child that runs. -/
lemma Undisturbed.wake (h : s.Undisturbed) (reaper : ℕ) (failed : Bool) :
    ∃ reapers polls, s.wake reaper failed = { s with reapers := reapers, polls := polls } ∧
      (reapers = s.reapers ∨ reapers = Function.update s.reapers reaper .ended) := by
  cases hchild : s.child with
  | none => exact ⟨_, s.polls, wake_none hchild reaper failed, .inr rfl⟩
  | some child =>
    cases failed with
    | true => exact ⟨_, _, wake_failed hchild reaper, .inr rfl⟩
    | false =>
      exact ⟨s.reapers, _, wake_running hchild (h.exited_none hchild) reaper, .inl rfl⟩

lemma Calm.reaping_eq_none (h : s.Calm) {reaper : ℕ} {phase : Reaper}
    (hphase : s.reapers reaper = phase) : phase.reaping = none := by
  rw [← hphase]
  exact h.reaping reaper

lemma Undisturbed.section (h : s.Undisturbed) {a : CoreStep} (hquiet : a.Quiet spec s)
    (ha : step spec a s = some t) : t.QuietFits ∧ t.completed = s.expected a.begins := by
  obtain ⟨hguard, rfl⟩ := step_eq_some.mp ha
  have hfits := h.fits
  cases a with
  | call c =>
    have hphase : s.controller = .idle := hguard
    rw [QuietFits, hphase] at hfits
    exact enter_quiet hfits c
  | readStatus configPath =>
    have hphase : s.controller = .readStatus configPath := hguard
    rw [QuietFits, hphase] at hfits
    exact completes hphase (by simp) (readStatus_quiet spec hfits configPath)
  | checkSlot configPath =>
    have hphase : s.controller = .checkSlot configPath := hguard
    rw [QuietFits, hphase] at hfits
    exact completes hphase (by simp) (checkSlot_quiet spec hfits configPath)
  | writeConnecting configPath =>
    have hphase : s.controller = .writeConnecting configPath := hguard
    exact completes hphase (by simp) ⟨trivial, rfl⟩
  | spawn configPath os =>
    have hphase : s.controller = .spawn configPath := hguard
    have hspawn : spec.spawnProcess os (expandArgs spec.startArgs configPath) = .ok () := hquiet
    simp only [CoreStep.effect, hspawn]
    exact completes hphase (by simp) ⟨trivial, rfl⟩
  | giveUp error =>
    have hphase : s.controller = .giveUp error := hguard
    rw [QuietFits, hphase] at hfits
    exact hfits.elim
  | storeChild child =>
    have hphase : s.controller = .storeChild child := hguard
    exact completes hphase (by simp) ⟨rfl, rfl⟩
  | writeConnected child =>
    have hphase : s.controller = .writeConnected child := hguard
    rw [QuietFits, hphase] at hfits
    exact completes hphase (by simp) ⟨⟨hfits, rfl⟩, rfl⟩
  | spawnReaper child =>
    have hphase : s.controller = .spawnReaper child := hguard
    rw [QuietFits, hphase] at hfits
    exact completes hphase (by simp) (spawnReaper_quiet spec hfits.1 hfits.2 child)
  | takeChild next =>
    have hphase : s.controller = .takeChild next := hguard
    rw [QuietFits, hphase] at hfits
    exact completes hphase (by simp) (takeChild_quiet spec hfits next)
  | writeDisconnecting child next =>
    have hphase : s.controller = .writeDisconnecting child next := hguard
    rw [QuietFits, hphase] at hfits
    exact completes hphase (by simp) ⟨hfits, rfl⟩
  | killChild child next answer =>
    have hphase : s.controller = .killChild child next := hguard
    have hanswer : answer = .ok () := hquiet
    rw [QuietFits, hphase] at hfits
    rw [hanswer]
    exact completes hphase (by simp) ⟨hfits, rfl⟩
  | waitChild child next =>
    have hphase : s.controller = .waitChild child next := hguard.1
    rw [QuietFits, hphase] at hfits
    exact completes hphase (by simp) ⟨hfits.1, rfl⟩
  | writeDisconnected next =>
    have hphase : s.controller = .writeDisconnected next := hguard
    rw [QuietFits, hphase] at hfits
    exact completes hphase (by simp)
      (stopped_quiet (s := { s with state := .disconnected }) hfits rfl next)
  | wake reaper failed =>
    obtain ⟨reapers, polls, hwake, -⟩ := h.wake reaper failed
    simp only [CoreStep.effect, hwake]
    exact hfits.of_same rfl rfl rfl rfl rfl
  | reapState reaper child status => cases h.reaping_eq_none hguard
  | sendCrashed reaper child status => cases h.reaping_eq_none hguard
  | exit child status => exact hfits.of_same rfl rfl rfl rfl rfl
  | printLine child line stderr => exact hfits.of_same rfl rfl rfl rfl rfl

lemma Calm.of_rests (h : s.Calm) (hrests : s.Rests t) : t.Calm := by
  obtain ⟨controller, returned, -, rfl⟩ := hrests
  exact ⟨h.exited, h.reaping⟩

lemma Calm.update (h : s.Calm) (reaper : ℕ) {phase : Reaper} (hphase : phase.reaping = none) :
    { s with reapers := Function.update s.reapers reaper phase }.Calm := by
  refine ⟨h.exited, fun r => ?_⟩
  by_cases hr : r = reaper
  · simp only [hr, Function.update_self, hphase]
  · simp only [Function.update_of_ne hr, h.reaping r]

lemma Calm.takeChild (h : s.Calm) (next : Option String) : (s.takeChild next).Calm := by
  cases hchild : s.child with
  | none =>
    rw [takeChild_none hchild]
    exact h.of_rests (rests_ret _ s)
  | some child =>
    rw [takeChild_some hchild]
    exact ⟨fun c hc => List.mem_append_left _ (h.exited c hc), h.reaping⟩

lemma Undisturbed.calm (h : s.Undisturbed) {a : CoreStep} (hquiet : a.Quiet spec s)
    (ha : step spec a s = some t) : t.Calm := by
  obtain ⟨hguard, rfl⟩ := step_eq_some.mp ha
  have hcalm := h.toCalm
  cases a with
  | call c => exact hcalm.of_rests (rests_enter c s)
  | readStatus configPath => exact hcalm.of_rests (rests_readStatus configPath s)
  | checkSlot configPath =>
    simp only [CoreStep.effect]
    by_cases hon : s.child.isSome = true
    · rw [if_pos hon]
      exact hcalm.of_rests (rests_ret _ s)
    · rw [if_neg hon]
      exact ⟨h.exited, h.reaping⟩
  | spawn configPath os =>
    simp only [CoreStep.effect]
    cases spec.spawnProcess os (expandArgs spec.startArgs configPath) <;>
      exact ⟨h.exited, h.reaping⟩
  | spawnReaper child => exact (hcalm.update child rfl).of_rests (rests_ret _ _)
  | takeChild next => exact hcalm.takeChild next
  | killChild child next answer =>
    cases answer with
    | ok => exact ⟨h.exited, h.reaping⟩
    | error e => exact hcalm.of_rests (rests_ret _ s)
  | writeDisconnected next =>
    have hstate : { s with state := .disconnected }.Calm := ⟨h.exited, h.reaping⟩
    exact hstate.of_rests (rests_stopped next _)
  | wake reaper failed =>
    obtain ⟨reapers, polls, hwake, hreapers⟩ := h.wake reaper failed
    simp only [CoreStep.effect, hwake]
    cases hreapers with
    | inl hsame => exact ⟨h.exited, fun r => by simp only [hsame, h.reaping r]⟩
    | inr hended =>
      rw [hended]
      exact ⟨h.exited, (hcalm.update reaper rfl).reaping⟩
  | reapState reaper child status => cases hcalm.reaping_eq_none hguard
  | sendCrashed reaper child status => exact ⟨h.exited, (hcalm.update reaper rfl).reaping⟩
  | exit child status =>
    refine ⟨fun c hc => ?_, h.reaping⟩
    by_cases heq : c = child
    · rw [heq]
      exact hquiet
    · simp only [CoreStep.effect, Function.update_of_ne heq] at hc
      exact h.exited c hc
  | _ => exact ⟨h.exited, h.reaping⟩

lemma undisturbed_init : init.Undisturbed where
  newborn := newborn_init
  exclusive := exclusive_init
  fits := rfl
  exited := fun _ h => absurd rfl h
  reaping := fun _ => rfl

lemma Undisturbed.step (h : s.Undisturbed) {a : CoreStep} (hquiet : a.Quiet spec s)
    (ha : step spec a s = some t) : t.Undisturbed where
  newborn := h.newborn.step ha
  exclusive := h.exclusive.step h.newborn ha
  fits := (h.section hquiet ha).1
  toCalm := h.calm hquiet ha

lemma serve_callsOf_concat {steps : List CoreStep} (hserve :
      switchCore.serve (callsOf steps) false = s.completed) {a : CoreStep}
    (hidle : ∀ call, a = .call call → s.controller = .idle) :
    switchCore.serve (callsOf (steps ++ [a])) false = s.expected a.begins := by
  cases a with
  | call c =>
    have hphase := hidle c rfl
    rw [completed, hphase] at hserve
    simp only [callsOf, List.filterMap_append, List.filterMap_cons, List.filterMap_nil,
      CoreStep.begins] at hserve ⊢
    rw [VpnCore.serve_concat, hserve]
    rfl
  | _ =>
    simp only [callsOf, List.filterMap_append, List.filterMap_cons, List.filterMap_nil,
      CoreStep.begins, List.append_nil] at hserve ⊢
    exact hserve

/-- In every quiet interleaving the calls have been answered, and the call in progress will
be, as the switch answers them. -/
theorem completed_of_run {steps : List CoreStep}
    (hquiet : EachStep (System.step spec) (CoreStep.Quiet spec) steps init)
    (h : run spec steps = some s) :
    s.Undisturbed ∧ switchCore.serve (callsOf steps) false = s.completed := by
  refine runSteps_invariant_of
    (P := fun steps s =>
      s.Undisturbed ∧ switchCore.serve (callsOf steps) false = s.completed)
    ⟨undisturbed_init, rfl⟩ ?_ hquiet h
  rintro as a s t ⟨hu, hserve⟩ hquiet ha
  refine ⟨hu.step hquiet ha, ?_⟩
  rw [(hu.section hquiet ha).2]
  apply serve_callsOf_concat hserve
  rintro call rfl
  exact (step_eq_some.mp ha).1

lemma spawnProcess_healthyOs (spec : ProcessCoreSpec) (args : List String) :
    spec.spawnProcess healthyOs args = .ok () := by
  unfold ProcessCoreSpec.spawnProcess ProcessCoreSpec.resolveBinary
  by_cases hpath : (Text.contains '/' spec.binary || Text.contains '\\' spec.binary) = true
  · rw [if_pos hpath]
    rfl
  · rw [if_neg hpath]
    rfl

/-- The call in progress can return without another one, and quietly. -/
def Finishes (spec : ProcessCoreSpec) (s : System) : Prop :=
  ∃ steps t, callsOf steps = [] ∧
    EachStep (System.step spec) (CoreStep.Quiet spec) steps s ∧
    runSteps (System.step spec) steps s = some t ∧ t.controller = .idle

lemma Finishes.of_idle (h : s.controller = .idle) : s.Finishes spec :=
  ⟨[], s, rfl, trivial, rfl, h⟩

lemma Finishes.cons {a : CoreStep} (hbegins : a.begins = none) (hguard : a.Enabled s)
    (hquiet : a.Quiet spec s) (h : (a.effect spec s).Finishes spec) : s.Finishes spec := by
  obtain ⟨steps, t, hcalls, hall, hrun, hidle⟩ := h
  have ha : System.step spec a s = some (a.effect spec s) := step_eq_some.mpr ⟨hguard, rfl⟩
  refine ⟨a :: steps, t, ?_, .cons ha hquiet hall, runSteps_cons.mpr ⟨_, ha, hrun⟩, hidle⟩
  rw [callsOf, List.filterMap_cons, hbegins]
  exact hcalls

lemma finishes_spawn {configPath : String} (h : s.controller = .spawn configPath) :
    s.Finishes spec := by
  have hspawn := spawnProcess_healthyOs spec (expandArgs spec.startArgs configPath)
  refine .cons (a := .spawn configPath healthyOs) rfl h hspawn ?_
  simp only [CoreStep.effect, hspawn]
  refine .cons (a := .storeChild s.spawned) rfl rfl trivial ?_
  refine .cons (a := .writeConnected s.spawned) rfl rfl trivial ?_
  refine .cons (a := .spawnReaper s.spawned) rfl rfl trivial ?_
  exact .of_idle rfl

lemma finishes_checkSlot {configPath : String} (h : s.controller = .checkSlot configPath) :
    s.Finishes spec := by
  refine .cons (a := .checkSlot configPath) rfl h trivial ?_
  simp only [CoreStep.effect]
  by_cases hon : s.child.isSome = true
  · rw [if_pos hon]
    exact .of_idle rfl
  · rw [if_neg hon]
    refine .cons (a := .writeConnecting configPath) rfl rfl trivial ?_
    exact finishes_spawn rfl

lemma finishes_enterStart (configPath : String) (s : System) :
    (s.enterStart configPath).Finishes spec := by
  unfold enterStart
  by_cases hempty : configPath = ""
  · rw [if_pos hempty]
    exact .of_idle rfl
  · rw [if_neg hempty]
    exact finishes_checkSlot rfl

lemma finishes_waitChild {child : ℕ} {next : Option String}
    (h : s.controller = .waitChild child next) (hexited : s.exited child ≠ none) :
    s.Finishes spec := by
  refine .cons (a := .waitChild child next) rfl ⟨h, hexited⟩ trivial ?_
  refine .cons (a := .writeDisconnected next) rfl rfl trivial ?_
  cases next with
  | none => exact .of_idle rfl
  | some configPath => exact finishes_enterStart configPath _

/-- A child that was killed is gone, or goes. -/
lemma finishes_killChild {child : ℕ} {next : Option String}
    (h : s.controller = .killChild child next) (htaken : child ∈ s.taken)
    (hlt : child < s.spawned) : s.Finishes spec := by
  refine .cons (a := .killChild child next (.ok ())) rfl h rfl ?_
  by_cases hexited : s.exited child = none
  · refine .cons (a := .exit child ⟨none⟩) rfl ⟨hlt, hexited⟩ htaken ?_
    exact finishes_waitChild rfl (by simp [CoreStep.effect])
  · exact finishes_waitChild rfl hexited

lemma Undisturbed.finishes_takeChild (h : s.Undisturbed) {next : Option String}
    (hphase : s.controller = .takeChild next) : s.Finishes spec := by
  refine .cons (a := .takeChild next) rfl hphase trivial ?_
  cases hchild : s.child with
  | none =>
    simp only [CoreStep.effect, takeChild_none hchild]
    exact .of_idle rfl
  | some child =>
    simp only [CoreStep.effect, takeChild_some hchild]
    have hlt : child < s.spawned := by
      by_contra hle
      have hunborn : s.Owns .unborn child := Nat.le_of_not_lt hle
      have hslot : s.Owns .slot child := hchild
      cases h.exclusive.owner child _ _ hunborn hslot
    refine .cons (a := .writeDisconnecting child next) rfl rfl trivial ?_
    exact finishes_killChild rfl (List.mem_append_right _ (List.mem_singleton_self child)) hlt

lemma Undisturbed.finishes_enter (h : s.Undisturbed) (hidle : s.controller = .idle)
    (call : CoreCall) : (s.enter call).Finishes spec := by
  have ha : System.step spec (.call call) s = some (s.enter call) :=
    step_eq_some.mpr ⟨hidle, rfl⟩
  have hquiet : (CoreStep.call call).Quiet spec s := trivial
  have hentered := h.step hquiet ha
  cases call with
  | start configPath => exact finishes_enterStart configPath s
  | stop => exact hentered.finishes_takeChild rfl
  | kill => exact hentered.finishes_takeChild rfl
  | restart configPath =>
    have hstep : System.step spec (.readStatus configPath) (s.enter (.restart configPath)) =
        some ((CoreStep.readStatus configPath).effect spec _) := step_eq_some.mpr ⟨rfl, rfl⟩
    have hread := hentered.step (a := .readStatus configPath) trivial hstep
    refine .cons (a := .readStatus configPath) rfl rfl trivial ?_
    simp only [CoreStep.effect] at hread ⊢
    by_cases hactive : (s.enter (.restart configPath)).state.isActive = true
    · rw [if_pos hactive] at hread ⊢
      exact hread.finishes_takeChild rfl
    · rw [if_neg hactive]
      exact finishes_enterStart configPath _

/-- Every sequence of calls can be made and answered quietly. -/
lemma exists_quiet_run (spec : ProcessCoreSpec) (calls : List CoreCall) :
    ∃ steps s, EachStep (System.step spec) (CoreStep.Quiet spec) steps init ∧
      callsOf steps = calls ∧ run spec steps = some s ∧ s.controller = .idle := by
  induction calls using List.reverseRecOn with
  | nil => exact ⟨[], init, trivial, rfl, rfl, rfl⟩
  | append_singleton calls call ih =>
    obtain ⟨steps, s, hquiet, hcalls, hrun, hidle⟩ := ih
    have hundisturbed := (completed_of_run hquiet hrun).1
    have hfinishes : (s.enter call).Finishes spec := hundisturbed.finishes_enter hidle call
    obtain ⟨more, t, hnone, hmore, hmoreRun, hdone⟩ := hfinishes
    have ha : System.step spec (.call call) s = some (s.enter call) :=
      step_eq_some.mpr ⟨hidle, rfl⟩
    refine ⟨steps ++ .call call :: more, t, eachStep_append.mpr ⟨hquiet, ?_⟩, ?_,
      runSteps_append.mpr ⟨s, hrun, runSteps_cons.mpr ⟨_, ha, hmoreRun⟩⟩, hdone⟩
    · intro s' hs'
      rw [Option.some.inj (hs'.symm.trans hrun)]
      exact .cons ha trivial hmore
    · rw [callsOf, List.filterMap_append, List.filterMap_cons]
      rw [callsOf] at hcalls hnone
      simp only [CoreStep.begins]
      rw [hcalls, hnone]

/-- The mock answers as a process core does: every sequence of calls can be made on a process
core whose spawns and kills succeed and whose children stay until they are stopped, and
whatever the interleaving, the results of the calls and the status after them are those of
the mock. -/
theorem returned_eq_mockCore (spec : ProcessCoreSpec) (calls : List CoreCall) :
    (∃ steps s, EachStep (System.step spec) (CoreStep.Quiet spec) steps init ∧
      callsOf steps = calls ∧ run spec steps = some s ∧ s.controller = .idle) ∧
    ∀ steps s, EachStep (System.step spec) (CoreStep.Quiet spec) steps init →
      callsOf steps = calls → run spec steps = some s → s.controller = .idle →
      s.returned = (mockCore.serve calls .new).1 ∧
        s.state = mockCore.status (mockCore.serve calls .new).2 := by
  refine ⟨exists_quiet_run spec calls, fun steps s hquiet hcalls hrun hidle => ?_⟩
  obtain ⟨hundisturbed, hserve⟩ := completed_of_run hquiet hrun
  obtain ⟨hresults, hstatus⟩ := mockCore_serve calls
  have hfits := hundisturbed.fits
  rw [QuietFits, hidle] at hfits
  rw [completed, hidle, hcalls] at hserve
  rw [hresults, hstatus, hserve]
  exact ⟨rfl, hfits⟩

end System
end Pingling.Cores
