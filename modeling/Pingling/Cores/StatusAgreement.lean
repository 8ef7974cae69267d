import Pingling.Cores.Ownership

/-!
# The status and the child

The state says `Connected` when the slot holds a child and `Disconnected` when it does not,
as long as no reaper comes between two writes of a `start`, and no `start` between two writes
of a reaper.
-/

namespace Pingling.Cores
open Lib Domain

/-- The operating system's `kill` does not fail. -/
def CoreStep.KillSucceeds : CoreStep → Prop
  | .killChild _ _ (.error _) => False
  | _ => True

namespace System

/-- No call is in progress, and no reaper is between clearing the slot and its end. -/
structure Quiescent (s : System) : Prop where
  idle : s.controller = .idle
  reaping : ∀ reaper, (s.reapers reaper).reaping = none

def StatusAgrees (s : System) : Prop :=
  (s.state = .connected ↔ s.child ≠ none) ∧ (s.state = .disconnected ↔ s.child = none)

/-- Some reaper has cleared the slot and has still to write the state. -/
def WritePending (s : System) : Prop :=
  ∃ reaper child status, s.reapers reaper = .cleared child status

end System

/-- When `start` writes `Connected`, its child is in the slot, or the reaper that took it out
has still to write `Disconnected`; and no reaper writes `Disconnected` once a later `start`
has written `Connected`. -/
def CoreStep.InTime : CoreStep → System → Prop
  | .writeConnected _, s => s.child ≠ none ∨ s.WritePending
  | .reapState _ _ _, s => s.child = none ∨ s.state ≠ .connected
  | _, _ => True

namespace System

variable {spec : ProcessCoreSpec} {s t : System}

/-- The state and the slot between two writes of the controller. -/
structure Agrees (s : System) : Prop where
  full : s.child ≠ none → s.state = .connected
  empty : s.child = none → s.state = .disconnected ∨ s.state = .connected ∧ s.WritePending

/-- The state and the slot, by the section that the controller takes next. -/
def StatusFits (s : System) : Prop :=
  match s.controller with
  | .idle | .readStatus _ | .checkSlot _ | .takeChild _ | .spawnReaper _ => s.Agrees
  | .writeConnected _ => True
  | _ => s.child = none

lemma WritePending.update (h : s.WritePending) {reaper : ℕ} (phase : Reaper)
    (hnot : ∀ child status, s.reapers reaper ≠ .cleared child status) :
    { s with reapers := Function.update s.reapers reaper phase }.WritePending := by
  obtain ⟨r, child, status, hr⟩ := h
  have hne : r ≠ reaper := by
    rintro rfl
    exact hnot child status hr
  exact ⟨r, child, status, by rw [← hr]; exact Function.update_of_ne hne phase s.reapers⟩

lemma Agrees.of_rests (h : s.Agrees) (hrests : s.Rests t) : t.StatusFits := by
  obtain ⟨controller, returned, hsteady, rfl⟩ := hrests
  have hagrees : { s with controller := controller, returned := returned }.Agrees :=
    ⟨h.full, h.empty⟩
  cases controller <;> first | exact hagrees | cases hsteady

/-- A step of another thread keeps what holds in the section of the controller. -/
lemma StatusFits.of_thread (h : s.StatusFits) (hcontroller : t.controller = s.controller)
    (hagrees : s.Agrees → t.Agrees) (hchild : s.child = none → t.child = none) :
    t.StatusFits := by
  unfold StatusFits at h ⊢
  rw [hcontroller]
  cases hphase : s.controller with
  | idle | readStatus | checkSlot | takeChild | spawnReaper =>
    rw [hphase] at h
    exact hagrees h
  | writeConnected => trivial
  | _ =>
    rw [hphase] at h
    exact hchild h

lemma StatusFits.wake (h : s.StatusFits) {reaper : ℕ} (hasleep : s.reapers reaper = .asleep)
    (failed : Bool) : (s.wake reaper failed).StatusFits := by
  have hnot : ∀ child status, s.reapers reaper ≠ .cleared child status := by simp [hasleep]
  have hended : s.Agrees →
      { s with reapers := Function.update s.reapers reaper .ended }.Agrees := fun hagrees =>
    ⟨hagrees.full, fun hempty => (hagrees.empty hempty).imp_right
      (And.imp_right (fun hpending => hpending.update .ended hnot))⟩
  cases hchild : s.child with
  | none =>
    rw [wake_none hchild]
    exact h.of_thread rfl hended id
  | some child =>
    cases failed with
    | true =>
      rw [wake_failed hchild]
      exact h.of_thread rfl (fun hagrees => ⟨(hended hagrees).full, (hended hagrees).empty⟩) id
    | false =>
      cases hexited : s.exited child with
      | none =>
        rw [wake_running hchild hexited]
        exact h.of_thread rfl (fun hagrees => ⟨hagrees.full, hagrees.empty⟩) id
      | some status =>
        rw [wake_exited hchild hexited]
        -- the state still says `Connected`, and this reaper is the one to change it
        have hconnected : s.Agrees → s.state = .connected := fun hagrees =>
          hagrees.full (by simp [hchild])
        refine h.of_thread rfl (fun hagrees => ⟨fun hfull => absurd rfl hfull, fun _ => ?_⟩)
          (fun _ => rfl)
        exact .inr ⟨hconnected hagrees, reaper, child, status, Function.update_self ..⟩

lemma StatusFits.reapState (h : s.StatusFits) (hintime : s.child = none ∨ s.state ≠ .connected)
    (reaper : ℕ) (phase : Reaper) :
    { s with
      state := .disconnected
      reapers := Function.update s.reapers reaper phase }.StatusFits := by
  refine h.of_thread rfl (fun hagrees => ⟨fun hfull => ?_, fun _ => .inl rfl⟩) id
  cases hintime with
  | inl hempty => exact absurd hempty hfull
  | inr hnot => exact absurd (hagrees.full hfull) hnot

lemma StatusFits.step (h : s.StatusFits) (hnew : s.Newborn) {a : CoreStep}
    (hkill : a.KillSucceeds) (hintime : a.InTime s) (ha : step spec a s = some t) :
    t.StatusFits := by
  obtain ⟨hguard, rfl⟩ := step_eq_some.mp ha
  cases a with
  | call c =>
    have hphase : s.controller = .idle := hguard
    have hagrees : s.Agrees := by rwa [StatusFits, hphase] at h
    exact hagrees.of_rests (rests_enter c s)
  | readStatus configPath =>
    have hphase : s.controller = .readStatus configPath := hguard
    have hagrees : s.Agrees := by rwa [StatusFits, hphase] at h
    exact hagrees.of_rests (rests_readStatus configPath s)
  | checkSlot configPath =>
    have hphase : s.controller = .checkSlot configPath := hguard
    have hagrees : s.Agrees := by rwa [StatusFits, hphase] at h
    simp only [CoreStep.effect]
    by_cases hchild : s.child.isSome = true
    · rw [if_pos hchild]
      exact hagrees.of_rests (rests_ret _ s)
    · rw [if_neg hchild]
      exact Option.not_isSome_iff_eq_none.mp hchild
  | spawn configPath os =>
    have hphase : s.controller = .spawn configPath := hguard
    rw [StatusFits, hphase] at h
    simp only [CoreStep.effect]
    cases spec.spawnProcess os (expandArgs spec.startArgs configPath) <;> exact h
  | giveUp error =>
    have hphase : s.controller = .giveUp error := hguard
    rw [StatusFits, hphase] at h
    exact ⟨fun hfull => absurd h hfull, fun _ => .inl rfl⟩
  | storeChild child => trivial
  | writeConnected child =>
    refine ⟨fun _ => rfl, fun hempty => .inr ⟨rfl, ?_⟩⟩
    cases hintime with
    | inl hfull => exact absurd hempty hfull
    | inr hpending => exact hpending
  | spawnReaper child =>
    have hphase : s.controller = .spawnReaper child := hguard
    have hagrees : s.Agrees := by rwa [StatusFits, hphase] at h
    have hunborn := (hnew.starting child (by rw [hphase]; rfl)).2
    have hasleep : { s with reapers := Function.update s.reapers child .asleep }.Agrees :=
      ⟨hagrees.full, fun hempty => (hagrees.empty hempty).imp_right
        (And.imp_right (fun hpending => hpending.update .asleep (by simp [hunborn])))⟩
    exact hasleep.of_rests (rests_ret _ _)
  | takeChild next =>
    have hphase : s.controller = .takeChild next := hguard
    have hagrees : s.Agrees := by rwa [StatusFits, hphase] at h
    cases hchild : s.child with
    | none =>
      simp only [CoreStep.effect, takeChild_none hchild]
      exact hagrees.of_rests (rests_ret _ s)
    | some child =>
      simp only [CoreStep.effect, takeChild_some hchild]
      rfl
  | killChild child next answer =>
    have hphase : s.controller = .killChild child next := hguard
    rw [StatusFits, hphase] at h
    cases answer with
    | ok => exact h
    | error e => exact hkill.elim
  | writeDisconnected next =>
    have hphase : s.controller = .writeDisconnected next := hguard
    rw [StatusFits, hphase] at h
    have hagrees : { s with state := .disconnected }.Agrees :=
      ⟨fun hfull => absurd h hfull, fun _ => .inl rfl⟩
    exact hagrees.of_rests (rests_stopped next _)
  | wake reaper failed => exact h.wake hguard.1 failed
  | reapState reaper child status => exact h.reapState hintime reaper _
  | sendCrashed reaper child status =>
    have hwritten : s.reapers reaper = .written child status := hguard
    refine h.of_thread rfl (fun hagrees => ⟨hagrees.full, fun hempty => ?_⟩) id
    exact (hagrees.empty hempty).imp_right
      (And.imp_right (fun hpending => hpending.update .ended (by simp [hwritten])))
  | writeConnecting configPath =>
    have hphase : s.controller = .writeConnecting configPath := hguard
    rw [StatusFits, hphase] at h
    exact h
  | writeDisconnecting child next =>
    have hphase : s.controller = .writeDisconnecting child next := hguard
    rw [StatusFits, hphase] at h
    exact h
  | waitChild child next =>
    rw [StatusFits, hguard.1] at h
    exact h
  | exit child status =>
    exact h.of_thread rfl (fun hagrees => ⟨hagrees.full, hagrees.empty⟩) id
  | printLine child line stderr =>
    exact h.of_thread rfl (fun hagrees => ⟨hagrees.full, hagrees.empty⟩) id

lemma StatusFits.statusAgrees (h : s.StatusFits) (hquiet : s.Quiescent) : s.StatusAgrees := by
  have hagrees : s.Agrees := by rwa [StatusFits, hquiet.idle] at h
  have hnone : ¬ s.WritePending := by
    rintro ⟨reaper, child, status, hcleared⟩
    have hreaping := hquiet.reaping reaper
    rw [hcleared] at hreaping
    cases hreaping
  by_cases hempty : s.child = none
  · have hstate : s.state = .disconnected := by
      cases hagrees.empty hempty with
      | inl hdisconnected => exact hdisconnected
      | inr hpending => exact absurd hpending.2 hnone
    simp [StatusAgrees, hempty, hstate]
  · have hstate := hagrees.full hempty
    simp [StatusAgrees, hempty, hstate]

/-- In every interleaving in which the writes come in time, the status agrees with the child
whenever no call is in progress and no reaper is at work. -/
theorem statusAgrees_of_run (spec : ProcessCoreSpec) (steps : List CoreStep) (s : System)
    (hkill : ∀ a ∈ steps, a.KillSucceeds)
    (hintime : EachStep (step spec) CoreStep.InTime steps init)
    (h : run spec steps = some s) (hquiet : s.Quiescent) : s.StatusAgrees := by
  have hfits : s.Newborn ∧ s.StatusFits := by
    refine runSteps_preserves_of (P := fun s => s.Newborn ∧ s.StatusFits) ?_ ?_
      ((eachStep_of_mem hkill init).and hintime) h
    · rintro a s t ⟨hnew, hfits⟩ ⟨hkill, hintime⟩ ha
      exact ⟨hnew.step ha, hfits.step hnew hkill hintime ha⟩
    · exact ⟨newborn_init, fun hfull => absurd rfl hfull, fun _ => .inl rfl⟩
  exact hfits.2.statusAgrees hquiet

/-- A second `start` stores its child and writes `Connected` between the two writes of the
reaper of the first. -/
def startedWithinReaping : List CoreStep :=
  .call (.start "ignored") :: startSections "ignored" healthyOs 0 ++
    [.exit 0 ⟨some 1⟩, .wake 0 false] ++
    .call (.start "ignored") :: startSections "ignored" healthyOs 1 ++
    [.reapState 0 0 ⟨some 1⟩, .sendCrashed 0 0 ⟨some 1⟩]

/-- The second child then runs behind the state `Disconnected`. -/
theorem not_statusAgrees_of_run : ¬ ∀ (spec : ProcessCoreSpec) (steps : List CoreStep)
    (s : System), (∀ a ∈ steps, a.KillSucceeds) → run spec steps = some s → s.Quiescent →
      s.StatusAgrees := by
  intro hstatusAgrees
  have hkill : ∀ a ∈ startedWithinReaping, a.KillSucceeds := by
    simp [startedWithinReaping, startSections, CoreStep.KillSucceeds]
  have hagrees := hstatusAgrees sleepSpec startedWithinReaping _ hkill rfl
    ⟨rfl, fun reaper => by rcases reaper with _ | _ | reaper <;> rfl⟩
  have hfull := hagrees.2.mp rfl
  cases hfull

/-- The reaper of a first child writes the state before a second `start` does. -/
def startedAfterReaping : List CoreStep :=
  .call (.start "ignored") :: startSections "ignored" healthyOs 0 ++
    [.exit 0 ⟨some 1⟩, .wake 0 false, .reapState 0 0 ⟨some 1⟩] ++
    .call (.start "ignored") :: startSections "ignored" healthyOs 1 ++
    [.sendCrashed 0 0 ⟨some 1⟩]

theorem statusAgrees_of_startedAfterReaping : ∃ s,
    run sleepSpec startedAfterReaping = some s ∧ s.child = some 1 ∧ s.StatusAgrees := by
  refine ⟨_, rfl, rfl, statusAgrees_of_run sleepSpec startedAfterReaping _ ?_ ?_ rfl
    ⟨rfl, fun reaper => by rcases reaper with _ | _ | reaper <;> rfl⟩⟩
  · simp [startedAfterReaping, startSections, CoreStep.KillSucceeds]
  · repeat' first
      | exact trivial
      | exact Or.inl (Option.some_ne_none _)
      | exact Or.inl rfl
      | apply EachStep.cons rfl

end System
end Pingling.Cores
