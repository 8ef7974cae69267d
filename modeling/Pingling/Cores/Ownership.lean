import Pingling.Cores.ProcessCore

/-!
# Who owns a child

A child is handed from `start` to the slot, and from there to a `stop` or to one reaper, which
reports it. Two owners never hold the same child, so a crash is reported once and never for a
child that `stop` took.
-/

namespace Pingling.Cores
open Lib Domain

/-- The number of crash events about a child. -/
def ProcessCore.crashes (core : ProcessCore) (child : ℕ) : ℕ :=
  core.events.countP (fun e => e.1 == child && e.2.isCrashed)

lemma ProcessCore.crashes_concat (core : ProcessCore) (about : ℕ) (event : CoreEvent)
    (child : ℕ) :
    { core with events := core.events ++ [(about, event)] }.crashes child =
      core.crashes child + if about = child ∧ event.isCrashed = true then 1 else 0 := by
  simp [crashes, List.countP_append, List.countP_singleton]

/-- The controller is between two of its writes: the state and the slot stand as its last
`start` or `stop` and the reapers have left them. -/
def Controller.rests : Controller → Bool
  | .idle | .readStatus _ | .checkSlot _ | .takeChild _ => true
  | _ => false

/-- The child that `start` has spawned and whose reaper it has not made yet. -/
def Controller.starting : Controller → Option ℕ
  | .storeChild child | .writeConnected child | .spawnReaper child => some child
  | _ => none

/-- The step hands a child or a reaper on, or may do so. -/
def CoreStep.hands : CoreStep → Bool
  | .spawn _ _ | .storeChild _ | .writeConnected _ | .spawnReaper _ | .takeChild _ | .wake _ _
  | .reapState _ _ _ | .sendCrashed _ _ _ => true
  | _ => false

inductive Owner where
  | unborn
  | start
  | slot
  | stop
  | reaper (reaper : ℕ)
  | report
  deriving DecidableEq

namespace System

variable {spec : ProcessCoreSpec} {s t : System}

/-- Nothing but the controller has moved, and it is between two of its writes. -/
def Rests (s t : System) : Prop :=
  ∃ controller returned, controller.rests = true ∧
    t = { s with controller := controller, returned := returned }

lemma rests_ret (result : VpnResult) (s : System) : s.Rests (s.ret result) :=
  ⟨.idle, _, rfl, rfl⟩

lemma rests_enterStart (configPath : String) (s : System) :
    s.Rests (s.enterStart configPath) := by
  unfold enterStart
  by_cases hempty : configPath = ""
  · rw [if_pos hempty]
    exact rests_ret _ s
  · rw [if_neg hempty]
    exact ⟨.checkSlot configPath, _, rfl, rfl⟩

lemma rests_enter (call : CoreCall) (s : System) : s.Rests (s.enter call) := by
  cases call with
  | start configPath => exact rests_enterStart configPath s
  | stop => exact ⟨.takeChild none, _, rfl, rfl⟩
  | kill => exact ⟨.takeChild none, _, rfl, rfl⟩
  | restart configPath => exact ⟨.readStatus configPath, _, rfl, rfl⟩

lemma rests_stopped (next : Option String) (s : System) : s.Rests (s.stopped next) := by
  cases next with
  | none => exact rests_ret _ s
  | some configPath => exact rests_enterStart configPath s

lemma rests_readStatus (configPath : String) (s : System) :
    s.Rests ((CoreStep.readStatus configPath).effect spec s) := by
  by_cases hactive : s.state.isActive = true
  · exact ⟨.takeChild (some configPath), _, rfl, by rw [CoreStep.effect, if_pos hactive]⟩
  · rw [CoreStep.effect, if_neg hactive]
    exact rests_enterStart configPath s

lemma starting_of_rests {controller : Controller} (h : controller.rests = true) :
    controller.starting = none := by
  cases controller <;> first | rfl | cases h

/-- Neither the children nor the slot nor a reaper has changed, nothing has been reported, and
the controller has not come closer to a new child. -/
structure Frame (s t : System) : Prop where
  spawned : t.spawned = s.spawned
  child : t.child = s.child
  taken : t.taken = s.taken
  reapers : t.reapers = s.reapers
  polls : t.polls = s.polls
  crashes : ∀ child, t.crashes child = s.crashes child
  starting : t.controller = s.controller ∨ t.controller.starting = none

lemma Rests.frame (h : s.Rests t) : s.Frame t := by
  obtain ⟨controller, returned, hrests, rfl⟩ := h
  exact ⟨rfl, rfl, rfl, rfl, rfl, fun _ => rfl, .inr (starting_of_rests hrests)⟩

lemma frame_setState (state : ConnectionState) (h : { s with state := state }.Rests t) :
    s.Frame t :=
  ⟨h.frame.spawned, h.frame.child, h.frame.taken, h.frame.reapers, h.frame.polls,
    h.frame.crashes, h.frame.starting⟩

/-- A step of another kind than those that hand a child or a reaper on. -/
lemma frame_of_step {a : CoreStep} (h : a.hands = false) (ha : step spec a s = some t) :
    s.Frame t := by
  obtain ⟨-, rfl⟩ := step_eq_some.mp ha
  cases a with
  | call c => exact (rests_enter c s).frame
  | readStatus configPath => exact (rests_readStatus configPath s).frame
  | checkSlot configPath =>
    simp only [CoreStep.effect]
    by_cases hchild : s.child.isSome = true
    · rw [if_pos hchild]
      exact (rests_ret _ s).frame
    · rw [if_neg hchild]
      exact ⟨rfl, rfl, rfl, rfl, rfl, fun _ => rfl, .inr rfl⟩
  | giveUp error => exact frame_setState .disconnected (rests_ret _ _)
  | killChild child next answer =>
    cases answer with
    | ok => exact ⟨rfl, rfl, rfl, rfl, rfl, fun _ => rfl, .inr rfl⟩
    | error e => exact (rests_ret _ s).frame
  | writeDisconnected next => exact frame_setState .disconnected (rests_stopped next _)
  | exit child status => exact ⟨rfl, rfl, rfl, rfl, rfl, fun _ => rfl, .inl rfl⟩
  | printLine child line stderr =>
    refine ⟨rfl, rfl, rfl, rfl, rfl, fun c => ?_, .inl rfl⟩
    simp only [CoreStep.effect, ProcessCore.crashes_concat]
    cases stderr <;> simp [CoreEvent.isCrashed]
  | writeConnecting | writeDisconnecting | waitChild =>
    exact ⟨rfl, rfl, rfl, rfl, rfl, fun _ => rfl, .inr rfl⟩
  | _ => cases h

/-- No reaper lives before the `start` that makes it is about to return. -/
structure Newborn (s : System) : Prop where
  unborn : ∀ reaper, s.spawned ≤ reaper → s.reapers reaper = .unborn
  starting : ∀ child, s.controller.starting = some child →
    child < s.spawned ∧ s.reapers child = .unborn

lemma newborn_init : init.Newborn :=
  ⟨fun _ _ => rfl, fun _ hk => by cases hk⟩

lemma Newborn.of_same (h : s.Newborn) (hspawned : t.spawned = s.spawned)
    (hunborn : ∀ reaper, s.reapers reaper = .unborn → t.reapers reaper = .unborn)
    (hstarting : ∀ child, t.controller.starting = some child →
      s.controller.starting = some child) : t.Newborn := by
  constructor
  · intro reaper hle
    rw [hspawned] at hle
    exact hunborn reaper (h.unborn reaper hle)
  · intro child hk
    obtain ⟨hlt, hborn⟩ := h.starting child (hstarting child hk)
    exact ⟨hspawned ▸ hlt, hunborn child hborn⟩

lemma Newborn.of_frame (h : s.Newborn) (hframe : s.Frame t) : t.Newborn := by
  refine h.of_same hframe.spawned (fun r hr => hframe.reapers ▸ hr) (fun child hk => ?_)
  cases hframe.starting with
  | inl hsame => exact hsame ▸ hk
  | inr hnone =>
    rw [hnone] at hk
    cases hk

lemma unborn_update {reapers : ℕ → Reaper} {reaper : ℕ} (phase : Reaper)
    (h : reapers reaper ≠ .unborn) (r : ℕ) (hr : reapers r = .unborn) :
    Function.update reapers reaper phase r = .unborn := by
  have hne : r ≠ reaper := by
    rintro rfl
    exact h hr
  rw [Function.update_of_ne hne, hr]

lemma Newborn.wake (h : s.Newborn) {reaper : ℕ} (hasleep : s.reapers reaper = .asleep)
    (failed : Bool) : (s.wake reaper failed).Newborn := by
  have hborn : s.reapers reaper ≠ .unborn := by simp [hasleep]
  cases hchild : s.child with
  | none =>
    rw [wake_none hchild]
    exact h.of_same rfl (unborn_update _ hborn) (fun _ => id)
  | some child =>
    cases failed with
    | true =>
      rw [wake_failed hchild]
      exact h.of_same rfl (unborn_update _ hborn) (fun _ => id)
    | false =>
      cases hexited : s.exited child with
      | none =>
        rw [wake_running hchild hexited]
        exact h.of_same rfl (fun _ => id) (fun _ => id)
      | some status =>
        rw [wake_exited hchild hexited]
        exact h.of_same rfl (unborn_update _ hborn) (fun _ => id)

lemma Newborn.spawnReaper (h : s.Newborn) {child : ℕ}
    (hphase : s.controller = .spawnReaper child) :
    ((CoreStep.spawnReaper child).effect spec s).Newborn := by
  have hlt := (h.starting child (by rw [hphase]; rfl)).1
  constructor
  · intro reaper hle
    have hle : s.spawned ≤ reaper := hle
    have hne : reaper ≠ child := by omega
    simp only [CoreStep.effect, ret, Function.update_of_ne hne]
    exact h.unborn reaper hle
  · intro c hk
    cases hk

lemma Newborn.spawned (h : s.Newborn) :
    { s with spawned := s.spawned + 1, controller := .storeChild s.spawned }.Newborn := by
  constructor
  · intro reaper hle
    have hle : s.spawned + 1 ≤ reaper := hle
    exact h.unborn reaper (by omega)
  · intro child hk
    have hchild : some s.spawned = some child := hk
    rw [← Option.some.inj hchild]
    exact ⟨Nat.lt_succ_self s.spawned, h.unborn s.spawned le_rfl⟩

lemma Newborn.step (h : s.Newborn) {a : CoreStep} (ha : step spec a s = some t) :
    t.Newborn := by
  by_cases hands : a.hands = false
  · exact h.of_frame (frame_of_step hands ha)
  obtain ⟨hguard, rfl⟩ := step_eq_some.mp ha
  cases a with
  | spawn configPath os =>
    simp only [CoreStep.effect]
    cases spec.spawnProcess os (expandArgs spec.startArgs configPath) with
    | ok => exact h.spawned
    | error e => exact h.of_same rfl (fun _ => id) (fun _ hk => by cases hk)
  | storeChild child =>
    exact h.of_same rfl (fun _ => id) (fun c hk => by rw [hguard]; exact hk)
  | writeConnected child =>
    exact h.of_same rfl (fun _ => id) (fun c hk => by rw [hguard]; exact hk)
  | spawnReaper child => exact h.spawnReaper hguard
  | takeChild next =>
    cases hchild : s.child with
    | none =>
      simp only [CoreStep.effect, takeChild_none hchild]
      exact h.of_frame (rests_ret _ s).frame
    | some child =>
      simp only [CoreStep.effect, takeChild_some hchild]
      exact h.of_same rfl (fun _ => id) (fun _ hk => by cases hk)
  | wake reaper failed => exact h.wake hguard.1 failed
  | reapState reaper child status =>
    have hborn : s.reapers reaper ≠ .unborn := by rw [hguard]; simp
    exact h.of_same rfl (unborn_update _ hborn) (fun _ => id)
  | sendCrashed reaper child status =>
    have hborn : s.reapers reaper ≠ .unborn := by rw [hguard]; simp
    exact h.of_same rfl (unborn_update _ hborn) (fun _ => id)
  | _ => exact absurd rfl hands

/-- The place where an owner keeps the children that it owns. -/
def Owns (s : System) : Owner → ℕ → Prop
  | .unborn, child => s.spawned ≤ child
  | .start, child => s.controller = .storeChild child
  | .slot, child => s.child = some child
  | .stop, child => child ∈ s.taken
  | .reaper reaper, child => (s.reapers reaper).reaping = some child
  | .report, child => 0 < s.crashes child

structure Exclusive (s : System) : Prop where
  owner : ∀ child o o', s.Owns o child → s.Owns o' child → o = o'
  once : ∀ child, s.crashes child ≤ 1

/-- A step that changes none of the places keeps ownership exclusive. -/
lemma Exclusive.of_same (h : s.Exclusive) (hspawned : t.spawned = s.spawned)
    (hchild : t.child = s.child) (htaken : t.taken = s.taken)
    (hreaping : ∀ reaper, (t.reapers reaper).reaping = (s.reapers reaper).reaping)
    (hcrashes : ∀ child, t.crashes child = s.crashes child)
    (hstart : ∀ child, t.controller = .storeChild child → s.controller = .storeChild child) :
    t.Exclusive := by
  have howns : ∀ o child, t.Owns o child → s.Owns o child := by
    intro o child ho
    cases o with
    | unborn => exact hspawned.symm.trans_le ho
    | start => exact hstart child ho
    | slot => exact hchild.symm.trans ho
    | stop =>
      rw [Owns, htaken] at ho
      exact ho
    | reaper reaper => exact (hreaping reaper).symm.trans ho
    | report => exact Nat.lt_of_lt_of_eq ho (hcrashes child)
  constructor
  · intro child o o' ho ho'
    exact h.owner child o o' (howns o child ho) (howns o' child ho')
  · intro child
    rw [hcrashes]
    exact h.once child

lemma Exclusive.of_frame (h : s.Exclusive) (hframe : s.Frame t) : t.Exclusive := by
  refine h.of_same hframe.spawned hframe.child hframe.taken
    (fun _ => by rw [hframe.reapers]) hframe.crashes (fun child hk => ?_)
  cases hframe.starting with
  | inl hsame => exact hsame ▸ hk
  | inr hnone =>
    rw [hk] at hnone
    cases hnone

/-- Handing a child over from one owner to another keeps ownership exclusive. -/
lemma Exclusive.transfer (h : s.Exclusive) (child : ℕ) (old new : Owner)
    (hold : s.Owns old child)
    (howns : ∀ o c, t.Owns o c → c = child ∧ o = new ∨ s.Owns o c ∧ (c = child → o ≠ old))
    (honce : ∀ c, t.crashes c ≤ 1) : t.Exclusive := by
  -- the other owners of the child would have owned it beside the old one
  have hnew : ∀ o, t.Owns o child → o = new := by
    intro o ho
    cases howns o child ho with
    | inl hgiven => exact hgiven.2
    | inr hkept => exact absurd (h.owner child o old hkept.1 hold) (hkept.2 rfl)
  have hkept : ∀ o c, c ≠ child → t.Owns o c → s.Owns o c := by
    intro o c hc ho
    cases howns o c ho with
    | inl hgiven => exact absurd hgiven.1 hc
    | inr hkept => exact hkept.1
  refine ⟨fun c o o' ho ho' => ?_, honce⟩
  by_cases hc : c = child
  · rw [hc] at ho ho'
    rw [hnew o ho, hnew o' ho']
  · exact h.owner c o o' (hkept o c hc ho) (hkept o' c hc ho')

lemma exclusive_init : init.Exclusive := by
  constructor
  · intro child o o' ho ho'
    have hunborn : ∀ o, init.Owns o child → o = .unborn := by
      intro o ho
      cases o <;> simp_all [Owns, init, ProcessCore.new, Reaper.reaping, ProcessCore.crashes]
    rw [hunborn o ho, hunborn o' ho']
  · simp [init, ProcessCore.new, ProcessCore.crashes]

lemma reaping_update {reapers : ℕ → Reaper} {reaper : ℕ} {phase : Reaper}
    (h : phase.reaping = (reapers reaper).reaping) (r : ℕ) :
    (Function.update reapers reaper phase r).reaping = (reapers r).reaping := by
  by_cases hr : r = reaper
  · rw [hr, Function.update_self, h]
  · rw [Function.update_of_ne hr]

/-- A reaper that wakes up owns the child that it takes out of the slot. -/
lemma Exclusive.wake (h : s.Exclusive) {reaper : ℕ} (hasleep : s.reapers reaper = .asleep)
    (failed : Bool) : (s.wake reaper failed).Exclusive := by
  have hended : ∀ r, (Function.update s.reapers reaper .ended r).reaping =
      (s.reapers r).reaping :=
    reaping_update (by rw [hasleep]; rfl)
  cases hchild : s.child with
  | none =>
    rw [wake_none hchild]
    exact h.of_same rfl rfl rfl hended (fun _ => rfl) (fun _ => id)
  | some child =>
    cases failed with
    | true =>
      rw [wake_failed hchild]
      exact h.of_same rfl rfl rfl hended (fun _ => rfl) (fun _ => id)
    | false =>
      cases hexited : s.exited child with
      | none =>
        rw [wake_running hchild hexited]
        exact h.of_same rfl rfl rfl (fun _ => rfl) (fun _ => rfl) (fun _ => id)
      | some status =>
        rw [wake_exited hchild hexited]
        refine h.transfer child .slot (.reaper reaper) hchild ?_ h.once
        intro o c ho
        cases o with
        | slot => cases ho
        | reaper r =>
          simp only [Owns] at ho
          by_cases hr : r = reaper
          · rw [hr, Function.update_self, Reaper.reaping, Option.some.injEq] at ho
            exact .inl ⟨ho.symm, by rw [hr]⟩
          · rw [Function.update_of_ne hr] at ho
            exact .inr ⟨ho, fun _ => by simp⟩
        | _ => exact .inr ⟨ho, fun _ => by simp⟩

lemma Exclusive.takeChild (h : s.Exclusive) (next : Option String) :
    (s.takeChild next).Exclusive := by
  cases hchild : s.child with
  | none =>
    rw [takeChild_none hchild]
    exact h.of_frame (rests_ret _ s).frame
  | some child =>
    rw [takeChild_some hchild]
    refine h.transfer child .slot .stop hchild ?_ h.once
    intro o c ho
    cases o with
    | slot => cases ho
    | start => cases ho
    | stop =>
      simp only [Owns, List.mem_append, List.mem_singleton] at ho
      cases ho with
      | inl htaken => exact .inr ⟨htaken, fun _ => by simp⟩
      | inr hc => exact .inl ⟨hc, rfl⟩
    | _ => exact .inr ⟨ho, fun _ => by simp⟩

lemma Exclusive.spawned (h : s.Exclusive) :
    { s with spawned := s.spawned + 1, controller := .storeChild s.spawned }.Exclusive := by
  refine h.transfer s.spawned .unborn .start le_rfl ?_ h.once
  intro o c ho
  cases o with
  | unborn =>
    have hlater : s.spawned + 1 ≤ c := ho
    exact .inr ⟨by rw [Owns]; omega, by omega⟩
  | start =>
    have hc : Controller.storeChild s.spawned = .storeChild c := ho
    exact .inl ⟨(Controller.storeChild.inj hc).symm, rfl⟩
  | _ => exact .inr ⟨ho, fun _ => by simp⟩

lemma Exclusive.storeChild (h : s.Exclusive) {child : ℕ}
    (hstart : s.controller = .storeChild child) :
    { s with child := some child, controller := .writeConnected child }.Exclusive := by
  refine h.transfer child .start .slot hstart ?_ h.once
  intro o c ho
  cases o with
  | start => cases ho
  | slot =>
    have hc : some child = some c := ho
    exact .inl ⟨(Option.some.inj hc).symm, rfl⟩
  | _ => exact .inr ⟨ho, fun _ => by simp⟩

lemma Exclusive.sendCrashed (h : s.Exclusive) {reaper child : ℕ} {status : ExitStatus}
    (hwritten : s.reapers reaper = .written child status) :
    { s with
      events := s.events ++ [(child, crashed status)]
      reapers := Function.update s.reapers reaper .ended }.Exclusive := by
  have hreaper : s.Owns (.reaper reaper) child := by rw [Owns, hwritten]; rfl
  have hcrashes : ∀ c, { s with
      events := s.events ++ [(child, crashed status)]
      reapers := Function.update s.reapers reaper .ended }.crashes c =
        s.crashes c + if child = c then 1 else 0 := by
    intro c
    rw [ProcessCore.crashes_concat]
    simp [crashed, CoreEvent.isCrashed]
  -- a report would own the child beside the reaper
  have hnone : s.crashes child = 0 := by
    by_contra hpos
    have hreport : s.Owns .report child := Nat.pos_of_ne_zero hpos
    cases h.owner child _ _ hreport hreaper
  apply h.transfer child (.reaper reaper) .report hreaper
  · intro o c ho
    cases o with
    | reaper r =>
      simp only [Owns] at ho
      have hr : r ≠ reaper := by
        rintro rfl
        rw [Function.update_self] at ho
        cases ho
      rw [Function.update_of_ne hr] at ho
      exact .inr ⟨ho, fun _ => by simp [hr]⟩
    | report =>
      by_cases hc : c = child
      · exact .inl ⟨hc, rfl⟩
      · rw [Owns, hcrashes, if_neg (Ne.symm hc)] at ho
        exact .inr ⟨ho, fun _ => by simp⟩
    | _ => exact .inr ⟨ho, fun _ => by simp⟩
  · intro c
    rw [hcrashes]
    by_cases hc : child = c
    · rw [if_pos hc, ← hc, hnone]
    · rw [if_neg hc]
      exact h.once c

lemma Exclusive.step (h : s.Exclusive) (hnew : s.Newborn) {a : CoreStep}
    (ha : step spec a s = some t) : t.Exclusive := by
  by_cases hands : a.hands = false
  · exact h.of_frame (frame_of_step hands ha)
  obtain ⟨hguard, rfl⟩ := step_eq_some.mp ha
  cases a with
  | spawn configPath os =>
    simp only [CoreStep.effect]
    cases spec.spawnProcess os (expandArgs spec.startArgs configPath) with
    | ok => exact h.spawned
    | error e =>
      exact h.of_same rfl rfl rfl (fun _ => rfl) (fun _ => rfl) (fun _ hk => by cases hk)
  | storeChild child => exact h.storeChild hguard
  | writeConnected child =>
    exact h.of_same rfl rfl rfl (fun _ => rfl) (fun _ => rfl) (fun _ hk => by cases hk)
  | spawnReaper child =>
    have hunborn := (hnew.starting child (by rw [hguard]; rfl)).2
    refine h.of_same rfl rfl rfl (reaping_update ?_) (fun _ => rfl) (fun _ hk => by cases hk)
    rw [hunborn]
    rfl
  | takeChild next => exact h.takeChild next
  | wake reaper failed => exact h.wake hguard.1 failed
  | reapState reaper child status =>
    exact h.of_same rfl rfl rfl (reaping_update (by rw [hguard]; rfl)) (fun _ => rfl)
      (fun _ => id)
  | sendCrashed reaper child status => exact h.sendCrashed hguard
  | _ => exact absurd rfl hands

lemma newborn_exclusive_of_run {steps : List CoreStep} (h : run spec steps = some s) :
    s.Newborn ∧ s.Exclusive :=
  runSteps_preserves (P := fun s => s.Newborn ∧ s.Exclusive)
    (fun _ _ _ hs ha => ⟨hs.1.step ha, hs.2.step hs.1 ha⟩) ⟨newborn_init, exclusive_init⟩ h

/-- In every interleaving a child is reported at most once, and a child that a `stop` or a
`kill` took is never reported. -/
theorem crashes_of_run (spec : ProcessCoreSpec) (steps : List CoreStep) (s : System)
    (h : run spec steps = some s) (child : ℕ) :
    s.crashes child ≤ 1 ∧ (child ∈ s.taken → s.crashes child = 0) := by
  have hexclusive := (newborn_exclusive_of_run h).2
  refine ⟨hexclusive.once child, fun htaken => ?_⟩
  by_contra hpos
  have hreport : s.Owns .report child := Nat.pos_of_ne_zero hpos
  have hstop : s.Owns .stop child := htaken
  cases hexclusive.owner child _ _ hreport hstop

/-- The child of a first `start` crashes and is reported, and that of a second `start` is
stopped. -/
def crashThenStop : List CoreStep :=
  .call (.start "ignored") :: startSections "ignored" healthyOs 0 ++
    [.exit 0 ⟨some 1⟩, .wake 0 false, .reapState 0 0 ⟨some 1⟩, .sendCrashed 0 0 ⟨some 1⟩] ++
    .call (.start "ignored") :: startSections "ignored" healthyOs 1 ++
    .call .stop :: stopSections 1 none ⟨none⟩

theorem crashes_of_crashThenStop : ∃ s, run sleepSpec crashThenStop = some s ∧
    s.crashes 0 = 1 ∧ (s.crashes 0 ≤ 1 ∧ (0 ∈ s.taken → s.crashes 0 = 0)) ∧
    1 ∈ s.taken ∧ (s.crashes 1 ≤ 1 ∧ (1 ∈ s.taken → s.crashes 1 = 0)) :=
  ⟨_, rfl, rfl, crashes_of_run sleepSpec crashThenStop _ rfl 0, by decide,
    crashes_of_run sleepSpec crashThenStop _ rfl 1⟩

end System
end Pingling.Cores
