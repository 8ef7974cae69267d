import Pingling.Cores.Ownership

/-!
# What a reaper watches

A reaper looks at whatever the slot holds when it wakes up. It watches its own child as long
as every `start` stores its child when no earlier reaper is asleep.
-/

namespace Pingling.Cores
open Lib Domain

/-- `start` stores its child when no reaper is asleep. -/
def CoreStep.NoneAsleep : CoreStep → System → Prop
  | .storeChild _, s => ∀ reaper, s.reapers reaper ≠ .asleep
  | _, _ => True

/-- The child that `start` has stored and whose reaper it has not made yet. -/
def Controller.stored : Controller → Option ℕ
  | .writeConnected child | .spawnReaper child => some child
  | _ => none

namespace System

/-- No reaper has polled or reaped the child of another, one whose child was stopped ends when
it wakes up next, and no two are asleep at once. -/
structure WatchesOwn (spec : ProcessCoreSpec) (s : System) : Prop where
  polls : ∀ reaper child, (reaper, child) ∈ s.polls → child = reaper
  reaped : ∀ reaper child, (s.reapers reaper).reaping = some child → child = reaper
  stopped : ∀ reaper ∈ s.taken, s.reapers reaper = .asleep → ∀ failed t,
    step spec (.wake reaper failed) s = some t → t.reapers reaper = .ended
  one : ∀ reaper reaper', s.reapers reaper = .asleep → s.reapers reaper' = .asleep →
    reaper = reaper'

variable {spec : ProcessCoreSpec} {s t : System}

structure Watched (s : System) : Prop where
  own : ∀ reaper child, s.reapers reaper = .asleep → s.child = some child → child = reaper
  one : ∀ reaper reaper', s.reapers reaper = .asleep → s.reapers reaper' = .asleep →
    reaper = reaper'
  stored : ∀ child, s.controller.stored = some child →
    (∀ reaper, s.reapers reaper ≠ .asleep) ∧ ∀ child', s.child = some child' → child' = child
  polls : ∀ reaper child, (reaper, child) ∈ s.polls → child = reaper
  reaped : ∀ reaper child, (s.reapers reaper).reaping = some child → child = reaper

lemma watched_init : init.Watched where
  own := fun _ _ h => by cases h
  one := fun _ _ h => by cases h
  stored := fun _ h => by cases h
  polls := fun _ _ h => by cases h
  reaped := fun _ _ h => by cases h

/-- A step that wakes no reaper and puts nothing into the slot. -/
lemma Watched.of_less (h : s.Watched)
    (hasleep : ∀ reaper, t.reapers reaper = .asleep → s.reapers reaper = .asleep)
    (hchild : ∀ child, t.child = some child → s.child = some child)
    (hstored : ∀ child, t.controller.stored = some child → s.controller.stored = some child)
    (hpolls : t.polls = s.polls)
    (hreaping : ∀ reaper child, (t.reapers reaper).reaping = some child →
      (s.reapers reaper).reaping = some child) : t.Watched where
  own := fun reaper child hr hc => h.own reaper child (hasleep reaper hr) (hchild child hc)
  one := fun reaper reaper' hr hr' => h.one reaper reaper' (hasleep reaper hr) (hasleep reaper' hr')
  stored := fun child hk =>
    ⟨fun reaper hr => (h.stored child (hstored child hk)).1 reaper (hasleep reaper hr),
      fun child' hc => (h.stored child (hstored child hk)).2 child' (hchild child' hc)⟩
  polls := fun reaper child hpoll => h.polls reaper child (hpolls ▸ hpoll)
  reaped := fun reaper child hr => h.reaped reaper child (hreaping reaper child hr)

lemma stored_of_starting {controller : Controller} (h : controller.starting = none) :
    controller.stored = none := by
  cases controller <;> first | rfl | cases h

lemma Watched.of_frame (h : s.Watched) (hframe : s.Frame t) : t.Watched := by
  refine h.of_less (fun r hr => hframe.reapers ▸ hr) (fun c hc => hframe.child ▸ hc)
    (fun c hk => ?_) hframe.polls (fun r c hr => hframe.reapers ▸ hr)
  cases hframe.starting with
  | inl hsame => exact hsame ▸ hk
  | inr hnone =>
    rw [stored_of_starting hnone] at hk
    cases hk

lemma asleep_update {reapers : ℕ → Reaper} {reaper : ℕ} {phase : Reaper}
    (hphase : phase ≠ .asleep) (r : ℕ)
    (hr : Function.update reapers reaper phase r = .asleep) : reapers r = .asleep := by
  by_cases hne : r = reaper
  · rw [hne, Function.update_self] at hr
    exact absurd hr hphase
  · rwa [Function.update_of_ne hne] at hr

lemma reaping_of_update {reapers : ℕ → Reaper} {reaper : ℕ} {phase : Reaper}
    (hphase : ∀ child, phase.reaping = some child → (reapers reaper).reaping = some child)
    (r child : ℕ) (hr : (Function.update reapers reaper phase r).reaping = some child) :
    (reapers r).reaping = some child := by
  by_cases hne : r = reaper
  · rw [hne, Function.update_self] at hr
    rw [hne]
    exact hphase child hr
  · rwa [Function.update_of_ne hne] at hr

lemma Watched.polled (h : s.Watched) {reaper child : ℕ} (hasleep : s.reapers reaper = .asleep)
    (hchild : s.child = some child) :
    { s with polls := s.polls ++ [(reaper, child)] }.Watched where
  own := h.own
  one := h.one
  stored := h.stored
  polls := fun r c hpoll => by
    cases List.mem_append.mp hpoll with
    | inl hold => exact h.polls r c hold
    | inr hnew =>
      obtain ⟨rfl, rfl⟩ := Prod.mk.inj (List.mem_singleton.mp hnew)
      exact h.own r c hasleep hchild
  reaped := h.reaped

lemma Watched.cleared (h : s.Watched) {reaper child : ℕ} (hasleep : s.reapers reaper = .asleep)
    (hown : child = reaper) (status : ExitStatus) :
    { s with
      child := none
      reapers := Function.update s.reapers reaper (.cleared child status) }.Watched := by
  have hless : ∀ r, Function.update s.reapers reaper (.cleared child status) r = .asleep →
      s.reapers r = .asleep := asleep_update (by simp)
  constructor
  · intro r c hr hc
    cases hc
  · intro r r' hr hr'
    exact h.one r r' (hless r hr) (hless r' hr')
  · intro c hk
    exact absurd hasleep ((h.stored c hk).1 reaper)
  · exact h.polls
  · intro r c hr
    by_cases hne : r = reaper
    · simp only [hne, Function.update_self, Reaper.reaping, Option.some.injEq] at hr
      rw [← hr, hne, hown]
    · simp only [Function.update_of_ne hne] at hr
      exact h.reaped r c hr

lemma Watched.wake (h : s.Watched) {reaper : ℕ} (hasleep : s.reapers reaper = .asleep)
    (failed : Bool) : (s.wake reaper failed).Watched := by
  cases hchild : s.child with
  | none =>
    rw [wake_none hchild]
    exact h.of_less (asleep_update (by simp)) (fun _ => id) (fun _ => id) rfl
      (reaping_of_update (fun _ hk => by cases hk))
  | some child =>
    have hpolled := h.polled hasleep hchild
    cases failed with
    | true =>
      rw [wake_failed hchild]
      exact hpolled.of_less (asleep_update (by simp)) (fun _ => id) (fun _ => id) rfl
        (reaping_of_update (fun _ hk => by cases hk))
    | false =>
      cases hexited : s.exited child with
      | none =>
        rw [wake_running hchild hexited]
        exact hpolled
      | some status =>
        rw [wake_exited hchild hexited]
        exact hpolled.cleared hasleep (h.own reaper child hasleep hchild) status

lemma Watched.storeChild (h : s.Watched) {child : ℕ}
    (hnone : ∀ reaper, s.reapers reaper ≠ .asleep) :
    { s with child := some child, controller := .writeConnected child }.Watched where
  own := fun reaper _ hr => absurd hr (hnone reaper)
  one := h.one
  stored := fun c hk => by
    cases hk
    exact ⟨hnone, fun _ hc => (Option.some.inj hc).symm⟩
  polls := h.polls
  reaped := h.reaped

lemma Watched.spawnReaper (h : s.Watched) {child : ℕ}
    (hphase : s.controller = .spawnReaper child) :
    ((CoreStep.spawnReaper child).effect spec s).Watched := by
  obtain ⟨hnone, hslot⟩ := h.stored child (by rw [hphase]; rfl)
  have hself : ∀ r, Function.update s.reapers child .asleep r = .asleep → r = child := by
    intro r hr
    by_contra hne
    rw [Function.update_of_ne hne] at hr
    exact hnone r hr
  constructor
  · intro r c hr hc
    rw [hself r hr]
    exact hslot c hc
  · intro r r' hr hr'
    rw [hself r hr, hself r' hr']
  · intro c hk
    cases hk
  · exact h.polls
  · intro r c hr
    exact h.reaped r c (reaping_of_update (fun _ hk => by cases hk) r c hr)

lemma Watched.step (h : s.Watched) {a : CoreStep} (hnone : a.NoneAsleep s)
    (ha : step spec a s = some t) : t.Watched := by
  by_cases hands : a.hands = false
  · exact h.of_frame (frame_of_step hands ha)
  obtain ⟨hguard, rfl⟩ := step_eq_some.mp ha
  cases a with
  | spawn configPath os =>
    simp only [CoreStep.effect]
    cases spec.spawnProcess os (expandArgs spec.startArgs configPath) <;>
      exact h.of_less (fun _ => id) (fun _ => id) (fun _ hk => by cases hk) rfl (fun _ _ => id)
  | storeChild child => exact h.storeChild hnone
  | writeConnected child =>
    exact h.of_less (fun _ => id) (fun _ => id) (fun c hk => by rw [hguard]; exact hk) rfl
      (fun _ _ => id)
  | spawnReaper child => exact h.spawnReaper hguard
  | takeChild next =>
    cases hchild : s.child with
    | none =>
      simp only [CoreStep.effect, takeChild_none hchild]
      exact h.of_frame (rests_ret _ s).frame
    | some child =>
      simp only [CoreStep.effect, takeChild_some hchild]
      exact h.of_less (fun _ => id) (fun _ hc => by cases hc) (fun _ hk => by cases hk) rfl
        (fun _ _ => id)
  | wake reaper failed => exact h.wake hguard.1 failed
  | reapState reaper child status =>
    have hcleared : s.reapers reaper = .cleared child status := hguard
    exact h.of_less (asleep_update (by simp)) (fun _ => id) (fun _ => id) rfl
      (reaping_of_update (fun c hk => by rw [hcleared]; exact hk))
  | sendCrashed reaper child status =>
    exact h.of_less (asleep_update (by simp)) (fun _ => id) (fun _ => id) rfl
      (reaping_of_update (fun _ hk => by cases hk))
  | _ => exact absurd rfl hands

lemma Watched.watchesOwn (h : s.Watched) (hexclusive : s.Exclusive) : s.WatchesOwn spec where
  polls := h.polls
  reaped := h.reaped
  stopped := fun reaper htaken hasleep failed t ht => by
    -- the slot could only hold the child that was stopped
    have hempty : s.child = none := by
      by_contra hfull
      obtain ⟨child, hchild⟩ := Option.ne_none_iff_exists'.mp hfull
      have hslot : s.Owns .slot reaper := h.own reaper child hasleep hchild ▸ hchild
      have hstop : s.Owns .stop reaper := htaken
      cases hexclusive.owner reaper _ _ hslot hstop
    obtain ⟨-, rfl⟩ := step_eq_some.mp ht
    simp only [CoreStep.effect, wake_none hempty, Function.update_self]
  one := h.one

/-- In every interleaving in which no reaper is asleep while a `start` stores its child, each
reaper watches only its own child. -/
theorem watchesOwn_of_run (spec : ProcessCoreSpec) (steps : List CoreStep) (s : System)
    (hnone : EachStep (step spec) CoreStep.NoneAsleep steps init)
    (h : run spec steps = some s) : s.WatchesOwn spec := by
  have hwatched : s.Watched :=
    runSteps_preserves_of (fun a s t hs hnone ha => hs.step hnone ha) watched_init hnone h
  exact hwatched.watchesOwn (newborn_exclusive_of_run h).2

/-- A `stop` and a `start` between two looks of the first reaper. -/
def restartedWithinSleep : List CoreStep :=
  .call (.start "ignored") :: startSections "ignored" healthyOs 0 ++
    .call .stop :: stopSections 0 none ⟨none⟩ ++
    .call (.start "ignored") :: startSections "ignored" healthyOs 1 ++ [.wake 0 false]

/-- The first reaper then polls the second child, and two reapers stay asleep. -/
theorem not_watchesOwn_of_run : ¬ ∀ (spec : ProcessCoreSpec) (steps : List CoreStep)
    (s : System), run spec steps = some s → s.WatchesOwn spec := by
  intro hwatchesOwn
  have hwatches := hwatchesOwn sleepSpec restartedWithinSleep _ rfl
  have hpoll := hwatches.polls 0 1 (by decide)
  omega

/-- The first reaper looks once between the `stop` and the second `start`. -/
def restartedAfterSleep : List CoreStep :=
  .call (.start "ignored") :: startSections "ignored" healthyOs 0 ++ .wake 0 false ::
    .call .stop :: stopSections 0 none ⟨none⟩ ++ .wake 0 false ::
    .call (.start "ignored") :: startSections "ignored" healthyOs 1 ++ [.wake 1 false]

theorem watchesOwn_of_restartedAfterSleep : ∃ s,
    run sleepSpec restartedAfterSleep = some s ∧ s.polls = [(0, 0), (1, 1)] ∧
      s.WatchesOwn sleepSpec := by
  refine ⟨_, rfl, rfl, watchesOwn_of_run sleepSpec restartedAfterSleep _ ?_ rfl⟩
  repeat' first
    | exact trivial
    | exact fun reaper hasleep => by rcases reaper with _ | reaper <;> cases hasleep
    | apply EachStep.cons rfl

end System
end Pingling.Cores
