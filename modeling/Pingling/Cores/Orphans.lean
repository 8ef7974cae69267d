import Pingling.Cores.MockRefinement

/-!
# No child is left behind

A child that runs is in the slot or in the hands of the call in progress, unless a `stop` took it
and could not kill it. So a `stop` that returns leaves no other child running.
-/

namespace Pingling.Cores
open Lib Domain

/-- The child that `start` has not stored yet, or that `stop` has taken and not waited for. -/
def Controller.carries : Controller → Option ℕ
  | .storeChild child | .writeDisconnecting child _ | .killChild child _ | .waitChild child _ =>
    some child
  | _ => none

/-- The controller is between the look of `start` into the slot and its write, or holds the slot
in `stop`: nobody has put a child there. -/
def Controller.found : Controller → Bool
  | .writeConnecting _ | .spawn _ | .giveUp _ | .storeChild _ | .writeDisconnecting _ _
  | .killChild _ _ | .waitChild _ _ | .writeDisconnected _ => true
  | _ => false

/-- The controller is in a `stop` that no `start` follows, or in no call. -/
def Controller.stops : Controller → Bool
  | .idle | .takeChild none | .writeDisconnecting _ none | .killChild _ none | .waitChild _ none
  | .writeDisconnected none => true
  | _ => false

/-- The kill of the child failed in one of the steps. -/
def KillFailed (steps : List CoreStep) (child : ℕ) : Prop :=
  ∃ next error, CoreStep.killChild child next (.error error) ∈ steps

lemma KillFailed.append {steps : List CoreStep} {child : ℕ} (h : KillFailed steps child)
    (a : CoreStep) : KillFailed (steps ++ [a]) child := by
  obtain ⟨next, error, hmem⟩ := h
  exact ⟨next, error, List.mem_append_left _ hmem⟩

namespace System

variable {spec : ProcessCoreSpec} {s t : System} {steps : List CoreStep}

/-- The child was spawned and has not exited. -/
def Live (s : System) (child : ℕ) : Prop :=
  child < s.spawned ∧ s.exited child = none

/-- The slot or the call in progress has the child. -/
def Holds (s : System) (child : ℕ) : Prop :=
  s.child = some child ∨ s.controller.carries = some child

/-- After these steps every child that runs is held, unless its kill failed. -/
structure Held (steps : List CoreStep) (s : System) : Prop where
  live : ∀ child, s.Live child → s.Holds child ∨ KillFailed steps child
  alone : s.controller.found = true → s.child = none

/-- A step after which no more children run, and those that do are held as before. -/
lemma Held.of_holds (h : s.Held steps) {a : CoreStep} (hspawned : t.spawned = s.spawned)
    (hexited : ∀ child, t.exited child = none → s.exited child = none)
    (hholds : ∀ child, t.Live child → s.Holds child → t.Holds child)
    (halone : t.controller.found = true → t.child = none) : t.Held (steps ++ [a]) := by
  refine ⟨fun child hchild => ?_, halone⟩
  have hlive : s.Live child := ⟨hspawned ▸ hchild.1, hexited child hchild.2⟩
  rcases h.live child hlive with hheld | hfailed
  · exact Or.inl (hholds child hchild hheld)
  · exact Or.inr (hfailed.append a)

/-- A step that leaves the slot and what the controller carries as they are. -/
lemma Held.of_same (h : s.Held steps) {a : CoreStep} (hspawned : t.spawned = s.spawned)
    (hexited : ∀ child, t.exited child = none → s.exited child = none)
    (hchild : t.child = s.child) (hcarries : t.controller.carries = s.controller.carries)
    (hfound : t.controller.found = true → s.controller.found = true) :
    t.Held (steps ++ [a]) := by
  apply h.of_holds hspawned hexited
  · intro child _ hheld
    rw [Holds, hchild, hcarries]
    exact hheld
  · intro hyes
    rw [hchild]
    exact h.alone (hfound hyes)

lemma carries_of_rests {controller : Controller} (h : controller.rests = true) :
    controller.carries = none ∧ controller.found = false := by
  cases controller <;> first | exact ⟨rfl, rfl⟩ | cases h

/-- The controller had no child in its hands and comes to rest. -/
lemma Held.of_rests (h : s.Held steps) {a : CoreStep} (hcarries : s.controller.carries = none)
    (hrests : s.Rests t) : t.Held (steps ++ [a]) := by
  obtain ⟨controller, returned, hrests, rfl⟩ := hrests
  obtain ⟨hnone, hfound⟩ := carries_of_rests hrests
  exact h.of_same rfl (fun _ => id) rfl (hnone.trans hcarries.symm)
    (fun hyes => absurd (hfound.symm.trans hyes) Bool.false_ne_true)

/-- While the controller carries nothing and nobody has stored a child, none is held. -/
lemma Held.not_holds (h : s.Held steps) (hcarries : s.controller.carries = none)
    (hfound : s.controller.found = true) (child : ℕ) : ¬s.Holds child := by
  rw [Holds, h.alone hfound, hcarries]
  simp

lemma Held.spawned (h : s.Held steps) {a : CoreStep} {configPath : String}
    (hguard : s.controller = .spawn configPath) :
    { s with spawned := s.spawned + 1, controller := .storeChild s.spawned }.Held
      (steps ++ [a]) := by
  refine ⟨fun child hlive => ?_, fun _ => h.alone (by rw [hguard]; rfl)⟩
  by_cases hnew : child = s.spawned
  · exact Or.inl (Or.inr (congrArg some hnew.symm))
  · have hold : s.Live child := ⟨by have := hlive.1; simp only at this; omega, hlive.2⟩
    have hnone := h.not_holds (by rw [hguard]; rfl) (by rw [hguard]; rfl) child
    exact Or.inr (((h.live child hold).resolve_left hnone).append a)

lemma Held.wake (h : s.Held steps) {a : CoreStep} (reaper : ℕ) (failed : Bool) :
    (s.wake reaper failed).Held (steps ++ [a]) := by
  cases hchild : s.child with
  | none =>
    rw [wake_none hchild]
    exact h.of_same rfl (fun _ => id) rfl rfl id
  | some child =>
    cases failed with
    | true =>
      rw [wake_failed hchild]
      exact h.of_same rfl (fun _ => id) rfl rfl id
    | false =>
      cases hexited : s.exited child with
      | none =>
        rw [wake_running hchild hexited]
        exact h.of_same rfl (fun _ => id) rfl rfl id
      | some status =>
        rw [wake_exited hchild hexited]
        refine h.of_holds rfl (fun _ => id) ?_ ?_
        · rintro c hlive (hslot | hcarried)
          · rw [hchild, Option.some.injEq] at hslot
            have hgone := hlive.2
            rw [← hslot] at hgone
            exact absurd (hexited.symm.trans hgone) (Option.some_ne_none _)
          · exact Or.inr hcarried
        · exact fun _ => rfl

lemma Held.takeChild (h : s.Held steps) {a : CoreStep} {next : Option String}
    (hguard : s.controller = .takeChild next) : (s.takeChild next).Held (steps ++ [a]) := by
  have hcarries : s.controller.carries = none := by rw [hguard]; rfl
  cases hchild : s.child with
  | none =>
    rw [takeChild_none hchild]
    exact h.of_rests hcarries (rests_ret _ s)
  | some child =>
    rw [takeChild_some hchild]
    refine h.of_holds rfl (fun _ => id) ?_ ?_
    · rintro c - (hslot | hcarried)
      · exact Or.inr (hchild.symm.trans hslot)
      · rw [hcarries] at hcarried
        cases hcarried
    · exact fun _ => rfl

lemma Held.setState (h : s.Held steps) (state : ConnectionState) :
    { s with state := state }.Held steps :=
  ⟨h.live, h.alone⟩

/-- A child whose kill fails is let go. -/
lemma Held.killChild (h : s.Held steps) {child : ℕ} {next : Option String}
    (hguard : s.controller = .killChild child next) (answer : Except String Unit) :
    ((CoreStep.killChild child next answer).effect spec s).Held
      (steps ++ [.killChild child next answer]) := by
  cases answer with
  | ok =>
    exact h.of_same rfl (fun _ => id) rfl (by rw [hguard]; rfl) (fun _ => by rw [hguard]; rfl)
  | error e =>
    refine ⟨fun c hlive => ?_, fun hyes => absurd hyes Bool.false_ne_true⟩
    right
    rcases h.live c hlive with (hslot | hcarried) | hfailed
    · rw [h.alone (by rw [hguard]; rfl)] at hslot
      cases hslot
    · rw [hguard] at hcarried
      obtain rfl := Option.some.inj hcarried
      exact ⟨next, e, List.mem_append_right _ (List.mem_singleton_self _)⟩
    · exact hfailed.append _

lemma Held.step (h : s.Held steps) {a : CoreStep} (ha : step spec a s = some t) :
    t.Held (steps ++ [a]) := by
  obtain ⟨hguard, rfl⟩ := step_eq_some.mp ha
  cases a with
  | call c => exact h.of_rests (by rw [hguard]; rfl) (rests_enter c s)
  | readStatus configPath =>
    exact h.of_rests (by rw [hguard]; rfl) (rests_readStatus configPath s)
  | checkSlot configPath =>
    simp only [CoreStep.effect]
    by_cases hchild : s.child.isSome = true
    · rw [if_pos hchild]
      exact h.of_rests (by rw [hguard]; rfl) (rests_ret _ s)
    · rw [if_neg hchild]
      refine h.of_holds rfl (fun _ => id) ?_ ?_
      · rintro child - (hslot | hcarried)
        · exact Or.inl hslot
        · rw [hguard] at hcarried
          cases hcarried
      · exact fun _ => by simpa using hchild
  | spawn configPath os =>
    simp only [CoreStep.effect]
    cases spec.spawnProcess os (expandArgs spec.startArgs configPath) with
    | ok => exact h.spawned hguard
    | error e =>
      exact h.of_same rfl (fun _ => id) rfl (by rw [hguard]; rfl) (fun _ => by rw [hguard]; rfl)
  | storeChild child =>
    have hnone := h.alone (by rw [hguard]; rfl)
    refine h.of_holds rfl (fun _ => id) ?_ ?_
    · rintro c - (hslot | hcarried)
      · rw [hnone] at hslot
        cases hslot
      · rw [hguard] at hcarried
        exact Or.inl hcarried
    · exact fun hyes => absurd hyes Bool.false_ne_true
  | giveUp error =>
    exact (h.setState .disconnected).of_rests (by rw [hguard]; rfl) (rests_ret _ _)
  | takeChild next => exact h.takeChild hguard
  | killChild child next answer => exact h.killChild hguard answer
  | waitChild child next =>
    have hnone := h.alone (by rw [hguard.1]; rfl)
    refine h.of_holds rfl (fun _ => id) ?_ ?_
    · rintro c hlive (hslot | hcarried)
      · rw [hnone] at hslot
        cases hslot
      · rw [hguard.1] at hcarried
        obtain rfl := Option.some.inj hcarried
        exact absurd hlive.2 hguard.2
    · exact fun _ => hnone
  | writeDisconnected next =>
    exact (h.setState .disconnected).of_rests (by rw [hguard]; rfl) (rests_stopped next _)
  | wake reaper failed => exact h.wake reaper failed
  | exit child status =>
    refine h.of_same rfl (fun c hc => ?_) rfl rfl id
    by_contra hgone
    have hne : c ≠ child := by
      rintro rfl
      exact hgone hguard.2
    exact hgone (Eq.trans (Function.update_of_ne hne _ _).symm hc)
  | reapState | sendCrashed | printLine => exact h.of_same rfl (fun _ => id) rfl rfl id
  | writeConnected | spawnReaper =>
    exact h.of_same rfl (fun _ => id) rfl (by rw [hguard]; rfl)
      (fun hyes => absurd hyes Bool.false_ne_true)
  | writeConnecting | writeDisconnecting =>
    exact h.of_same rfl (fun _ => id) rfl (by rw [hguard]; rfl) (fun _ => by rw [hguard]; rfl)

lemma held_of_run (h : run spec steps = some s) : s.Held steps := by
  refine runSteps_invariant ?_ (fun _ _ _ _ _ ht ha => ht.step ha) h
  exact ⟨fun child hlive => absurd hlive.1 (Nat.not_lt_zero child), fun _ => rfl⟩

/-- Two children are not held at the same time. -/
lemma Held.unique (h : s.Held steps) {child child' : ℕ} (hc : s.Holds child)
    (hc' : s.Holds child') : child = child' := by
  have hfound : ∀ c, s.controller.carries = some c → s.child = none := by
    intro c hcarries
    apply h.alone
    cases hcontroller : s.controller <;> rw [hcontroller] at hcarries <;>
      first | rfl | cases hcarries
  rcases hc with hslot | hcarried <;> rcases hc' with hslot' | hcarried'
  · exact Option.some.inj (hslot.symm.trans hslot')
  · exact absurd (hslot.symm.trans (hfound child' hcarried')) (Option.some_ne_none _)
  · exact absurd (hslot'.symm.trans (hfound child hcarried)) (Option.some_ne_none _)
  · exact Option.some.inj (hcarried.symm.trans hcarried')

/-- Once the child has been taken, the slot stays empty until the next call. -/
def Stopping (s : System) : Prop :=
  s.controller.stops = true ∧ (s.child = none ∨ s.controller = .takeChild none)

lemma Stopping.wake (h : s.Stopping) (reaper : ℕ) (failed : Bool) :
    (s.wake reaper failed).Stopping := by
  have hcontroller : (s.wake reaper failed).controller = s.controller := by
    unfold System.wake
    cases s.child with
    | none => rfl
    | some child =>
      cases failed with
      | true => rfl
      | false => cases hexited : s.exited child <;> simp [hexited]
  rw [Stopping, hcontroller]
  refine ⟨h.1, h.2.imp_left fun hnone => ?_⟩
  rw [wake_none hnone]
  exact hnone

lemma Stopping.step (h : s.Stopping) {a : CoreStep} (hcall : a.begins = none)
    (ha : step spec a s = some t) : t.Stopping := by
  obtain ⟨hguard, rfl⟩ := step_eq_some.mp ha
  obtain ⟨hstops, hempty⟩ := h
  have hnone : s.controller ≠ .takeChild none → s.child = none := hempty.resolve_right
  cases a with
  | call c => cases hcall
  | takeChild next =>
    rw [hguard] at hstops
    cases next with
    | some configPath => cases hstops
    | none =>
      cases hchild : s.child with
      | none =>
        simp only [CoreStep.effect, takeChild_none hchild]
        exact ⟨rfl, Or.inl hchild⟩
      | some child =>
        simp only [CoreStep.effect, takeChild_some hchild]
        exact ⟨rfl, Or.inl rfl⟩
  | writeDisconnecting child next =>
    rw [hguard] at hstops
    cases next with
    | some configPath => cases hstops
    | none => exact ⟨rfl, Or.inl (hnone (by rw [hguard]; simp))⟩
  | killChild child next answer =>
    rw [hguard] at hstops
    cases next with
    | some configPath => cases hstops
    | none =>
      have hslot := hnone (by rw [hguard]; simp)
      cases answer <;> exact ⟨rfl, Or.inl hslot⟩
  | waitChild child next =>
    have hslot := hnone (by rw [hguard.1]; simp)
    rw [hguard.1] at hstops
    cases next with
    | some configPath => cases hstops
    | none => exact ⟨rfl, Or.inl hslot⟩
  | writeDisconnected next =>
    rw [hguard] at hstops
    cases next with
    | some configPath => cases hstops
    | none => exact ⟨rfl, Or.inl (hnone (by rw [hguard]; simp))⟩
  | wake reaper failed => exact Stopping.wake ⟨hstops, hempty⟩ reaper failed
  | reapState | sendCrashed | exit | printLine => exact ⟨hstops, hempty⟩
  | _ =>
    rw [hguard] at hstops
    cases hstops

/-- In every interleaving a child that runs is in the slot or in the hands of the call in
progress, and at most one is, unless its kill failed. Once a `stop` has returned and no other call
has come, no child runs but those whose kill failed. -/
theorem live_children_held (spec : ProcessCoreSpec) (steps : List CoreStep) (s : System)
    (h : run spec steps = some s) :
    (∀ child, s.Live child → s.Holds child ∨ KillFailed steps child) ∧
    (∀ child child', s.Holds child → s.Holds child' → child = child') ∧
    ∀ before after c, steps = before ++ .call c :: after → c = .stop ∨ c = .kill →
      (∀ a ∈ after, a.begins = none) → s.controller = .idle →
      ∀ child, s.Live child → KillFailed steps child := by
  have hheld := held_of_run h
  refine ⟨hheld.live, fun _ _ hc hc' => hheld.unique hc hc', ?_⟩
  rintro before after c rfl hstop hafter hidle child hlive
  obtain ⟨s₁, hbefore, hrest⟩ := runSteps_append.mp h
  obtain ⟨s₂, hcall, hrest⟩ := runSteps_cons.mp hrest
  obtain ⟨hguard, hs₂⟩ := step_eq_some.mp hcall
  have hstopping : s₂.Stopping := by
    rw [← hs₂]
    rcases hstop with rfl | rfl <;> exact ⟨rfl, Or.inr rfl⟩
  have hlast : s.Stopping :=
    runSteps_preserves_of (fun a _ _ hs hbegins ha => hs.step hbegins ha) hstopping
      (eachStep_of_mem hafter s₂) hrest
  have hslot : s.child = none := hlast.2.resolve_right (by rw [hidle]; simp)
  apply (hheld.live child hlive).resolve_left
  rw [Holds, hslot, hidle]
  exact nofun

/-- A `start`, and a `stop` whose kill fails. -/
def refusedStop : List CoreStep :=
  .call (.start "ignored") :: startSections "ignored" healthyOs 0 ++
    [.call .stop, .takeChild none, .writeDisconnecting 0 none,
      .killChild 0 none (.error "not permitted")]

theorem live_children_held_refusedStop : ∃ s, run sleepSpec refusedStop = some s ∧ s.Live 0 ∧
    ∀ child, s.Live child → KillFailed refusedStop child :=
  ⟨_, rfl, ⟨by decide, rfl⟩, (live_children_held sleepSpec refusedStop _ rfl).2.2
    (.call (.start "ignored") :: startSections "ignored" healthyOs 0) _ .stop rfl (Or.inl rfl)
    (by decide) rfl⟩

end System
end Pingling.Cores
