import Pingling.Lib.Gate
import Pingling.Ipc.ExactlyOnce
import Pingling.Ipc.SlotObserver

/-!
# The observer under concurrent calls

A call of `observe` looks at the switch of the log, then at the switch of the broadcast, and then
publishes; other calls and other publications take their steps in between, and so do the two
setters. `listener_hears` says what a subscriber gets out of its socket after any interleaving.
-/

namespace Pingling.Ipc
open Lib Domain

structure BroadcastingSlotObserver where
  logEnabled : Bool
  broadcastEnabled : Bool

def BroadcastingSlotObserver.new : BroadcastingSlotObserver :=
  ⟨true, true⟩

/-- How far a call of `observe` has come before it publishes. -/
inductive ObservePhase where
  | start
  | logged
  | admitted
  | refused
  deriving DecidableEq

/-- The observer, the log, the calls of `observe` and the broadcaster. -/
structure ObserverSystem (κ ι : Type) where
  observer : BroadcastingSlotObserver
  log : List LogRecord
  observing : κ → ObservePhase
  system : System κ ι

inductive ObserverStep (κ ι : Type) where
  | setLogEnabled (enabled : Bool)
  | setBroadcastEnabled (enabled : Bool)
  /-- The log sink of a call of `observe`. -/
  | record (call : κ)
  /-- A call of `observe` looks at the switch of the broadcast. -/
  | checkBroadcast (call : κ)
  | broadcast (step : BroadcastStep κ ι)

variable {κ ι : Type} [DecidableEq κ] [DecidableEq ι] (published : κ → Publication)

namespace ObserverSystem

def init : ObserverSystem κ ι :=
  ⟨.new, [], fun _ => .start, .init⟩

/-- An observation is published by a call that was admitted, and anything else at once. -/
def mayTake (s : ObserverSystem κ ι) : BroadcastStep κ ι → Bool
  | .record call => (published call).observation.isNone || s.observing call = .admitted
  | _ => true

def step : ObserverStep κ ι → ObserverSystem κ ι → Option (ObserverSystem κ ι)
  | .setLogEnabled enabled, s =>
    some { s with observer := { s.observer with logEnabled := enabled } }
  | .setBroadcastEnabled enabled, s =>
    some { s with observer := { s.observer with broadcastEnabled := enabled } }
  | .record call, s =>
    match (published call).observation with
    | some o =>
      if s.observing call = .start then
        some { s with
          log := if s.observer.logEnabled then s.log ++ [slotRecord o] else s.log
          observing := Function.update s.observing call .logged }
      else none
    | none => none
  | .checkBroadcast call, s =>
    if s.observing call = .logged then
      some { s with
        observing := Function.update s.observing call
          (if s.observer.broadcastEnabled then .admitted else .refused) }
    else none
  | .broadcast step, s =>
    if s.mayTake published step then
      (System.step step s.system).map fun system => { s with system := system }
    else none

abbrev run (steps : List (ObserverStep κ ι)) : Option (ObserverSystem κ ι) :=
  runSteps (step published) steps init

end ObserverSystem

/-- The steps of the broadcaster. -/
def broadcasts (steps : List (ObserverStep κ ι)) : List (BroadcastStep κ ι) :=
  steps.filterMap fun
    | .broadcast step => some step
    | _ => none

def logSwitch : ObserverStep κ ι → Option Bool
  | .setLogEnabled enabled => some enabled
  | _ => none

def broadcastSwitch : ObserverStep κ ι → Option Bool
  | .setBroadcastEnabled enabled => some enabled
  | _ => none

def recordStep : ObserverStep κ ι → Option κ
  | .record call => some call
  | _ => none

def checkStep : ObserverStep κ ι → Option κ
  | .checkBroadcast call => some call
  | _ => none

/-- The calls that came to the log sink while it was on. -/
def reported (steps : List (ObserverStep κ ι)) : List κ :=
  Gate.passed logSwitch recordStep true steps

/-- The calls that came to the broadcast sink while it was on. -/
def admitted (steps : List (ObserverStep κ ι)) : List κ :=
  Gate.passed broadcastSwitch checkStep true steps

omit [DecidableEq κ] [DecidableEq ι] in
@[simp] lemma broadcasts_append (steps steps' : List (ObserverStep κ ι)) :
    broadcasts (steps ++ steps') = broadcasts steps ++ broadcasts steps' :=
  List.filterMap_append

namespace ObserverSystem

/-- What the steps taken say about the state. -/
structure Traced (steps : List (ObserverStep κ ι)) (s : ObserverSystem κ ι) : Prop where
  logEnabled : Gate.after logSwitch true steps = s.observer.logEnabled
  broadcastEnabled : Gate.after broadcastSwitch true steps = s.observer.broadcastEnabled
  log : s.log = (reported steps).filterMap fun call => (published call).observation.map slotRecord
  observes : ∀ call, s.observing call ≠ .start → (published call).observation ≠ none
  mem_admitted : ∀ call, call ∈ admitted steps ↔ s.observing call = .admitted
  nodup_admitted : (admitted steps).Nodup
  system : System.run (broadcasts steps) = some s.system
  recorded_admitted : ∀ call ∈ recorded (broadcasts steps), (published call).observation ≠ none →
    s.observing call = .admitted

variable {published} {s t : ObserverSystem κ ι} {steps : List (ObserverStep κ ι)}

variable (published) in
/-- What a step does to each part of the state. -/
structure Effect (a : ObserverStep κ ι) (s t : ObserverSystem κ ι) : Prop where
  observer : t.observer = ⟨(logSwitch a).getD s.observer.logEnabled,
    (broadcastSwitch a).getD s.observer.broadcastEnabled⟩
  log : t.log = s.log ++ (if s.observer.logEnabled then (recordStep a).toList else []).filterMap
    fun call => (published call).observation.map slotRecord
  record : ∀ call, recordStep a = some call → (published call).observation ≠ none ∧
    s.observing call = .start ∧ t.observing = Function.update s.observing call .logged
  check : ∀ call, checkStep a = some call → s.observing call = .logged ∧
    t.observing = Function.update s.observing call
      (if s.observer.broadcastEnabled then .admitted else .refused)
  others : recordStep a = none → checkStep a = none → t.observing = s.observing
  system : runSteps System.step (broadcasts [a]) s.system = some t.system
  allowed : ∀ call, a = .broadcast (.record call) → (published call).observation ≠ none →
    s.observing call = .admitted

lemma step_effect {a : ObserverStep κ ι} (ha : step published a s = some t) :
    Effect published a s t := by
  have hnothing : ∀ (on : Bool) (log : List LogRecord) (f : κ → Option LogRecord),
      log = log ++ (if on then (none : Option κ).toList else []).filterMap f := by
    intro on log f
    cases on <;> simp
  cases a with
  | setLogEnabled enabled =>
    obtain rfl := Option.some.inj ha
    exact ⟨rfl, hnothing _ _ _, nofun, nofun, fun _ _ => rfl, rfl, nofun⟩
  | setBroadcastEnabled enabled =>
    obtain rfl := Option.some.inj ha
    exact ⟨rfl, hnothing _ _ _, nofun, nofun, fun _ _ => rfl, rfl, nofun⟩
  | record call =>
    rw [step] at ha
    cases ho : (published call).observation with
    | none =>
      rw [ho] at ha
      cases ha
    | some o =>
      rw [ho] at ha
      simp only [Option.ite_none_right_eq_some, Option.some.injEq] at ha
      obtain ⟨hstart, rfl⟩ := ha
      refine ⟨rfl, ?_, ?_, nofun, nofun, rfl, nofun⟩
      · cases s.observer.logEnabled <;> simp [recordStep, ho]
      · rintro call' hcall
        obtain rfl := Option.some.inj hcall
        exact ⟨by simp [ho], hstart, rfl⟩
  | checkBroadcast call =>
    rw [step, Option.ite_none_right_eq_some, Option.some.injEq] at ha
    obtain ⟨hlogged, rfl⟩ := ha
    refine ⟨rfl, hnothing _ _ _, nofun, ?_, nofun, rfl, nofun⟩
    rintro call' hcall
    obtain rfl := Option.some.inj hcall
    exact ⟨hlogged, rfl⟩
  | broadcast b =>
    rw [step, Option.ite_none_right_eq_some, Option.map_eq_some_iff] at ha
    obtain ⟨hmay, system, hsystem, rfl⟩ := ha
    refine ⟨rfl, hnothing _ _ _, nofun, nofun, fun _ _ => rfl, ?_, ?_⟩
    · exact runSteps_cons.mpr ⟨system, hsystem, rfl⟩
    · rintro call heq hslot
      obtain rfl := ObserverStep.broadcast.inj heq
      simpa [mayTake, hslot] using hmay

/-- A call that was admitted stays so, and no other step admits one. -/
lemma Effect.admitted_iff {a : ObserverStep κ ι} (h : Effect published a s t) (call : κ) :
    t.observing call = .admitted ↔ s.observing call = .admitted ∨
      (s.observer.broadcastEnabled = true ∧ checkStep a = some call) := by
  have hother : recordStep a = none → checkStep a = none →
      (t.observing call = .admitted ↔ s.observing call = .admitted ∨
        (s.observer.broadcastEnabled = true ∧ checkStep a = some call)) := by
    intro hrecord hadmit
    rw [h.others hrecord hadmit, hadmit]
    simp
  cases a with
  | record call' =>
    obtain ⟨-, hstart, hobserving⟩ := h.record call' rfl
    rw [hobserving]
    by_cases hcall : call = call'
    · simp [hcall, hstart, checkStep]
    · simp [hcall, checkStep]
  | checkBroadcast call' =>
    obtain ⟨hlogged, hobserving⟩ := h.check call' rfl
    rw [hobserving]
    by_cases hcall : call = call'
    · rw [hcall, Function.update_self]
      cases s.observer.broadcastEnabled <;> simp [hlogged, checkStep]
    · have hne : call' ≠ call := Ne.symm hcall
      simp [hcall, hne, checkStep]
  | _ => exact hother rfl rfl

/-- Only a call that has something to observe begins. -/
lemma Effect.begins {a : ObserverStep κ ι} (h : Effect published a s t) {call : κ}
    (ht : t.observing call ≠ .start) :
    s.observing call ≠ .start ∨ (published call).observation ≠ none := by
  by_contra hnot
  rw [not_or, not_not, not_not] at hnot
  obtain ⟨hstart, hnone⟩ := hnot
  cases a with
  | record call' =>
    obtain ⟨hslot, -, hobserving⟩ := h.record call' rfl
    have hne : call ≠ call' := by
      rintro rfl
      exact hslot hnone
    rw [hobserving, Function.update_of_ne hne] at ht
    exact ht hstart
  | checkBroadcast call' =>
    obtain ⟨hlogged, hobserving⟩ := h.check call' rfl
    have hne : call ≠ call' := by
      rintro rfl
      rw [hstart] at hlogged
      cases hlogged
    rw [hobserving, Function.update_of_ne hne] at ht
    exact ht hstart
  | _ =>
    rw [h.others rfl rfl] at ht
    exact ht hstart

lemma Traced.step (h : s.Traced published steps) {a : ObserverStep κ ι}
    (ha : step published a s = some t) : t.Traced published (steps ++ [a]) := by
  have heffect := step_effect ha
  have hadmitted : admitted (steps ++ [a]) =
      admitted steps ++ if s.observer.broadcastEnabled then (checkStep a).toList else [] := by
    rw [admitted, Gate.passed_concat, h.broadcastEnabled]
    rfl
  have hreported : reported (steps ++ [a]) =
      reported steps ++ if s.observer.logEnabled then (recordStep a).toList else [] := by
    rw [reported, Gate.passed_concat, h.logEnabled]
    rfl
  constructor
  · rw [Gate.after_concat, h.logEnabled, heffect.observer]
  · rw [Gate.after_concat, h.broadcastEnabled, heffect.observer]
  · rw [heffect.log, h.log, hreported, List.filterMap_append]
  · intro call hcall
    exact (heffect.begins hcall).elim (h.observes call) id
  · intro call
    rw [hadmitted, List.mem_append, heffect.admitted_iff, h.mem_admitted]
    cases s.observer.broadcastEnabled <;> simp
  · rw [hadmitted, List.nodup_append']
    refine ⟨h.nodup_admitted, ?_, ?_⟩
    · cases s.observer.broadcastEnabled <;> cases checkStep a <;> simp
    · intro call hold hnew
      have hadmit : checkStep a = some call := by
        cases hon : s.observer.broadcastEnabled <;> simp_all
      have hlogged := (heffect.check call hadmit).1
      rw [(h.mem_admitted call).mp hold] at hlogged
      cases hlogged
  · rw [broadcasts_append]
    exact runSteps_append.mpr ⟨s.system, h.system, heffect.system⟩
  · intro call hcall hslot
    rw [broadcasts_append, recorded_append, List.mem_append] at hcall
    apply (heffect.admitted_iff call).mpr
    left
    rcases hcall with hold | hnew
    · exact h.recorded_admitted call hold hslot
    · refine heffect.allowed call ?_ hslot
      cases a with
      | broadcast b =>
        cases b with
        | record call' =>
          obtain rfl := List.mem_singleton.mp hnew
          rfl
        | _ => cases hnew
      | _ => cases hnew

theorem run_traced (h : run published steps = some s) : s.Traced published steps := by
  refine runSteps_invariant ?_ (fun _ _ _ _ _ ht ha => ht.step ha) h
  refine ⟨rfl, rfl, rfl, fun call hcall => absurd rfl hcall, fun call => ?_, List.nodup_nil, rfl,
    nofun⟩
  exact iff_of_false List.not_mem_nil nofun

/-- Every call of `observe` that was admitted has published. -/
def Settled (s : ObserverSystem κ ι) : Prop :=
  ∀ call, s.observing call = .admitted → s.system.publishing call = .done

/-- The observations of some calls. -/
def observed (published : κ → Publication) (calls : List κ) : List SlotObservation :=
  calls.filterMap fun call => (published call).observation

omit [DecidableEq κ] in
lemma observed_perm {calls calls' : List κ} (hnodup : calls.Nodup) (hnodup' : calls'.Nodup)
    (h : ∀ call, (published call).observation ≠ none → (call ∈ calls ↔ call ∈ calls')) :
    (observed published calls).Perm (observed published calls') := by
  have hfilter : ∀ calls : List κ, observed published calls =
      observed published (calls.filter fun call => (published call).observation.isSome) := by
    intro calls
    rw [observed, observed, List.filterMap_filter]
    apply List.filterMap_congr
    intro call _
    cases (published call).observation <;> rfl
  rw [hfilter calls, hfilter calls']
  apply List.Perm.filterMap
  rw [List.perm_ext_iff_of_nodup (hnodup.filter _) (hnodup'.filter _)]
  intro call
  simp only [List.mem_filter, Option.isSome_iff_ne_none]
  exact and_congr_left fun hslot => h call hslot

/-- Of the calls that are recorded, those of the observer were admitted. -/
lemma Traced.mem_admitted_of_recorded (h : s.Traced published steps) {call : κ}
    (hcall : call ∈ recorded (broadcasts steps)) (hslot : (published call).observation ≠ none) :
    call ∈ admitted steps :=
  (h.mem_admitted call).mpr (h.recorded_admitted call hcall hslot)

lemma Traced.mem_admitted_of_fannedOut (h : s.Traced published steps) {call : κ}
    (hcall : call ∈ fannedOut (broadcasts steps)) (hslot : (published call).observation ≠ none) :
    call ∈ admitted steps := by
  have hsystem := System.run_traced h.system
  have hdone := (hsystem.mem_fannedOut call).mp hcall
  exact h.mem_admitted_of_recorded ((hsystem.mem_recorded call).mpr (by simp [hdone])) hslot

/-- A subscriber that comes before everything is sent the observations that were admitted. -/
lemma Traced.observed_fannedOut (h : s.Traced published steps) (hsettled : s.Settled) {sub : ι}
    {pre mid post : List (BroadcastStep κ ι)}
    (hsub : System.Subscribed (broadcasts steps) sub pre mid post)
    (hpre : recorded pre = []) (hmid : recorded mid = []) :
    (observed published (fannedOut post)).Perm (observed published (admitted steps)) := by
  have hsystem := System.run_traced h.system
  have hnodup := hsystem.nodup_fannedOut
  have hsplit := hsub.fannedOut_eq
  have hearly : ∀ call, call ∉ fannedOut pre ++ fannedOut mid := by
    intro call hcall
    have hrun := h.system
    rw [hsub.split, ← List.cons_append, ← List.append_assoc] at hrun
    obtain ⟨m, hrun, -⟩ := runSteps_append.mp hrun
    have hm := System.run_traced (s := m) hrun
    have hout : fannedOut (pre ++ .replay sub :: mid) = fannedOut pre ++ fannedOut mid :=
      fannedOut_append pre _
    have hin : recorded (pre ++ .replay sub :: mid) = recorded pre ++ recorded mid :=
      recorded_append pre _
    have hdone := (hm.mem_fannedOut call).mp (hout ▸ hcall)
    have hrecorded := (hm.mem_recorded call).mpr (by simp [hdone])
    rw [hin, hpre, hmid] at hrecorded
    exact absurd hrecorded List.not_mem_nil
  apply observed_perm
  · rw [hsplit, ← List.append_assoc] at hnodup
    exact hnodup.of_append_right
  · exact h.nodup_admitted
  · intro call hslot
    constructor
    · intro hpost
      apply h.mem_admitted_of_fannedOut _ hslot
      rw [hsplit]
      exact List.mem_append_right _ (List.mem_append_right _ hpost)
    · intro hadmitted
      have hdone := hsettled call ((h.mem_admitted call).mp hadmitted)
      have hall := (hsystem.mem_fannedOut call).mpr hdone
      rw [hsplit, ← List.append_assoc] at hall
      exact (List.mem_append.mp hall).resolve_left (hearly call)

/-- However the calls, the setters and the subscribers interleave, and however the stream is cut,
a listener gets the observations of what it was replayed and of what was fanned out after it
joined, with all of their fields. Each was admitted while the broadcast was on. When the listener
came first and every admitted call is through, it gets each observation that was admitted once.
The log has the observations that came to it while it was on, whatever the broadcast did. -/
theorem listener_hears (float : UInt64 → List Char) (parse : List Char → Option UInt64)
    (hrun : run published steps = some s) {sub : ι}
    {pre mid post : List (BroadcastStep κ ι)}
    (hsub : System.Subscribed (broadcasts steps) sub pre mid post)
    (hreadable : ∀ call ∈ (s.system.channels sub).queue, (published call).Readable float parse)
    (chunks : List (List Char))
    (hchunks : chunks.flatten = Lines.stream
      ((s.system.channels sub).queue.map fun call => (published call).message.line float)) :
    let told := (Lines.feedAll [] chunks).1.filterMap fun text =>
      (Document.read parse text).bind fun v => heard v
    told = observed published (System.replayed pre ++ fannedOut post) ∧
    (∀ o ∈ told, ∃ call ∈ admitted steps, (published call).observation = some o) ∧
    (recorded pre = [] → recorded mid = [] → s.Settled →
      told.Perm (observed published (admitted steps))) ∧
    s.log = (observed published (reported steps)).map slotRecord := by
  intro told
  have htraced := run_traced hrun
  have hchannel := System.channel_of_subscribed htraced.system hsub
  have htold : told = observed published (System.replayed pre ++ fannedOut post) := by
    have hall : ∀ p ∈ (s.system.channels sub).queue.map published, p.Readable float parse := by
      intro p hp
      obtain ⟨call, hcall, rfl⟩ := List.mem_map.mp hp
      exact hreadable call hcall
    have hstream := Publication.heard_stream hall
      (hchunks.trans (by rw [List.map_map]; rfl))
    rw [List.filterMap_map, hchannel] at hstream
    exact hstream
  refine ⟨htold, ?_, ?_, ?_⟩
  · intro o ho
    rw [htold] at ho
    obtain ⟨call, hcall, hobservation⟩ := List.mem_filterMap.mp ho
    have hslot : (published call).observation ≠ none := by simp [hobservation]
    refine ⟨call, ?_, hobservation⟩
    rcases List.mem_append.mp hcall with hread | hsent
    · apply htraced.mem_admitted_of_recorded _ hslot
      rw [hsub.recorded_eq]
      exact List.mem_append_left _ (List.mem_of_mem_drop hread)
    · apply htraced.mem_admitted_of_fannedOut _ hslot
      rw [hsub.fannedOut_eq]
      exact List.mem_append_right _ (List.mem_append_right _ hsent)
  · intro hpre hmid hsettled
    have hreplayed : System.replayed pre = [] := by
      rw [System.replayed, hpre, List.rtake_nil]
    rw [htold, hreplayed, List.nil_append]
    exact htraced.observed_fannedOut hsettled hsub hpre hmid
  · rw [htraced.log, observed, List.map_filterMap]

/-- A call is admitted and publishes after the broadcast was switched off, another call is
refused, and the log has both. -/
theorem listener_hears_switched :
    let observation := fun event => SlotObservation.mk "vpn.connect" "exec" 1 "inv" event .null none
    let published := fun call : ℕ =>
      Publication.slot (observation (if call = 0 then "enter" else "halt"))
    let line := (published 0).message.line fun _ => []
    let steps : List (ObserverStep ℕ ℕ) := [.broadcast (.replay 0), .broadcast (.join 0),
      .record 0, .checkBroadcast 0, .setBroadcastEnabled false, .record 1, .checkBroadcast 1,
      .broadcast (.record 0), .broadcast (.fanOut 0)]
    (Lines.feedAll [] [Lines.stream [line]]).1.filterMap
        (fun text => (Document.read (fun _ => none) text).bind fun v => heard v) =
        [observation "enter"] ∧
      ∃ s, run published steps = some s ∧
        s.log = [observation "enter", observation "halt"].map slotRecord := by
  intro observation published line steps
  obtain ⟨s, hrun, hqueue⟩ : ∃ s, run published steps = some s ∧
      (s.system.channels 0).queue = [0] := ⟨_, rfl, rfl⟩
  have hsub : System.Subscribed (broadcasts steps) 0 [] [] [.record 0, .fanOut 0] :=
    ⟨rfl, by decide⟩
  have hreadable : ∀ call ∈ (s.system.channels 0).queue,
      (published call).Readable (fun _ => []) fun _ => none := by
    intro call _ o ho
    obtain rfl := Option.some.inj ho
    exact .null _
  have hstream : [Lines.stream [line]].flatten =
      Lines.stream ((s.system.channels 0).queue.map fun call =>
        (published call).message.line fun _ => []) := by
    rw [hqueue]
    simp [line]
  have hhears := listener_hears (fun _ => []) (fun _ => none) hrun hsub hreadable
    [Lines.stream [line]] hstream
  exact ⟨hhears.1, s, hrun, hhears.2.2.2⟩

end ObserverSystem
end Pingling.Ipc
