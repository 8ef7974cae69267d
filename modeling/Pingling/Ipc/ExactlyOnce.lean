import Pingling.Ipc.Delivery

/-!
# Delivery to a new subscriber

A notification comes twice to a subscriber that reads it in the history and joins before it
is fanned out, and it is lost when its call takes both sections while the subscriber is
between its own two. `delivered_once_iff` says that nothing else goes wrong.
-/

namespace Pingling.Ipc
open Lib

variable {κ ι : Type} [DecidableEq κ] [DecidableEq ι]

namespace System

variable {s : System κ ι} {steps pre mid post : List (BroadcastStep κ ι)} {sub : ι}

/-- Every call of `publish` that has begun has returned. -/
def Quiet (s : System κ ι) : Prop :=
  ∀ call, s.publishing call ≠ .recorded

omit [DecidableEq κ] [DecidableEq ι] in
lemma Subscribed.recorded_eq (h : Subscribed steps sub pre mid post) :
    recorded steps = recorded pre ++ (recorded mid ++ recorded post) := by
  rw [h.split, recorded_append]
  congr 1
  exact recorded_append mid _

omit [DecidableEq κ] [DecidableEq ι] in
lemma Subscribed.fannedOut_eq (h : Subscribed steps sub pre mid post) :
    fannedOut steps = fannedOut pre ++ (fannedOut mid ++ fannedOut post) := by
  rw [h.split, fannedOut_append]
  congr 1
  exact fannedOut_append mid _

/-- No call fans out before it records. -/
lemma not_mem_fannedOut {xs ys : List (BroadcastStep κ ι)} (hrun : run (xs ++ ys) = some s)
    {call : κ} (hcall : call ∈ recorded ys) : call ∉ fannedOut xs := by
  intro hmem
  obtain ⟨m, hxs, -⟩ := runSteps_append.mp hrun
  have htraced := run_traced hxs
  have hdone := (htraced.mem_fannedOut call).mp hmem
  have hearly : call ∈ recorded xs := (htraced.mem_recorded call).mpr (by simp [hdone])
  have hnodup := (run_traced hrun).nodup_recorded
  rw [recorded_append] at hnodup
  exact (List.nodup_append'.mp hnodup).2.2 hearly hcall

/-- A call that records after the read fans out after the join, unless it does so in
between. -/
lemma mem_fannedOut_post (hrun : run steps = some s) (hsub : Subscribed steps sub pre mid post)
    (hquiet : s.Quiet) {call : κ} (hcall : call ∈ recorded mid ++ recorded post) :
    call ∈ fannedOut post ↔ call ∉ fannedOut mid := by
  have htraced := run_traced hrun
  have hpre : call ∉ fannedOut pre := by
    have hsplit := hrun
    rw [hsub.split] at hsplit
    refine not_mem_fannedOut hsplit ?_
    exact (recorded_append mid (.join sub :: post)).symm ▸ hcall
  have hall : call ∈ fannedOut steps := by
    have hrecorded : call ∈ recorded steps := by
      rw [hsub.recorded_eq]
      exact List.mem_append_right _ hcall
    have hstarted := (htraced.mem_recorded call).mp hrecorded
    have hreturned := hquiet call
    apply (htraced.mem_fannedOut call).mpr
    cases hphase : s.publishing call with
    | start => exact absurd hphase hstarted
    | recorded => exact absurd hphase hreturned
    | done => rfl
  have hnodup := htraced.nodup_fannedOut
  rw [hsub.fannedOut_eq] at hall hnodup
  have hdisjoint := (List.nodup_append'.mp (List.nodup_append'.mp hnodup).2.1).2.2
  constructor
  · exact fun hpost hmid => hdisjoint hmid hpost
  · intro hmid
    simpa [hpre, hmid] using hall

/-- What a subscriber is due: what it is replayed and what enters the history after that. -/
def due (pre mid post : List (BroadcastStep κ ι)) : List κ :=
  replayed pre ++ (recorded mid ++ recorded post)

/-- No call takes both of its sections between the read and the join of a subscriber. -/
def Gapless (mid : List (BroadcastStep κ ι)) : Prop :=
  ∀ call ∈ recorded mid, call ∉ fannedOut mid

/-- Once every call has returned, a subscriber has all that it is due if and only if no call
fell into the gap. -/
lemma all_due_iff (hrun : run steps = some s) (hsub : Subscribed steps sub pre mid post)
    (hquiet : s.Quiet) :
    (∀ call ∈ due pre mid post, call ∈ (s.channels sub).queue) ↔ Gapless mid := by
  have hrecorded := (run_traced hrun).nodup_recorded
  rw [hsub.recorded_eq] at hrecorded
  rw [channel_of_subscribed hrun hsub]
  constructor
  · intro hall call hmid hsent
    have hlate : call ∈ recorded mid ++ recorded post := List.mem_append_left _ hmid
    have hnot : call ∉ replayed pre := fun hread =>
      (List.nodup_append'.mp hrecorded).2.2 (List.mem_of_mem_drop hread) hlate
    have hpost : call ∈ fannedOut post := by
      simpa [hnot] using hall call (List.mem_append_right _ hlate)
    exact (mem_fannedOut_post hrun hsub hquiet hlate).mp hpost hsent
  · intro hgapless call hdue
    rcases List.mem_append.mp hdue with hread | hlate
    · exact List.mem_append_left _ hread
    · apply List.mem_append_right
      apply (mem_fannedOut_post hrun hsub hquiet hlate).mpr
      intro hmid
      by_cases hrecord : call ∈ recorded mid
      · exact hgapless call hrecord hmid
      · have hpost : call ∈ recorded post := by simpa [hrecord] using hlate
        have hsplit : run ((pre ++ .replay sub :: mid) ++ (.join sub :: post)) = some s := by
          rw [List.append_assoc, List.cons_append, ← hsub.split]
          exact hrun
        apply not_mem_fannedOut hsplit hpost
        rw [fannedOut_append]
        exact List.mem_append_right _ hmid

/-- The subscriber receives nothing twice if and only if no notification that it is replayed
is fanned out after it has joined. Once every call has returned, it has received all that it
is due if and only if no call records and fans out between its read and its join. -/
theorem delivered_once_iff (hrun : run steps = some s)
    (hsub : Subscribed steps sub pre mid post) :
    ((s.channels sub).queue.Nodup ↔ ∀ call ∈ replayed pre, call ∉ fannedOut post) ∧
      (s.Quiet → ((∀ call ∈ due pre mid post, call ∈ (s.channels sub).queue) ↔
        Gapless mid)) := by
  have htraced := run_traced hrun
  have hrecorded := htraced.nodup_recorded
  have hfannedOut := htraced.nodup_fannedOut
  rw [hsub.recorded_eq] at hrecorded
  rw [hsub.fannedOut_eq] at hfannedOut
  have hreplayed : (replayed pre).Nodup :=
    (List.nodup_append'.mp hrecorded).1.sublist (List.drop_sublist _ _)
  have hpost : (fannedOut post).Nodup :=
    (List.nodup_append'.mp (List.nodup_append'.mp hfannedOut).2.1).2.1
  refine ⟨?_, all_due_iff hrun hsub⟩
  rw [channel_of_subscribed hrun hsub, List.nodup_append']
  constructor
  · exact fun hnodup call hread hsent => hnodup.2.2 hread hsent
  · exact fun hapart => ⟨hreplayed, hpost, fun call hread hsent => hapart call hread hsent⟩

/-- A call that records between the read and the join of a subscriber, and fans out after
it. -/
theorem delivered_once_late :
    ∃ s : System ℕ ℕ,
      run [.record 0, .fanOut 0, .replay 0, .record 1, .join 0, .fanOut 1] = some s ∧
      ((s.channels 0).queue.Nodup ↔
        ∀ call ∈ replayed (ι := ℕ) [.record 0, .fanOut 0], call ∉ fannedOut (ι := ℕ) [.fanOut 1]) ∧
      (s.Quiet →
        ((∀ call ∈ due (ι := ℕ) [.record 0, .fanOut 0] [.record 1] [.fanOut 1],
          call ∈ (s.channels 0).queue) ↔ Gapless (κ := ℕ) (ι := ℕ) [.record 1])) :=
  ⟨_, rfl, delivered_once_iff rfl ⟨rfl, by decide⟩⟩

/-- A subscriber that comes between the two sections of a call receives its notification
twice, and a call that comes between the two sections of a subscriber is lost to it. -/
theorem twice_and_lost :
    (∃ s : System ℕ ℕ, run [.record 0, .replay 0, .join 0, .fanOut 0] = some s ∧
      Subscribed [.record 0, .replay 0, .join 0, .fanOut 0] 0 [.record 0] [] [.fanOut 0] ∧
      ¬ (s.channels 0).queue.Nodup) ∧
    ∃ s : System ℕ ℕ, run [.replay 0, .record 0, .fanOut 0, .join 0] = some s ∧
      Subscribed [.replay 0, .record 0, .fanOut 0, .join 0] 0 [] [.record 0, .fanOut 0] [] ∧
      s.Quiet ∧
      ∃ call ∈ due (ι := ℕ) [] [.record 0, .fanOut 0] [], call ∉ (s.channels 0).queue := by
  constructor
  · exact ⟨_, rfl, ⟨rfl, by decide⟩, by decide⟩
  · refine ⟨_, rfl, ⟨rfl, by decide⟩, fun call => ?_, 0, by decide, by decide⟩
    by_cases hcall : call = 0
    · simp [hcall]
    · simp [hcall, init]

end System
end Pingling.Ipc
