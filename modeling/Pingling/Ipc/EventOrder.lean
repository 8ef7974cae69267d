import Pingling.Ipc.ExactlyOnce
import Pingling.Lib.Positions

/-!
# The order of events

The history is in the order in which the calls of `publish` record, and a subscriber
receives the live events in the order in which they fan out. The two orders can differ.
Subscribers that receive all they are due in the order of the history end with the same
state event.
-/

namespace Pingling.Ipc
open Lib

/-- The events of `publish_state`. -/
def Notification.isStateEvent (notif : Notification) : Bool :=
  notif.method == "event.stateChanged"

variable {κ ι : Type} [DecidableEq κ] [DecidableEq ι]

/-- The last state event of a queue. -/
def lastStateEvent (notif : κ → Notification) (queue : List κ) : Option κ :=
  (queue.filter (fun call => (notif call).isStateEvent)).getLast?

namespace System

variable {s : System κ ι} {steps pre mid post : List (BroadcastStep κ ι)} {sub : ι}

/-- What fans out to a subscriber does so in the order in which it was recorded, and nothing
of it was recorded before a notification that the subscriber is replayed. -/
def Orderly (steps pre post : List (BroadcastStep κ ι)) : Prop :=
  InOrder (recorded steps) (fannedOut post) ∧
    ∀ call ∈ replayed pre, ∀ call' ∈ fannedOut post,
      (recorded steps).idxOf call ≤ (recorded steps).idxOf call'

lemma history_inOrder (hrun : run steps = some s) :
    InOrder (recorded steps) s.broadcaster.history := by
  have htraced := run_traced hrun
  rw [htraced.history]
  exact (InOrder.self htraced.nodup_recorded).sublist (List.drop_sublist _ _)

lemma queue_inOrder_iff (hrun : run steps = some s) (hsub : Subscribed steps sub pre mid post) :
    InOrder (recorded steps) (s.channels sub).queue ↔ Orderly steps pre post := by
  have htraced := run_traced hrun
  have hreplayed : InOrder (recorded steps) (replayed pre) := by
    apply (InOrder.self htraced.nodup_recorded).sublist
    rw [hsub.recorded_eq]
    exact (List.drop_sublist _ _).trans (List.sublist_append_left _ _)
  rw [channel_of_subscribed hrun hsub, InOrder, List.pairwise_append]
  constructor
  · exact fun h => h.2
  · exact fun h => ⟨hreplayed, h⟩

omit [DecidableEq κ] [DecidableEq ι] in
/-- What a subscriber is due is the last part of all that was recorded. -/
lemma Subscribed.recorded_eq_due (h : Subscribed steps sub pre mid post) :
    recorded steps =
      (recorded pre).take ((recorded pre).length - historyLimit) ++ due pre mid post := by
  rw [h.recorded_eq, due, replayed, List.rtake, ← List.append_assoc (List.take _ _),
    List.take_append_drop]

omit [DecidableEq κ] [DecidableEq ι] in
lemma recorded_of_replayed_eq_nil (h : replayed pre = []) : recorded pre = [] := by
  have hlength := List.drop_eq_nil_iff.mp h
  have hlimit : historyLimit = 128 := rfl
  apply List.length_eq_zero_iff.mp
  omega

lemma mem_recorded_of_mem_queue (hrun : run steps = some s)
    (hsub : Subscribed steps sub pre mid post) {call : κ}
    (hcall : call ∈ (s.channels sub).queue) : call ∈ recorded steps := by
  have htraced := run_traced hrun
  rw [channel_of_subscribed hrun hsub] at hcall
  rcases List.mem_append.mp hcall with hcall | hcall
  · rw [hsub.recorded_eq]
    exact List.mem_append_left _ (List.mem_of_mem_drop hcall)
  · have hsent : call ∈ fannedOut steps := by
      rw [hsub.fannedOut_eq]
      exact List.mem_append_right _ (List.mem_append_right _ hcall)
    apply (htraced.mem_recorded call).mpr
    rw [(htraced.mem_fannedOut call).mp hsent]
    exact nofun

/-- A subscriber that receives in order receives nothing but what it is due. -/
lemma mem_due_of_mem_queue (hrun : run steps = some s)
    (hsub : Subscribed steps sub pre mid post) (horderly : Orderly steps pre post) {call : κ}
    (hcall : call ∈ (s.channels sub).queue) : call ∈ due pre mid post := by
  have hrecorded := mem_recorded_of_mem_queue hrun hsub hcall
  rw [channel_of_subscribed hrun hsub] at hcall
  rcases List.mem_append.mp hcall with hcall | hcall
  · exact List.mem_append_left _ hcall
  · by_cases hempty : replayed pre = []
    · rw [hsub.recorded_eq, recorded_of_replayed_eq_nil hempty] at hrecorded
      exact List.mem_append_right _ hrecorded
    · obtain ⟨first, hfirst⟩ := List.exists_mem_of_ne_nil _ hempty
      have hle := horderly.2 first hfirst call hcall
      have hnodup := (run_traced hrun).nodup_recorded
      rw [hsub.recorded_eq_due] at hnodup hle hrecorded
      exact mem_of_idxOf_le hnodup (List.mem_append_left _ hfirst) hrecorded hle

/-- A subscriber that receives in order all that it is due receives all that was recorded
after something that it receives. -/
lemma mem_queue_of_idxOf_le (hrun : run steps = some s)
    (hsub : Subscribed steps sub pre mid post) (horderly : Orderly steps pre post)
    (hdue : ∀ call ∈ due pre mid post, call ∈ (s.channels sub).queue) {call call' : κ}
    (hcall : call ∈ (s.channels sub).queue) (hcall' : call' ∈ recorded steps)
    (hle : (recorded steps).idxOf call ≤ (recorded steps).idxOf call') :
    call' ∈ (s.channels sub).queue := by
  apply hdue
  have hnodup := (run_traced hrun).nodup_recorded
  rw [hsub.recorded_eq_due] at hnodup hle hcall'
  exact mem_of_idxOf_le hnodup (mem_due_of_mem_queue hrun hsub horderly hcall) hcall' hle

/-- Two such subscribers end with the same state event. -/
lemma lastStateEvent_eq (hrun : run steps = some s) (notif : κ → Notification) {sub' : ι}
    {pre' mid' post' : List (BroadcastStep κ ι)}
    (hsub : Subscribed steps sub pre mid post) (hsub' : Subscribed steps sub' pre' mid' post')
    (horderly : Orderly steps pre post) (horderly' : Orderly steps pre' post')
    (hdue : ∀ call ∈ due pre mid post, call ∈ (s.channels sub).queue)
    (hdue' : ∀ call ∈ due pre' mid' post', call ∈ (s.channels sub').queue) {call call' : κ}
    (hcall : lastStateEvent notif (s.channels sub).queue = some call)
    (hcall' : lastStateEvent notif (s.channels sub').queue = some call') : call = call' := by
  have hmem := List.mem_filter.mp (List.mem_of_getLast? hcall)
  have hmem' := List.mem_filter.mp (List.mem_of_getLast? hcall')
  have hrecorded := mem_recorded_of_mem_queue hrun hsub hmem.1
  have hrecorded' := mem_recorded_of_mem_queue hrun hsub' hmem'.1
  have hinOrder := ((queue_inOrder_iff hrun hsub).mpr horderly).sublist
    (List.filter_sublist (p := fun call => (notif call).isStateEvent))
  have hinOrder' := ((queue_inOrder_iff hrun hsub').mpr horderly').sublist
    (List.filter_sublist (p := fun call => (notif call).isStateEvent))
  apply InOrder.getLast?_eq hinOrder hinOrder' hcall hcall' hrecorded
  · intro hle
    apply List.mem_filter.mpr
    exact ⟨mem_queue_of_idxOf_le hrun hsub horderly hdue hmem.1 hrecorded' hle, hmem'.2⟩
  · intro hle
    apply List.mem_filter.mpr
    exact ⟨mem_queue_of_idxOf_le hrun hsub' horderly' hdue' hmem'.1 hrecorded hle, hmem.2⟩

/-- The history is in the order of recording, and the queue of a subscriber is so if and only
if what it is sent was recorded in that order and after what it is replayed. Once every call
has returned, such subscribers end with the same state event, if no call fell into the gap
of one of them and each has received a state event at all. -/
theorem order_agrees (hrun : run steps = some s) :
    InOrder (recorded steps) s.broadcaster.history ∧
    (∀ sub pre mid post, Subscribed steps sub pre mid post →
      (InOrder (recorded steps) (s.channels sub).queue ↔ Orderly steps pre post)) ∧
    (s.Quiet → ∀ (notif : κ → Notification) sub pre mid post sub' pre' mid' post',
      Subscribed steps sub pre mid post → Subscribed steps sub' pre' mid' post' →
      Orderly steps pre post → Orderly steps pre' post' → Gapless mid → Gapless mid' →
      ∀ call call', lastStateEvent notif (s.channels sub).queue = some call →
        lastStateEvent notif (s.channels sub').queue = some call' → call = call') := by
  refine ⟨history_inOrder hrun, fun sub pre mid post hsub => queue_inOrder_iff hrun hsub, ?_⟩
  intro hquiet notif sub pre mid post sub' pre' mid' post' hsub hsub' horderly horderly' hgapless
    hgapless' call call' hcall hcall'
  have hdue := (all_due_iff hrun hsub hquiet).mpr hgapless
  have hdue' := (all_due_iff hrun hsub' hquiet).mpr hgapless'
  exact lastStateEvent_eq hrun notif hsub hsub' horderly horderly' hdue hdue' hcall hcall'

/-- The first publisher says that the core connects, the second one that it has connected. -/
def connecting (call : ℕ) : Notification :=
  if call = 0 then stateChanged "connecting" false "sing-box"
  else stateChanged "connected" true "sing-box"

/-- Two publishers that fan out in the order in which they record. -/
def uncrossed : List (BroadcastStep ℕ ℕ) :=
  [.replay 0, .join 0, .record 0, .record 1, .fanOut 0, .fanOut 1, .replay 1, .join 1]

theorem uncrossed_agree :
    ∃ s, run uncrossed = some s ∧ InOrder (recorded uncrossed) (s.channels 0).queue ∧
      InOrder (recorded uncrossed) (s.channels 1).queue ∧
      ∀ call call', lastStateEvent connecting (s.channels 0).queue = some call →
        lastStateEvent connecting (s.channels 1).queue = some call' → call = call' := by
  have hearly : Subscribed uncrossed 0 [] []
      [.record 0, .record 1, .fanOut 0, .fanOut 1, .replay 1, .join 1] := ⟨rfl, by decide⟩
  have hlate : Subscribed uncrossed 1
      [.replay 0, .join 0, .record 0, .record 1, .fanOut 0, .fanOut 1] [] [] := ⟨rfl, by decide⟩
  have horderly : Orderly uncrossed []
      [.record 0, .record 1, .fanOut 0, .fanOut 1, .replay 1, .join 1] :=
    ⟨by decide, by decide⟩
  have horderly' : Orderly uncrossed
      [.replay 0, .join 0, .record 0, .record 1, .fanOut 0, .fanOut 1] [] :=
    ⟨by decide, by decide⟩
  have hgapless : Gapless ([] : List (BroadcastStep ℕ ℕ)) := fun call hcall => nomatch hcall
  obtain ⟨s, hrun, hquiet⟩ : ∃ s, run uncrossed = some s ∧ s.Quiet := by
    refine ⟨_, rfl, fun call => ?_⟩
    by_cases hfirst : call = 0
    · simp [hfirst]
    · by_cases hsecond : call = 1
      · simp [hsecond]
      · simp [hfirst, hsecond, init]
  obtain ⟨-, hqueue, hlast⟩ := order_agrees hrun
  refine ⟨s, hrun, (hqueue _ _ _ _ hearly).mpr horderly, (hqueue _ _ _ _ hlate).mpr horderly', ?_⟩
  exact hlast hquiet connecting _ _ _ _ _ _ _ _ hearly hlate horderly horderly' hgapless hgapless

/-- Two publishers: the second one to record fans out first. -/
def crossed : List (BroadcastStep ℕ ℕ) :=
  [.replay 0, .join 0, .record 0, .record 1, .fanOut 1, .fanOut 0, .replay 1, .join 1]

/-- An early subscriber ends with the state event that a late one is given first. -/
theorem crossed_disagree :
    ∃ s, run crossed = some s ∧
      Subscribed crossed 0 [] []
        [.record 0, .record 1, .fanOut 1, .fanOut 0, .replay 1, .join 1] ∧
      Subscribed crossed 1
        [.replay 0, .join 0, .record 0, .record 1, .fanOut 1, .fanOut 0] [] [] ∧
      s.broadcaster.history = [0, 1] ∧ (s.channels 0).queue = [1, 0] ∧
      (s.channels 1).queue = [0, 1] ∧
      lastStateEvent connecting (s.channels 0).queue = some 0 ∧
      lastStateEvent connecting (s.channels 1).queue = some 1 :=
  ⟨_, rfl, ⟨rfl, by decide⟩, ⟨rfl, by decide⟩, rfl, rfl, rfl, by decide, by decide⟩

end System
end Pingling.Ipc
