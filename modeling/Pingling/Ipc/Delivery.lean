import Mathlib.Data.List.DropRight
import Pingling.Ipc.Broadcaster

/-!
# What a subscriber receives

A subscriber is replayed the history it reads and then receives what is fanned out after it
has joined; `channel_of_subscribed` says so for every interleaving. Whether a notification
comes twice or is missing is decided by when its call takes its two sections.
-/

namespace Pingling.Ipc
open Lib

lemma popOldest_eq_rtake {N : Type} (history : List N) :
    popOldest history = history.rtake historyLimit := by
  induction history with
  | nil => exact (List.rtake_nil historyLimit).symm
  | cons notif history ih =>
    rw [popOldest]
    by_cases hlong : historyLimit < (notif :: history).length
    · have hdrop : (notif :: history).length - historyLimit =
          history.length - historyLimit + 1 := by
        rw [List.length_cons] at hlong ⊢
        omega
      rw [if_pos hlong, ih, List.rtake, List.rtake, hdrop, List.drop_succ_cons]
    · rw [if_neg hlong, List.rtake, Nat.sub_eq_zero_of_le (by omega), List.drop_zero]

lemma rtake_rtake_append {N : Type} (history : List N) (notif : N) (n : ℕ) :
    (history.rtake n ++ [notif]).rtake n = (history ++ [notif]).rtake n := by
  cases n with
  | zero => simp
  | succ n =>
    rw [List.rtake_concat_succ, List.rtake_concat_succ]
    congr 1
    simp only [List.rtake, List.drop_drop, List.length_drop]
    congr 1
    omega

section

variable {N Tx : Type} [DecidableEq Tx]

lemma replay_eq {tx : Tx} {channels : Tx → Channel N} (h : (channels tx).closed = false)
    (history : List N) :
    replay tx history channels =
      Function.update channels tx ⟨(channels tx).queue ++ history, false⟩ := by
  induction history generalizing channels with
  | nil =>
    rw [replay, List.append_nil, ← h]
    exact (Function.update_eq_self tx channels).symm
  | cons notif history ih =>
    have hsend : (channels tx).send notif = some ⟨(channels tx).queue ++ [notif], false⟩ := by
      rw [Channel.send, h]
      rfl
    rw [replay, hsend]
    simp only
    rw [ih (by simp), Function.update_idem, Function.update_self, List.append_assoc]
    rfl

/-- Every subscriber of the list whose receiver is there is sent the notification once, and
the others are dropped. -/
lemma retainSend_eq (notif : N) {subs : List Tx} (hsubs : subs.Nodup) (channels : Tx → Channel N) :
    retainSend notif subs channels =
      (subs.filter (fun tx => !(channels tx).closed),
        fun tx => if tx ∈ subs ∧ (channels tx).closed = false then
          ⟨(channels tx).queue ++ [notif], false⟩ else channels tx) := by
  induction subs generalizing channels with
  | nil => simp [retainSend]
  | cons tx subs ih =>
    obtain ⟨htx, hsubs⟩ := List.nodup_cons.mp hsubs
    rw [retainSend]
    by_cases hclosed : (channels tx).closed = true
    · rw [Channel.send, if_pos hclosed, List.filter_cons_of_neg (by simp [hclosed])]
      simp only [ih hsubs]
      congr 1
      funext u
      by_cases hu : u = tx
      · rw [hu, if_neg (by simp [htx]), if_neg (by simp [hclosed])]
      · simp [hu]
    · have hopen : (channels tx).closed = false := by simpa using hclosed
      rw [Channel.send, if_neg hclosed, List.filter_cons_of_pos (by simp [hopen])]
      simp only [ih hsubs]
      congr 1
      · congr 1
        apply List.filter_congr
        intro u hu
        have hne : u ≠ tx := by
          rintro rfl
          exact htx hu
        rw [Function.update_of_ne hne]
      · funext u
        by_cases hu : u = tx
        · rw [hu, if_neg (by simp [htx]), if_pos (by simp [hopen]), Function.update_self]
        · simp [hu]

end

/-- How the channel of a call of `subscribe` stands in each phase, and whether the subscriber
list holds it. A channel that is closed may still be listed. -/
def SubscribePhase.Fits {κ : Type} : SubscribePhase → Channel κ → Prop → Prop
  | .start, channel, listed => channel = ⟨[], false⟩ ∧ ¬ listed
  | .replayed, channel, listed => channel.closed = false ∧ ¬ listed
  | .joined, channel, listed => channel.closed = false → listed

structure System.WellFormed {κ ι : Type} (s : System κ ι) : Prop where
  nodup : s.broadcaster.subs.Nodup
  fits : ∀ tx, (s.subscribing tx).Fits (s.channels tx) (tx ∈ s.broadcaster.subs)

variable {κ ι : Type} [DecidableEq κ] [DecidableEq ι]

namespace System

variable {s t : System κ ι}

lemma step_record {call : κ} : step (.record call) s = some t ↔
    s.publishing call = .start ∧
      { s with
        broadcaster := s.broadcaster.record call
        publishing := Function.update s.publishing call .recorded } = t := by
  rw [step, Option.ite_none_right_eq_some, Option.some.injEq]

/-- What a fan-out does. -/
lemma WellFormed.step_fanOut (h : s.WellFormed) {call : κ} :
    step (.fanOut call) s = some t ↔
    s.publishing call = .recorded ∧
      { s with
        broadcaster := ⟨s.broadcaster.subs.filter (fun tx => !(s.channels tx).closed),
          s.broadcaster.history⟩
        channels := fun tx => if tx ∈ s.broadcaster.subs ∧ (s.channels tx).closed = false then
          ⟨(s.channels tx).queue ++ [call], false⟩ else s.channels tx
        publishing := Function.update s.publishing call .done } = t := by
  rw [step, Option.ite_none_right_eq_some, Option.some.injEq, EventBroadcaster.fanOut,
    retainSend_eq call h.nodup]

/-- What a replay does. -/
lemma WellFormed.step_replay (h : s.WellFormed) {sub : ι} :
    step (.replay sub) s = some t ↔
    s.subscribing sub = .start ∧
      { s with
        channels := Function.update s.channels sub ⟨s.broadcaster.history, false⟩
        subscribing := Function.update s.subscribing sub .replayed } = t := by
  rw [step, Option.ite_none_right_eq_some, Option.some.injEq]
  apply and_congr_right
  intro hstart
  have hfits := h.fits sub
  rw [hstart] at hfits
  have hopen : (s.channels sub).closed = false := by rw [hfits.1]
  rw [EventBroadcaster.replayHistory, replay_eq hopen, hfits.1, List.nil_append]

lemma step_join {sub : ι} : step (.join sub) s = some t ↔
    s.subscribing sub = .replayed ∧
      { s with
        broadcaster := s.broadcaster.join sub
        subscribing := Function.update s.subscribing sub .joined } = t := by
  rw [step, Option.ite_none_right_eq_some, Option.some.injEq]

lemma step_disconnect {sub : ι} : step (.disconnect sub) s = some t ↔
    s.subscribing sub = .joined ∧
      { s with
        channels := Function.update s.channels sub ⟨(s.channels sub).queue, true⟩ } = t := by
  rw [step, Option.ite_none_right_eq_some, Option.some.injEq]

omit [DecidableEq κ] [DecidableEq ι] in
lemma wellFormed_init : (init : System κ ι).WellFormed :=
  ⟨List.nodup_nil, fun _ => ⟨rfl, List.not_mem_nil⟩⟩

lemma WellFormed.step (h : s.WellFormed) {a : BroadcastStep κ ι} (ha : step a s = some t) :
    t.WellFormed := by
  cases a with
  | record call =>
    obtain ⟨-, rfl⟩ := step_record.mp ha
    exact ⟨h.nodup, h.fits⟩
  | fanOut call =>
    obtain ⟨-, rfl⟩ := h.step_fanOut.mp ha
    refine ⟨h.nodup.filter _, fun tx => ?_⟩
    have hfits := h.fits tx
    simp only [List.mem_filter]
    by_cases hsent : tx ∈ s.broadcaster.subs ∧ (s.channels tx).closed = false
    · rw [if_pos hsent]
      cases hphase : s.subscribing tx with
      | joined => exact fun _ => ⟨hsent.1, by simp [hsent.2]⟩
      | _ =>
        rw [hphase] at hfits
        exact absurd hsent.1 hfits.2
    · rw [if_neg hsent]
      cases hphase : s.subscribing tx with
      | joined =>
        rw [hphase] at hfits
        exact fun hopen => absurd ⟨hfits hopen, hopen⟩ hsent
      | _ =>
        rw [hphase] at hfits
        exact ⟨hfits.1, fun hlisted => hfits.2 hlisted.1⟩
  | replay sub =>
    obtain ⟨hguard, rfl⟩ := h.step_replay.mp ha
    refine ⟨h.nodup, fun tx => ?_⟩
    have hfits := h.fits tx
    by_cases htx : tx = sub
    · rw [htx, hguard] at hfits
      simp only [htx, Function.update_self]
      exact ⟨rfl, hfits.2⟩
    · simpa only [Function.update_of_ne htx] using hfits
  | join sub =>
    obtain ⟨hguard, rfl⟩ := step_join.mp ha
    have hsub := h.fits sub
    rw [hguard] at hsub
    constructor
    · apply List.nodup_append'.mpr
      exact ⟨h.nodup, List.nodup_singleton sub, by simpa using hsub.2⟩
    · intro tx
      have hfits := h.fits tx
      by_cases htx : tx = sub
      · simp only [htx, Function.update_self]
        exact fun _ => List.mem_append_right _ (List.mem_singleton_self sub)
      · simpa [EventBroadcaster.join, Function.update_of_ne htx, htx] using hfits
  | disconnect sub =>
    obtain ⟨hguard, rfl⟩ := step_disconnect.mp ha
    refine ⟨h.nodup, fun tx => ?_⟩
    have hfits := h.fits tx
    by_cases htx : tx = sub
    · rw [htx, hguard]
      exact fun hopen => by simp at hopen
    · simpa only [Function.update_of_ne htx] using hfits

end System

/-- The calls whose notification entered the history, in this order. -/
def recorded (steps : List (BroadcastStep κ ι)) : List κ :=
  steps.filterMap (fun
    | .record call => some call
    | _ => none)

/-- The calls whose notification was sent to the subscribers, in this order. -/
def fannedOut (steps : List (BroadcastStep κ ι)) : List κ :=
  steps.filterMap (fun
    | .fanOut call => some call
    | _ => none)

omit [DecidableEq κ] [DecidableEq ι] in
@[simp] lemma recorded_append (steps steps' : List (BroadcastStep κ ι)) :
    recorded (steps ++ steps') = recorded steps ++ recorded steps' :=
  List.filterMap_append

omit [DecidableEq κ] [DecidableEq ι] in
@[simp] lemma fannedOut_append (steps steps' : List (BroadcastStep κ ι)) :
    fannedOut (steps ++ steps') = fannedOut steps ++ fannedOut steps' :=
  List.filterMap_append

/-- What the steps taken say about the history and about the calls of `publish`. -/
structure System.Traced (steps : List (BroadcastStep κ ι)) (s : System κ ι) : Prop where
  wellFormed : s.WellFormed
  history : s.broadcaster.history = (recorded steps).rtake historyLimit
  mem_recorded : ∀ call, call ∈ recorded steps ↔ s.publishing call ≠ .start
  mem_fannedOut : ∀ call, call ∈ fannedOut steps ↔ s.publishing call = .done
  nodup_recorded : (recorded steps).Nodup
  nodup_fannedOut : (fannedOut steps).Nodup

namespace System

variable {s t : System κ ι}

omit [DecidableEq κ] [DecidableEq ι] in
/-- A step that belongs to no call of `publish` leaves these facts alone. -/
lemma Traced.silent {steps : List (BroadcastStep κ ι)} (h : s.Traced steps)
    {a : BroadcastStep κ ι} (hrecorded : recorded [a] = []) (hfannedOut : fannedOut [a] = [])
    (hwellFormed : t.WellFormed) (hhistory : t.broadcaster.history = s.broadcaster.history)
    (hpublishing : t.publishing = s.publishing) : t.Traced (steps ++ [a]) := by
  have hall : recorded (steps ++ [a]) = recorded steps := by
    rw [recorded_append, hrecorded, List.append_nil]
  have hall' : fannedOut (steps ++ [a]) = fannedOut steps := by
    rw [fannedOut_append, hfannedOut, List.append_nil]
  constructor
  · exact hwellFormed
  · rw [hhistory, hall]
    exact h.history
  · rw [hpublishing, hall]
    exact h.mem_recorded
  · rw [hpublishing, hall']
    exact h.mem_fannedOut
  · rw [hall]
    exact h.nodup_recorded
  · rw [hall']
    exact h.nodup_fannedOut

lemma Traced.step {steps : List (BroadcastStep κ ι)} (h : s.Traced steps)
    {a : BroadcastStep κ ι} (ha : step a s = some t) : t.Traced (steps ++ [a]) := by
  have hwellFormed := h.wellFormed.step ha
  cases a with
  | record call =>
    obtain ⟨hguard, rfl⟩ := step_record.mp ha
    have hnew : call ∉ recorded steps := fun hmem => (h.mem_recorded call).mp hmem hguard
    constructor
    · exact hwellFormed
    · change popOldest (s.broadcaster.history ++ [call]) = _
      rw [popOldest_eq_rtake, h.history, rtake_rtake_append, recorded_append]
      rfl
    · intro call'
      by_cases hcall : call' = call
      · simp [hcall, recorded]
      · simpa [recorded, hcall] using h.mem_recorded call'
    · intro call'
      by_cases hcall : call' = call
      · simpa [hcall, fannedOut, hguard] using h.mem_fannedOut call
      · simpa [fannedOut, hcall] using h.mem_fannedOut call'
    · rw [recorded_append]
      apply List.nodup_append'.mpr
      exact ⟨h.nodup_recorded, List.nodup_singleton call, by simpa [recorded] using hnew⟩
    · simpa [fannedOut] using h.nodup_fannedOut
  | fanOut call =>
    obtain ⟨hguard, rfl⟩ := h.wellFormed.step_fanOut.mp ha
    have hnew : call ∉ fannedOut steps := by
      intro hmem
      have hdone := (h.mem_fannedOut call).mp hmem
      rw [hguard] at hdone
      exact nomatch hdone
    constructor
    · exact hwellFormed
    · simpa [recorded] using h.history
    · intro call'
      by_cases hcall : call' = call
      · simpa [hcall, recorded, hguard] using h.mem_recorded call
      · simpa [recorded, hcall] using h.mem_recorded call'
    · intro call'
      by_cases hcall : call' = call
      · simp [hcall, fannedOut]
      · simpa [fannedOut, hcall] using h.mem_fannedOut call'
    · simpa [recorded] using h.nodup_recorded
    · rw [fannedOut_append]
      apply List.nodup_append'.mpr
      exact ⟨h.nodup_fannedOut, List.nodup_singleton call, by simpa [fannedOut] using hnew⟩
  | replay sub =>
    obtain ⟨-, rfl⟩ := h.wellFormed.step_replay.mp ha
    exact h.silent rfl rfl hwellFormed rfl rfl
  | join sub =>
    obtain ⟨-, rfl⟩ := step_join.mp ha
    exact h.silent rfl rfl hwellFormed rfl rfl
  | disconnect sub =>
    obtain ⟨-, rfl⟩ := step_disconnect.mp ha
    exact h.silent rfl rfl hwellFormed rfl rfl

/-- What holds of every interleaving. -/
theorem run_traced {steps : List (BroadcastStep κ ι)} (h : run steps = some s) :
    s.Traced steps := by
  refine runSteps_invariant ?_ (fun _ _ _ _ _ ht ha => ht.step ha) h
  constructor
  · exact wellFormed_init
  · exact (List.rtake_nil historyLimit).symm
  · simp [recorded, init]
  · simp [fannedOut, init]
  · exact List.nodup_nil
  · exact List.nodup_nil

/-- What a step does to one subscriber: it is one of the subscriber's own, or it sends what
it fans out to a subscriber that is listed and still there. -/
lemma step_subscriber (h : s.WellFormed) {a : BroadcastStep κ ι} (ha : step a s = some t)
    (sub : ι) :
    (a = .replay sub ∧ s.subscribing sub = .start ∧ t.subscribing sub = .replayed ∧
      t.channels sub = ⟨s.broadcaster.history, false⟩) ∨
    (a = .join sub ∧ s.subscribing sub = .replayed ∧ t.subscribing sub = .joined ∧
      t.channels sub = s.channels sub) ∨
    (a = .disconnect sub ∧ s.subscribing sub = .joined ∧ t.subscribing sub = .joined ∧
      (t.channels sub).closed = true) ∨
    (a ≠ .disconnect sub ∧ t.subscribing sub = s.subscribing sub ∧
      t.channels sub = if sub ∈ s.broadcaster.subs ∧ (s.channels sub).closed = false then
        ⟨(s.channels sub).queue ++ fannedOut [a], false⟩ else s.channels sub) := by
  have hsame : s.channels sub = if sub ∈ s.broadcaster.subs ∧ (s.channels sub).closed = false then
      ⟨(s.channels sub).queue ++ [], false⟩ else s.channels sub := by
    by_cases hsub : sub ∈ s.broadcaster.subs ∧ (s.channels sub).closed = false
    · rw [if_pos hsub, List.append_nil, ← hsub.2]
    · rw [if_neg hsub]
  cases a with
  | record call =>
    obtain ⟨-, rfl⟩ := step_record.mp ha
    exact Or.inr (Or.inr (Or.inr ⟨nofun, rfl, hsame⟩))
  | fanOut call =>
    obtain ⟨-, rfl⟩ := h.step_fanOut.mp ha
    exact Or.inr (Or.inr (Or.inr ⟨nofun, rfl, rfl⟩))
  | replay tx =>
    obtain ⟨hguard, rfl⟩ := h.step_replay.mp ha
    by_cases htx : sub = tx
    · left
      rw [htx]
      exact ⟨rfl, hguard, Function.update_self _ _ _, Function.update_self _ _ _⟩
    · refine Or.inr (Or.inr (Or.inr ⟨nofun, Function.update_of_ne htx _ _, ?_⟩))
      exact (Function.update_of_ne htx _ _).trans hsame
  | join tx =>
    obtain ⟨hguard, rfl⟩ := step_join.mp ha
    by_cases htx : sub = tx
    · right; left
      rw [htx]
      exact ⟨rfl, hguard, Function.update_self _ _ _, rfl⟩
    · exact Or.inr (Or.inr (Or.inr ⟨nofun, Function.update_of_ne htx _ _, hsame⟩))
  | disconnect tx =>
    obtain ⟨hguard, rfl⟩ := step_disconnect.mp ha
    by_cases htx : sub = tx
    · right; right; left
      rw [htx]
      exact ⟨rfl, hguard, hguard, by simp⟩
    · refine Or.inr (Or.inr (Or.inr ⟨?_, rfl, (Function.update_of_ne htx _ _).trans hsame⟩))
      intro heq
      exact htx (BroadcastStep.disconnect.inj heq).symm

lemma step_joined (h : s.WellFormed) {a : BroadcastStep κ ι} (ha : step a s = some t) {sub : ι}
    (hsub : s.subscribing sub = .joined) : t.subscribing sub = .joined := by
  rcases step_subscriber h ha sub with ⟨-, hs, -⟩ | ⟨-, -, ht, -⟩ | ⟨-, -, ht, -⟩ | ⟨-, ht, -⟩
  · rw [hsub] at hs
    exact nomatch hs
  · exact ht
  · exact ht
  · exact ht.trans hsub

/-- Between its two sections a subscriber is sent nothing. -/
lemma run_replayed {steps : List (BroadcastStep κ ι)} (h : s.WellFormed)
    (hrun : runSteps step steps s = some t) {sub : ι} (hs : s.subscribing sub = .replayed)
    (ht : t.subscribing sub = .replayed) : t.channels sub = s.channels sub := by
  induction steps generalizing s with
  | nil =>
    rw [runSteps_nil, Option.some.injEq] at hrun
    rw [hrun]
  | cons a steps ih =>
    obtain ⟨m, ha, hrun⟩ := runSteps_cons.mp hrun
    have hm := h.step ha
    -- once it has joined it would stay so
    have hjoin : m.subscribing sub ≠ .joined := by
      intro hjoined
      have hlast : t.WellFormed ∧ t.subscribing sub = .joined :=
        runSteps_preserves (P := fun s => s.WellFormed ∧ s.subscribing sub = .joined)
          (fun _ _ _ hP hstep => ⟨hP.1.step hstep, step_joined hP.1 hstep hP.2⟩) ⟨hm, hjoined⟩ hrun
      rw [ht] at hlast
      exact nomatch hlast.2
    rcases step_subscriber h ha sub with ⟨-, hs', -⟩ | ⟨-, -, hm', -⟩ | ⟨-, -, hm', -⟩ |
      ⟨-, hm', hchannel⟩
    · rw [hs] at hs'
      exact nomatch hs'
    · exact absurd hm' hjoin
    · exact absurd hm' hjoin
    · have hfits := h.fits sub
      rw [hs] at hfits
      rw [if_neg (fun hsent => hfits.2 hsent.1)] at hchannel
      exact (ih hm hrun (hm'.trans hs)).trans hchannel

/-- A subscriber that has joined and stays is sent what is fanned out. -/
lemma run_joined {steps : List (BroadcastStep κ ι)} (h : s.WellFormed)
    (hrun : runSteps step steps s = some t) {sub : ι} (hs : s.subscribing sub = .joined)
    (hopen : (s.channels sub).closed = false) (hstays : .disconnect sub ∉ steps) :
    t.channels sub = ⟨(s.channels sub).queue ++ fannedOut steps, false⟩ := by
  induction steps generalizing s with
  | nil =>
    rw [runSteps_nil, Option.some.injEq] at hrun
    rw [← hrun, ← hopen]
    simp [fannedOut]
  | cons a steps ih =>
    obtain ⟨m, ha, hrun⟩ := runSteps_cons.mp hrun
    rw [List.mem_cons, not_or] at hstays
    rcases step_subscriber h ha sub with ⟨-, hs', -⟩ | ⟨-, hs', -⟩ | ⟨heq, -⟩ | ⟨-, -, hchannel⟩
    · rw [hs] at hs'
      exact nomatch hs'
    · rw [hs] at hs'
      exact nomatch hs'
    · exact absurd heq.symm hstays.1
    · have hfits := h.fits sub
      rw [hs] at hfits
      rw [if_pos ⟨hfits hopen, hopen⟩] at hchannel
      have hqueue := ih (h.step ha) hrun (step_joined h ha hs) (by rw [hchannel]) hstays.2
      rw [hqueue, hchannel, List.append_assoc, ← fannedOut_append, List.singleton_append]

/-- In the interleaving `steps` a subscriber reads the history after `pre`, joins after `mid`
and stays through `post`. -/
structure Subscribed (steps : List (BroadcastStep κ ι)) (sub : ι)
    (pre mid post : List (BroadcastStep κ ι)) : Prop where
  split : steps = pre ++ .replay sub :: (mid ++ .join sub :: post)
  stays : .disconnect sub ∉ post

/-- What is replayed to a subscriber that reads the history after these steps. -/
def replayed (pre : List (BroadcastStep κ ι)) : List κ :=
  (recorded pre).rtake historyLimit

/-- A subscriber receives what it is replayed and then what is fanned out after it has
joined. -/
theorem channel_of_subscribed {steps pre mid post : List (BroadcastStep κ ι)} {sub : ι}
    (hrun : run steps = some s) (hsub : Subscribed steps sub pre mid post) :
    s.channels sub = ⟨replayed pre ++ fannedOut post, false⟩ := by
  rw [hsub.split] at hrun
  obtain ⟨s₁, hpre, hrest⟩ := runSteps_append.mp hrun
  obtain ⟨s₂, hreplay, hrest⟩ := runSteps_cons.mp hrest
  obtain ⟨s₃, hmid, hrest⟩ := runSteps_append.mp hrest
  obtain ⟨s₄, hjoin, hpost⟩ := runSteps_cons.mp hrest
  have htraced := run_traced hpre
  have hwellFormed₂ := htraced.wellFormed.step hreplay
  have hwellFormed₃ : s₃.WellFormed :=
    runSteps_preserves (fun _ _ _ hm ha => hm.step ha) hwellFormed₂ hmid
  have hread : s₂.subscribing sub = .replayed ∧ s₂.channels sub = ⟨replayed pre, false⟩ := by
    obtain ⟨-, rfl⟩ := htraced.wellFormed.step_replay.mp hreplay
    simp only [Function.update_self, htraced.history, replayed, and_self]
  have hwellFormed₄ := hwellFormed₃.step hjoin
  obtain ⟨hguard, rfl⟩ := step_join.mp hjoin
  have hchannel : s₃.channels sub = ⟨replayed pre, false⟩ :=
    (run_replayed hwellFormed₂ hmid hread.1 hguard).trans hread.2
  have hlast : s.channels sub = ⟨(s₃.channels sub).queue ++ fannedOut post, false⟩ :=
    run_joined hwellFormed₄ hpost (Function.update_self _ _ _)
      (congrArg Channel.closed hchannel) hsub.stays
  rw [hlast, hchannel]

/-- Every subscriber that has joined and is still there is described in this way. -/
theorem exists_subscribed {steps : List (BroadcastStep κ ι)} {sub : ι}
    (hrun : run steps = some s) (hjoined : s.subscribing sub = .joined)
    (hopen : (s.channels sub).closed = false) :
    ∃ pre mid post, Subscribed steps sub pre mid post := by
  have hinvariant := runSteps_invariant
    (P := fun (as : List (BroadcastStep κ ι)) (m : System κ ι) => m.WellFormed ∧
      (m.subscribing sub ≠ .start → .replay sub ∈ as) ∧
      (m.subscribing sub = .joined → (m.channels sub).closed = false →
        ∃ before post, as = before ++ .join sub :: post ∧ .replay sub ∈ before ∧
          .disconnect sub ∉ post))
    ⟨wellFormed_init, fun hne => absurd rfl hne, fun h => nomatch h⟩ ?_ hrun
  · obtain ⟨before, post, hsplit, hread, hstays⟩ := hinvariant.2.2 hjoined hopen
    obtain ⟨pre, mid, rfl⟩ := List.append_of_mem hread
    exact ⟨pre, mid, post, by rw [hsplit, List.append_assoc, List.cons_append], hstays⟩
  · rintro as a m m' - ⟨hm, hreads, hjoins⟩ ha
    refine ⟨hm.step ha, ?_⟩
    rcases step_subscriber hm ha sub with ⟨rfl, -, hm', -⟩ | ⟨rfl, hguard, hm', -⟩ |
      ⟨rfl, hguard, -, hclosed⟩ | ⟨hne, hm', hchannel⟩
    · refine ⟨fun _ => by simp, fun hj => ?_⟩
      rw [hm'] at hj
      exact nomatch hj
    · have hread := hreads (by simp [hguard])
      exact ⟨fun _ => List.mem_append_left _ hread,
        fun _ _ => ⟨as, [], rfl, hread, List.not_mem_nil⟩⟩
    · refine ⟨fun _ => List.mem_append_left _ (hreads (by simp [hguard])), fun _ ho => ?_⟩
      rw [hclosed] at ho
      exact nomatch ho
    · refine ⟨fun hs => List.mem_append_left _ (hreads (hm' ▸ hs)), fun hj ho => ?_⟩
      have hstill : (m.channels sub).closed = false := by
        by_contra hclosed
        rw [hchannel, if_neg (fun hsent => hclosed hsent.2)] at ho
        exact hclosed ho
      obtain ⟨before, post, rfl, hread, hstays⟩ := hjoins (hm' ▸ hj) hstill
      refine ⟨before, post ++ [a], by simp, hread, ?_⟩
      simpa [hstays] using hne.symm

end System
end Pingling.Ipc
