import Pingling.Ipc.Broadcaster
import Pingling.Shared.Netwatch

/-!
# The backend of the network watcher

The callback of the watcher sends the events of an update to all subscribers, under the lock of
their list. A subscription starts the watcher if nobody has, and joins the list in a second step.
The interfaces of the operating system change at any time, and the watcher reports their tables one
after the other, or takes some of them together. Clients list the interfaces at any time.
-/

namespace Pingling.Shared
open Lib Netwatcher
open Std (ExtHashMap)
open Ipc (Channel)

/-- Whether there is a handle, and the senders of the subscribers. -/
structure NetwatcherBackend (ι : Type) where
  handle : Bool
  subs : List ι

section

variable {ι : Type}

namespace NetwatcherBackend

def new : NetwatcherBackend ι :=
  ⟨false, []⟩

/-- The watcher is started by the first subscription, if it starts. -/
def ensureStarted (backend : NetwatcherBackend ι) (starts : Bool) :
    Option (NetwatcherBackend ι) :=
  if backend.handle then some backend
  else if starts then some { backend with handle := true }
  else none

def push (backend : NetwatcherBackend ι) (tx : ι) : NetwatcherBackend ι :=
  { backend with subs := backend.subs ++ [tx] }

lemma subs_ensureStarted {backend backend' : NetwatcherBackend ι} {starts : Bool}
    (hstart : backend.ensureStarted starts = some backend') : backend'.subs = backend.subs := by
  unfold ensureStarted at hstart
  split_ifs at hstart <;> cases hstart <;> rfl

lemma handle_ensureStarted {backend backend' : NetwatcherBackend ι} {starts : Bool}
    (hstart : backend.ensureStarted starts = some backend') : backend'.handle = true := by
  unfold ensureStarted at hstart
  split_ifs at hstart with hhandle
  · cases hstart
    exact hhandle
  · cases hstart
    rfl

end NetwatcherBackend

variable [DecidableEq ι]

/-- A send whose failure is ignored. -/
def sendTo (ev : UpdateEvent) (channels : ι → Channel UpdateEvent) (tx : ι) :
    ι → Channel UpdateEvent :=
  match (channels tx).send ev with
  | some channel => Function.update channels tx channel
  | none => channels

/-- The loops of the callback. -/
def sendAll (subs : List ι) (events : List UpdateEvent) (channels : ι → Channel UpdateEvent) :
    ι → Channel UpdateEvent :=
  events.foldl (fun channels ev => subs.foldl (sendTo ev) channels) channels

def NetwatcherBackend.callback (backend : NetwatcherBackend ι) (update : Update)
    (channels : ι → Channel UpdateEvent) : ι → Channel UpdateEvent :=
  sendAll backend.subs (eventsFromUpdate update) channels

/-- What is sent down a channel. -/
def receive (channel : Channel UpdateEvent) (events : List UpdateEvent) :
    Channel UpdateEvent :=
  if channel.closed then channel else ⟨channel.queue ++ events, false⟩

lemma sendTo_apply (ev : UpdateEvent) (channels : ι → Channel UpdateEvent) (tx other : ι) :
    sendTo ev channels tx other =
      if other = tx then receive (channels other) [ev] else channels other := by
  unfold sendTo Ipc.Channel.send receive
  by_cases hother : other = tx
  · subst hother
    cases (channels other).closed <;> simp
  · cases (channels tx).closed <;> simp [hother]

lemma foldl_sendTo {subs : List ι} (hnodup : subs.Nodup) (ev : UpdateEvent)
    (channels : ι → Channel UpdateEvent) (tx : ι) :
    subs.foldl (sendTo ev) channels tx =
      if tx ∈ subs then receive (channels tx) [ev] else channels tx := by
  induction subs generalizing channels with
  | nil => rfl
  | cons sub subs ih =>
    obtain ⟨hsub, hsubs⟩ := List.nodup_cons.mp hnodup
    rw [List.foldl_cons, ih hsubs, sendTo_apply]
    by_cases htx : tx = sub
    · subst htx
      simp [hsub]
    · simp [htx]

lemma receive_append (channel : Channel UpdateEvent) (events events' : List UpdateEvent) :
    receive (receive channel events) events' =
      receive channel (events ++ events') := by
  unfold receive
  cases hclosed : channel.closed <;> simp [hclosed]

/-- A subscriber that is there gets all events, in their order, and nobody else gets any. -/
lemma sendAll_apply {subs : List ι} (hnodup : subs.Nodup) (events : List UpdateEvent)
    (channels : ι → Channel UpdateEvent) (tx : ι) :
    sendAll subs events channels tx =
      if tx ∈ subs then receive (channels tx) events else channels tx := by
  induction events generalizing channels with
  | nil =>
    unfold receive
    cases hchannel : channels tx with
    | mk queue closed => cases closed <;> simp [sendAll, hchannel]
  | cons ev events ih =>
    have hfold : sendAll subs (ev :: events) channels tx =
        sendAll subs events (subs.foldl (sendTo ev) channels) tx := rfl
    rw [hfold, ih, foldl_sendTo hnodup]
    split_ifs with htx
    · exact receive_append _ _ _
    · rfl

end

abbrev Table := ExtHashMap UInt32 Interface

inductive SubscriptionPhase where
  | start
  | started
  | joined
  deriving DecidableEq

/-- The interfaces of the operating system, the tables that the watcher has yet to report and the
one that it has reported last. The backend, the channels, how far each subscription has come, and
what each client has listed. -/
structure Host (ι : Type) where
  os : Table
  pending : List Table
  reported : Table
  backend : NetwatcherBackend ι
  channels : ι → Channel UpdateEvent
  subscribing : ι → SubscriptionPhase
  mirror : ι → Option IfaceMap

inductive HostStep (ι : Type) where
  | change (table : Table)
  | ensureStarted (sub : ι) (starts : Bool)
  | push (sub : ι)
  | callback (update : Update)
  | list (sub : ι)
  | drop (sub : ι)
  /-- The watcher takes two changes for one. -/
  | skip

section

variable {ι : Type}

def Host.boot : Host ι where
  os := ∅
  pending := []
  reported := ∅
  backend := .new
  channels := fun _ => ⟨[], false⟩
  subscribing := fun _ => .start
  mirror := fun _ => none

variable [DecidableEq ι]

/-- The watcher reports the present table first, and those that come later after it. -/
def Host.step : HostStep ι → Host ι → Option (Host ι)
  | .change table, h =>
    some { h with
      os := table
      pending := if h.backend.handle then h.pending ++ [table] else h.pending }
  | .ensureStarted sub starts, h =>
    if h.subscribing sub = .start then
      (h.backend.ensureStarted starts).map fun backend =>
        { h with
          pending := if h.backend.handle then h.pending else [h.os]
          backend := backend
          subscribing := Function.update h.subscribing sub .started }
    else none
  | .push sub, h =>
    if h.subscribing sub = .started then
      some { h with
        backend := h.backend.push sub
        subscribing := Function.update h.subscribing sub .joined }
    else none
  | .callback update, h =>
    if h.backend.handle then
      some { h with
        pending := h.pending.tail
        reported := update.interfaces
        channels := h.backend.callback update h.channels }
    else none
  | .list sub, h =>
    some { h with mirror := Function.update h.mirror sub (some (listInterfaces h.os)) }
  | .drop sub, h =>
    if h.subscribing sub = .joined then
      some { h with channels := Function.update h.channels sub ⟨(h.channels sub).queue, true⟩ }
    else none
  | .skip, h =>
    match h.pending with
    | _ :: next :: rest => some { h with pending := next :: rest }
    | _ => none

abbrev Host.run (steps : List (HostStep ι)) : Option (Host ι) :=
  runSteps Host.step steps Host.boot

def HostStep.update? : HostStep ι → Option Update
  | .callback update => some update
  | _ => none

def HostStep.isPush (sub : ι) : HostStep ι → Bool
  | .push other => other = sub
  | _ => false

/-- The steps from the one that puts a subscriber on the list. -/
def sinceJoin (sub : ι) (steps : List (HostStep ι)) : List (HostStep ι) :=
  steps.dropWhile (fun a => !a.isPush sub)

/-- The events of all updates that are reported after that. -/
def eventsSinceJoin (sub : ι) (steps : List (HostStep ι)) : List UpdateEvent :=
  ((sinceJoin sub steps).filterMap HostStep.update?).flatMap eventsFromUpdate

variable {sub : ι} {steps : List (HostStep ι)} {a : HostStep ι} {h h' : Host ι}

lemma sinceJoin_append : sinceJoin sub (steps ++ [a]) =
    if sinceJoin sub steps = [] then (if a.isPush sub then [a] else [])
    else sinceJoin sub steps ++ [a] := by
  unfold sinceJoin
  rw [List.dropWhile_append]
  simp only [List.isEmpty_iff, List.dropWhile_cons, List.dropWhile_nil]
  cases a.isPush sub <;> rfl

lemma eventsSinceJoin_append : eventsSinceJoin sub (steps ++ [a]) =
    eventsSinceJoin sub steps ++
      if sinceJoin sub steps = [] then [] else a.update?.toList.flatMap eventsFromUpdate := by
  unfold eventsSinceJoin
  rw [sinceJoin_append]
  by_cases hjoin : sinceJoin sub steps = []
  · rw [if_pos hjoin, if_pos hjoin, hjoin]
    cases a <;> simp [HostStep.isPush, HostStep.update?]
  · rw [if_neg hjoin, if_neg hjoin, List.filterMap_append, List.flatMap_append]
    cases a <;> rfl

lemma eventsSinceJoin_quiet (hupdate : a.update? = none) :
    eventsSinceJoin sub (steps ++ [a]) = eventsSinceJoin sub steps := by
  rw [eventsSinceJoin_append, hupdate]
  simp

/-- The events of an update are added to those of the subscribers. -/
lemma eventsSinceJoin_callback (sub : ι) (update : Update) :
    eventsSinceJoin sub (steps ++ [.callback update]) = eventsSinceJoin sub steps ++
      if sinceJoin sub steps = [] then [] else eventsFromUpdate update := by
  rw [eventsSinceJoin_append]
  simp [HostStep.update?]

/-- The subscribers of a run and what it has sent to them. -/
structure Host.Sent (steps : List (HostStep ι)) (h : Host ι) : Prop where
  nodup : h.backend.subs.Nodup
  mem_subs : ∀ sub, sub ∈ h.backend.subs ↔ h.subscribing sub = .joined
  joined : ∀ sub, h.subscribing sub = .joined ↔ sinceJoin sub steps ≠ []
  queue : ∀ sub, (h.channels sub).queue <+: eventsSinceJoin sub steps
  opened : ∀ sub, (h.channels sub).closed = false →
    (h.channels sub).queue = eventsSinceJoin sub steps

/-- A step that puts nobody on the list and sends nothing. -/
lemma Host.Sent.quiet (hsent : h.Sent steps) (hpush : ∀ sub, a.isPush sub = false)
    (hupdate : a.update? = none) (hsubs : h'.backend.subs = h.backend.subs)
    (hjoined : ∀ sub, h'.subscribing sub = .joined ↔ h.subscribing sub = .joined)
    (hqueue : ∀ sub, (h'.channels sub).queue = (h.channels sub).queue)
    (hclosed : ∀ sub, (h'.channels sub).closed = false → (h.channels sub).closed = false) :
    h'.Sent (steps ++ [a]) := by
  constructor
  · rw [hsubs]
    exact hsent.nodup
  · intro sub
    rw [hsubs, hjoined]
    exact hsent.mem_subs sub
  · intro sub
    rw [hjoined, hsent.joined, sinceJoin_append, hpush]
    by_cases hjoin : sinceJoin sub steps = []
    · simp [hjoin]
    · simp [hjoin]
  · intro sub
    rw [hqueue, eventsSinceJoin_quiet hupdate]
    exact hsent.queue sub
  · intro sub hopen
    rw [hqueue, eventsSinceJoin_quiet hupdate]
    exact hsent.opened sub (hclosed sub hopen)

lemma queue_drop (h : Host ι) (sub other : ι) :
    (Function.update h.channels sub ⟨(h.channels sub).queue, true⟩ other).queue =
      (h.channels other).queue := by
  by_cases hother : other = sub
  · rw [hother, Function.update_self]
  · rw [Function.update_of_ne hother]

lemma closed_drop (h : Host ι) (sub other : ι)
    (hopen : (Function.update h.channels sub ⟨(h.channels sub).queue, true⟩ other).closed = false) :
    (h.channels other).closed = false := by
  by_cases hother : other = sub
  · rw [hother, Function.update_self] at hopen
    cases hopen
  · rwa [Function.update_of_ne hother] at hopen

lemma step_skip (hstep : Host.step .skip h = some h') :
    ∃ first next rest, h.pending = first :: next :: rest ∧
      h' = { h with pending := next :: rest } := by
  cases hpending : h.pending with
  | nil => simp [Host.step, hpending] at hstep
  | cons first rest =>
    cases rest with
    | nil => simp [Host.step, hpending] at hstep
    | cons next rest =>
      simp only [Host.step, hpending, Option.some.injEq] at hstep
      exact ⟨first, next, rest, rfl, hstep.symm⟩

/-- A subscriber that joins has got nothing yet. -/
lemma Host.Sent.push {tx : ι} (hsent : h.Sent steps) (hphase : h.subscribing tx = .started)
    (hsubs : h'.backend.subs = h.backend.subs ++ [tx])
    (hsubscribing : h'.subscribing = Function.update h.subscribing tx .joined)
    (hchannels : h'.channels = h.channels) : h'.Sent (steps ++ [.push tx]) := by
  have hnot : h.subscribing tx ≠ .joined := by simp [hphase]
  have hnew : tx ∉ h.backend.subs := fun hmem => hnot ((hsent.mem_subs tx).mp hmem)
  have hevents : ∀ sub, eventsSinceJoin sub (steps ++ [.push tx]) = eventsSinceJoin sub steps := by
    intro sub
    rw [eventsSinceJoin_append]
    simp [HostStep.update?]
  have hjoined : ∀ sub, h'.subscribing sub = .joined ↔ sub = tx ∨ h.subscribing sub = .joined := by
    intro sub
    rw [hsubscribing]
    by_cases hsub : sub = tx
    · simp [hsub]
    · simp [hsub]
  constructor
  · rw [hsubs, ← List.concat_eq_append]
    exact hsent.nodup.concat hnew
  · intro sub
    rw [hsubs, hjoined, List.mem_append, List.mem_singleton, hsent.mem_subs, or_comm]
  · intro sub
    rw [hjoined, hsent.joined, sinceJoin_append]
    by_cases hjoin : sinceJoin sub steps = []
    · simp [hjoin, HostStep.isPush, eq_comm]
    · simp [hjoin]
  · intro sub
    rw [hchannels, hevents]
    exact hsent.queue sub
  · intro sub hopen
    rw [hevents, hchannels]
    rw [hchannels] at hopen
    exact hsent.opened sub hopen

/-- All subscribers that are there get the events of an update. -/
lemma Host.Sent.callback {update : Update} (hsent : h.Sent steps) (hsubs : h'.backend = h.backend)
    (hsubscribing : h'.subscribing = h.subscribing)
    (hchannels : h'.channels = h.backend.callback update h.channels) :
    h'.Sent (steps ++ [.callback update]) := by
  have hevents : ∀ sub, eventsSinceJoin sub (steps ++ [.callback update]) = _ :=
    fun sub => eventsSinceJoin_callback sub update
  have hmem : ∀ sub, sub ∈ h.backend.subs ↔ sinceJoin sub steps ≠ [] :=
    fun sub => (hsent.mem_subs sub).trans (hsent.joined sub)
  have hchannel : ∀ sub, h'.channels sub = if sub ∈ h.backend.subs then
      receive (h.channels sub) (eventsFromUpdate update) else h.channels sub := by
    intro sub
    rw [hchannels]
    exact sendAll_apply hsent.nodup _ _ _
  constructor
  · rw [hsubs]
    exact hsent.nodup
  · intro sub
    rw [hsubs, hsubscribing]
    exact hsent.mem_subs sub
  · intro sub
    rw [hsubscribing, hsent.joined, sinceJoin_append]
    by_cases hjoin : sinceJoin sub steps = []
    · simp [hjoin, HostStep.isPush]
    · simp [hjoin]
  · intro sub
    rw [hchannel, hevents]
    by_cases hjoin : sinceJoin sub steps = []
    · rw [if_neg (fun hsub => (hmem sub).mp hsub hjoin), if_pos hjoin, List.append_nil]
      exact hsent.queue sub
    · rw [if_pos ((hmem sub).mpr hjoin), if_neg hjoin, receive]
      split_ifs with hclosed
      · exact (hsent.queue sub).trans (List.prefix_append _ _)
      · rw [hsent.opened sub (Bool.eq_false_iff.mpr hclosed)]
  · intro sub hopen
    rw [hchannel] at hopen ⊢
    rw [hevents]
    by_cases hjoin : sinceJoin sub steps = []
    · have hsub : sub ∉ h.backend.subs := fun hsub => (hmem sub).mp hsub hjoin
      rw [if_neg hsub] at hopen ⊢
      rw [if_pos hjoin, List.append_nil]
      exact hsent.opened sub hopen
    · rw [if_pos ((hmem sub).mpr hjoin), receive] at hopen ⊢
      rw [if_neg hjoin]
      split_ifs at hopen ⊢ with hclosed
      · cases hopen.symm.trans hclosed
      · rw [hsent.opened sub (Bool.eq_false_iff.mpr hclosed)]

lemma Host.Sent.step (hsent : h.Sent steps) (hstep : Host.step a h = some h') :
    h'.Sent (steps ++ [a]) := by
  cases a with
  | change table =>
    cases hstep
    exact hsent.quiet (fun _ => rfl) rfl rfl (fun _ => Iff.rfl) (fun _ => rfl) (fun _ => id)
  | ensureStarted sub starts =>
    obtain ⟨hphase, hstep⟩ := Option.ite_none_right_eq_some.mp hstep
    obtain ⟨backend, hbackend, rfl⟩ := Option.map_eq_some_iff.mp hstep
    have hsubs : backend.subs = h.backend.subs :=
      NetwatcherBackend.subs_ensureStarted hbackend
    refine hsent.quiet (fun _ => rfl) rfl hsubs (fun other => ?_) (fun _ => rfl) (fun _ => id)
    by_cases hother : other = sub
    · simp [hother, hphase]
    · simp [hother]
  | push tx =>
    obtain ⟨hphase, hstep⟩ := Option.ite_none_right_eq_some.mp hstep
    cases hstep
    exact hsent.push hphase rfl rfl rfl
  | callback update =>
    obtain ⟨-, hstep⟩ := Option.ite_none_right_eq_some.mp hstep
    cases hstep
    exact hsent.callback rfl rfl rfl
  | list sub =>
    cases hstep
    exact hsent.quiet (fun _ => rfl) rfl rfl (fun _ => Iff.rfl) (fun _ => rfl) (fun _ => id)
  | drop sub =>
    obtain ⟨-, hstep⟩ := Option.ite_none_right_eq_some.mp hstep
    cases hstep
    exact hsent.quiet (fun _ => rfl) rfl rfl (fun _ => Iff.rfl) (queue_drop h sub)
      (closed_drop h sub)
  | skip =>
    obtain ⟨first, next, rest, hpending, rfl⟩ := step_skip hstep
    exact hsent.quiet (fun _ => rfl) rfl rfl (fun _ => Iff.rfl) (fun _ => rfl) (fun _ => id)

lemma sent_boot : (Host.boot : Host ι).Sent [] := by
  constructor
  · exact List.nodup_nil
  · intro sub
    exact iff_of_false List.not_mem_nil (fun hphase => by cases hphase)
  · intro sub
    exact iff_of_false (fun hphase => by cases hphase) (fun hne => hne rfl)
  · exact fun _ => List.nil_prefix
  · exact fun _ _ => rfl

/-- Whatever the other subscribers do, what a subscriber gets is the events of the updates that are
reported after it has joined, in their order: all of them while it has its receiver, and a first
part of them when it has dropped it. -/
theorem subscriber_gets_events (hrun : Host.run steps = some h) (sub : ι) :
    (h.channels sub).queue <+: eventsSinceJoin sub steps ∧
      ((h.channels sub).closed = false →
        (h.channels sub).queue = eventsSinceJoin sub steps) := by
  have hsent : h.Sent steps := runSteps_invariant sent_boot
    (fun as a t t' _ ht hstep => ht.step hstep) hrun
  exact ⟨hsent.queue sub, hsent.opened sub⟩

/-- An update that reports a tunnel that went down. -/
def tunnelDown : Update where
  interfaces := ∅
  diff := ⟨[], [7], [], List.nodup_nil⟩

theorem subscriber_gets_events_tunnelDown :
    ∃ h : Host ℕ, Host.run [.ensureStarted 0 true, .push 0, .ensureStarted 1 true,
        .callback tunnelDown, .push 1] = some h ∧ (h.channels 0).queue = [removedEvent 7] := by
  obtain ⟨h, hrun, hopen⟩ : ∃ h : Host ℕ, Host.run [.ensureStarted 0 true, .push 0,
      .ensureStarted 1 true, .callback tunnelDown, .push 1] = some h ∧
        (h.channels 0).closed = false := ⟨_, rfl, rfl⟩
  have hqueue := (subscriber_gets_events hrun 0).2 hopen
  exact ⟨h, hrun, hqueue.trans rfl⟩

end

end Pingling.Shared
