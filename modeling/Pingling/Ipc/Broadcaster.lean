import Pingling.Lib.Json
import Pingling.Lib.Steps

/-!
# The event broadcaster

Publishing and subscribing each hold the lock of the history first and the lock of the
subscriber list after it, never both. A `BroadcastStep` is what one caller does under one
lock; a run is any interleaving of such steps. The broadcaster does not look into a
notification, and in a run the call that publishes it stands for it.
-/

namespace Pingling.Ipc
open Lib

structure Notification where
  jsonrpc : String
  method : String
  params : Value

def Notification.new (method : String) (params : Value) : Notification :=
  ⟨"2.0", method, params⟩

/-- The notification of `publish_state`. -/
def stateChanged (state : String) (running : Bool) (core : String) : Notification :=
  .new "event.stateChanged"
    (.object [("core", .string core), ("running", .bool running), ("state", .string state)])

/-- The channel of a subscriber: all that was sent down it, and whether its receiver is
gone. -/
structure Channel (N : Type) where
  queue : List N
  closed : Bool
  deriving DecidableEq

/-- Sending fails when the receiver is gone. -/
def Channel.send {N : Type} (channel : Channel N) (notif : N) : Option (Channel N) :=
  if channel.closed then none else some ⟨channel.queue ++ [notif], false⟩

structure EventBroadcaster (N Tx : Type) where
  subs : List Tx
  history : List N

def historyLimit : ℕ := 128

/-- The loop that pops the oldest notifications of a history that is too long. -/
def popOldest {N : Type} : List N → List N
  | [] => []
  | notif :: history =>
    if historyLimit < (notif :: history).length then popOldest history else notif :: history

section

variable {N Tx : Type} [DecidableEq Tx]

/-- The loop that replays a history down a channel. Failures are ignored. -/
def replay (tx : Tx) : List N → (Tx → Channel N) → Tx → Channel N
  | [], channels => channels
  | notif :: history, channels =>
    match (channels tx).send notif with
    | some channel => replay tx history (Function.update channels tx channel)
    | none => replay tx history channels

/-- The loop that sends to every subscriber and drops those whose receiver is gone. -/
def retainSend (notif : N) : List Tx → (Tx → Channel N) → List Tx × (Tx → Channel N)
  | [], channels => ([], channels)
  | tx :: subs, channels =>
    match (channels tx).send notif with
    | some channel =>
      let (kept, channels) := retainSend notif subs (Function.update channels tx channel)
      (tx :: kept, channels)
    | none => retainSend notif subs channels

namespace EventBroadcaster

def new : EventBroadcaster N Tx :=
  ⟨[], []⟩

/-- The first section of `publish`, under the lock of the history. -/
def record (broadcaster : EventBroadcaster N Tx) (notif : N) : EventBroadcaster N Tx :=
  { broadcaster with history := popOldest (broadcaster.history ++ [notif]) }

/-- The second section of `publish`, under the lock of the subscribers. -/
def fanOut (broadcaster : EventBroadcaster N Tx) (notif : N) (channels : Tx → Channel N) :
    EventBroadcaster N Tx × (Tx → Channel N) :=
  let (subs, channels) := retainSend notif broadcaster.subs channels
  ({ broadcaster with subs := subs }, channels)

/-- The first section of `subscribe`, under the lock of the history. -/
def replayHistory (broadcaster : EventBroadcaster N Tx) (tx : Tx) (channels : Tx → Channel N) :
    Tx → Channel N :=
  replay tx broadcaster.history channels

/-- The second section of `subscribe`, under the lock of the subscribers. -/
def join (broadcaster : EventBroadcaster N Tx) (tx : Tx) : EventBroadcaster N Tx :=
  { broadcaster with subs := broadcaster.subs ++ [tx] }

end EventBroadcaster
end

inductive PublishPhase where
  | start
  | recorded
  | done
  deriving DecidableEq

inductive SubscribePhase where
  | start
  | replayed
  | joined
  deriving DecidableEq

/-- The broadcaster, the channels and how far each call has come. `κ` names the calls of
`publish`, and `ι` those of `subscribe` with the channels that they make. -/
structure System (κ ι : Type) where
  broadcaster : EventBroadcaster κ ι
  channels : ι → Channel κ
  publishing : κ → PublishPhase
  subscribing : ι → SubscribePhase

/-- A locked section of a call, or the end of a subscriber that drops its receiver. -/
inductive BroadcastStep (κ ι : Type) where
  | record (call : κ)
  | fanOut (call : κ)
  | replay (sub : ι)
  | join (sub : ι)
  | disconnect (sub : ι)
  deriving DecidableEq

variable {κ ι : Type}

def System.init : System κ ι where
  broadcaster := .new
  channels := fun _ => ⟨[], false⟩
  publishing := fun _ => .start
  subscribing := fun _ => .start

variable [DecidableEq κ] [DecidableEq ι]

def System.step : BroadcastStep κ ι → System κ ι → Option (System κ ι)
  | .record call, s =>
    if s.publishing call = .start then
      some { s with
        broadcaster := s.broadcaster.record call
        publishing := Function.update s.publishing call .recorded }
    else none
  | .fanOut call, s =>
    if s.publishing call = .recorded then
      some { s with
        broadcaster := (s.broadcaster.fanOut call s.channels).1
        channels := (s.broadcaster.fanOut call s.channels).2
        publishing := Function.update s.publishing call .done }
    else none
  | .replay sub, s =>
    if s.subscribing sub = .start then
      some { s with
        channels := s.broadcaster.replayHistory sub s.channels
        subscribing := Function.update s.subscribing sub .replayed }
    else none
  | .join sub, s =>
    if s.subscribing sub = .replayed then
      some { s with
        broadcaster := s.broadcaster.join sub
        subscribing := Function.update s.subscribing sub .joined }
    else none
  | .disconnect sub, s =>
    if s.subscribing sub = .joined then
      some { s with
        channels := Function.update s.channels sub ⟨(s.channels sub).queue, true⟩ }
    else none

/-- The state after an interleaving of steps, if each is possible in its turn. -/
abbrev System.run (steps : List (BroadcastStep κ ι)) : Option (System κ ι) :=
  runSteps System.step steps System.init

end Pingling.Ipc
