import Pingling.Lib.Collections
import Pingling.Lib.Steps
import Pingling.Lib.Text
import Pingling.Domain.VpnCore

/-!
# A core that runs a process

The core, its controller and its reapers share the connection state and the slot of the
child, each under its own lock. A `CoreStep` is what one thread does in one locked section,
or what happens to a child; a run is any interleaving of such steps. `stop` keeps the lock
of the slot until it returns, so no reaper looks into the slot meanwhile.
-/

namespace Pingling.Cores
open Lib Domain

structure ProcessCoreSpec where
  binary : String
  startArgs : List String
  env : BTreeMap String String

structure Command where
  program : String
  args : List String
  envs : BTreeMap String String

/-- What the operating system answers to one call of `start`. -/
structure Os where
  pathExists : String → Bool
  which : String → Option String
  spawn : Command → Except String Unit

def ProcessCoreSpec.resolveBinary (spec : ProcessCoreSpec) (os : Os) : Except VpnError String :=
  let path := spec.binary
  if Text.contains '/' path || Text.contains '\\' path then
    if os.pathExists path then .ok path
    else .error (.prerequisiteMissing s!"binary not found: {path}")
  else
    match os.which path with
    | some binary => .ok binary
    | none => .error (.prerequisiteMissing s!"{path} not found in PATH")

def expandArgs (args : List String) (configPath : String) : List String :=
  args.map (fun arg => arg.replace "\x7bconfig\x7d" configPath)

def ProcessCoreSpec.command (spec : ProcessCoreSpec) (binary : String) (args : List String) :
    Command :=
  ⟨binary, args, spec.env⟩

def ProcessCoreSpec.spawnProcess (spec : ProcessCoreSpec) (os : Os) (args : List String) :
    VpnResult := do
  let binary ← spec.resolveBinary os
  match os.spawn (spec.command binary args) with
  | .ok () => .ok ()
  | .error e => .error (.processStartFailed s!"{binary}: {e}")

structure ExitStatus where
  code : Option Int32
  deriving DecidableEq

/-- The event of a reaper that has found its child gone. -/
def crashed (status : ExitStatus) : CoreEvent :=
  let code := status.code.getD (-1)
  .crashed s!"exited unexpectedly (code {code})"

/-- The section that the controller takes next, with its locals. The calls of `stop` that
`restart` makes carry the path of the `start` that follows. -/
inductive Controller where
  | idle
  | readStatus (configPath : String)
  | checkSlot (configPath : String)
  | writeConnecting (configPath : String)
  | spawn (configPath : String)
  | giveUp (error : VpnError)
  | storeChild (child : ℕ)
  | writeConnected (child : ℕ)
  | spawnReaper (child : ℕ)
  | takeChild (next : Option String)
  | writeDisconnecting (child : ℕ) (next : Option String)
  | killChild (child : ℕ) (next : Option String)
  | waitChild (child : ℕ) (next : Option String)
  | writeDisconnected (next : Option String)
  deriving DecidableEq

/-- The controller is inside `stop` and holds the lock of the slot. -/
def Controller.locksSlot : Controller → Bool
  | .writeDisconnecting _ _ | .killChild _ _ | .waitChild _ _ | .writeDisconnected _ => true
  | _ => false

/-- How far a reaper has come. One that has cleared the slot has still to write the state and
to send its event. -/
inductive Reaper where
  | unborn
  | asleep
  | cleared (child : ℕ) (status : ExitStatus)
  | written (child : ℕ) (status : ExitStatus)
  | ended
  deriving DecidableEq

/-- The child that a reaper has taken out of the slot and not reported yet. -/
def Reaper.reaping : Reaper → Option ℕ
  | .cleared child _ | .written child _ => some child
  | _ => none

/-- What the threads share. Children are numbered in the order in which they are spawned, and
each event carries the child that it is about. -/
structure ProcessCore where
  state : ConnectionState
  child : Option ℕ
  events : List (ℕ × CoreEvent)

def ProcessCore.new : ProcessCore :=
  ⟨.disconnected, none, []⟩

/-- The core, its threads and its children. A reaper has the number of the child whose `start`
made it. `taken`, `polls` and `returned` record the children that `stop` took, which reaper
polled which child, and the results of the calls. -/
structure System extends ProcessCore where
  controller : Controller
  reapers : ℕ → Reaper
  spawned : ℕ
  exited : ℕ → Option ExitStatus
  taken : List ℕ
  polls : List (ℕ × ℕ)
  returned : List VpnResult

namespace System

def init : System where
  toProcessCore := .new
  controller := .idle
  reapers := fun _ => .unborn
  spawned := 0
  exited := fun _ => none
  taken := []
  polls := []
  returned := []

def ret (result : VpnResult) (s : System) : System :=
  { s with controller := .idle, returned := s.returned ++ [result] }

/-- The beginning of `start`, before its first lock. -/
def enterStart (configPath : String) (s : System) : System :=
  if configPath = "" then
    s.ret (.error (.invalidConfiguration "config_path must not be empty"))
  else { s with controller := .checkSlot configPath }

/-- The beginning of a call. `kill` is `stop`. -/
def enter : CoreCall → System → System
  | .start configPath, s => s.enterStart configPath
  | .stop, s | .kill, s => { s with controller := .takeChild none }
  | .restart configPath, s => { s with controller := .readStatus configPath }

/-- The end of a `stop` that succeeds. -/
def stopped : Option String → System → System
  | none, s => s.ret (.ok ())
  | some configPath, s => s.enterStart configPath

/-- The section of `stop` that takes the child, under the lock that it keeps. -/
def takeChild (next : Option String) (s : System) : System :=
  match s.child with
  | none => s.ret (.error .notConnected)
  | some child =>
    { s with
      child := none
      taken := s.taken ++ [child]
      controller := .writeDisconnecting child next }

/-- The section of a reaper that wakes up. `failed` says that `try_wait` is an error. -/
def wake (reaper : ℕ) (failed : Bool) (s : System) : System :=
  match s.child with
  | none => { s with reapers := Function.update s.reapers reaper .ended }
  | some child =>
    let s := { s with polls := s.polls ++ [(reaper, child)] }
    if failed then { s with reapers := Function.update s.reapers reaper .ended }
    else
      match s.exited child with
      | some status =>
        { s with
          child := none
          reapers := Function.update s.reapers reaper (.cleared child status) }
      | none => s

end System

/-- A step of the controller, a step of the reaper with a given number, the exit of a child
or a line that a child prints. -/
inductive CoreStep where
  | call (call : CoreCall)
  | readStatus (configPath : String)
  | checkSlot (configPath : String)
  | writeConnecting (configPath : String)
  | spawn (configPath : String) (os : Os)
  | giveUp (error : VpnError)
  | storeChild (child : ℕ)
  | writeConnected (child : ℕ)
  | spawnReaper (child : ℕ)
  | takeChild (next : Option String)
  | writeDisconnecting (child : ℕ) (next : Option String)
  | killChild (child : ℕ) (next : Option String) (answer : Except String Unit)
  | waitChild (child : ℕ) (next : Option String)
  | writeDisconnected (next : Option String)
  | wake (reaper : ℕ) (failed : Bool)
  | reapState (reaper child : ℕ) (status : ExitStatus)
  | sendCrashed (reaper child : ℕ) (status : ExitStatus)
  | exit (child : ℕ) (status : ExitStatus)
  | printLine (child : ℕ) (line : String) (stderr : Bool)

namespace CoreStep

/-- Where a step may be taken. -/
def Enabled : CoreStep → System → Prop
  | .call _, s => s.controller = .idle
  | .readStatus configPath, s => s.controller = .readStatus configPath
  | .checkSlot configPath, s => s.controller = .checkSlot configPath
  | .writeConnecting configPath, s => s.controller = .writeConnecting configPath
  | .spawn configPath _, s => s.controller = .spawn configPath
  | .giveUp error, s => s.controller = .giveUp error
  | .storeChild child, s => s.controller = .storeChild child
  | .writeConnected child, s => s.controller = .writeConnected child
  | .spawnReaper child, s => s.controller = .spawnReaper child
  | .takeChild next, s => s.controller = .takeChild next
  | .writeDisconnecting child next, s => s.controller = .writeDisconnecting child next
  | .killChild child next _, s => s.controller = .killChild child next
  -- `wait` returns once the child is gone
  | .waitChild child next, s => s.controller = .waitChild child next ∧ s.exited child ≠ none
  | .writeDisconnected next, s => s.controller = .writeDisconnected next
  | .wake reaper _, s => s.reapers reaper = .asleep ∧ s.controller.locksSlot = false
  | .reapState reaper child status, s => s.reapers reaper = .cleared child status
  | .sendCrashed reaper child status, s => s.reapers reaper = .written child status
  | .exit child _, s => child < s.spawned ∧ s.exited child = none
  | .printLine child _ _, s => child < s.spawned

instance (step : CoreStep) (s : System) : Decidable (step.Enabled s) := by
  cases step <;> dsimp only [Enabled] <;> infer_instance

def effect (spec : ProcessCoreSpec) : CoreStep → System → System
  | .call c, s => s.enter c
  | .readStatus configPath, s =>
    if s.state.isActive then { s with controller := .takeChild (some configPath) }
    else s.enterStart configPath
  | .checkSlot configPath, s =>
    if s.child.isSome then s.ret (.error .alreadyConnected)
    else { s with controller := .writeConnecting configPath }
  | .writeConnecting configPath, s =>
    { s with state := .connecting, controller := .spawn configPath }
  | .spawn configPath os, s =>
    match spec.spawnProcess os (expandArgs spec.startArgs configPath) with
    | .ok () => { s with spawned := s.spawned + 1, controller := .storeChild s.spawned }
    | .error e => { s with controller := .giveUp e }
  | .giveUp error, s => { s with state := .disconnected }.ret (.error error)
  | .storeChild child, s => { s with child := some child, controller := .writeConnected child }
  | .writeConnected child, s =>
    { s with state := .connected, controller := .spawnReaper child }
  | .spawnReaper child, s =>
    { s with reapers := Function.update s.reapers child .asleep }.ret (.ok ())
  | .takeChild next, s => s.takeChild next
  | .writeDisconnecting child next, s =>
    { s with state := .disconnecting, controller := .killChild child next }
  | .killChild child next answer, s =>
    match answer with
    | .ok () => { s with controller := .waitChild child next }
    | .error e => s.ret (.error (.processStopFailed e))
  | .waitChild _ next, s => { s with controller := .writeDisconnected next }
  | .writeDisconnected next, s => { s with state := .disconnected }.stopped next
  | .wake reaper failed, s => s.wake reaper failed
  | .reapState reaper child status, s =>
    { s with
      state := .disconnected
      reapers := Function.update s.reapers reaper (.written child status) }
  | .sendCrashed reaper child status, s =>
    { s with
      events := s.events ++ [(child, crashed status)]
      reapers := Function.update s.reapers reaper .ended }
  | .exit child status, s => { s with exited := Function.update s.exited child (some status) }
  | .printLine child line stderr, s =>
    { s with events := s.events ++ [(child, if stderr then .errorLog line else .log line)] }

end CoreStep

namespace System

variable {spec : ProcessCoreSpec}

def step (spec : ProcessCoreSpec) (a : CoreStep) (s : System) : Option System :=
  if a.Enabled s then some (a.effect spec s) else none

/-- The state after an interleaving of steps, if each is possible in its turn. -/
abbrev run (spec : ProcessCoreSpec) (steps : List CoreStep) : Option System :=
  runSteps (step spec) steps init

lemma step_eq_some {a : CoreStep} {s t : System} :
    step spec a s = some t ↔ a.Enabled s ∧ a.effect spec s = t := by
  rw [step, Option.ite_none_right_eq_some, Option.some.injEq]

/-- The core of the tests, which runs `/bin/sleep 60`. -/
def sleepSpec : ProcessCoreSpec :=
  ⟨"/bin/sleep", ["60"], ∅⟩

/-- A system on which every spawn succeeds. -/
def healthyOs : Os :=
  ⟨fun _ => true, some, fun _ => .ok ()⟩

/-- The sections of a `start` that succeeds, after its beginning. -/
def startSections (configPath : String) (os : Os) (child : ℕ) : List CoreStep :=
  [.checkSlot configPath, .writeConnecting configPath, .spawn configPath os, .storeChild child,
    .writeConnected child, .spawnReaper child]

/-- The sections of a `stop` that succeeds. The child goes when it has been killed. -/
def stopSections (child : ℕ) (next : Option String) (status : ExitStatus) : List CoreStep :=
  [.takeChild next, .writeDisconnecting child next, .killChild child next (.ok ()),
    .exit child status, .waitChild child next, .writeDisconnected next]

section

variable {s : System} {child : ℕ}

lemma takeChild_none (h : s.child = none) (next : Option String) :
    s.takeChild next = s.ret (.error .notConnected) := by
  rw [takeChild, h]

lemma takeChild_some (h : s.child = some child) (next : Option String) :
    s.takeChild next =
      { s with
        child := none
        taken := s.taken ++ [child]
        controller := .writeDisconnecting child next } := by
  rw [takeChild, h]

lemma wake_none (h : s.child = none) (reaper : ℕ) (failed : Bool) :
    s.wake reaper failed = { s with reapers := Function.update s.reapers reaper .ended } := by
  rw [wake, h]

lemma wake_failed (h : s.child = some child) (reaper : ℕ) :
    s.wake reaper true =
      { s with
        polls := s.polls ++ [(reaper, child)]
        reapers := Function.update s.reapers reaper .ended } := by
  rw [wake, h]
  rfl

lemma wake_running (h : s.child = some child) (hexited : s.exited child = none)
    (reaper : ℕ) :
    s.wake reaper false = { s with polls := s.polls ++ [(reaper, child)] } := by
  simp [wake, h, hexited]

lemma wake_exited (h : s.child = some child) {status : ExitStatus}
    (hexited : s.exited child = some status) (reaper : ℕ) :
    s.wake reaper false =
      { s with
        polls := s.polls ++ [(reaper, child)]
        child := none
        reapers := Function.update s.reapers reaper (.cleared child status) } := by
  simp [wake, h, hexited]

end
end System

end Pingling.Cores
