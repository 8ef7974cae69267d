import Pingling.Domain.VpnCore

/-!
# The mock core and the switch

The mock keeps a connection state and no process. Like every core that behaves, it acts as a
switch that is on or off.
-/

namespace Pingling.Cores
open Domain

structure MockCore where
  state : ConnectionState
  events : List CoreEvent

namespace MockCore

def new : MockCore :=
  ⟨.disconnected, []⟩

def log (msg : String) (core : MockCore) : MockCore :=
  { core with events := core.events ++ [.log msg] }

def emitState (state : ConnectionState) (core : MockCore) : MockCore :=
  ⟨state, core.events ++ [.stateChanged state]⟩

def start (configPath : String) (core : MockCore) : VpnResult × MockCore :=
  if configPath = "" then
    (.error (.invalidConfiguration "config_path must not be empty"), core)
  else if core.state.isActive then (.error .alreadyConnected, core)
  else
    let core := core.log "[mock] start requested"
    let core := core.emitState .connecting
    let core := core.log "[mock] initializing core engine"
    let core := core.log "[mock] binding to 127.0.0.1:1080 (socks)"
    let core := core.log "[mock] binding to 127.0.0.1:8080 (http)"
    let core := core.log "[mock] connected (simulated)"
    let core := core.emitState .connected
    (.ok (), core)

def stop (core : MockCore) : VpnResult × MockCore :=
  if !core.state.isActive then (.error .notConnected, core)
  else
    let core := core.log "[mock] stop requested"
    let core := core.emitState .disconnecting
    let core := core.emitState .disconnected
    let core := core.log "[mock] disconnected"
    (.ok (), core)

def kill (core : MockCore) : VpnResult × MockCore :=
  if !core.state.isActive then (.error .notConnected, core)
  else
    let core := core.log "[mock] force kill requested"
    let core := core.emitState .disconnected
    let core := core.log "[mock] killed"
    (.ok (), core)

end MockCore

def mockCore : VpnCore MockCore where
  start := MockCore.start
  stop := MockCore.stop
  kill := MockCore.kill
  status := MockCore.state

/-- A core that is on or off. -/
def switchCore : VpnCore Bool where
  start := fun configPath on =>
    if configPath = "" then
      (.error (.invalidConfiguration "config_path must not be empty"), on)
    else if on then (.error .alreadyConnected, on)
    else (.ok (), true)
  stop := fun on => if on then (.ok (), false) else (.error .notConnected, on)
  kill := fun on => if on then (.ok (), false) else (.error .notConnected, on)
  status := fun on => if on then .connected else .disconnected

@[simp] lemma isActive_switchCore (on : Bool) : (switchCore.status on).isActive = on := by
  cases on <;> rfl

lemma mockCore_simulates :
    mockCore.Simulates switchCore (fun core on => core.state = switchCore.status on) where
  status := fun _ _ h => h
  start := fun configPath core on h => by
    by_cases hempty : configPath = ""
    · simp [mockCore, MockCore.start, switchCore, hempty, h]
    · cases on <;>
        simp [mockCore, MockCore.start, MockCore.emitState, ConnectionState.isActive, switchCore,
          hempty, h]
  stop := fun core on h => by
    cases on <;>
      simp [mockCore, MockCore.stop, MockCore.emitState, MockCore.log, ConnectionState.isActive,
        switchCore, h]
  kill := fun core on h => by
    cases on <;>
      simp [mockCore, MockCore.kill, MockCore.emitState, MockCore.log, ConnectionState.isActive,
        switchCore, h]

/-- The mock answers every sequence of calls as a switch that is off at first. -/
lemma mockCore_serve (calls : List CoreCall) :
    (mockCore.serve calls .new).1 = (switchCore.serve calls false).1 ∧
      mockCore.status (mockCore.serve calls .new).2 =
        switchCore.status (switchCore.serve calls false).2 :=
  mockCore_simulates.serve calls rfl

end Pingling.Cores
