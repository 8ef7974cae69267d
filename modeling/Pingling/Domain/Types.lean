import Mathlib

/-!
# Values of the domain

The errors, the connection states, the core events and the core descriptors that every layer
shares.
-/

namespace Pingling.Domain

/-- The errors of the domain. -/
inductive VpnError where
  | invalidConfiguration (msg : String)
  | processStartFailed (msg : String)
  | processStopFailed (msg : String)
  | processKillFailed (msg : String)
  | alreadyConnected
  | notConnected
  | prerequisiteMissing (msg : String)
  | storageError (msg : String)
  | validationError (msg : String)
  | coreNotFound (msg : String)
  | permissionDenied (msg : String)
  | outboundNotFound (msg : String)
  | cancelled
  | unknown (msg : String)
  deriving DecidableEq

namespace VpnError

/-- The text of an error. -/
def toString : VpnError → String
  | invalidConfiguration msg => "Invalid configuration: " ++ msg
  | processStartFailed msg => "Process start failed: " ++ msg
  | processStopFailed msg => "Process stop failed: " ++ msg
  | processKillFailed msg => "Process kill failed: " ++ msg
  | alreadyConnected => "Already connected"
  | notConnected => "Not connected"
  | prerequisiteMissing msg => "Prerequisite missing: " ++ msg
  | storageError msg => "Storage error: " ++ msg
  | validationError msg => "Validation error: " ++ msg
  | coreNotFound msg => "Core not found: " ++ msg
  | permissionDenied msg => "Permission denied: " ++ msg
  | outboundNotFound msg => "Outbound not found: " ++ msg
  | cancelled => "Cancelled"
  | unknown msg => "Unknown error: " ++ msg

/-- The code that clients know an error by. -/
def code : VpnError → String
  | invalidConfiguration _ => "invalid_configuration"
  | processStartFailed _ => "process_start_failed"
  | processStopFailed _ => "process_stop_failed"
  | processKillFailed _ => "process_kill_failed"
  | alreadyConnected => "already_connected"
  | notConnected => "not_connected"
  | prerequisiteMissing _ => "prerequisite_missing"
  | storageError _ => "storage_error"
  | validationError _ => "validation_error"
  | coreNotFound _ => "core_not_found"
  | permissionDenied _ => "permission_denied"
  | outboundNotFound _ => "outbound_not_found"
  | cancelled => "cancelled"
  | unknown _ => "unknown"

/-- Clients may offer to try again. -/
def recoverable : VpnError → Bool
  | invalidConfiguration _ => false
  | processStartFailed _ => true
  | processStopFailed _ => true
  | processKillFailed _ => true
  | alreadyConnected => false
  | notConnected => false
  | prerequisiteMissing _ => false
  | storageError _ => true
  | validationError _ => false
  | coreNotFound _ => false
  | permissionDenied _ => true
  | outboundNotFound _ => true
  | cancelled => true
  | unknown _ => true

end VpnError

/-- How far a connection has come. -/
inductive ConnectionState where
  | disconnected
  | connecting
  | connected
  | disconnecting
  | error (msg : String)
  deriving DecidableEq

/-- The connection is active or transitioning. -/
def ConnectionState.isActive : ConnectionState → Bool
  | .connecting | .connected | .disconnecting => true
  | .disconnected | .error _ => false

/-- What a core reports. -/
inductive CoreEvent where
  | started
  | stopped (code : Int32)
  | log (line : String)
  | errorLog (line : String)
  | stateChanged (state : ConnectionState)
  | crashed (reason : String)
  deriving DecidableEq

def CoreEvent.isCrashed : CoreEvent → Bool
  | .crashed _ => true
  | _ => false

/-- How the binary of a core was found. -/
inductive CoreSource where
  | bundled
  | linked (path : String)
  | system
  | mocked
  deriving DecidableEq

/-- What is known of a type of core. -/
structure CoreDescriptor where
  coreType : String
  displayName : String
  source : CoreSource
  binaryPath : Option String
  available : Bool
  deriving DecidableEq

end Pingling.Domain
