import Pingling.Domain.Types
import Pingling.Lib.Lowercase
import Pingling.Lib.Text

/-!
# What an error says about its cause

The retry loop and the plugins branch on a small taxonomy of causes. Three causes are read
off the kind of error, the others off what its text contains in lower case.
-/

namespace Pingling.Config
open Lib Domain

inductive ErrorKind where
  | dnsFailure
  | tcpTimeout
  | tcpRefused
  | tlsHandshake
  | httpError
  | authFailure
  | validation
  | tunDevice
  | permissionDenied
  | prerequisiteMissing
  | timeout
  | unknown
  deriving DecidableEq

/-- An error as a plugin is told of it. -/
structure PreviousError where
  kind : ErrorKind
  message : String
  coreErrorKind : String

def containsAny (haystack : String) (needles : List String) : Bool :=
  needles.any (Text.containsText · haystack)

/-- The cause that a text in lower case gives away. -/
def classifyText (lower : String) : ErrorKind :=
  if containsAny lower ["no such host", "name resolution", "dns lookup"] then .dnsFailure
  else if containsAny lower ["connection refused", "connection reset"] then .tcpRefused
  else if containsAny lower ["timed out", "timeout"] then .tcpTimeout
  else if containsAny lower ["tls", "handshake", "certificate"] then .tlsHandshake
  else if containsAny lower ["401", "unauthorized", "403", "forbidden"] then .authFailure
  else if containsAny lower ["http"] then .httpError
  else if containsAny lower ["tun ", "/dev/net/tun", "wintun", "tap adapter", "adapter create"]
    then .tunDevice
  else .unknown

/-- The name of the error's variant. -/
def coreErrorKind : VpnError → String
  | .invalidConfiguration _ => "InvalidConfiguration"
  | .processStartFailed _ => "ProcessStartFailed"
  | .processStopFailed _ => "ProcessStopFailed"
  | .processKillFailed _ => "ProcessKillFailed"
  | .alreadyConnected => "AlreadyConnected"
  | .notConnected => "NotConnected"
  | .prerequisiteMissing _ => "PrerequisiteMissing"
  | .storageError _ => "StorageError"
  | .validationError _ => "ValidationError"
  | .coreNotFound _ => "CoreNotFound"
  | .permissionDenied _ => "PermissionDenied"
  | .outboundNotFound _ => "OutboundNotFound"
  | .cancelled => "Cancelled"
  | .unknown _ => "Unknown"

/-- The cause of an error whose text in lower case is given. -/
def kindOf (lower : String) : VpnError → ErrorKind
  | .prerequisiteMissing _ => .prerequisiteMissing
  | .permissionDenied _ => .permissionDenied
  | .validationError _ | .invalidConfiguration _ => .validation
  | _ => classifyText lower

def classifyError (tables : CaseTables) (err : VpnError) : PreviousError :=
  let message := err.toString
  let lower := tables.toLowercase message
  ⟨kindOf lower err, message, coreErrorKind err⟩

lemma classifyError_kind (tables : CaseTables) (err : VpnError) :
    (classifyError tables err).kind = kindOf (tables.toLowercase err.toString) err := rfl

/-- The texts that the classification looks for. -/
def needles : List String :=
  ["no such host", "name resolution", "dns lookup", "connection refused", "connection reset",
    "timed out", "timeout", "tls", "handshake", "certificate", "401", "unauthorized", "403",
    "forbidden", "http", "tun ", "/dev/net/tun", "wintun", "tap adapter", "adapter create"]

/-- The classification reads nothing of a text but which of its needles are in it. -/
lemma classifyText_congr {lower lower' : String}
    (h : ∀ needle ∈ needles, Text.containsText needle lower = Text.containsText needle lower') :
    classifyText lower = classifyText lower' := by
  have hany : ∀ part ⊆ needles, containsAny lower part = containsAny lower' part := by
    intro part hpart
    rw [containsAny, containsAny, Bool.eq_iff_iff, List.any_eq_true, List.any_eq_true]
    exact exists_congr (fun needle => and_congr_right (fun hneedle => by
      rw [h needle (hpart hneedle)]))
  unfold classifyText
  simp (disch := decide) only [hany]

/-- The front is a phrase that no needle begins in, once in lower case. -/
def Silent (front : String) : Prop :=
  CaseTables.AsciiPhrase front ∧
    ∀ needle ∈ needles, Text.Apart needle (String.ofList (front.toList.map Char.toLower))

instance (front : String) : Decidable (Silent front) :=
  inferInstanceAs (Decidable (_ ∧ _))

/-- A silent front does not change how a text is classified. -/
theorem classifyText_append {front : String} (h : Silent front) (tables : CaseTables)
    (text : String) :
    classifyText (tables.toLowercase (front ++ text)) = classifyText (tables.toLowercase text) := by
  obtain ⟨hphrase, hapart⟩ := h
  rw [tables.toLowercase_append hphrase]
  apply classifyText_congr
  intro needle hneedle
  exact Text.containsText_append_of_apart (hapart needle hneedle) _

lemma silent_of_lower {front : String} (lower : String)
    (hphrase : CaseTables.AsciiPhrase front)
    (hlower : String.ofList (front.toList.map Char.toLower) = lower)
    (hapart : ∀ needle ∈ needles, Text.Apart needle lower) : Silent front := by
  subst hlower
  exact ⟨hphrase, hapart⟩

lemma silent_unknown : Silent "Unknown error: " := by
  apply silent_of_lower "unknown error: "
  · simp [CaseTables.AsciiPhrase]
  · decide
  · decide +kernel

end Pingling.Config
