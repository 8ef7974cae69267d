import Pingling.Lib.Checks
import Pingling.Lib.Json
import Pingling.Lib.Text

/-!
# Slots, phases, policies and outcomes

The shared vocabulary of the host contract: failures, validated tokens, slot names, the
three phases, the five policies, and the two envelopes that cross the plugin boundary.
-/

namespace Pingling.HostContract
open Lib

/-- An error of the host contract. -/
structure HostFailure where
  code : String
  message : String
  deriving DecidableEq

namespace HostFailure

def invalidInput (message : String) : HostFailure :=
  ⟨"invalid_input", message⟩

def pluginError (message : String) : HostFailure :=
  ⟨"plugin_error", message⟩

def toString (failure : HostFailure) : String :=
  s!"{failure.code}: {failure.message}"

end HostFailure

abbrev HostResult (α : Type) := Except HostFailure α

def isTokenChar (character : Char) : Bool :=
  character.isAlphanum || character == '.' || character == '-' || character == '_' ||
    character == ':'

def isHostChar (character : Char) : Bool :=
  character.isAlphanum || character == '.' || character == '-' || character == '*' ||
    character == ':'

/-- A token is not empty and has token characters only. -/
def validateToken (kind value : String) : HostResult Unit :=
  if value.isEmpty then .error (.invalidInput s!"{kind} must not be empty")
  else if Text.allChars isTokenChar value then .ok ()
  else .error (.invalidInput s!"{kind} contains unsupported characters")

/-- A pattern is a token, or a token with a wildcard behind it. -/
def validateMethodPattern (value : String) : HostResult Unit :=
  match Text.stripSuffix ".*" value with
  | some front => validateToken "method prefix" front
  | none => validateToken "method" value

def validateHostPattern (value : String) : HostResult Unit :=
  if value.isEmpty then .error (.invalidInput "host must not be empty")
  else if Text.allChars isHostChar value then .ok ()
  else .error (.invalidInput "host contains unsupported characters")

/-- A token is a non-empty text over letters, digits and the four separators. -/
def IsToken (value : String) : Prop :=
  value ≠ "" ∧ Text.allChars isTokenChar value = true

instance (value : String) : Decidable (IsToken value) :=
  inferInstanceAs (Decidable (_ ∧ _))

@[simp] lemma validateToken_eq_ok {kind value : String} :
    validateToken kind value = .ok () ↔ IsToken value := by
  simp [validateToken, IsToken, String.isEmpty_iff]

@[simp] lemma validateHostPattern_eq_ok {value : String} :
    validateHostPattern value = .ok () ↔ value ≠ "" ∧ Text.allChars isHostChar value = true := by
  simp [validateHostPattern, String.isEmpty_iff]

lemma not_endsWith_wildcard_of_isToken {value : String} (h : IsToken value) :
    Text.endsWith ".*" value = false := by
  by_contra hne
  obtain ⟨front, rfl⟩ := Text.endsWith_iff.mp (Bool.not_eq_false _ ▸ hne)
  have hstar := h.2
  simp only [Text.allChars, List.all_eq_true] at hstar
  exact absurd (hstar '*' (by simp)) (by decide)

/-- The name of a slot. -/
structure Slot where
  value : String
  deriving DecidableEq

def Slot.new (value : String) : HostResult Slot := do
  validateToken "slot" value
  .ok ⟨value⟩

/-- The phases of a slot, in the order in which they run. -/
inductive SlotPhase where
  | before
  | exec
  | after
  deriving DecidableEq

namespace SlotPhase

/-- The order in which a slot's phases run. -/
def order : List SlotPhase :=
  [before, exec, after]

def asStr : SlotPhase → String
  | before => "before"
  | exec => "exec"
  | after => "after"

end SlotPhase

/-- How the plugins of a slot phase take part in it. -/
inductive SlotPolicy where
  | pipeline
  | firstSuccess
  | singleOwner
  | broadcast
  | bestEffort
  deriving DecidableEq

/-- The phases of a slot in which a plugin takes part. -/
structure SlotBinding where
  name : Slot
  phases : List SlotPhase
  policy : SlotPolicy
  deriving DecidableEq

namespace SlotBinding

def new (name : Slot) (phases : List SlotPhase) (policy : SlotPolicy) : HostResult SlotBinding :=
  if phases.isEmpty then
    .error (.invalidInput "slot binding must include at least one phase")
  else .ok ⟨name, phases, policy⟩

def containsPhase (binding : SlotBinding) (phase : SlotPhase) : Bool :=
  binding.phases.contains phase

end SlotBinding

/-- What a plugin is called with. -/
structure SlotContext (P : Type) where
  slot : Slot
  phase : SlotPhase
  wireVersion : UInt32
  invocationId : String
  payload : P

/-- The answer of a plugin. -/
inductive SlotOutcome (P : Type) where
  | unchanged
  | continue (payload : P)
  | halt (payload : P)
  | error (message : String)
  | unhandled

/-- The code serde derives for a payload type: writing a payload as JSON, and reading an
outcome with such a payload from JSON. Either can fail with a text. -/
class SlotPayload (P : Type) where
  toValue : P → Except String Value
  outcomeFromValue : Value → Except String (SlotOutcome P)

/-- Writing a payload and reading it back gives the payload. -/
class LawfulSlotPayload (P : Type) [SlotPayload P] : Prop where
  roundTrip : ∀ payload : P, ∃ json, SlotPayload.toValue payload = .ok json ∧
    SlotPayload.outcomeFromValue
      (.object [("kind", .string "continue"), ("payload", json)]) = .ok (.continue payload)

/-- An outcome over JSON itself, the default payload, read from its object form. -/
def SlotOutcome.ofObject (entries : List (String × Value)) : Except String (SlotOutcome Value) :=
  match entries.lookup "kind" with
  | some (.string "unchanged") => .ok .unchanged
  | some (.string "unhandled") => .ok .unhandled
  | some (.string "continue") =>
    match entries.lookup "payload" with
    | some payload => .ok (.continue payload)
    | none => .error "missing field `payload`"
  | some (.string "halt") =>
    match entries.lookup "payload" with
    | some payload => .ok (.halt payload)
    | none => .error "missing field `payload`"
  | some (.string "error") =>
    match entries.lookup "message" with
    | some (.string message) => .ok (.error message)
    | _ => .error "missing field `message`"
  | _ => .error "missing field `kind`"

/-- A derived reader also takes an array, whose first item is the kind. -/
def SlotOutcome.ofArray (items : List Value) : Except String (SlotOutcome Value) :=
  match items with
  | [.string "unchanged"] => .ok .unchanged
  | [.string "unhandled"] => .ok .unhandled
  | [.string "continue", payload] => .ok (.continue payload)
  | [.string "halt", payload] => .ok (.halt payload)
  | [.string "error", .string message] => .ok (.error message)
  | _ => .error "invalid length"

instance : SlotPayload Value where
  toValue := .ok
  outcomeFromValue value :=
    match value with
    | .object entries => SlotOutcome.ofObject entries
    | .array items => SlotOutcome.ofArray items
    | _ => .error "expected internally tagged enum SlotOutcome"

instance : LawfulSlotPayload Value where
  roundTrip payload := ⟨payload, rfl, rfl⟩

/-- The context as JSON; the keys of an object are sorted. -/
def SlotContext.toValue {P : Type} [SlotPayload P] (ctx : SlotContext P) : Except String Value := do
  let payload ← SlotPayload.toValue ctx.payload
  .ok (.object [
    ("invocation_id", .string ctx.invocationId),
    ("payload", payload),
    ("phase", .string ctx.phase.asStr),
    ("slot", .string ctx.slot.value),
    ("wire_version", .ofUInt32 ctx.wireVersion)])

lemma SlotContext.toValue_eq_ok {P : Type} [SlotPayload P] {ctx : SlotContext P} :
    (∃ json, ctx.toValue = .ok json) ↔ ∃ json, SlotPayload.toValue ctx.payload = .ok json := by
  simp only [SlotContext.toValue, bind_eq_ok]
  constructor
  · rintro ⟨json, payload, hpayload, -⟩
    exact ⟨payload, hpayload⟩
  · rintro ⟨payload, hpayload⟩
    exact ⟨_, payload, hpayload, rfl⟩

end Pingling.HostContract
