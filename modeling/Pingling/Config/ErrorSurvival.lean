import Pingling.Config.ErrorKind
import Pingling.Domain.PluginSlot

/-!
# What survives of a plugin's error

A plugin's error leaves its slot chain as an unknown error around the text of the one the
plugin gave. Clients, the retry flag and the retry loop see what the plugin meant just when
it was an unknown error already.
-/

namespace Pingling.Config
open Lib Domain HostContract

/-- Clients know the second error by the same code, may as well try again, and the retry loop
sees the same cause. -/
structure Survives (tables : CaseTables) (error received : VpnError) : Prop where
  code : received.code = error.code
  recoverable : received.recoverable = error.recoverable
  kind : (classifyError tables received).kind = (classifyError tables error).kind

lemma eq_unknown_of_code {error : VpnError} (h : error.code = "unknown") :
    ∃ msg, error = .unknown msg := by
  cases error with
  | unknown msg => exact ⟨msg, rfl⟩
  | _ => exact absurd h (by simp [VpnError.code])

/-- Around an unknown error, a second one puts only the phrase that says so. -/
lemma survives_unknown_iff (tables : CaseTables) (error : VpnError) :
    Survives tables error (.unknown error.toString) ↔ ∃ msg, error = .unknown msg := by
  constructor
  · intro h
    exact eq_unknown_of_code h.code.symm
  · rintro ⟨msg, rfl⟩
    have htext : ∀ text, (VpnError.unknown text).toString = "Unknown error: " ++ text :=
      fun _ => rfl
    have hkind := classifyText_append silent_unknown tables ("Unknown error: " ++ msg)
    constructor
    · rfl
    · rfl
    · simpa only [classifyError_kind, kindOf, htext] using hkind

section

variable {P : Type} [SlotPayload P]

/-- The error of the first phase in which the plugin fails survives the chain just when it is an
unknown error. -/
theorem plugin_error_survives (tables : CaseTables) (plugin : Plugin) (slot : String)
    (wireVersion : UInt32) (invocationId : String) (initialPayload : P) (observer : SlotObserver)
    (call : HostRuntime.IpcCall) (error : VpnError)
    (hcall : call ∈ slotCalls (runSlotChainObserved plugin slot wireVersion invocationId
      initialPayload observer).log)
    (hfails : plugin.handleIpc call.method call.params = some (.error error)) :
    (∃ received, (runSlotChainObserved plugin slot wireVersion invocationId initialPayload
        observer).result = .error received ∧ Survives tables error received) ↔
      ∃ msg, error = .unknown msg := by
  have hresult := runSlotChainObserved_of_error hcall hfails
  rw [← survives_unknown_iff tables error]
  constructor
  · rintro ⟨received, hreceived, hsurvives⟩
    have hunknown : received = .unknown error.toString := by
      rw [hreceived] at hresult
      exact Except.error.inj hresult
    rw [← hunknown]
    exact hsurvives
  · intro hsurvives
    exact ⟨.unknown error.toString, hresult, hsurvives⟩

end

/-- A plugin that answers every call with the same error. -/
def failingPlugin (error : VpnError) : Plugin :=
  ⟨"driver", fun _ _ => some (.error error)⟩

theorem plugin_error_survives_unknown :
    (∃ received, (runSlotChainObserved (failingPlugin (.unknown "i/o timeout")) "vpn.connect" 1
        "inv" Value.null .null).result = .error received ∧
      Survives .ascii (.unknown "i/o timeout") received) ↔
      ∃ msg, VpnError.unknown "i/o timeout" = .unknown msg :=
  plugin_error_survives .ascii (failingPlugin (.unknown "i/o timeout")) "vpn.connect" 1 "inv"
    Value.null .null
    ⟨"driver", "slot.vpn.connect.before", .object [("invocation_id", .string "inv"),
      ("payload", .null), ("phase", .string "before"), ("slot", .string "vpn.connect"),
      ("wire_version", .ofUInt32 1)]⟩
    (.unknown "i/o timeout") (List.mem_singleton.mpr rfl) rfl

/-- A missing library comes out as an error that clients may retry, under another code. -/
theorem missing_library_lost :
    let error := VpnError.prerequisiteMissing "libbox.dll not found"
    let run := runSlotChain (failingPlugin error) "vpn.connect" 1 "inv" Value.null
    (∃ call ∈ slotCalls run.log,
      (failingPlugin error).handleIpc call.method call.params = some (.error error)) ∧
    error.recoverable = false ∧
    (∃ received, run.result = .error received ∧ received.recoverable = true) ∧
    ¬∃ received, run.result = .error received ∧ Survives .ascii error received := by
  intro error run
  have hresult : run.result = .error (.unknown error.toString) := rfl
  refine ⟨⟨_, List.mem_singleton.mpr rfl, rfl⟩, rfl, ⟨_, hresult, rfl⟩, ?_⟩
  rintro ⟨received, hreceived, hsurvives⟩
  rw [hresult, Except.error.injEq] at hreceived
  rw [← hreceived, survives_unknown_iff] at hsurvives
  exact absurd hsurvives (by simp [error])

end Pingling.Config
