import Pingling.Config.ErrorKind

/-!
# What an error's wrapper says about its cause

Seven kinds of error say no more about the cause than the message they carry. Their texts begin
with different phrases, and no phrase gives a cause away, by itself or together with the message.
-/

namespace Pingling.Config
open Lib Domain CaseTables

/-- The variants that carry a message and are classified by their text. -/
inductive TextVariant where
  | processStartFailed
  | processStopFailed
  | processKillFailed
  | storageError
  | coreNotFound
  | outboundNotFound
  | unknown

namespace TextVariant

/-- The error around a message. -/
def wrap : TextVariant → String → VpnError
  | processStartFailed => .processStartFailed
  | processStopFailed => .processStopFailed
  | processKillFailed => .processKillFailed
  | storageError => .storageError
  | coreNotFound => .coreNotFound
  | outboundNotFound => .outboundNotFound
  | unknown => .unknown

/-- The phrase that the error's text begins with. -/
def front : TextVariant → String
  | processStartFailed => "Process start failed: "
  | processStopFailed => "Process stop failed: "
  | processKillFailed => "Process kill failed: "
  | storageError => "Storage error: "
  | coreNotFound => "Core not found: "
  | outboundNotFound => "Outbound not found: "
  | unknown => "Unknown error: "

lemma wrap_toString (variant : TextVariant) (msg : String) :
    (variant.wrap msg).toString = variant.front ++ msg := by
  cases variant <;> rfl

/-- No cause begins in the phrase, and none across the phrase and the message. -/
lemma silent_front (variant : TextVariant) : Silent variant.front := by
  cases variant with
  | processStartFailed =>
    exact silent_of_lower "process start failed: " (by simp [front, AsciiPhrase])
      (by decide) (by decide +kernel)
  | processStopFailed =>
    exact silent_of_lower "process stop failed: " (by simp [front, AsciiPhrase])
      (by decide) (by decide +kernel)
  | processKillFailed =>
    exact silent_of_lower "process kill failed: " (by simp [front, AsciiPhrase])
      (by decide) (by decide +kernel)
  | storageError =>
    exact silent_of_lower "storage error: " (by simp [front, AsciiPhrase])
      (by decide) (by decide +kernel)
  | coreNotFound =>
    exact silent_of_lower "core not found: " (by simp [front, AsciiPhrase])
      (by decide) (by decide +kernel)
  | outboundNotFound =>
    exact silent_of_lower "outbound not found: " (by simp [front, AsciiPhrase])
      (by decide) (by decide +kernel)
  | unknown => exact silent_unknown

variable (tables : CaseTables) (variant : TextVariant) (msg : String)

/-- What the classification looks for is in the error's text just when it is in the message. -/
lemma containsText_wrap {needle : String} (hneedle : needle ∈ needles) :
    Text.containsText needle (tables.toLowercase (variant.wrap msg).toString) =
      Text.containsText needle (tables.toLowercase msg) := by
  obtain ⟨hphrase, hapart⟩ := variant.silent_front
  rw [wrap_toString, tables.toLowercase_append hphrase]
  exact Text.containsText_append_of_apart (hapart needle hneedle) _

/-- The cause is the one that the message gives away by itself. -/
lemma classifyError_wrap :
    (classifyError tables (variant.wrap msg)).kind = classifyText (tables.toLowercase msg) := by
  have hkind : ∀ lower, kindOf lower (variant.wrap msg) = classifyText lower := by
    intro lower
    cases variant <;> rfl
  rw [classifyError_kind, hkind]
  exact classifyText_congr (fun needle hneedle => containsText_wrap tables variant msg hneedle)

end TextVariant

/-- The wrapper of a message adds no match and hides none, so any two wrappers give one cause, and
so does the message with its ASCII letters in another case. -/
theorem classifyError_wrapper_irrelevant (tables : CaseTables) (msg : String)
    (variant variant' : TextVariant) :
    (classifyError tables (variant.wrap msg)).kind =
        (classifyError tables (variant'.wrap msg)).kind ∧
      (∀ needle ∈ needles,
        Text.containsText needle (tables.toLowercase (variant.wrap msg).toString) =
          Text.containsText needle (tables.toLowercase msg)) ∧
      ∀ msg', eqIgnoreAsciiCase msg msg' = true →
        (classifyError tables (variant.wrap msg)).kind =
          (classifyError tables (variant.wrap msg')).kind := by
  have hkind := variant.classifyError_wrap tables msg
  constructor
  · rw [hkind, variant'.classifyError_wrap tables msg]
  constructor
  · intro needle hneedle
    exact variant.containsText_wrap tables msg hneedle
  · intro msg' hcase
    rw [hkind, variant.classifyError_wrap tables msg', tables.toLowercase_congr hcase]

end Pingling.Config
