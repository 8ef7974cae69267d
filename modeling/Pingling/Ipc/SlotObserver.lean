import Pingling.Domain.PluginSlot
import Pingling.Ipc.Delivery
import Pingling.Ipc.Protocol

/-!
# The observer of the slots

The observer writes a line to the log for each observation and publishes it as a notification.
Each of these two can be switched off while other calls are on their way. A listener that reads
its socket gets back the observations that were admitted to it, with all of their fields.
-/

namespace Pingling.Ipc
open Lib Domain

inductive LogLevel where
  | warn
  | debug
  | trace
  deriving DecidableEq

structure LogRecord where
  level : LogLevel
  target : String
  message : String
  deriving DecidableEq

/-- The line of the log sink. -/
def slotRecord (o : SlotObservation) : LogRecord :=
  match o.event with
  | "error" =>
    ⟨.warn, "ipc_server::slot",
      "slot=" ++ o.slot ++ " phase=" ++ o.phase ++ " event=error msg=" ++
        o.errorMessage.getD "(none)"⟩
  | "halt" | "continue" => ⟨.debug, "ipc_server::slot", traced⟩
  | _ => ⟨.trace, "ipc_server::slot", traced⟩
where
  traced : String :=
    "slot=" ++ o.slot ++ " phase=" ++ o.phase ++ " event=" ++ o.event ++ " id=" ++ o.invocationId

/-- The parameters of the broadcast sink, in the order of the keys. -/
def slotParams (o : SlotObservation) : List (String × Option Document) :=
  [("error", o.errorMessage.map Wire.write), ("invocation_id", some (Wire.write o.invocationId)),
    ("payload", some o.payloadJson), ("phase", some (Wire.write o.phase)),
    ("slot", some (Wire.write o.slot)), ("wire_version", some (Wire.write o.wireVersion))]

def slotNotification (o : SlotObservation) : Notification :=
  .new ("event.slot." ++ o.event) (.object (present (slotParams o)))

/-- The notification of `publish_log`. -/
def logged (level message : String) : Notification :=
  .new "event.log" (.object [("level", .string level), ("message", .string message)])

def observationOf (event : String) (get : String → Option Document) : Option SlotObservation := do
  let slot ← required (get "slot")
  let phase ← required (get "phase")
  let wireVersion ← required (get "wire_version")
  let invocationId ← required (get "invocation_id")
  let payload ← get "payload"
  let error ← nullable (get "error")
  some ⟨slot, phase, wireVersion, invocationId, event, payload, error⟩

/-- The observation that a document tells of, when its method is that of a slot event. -/
def heard (document : Document) : Option SlotObservation := do
  let entries ← WireFormat.entries document
  let method ← required (entries.lookup "method")
  let event ← Text.stripPrefix "event.slot." method
  let params ← (entries.lookup "params").bind WireFormat.entries
  observationOf event fun name => params.lookup name

lemma nodup_slotParams (o : SlotObservation) : ((slotParams o).map Prod.fst).Nodup := by
  change ["error", "invocation_id", "payload", "phase", "slot", "wire_version"].Nodup
  decide

lemma observationOf_slotParams (o : SlotObservation) :
    observationOf o.event (fieldValue (slotParams o)) = some o := by
  have hslot : fieldValue (slotParams o) "slot" = some (Wire.write o.slot) := rfl
  have hphase : fieldValue (slotParams o) "phase" = some (Wire.write o.phase) := rfl
  have hversion : fieldValue (slotParams o) "wire_version" = some (Wire.write o.wireVersion) := rfl
  have hid : fieldValue (slotParams o) "invocation_id" = some (Wire.write o.invocationId) := rfl
  have hpayload : fieldValue (slotParams o) "payload" = some o.payloadJson := rfl
  have herror : fieldValue (slotParams o) "error" = o.errorMessage.map Wire.write := rfl
  rw [observationOf, hslot, hphase, hversion, hid, hpayload, herror]
  simp only [required_write, nullable_map_write, Option.bind_eq_bind, Option.bind_some]
  rfl

/-- What a listener makes of a notification depends on its method and its parameters. -/
lemma heard_notification (notif : Notification) :
    heard (Message.notification notif).toDocument =
      (Text.stripPrefix "event.slot." notif.method).bind fun event =>
        (WireFormat.entries (show Document from notif.params)).bind fun params =>
          observationOf event fun name => params.lookup name := by
  obtain ⟨entries, hentries, hlookup⟩ := (Message.notification notif).lookup_toDocument
  have hmethod : fieldValue (Message.notification notif).fields "method" =
      some (Wire.write notif.method : Document) := rfl
  have hparams : fieldValue (Message.notification notif).fields "params" =
      some (show Document from notif.params) := rfl
  unfold heard
  rw [hentries, Option.bind_eq_bind, Option.bind_some, hlookup, hmethod, hlookup, hparams,
    required_write]
  rfl

lemma heard_slotNotification (o : SlotObservation) :
    heard (Message.notification (slotNotification o)).toDocument = some o := by
  have hmethod : Text.stripPrefix "event.slot." (slotNotification o).method = some o.event :=
    Text.stripPrefix_eq_some.mpr rfl
  have hentries : WireFormat.entries (show Document from (slotNotification o).params) =
      some (present (slotParams o)) :=
    if_pos ((nodup_slotParams o).sublist (present_keys_sublist _))
  rw [heard_notification, hmethod, hentries, Option.bind_some, Option.bind_some]
  have hlookup : (fun name => (present (slotParams o)).lookup name) =
      fieldValue (slotParams o) := by
    funext name
    exact lookup_present (nodup_slotParams o) name
  rw [hlookup, observationOf_slotParams]

/-- What a call of the broadcaster publishes. -/
inductive Publication where
  | state (state : String) (running : Bool) (core : String)
  | log (level message : String)
  | slot (observation : SlotObservation)

namespace Publication

def notification : Publication → Notification
  | .state name running core => stateChanged name running core
  | .log level text => logged level text
  | .slot observation => slotNotification observation

def observation : Publication → Option SlotObservation
  | .slot observation => some observation
  | _ => none

def message (publication : Publication) : Message :=
  .notification publication.notification

/-- The parts of a publication that are not of a fixed form can be read back. -/
def Readable (float : UInt64 → List Char) (parse : List Char → Option UInt64)
    (publication : Publication) : Prop :=
  ∀ o, publication.observation = some o →
    Document.Readable float parse (Document.maxDepth - 2) (show Document from o.payloadJson)

/-- A listener picks out the slot events, and takes nothing else for one. -/
lemma heard_message (publication : Publication) :
    heard publication.message.toDocument = publication.observation := by
  have hother : ∀ method : String, ¬ Text.startsWith "event.slot." method →
      Text.stripPrefix "event.slot." method = none := by
    intro method h
    rw [Text.stripPrefix, if_neg h]
  cases publication with
  | state name running core =>
    have hmethod := hother "event.stateChanged" (by decide)
    have hheard := heard_notification (stateChanged name running core)
    exact hheard.trans (congrArg (Option.bind · _) hmethod)
  | log level text =>
    have hmethod := hother "event.log" (by decide)
    have hheard := heard_notification (logged level text)
    exact hheard.trans (congrArg (Option.bind · _) hmethod)
  | slot o => exact heard_slotNotification o

lemma Readable.toDocument {float : UInt64 → List Char} {parse : List Char → Option UInt64}
    {publication : Publication} (h : publication.Readable float parse) :
    Document.Readable float parse Document.maxDepth publication.message.toDocument := by
  have hparams : ∀ params : Document, publication.notification.params = params →
      Document.Readable float parse (Document.maxDepth - 2 + 1) params →
      Document.Readable float parse Document.maxDepth publication.message.toDocument := by
    intro params hparams hreadable
    have hdepth : Document.maxDepth = Document.maxDepth - 1 + 1 := rfl
    rw [hdepth]
    apply Document.Readable.object
    intro entry hentry
    simp only [message, Message.fields, Notification.fields, present, Option.map_some,
      List.filterMap_cons, List.filterMap_nil, List.mem_cons, List.not_mem_nil,
      or_false] at hentry
    rcases hentry with rfl | rfl | rfl
    · exact .string _ _
    · exact .string _ _
    · rw [hparams]
      exact hreadable
  cases publication with
  | state name running core =>
    exact hparams _ rfl (Document.readable_of_floatFree _ _ rfl)
  | log level text =>
    exact hparams _ rfl (Document.readable_of_floatFree _ _ rfl)
  | slot o =>
    apply hparams _ rfl
    apply Document.readable_record
    intro field hfield v hv
    simp only [slotParams, List.mem_cons, List.not_mem_nil, or_false] at hfield
    rcases hfield with rfl | rfl | rfl | rfl | rfl | rfl
    · obtain ⟨text, -, rfl⟩ := Option.map_eq_some_iff.mp hv
      exact Document.readable_write_string _ text
    · rw [← Option.some.inj hv]
      exact Document.readable_write_string _ _
    · rw [← Option.some.inj hv]
      exact h o rfl
    · rw [← Option.some.inj hv]
      exact Document.readable_write_string _ _
    · rw [← Option.some.inj hv]
      exact Document.readable_write_string _ _
    · rw [← Option.some.inj hv]
      exact Document.readable_write_int _ _

/-- What a listener hears of a stream of publications, however it is cut into chunks. -/
lemma heard_stream {float : UInt64 → List Char} {parse : List Char → Option UInt64}
    {publications : List Publication}
    (hreadable : ∀ publication ∈ publications, publication.Readable float parse)
    {chunks : List (List Char)}
    (hchunks : chunks.flatten = Lines.stream (publications.map fun p => p.message.line float)) :
    (Lines.feedAll [] chunks).1.filterMap
        (fun text => (Document.read parse text).bind fun v => heard v) =
      publications.filterMap observation := by
  have hall : ∀ m ∈ publications.map message,
      Document.Readable float parse Document.maxDepth m.toDocument := by
    intro m hm
    obtain ⟨publication, hmem, rfl⟩ := List.mem_map.mp hm
    exact (hreadable publication hmem).toDocument
  have hstream : chunks.flatten =
      Lines.stream ((publications.map message).map (Message.line float)) := by
    rw [hchunks, List.map_map]
    rfl
  have hfeed := Message.feedAll_stream hall hstream
  rw [hfeed, List.map_map, List.filterMap_map]
  apply List.filterMap_congr
  intro publication hmem
  have hread := Message.read_line (hreadable publication hmem).toDocument
  change (Document.read parse (publication.message.line float)).bind (fun v => heard v) = _
  rw [hread]
  exact heard_message publication

end Publication
end Pingling.Ipc
