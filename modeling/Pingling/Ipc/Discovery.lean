import Pingling.Lib.JsonDocument
import Pingling.Lib.OsString

/-!
# The advertisement of a daemon

A daemon says what it is on disk and in its answers to probes. The beacon answers every datagram
that begins with the probe, to its sender, and goes on whatever else its socket reports.
-/

namespace Pingling.Ipc
open Lib

namespace Discovery

def discoveryPort : UInt16 := 7878

def probeMagic : String := "AVARS_DISCOVER_v1"

def protocolVersion : UInt32 := 1

structure DaemonAdvertisement where
  service : String
  protocolVersion : UInt32
  pid : UInt32
  hostname : String
  tcp : Option String
  websocket : Option String
  uds : Option String
  logFile : Option String
  startedAt : UInt64
  deriving DecidableEq

def hostname : String := "localhost"

/-- What a daemon knows of itself: its process id, its log file and the time. -/
structure Self where
  pid : UInt32
  logFile : Option String
  startedAt : UInt64

namespace DaemonAdvertisement

def withWebsocket (self : Self) (tcp uds websocket : Option String) : DaemonAdvertisement where
  service := "pingling"
  protocolVersion := Discovery.protocolVersion
  pid := self.pid
  hostname := Discovery.hostname
  tcp := tcp
  websocket := websocket
  uds := uds
  logFile := self.logFile
  startedAt := self.startedAt

def new (self : Self) (tcp uds : Option String) : DaemonAdvertisement :=
  withWebsocket self tcp uds none

/-- The websocket is left out where there is none; the other options are null. The fields are read
as the client of the tests reads them. -/
instance : WireRecord Document DaemonAdvertisement where
  fields ad :=
    [("service", some (Wire.write ad.service)),
      ("protocol_version", some (Wire.write ad.protocolVersion)),
      ("pid", some (Wire.write ad.pid)),
      ("hostname", some (Wire.write ad.hostname)),
      ("tcp", some (writeOrNull ad.tcp)),
      ("websocket", ad.websocket.map Wire.write),
      ("uds", some (writeOrNull ad.uds)),
      ("log_file", some (writeOrNull ad.logFile)),
      ("started_at", some (Wire.write ad.startedAt))]
  keys_nodup ad := by
    change ["service", "protocol_version", "pid", "hostname", "tcp", "websocket", "uds", "log_file",
      "started_at"].Nodup
    decide
  build get := do
    some {
      service := ← required (get "service")
      protocolVersion := ← required (get "protocol_version")
      pid := ← required (get "pid")
      hostname := ← required (get "hostname")
      tcp := ← nullable (get "tcp")
      websocket := ← nullable (get "websocket")
      uds := ← nullable (get "uds")
      logFile := ← nullable (get "log_file")
      startedAt := ← required (get "started_at") }

instance : LosslessRecord Document DaemonAdvertisement where
  build_fields ad := by simp [WireRecord.fields, WireRecord.build]

lemma readable (float : UInt64 → List Char) (parse : List Char → Option UInt64)
    (ad : DaemonAdvertisement) :
    Document.Readable float parse Document.maxDepth (Wire.write ad : Document) := by
  apply Document.readable_record
  intro field hfield v hv
  simp only [WireRecord.fields, List.mem_cons, List.not_mem_nil, or_false] at hfield
  rcases hfield with rfl | rfl | rfl | rfl | rfl | rfl | rfl | rfl | rfl
  · exact Option.some.inj hv ▸ Document.readable_write_string _ _
  · exact Option.some.inj hv ▸ Document.readable_write_int _ _
  · exact Option.some.inj hv ▸ Document.readable_write_int _ _
  · exact Option.some.inj hv ▸ Document.readable_write_string _ _
  · exact Option.some.inj hv ▸ Document.readable_writeOrNull_string _ _
  · obtain ⟨text, -, rfl⟩ := Option.map_eq_some_iff.mp hv
    exact Document.readable_write_string _ _
  · exact Option.some.inj hv ▸ Document.readable_writeOrNull_string _ _
  · exact Option.some.inj hv ▸ Document.readable_writeOrNull_string _ _
  · exact Option.some.inj hv ▸ Document.readable_write_int _ _

def toJsonBytes (ad : DaemonAdvertisement) : List UInt8 :=
  OsString.ofString (String.ofList (Document.toText (fun _ => []) ad))

/-- A client reads an advertisement from bytes. -/
def ofJsonBytes (parse : List Char → Option UInt64) (bytes : List UInt8) :
    Option DaemonAdvertisement :=
  (OsString.toStr bytes).bind fun text => Document.fromText parse text.toList

lemma ofJsonBytes_toJsonBytes (parse : List Char → Option UInt64) (ad : DaemonAdvertisement) :
    ofJsonBytes parse ad.toJsonBytes = some ad := by
  rw [ofJsonBytes, toJsonBytes, OsString.toStr_ofString, Option.bind_some, String.toList_ofList]
  exact Document.fromText_toText (ad.readable _ parse)

end DaemonAdvertisement

/-- What a wait at the socket of the beacon ends with. -/
inductive Received (Peer : Type) where
  | datagram (payload : List UInt8) (peer : Peer)
  | wouldBlock
  | timedOut
  | failed

/-- The size of the buffer. The rest of a longer datagram is lost. -/
def bufferSize : ℕ := 1024

variable {Peer : Type}

/-- The loop of the beacon: the answers that it sends while its socket reports these events. -/
def beaconLoop (ad : DaemonAdvertisement) : List (Received Peer) → List (Peer × List UInt8)
  | [] => []
  | .datagram payload peer :: events =>
    if (OsString.ofString probeMagic).isPrefixOf (payload.take bufferSize) then
      (peer, ad.toJsonBytes) :: beaconLoop ad events
    else beaconLoop ad events
  | .wouldBlock :: events => beaconLoop ad events
  | .timedOut :: events => beaconLoop ad events
  | .failed :: events => beaconLoop ad events

/-- The sender of a probe. -/
def Received.prober : Received Peer → Option Peer
  | .datagram payload peer =>
    if OsString.ofString probeMagic <+: payload then some peer else none
  | _ => none

lemma isPrefixOf_take {payload : List UInt8} :
    (OsString.ofString probeMagic).isPrefixOf (payload.take bufferSize) = true ↔
      OsString.ofString probeMagic <+: payload := by
  have hlength : (OsString.ofString probeMagic).length ≤ bufferSize := by decide
  rw [List.isPrefixOf_iff_prefix, List.prefix_take_iff]
  exact and_iff_left hlength

lemma beaconLoop_eq (ad : DaemonAdvertisement) (events : List (Received Peer)) :
    beaconLoop ad events =
      (events.filterMap Received.prober).map (fun peer => (peer, ad.toJsonBytes)) := by
  induction events with
  | nil => rfl
  | cons event events ih =>
    cases event with
    | datagram payload peer =>
      by_cases hprobe : OsString.ofString probeMagic <+: payload
      · have hprober : (Received.datagram payload peer).prober = some peer := if_pos hprobe
        rw [beaconLoop, if_pos (isPrefixOf_take.mpr hprobe), ih, List.filterMap_cons_some hprober,
          List.map_cons]
      · have hprober : (Received.datagram payload peer).prober = none := if_neg hprobe
        rw [beaconLoop, if_neg (fun h => hprobe (isPrefixOf_take.mp h)), ih,
          List.filterMap_cons_none hprober]
    | wouldBlock => exact ih
    | timedOut => exact ih
    | failed => exact ih

end Discovery
end Pingling.Ipc
