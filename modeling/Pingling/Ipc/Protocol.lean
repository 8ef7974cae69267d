import Pingling.Lib.JsonStruct
import Pingling.Lib.Lines
import Pingling.Ipc.Broadcaster

/-!
# The messages of the protocol

A client sends requests, and the daemon answers them and pushes notifications. Every message is
one line of JSON. What the daemon writes is cut into its messages at the line breaks, and each of
them reads back with the fields that it was written with.
-/

namespace Pingling.Ipc
open Lib

structure Request where
  jsonrpc : String
  id : Option Value
  method : String
  params : Value

/-- Answers may be left out for a request that has no id. -/
def Request.isNotification (request : Request) : Bool :=
  request.id.isNone

def Request.idOrNull (request : Request) : Value :=
  request.id.getD .null

/-- The fields of a request in a document. A missing id is none, and so is a null one. -/
def Request.ofFields (get : String → Option Document) : Option Request := do
  let jsonrpc ← required (get "jsonrpc")
  let id ← nullable (get "id")
  let method ← required (get "method")
  let params ← defaulted .null (get "params")
  some ⟨jsonrpc, id, method, params⟩

def Request.ofDocument (document : Document) : Option Request :=
  Document.readStruct ["jsonrpc", "id", "method", "params"] ofFields document

/-- The id that stands in the document of a request, as a field or as the second item. -/
def Request.idIn : Value → Option Document
  | .object entries => entries.lookup "id"
  | .array items => items[1]?
  | _ => none

/-- A request is read from a text by way of its document, whatever reads that. -/
def Request.fromText (read : List Char → Option Document) (text : List Char) : Option Request :=
  (read text).bind fun document => ofDocument document

@[ext] structure RpcError where
  code : Int64
  message : String
  data : Option Value

@[ext] structure Response where
  jsonrpc : String
  id : Value
  result : Option Value
  error : Option RpcError

def parseError : Int64 := -32700
def invalidRequest : Int64 := -32600
def methodNotFound : Int64 := -32601
def invalidParams : Int64 := -32602
def internalError : Int64 := -32603
def applicationError : Int64 := -32000

def Response.ok (id result : Value) : Response :=
  ⟨"2.0", id, some result, none⟩

def Response.err (id : Value) (code : Int64) (message : String) (data : Option Value) : Response :=
  ⟨"2.0", id, none, some ⟨code, message, data⟩⟩

/-- The fields of an error, of which `data` is left out where there is none. -/
def RpcError.fields (error : RpcError) : List (String × Option Value) :=
  [("code", some (Wire.write error.code)), ("message", some (.string error.message)),
    ("data", error.data)]

def RpcError.toDocument (error : RpcError) : Value :=
  .object (present error.fields)

def Response.fields (response : Response) : List (String × Option Value) :=
  [("jsonrpc", some (.string response.jsonrpc)), ("id", some response.id),
    ("result", response.result), ("error", response.error.map RpcError.toDocument)]

def Notification.fields (notif : Notification) : List (String × Option Value) :=
  [("jsonrpc", some (.string notif.jsonrpc)), ("method", some (.string notif.method)),
    ("params", some notif.params)]

lemma fields_ext {fields fields' : List (String × Option Value)}
    (h : present fields = present fields') (hnodup : (fields.map Prod.fst).Nodup)
    (hnodup' : (fields'.map Prod.fst).Nodup) (name : String) :
    fieldValue fields name = fieldValue fields' name := by
  rw [← lookup_present hnodup, h, lookup_present hnodup']

lemma RpcError.toDocument_injective : Function.Injective RpcError.toDocument := by
  intro error error' h
  have hnodup : ∀ e : RpcError, (e.fields.map Prod.fst).Nodup := by
    intro e
    change ["code", "message", "data"].Nodup
    decide
  have hfields := fields_ext (Value.object.inj h) (hnodup error) (hnodup error')
  have hcode : some (Wire.write error.code : Value) = some (Wire.write error'.code) :=
    hfields "code"
  have hmessage : some (Value.string error.message) = some (.string error'.message) :=
    hfields "message"
  have hdata : error.data = error'.data := hfields "data"
  have hread := fun e : RpcError => LosslessWire.read_write (V := Value) e.code
  have hcodes : error.code = error'.code := by
    rw [← Option.some.injEq, ← hread error, ← hread error', Option.some.inj hcode]
  exact RpcError.ext hcodes (Value.string.inj (Option.some.inj hmessage)) hdata

/-- What the daemon writes to a client. -/
inductive Message where
  | response (response : Response)
  | notification (notif : Notification)

namespace Message

def fields : Message → List (String × Option Value)
  | .response answer => answer.fields
  | .notification notif => notif.fields

def toDocument (message : Message) : Value :=
  .object (present message.fields)

/-- The line of a message. -/
def line (float : UInt64 → List Char) (message : Message) : List Char :=
  Document.write float message.toDocument

lemma nodup_fields (message : Message) : (message.fields.map Prod.fst).Nodup := by
  cases message with
  | response answer =>
    change ["jsonrpc", "id", "result", "error"].Nodup
    decide
  | notification notif =>
    change ["jsonrpc", "method", "params"].Nodup
    decide

/-- A message keeps its fields in its document. -/
lemma lookup_toDocument (message : Message) :
    ∃ entries, WireFormat.entries (show Document from message.toDocument) = some entries ∧
      ∀ name, entries.lookup name = fieldValue message.fields name := by
  have hnodup := message.nodup_fields
  refine ⟨present message.fields, if_pos (hnodup.sublist (present_keys_sublist _)), ?_⟩
  exact lookup_present hnodup

section Line

variable {float : UInt64 → List Char} {parse : List Char → Option UInt64} {message : Message}
  (h : Document.Readable float parse Document.maxDepth message.toDocument)

include h

lemma read_line : Document.read parse (message.line float) = some message.toDocument :=
  Document.read_write h

lemma isLine_line : Lines.IsLine (message.line float) := by
  intro hmem
  exact absurd (Document.inline_write h _ hmem) (by decide)

end Line

/-- Messages with the same document are the same. -/
lemma toDocument_injective : Function.Injective toDocument := by
  intro message message' h
  have hfields := fields_ext (Value.object.inj h) message.nodup_fields message'.nodup_fields
  cases message with
  | response answer =>
    cases message' with
    | response answer' =>
      have hjsonrpc : some (Value.string answer.jsonrpc) = some (.string answer'.jsonrpc) :=
        hfields "jsonrpc"
      have hid : some answer.id = some answer'.id := hfields "id"
      have hresult : answer.result = answer'.result := hfields "result"
      have herror : answer.error.map RpcError.toDocument = answer'.error.map RpcError.toDocument :=
        hfields "error"
      congr 1
      exact Response.ext (Value.string.inj (Option.some.inj hjsonrpc)) (Option.some.inj hid) hresult
        (Option.map_injective RpcError.toDocument_injective herror)
    | notification notif =>
      have hid : some answer.id = none := hfields "id"
      cases hid
  | notification notif =>
    cases message' with
    | response answer' =>
      have hid : none = some answer'.id := hfields "id"
      cases hid
    | notification notif' =>
      have hjsonrpc : some (Value.string notif.jsonrpc) = some (.string notif'.jsonrpc) :=
        hfields "jsonrpc"
      have hmethod : some (Value.string notif.method) = some (.string notif'.method) :=
        hfields "method"
      have hparams : some notif.params = some notif'.params := hfields "params"
      obtain ⟨jsonrpc, method, params⟩ := notif
      obtain ⟨jsonrpc', method', params'⟩ := notif'
      simp_all

section Stream

variable {float : UInt64 → List Char} {parse : List Char → Option UInt64} {messages : List Message}
  (hreadable : ∀ message ∈ messages,
    Document.Readable float parse Document.maxDepth message.toDocument)

include hreadable

lemma cut_stream : Lines.cut (Lines.stream (messages.map (line float))) =
    (messages.map (line float), []) := by
  apply Lines.cut_stream
  intro text htext
  obtain ⟨message, hmem, rfl⟩ := List.mem_map.mp htext
  exact isLine_line (hreadable message hmem)

lemma read_lines : (messages.map (line float)).map (Document.read parse) =
    messages.map (fun message => some message.toDocument) := by
  rw [List.map_map]
  exact List.map_congr_left fun message hmem => read_line (hreadable message hmem)

/-- The lines that a client cuts out of the stream of the daemon. -/
lemma feedAll_stream {chunks : List (List Char)}
    (hchunks : chunks.flatten = Lines.stream (messages.map (line float))) :
    Lines.feedAll [] chunks = (messages.map (line float), []) := by
  rw [Lines.feedAll_eq [] List.not_mem_nil, List.nil_append, hchunks, cut_stream hreadable]

end Stream

/-- However the daemon's stream is cut into chunks, a client gets one line for each message, and
the lines read back as the documents of the messages, if these are not nested too deep and their
floats survive. No other such messages have this stream. -/
theorem stream_reads_back (float : UInt64 → List Char) (parse : List Char → Option UInt64)
    (messages : List Message)
    (hreadable : ∀ message ∈ messages,
      Document.Readable float parse Document.maxDepth message.toDocument)
    (chunks : List (List Char))
    (hchunks : chunks.flatten = Lines.stream (messages.map (line float))) :
    ((Lines.feedAll [] chunks).1.map (Document.read parse) =
        messages.map (fun message => some message.toDocument) ∧
      (Lines.feedAll [] chunks).2 = []) ∧
    ∀ messages' : List Message, (∀ message ∈ messages',
        Document.Readable float parse Document.maxDepth message.toDocument) →
      Lines.stream (messages'.map (line float)) = chunks.flatten → messages' = messages := by
  have hfeed := feedAll_stream hreadable hchunks
  refine ⟨by rw [hfeed]; exact ⟨read_lines hreadable, rfl⟩, ?_⟩
  intro messages' hreadable' hstream
  have hsame : messages'.map (line float) = messages.map (line float) := by
    have hcut := cut_stream hreadable'
    rw [hstream, hchunks, cut_stream hreadable] at hcut
    exact (congrArg Prod.fst hcut).symm
  have hdocuments : messages'.map (fun message => some message.toDocument) =
      messages.map (fun message => some message.toDocument) := by
    rw [← read_lines hreadable', hsame, read_lines hreadable]
  exact List.map_injective_iff.mpr
    (fun message message' h => toDocument_injective (Option.some.inj h)) hdocuments

/-- The bits of one half. -/
def halfBits : UInt64 := 0x3FE0000000000000

/-- One half is written as a numeral that is read as one half. -/
lemma survives_half (bits : UInt64) :
    Document.Survives (fun _ => ['0', '.', '5']) (fun _ => some bits) bits := by
  have hwell : Numeral.WellFormed ⟨false, ['0'], some ['5'], none⟩ := by
    constructor <;> simp
  refine ⟨_, hwell, rfl, ?_⟩
  simp [Numeral.number]

/-- A stream of an answer with a float in it and a notification, cut in two. -/
theorem stream_reads_back_two :
    let messages := [response (.ok .null (.number (.float halfBits))),
      notification (stateChanged "connected" true "mock")]
    let stream := Lines.stream (messages.map (line fun _ => ['0', '.', '5']))
    (Lines.feedAll [] [stream.take 7, stream.drop 7]).1.map
        (Document.read fun _ => some halfBits) =
      messages.map (fun message => some message.toDocument) := by
  intro messages stream
  refine (stream_reads_back (fun _ => ['0', '.', '5']) (fun _ => some halfBits) messages
    ?_ _ ?_).1.1
  · intro message hmem
    simp only [messages, List.mem_cons, List.not_mem_nil, or_false] at hmem
    rcases hmem with rfl | rfl
    · apply Document.Readable.object
      intro entry hentry
      simp only [fields, Response.fields, Response.ok, present, Option.map_none, Option.map_some,
        List.filterMap_cons, List.filterMap_nil, List.mem_cons, List.not_mem_nil,
        or_false] at hentry
      rcases hentry with rfl | rfl | rfl
      · constructor
      · constructor
      · exact .float _ _ (survives_half halfBits)
    · exact Document.readable_of_floatFree _ _ rfl
  · simp [stream]

end Message

lemma Request.id_ofFields {get : String → Option Document} {request : Request}
    (h : ofFields get = some request) : nullable (get "id") = some request.id := by
  simp only [ofFields, Option.bind_eq_bind, Option.bind_eq_some_iff, Option.some.injEq] at h
  obtain ⟨jsonrpc, -, id, hid, method, -, params, -, rfl⟩ := h
  exact hid

/-- The id of a request is the one that stands in its document, unless that is null. -/
lemma Request.id_ofDocument {document : Document} {request : Request}
    (h : ofDocument document = some request) :
    nullable (idIn document) = some request.id := by
  cases document with
  | object entries => exact id_ofFields (Option.ite_none_right_eq_some.mp h).2
  | array items => exact id_ofFields (Option.ite_none_right_eq_some.mp h).2
  | _ => cases h

lemma nullable_document {v : Value} (h : v ≠ .null) :
    nullable (some (show Document from v)) = some (some v.canonical) := by
  cases v <;> first | rfl | exact absurd rfl h

lemma canonical_eq_null {v : Value} : v.canonical = .null ↔ v = .null := by
  cases v <;> simp [Value.canonical, Object.toValue]

lemma Request.idOrNull_eq {document : Document} {request : Request}
    (h : ofDocument document = some request) :
    request.idOrNull = (idIn document).elim .null Value.canonical ∧
      (request.isNotification = true ↔ request.idOrNull = .null) := by
  have hid := id_ofDocument h
  rw [isNotification, idOrNull]
  cases hin : idIn document with
  | none =>
    rw [hin, nullable, Option.some.injEq] at hid
    rw [← hid]
    exact ⟨rfl, iff_of_true rfl rfl⟩
  | some v =>
    by_cases hnull : v = Value.null
    · rw [hin, hnull] at hid
      have hid : none = request.id := Option.some.inj hid
      rw [← hid, hnull]
      exact ⟨rfl, iff_of_true rfl rfl⟩
    · rw [hin] at hid
      have hid := (nullable_document hnull).symm.trans hid
      rw [Option.some.injEq] at hid
      rw [← hid]
      exact ⟨rfl, iff_of_false Bool.false_ne_true fun h => hnull (canonical_eq_null.mp h)⟩

/-- An answer to a request has the id that stands in the document of the request, whatever reader
made that out of its text, and null where there is none. It is null just when the request is a
notification. -/
theorem answer_has_id (read : List Char → Option Document) (float : UInt64 → List Char)
    (parse : List Char → Option UInt64) {text : List Char} {request : Request}
    (hrequest : Request.fromText read text = some request) {answer : Response}
    (hid : answer.id = request.idOrNull)
    (hreadable : Document.Readable float parse Document.maxDepth
      (Message.response answer).toDocument) :
    ∃ document entries, read text = some document ∧
      Document.read parse ((Message.response answer).line float) = some (.object entries) ∧
      entries.lookup "id" = some ((Request.idIn document).elim .null Value.canonical) ∧
      (request.isNotification = true ↔ entries.lookup "id" = some .null) := by
  rw [Request.fromText, Option.bind_eq_some_iff] at hrequest
  obtain ⟨document, hread, hrequest⟩ := hrequest
  obtain ⟨hnull, hnotification⟩ := Request.idOrNull_eq hrequest
  have hlookup : (present (Message.response answer).fields).lookup "id" = some answer.id := by
    rw [lookup_present (Message.nodup_fields _)]
    rfl
  refine ⟨document, present (Message.response answer).fields, hread,
    Message.read_line hreadable, ?_, ?_⟩
  · rw [hlookup, hid, hnull]
  · rw [hlookup, hid, hnotification, Option.some.injEq]

/-- A request for the state of the daemon, answered. -/
theorem answer_has_id_status :
    let document : Value := .object
      [("id", .number (.posInt 7)), ("jsonrpc", .string "2.0"), ("method", .string "vpn.status"),
        ("client", .number (.float Message.halfBits))]
    let read := Document.read fun _ => some Message.halfBits
    ∃ document' entries, read (Document.write (fun _ => ['0', '.', '5']) document) =
        some document' ∧
      read ((Message.response (.ok (.number (.posInt 7)) .null)).line fun _ => ['0', '.', '5']) =
        some (.object entries) ∧
      entries.lookup "id" = some ((Request.idIn document').elim .null Value.canonical) ∧
      ((⟨"2.0", some (.number (.posInt 7)), "vpn.status", .null⟩ : Request).isNotification = true ↔
        entries.lookup "id" = some .null) := by
  intro document read
  apply answer_has_id read
  · have hread : read (Document.write (fun _ => ['0', '.', '5']) document) = some document := by
      apply Document.read_write
      apply Document.Readable.object
      intro entry hentry
      simp only [List.mem_cons, List.not_mem_nil, or_false] at hentry
      rcases hentry with rfl | rfl | rfl | rfl
      · constructor
      · constructor
      · constructor
      · exact .float _ _ (Message.survives_half Message.halfBits)
    change (read _).bind _ = _
    rw [hread]
    rfl
  · rfl
  · exact Document.readable_of_floatFree _ _ rfl

end Pingling.Ipc
