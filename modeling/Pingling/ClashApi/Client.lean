import Pingling.Lib.Duration
import Pingling.Lib.Http
import Pingling.Lib.JsonDocument
import Pingling.Lib.Percent

/-!
# The client of the Clash API

A request is one text with the length of its payload, and the response is all that comes until the
server closes the connection. What the network does and how a JSON text is read are parameters, and
so are the errors of both. A server that reads a request as HTTP gets the call of the client, and
the client gets the server's answer.
-/

namespace Pingling.ClashApi
open Lib

/-- `F` are the errors of the network and of JSON. -/
inductive ClashApiError (F : Type) where
  | invalidController (value : String)
  | io (error : F)
  | json (error : F)
  | webSocket (error : F)
  | httpStatus (status : UInt16) (body : String)
  | protocol (message : String)
  deriving DecidableEq

variable {F : Type}

def ClashApiError.toString (display : F → String) : ClashApiError F → String
  | invalidController value => "invalid clash controller: " ++ value
  | io error => display error
  | json error => display error
  | webSocket error => display error
  | httpStatus status body => "http " ++ String.ofList (Decimal.write status.toNat) ++ ": " ++ body
  | protocol message => message

/-- The texts before and after the last separator. -/
def rsplitOnce (separator : Char) (value : String) : Option (String × String) :=
  (cutAt [separator] value.toList.reverse).map fun (after, before) =>
    (String.ofList before.reverse, String.ofList after.reverse)

/-- The host and the port of an address, which is cut at its last colon. -/
def parseController (controller : String) : Except (ClashApiError F) (String × UInt16) :=
  let trimmed := Text.trim controller
  match rsplitOnce ':' trimmed with
  | none => .error (.invalidController trimmed)
  | some (host, port) =>
    match Decimal.parseInt 0 65535 port.toList with
    | none => .error (.invalidController trimmed)
    | some port => .ok (host, UInt16.ofNat port.toNat)

/-- Where the controller listens, and how long the client waits for it. -/
structure ClashApiClient where
  host : String
  port : UInt16
  timeout : Duration

namespace ClashApiClient

def new (controller : String) : Except (ClashApiError F) ClashApiClient := do
  let (host, port) ← parseController controller
  return { host := host, port := port, timeout := .fromMillis 2000 }

def withTimeout (self : ClashApiClient) (timeout : Duration) : ClashApiClient :=
  { self with timeout := timeout }

end ClashApiClient

/-- All bytes but the unreserved ones are percent-encoded. -/
def encodePath (value : String) : String :=
  String.ofList (Percent.encode (OsString.ofString value))

/-- The first of the lines of a text. A line break at its end is not part of it. -/
def firstLine (text : List Char) : Option (List Char) :=
  if text = [] then none
  else
    let line := text.takeWhile (· ≠ '\n')
    if line.getLast? = some '\r' ∧ '\n' ∈ text then some line.dropLast else some line

def splitWhitespace (text : List Char) : List (List Char) :=
  (text.splitOnP Text.isWhitespace).filter (· ≠ [])

/-- The second word of the first line, or zero where that is no number. -/
def statusOf (head : List Char) : UInt16 :=
  let status := do
    let line ← firstLine head
    let value ← (splitWhitespace line)[1]?
    Decimal.parseInt 0 65535 value
  UInt16.ofNat (status.getD 0).toNat

section

variable (fromStr : String → Except F Value)

/-- What the client makes of a status and a body. -/
def interpret (status : UInt16) (body : List Char) : Except (ClashApiError F) Value :=
  if ¬ (200 ≤ status ∧ status < 300) then .error (.httpStatus status (String.ofList body))
  else if body.all Text.isWhitespace then .ok .null
  else (fromStr (String.ofList body)).mapError .json

/-- The answer to a request. Its head goes up to the first empty line. -/
def readResponse (response : String) : Except (ClashApiError F) Value :=
  match cutAt ['\r', '\n', '\r', '\n'] response.toList with
  | none => .error (.protocol "malformed http response")
  | some (head, body) => interpret fromStr (statusOf head) body

namespace ClashApiClient

/-- The text of a request, whose connection is closed after the answer. -/
def requestText (self : ClashApiClient) (method path : String) (body : Option String) : String :=
  let payload := body.getD ""
  method ++ " " ++ path ++ " HTTP/1.1\r\nHost: " ++ self.host ++
    "\r\nConnection: close\r\nContent-Type: application/json\r\nContent-Length: " ++
    String.ofList (Decimal.write (OsString.ofString payload).length) ++ "\r\n\r\n" ++ payload

/-- `exchange` connects, writes the request and reads until the connection is closed. -/
def httpRequest (exchange : String → Except F String) (self : ClashApiClient)
    (method path : String) (body : Option String) : Except (ClashApiError F) Value := do
  let response ← (exchange (self.requestText method path body)).mapError .io
  readResponse fromStr response

end ClashApiClient
end

end Pingling.ClashApi
