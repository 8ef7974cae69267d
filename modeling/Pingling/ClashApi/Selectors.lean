import Pingling.ClashApi.Exchange
import Pingling.Lib.Collections

/-!
# Selectors

The calls about selectors put the name of a selector into the path, and that of a proxy into a JSON
document. No name gets out of its place.
-/

namespace Pingling.ClashApi
open Lib

variable {F : Type}

/-- A proxy that stands for one of several others. -/
structure ProxySelector where
  name : String
  kind : String
  now : Option String
  all : List String
  deriving DecidableEq

/-- The selector that an entry of a listing is, if it is one. -/
def ProxySelector.ofEntry (name : String) (value : Value) : Option ProxySelector := do
  let object ← WireFormat.entries value
  let kind := ((object.lookup "type").bind WireFormat.asString).getD ""
  if eqIgnoreAsciiCase kind "selector" then
    some {
      name := name
      kind := kind
      now := (object.lookup "now").bind WireFormat.asString
      all := (((object.lookup "all").bind WireFormat.asArray).getD []).filterMap
        WireFormat.asString }
  else none

/-- The proxies of a listing. A structure is also read from the list of its fields. -/
def proxiesIn : Value → Option (BTreeMap String Value)
  | .object entries => required (entries.lookup "proxies")
  | .array [proxies] => Wire.read proxies
  | _ => none

/-- The proxy that details name. -/
def nowIn : Value → Option (Option String)
  | .object entries => nullable (entries.lookup "now")
  | .array [] => some none
  | .array [now] => nullable (some now)
  | _ => none

/-- `serde_json::from_str`, for a value. -/
def fromJson (parse : List Char → Option UInt64) (malformed : F) (text : String) :
    Except F Value :=
  ((Document.read parse text.toList).map Value.canonical).elim (.error malformed) .ok

namespace ClashApiClient

/-- `mismatch` is the error for a document of another shape. -/
def getProxySelectors (fromStr : String → Except F Value) (mismatch : F)
    (exchange : String → Except F String) (self : ClashApiClient) :
    Except (ClashApiError F) (List ProxySelector) := do
  let body ← self.httpRequest fromStr exchange "GET" "/proxies" none
  match proxiesIn body with
  | none => .error (.json mismatch)
  | some proxies => .ok (proxies.toList.filterMap fun entry =>
    ProxySelector.ofEntry entry.1 entry.2)

/-- Of a document with proxies, the selectors are picked. -/
lemma getProxySelectors_of_found {fromStr : String → Except F Value} {mismatch : F}
    {exchange : String → Except F String} {self : ClashApiClient} {body : Value}
    {proxies : BTreeMap String Value}
    (hbody : self.httpRequest fromStr exchange "GET" "/proxies" none = .ok body)
    (hproxies : proxiesIn body = some proxies) :
    self.getProxySelectors fromStr mismatch exchange =
      .ok (proxies.toList.filterMap fun entry => ProxySelector.ofEntry entry.1 entry.2) := by
  simp only [getProxySelectors, hbody, bind, Except.bind, hproxies]

/-- Asks for the details of a selector and reads what it stands for. -/
def getActiveProxy (fromStr : String → Except F Value) (mismatch : F)
    (exchange : String → Except F String) (self : ClashApiClient) (selectorName : String) :
    Except (ClashApiError F) (Option String) := do
  let encoded := encodePath selectorName
  let body ← self.httpRequest fromStr exchange "GET" ("/proxies/" ++ encoded) none
  match nowIn body with
  | none => .error (.json mismatch)
  | some now => .ok now

/-- The document that names a proxy. -/
def payload (proxyName : String) : String :=
  String.ofList (Document.write (fun _ => []) (.object [("name", .string proxyName)]))

/-- Asks the controller to choose a proxy for a selector. -/
def setActiveProxy (fromStr : String → Except F Value) (exchange : String → Except F String)
    (self : ClashApiClient) (selectorName proxyName : String) : Except (ClashApiError F) Unit := do
  let encoded := encodePath selectorName
  let _ ← self.httpRequest fromStr exchange "PUT" ("/proxies/" ++ encoded)
    (some (payload proxyName))
  return ()

end ClashApiClient

lemma toList_encodePath (value : String) :
    (encodePath value).toList = Percent.encode (OsString.ofString value) :=
  String.toList_ofList

lemma plain_encodePath (value : String) : Plain (encodePath value) := by
  have hspace : ¬ Percent.IsSafe ' ' := by simp [Percent.IsSafe]
  have hreturn : ¬ Percent.IsSafe '\r' := by simp [Percent.IsSafe]
  unfold Plain
  rw [toList_encodePath]
  exact ⟨fun h => hspace (Percent.isSafe_of_mem_encode h),
    fun h => hreturn (Percent.isSafe_of_mem_encode h)⟩

/-- The path of a selector. Its last segment is the name, whatever characters the name has. -/
structure SelectorPath (selectorName : String) (target : OsString) (segment : List Char) :
    Prop where
  target : target = OsString.ofString "/proxies/" ++ OsString.ofString (String.ofList segment)
  alone : '/' ∉ segment
  name : Percent.decode segment = some (OsString.ofString selectorName)

lemma selectorPath_encodePath (selectorName : String) :
    SelectorPath selectorName (OsString.ofString ("/proxies/" ++ encodePath selectorName))
      (Percent.encode (OsString.ofString selectorName)) where
  target := OsString.ofString_append _ _
  alone h := by
    have hslash : ¬ Percent.IsSafe '/' := by simp [Percent.IsSafe]
    exact hslash (Percent.isSafe_of_mem_encode h)
  name := Percent.decode_encode _

lemma read_payload (parse : List Char → Option UInt64) (proxyName : String) :
    Document.read parse (ClashApiClient.payload proxyName).toList =
      some (.object [("name", .string proxyName)]) := by
  rw [ClashApiClient.payload, String.toList_ofList]
  exact Document.read_write (Document.readable_of_floatFree _ _ rfl)

lemma plain_selectorPath (selectorName : String) :
    Plain ("/proxies/" ++ encodePath selectorName) := by
  have hproxies : Plain "/proxies/" := by
    unfold Plain
    decide
  exact hproxies.append (plain_encodePath selectorName)

/-- A server that has nothing to say. -/
def silent (_ : Http.Request) : Http.Response where
  status := 204
  reason := "No Content"
  headers := [("Connection", "close")]
  body := ""

lemma silent_wellFormed (request : Http.Request) : (silent request).WellFormed where
  reason := by
    change '\r' ∉ "No Content".toList ∧ '\n' ∉ "No Content".toList
    decide
  headers header hheader := by
    change header ∈ [("Connection", "close")] at hheader
    rw [List.mem_singleton] at hheader
    rw [hheader]
    decide

/-- The controller on this machine. -/
def localController : ClashApiClient :=
  ⟨"127.0.0.1", 9090, .fromMillis 2000⟩

lemma hostName_localController : HostName localController.host := by
  change '\r' ∉ "127.0.0.1".toList ∧ "127.0.0.1".toList.head? ≠ some ' '
  decide

/-- A server that names the proxy of every selector. -/
def naming (_ : Http.Request) : Http.Response where
  status := 200
  reason := "OK"
  headers := [("Content-Type", "application/json")]
  body := "\x7b\"now\":\"DIRECT\"\x7d"

lemma naming_wellFormed (request : Http.Request) : (naming request).WellFormed where
  reason := by
    change '\r' ∉ "OK".toList ∧ '\n' ∉ "OK".toList
    decide
  headers header hheader := by
    change header ∈ [("Content-Type", "application/json")] at hheader
    rw [List.mem_singleton] at hheader
    rw [hheader]
    decide

end Pingling.ClashApi
