import Pingling.ClashApi.Client

/-!
# What the server gets and what the client makes of its answer

The client's request is read as HTTP by the server, whatever the names in it are, and the client
finds the status and the body of the response, whatever its headers are. So over the wire a call of
the client is a call of the server.
-/

namespace Pingling.ClashApi
open Lib

variable {F : Type}

lemma takeWhile_line {line : List Char} (h : '\n' ∉ line) (rest : List Char) :
    (line ++ '\n' :: rest).takeWhile (· ≠ '\n') = line := by
  have hall : ∀ c ∈ line, decide (c ≠ '\n') = true := by
    intro c hc
    exact decide_eq_true (fun heq => h (heq ▸ hc))
  rw [List.takeWhile_append_of_pos hall]
  simp

lemma firstLine_alone {line : List Char} (hne : line ≠ []) (h : '\n' ∉ line) :
    firstLine line = some line := by
  have hwhile : line.takeWhile (· ≠ '\n') = line := by
    rw [List.takeWhile_eq_self_iff]
    exact fun c hc => decide_eq_true (fun heq => h (heq ▸ hc))
  rw [firstLine, if_neg hne, hwhile]
  exact if_neg fun hlast => h hlast.2

lemma firstLine_break {line : List Char} (h : '\n' ∉ line) (rest : List Char) :
    firstLine (line ++ '\r' :: '\n' :: rest) = some line := by
  have hline : '\n' ∉ line ++ ['\r'] := by simp [h]
  have hwhile := takeWhile_line hline rest
  rw [List.append_assoc, List.singleton_append] at hwhile
  rw [firstLine, if_neg (by simp), hwhile]
  simp

lemma statusLine_ne_nil (response : Http.Response) : Http.statusLine response ≠ [] := by
  simp [Http.statusLine]

lemma firstLine_head {response : Http.Response} (h : response.WellFormed) :
    firstLine response.head = some (Http.statusLine response) := by
  have hline : '\n' ∉ Http.statusLine response :=
    Http.not_mem_statusLine rfl (by decide) (by decide) h.reason.2
  rw [Http.Response.head]
  cases response.headers with
  | nil =>
    rw [List.flatMap_nil, List.append_nil]
    exact firstLine_alone (statusLine_ne_nil response) hline
  | cons header headers =>
    rw [List.flatMap_cons]
    exact firstLine_break hline _

lemma isWhitespace_digit {c : Char} (h : c.isDigit = true) : Text.isWhitespace c = false := by
  unfold Char.isDigit at h
  simp only [ge_iff_le, UInt32.le_iff_toNat_le, Bool.and_eq_true, decide_eq_true_eq,
    Char.reduceVal, UInt32.reduceToNat] at h
  have hcode : 48 ≤ c.toNat ∧ c.toNat ≤ 57 := h
  unfold Text.isWhitespace
  simp
  omega

/-- The status is the second word of the status line. -/
lemma splitWhitespace_statusLine (response : Http.Response) :
    (splitWhitespace (Http.statusLine response))[1]? =
      some (Decimal.write response.status.toNat) := by
  have hversion : ∀ c ∈ Http.versionText, Text.isWhitespace c = false := by
    simp [Http.versionText, Text.isWhitespace]
  have hdigits : ∀ c ∈ Decimal.write response.status.toNat, Text.isWhitespace c = false :=
    fun c hc => isWhitespace_digit (Decimal.isDigit_of_mem_write hc)
  rw [splitWhitespace, Http.statusLine,
    List.splitOnP_append_cons_of_forall_mem hversion ' ' rfl,
    List.splitOnP_append_cons_of_forall_mem hdigits ' ' rfl, List.filter_cons_of_pos (by decide),
    List.filter_cons_of_pos (by simp [Decimal.write_ne_nil])]
  rfl

/-- The client finds the status of a response. -/
lemma statusOf_head {response : Http.Response} (h : response.WellFormed) :
    statusOf response.head = response.status := by
  have hsize : (response.status.toNat : ℤ) ≤ 65535 := by
    have hlt := response.status.toNat_lt
    omega
  have hparse : Decimal.parseInt 0 65535 (Decimal.write response.status.toNat) =
      some (response.status.toNat : ℤ) := by
    rw [Decimal.parseInt_write (by omega), if_pos hsize]
  unfold statusOf
  simp only [firstLine_head h, splitWhitespace_statusLine, hparse, Option.bind_eq_bind,
    Option.bind_some, Option.getD_some]
  simp

lemma readResponse_write (fromStr : String → Except F Value) {response : Http.Response}
    (h : response.WellFormed) :
    readResponse fromStr (String.ofList response.write) =
      interpret fromStr response.status response.body.toList := by
  rw [readResponse, String.toList_ofList, Http.cutAt_write h]
  simp only [statusOf_head h]

/-- The request that the text of a call is. -/
def ClashApiClient.request (self : ClashApiClient) (method path : String) (body : Option String) :
    Http.Request where
  method := OsString.ofString method
  target := OsString.ofString path
  headers :=
    [(OsString.ofString "Host", OsString.ofString self.host),
      (OsString.ofString "Connection", OsString.ofString "close"),
      (OsString.ofString "Content-Type", OsString.ofString "application/json"),
      (OsString.ofString "Content-Length",
        OsString.ofString (String.ofList
          (Decimal.write (OsString.ofString (body.getD "")).length)))]
  body := OsString.ofString (body.getD "")

lemma host_text : " HTTP/1.1\r\nHost: " = " " ++ "HTTP/1.1" ++ "\r\n" ++ "Host" ++ ": " := by
  decide

lemma headers_text :
    "\r\nConnection: close\r\nContent-Type: application/json\r\nContent-Length: " =
      "\r\n" ++ "Connection" ++ ": " ++ "close" ++ "\r\n" ++ "Content-Type" ++ ": " ++
        "application/json" ++ "\r\n" ++ "Content-Length" ++ ": " := by
  decide

lemma end_text : "\r\n\r\n" = "\r\n" ++ "\r\n" := by
  decide

/-- What is written is the request, with its lines and lengths. -/
lemma ofString_requestText (self : ClashApiClient) (method path : String) (body : Option String) :
    OsString.ofString (self.requestText method path body) =
      (self.request method path body).write := by
  rw [ClashApiClient.requestText, host_text, headers_text, end_text]
  simp only [ClashApiClient.request, Http.Request.write, Http.version, Http.crlf,
    OsString.ofString_append, List.flatMap_cons, List.flatMap_nil, Http.writeHeader,
    List.append_nil, List.append_assoc]

/-- The name of the host is in one line. -/
def HostName (host : String) : Prop :=
  '\r' ∉ host.toList ∧ host.toList.head? ≠ some ' '

lemma mem_ofString {text : String} {c : Char} {b : UInt8} (hb : b.toNat < 128)
    (hc : c.val.toNat = b.toNat) (h : b ∈ OsString.ofString text) : c ∈ text.toList := by
  obtain ⟨d, hd, hmem⟩ := List.mem_flatMap.mp h
  have hcode := (OsString.utf8EncodeChar_of_small hmem hb).2
  have hsame : d = c := Char.ext (UInt32.toNat_inj.mp (hcode.trans hc.symm))
  exact hsame ▸ hd

lemma not_mem_ofString {text : String} {c : Char} {b : UInt8} (hb : b.toNat < 128)
    (hc : c.val.toNat = b.toNat) (h : c ∉ text.toList) : b ∉ OsString.ofString text :=
  fun hmem => h (mem_ofString hb hc hmem)

lemma head_ofString {text : String} (h : text.toList.head? ≠ some ' ') :
    (OsString.ofString text).head? ≠ some 32 := by
  intro hhead
  unfold OsString.ofString at hhead
  cases hcase : text.toList with
  | nil =>
    rw [hcase] at hhead
    cases hhead
  | cons c cs =>
    rw [hcase, List.flatMap_cons] at hhead
    obtain ⟨b, bs, hbytes⟩ := List.exists_cons_of_ne_nil (String.utf8EncodeChar_ne_nil (c := c))
    rw [hbytes, List.cons_append, List.head?_cons, Option.some.injEq] at hhead
    have hcode := (OsString.utf8EncodeChar_of_small (hbytes ▸ List.mem_cons_self) (b := b)
      (by rw [hhead]; decide)).2
    rw [hcase, List.head?_cons, ne_eq, Option.some.injEq] at h
    apply h
    rw [hhead] at hcode
    exact Char.ext (UInt32.toNat_inj.mp hcode)

/-- The text of a part of the request line. -/
def Plain (text : String) : Prop :=
  ' ' ∉ text.toList ∧ '\r' ∉ text.toList

lemma Plain.append {text text' : String} (h : Plain text) (h' : Plain text') :
    Plain (text ++ text') := by
  unfold Plain
  rw [String.toList_append, List.mem_append, List.mem_append, not_or, not_or]
  exact ⟨⟨h.1, h'.1⟩, h.2, h'.2⟩

lemma contentLength_request (self : ClashApiClient) (method path : String)
    (body : Option String) : Http.contentLength (self.request method path body).headers =
      some (self.request method path body).body.length := by
  have hhost : eqIgnoreAsciiCase "Host" "Content-Length" = false := by decide
  have hconnection : eqIgnoreAsciiCase "Connection" "Content-Length" = false := by decide
  have htype : eqIgnoreAsciiCase "Content-Type" "Content-Length" = false := by decide
  have hlength : eqIgnoreAsciiCase "Content-Length" "Content-Length" = true := by decide
  simp only [Http.contentLength, Http.header?, ClashApiClient.request, List.find?_cons,
    OsString.toStr_ofString, hhost, hconnection, htype, hlength, Option.map_some,
    Option.bind_some, String.toList_ofList, Decimal.readDigits_write]

lemma plain_digits (n : ℕ) : Plain (String.ofList (Decimal.write n)) := by
  have hdigit : ∀ c ∈ (String.ofList (Decimal.write n)).toList, c.isDigit = true := by
    intro c hc
    rw [String.toList_ofList] at hc
    exact Decimal.isDigit_of_mem_write hc
  constructor
  · exact fun hmem => absurd (hdigit _ hmem) (by decide)
  · exact fun hmem => absurd (hdigit _ hmem) (by decide)

/-- The parts of a request keep to their places. -/
lemma wellFormed_request {self : ClashApiClient} (hhost : HostName self.host)
    {method path : String} (hmethod : Plain method) (hpath : Plain path) (body : Option String) :
    (self.request method path body).WellFormed where
  method := ⟨not_mem_ofString (by decide) rfl hmethod.1, not_mem_ofString (by decide) rfl hmethod.2⟩
  target := ⟨not_mem_ofString (by decide) rfl hpath.1, not_mem_ofString (by decide) rfl hpath.2⟩
  names header hheader := by
    simp only [ClashApiClient.request, List.mem_cons, List.not_mem_nil, or_false] at hheader
    rcases hheader with rfl | rfl | rfl | rfl
    · change OsString.ofString "Host" ≠ [] ∧ 58 ∉ OsString.ofString "Host" ∧
        13 ∉ OsString.ofString "Host"
      decide
    · decide
    · decide
    · change OsString.ofString "Content-Length" ≠ [] ∧ 58 ∉ OsString.ofString "Content-Length" ∧
        13 ∉ OsString.ofString "Content-Length"
      decide
  values header hheader := by
    simp only [ClashApiClient.request, List.mem_cons, List.not_mem_nil, or_false] at hheader
    rcases hheader with rfl | rfl | rfl | rfl
    · exact ⟨not_mem_ofString (by decide) rfl hhost.1, head_ofString hhost.2⟩
    · decide
    · decide
    · have hplain := plain_digits (OsString.ofString (body.getD "")).length
      exact ⟨not_mem_ofString (by decide) rfl hplain.2,
        head_ofString fun hhead => hplain.1 (List.mem_of_mem_head? hhead)⟩
  length := contentLength_request self method path body

/-- A server that reads one request from the connection, answers it and closes the connection. -/
def serve (refused : F) (server : Http.Request → Http.Response) (text : String) :
    Except F String :=
  match Http.readRequest (OsString.ofString text) with
  | some (request, []) => .ok (String.ofList (server request).write)
  | _ => .error refused

/-- Over the wire, a call of the client is a call of the server. -/
theorem httpRequest_serve (fromStr : String → Except F Value) (refused : F)
    {server : Http.Request → Http.Response} (hserver : ∀ request, (server request).WellFormed)
    {self : ClashApiClient} (hhost : HostName self.host) {method path : String}
    (hmethod : Plain method) (hpath : Plain path) (body : Option String) :
    self.httpRequest fromStr (serve refused server) method path body =
      interpret fromStr (server (self.request method path body)).status
        (server (self.request method path body)).body.toList := by
  have hread := Http.readRequest_write (wellFormed_request hhost hmethod hpath body) []
  rw [List.append_nil, ← ofString_requestText] at hread
  rw [ClashApiClient.httpRequest, serve, hread]
  exact readResponse_write fromStr (hserver _)

end Pingling.ClashApi
