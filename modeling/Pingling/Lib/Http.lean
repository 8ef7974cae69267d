import Pingling.Lib.Decimal
import Pingling.Lib.Lowercase
import Pingling.Lib.OsString

/-!
# Messages of HTTP/1.1

A request is a request line, header lines, an empty line and a body whose length a header gives. A
server reads from the bytes of a connection what was written, whatever comes after it. A response
whose connection is closed after it has its body up to the end.
-/

namespace Lib

section

variable {α : Type} [DecidableEq α]

/-- What stands before and after the first separator. -/
def cutAt (sep : List α) : List α → Option (List α × List α)
  | [] => if sep = [] then some ([], []) else none
  | c :: cs =>
    if sep.isPrefixOf (c :: cs) then some ([], (c :: cs).drop sep.length)
    else (cutAt sep cs).map (Prod.map (c :: ·) id)

lemma cutAt_cons {sep : List α} {c : α} {cs : List α} (h : ¬ sep <+: c :: cs) :
    cutAt sep (c :: cs) = (cutAt sep cs).map (Prod.map (c :: ·) id) := by
  rw [cutAt, if_neg (fun hsep => h (List.isPrefixOf_iff_prefix.mp hsep))]

lemma cutAt_here {sep : List α} (hsep : sep ≠ []) (rest : List α) :
    cutAt sep (sep ++ rest) = some ([], rest) := by
  cases sep with
  | nil => exact absurd rfl hsep
  | cons s sep =>
    have hhere : (s :: sep).isPrefixOf (s :: (sep ++ rest)) = true :=
      List.isPrefixOf_iff_prefix.mpr (List.prefix_append (s :: sep) rest)
    rw [List.cons_append, cutAt, if_pos hhere, ← List.cons_append, List.drop_left]

/-- There is no separator in a text without its first element. -/
lemma cutAt_skip (sep : List α) {s : α} {front : List α} (h : s ∉ front) (rest : List α) :
    cutAt (s :: sep) (front ++ rest) = (cutAt (s :: sep) rest).map (Prod.map (front ++ ·) id) := by
  induction front with
  | nil =>
    rw [List.nil_append]
    cases cutAt (s :: sep) rest <;> rfl
  | cons c front ih =>
    rw [List.mem_cons, not_or] at h
    have hnot : ¬ (s :: sep) <+: c :: (front ++ rest) :=
      fun hprefix => h.1 (List.cons_prefix_cons.mp hprefix).1
    rw [List.cons_append, cutAt_cons hnot, ih h.2]
    cases cutAt (s :: sep) rest <;> rfl

lemma cutAt_append (sep : List α) {s : α} {front : List α} (h : s ∉ front) (rest : List α) :
    cutAt (s :: sep) (front ++ s :: sep ++ rest) = some (front, rest) := by
  rw [List.append_assoc, cutAt_skip sep h, cutAt_here (List.cons_ne_nil s sep), Option.map_some,
    Prod.map, List.append_nil, id]

end

namespace Http

structure Request where
  method : OsString
  target : OsString
  headers : List (OsString × OsString)
  body : OsString
  deriving DecidableEq

def crlf : OsString := OsString.ofString "\r\n"

def version : OsString := OsString.ofString "HTTP/1.1"

def writeHeader (header : OsString × OsString) : OsString :=
  header.1 ++ OsString.ofString ": " ++ header.2 ++ crlf

def Request.write (request : Request) : OsString :=
  request.method ++ OsString.ofString " " ++ request.target ++ OsString.ofString " " ++ version ++
    crlf ++ request.headers.flatMap writeHeader ++ crlf ++ request.body

/-- A name and a value that may have spaces before it. -/
def readHeader (line : OsString) : Option (OsString × OsString) :=
  (cutAt (OsString.ofString ":") line).map (Prod.map id (List.dropWhile (· = 32)))

/-- The header lines up to an empty one. `fuel` bounds their number. -/
def readHeaders : ℕ → OsString → Option (List (OsString × OsString) × OsString)
  | 0, _ => none
  | fuel + 1, bytes => do
    let (line, rest) ← cutAt crlf bytes
    if line = [] then some ([], rest)
    else
      let header ← readHeader line
      let (headers, rest) ← readHeaders fuel rest
      some (header :: headers, rest)

/-- The value of a header. The case of the letters in its name does not matter. -/
def header? (name : String) (headers : List (OsString × OsString)) : Option OsString :=
  (headers.find? fun header =>
    match OsString.toStr header.1 with
    | some other => eqIgnoreAsciiCase other name
    | none => false).map Prod.snd

/-- The length of the body that the headers announce. -/
def contentLength (headers : List (OsString × OsString)) : Option ℕ :=
  match header? "Content-Length" headers with
  | none => some 0
  | some value => (OsString.toStr value).bind fun digits => Decimal.readDigits digits.toList

/-- A request at the beginning of the bytes of a connection, and what comes after it. -/
def readRequest (bytes : OsString) : Option (Request × OsString) := do
  let (line, rest) ← cutAt crlf bytes
  let (method, line) ← cutAt (OsString.ofString " ") line
  let (target, spoken) ← cutAt (OsString.ofString " ") line
  if spoken = version then
    let (headers, rest) ← readHeaders (rest.length + 1) rest
    let length ← contentLength headers
    if length ≤ rest.length then
      some (⟨method, target, headers, rest.take length⟩, rest.drop length)
    else none
  else none

/-- The parts of a request keep to their places in the text. -/
structure Request.WellFormed (request : Request) : Prop where
  method : 32 ∉ request.method ∧ 13 ∉ request.method
  target : 32 ∉ request.target ∧ 13 ∉ request.target
  names : ∀ header ∈ request.headers, header.1 ≠ [] ∧ 58 ∉ header.1 ∧ 13 ∉ header.1
  values : ∀ header ∈ request.headers, 13 ∉ header.2 ∧ header.2.head? ≠ some 32
  length : contentLength request.headers = some request.body.length

lemma crlf_eq : crlf = [13, 10] := rfl

lemma readHeader_write {header : OsString × OsString} (hname : 58 ∉ header.1)
    (hvalue : header.2.head? ≠ some 32) :
    readHeader (header.1 ++ OsString.ofString ": " ++ header.2) = some header := by
  have hcut : cutAt [58] (header.1 ++ [58, 32] ++ header.2) = some (header.1, 32 :: header.2) := by
    have hcut := cutAt_append [] hname (32 :: header.2)
    rwa [List.append_assoc] at hcut ⊢
  have hdrop : header.2.dropWhile (· = 32) = header.2 := by
    cases hcase : header.2 with
    | nil => rfl
    | cons b bytes =>
      rw [hcase, List.head?_cons, ne_eq, Option.some.injEq] at hvalue
      rw [List.dropWhile_cons_of_neg (by simpa using hvalue)]
  change (cutAt [58] (header.1 ++ [58, 32] ++ header.2)).map _ = _
  rw [hcut, Option.map_some, Prod.map, id, List.dropWhile_cons_of_pos (by simp), hdrop]

/-- A line is read where it was written. -/
lemma cutAt_line {line : OsString} (h : 13 ∉ line) (rest : OsString) :
    cutAt crlf (line ++ crlf ++ rest) = some (line, rest) :=
  cutAt_append [10] h rest

lemma readHeaders_write {headers : List (OsString × OsString)}
    (hnames : ∀ header ∈ headers, header.1 ≠ [] ∧ 58 ∉ header.1 ∧ 13 ∉ header.1)
    (hvalues : ∀ header ∈ headers, 13 ∉ header.2 ∧ header.2.head? ≠ some 32) (rest : OsString)
    (fuel : ℕ) (hfuel : headers.length < fuel) :
    readHeaders fuel (headers.flatMap writeHeader ++ crlf ++ rest) = some (headers, rest) := by
  induction headers generalizing fuel with
  | nil =>
    obtain ⟨fuel, rfl⟩ : ∃ n, fuel = n + 1 := ⟨fuel - 1, by omega⟩
    have hline := cutAt_line List.not_mem_nil rest
    rw [List.nil_append] at hline
    rw [List.flatMap_nil, List.nil_append, readHeaders, hline]
    rfl
  | cons header headers ih =>
    obtain ⟨fuel, rfl⟩ : ∃ n, fuel = n + 1 := ⟨fuel - 1, by omega⟩
    obtain ⟨hname, hcolon, hreturn⟩ := hnames header List.mem_cons_self
    obtain ⟨hvalue, hspace⟩ := hvalues header List.mem_cons_self
    have ih := ih (fun h hh => hnames h (List.mem_cons_of_mem _ hh))
      (fun h hh => hvalues h (List.mem_cons_of_mem _ hh)) fuel
      (by rw [List.length_cons] at hfuel; omega)
    have hline : 13 ∉ header.1 ++ OsString.ofString ": " ++ header.2 := by
      have hcolon : (13 : UInt8) ∉ OsString.ofString ": " := by decide
      simp [hreturn, hvalue, hcolon]
    have hne : header.1 ++ OsString.ofString ": " ++ header.2 ≠ [] := by simp [hname]
    have hcut := cutAt_line hline (headers.flatMap writeHeader ++ crlf ++ rest)
    rw [List.flatMap_cons, writeHeader, List.append_assoc _ _ crlf, List.append_assoc _ _ rest,
      readHeaders, hcut]
    simp only [Option.bind_eq_bind, Option.bind_some, if_neg hne,
      readHeader_write hcolon hspace, ih]

lemma length_le_headers (headers : List (OsString × OsString)) :
    headers.length ≤ (headers.flatMap writeHeader).length := by
  induction headers with
  | nil => exact le_rfl
  | cons header headers ih =>
    have hlength : 0 < (writeHeader header).length := by
      rw [writeHeader, List.length_append, crlf_eq, List.length_cons]
      omega
    rw [List.flatMap_cons, List.length_append, List.length_cons]
    omega

/-- A server reads a request that was written, and leaves what comes after it. -/
theorem readRequest_write {request : Request} (h : request.WellFormed) (next : OsString) :
    readRequest (request.write ++ next) = some (request, next) := by
  obtain ⟨hmethod, hreturn⟩ := h.method
  obtain ⟨htarget, hreturn'⟩ := h.target
  have hline : 13 ∉ request.method ++ OsString.ofString " " ++ request.target ++
      OsString.ofString " " ++ version := by
    have hspace : (13 : UInt8) ∉ OsString.ofString " " := by decide
    have hversion : (13 : UInt8) ∉ version := by decide
    simp [hreturn, hreturn', hspace, hversion]
  have hcut := cutAt_line hline (request.headers.flatMap writeHeader ++ crlf ++
    (request.body ++ next))
  have hcutMethod : cutAt (OsString.ofString " ") (request.method ++ OsString.ofString " " ++
      request.target ++ OsString.ofString " " ++ version) =
        some (request.method, request.target ++ OsString.ofString " " ++ version) := by
    have hsame : request.method ++ OsString.ofString " " ++ request.target ++
        OsString.ofString " " ++ version = request.method ++ OsString.ofString " " ++
          (request.target ++ OsString.ofString " " ++ version) := by
      simp only [List.append_assoc]
    rw [hsame]
    exact cutAt_append [] hmethod _
  have hcutTarget : cutAt (OsString.ofString " ")
      (request.target ++ OsString.ofString " " ++ version) = some (request.target, version) :=
    cutAt_append [] htarget version
  have hheaders := readHeaders_write h.names h.values (request.body ++ next)
    ((request.headers.flatMap writeHeader ++ crlf ++ (request.body ++ next)).length + 1) (by
      have hle := length_le_headers request.headers
      rw [List.length_append, List.length_append]
      omega)
  have hwrite : request.write ++ next = request.method ++ OsString.ofString " " ++
      request.target ++ OsString.ofString " " ++ version ++ crlf ++
        (request.headers.flatMap writeHeader ++ crlf ++ (request.body ++ next)) := by
    simp only [Request.write, List.append_assoc]
  have hlength : request.body.length ≤ (request.body ++ next).length := by
    rw [List.length_append]
    omega
  rw [hwrite, readRequest, hcut]
  simp only [Option.bind_eq_bind, Option.bind_some, hcutMethod, hcutTarget, if_true, hheaders,
    h.length, if_pos hlength, List.take_left, List.drop_left]

structure Response where
  status : UInt16
  reason : String
  headers : List (String × String)
  body : String

def versionText : List Char :=
  ['H', 'T', 'T', 'P', '/', '1', '.', '1']

def statusLine (response : Response) : List Char :=
  versionText ++ ' ' :: (Decimal.write response.status.toNat ++ ' ' :: response.reason.toList)

def headerLine (header : String × String) : List Char :=
  header.1.toList ++ ':' :: ' ' :: header.2.toList

/-- The lines before the body, with a line break between them. -/
def Response.head (response : Response) : List Char :=
  statusLine response ++ response.headers.flatMap (fun header => '\r' :: '\n' :: headerLine header)

def Response.write (response : Response) : List Char :=
  response.head ++ ['\r', '\n', '\r', '\n'] ++ response.body.toList

/-- No line of the head has a line break in it. -/
structure Response.WellFormed (response : Response) : Prop where
  reason : '\r' ∉ response.reason.toList ∧ '\n' ∉ response.reason.toList
  headers : ∀ header ∈ response.headers, '\r' ∉ headerLine header

/-- The first empty line is the one after the head. -/
lemma cutAt_lines {line : List Char} {lines : List (List Char)} (hline : '\r' ∉ line)
    (hlines : ∀ line ∈ lines, '\r' ∉ line ∧ line ≠ []) (body : List Char) :
    cutAt ['\r', '\n', '\r', '\n']
        (line ++ lines.flatMap (fun line => '\r' :: '\n' :: line) ++ ['\r', '\n', '\r', '\n'] ++
          body) =
      some (line ++ lines.flatMap (fun line => '\r' :: '\n' :: line), body) := by
  induction lines generalizing line with
  | nil =>
    rw [List.flatMap_nil, List.append_nil]
    exact cutAt_append _ hline body
  | cons next lines ih =>
    obtain ⟨hnext, hne⟩ := hlines next List.mem_cons_self
    have ih := ih hnext (fun l hl => hlines l (List.mem_cons_of_mem _ hl))
    generalize hrest : next ++ lines.flatMap (fun line => '\r' :: '\n' :: line) ++
      ['\r', '\n', '\r', '\n'] ++ body = rest at ih
    have hsplit : line ++ (next :: lines).flatMap (fun line => '\r' :: '\n' :: line) ++
        ['\r', '\n', '\r', '\n'] ++ body = line ++ '\r' :: '\n' :: rest := by
      rw [← hrest]
      simp
    have hfirst : ¬ ['\r', '\n', '\r', '\n'] <+: '\r' :: '\n' :: rest := by
      intro hprefix
      have hreturn := (List.cons_prefix_cons.mp (List.cons_prefix_cons.mp hprefix).2).2
      cases hcase : next with
      | nil => exact hne hcase
      | cons c cs =>
        rw [← hrest, hcase] at hreturn
        have hc : '\r' = c := (List.cons_prefix_cons.mp hreturn).1
        rw [hcase, ← hc] at hnext
        exact hnext List.mem_cons_self
    have hsecond : ¬ ['\r', '\n', '\r', '\n'] <+: '\n' :: rest :=
      fun hprefix => absurd (List.cons_prefix_cons.mp hprefix).1 (by decide)
    rw [hsplit, cutAt_skip _ hline, cutAt_cons hfirst, cutAt_cons hsecond, ih]
    simp

lemma not_mem_statusLine {response : Response} {c : Char} (hdigit : c.isDigit = false)
    (hversion : c ∉ versionText) (hspace : c ≠ ' ') (hreason : c ∉ response.reason.toList) :
    c ∉ statusLine response := by
  have hcode : c ∉ Decimal.write response.status.toNat := by
    intro hmem
    rw [Decimal.isDigit_of_mem_write hmem] at hdigit
    cases hdigit
  rw [statusLine, List.mem_append, List.mem_cons, List.mem_append, List.mem_cons]
  simp only [hversion, hspace, hcode, hreason, or_self, not_false_eq_true]

/-- The head and the body of a response are what stands before and after the first empty line. -/
theorem cutAt_write {response : Response} (h : response.WellFormed) :
    cutAt ['\r', '\n', '\r', '\n'] response.write = some (response.head, response.body.toList) := by
  have hlines : ∀ line ∈ response.headers.map headerLine, '\r' ∉ line ∧ line ≠ [] := by
    intro line hline
    obtain ⟨header, hheader, rfl⟩ := List.mem_map.mp hline
    exact ⟨h.headers header hheader, by simp [headerLine]⟩
  have hhead : response.head = statusLine response ++
      (response.headers.map headerLine).flatMap (fun line => '\r' :: '\n' :: line) := by
    rw [Response.head, List.flatMap_map]
  rw [Response.write, hhead]
  have hline : '\r' ∉ statusLine response :=
    not_mem_statusLine rfl (by decide) (by decide) h.reason.1
  exact cutAt_lines hline hlines _

end Http
end Lib
