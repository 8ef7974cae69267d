import Pingling.Lib.Collections

/-!
# The JSON text of a map of strings

A map of strings is written as a JSON object, one entry a line in key order, and read back
with any white space between the tokens. Reading undoes writing.
-/

namespace Lib.JsonText
open Std

def hexDigit (n : ℕ) : Char :=
  if n < 10 then Char.ofNat (48 + n) else Char.ofNat (87 + n)

/-- The value of a hexadecimal digit, of either case. -/
def hexValue (c : Char) : Option ℕ :=
  if '0' ≤ c ∧ c ≤ '9' then some (c.toNat - 48)
  else if 'a' ≤ c ∧ c ≤ 'f' then some (c.toNat - 87)
  else if 'A' ≤ c ∧ c ≤ 'F' then some (c.toNat - 55)
  else none

/-- The code unit of an escape with four hexadecimal digits. -/
def codeUnit (a b c d : Char) : Option ℕ := do
  some (4096 * (← hexValue a) + 256 * (← hexValue b) + 16 * (← hexValue c) + (← hexValue d))

/-- The code units that begin a pair. -/
def isLeading (unit : ℕ) : Bool :=
  0xD800 ≤ unit && unit ≤ 0xDBFF

/-- The code units that end a pair. -/
def isTrailing (unit : ℕ) : Bool :=
  0xDC00 ≤ unit && unit ≤ 0xDFFF

/-- The characters that have a short escape, with its letter. -/
def shortEscapes : List (Char × Char) :=
  [('\x22', '\x22'), ('\\', '\\'), ('\x08', 'b'), ('\t', 't'), ('\n', 'n'), ('\x0c', 'f'),
    ('\r', 'r')]

def writeChar (c : Char) : List Char :=
  match shortEscapes.lookup c with
  | some letter => ['\\', letter]
  | none =>
    if c.toNat < 32 then ['\\', 'u', '0', '0', hexDigit (c.toNat / 16), hexDigit (c.toNat % 16)]
    else [c]

/-- The characters up to the closing quote, and the text after it. The escape of a code unit that
begins a pair is followed by one that ends it. -/
def readChars : List Char → Option (List Char × List Char)
  | [] => none
  | '\x22' :: rest => some ([], rest)
  | '\\' :: 'u' :: a :: b :: c :: d :: '\\' :: 'u' :: a' :: b' :: c' :: d' :: rest => do
    let unit ← codeUnit a b c d
    if isLeading unit then
      let trailing ← codeUnit a' b' c' d'
      if isTrailing trailing then
        let c := Char.ofNat (0x10000 + 0x400 * (unit - 0xD800) + (trailing - 0xDC00))
        (readChars rest).map (Prod.map (c :: ·) id)
      else none
    else if isTrailing unit then none
    else
      (readChars ('\\' :: 'u' :: a' :: b' :: c' :: d' :: rest)).map
        (Prod.map (Char.ofNat unit :: ·) id)
  | '\\' :: 'u' :: a :: b :: c :: d :: rest => do
    let unit ← codeUnit a b c d
    if isLeading unit || isTrailing unit then none
    else (readChars rest).map (Prod.map (Char.ofNat unit :: ·) id)
  | '\\' :: '/' :: rest => (readChars rest).map (Prod.map ('/' :: ·) id)
  | '\\' :: letter :: rest => do
    let entry ← shortEscapes.find? (fun entry => entry.2 == letter)
    (readChars rest).map (Prod.map (entry.1 :: ·) id)
  | c :: rest =>
    if c.toNat < 32 then none else (readChars rest).map (Prod.map (c :: ·) id)

lemma hexValue_hexDigit {n : ℕ} (h : n < 16) : hexValue (hexDigit n) = some n := by
  interval_cases n <;> rfl

lemma readChars_cons {c : Char} (hquote : c ≠ '\x22') (hslash : c ≠ '\\')
    (hcontrol : ¬ c.toNat < 32) (rest : List Char) :
    readChars (c :: rest) = (readChars rest).map (Prod.map (c :: ·) id) := by
  rw [readChars.eq_def]
  split <;> simp_all

/-- Reading the escape of a code unit that is a character of its own. -/
lemma readChars_escape {a b c d : Char} {unit : ℕ} (hunit : codeUnit a b c d = some unit)
    (hleading : isLeading unit = false) (htrailing : isTrailing unit = false) (rest : List Char) :
    readChars ('\\' :: 'u' :: a :: b :: c :: d :: rest) =
      (readChars rest).map (Prod.map (Char.ofNat unit :: ·) id) := by
  rw [readChars.eq_def]
  split
  all_goals grind

/-- Reading a character that was written. -/
lemma readChars_writeChar (c : Char) (rest : List Char) :
    readChars (writeChar c ++ rest) = (readChars rest).map (Prod.map (c :: ·) id) := by
  unfold writeChar
  cases hlookup : shortEscapes.lookup c with
  | some letter =>
    obtain ⟨before, after, hsplit, -⟩ := List.lookup_eq_some_iff.mp hlookup
    have hmem : (c, letter) ∈ shortEscapes := by simp [hsplit]
    simp only [shortEscapes, List.mem_cons, Prod.mk.injEq, List.not_mem_nil, or_false] at hmem
    rcases hmem with ⟨rfl, rfl⟩ | ⟨rfl, rfl⟩ | ⟨rfl, rfl⟩ | ⟨rfl, rfl⟩ | ⟨rfl, rfl⟩ |
      ⟨rfl, rfl⟩ | ⟨rfl, rfl⟩ <;> rfl
  | none =>
    simp only
    by_cases hcontrol : c.toNat < 32
    · have hhigh := @hexValue_hexDigit (c.toNat / 16) (by omega)
      have hlow := @hexValue_hexDigit (c.toNat % 16) (by omega)
      have hunit : codeUnit '0' '0' (hexDigit (c.toNat / 16)) (hexDigit (c.toNat % 16)) =
          some c.toNat := by
        have hzero : hexValue '0' = some 0 := rfl
        simp [codeUnit, hzero, hhigh, hlow, Nat.div_add_mod]
      have hleading : isLeading c.toNat = false := by
        simp [isLeading]
        omega
      have htrailing : isTrailing c.toNat = false := by
        simp [isTrailing]
        omega
      rw [if_pos hcontrol]
      exact (readChars_escape hunit hleading htrailing rest).trans (by rw [Char.ofNat_toNat])
    · rw [if_neg hcontrol]
      apply readChars_cons
      · rintro rfl
        cases hlookup
      · rintro rfl
        cases hlookup
      · exact hcontrol

def writeString (chars : List Char) : List Char :=
  '\x22' :: chars.flatMap writeChar ++ ['\x22']

/-- Reading a string that was written, after its opening quote. -/
lemma readChars_flatMap (chars rest : List Char) :
    readChars (chars.flatMap writeChar ++ '\x22' :: rest) = some (chars, rest) := by
  induction chars with
  | nil => rfl
  | cons c chars ih =>
    rw [List.flatMap_cons, List.append_assoc, readChars_writeChar, ih]
    rfl

def isSpace (c : Char) : Bool :=
  c == ' ' || c == '\n' || c == '\t' || c == '\r'

/-- Skip white space and the token `c`. -/
def expect (c : Char) (text : List Char) : Option (List Char) :=
  match text.dropWhile isSpace with
  | [] => none
  | d :: rest => if d = c then some rest else none

abbrev Entry := List Char × List Char

def writeEntry (entry : Entry) : List Char :=
  ' ' :: ' ' :: writeString entry.1 ++ ':' :: ' ' :: writeString entry.2

def writeObject : List Entry → List Char
  | [] => ['\x7b', '\x7d']
  | entry :: entries =>
    '\x7b' :: '\n' :: writeEntry entry ++
      entries.flatMap (fun entry => ',' :: '\n' :: writeEntry entry) ++ ['\n', '\x7d']

def readEntry (text : List Char) : Option (Entry × List Char) := do
  let (key, text) ← readChars (← expect '\x22' text)
  let text ← expect ':' text
  let (value, text) ← readChars (← expect '\x22' text)
  some ((key, value), text)

/-- The entries after the first one, up to the closing brace. `fuel` bounds their number. -/
def readEntries : ℕ → List Char → Option (List Entry × List Char)
  | 0, _ => none
  | fuel + 1, text =>
    match expect ',' text with
    | some text => do
      let (entry, text) ← readEntry text
      (readEntries fuel text).map (Prod.map (entry :: ·) id)
    | none => (expect '\x7d' text).map (fun text => ([], text))

def readObject (text : List Char) : Option (List Entry) := do
  let body ← expect '\x7b' text
  let (entries, rest) ←
    match expect '\x7d' body with
    | some rest => some ([], rest)
    | none => do
      let (entry, body) ← readEntry body
      (readEntries text.length body).map (Prod.map (entry :: ·) id)
  if rest.dropWhile isSpace = [] then some entries else none

lemma expect_space {c space : Char} (h : isSpace space = true) (text : List Char) :
    expect c (space :: text) = expect c text := by
  rw [expect, expect, List.dropWhile_cons_of_pos h]

lemma expect_token {c d : Char} (h : isSpace d = false) (text : List Char) :
    expect c (d :: text) = if d = c then some text else none := by
  rw [expect, List.dropWhile_cons_of_neg (by simp [h])]

lemma expect_writeString (chars rest : List Char) :
    expect '\x22' (writeString chars ++ rest) =
      some (chars.flatMap writeChar ++ '\x22' :: rest) := by
  rw [writeString, List.cons_append, List.cons_append, expect_token (by rfl), if_pos rfl,
    List.append_assoc]
  rfl

lemma readEntry_writeEntry (entry : Entry) (rest : List Char) :
    readEntry (writeEntry entry ++ rest) = some (entry, rest) := by
  have hkey : expect '\x22' (writeEntry entry ++ rest) =
      some (entry.1.flatMap writeChar ++ '\x22' ::
        (':' :: ' ' :: writeString entry.2 ++ rest)) := by
    rw [writeEntry, List.cons_append, List.cons_append, List.cons_append, List.cons_append,
      expect_space (by rfl), expect_space (by rfl), List.append_assoc, expect_writeString]
  have hcolon : expect ':' (':' :: ' ' :: writeString entry.2 ++ rest) =
      some (' ' :: writeString entry.2 ++ rest) := by
    rw [List.cons_append, expect_token (by rfl), if_pos rfl]
  have hvalue : expect '\x22' (' ' :: writeString entry.2 ++ rest) =
      some (entry.2.flatMap writeChar ++ '\x22' :: rest) := by
    rw [List.cons_append, expect_space (by rfl), expect_writeString]
  simp only [readEntry, hkey, hcolon, hvalue, Option.bind_eq_bind, Option.bind_some,
    readChars_flatMap]

lemma readEntry_line (entry : Entry) (rest : List Char) :
    readEntry ('\n' :: writeEntry entry ++ rest) = some (entry, rest) := by
  rw [← readEntry_writeEntry entry rest, List.cons_append, readEntry, expect_space (by rfl),
    ← readEntry]

lemma readEntries_write (entries : List Entry) {fuel : ℕ} (hfuel : entries.length < fuel) :
    readEntries fuel
      (entries.flatMap (fun entry => ',' :: '\n' :: writeEntry entry) ++ ['\n', '\x7d']) =
      some (entries, []) := by
  induction entries generalizing fuel with
  | nil =>
    obtain ⟨fuel, rfl⟩ := Nat.exists_eq_succ_of_ne_zero (by omega : fuel ≠ 0)
    rfl
  | cons entry entries ih =>
    rw [List.length_cons] at hfuel
    obtain ⟨fuel, rfl⟩ := Nat.exists_eq_succ_of_ne_zero (by omega : fuel ≠ 0)
    have hcomma : ∀ rest, expect ',' (',' :: '\n' :: rest) = some ('\n' :: rest) := fun _ => rfl
    simp only [List.flatMap_cons, List.cons_append, List.append_assoc, readEntries, hcomma]
    rw [← List.cons_append, readEntry_line]
    have hrest := ih (by omega : entries.length < fuel)
    simp only [Option.bind_eq_bind, Option.bind_some, hrest]
    rfl

lemma length_le_flatMap (entries : List Entry) : entries.length ≤
    (entries.flatMap (fun entry => ',' :: '\n' :: writeEntry entry)).length := by
  induction entries with
  | nil => exact le_rfl
  | cons entry entries ih =>
    rw [List.flatMap_cons, List.length_append, List.length_cons, List.length_cons]
    omega

/-- Reading an object that was written. -/
theorem readObject_writeObject (entries : List Entry) :
    readObject (writeObject entries) = some entries := by
  cases entries with
  | nil => rfl
  | cons entry entries =>
    have hfuel : entries.length < (writeObject (entry :: entries)).length := by
      have hle := length_le_flatMap entries
      simp only [writeObject, List.length_append, List.length_cons]
      omega
    have hopen : expect '\x7b' (writeObject (entry :: entries)) =
        some ('\n' :: writeEntry entry ++
          (entries.flatMap (fun entry => ',' :: '\n' :: writeEntry entry) ++ ['\n', '\x7d'])) := by
      simp only [writeObject, List.cons_append, List.append_assoc]
      rfl
    have hfull : ∀ rest, expect '\x7d' ('\n' :: writeEntry entry ++ rest) = none := fun _ => rfl
    have hrest := readEntries_write entries hfuel
    simp only [readObject, hopen, hfull, readEntry_line, hrest, Option.bind_eq_bind,
      Option.bind_some, Option.map_some, Prod.map, id]
    rfl

def encode (data : BTreeMap String String) : String :=
  .ofList (writeObject (data.toList.map (Prod.map String.toList String.toList)))

/-- A key that comes twice has its last value. -/
def decode (text : String) : Option (BTreeMap String String) :=
  (readObject text.toList).map (fun entries =>
    ExtTreeMap.ofList (entries.map (Prod.map String.ofList String.ofList)) compare)

lemma ofList_toList (data : BTreeMap String String) :
    ExtTreeMap.ofList data.toList compare = data := by
  apply ExtTreeMap.ext_getElem?
  intro key
  cases hkey : data[key]? with
  | none =>
    apply ExtTreeMap.getElem?_ofList_of_contains_eq_false
    rw [List.contains_eq_mem, decide_eq_false_iff_not, List.mem_map]
    rintro ⟨⟨k, value⟩, hmem, rfl⟩
    rw [ExtTreeMap.mem_toList_iff_getElem?_eq_some, hkey] at hmem
    cases hmem
  | some value =>
    exact ExtTreeMap.getElem?_ofList_of_mem compare_self ExtTreeMap.distinct_keys_toList
      (ExtTreeMap.mem_toList_iff_getElem?_eq_some.mpr hkey)

theorem decode_encode (data : BTreeMap String String) : decode (encode data) = some data := by
  have hstrings : Prod.map String.ofList String.ofList ∘ Prod.map String.toList String.toList =
      id := by
    funext p
    simp [Prod.map]
  rw [decode, encode, String.toList_ofList, readObject_writeObject, Option.map_some,
    List.map_map, hstrings, List.map_id, ofList_toList]

end Lib.JsonText
