import Pingling.Lib.JsonNumeral
import Pingling.Lib.JsonText
import Pingling.Lib.WireRecord

/-!
# The compact text of a JSON document

A document is written without white space, its entries in the order in which they are given, and
read back with any white space between the tokens. Reading allows a number of nested containers.
How a float is written, and which one a numeral stands for, are parameters.
-/

namespace Lib

/-- A document is a value whose objects list their entries as they stand in the text. -/
def Document : Type := Value

namespace Document
open JsonText

section

variable (float : UInt64 → List Char)

def writeNumber : Number → List Char
  | .posInt n => Decimal.write n.toNat
  | .negInt n => '-' :: Decimal.write (-n.toInt).toNat
  | .float bits => float bits

/-- Texts with commas between them. -/
def separated : List (List Char) → List Char
  | [] => []
  | text :: texts => text ++ texts.flatMap (fun text => ',' :: text)

mutual

def write : Value → List Char
  | .null => ['n', 'u', 'l', 'l']
  | .bool true => ['t', 'r', 'u', 'e']
  | .bool false => ['f', 'a', 'l', 's', 'e']
  | .number n => writeNumber float n
  | .string s => writeString s.toList
  | .array items => '[' :: separated (writeItems items) ++ [']']
  | .object entries => '\x7b' :: separated (writeEntries entries) ++ ['\x7d']

def writeItems : List Value → List (List Char)
  | [] => []
  | item :: items => write item :: writeItems items

def writeEntries : List (String × Value) → List (List Char)
  | [] => []
  | (key, value) :: entries =>
    (writeString key.toList ++ ':' :: write value) :: writeEntries entries

end

def writeMember (entry : String × Value) : List Char :=
  writeString entry.1.toList ++ ':' :: write float entry.2

@[simp] lemma writeItems_eq (items : List Value) :
    writeItems float items = items.map (write float) := by
  induction items with
  | nil => rfl
  | cons item items ih => rw [writeItems, ih, List.map_cons]

@[simp] lemma writeEntries_eq (entries : List (String × Value)) :
    writeEntries float entries = entries.map (writeMember float) := by
  induction entries with
  | nil => rfl
  | cons entry entries ih => rw [writeEntries, ih, List.map_cons, writeMember]

end

/-- The items after the first one, up to the closing bracket. `fuel` bounds their number. -/
def readRest {α : Type} (item : List Char → Option (α × List Char)) (close : Char) :
    ℕ → List Char → Option (List α × List Char)
  | 0, _ => none
  | fuel + 1, text =>
    match expect ',' text with
    | some text => do
      let (a, text) ← item text
      (readRest item close fuel text).map (Prod.map (a :: ·) id)
    | none => (expect close text).map (fun text => ([], text))

/-- The items between brackets, after the opening one. -/
def readSequence {α : Type} (item : List Char → Option (α × List Char)) (close : Char)
    (text : List Char) : Option (List α × List Char) :=
  match expect close text with
  | some text => some ([], text)
  | none => do
    let (a, text) ← item text
    (readRest item close text.length text).map (Prod.map (a :: ·) id)

section

variable (parse : List Char → Option UInt64)

def readNumber (text : List Char) : Option (Number × List Char) := do
  let (numeral, text) ← Numeral.readNumeral text
  (numeral.number parse).map fun n => (n, text)

/-- An entry: its key, a colon and its value. -/
def readMember (value : List Char → Option (Value × List Char)) (text : List Char) :
    Option ((String × Value) × List Char) := do
  let (key, text) ← readChars (← expect '\x22' text)
  let text ← expect ':' text
  let (v, text) ← value text
  some ((String.ofList key, v), text)

/-- A value that begins at the text, with the containers that may be nested in it. -/
def readAt : ℕ → List Char → Option (Value × List Char)
  | _, 'n' :: 'u' :: 'l' :: 'l' :: text => some (.null, text)
  | _, 't' :: 'r' :: 'u' :: 'e' :: text => some (.bool true, text)
  | _, 'f' :: 'a' :: 'l' :: 's' :: 'e' :: text => some (.bool false, text)
  | _, '\x22' :: text => (readChars text).map (Prod.map (fun s => .string (String.ofList s)) id)
  | 0, '[' :: _ => none
  | depth + 1, '[' :: text =>
    (readSequence (fun text => readAt depth (text.dropWhile isSpace)) ']' text).map
      (Prod.map Value.array id)
  | 0, '\x7b' :: _ => none
  | depth + 1, '\x7b' :: text =>
    (readSequence (readMember fun text => readAt depth (text.dropWhile isSpace)) '\x7d' text).map
      (Prod.map Value.object id)
  | _, text => (readNumber parse text).map (Prod.map Value.number id)

/-- The containers that a reader allows to be nested. -/
def maxDepth : ℕ := 127

/-- The document of a whole text. -/
def read (text : List Char) : Option Value := do
  let (v, rest) ← readAt parse maxDepth (text.dropWhile isSpace)
  if rest.dropWhile isSpace = [] then some v else none

end

/-- A float is written as a numeral that stands for it. -/
def Survives (float : UInt64 → List Char) (parse : List Char → Option UInt64) (bits : UInt64) :
    Prop :=
  ∃ numeral : Numeral, numeral.WellFormed ∧ float bits = numeral.text ∧
    numeral.number parse = some (.float bits)

/-- A value that a reader takes back: its floats survive, and no more than `depth` containers are
nested in it. -/
inductive Readable (float : UInt64 → List Char) (parse : List Char → Option UInt64) :
    ℕ → Value → Prop
  | null (depth : ℕ) : Readable float parse depth .null
  | bool (depth : ℕ) (b : Bool) : Readable float parse depth (.bool b)
  | posInt (depth : ℕ) (n : UInt64) : Readable float parse depth (.number (.posInt n))
  | negInt (depth : ℕ) (n : Int64) (hneg : n < 0) : Readable float parse depth (.number (.negInt n))
  | float (depth : ℕ) (bits : UInt64) (h : Survives float parse bits) :
    Readable float parse depth (.number (.float bits))
  | string (depth : ℕ) (s : String) : Readable float parse depth (.string s)
  | array {depth : ℕ} {items : List Value} (h : ∀ item ∈ items, Readable float parse depth item) :
    Readable float parse (depth + 1) (.array items)
  | object {depth : ℕ} {entries : List (String × Value)}
    (h : ∀ entry ∈ entries, Readable float parse depth entry.2) :
    Readable float parse (depth + 1) (.object entries)

mutual

/-- A value without floats in which no more than `depth` containers are nested. -/
def floatFree : Value → ℕ → Bool
  | .null, _ => true
  | .bool _, _ => true
  | .string _, _ => true
  | .number (.posInt _), _ => true
  | .number (.negInt n), _ => decide (n < 0)
  | .number (.float _), _ => false
  | .array _, 0 => false
  | .array items, depth + 1 => floatFreeItems items depth
  | .object _, 0 => false
  | .object entries, depth + 1 => floatFreeEntries entries depth

def floatFreeItems : List Value → ℕ → Bool
  | [], _ => true
  | item :: items, depth => floatFree item depth && floatFreeItems items depth

def floatFreeEntries : List (String × Value) → ℕ → Bool
  | [], _ => true
  | (_, value) :: entries, depth => floatFree value depth && floatFreeEntries entries depth

end

section

variable {float : UInt64 → List Char} {parse : List Char → Option UInt64}

mutual

/-- A value without floats is readable, however floats are written and read. -/
lemma readable_of_floatFree : ∀ (v : Value) (depth : ℕ), floatFree v depth = true →
    Readable float parse depth v
  | .null, depth, _ => .null depth
  | .bool b, depth, _ => .bool depth b
  | .string s, depth, _ => .string depth s
  | .number (.posInt n), depth, _ => .posInt depth n
  | .number (.negInt n), depth, h => .negInt depth n (of_decide_eq_true h)
  | .number (.float _), _, h => absurd h Bool.false_ne_true
  | .array _, 0, h => absurd h Bool.false_ne_true
  | .array items, depth + 1, h => .array (readableItems_of_floatFree items depth h)
  | .object _, 0, h => absurd h Bool.false_ne_true
  | .object entries, depth + 1, h => .object (readableEntries_of_floatFree entries depth h)

lemma readableItems_of_floatFree : ∀ (items : List Value) (depth : ℕ),
    floatFreeItems items depth = true → ∀ item ∈ items, Readable float parse depth item
  | [], _, _, _, hitem => absurd hitem List.not_mem_nil
  | first :: items, depth, h, item, hitem => by
    obtain ⟨hfirst, hrest⟩ := Bool.and_eq_true_iff.mp h
    rcases List.mem_cons.mp hitem with heq | hitem
    · exact heq ▸ readable_of_floatFree first depth hfirst
    · exact readableItems_of_floatFree items depth hrest item hitem

lemma readableEntries_of_floatFree : ∀ (entries : List (String × Value)) (depth : ℕ),
    floatFreeEntries entries depth = true → ∀ entry ∈ entries, Readable float parse depth entry.2
  | [], _, _, _, hentry => absurd hentry List.not_mem_nil
  | (key, value) :: entries, depth, h, entry, hentry => by
    obtain ⟨hvalue, hrest⟩ := Bool.and_eq_true_iff.mp h
    rcases List.mem_cons.mp hentry with heq | hentry
    · exact heq ▸ readable_of_floatFree value depth hvalue
    · exact readableEntries_of_floatFree entries depth hrest entry hentry

end

end

/-- The text begins with a character that neither is white space nor closes a container. -/
def Begins (text : List Char) : Prop :=
  ∃ c rest, text = c :: rest ∧ isSpace c = false ∧ c ≠ ']' ∧ c ≠ '\x7d'

section

variable {α : Type} (item : List Char → Option (α × List Char)) (print : α → List Char)
  (close : Char)

lemma readRest_flatMap {xs : List α} (hspace : isSpace close = false) (hcomma : close ≠ ',')
    (hclose : Numeral.inNumber close = false)
    (hitem : ∀ x ∈ xs, ∀ rest, Numeral.Ends rest → item (print x ++ rest) = some (x, rest))
    (rest : List Char) {fuel : ℕ} (hfuel : xs.length < fuel) :
    readRest item close fuel (xs.flatMap (fun x => ',' :: print x) ++ close :: rest) =
      some (xs, rest) := by
  induction xs generalizing fuel with
  | nil =>
    obtain ⟨fuel, rfl⟩ := Nat.exists_eq_succ_of_ne_zero (by omega : fuel ≠ 0)
    rw [List.flatMap_nil, List.nil_append, readRest, expect_token hspace, if_neg hcomma,
      expect_token hspace, if_pos rfl]
    rfl
  | cons x xs ih =>
    rw [List.length_cons] at hfuel
    obtain ⟨fuel, rfl⟩ := Nat.exists_eq_succ_of_ne_zero (by omega : fuel ≠ 0)
    have hrest : Numeral.Ends (xs.flatMap (fun x => ',' :: print x) ++ close :: rest) := by
      cases xs with
      | nil => exact Numeral.ends_cons hclose rest
      | cons y ys => exact Numeral.ends_cons (by rfl) _
    have hx := hitem x List.mem_cons_self _ hrest
    have ih := ih (fun y hy => hitem y (List.mem_cons_of_mem _ hy)) (by omega : xs.length < fuel)
    rw [List.flatMap_cons, List.cons_append, List.cons_append, List.append_assoc, readRest,
      expect_token (by rfl), if_pos rfl]
    simp only [hx, ih, Option.bind_eq_bind, Option.bind_some, Option.map_some, Prod.map, id]

lemma length_le_flatMap_comma (xs : List α) :
    xs.length ≤ (xs.flatMap (fun x => ',' :: print x)).length := by
  induction xs with
  | nil => exact le_rfl
  | cons x xs ih =>
    rw [List.flatMap_cons, List.length_append, List.length_cons, List.length_cons]
    omega

/-- Reading items that were written between brackets. -/
lemma readSequence_separated {xs : List α} (hspace : isSpace close = false) (hcomma : close ≠ ',')
    (hclose : Numeral.inNumber close = false) (hends : close = ']' ∨ close = '\x7d')
    (hbegins : ∀ x ∈ xs, Begins (print x))
    (hitem : ∀ x ∈ xs, ∀ rest, Numeral.Ends rest → item (print x ++ rest) = some (x, rest))
    (rest : List Char) :
    readSequence item close (separated (xs.map print) ++ close :: rest) = some (xs, rest) := by
  cases xs with
  | nil =>
    rw [List.map_nil, separated, List.nil_append, readSequence, expect_token hspace, if_pos rfl]
  | cons x xs =>
    have hafter : Numeral.Ends (xs.flatMap (fun x => ',' :: print x) ++ close :: rest) := by
      cases xs with
      | nil => exact Numeral.ends_cons hclose rest
      | cons y ys => exact Numeral.ends_cons (by rfl) _
    have hx := hitem x List.mem_cons_self _ hafter
    have htexts : (xs.map print).flatMap (fun text => ',' :: text) =
        xs.flatMap (fun x => ',' :: print x) := List.flatMap_map _ _ _
    have hnot : ∀ tail, expect close (print x ++ tail) = none := by
      obtain ⟨c, front, htext, hc, hbracket, hbrace⟩ := hbegins x List.mem_cons_self
      intro tail
      rw [htext, List.cons_append, expect_token hc, if_neg]
      rintro rfl
      rcases hends with rfl | rfl
      · exact hbracket rfl
      · exact hbrace rfl
    have hlength := length_le_flatMap_comma print xs
    have hfuel : xs.length < (xs.flatMap (fun x => ',' :: print x) ++ close :: rest).length := by
      rw [List.length_append, List.length_cons]
      omega
    have hrest := readRest_flatMap item print close hspace hcomma hclose
      (fun y hy => hitem y (List.mem_cons_of_mem _ hy)) rest hfuel
    rw [List.map_cons, separated, htexts, List.append_assoc, readSequence, hnot]
    simp only [hx, hrest, Option.bind_eq_bind, Option.bind_some, Option.map_some, Prod.map, id]

end

section

variable (float : UInt64 → List Char) (parse : List Char → Option UInt64)

/-- A number is written as a numeral that stands for it. -/
lemma exists_numeral {depth : ℕ} {n : Number} (h : Readable float parse depth (.number n)) :
    ∃ numeral : Numeral, numeral.WellFormed ∧ writeNumber float n = numeral.text ∧
      numeral.number parse = some n := by
  cases h with
  | posInt _ n =>
    exact ⟨.ofNat false n.toNat, Numeral.wellFormed_ofNat _ _, (Numeral.text_ofNat_false _).symm,
      Numeral.number_posInt parse n⟩
  | negInt _ n hneg =>
    exact ⟨.ofNat true (-n.toInt).toNat, Numeral.wellFormed_ofNat _ _,
      (Numeral.text_ofNat_true _).symm, Numeral.number_negInt parse n hneg⟩
  | float _ bits hsurvives => exact hsurvives

lemma readNumber_write {depth : ℕ} {n : Number} (h : Readable float parse depth (.number n))
    {rest : List Char} (hrest : Numeral.Ends rest) :
    readNumber parse (writeNumber float n ++ rest) = some (n, rest) := by
  obtain ⟨numeral, hwell, htext, hnumber⟩ := exists_numeral float parse h
  rw [htext, readNumber, hwell.readNumeral_append hrest]
  simp only [Option.bind_eq_bind, Option.bind_some, hnumber, Option.map_some]

/-- The text of a number begins with a digit or with a sign. -/
lemma writeNumber_begins {depth : ℕ} {n : Number} (h : Readable float parse depth (.number n)) :
    ∃ c rest, writeNumber float n = c :: rest ∧ (c.isDigit = true ∨ c = '-') := by
  obtain ⟨numeral, hwell, htext, -⟩ := exists_numeral float parse h
  obtain ⟨c, more, hbegins, hc⟩ := hwell.unsigned_begins
  rw [htext, Numeral.text_eq, hbegins]
  cases numeral.negative with
  | true => exact ⟨'-', _, rfl, .inr rfl⟩
  | false => exact ⟨c, _, rfl, .inl hc⟩

end

lemma readAt_number (parse : List Char → Option UInt64) (depth : ℕ) {c : Char}
    (h : c.isDigit = true ∨ c = '-') (rest : List Char) :
    readAt parse depth (c :: rest) =
      (readNumber parse (c :: rest)).map (Prod.map Value.number id) := by
  have hnot : c ≠ 'n' ∧ c ≠ 't' ∧ c ≠ 'f' ∧ c ≠ '\x22' ∧ c ≠ '[' ∧ c ≠ '\x7b' := by
    rcases h with h | rfl
    · refine ⟨?_, ?_, ?_, ?_, ?_, ?_⟩ <;> (rintro rfl; cases h)
    · decide
  rw [readAt.eq_def]
  split <;> simp_all

section

variable {float : UInt64 → List Char} {parse : List Char → Option UInt64}

lemma begins_write {depth : ℕ} {v : Value} (h : Readable float parse depth v) :
    Begins (write float v) := by
  cases v with
  | null => exact ⟨'n', _, rfl, rfl, by decide, by decide⟩
  | bool b =>
    cases b with
    | true => exact ⟨'t', _, rfl, rfl, by decide, by decide⟩
    | false => exact ⟨'f', _, rfl, rfl, by decide, by decide⟩
  | number n =>
    obtain ⟨c, rest, hwrite, hc⟩ := writeNumber_begins float parse h
    refine ⟨c, rest, hwrite, ?_, ?_, ?_⟩
    · rw [Bool.eq_false_iff]
      intro hspace
      simp only [isSpace, Bool.or_eq_true, beq_iff_eq] at hspace
      rcases hspace with ((rfl | rfl) | rfl) | rfl <;> simp at hc
    · rintro rfl
      simp at hc
    · rintro rfl
      simp at hc
  | string s => exact ⟨'\x22', _, rfl, rfl, by decide, by decide⟩
  | array items => exact ⟨'[', _, rfl, rfl, by decide, by decide⟩
  | object entries => exact ⟨'\x7b', _, rfl, rfl, by decide, by decide⟩

lemma begins_dropWhile {text : List Char} (h : Begins text) (rest : List Char) :
    (text ++ rest).dropWhile isSpace = text ++ rest := by
  obtain ⟨c, front, rfl, hc, -⟩ := h
  rw [List.cons_append, List.dropWhile_cons_of_neg (by simp [hc])]

lemma readAt_number_write {depth : ℕ} {n : Number} (hn : Readable float parse depth (.number n))
    {rest : List Char} (hrest : Numeral.Ends rest) :
    readAt parse depth (write float (.number n) ++ rest) = some (.number n, rest) := by
  obtain ⟨c, more, hwrite, hc⟩ := writeNumber_begins float parse hn
  have hread := readNumber_write float parse hn hrest
  rw [hwrite, List.cons_append] at hread
  rw [write, hwrite, List.cons_append, readAt_number parse depth hc, hread]
  rfl

lemma readMember_write {readValue : List Char → Option (Value × List Char)}
    {entry : String × Value} {rest : List Char}
    (hvalue : readValue (write float entry.2 ++ rest) = some (entry.2, rest)) :
    readMember readValue (writeMember float entry ++ rest) = some (entry, rest) := by
  have hkey := expect_writeString entry.1.toList (':' :: (write float entry.2 ++ rest))
  have hcolon : ∀ text, expect ':' (':' :: text) = some text := fun _ => rfl
  rw [writeMember, List.append_assoc, List.cons_append, readMember]
  simp only [hkey, hcolon, hvalue, readChars_flatMap, Option.bind_eq_bind, Option.bind_some,
    String.ofList_toList]

/-- Reading a value that was written, whatever follows that does not go on with a number. -/
lemma readAt_write {depth : ℕ} {v : Value} (h : Readable float parse depth v)
    (rest : List Char) (hrest : Numeral.Ends rest) :
    readAt parse depth (write float v ++ rest) = some (v, rest) := by
  induction h generalizing rest with
  | null depth => simp [write, readAt]
  | bool depth b => cases b <;> simp [write, readAt]
  | posInt depth n => exact readAt_number_write (.posInt depth n) hrest
  | negInt depth n hneg => exact readAt_number_write (.negInt depth n hneg) hrest
  | float depth bits hbits =>
    exact readAt_number_write (.float depth bits hbits) hrest
  | string depth s =>
    rw [write, writeString, List.cons_append, List.cons_append, readAt, List.append_assoc]
    have hread := readChars_flatMap s.toList rest
    rw [List.singleton_append, hread]
    simp [Prod.map]
  | @array depth items hitems ih =>
    have hitem : ∀ item ∈ items, ∀ rest, Numeral.Ends rest →
        readAt parse depth ((write float item ++ rest).dropWhile isSpace) = some (item, rest) := by
      intro item hmem rest hends
      rw [begins_dropWhile (begins_write (hitems item hmem))]
      exact ih item hmem rest hends
    have hread := readSequence_separated (fun text => readAt parse depth (text.dropWhile isSpace))
      (write float) ']' (by rfl) (by decide) (by rfl) (.inl rfl)
      (fun item hmem => begins_write (hitems item hmem)) hitem rest
    rw [write, writeItems_eq, List.cons_append, List.cons_append, readAt, List.append_assoc,
      List.singleton_append, hread]
    rfl
  | @object depth entries hentries ih =>
    have hmember : ∀ entry ∈ entries, ∀ rest, Numeral.Ends rest →
        readMember (fun text => readAt parse depth (text.dropWhile isSpace))
          (writeMember float entry ++ rest) = some (entry, rest) := by
      intro entry hentry rest hends
      apply readMember_write
      rw [begins_dropWhile (begins_write (hentries entry hentry)) rest]
      exact ih entry hentry rest hends
    have hread := readSequence_separated
      (readMember fun text => readAt parse depth (text.dropWhile isSpace)) (writeMember float)
      '\x7d' (by rfl) (by decide) (by rfl) (.inr rfl)
      (fun entry _ => ⟨'\x22', _, rfl, rfl, by decide, by decide⟩) hmember rest
    rw [write, writeEntries_eq, List.cons_append, List.cons_append, readAt, List.append_assoc,
      List.singleton_append, hread]
    rfl

/-- Reading a document that was written. -/
theorem read_write {v : Value} (h : Readable float parse maxDepth v) :
    read parse (write float v) = some v := by
  have hskip := begins_dropWhile (begins_write h) []
  have hread := readAt_write h [] (fun c hc => by cases hc)
  rw [List.append_nil] at hskip hread
  rw [read, hskip, hread]
  rfl

end

/-- The text has no control character, and no line break for that matter. -/
def Inline (text : List Char) : Prop :=
  ∀ c ∈ text, 32 ≤ c.toNat

lemma inline_append {text text' : List Char} :
    Inline (text ++ text') ↔ Inline text ∧ Inline text' := by
  simp only [Inline, List.mem_append, or_imp, forall_and]

lemma inline_cons {c : Char} {text : List Char} :
    Inline (c :: text) ↔ 32 ≤ c.toNat ∧ Inline text := by
  simp only [Inline, List.mem_cons, or_imp, forall_and, forall_eq]

lemma inline_separated {texts : List (List Char)} (h : ∀ text ∈ texts, Inline text) :
    Inline (separated texts) := by
  cases texts with
  | nil => exact fun c hc => absurd hc List.not_mem_nil
  | cons text texts =>
    apply inline_append.mpr
    refine ⟨h text List.mem_cons_self, ?_⟩
    intro c hc
    obtain ⟨text', htext', hc⟩ := List.mem_flatMap.mp hc
    rcases List.mem_cons.mp hc with rfl | hc
    · decide
    · exact h text' (List.mem_cons_of_mem _ htext') c hc

lemma inline_of_isDigit {digits : List Char} (h : ∀ c ∈ digits, c.isDigit = true) :
    Inline digits := by
  intro c hc
  have hdigit := h c hc
  rw [Char.isDigit, Bool.and_eq_true, decide_eq_true_eq, decide_eq_true_eq] at hdigit
  have hlower : 48 ≤ c.toNat := hdigit.1
  omega

lemma inline_text {numeral : Numeral} (h : numeral.WellFormed) : Inline numeral.text := by
  have hsign : Inline (if numeral.negative then ['-'] else []) := by
    cases numeral.negative <;> simp [Inline]
  have hfraction : Inline (Numeral.fractionText numeral.fraction) := by
    cases hf : numeral.fraction with
    | none => simp [Numeral.fractionText, Inline]
    | some digits =>
      exact inline_cons.mpr ⟨by decide, inline_of_isDigit (h.fraction digits hf).2⟩
  have hexponent : Inline (Numeral.exponentText numeral.exponent) := by
    cases he : numeral.exponent with
    | none => simp [Numeral.exponentText, Inline]
    | some e =>
      obtain ⟨letter, sign, digits⟩ := e
      obtain ⟨hletter, hsign, -, hdigits⟩ := h.exponent letter sign digits he
      have hsigns : Inline sign.toList := by
        cases sign with
        | none => simp [Inline]
        | some c => rcases hsign c rfl with rfl | rfl <;> simp [Inline]
      have hlower : 32 ≤ letter.toNat := by rcases hletter with rfl | rfl <;> decide
      exact inline_cons.mpr ⟨hlower, inline_append.mpr ⟨hsigns, inline_of_isDigit hdigits⟩⟩
  have hwhole := inline_of_isDigit h.whole
  exact inline_append.mpr ⟨inline_append.mpr ⟨inline_append.mpr ⟨hsign, hwhole⟩, hfraction⟩,
    hexponent⟩

lemma inline_writeNumber {float : UInt64 → List Char} {parse : List Char → Option UInt64}
    {depth : ℕ} {n : Number} (h : Readable float parse depth (.number n)) :
    Inline (writeNumber float n) := by
  obtain ⟨numeral, hwell, htext, -⟩ := exists_numeral float parse h
  rw [htext]
  exact inline_text hwell

lemma hexDigit_printable {n : ℕ} (h : n < 16) : 32 ≤ (hexDigit n).toNat := by
  interval_cases n <;> decide

lemma inline_writeChar (c : Char) : Inline (writeChar c) := by
  unfold writeChar
  cases hlookup : shortEscapes.lookup c with
  | some letter =>
    obtain ⟨before, after, hsplit, -⟩ := List.lookup_eq_some_iff.mp hlookup
    have hmem : (c, letter) ∈ shortEscapes := by simp [hsplit]
    have hletters : ∀ entry ∈ shortEscapes, 32 ≤ entry.2.toNat := by decide
    have hletter := hletters _ hmem
    intro d hd
    simp only [List.mem_cons, List.not_mem_nil, or_false] at hd
    rcases hd with rfl | rfl
    · decide
    · exact hletter
  | none =>
    simp only
    split_ifs with hcontrol
    · have hhigh := hexDigit_printable (by omega : c.toNat / 16 < 16)
      have hlow := hexDigit_printable (by omega : c.toNat % 16 < 16)
      intro d hd
      simp only [List.mem_cons, List.not_mem_nil, or_false] at hd
      rcases hd with rfl | rfl | rfl | rfl | rfl | rfl
      · decide
      · decide
      · decide
      · decide
      · exact hhigh
      · exact hlow
    · intro d hd
      rw [List.mem_singleton.mp hd]
      omega

lemma inline_writeString (chars : List Char) : Inline (writeString chars) := by
  apply inline_append.mpr
  refine ⟨inline_cons.mpr ⟨by decide, ?_⟩, fun c hc => ?_⟩
  · intro c hc
    obtain ⟨d, -, hd⟩ := List.mem_flatMap.mp hc
    exact inline_writeChar d c hd
  · rw [List.mem_singleton.mp hc]
    decide

/-- What is written of a readable document stands on one line. -/
theorem inline_write {float : UInt64 → List Char} {parse : List Char → Option UInt64} {depth : ℕ}
    {v : Value} (h : Readable float parse depth v) : Inline (write float v) := by
  have hclosed : ∀ (opening closing : Char) (texts : List (List Char)), 32 ≤ opening.toNat →
      32 ≤ closing.toNat → (∀ text ∈ texts, Inline text) →
      Inline (opening :: separated texts ++ [closing]) := by
    intro opening closing texts hopening hclosing htexts
    apply inline_append.mpr
    refine ⟨inline_cons.mpr ⟨hopening, inline_separated htexts⟩, fun c hc => ?_⟩
    rw [List.mem_singleton.mp hc]
    exact hclosing
  have hnumber : ∀ (depth : ℕ) (n : Number), Readable float parse depth (.number n) →
      Inline (writeNumber float n) := fun _ _ hn => inline_writeNumber hn
  induction h with
  | null depth => simp [write, Inline]
  | bool depth b => cases b <;> simp [write, Inline]
  | posInt depth n => exact hnumber depth _ (.posInt depth n)
  | negInt depth n hneg => exact hnumber depth _ (.negInt depth n hneg)
  | float depth bits hbits => exact hnumber depth _ (.float depth bits hbits)
  | string depth s => exact inline_writeString _
  | @array depth items hitems ih =>
    rw [write, writeItems_eq]
    apply hclosed _ _ _ (by decide) (by decide)
    intro text htext
    obtain ⟨item, hitem, rfl⟩ := List.mem_map.mp htext
    exact ih item hitem
  | @object depth entries hentries ih =>
    rw [write, writeEntries_eq]
    apply hclosed _ _ _ (by decide) (by decide)
    intro text htext
    obtain ⟨entry, hentry, rfl⟩ := List.mem_map.mp htext
    apply inline_append.mpr
    exact ⟨inline_writeString _, inline_cons.mpr ⟨by decide, ih entry hentry⟩⟩

end Document
end Lib
