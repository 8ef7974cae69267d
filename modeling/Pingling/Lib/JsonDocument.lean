import Pingling.Lib.JsonCompact

/-!
# Carrying values in a JSON text

Documents are a wire format, so every type that travels in a wire format has a text. A document
keeps the order of its entries and does not repeat a key. A value is read from it as a map reads
it, in the order of the keys.
-/

namespace Lib

namespace Value

mutual

/-- The value with the entries of its objects in the order of their keys. -/
def canonical : Value → Value
  | .array items => .array (canonicalItems items)
  | .object entries => (json (canonicalEntries entries)).toValue
  | v => v

def canonicalItems : List Value → List Value
  | [] => []
  | item :: items => canonical item :: canonicalItems items

def canonicalEntries : List (String × Value) → List (String × Value)
  | [] => []
  | (key, value) :: entries => (key, canonical value) :: canonicalEntries entries

end

/-- Every object in the value lists its entries in the order of their keys. -/
inductive Sorted : Value → Prop
  | null : Sorted .null
  | bool (b : Bool) : Sorted (.bool b)
  | number (n : Number) : Sorted (.number n)
  | string (s : String) : Sorted (.string s)
  | array {items : List Value} (h : ∀ item ∈ items, Sorted item) : Sorted (.array items)
  | object {entries : List (String × Value)} (hkeys : entries.Pairwise (fun a b => a.1 < b.1))
    (h : ∀ entry ∈ entries, Sorted entry.2) : Sorted (.object entries)

end Value

lemma insertEntry_last {key : String} {value : Value} {entries : List (String × Value)}
    (h : ∀ entry ∈ entries, entry.1 < key) :
    insertEntry key value entries = entries ++ [(key, value)] := by
  induction entries with
  | nil => rfl
  | cons entry entries ih =>
    have hlt := h entry List.mem_cons_self
    have ih := ih fun entry hentry => h entry (List.mem_cons_of_mem _ hentry)
    rw [insertEntry, if_neg (not_lt.mpr hlt.le), if_neg (ne_of_gt hlt), ih, List.cons_append]

lemma json_of_sorted {entries : List (String × Value)}
    (h : entries.Pairwise (fun a b => a.1 < b.1)) : (json entries).entries = entries := by
  suffices hfold : ∀ o : Object, (∀ e ∈ o.entries, ∀ e' ∈ entries, e.1 < e'.1) →
      (entries.foldl (fun o entry => o.insert entry.1 entry.2) o).entries =
        o.entries ++ entries from
    hfold .empty fun e he => absurd he List.not_mem_nil
  induction entries with
  | nil => exact fun o _ => (List.append_nil _).symm
  | cons entry entries ih =>
    intro o ho
    have hinsert : (o.insert entry.1 entry.2).entries = o.entries ++ [entry] :=
      insertEntry_last fun e he => ho e he entry List.mem_cons_self
    have hnext : ∀ e ∈ (o.insert entry.1 entry.2).entries, ∀ e' ∈ entries, e.1 < e'.1 := by
      intro e he e' he'
      rw [hinsert, List.mem_append, List.mem_singleton] at he
      rcases he with he | rfl
      · exact ho e he e' (List.mem_cons_of_mem _ he')
      · exact List.rel_of_pairwise_cons h he'
    rw [List.foldl_cons, ih h.of_cons _ hnext, hinsert, List.append_assoc, List.singleton_append]

namespace Value

lemma canonicalItems_eq (items : List Value) : canonicalItems items = items.map canonical := by
  induction items with
  | nil => rfl
  | cons item items ih => rw [canonicalItems, ih, List.map_cons]

lemma canonicalEntries_eq (entries : List (String × Value)) :
    canonicalEntries entries = entries.map (Prod.map id canonical) := by
  induction entries with
  | nil => rfl
  | cons entry entries ih =>
    rw [canonicalEntries, ih, List.map_cons]
    rfl

lemma canonical_of_sorted {v : Value} (h : Sorted v) : canonical v = v := by
  induction h with
  | null => rfl
  | bool b => rfl
  | number n => rfl
  | string s => rfl
  | @array items hitems ih =>
    rw [canonical, canonicalItems_eq, List.map_congr_left ih, List.map_id']
  | @object entries hkeys hentries ih =>
    have hmap : canonicalEntries entries = entries := by
      rw [canonicalEntries_eq, List.map_congr_left (g := id), List.map_id]
      intro entry hentry
      rw [Prod.map, ih entry hentry]
      rfl
    rw [canonical, hmap, Object.toValue, json_of_sorted hkeys]

lemma lookup_canonicalEntries (entries : List (String × Value)) (name : String) :
    (canonicalEntries entries).lookup name = (entries.lookup name).map canonical := by
  induction entries with
  | nil => rfl
  | cons entry entries ih =>
    obtain ⟨key, value⟩ := entry
    rw [canonicalEntries, lookup_cons_eq, lookup_cons_eq, ih]
    split_ifs <;> rfl

/-- The fields of an object without repetitions, when it is read as a map. -/
lemma lookup_canonical {entries : List (String × Value)} (h : (entries.map Prod.fst).Nodup)
    (name : String) :
    (json (canonicalEntries entries)).entries.lookup name =
      (entries.lookup name).map canonical := by
  have hkeys : ((canonicalEntries entries).map Prod.fst).Nodup := by
    rw [canonicalEntries_eq, List.map_map]
    exact h
  rw [lookup_perm hkeys (entries_json_perm hkeys), lookup_canonicalEntries]

/-- The map of an object without repetitions has its fields. -/
lemma read_map {entries : List (String × Value)} (h : (entries.map Prod.fst).Nodup) :
    ∃ m : BTreeMap String Value, Wire.read (V := Value) (canonical (.object entries)) = some m ∧
      ∀ name, m[name]? = (entries.lookup name).map canonical := by
  let found := (json (canonicalEntries entries)).entries
  have hread : found.mapM (fun entry : String × Value => (Wire.read (V := Value) entry.2).map
      (Prod.mk entry.1)) = some found := by
    rw [mapM_eq_some_filterMap fun entry _ => rfl]
    exact congrArg some List.filterMap_some
  have hdistinct : found.Pairwise (fun a b => ¬compare a.1 b.1 = .eq) :=
    (json (canonicalEntries entries)).sorted.imp fun hlt heq =>
      hlt.ne (Std.LawfulEqCmp.eq_of_compare heq)
  refine ⟨Std.ExtTreeMap.ofList found, ?_, fun name => ?_⟩
  · change (found.mapM fun entry : String × Value => (Wire.read (V := Value) entry.2).map
      (Prod.mk entry.1)).bind _ = _
    rw [hread]
    rfl
  · rw [← lookup_canonical h]
    change _ = found.lookup name
    cases hlookup : found.lookup name with
    | some value =>
      exact Std.ExtTreeMap.getElem?_ofList_of_mem Std.ReflCmp.compare_self hdistinct
        (mem_of_lookup_eq_some hlookup)
    | none =>
      apply Std.ExtTreeMap.getElem?_ofList_of_contains_eq_false
      rw [List.contains_eq_mem, decide_eq_false_iff_not, List.mem_map]
      rintro ⟨entry, hentry, rfl⟩
      have hne := List.lookup_eq_none_iff.mp hlookup entry hentry
      exact absurd rfl (bne_iff_ne.mp hne)

end Value

namespace Document

/-- The entries of an object that does not repeat a key. -/
def entries? : Value → Option (List (String × Value))
  | .object es => if (es.map Prod.fst).Nodup then some es else none
  | _ => none

instance : WireFormat Document where
  null := Value.null
  bool := Value.bool
  number := Value.number
  string := Value.string
  array := Value.array
  record := Value.object
  isNull := WireFormat.isNull (V := Value)
  asBool := WireFormat.asBool (V := Value)
  asNumber := WireFormat.asNumber (V := Value)
  asString := WireFormat.asString (V := Value)
  asArray := WireFormat.asArray (V := Value)
  entries := entries?
  isNull_null := rfl
  isNull_bool _ := rfl
  isNull_number _ := rfl
  isNull_string _ := rfl
  isNull_array _ := rfl
  isNull_record _ := rfl
  asBool_bool _ := rfl
  asNumber_number _ := rfl
  asString_string _ := rfl
  asArray_array _ := rfl
  entries_record es h := ⟨es, if_pos h, .refl _⟩

/-- A value is written as it stands, and read in the order of the keys. -/
instance : Wire Document Value where
  write v := v
  read v := some (Value.canonical v)

/-- A text that may be null reads back. -/
@[simp] lemma nullable_writeOrNull_string (text : Option String) :
    nullable (some (writeOrNull text : Document)) = some text := by
  rw [nullable_writeOrNull]
  cases text <;> simp

section

variable {float : UInt64 → List Char} {parse : List Char → Option UInt64}

/-- A record is readable when the fields that are written are. -/
lemma readable_record {depth : ℕ} {fields : List (String × Option Document)}
    (h : ∀ field ∈ fields, ∀ v, field.2 = some v → Readable float parse depth v) :
    Readable float parse (depth + 1) (WireFormat.record (present fields) : Document) := by
  apply Readable.object
  intro entry hentry
  obtain ⟨field, hfield, hentry⟩ := List.mem_filterMap.mp hentry
  obtain ⟨v, hv, rfl⟩ := Option.map_eq_some_iff.mp hentry
  exact h field hfield v hv

lemma readable_ofInt (depth : ℕ) {i : ℤ} (hlower : -2 ^ 63 ≤ i) :
    Readable float parse depth (.number (.ofInt i)) := by
  unfold Number.ofInt
  split_ifs with hneg
  · apply Readable.negInt
    rw [Int64.lt_iff_toInt_lt, Int64.toInt_ofInt_of_le (by omega) (by omega)]
    exact hneg
  · exact .posInt depth _

lemma readable_write_int {α : Type} [MachineInt α] (depth : ℕ) (n : α) :
    Readable float parse depth (Wire.write n : Document) :=
  readable_ofInt depth (MachineInt.lower n)

lemma readable_write_string (depth : ℕ) (s : String) :
    Readable float parse depth (Wire.write s : Document) :=
  .string depth s

lemma readable_writeOrNull_string (depth : ℕ) (s : Option String) :
    Readable float parse depth (writeOrNull s : Document) := by
  cases s <;> constructor

end

section

variable {α : Type} [Wire Document α]

/-- `serde_json::to_vec`, as text. -/
def toText (float : UInt64 → List Char) (a : α) : List Char :=
  write float (Wire.write a : Document)

/-- `serde_json::from_slice`, of a text. -/
def fromText (parse : List Char → Option UInt64) (text : List Char) : Option α :=
  (read parse text).bind fun v => Wire.read (show Document from v)

variable {float : UInt64 → List Char} {parse : List Char → Option UInt64}

lemma fromText_toText_eq {a : α}
    (h : Readable float parse maxDepth (Wire.write a : Document)) :
    fromText parse (toText float a) = Wire.read (α := α) (Wire.write a : Document) := by
  rw [fromText, toText, read_write h]
  rfl

/-- A type that travels without loss does so in a text. -/
theorem fromText_toText [LosslessWire Document α] {a : α}
    (h : Readable float parse maxDepth (Wire.write a : Document)) :
    fromText parse (toText float a) = some a := by
  rw [fromText_toText_eq h, LosslessWire.read_write]

end

end Document
end Lib
