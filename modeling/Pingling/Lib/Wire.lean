import Pingling.Lib.JsonObject
import Pingling.Lib.Yaml

/-!
# Carrying values in a wire format

A wire format has null, switches, numbers, texts, sequences and records. A type travels in
it through a writer and a reader, and travels without loss when the reader undoes the
writer. JSON and YAML are such formats.
-/

namespace Lib
open Std

class WireFormat (V : Type) where
  null : V
  bool : Bool → V
  number : Number → V
  string : String → V
  array : List V → V
  record : List (String × V) → V
  isNull : V → Bool
  asBool : V → Option Bool
  asNumber : V → Option Number
  asString : V → Option String
  asArray : V → Option (List V)
  entries : V → Option (List (String × V))
  isNull_null : isNull null = true
  isNull_bool : ∀ b, isNull (bool b) = false
  isNull_number : ∀ n, isNull (number n) = false
  isNull_string : ∀ s, isNull (string s) = false
  isNull_array : ∀ items, isNull (array items) = false
  isNull_record : ∀ es, isNull (record es) = false
  asBool_bool : ∀ b, asBool (bool b) = some b
  asNumber_number : ∀ n, asNumber (number n) = some n
  asString_string : ∀ s, asString (string s) = some s
  asArray_array : ∀ items, asArray (array items) = some items
  /-- A record keeps its entries, in some order. -/
  entries_record : ∀ es, (es.map Prod.fst).Nodup →
    ∃ es', entries (record es) = some es' ∧ es'.Perm es

/-- How a type is written in a format, and read back. -/
class Wire (V α : Type) where
  write : α → V
  read : V → Option α

/-- Reading undoes writing. -/
class LosslessWire (V α : Type) [Wire V α] : Prop where
  read_write : ∀ a : α, Wire.read (Wire.write a : V) = some a

/-- Nothing is written as null. -/
class NonNullWire (V α : Type) [WireFormat V] [Wire V α] : Prop where
  isNull_write : ∀ a : α, WireFormat.isNull (Wire.write a : V) = false

attribute [simp] WireFormat.isNull_null WireFormat.asBool_bool WireFormat.asNumber_number
  WireFormat.asString_string WireFormat.asArray_array LosslessWire.read_write
  NonNullWire.isNull_write

lemma mem_of_lookup_eq_some {κ β : Type} [BEq κ] [LawfulBEq κ] {es : List (κ × β)} {k : κ}
    {v : β} (h : es.lookup k = some v) : (k, v) ∈ es := by
  induction es with
  | nil => cases h
  | cons e es ih =>
    rw [List.lookup_cons] at h
    split at h
    · rename_i hk
      rw [beq_iff_eq] at hk
      rw [← Option.some.inj h, hk]
      exact List.mem_cons_self
    · exact List.mem_cons_of_mem _ (ih h)

lemma lookup_eq_some_of_mem {κ β : Type} [BEq κ] [LawfulBEq κ] {es : List (κ × β)} {k : κ}
    {v : β} (hnodup : (es.map Prod.fst).Nodup) (h : (k, v) ∈ es) : es.lookup k = some v := by
  induction es with
  | nil => cases h
  | cons e es ih =>
    rw [List.map_cons, List.nodup_cons] at hnodup
    rw [List.lookup_cons]
    rcases List.mem_cons.mp h with rfl | h
    · rw [beq_self_eq_true]
    · have hne : (k == e.1) = false := by
        rw [beq_eq_false_iff_ne]
        rintro rfl
        exact hnodup.1 (List.mem_map.mpr ⟨_, h, rfl⟩)
      rw [hne]
      exact ih hnodup.2 h

/-- With distinct keys the order of the entries does not matter to a lookup. -/
lemma lookup_perm {κ β : Type} [BEq κ] [LawfulBEq κ] {es es' : List (κ × β)}
    (hnodup : (es.map Prod.fst).Nodup) (h : es'.Perm es) (k : κ) :
    es'.lookup k = es.lookup k := by
  have hnodup' : (es'.map Prod.fst).Nodup := (h.map Prod.fst).nodup_iff.mpr hnodup
  apply Option.ext
  intro v
  constructor
  · intro hv
    exact lookup_eq_some_of_mem hnodup (h.mem_iff.mp (mem_of_lookup_eq_some hv))
  · intro hv
    exact lookup_eq_some_of_mem hnodup' (h.mem_iff.mpr (mem_of_lookup_eq_some hv))

namespace Number

def toInt? : Number → Option ℤ
  | posInt n => some n.toNat
  | negInt n => some n.toInt
  | float _ => none

def ofInt (i : ℤ) : Number :=
  if i < 0 then .negInt (Int64.ofInt i) else .posInt (UInt64.ofNat i.toNat)

lemma toInt?_ofInt {i : ℤ} (hlower : -2 ^ 63 ≤ i) (hupper : i < 2 ^ 64) :
    (ofInt i).toInt? = some i := by
  unfold ofInt
  split_ifs with hneg
  · rw [toInt?, Int64.toInt_ofInt_of_le (by omega) (by omega)]
  · have hsize : i.toNat < UInt64.size := by
      rw [UInt64.size]
      omega
    rw [toInt?, UInt64.toNat_ofNat_of_lt' hsize]
    congr 1
    omega

end Number

/-- A machine integer of at most 64 bits. -/
class MachineInt (α : Type) where
  toInt : α → ℤ
  ofInt? : ℤ → Option α
  lower : ∀ a, -2 ^ 63 ≤ toInt a
  upper : ∀ a, toInt a < 2 ^ 64
  ofInt?_toInt : ∀ a, ofInt? (toInt a) = some a

namespace MachineInt

instance : MachineInt UInt8 where
  toInt n := n.toNat
  ofInt? i := if 0 ≤ i ∧ i < 2 ^ 8 then some (UInt8.ofNat i.toNat) else none
  lower n := by omega
  upper n := by have := n.toNat_lt; omega
  ofInt?_toInt n := by have := n.toNat_lt; rw [if_pos (by omega)]; simp

instance : MachineInt UInt16 where
  toInt n := n.toNat
  ofInt? i := if 0 ≤ i ∧ i < 2 ^ 16 then some (UInt16.ofNat i.toNat) else none
  lower n := by omega
  upper n := by have := n.toNat_lt; omega
  ofInt?_toInt n := by have := n.toNat_lt; rw [if_pos (by omega)]; simp

instance : MachineInt UInt32 where
  toInt n := n.toNat
  ofInt? i := if 0 ≤ i ∧ i < 2 ^ 32 then some (UInt32.ofNat i.toNat) else none
  lower n := by omega
  upper n := by have := n.toNat_lt; omega
  ofInt?_toInt n := by have := n.toNat_lt; rw [if_pos (by omega)]; simp

instance : MachineInt UInt64 where
  toInt n := n.toNat
  ofInt? i := if 0 ≤ i ∧ i < 2 ^ 64 then some (UInt64.ofNat i.toNat) else none
  lower n := by omega
  upper n := by have := n.toNat_lt; omega
  ofInt?_toInt n := by have := n.toNat_lt; rw [if_pos (by omega)]; simp

instance : MachineInt Int32 where
  toInt n := n.toInt
  ofInt? i := if -2 ^ 31 ≤ i ∧ i < 2 ^ 31 then some (Int32.ofInt i) else none
  lower n := by have := n.le_toInt; omega
  upper n := by have := n.toInt_lt; omega
  ofInt?_toInt n := by
    have := n.le_toInt
    have := n.toInt_lt
    rw [if_pos (by omega), Int32.ofInt_toInt]

instance : MachineInt Int64 where
  toInt n := n.toInt
  ofInt? i := if -2 ^ 63 ≤ i ∧ i < 2 ^ 63 then some (Int64.ofInt i) else none
  lower n := n.le_toInt
  upper n := by have := n.toInt_lt; omega
  ofInt?_toInt n := by
    have := n.le_toInt
    have := n.toInt_lt
    rw [if_pos (by omega), Int64.ofInt_toInt]

end MachineInt

/-- An enumeration whose members are known by their names. -/
class WireEnum (α : Type) where
  name : α → String
  ofName? : String → Option α
  ofName?_name : ∀ a, ofName? (name a) = some a

section

variable {V : Type} [WireFormat V] {α : Type}
open WireFormat

instance : Wire V Bool := ⟨bool, asBool⟩

instance : LosslessWire V Bool := ⟨asBool_bool⟩

instance : NonNullWire V Bool := ⟨isNull_bool⟩

instance : Wire V String := ⟨string, asString⟩

instance : LosslessWire V String := ⟨asString_string⟩

instance : NonNullWire V String := ⟨isNull_string⟩

instance [MachineInt α] : Wire V α where
  write n := number (.ofInt (MachineInt.toInt n))
  read v := ((asNumber v).bind Number.toInt?).bind MachineInt.ofInt?

instance [MachineInt α] : LosslessWire V α where
  read_write n := by
    simp [Wire.read, Wire.write, Number.toInt?_ofInt (MachineInt.lower n) (MachineInt.upper n),
      MachineInt.ofInt?_toInt]

instance [MachineInt α] : NonNullWire V α := ⟨fun _ => isNull_number _⟩

/-- A member is written as its name; a record of the name alone, without a value, is read as
the member too. -/
instance [WireEnum α] : Wire V α where
  write a := string (WireEnum.name a)
  read v :=
    match asString v with
    | some name => WireEnum.ofName? name
    | none =>
      match entries v with
      | some [(name, value)] => if isNull value then WireEnum.ofName? name else none
      | _ => none

instance [WireEnum α] : LosslessWire V α where
  read_write a := by simp [Wire.read, Wire.write, WireEnum.ofName?_name]

instance [WireEnum α] : NonNullWire V α := ⟨fun _ => isNull_string _⟩

instance [Wire V α] : Wire V (List α) where
  write items := array (items.map Wire.write)
  read v := (asArray v).bind (·.mapM Wire.read)

lemma mapM_map_eq_some_map {β γ δ : Type} {f : β → γ} {g : γ → Option δ} {k : β → δ}
    {xs : List β} (h : ∀ x ∈ xs, g (f x) = some (k x)) :
    (xs.map f).mapM g = some (xs.map k) := by
  induction xs with
  | nil => rfl
  | cons x xs ih =>
    rw [List.map_cons, List.mapM_cons, h x List.mem_cons_self,
      ih (fun y hy => h y (List.mem_cons_of_mem _ hy))]
    rfl

lemma mapM_map_eq_some {β γ : Type} {f : β → γ} {g : γ → Option β} {xs : List β}
    (h : ∀ x ∈ xs, g (f x) = some x) : (xs.map f).mapM g = some xs := by
  rw [mapM_map_eq_some_map h, List.map_id']

/-- A sequence keeps of its items what is kept of each. -/
lemma read_write_list [Wire V α] {kept : α → α}
    (h : ∀ a, Wire.read (Wire.write a : V) = some (kept a)) (items : List α) :
    Wire.read (Wire.write items : V) = some (items.map kept) := by
  simp only [Wire.read, Wire.write, asArray_array, Option.bind_some]
  exact mapM_map_eq_some_map fun a _ => h a

instance [Wire V α] [LosslessWire V α] : LosslessWire V (List α) where
  read_write items := by
    simp only [Wire.read, Wire.write, asArray_array, Option.bind_some]
    exact mapM_map_eq_some (fun x _ => LosslessWire.read_write x)

instance [Wire V α] : NonNullWire V (List α) := ⟨fun _ => isNull_array _⟩

/-- A map is a record whose keys are its own; where a key is repeated the last one counts. -/
instance [Wire V α] : Wire V (ExtTreeMap String α) where
  write m := record (m.toList.map fun entry => (entry.1, Wire.write entry.2))
  read v := do
    let found ← entries v
    let read ← found.mapM fun entry => (Wire.read entry.2).map (Prod.mk entry.1)
    some (ExtTreeMap.ofList read)

/-- Reading the entries of a map in any order gives the map. -/
lemma ofList_eq_of_perm {m : ExtTreeMap String α} {es : List (String × α)}
    (h : es.Perm m.toList) : ExtTreeMap.ofList es = m := by
  have hdistinct : es.Pairwise (fun a b => ¬compare a.1 b.1 = .eq) :=
    (h.pairwise_iff fun hab hba => hab (OrientedCmp.eq_symm hba)).mpr
      ExtTreeMap.distinct_keys_toList
  apply ExtTreeMap.ext_getElem?
  intro k
  cases hk : m[k]? with
  | some v =>
    have hmem : (k, v) ∈ es := h.mem_iff.mpr (ExtTreeMap.mem_toList_iff_getElem?_eq_some.mpr hk)
    exact ExtTreeMap.getElem?_ofList_of_mem (ReflCmp.compare_self) hdistinct hmem
  | none =>
    apply ExtTreeMap.getElem?_ofList_of_contains_eq_false
    rw [List.contains_eq_mem, decide_eq_false_iff_not, List.mem_map]
    rintro ⟨⟨k', v⟩, hmem, rfl⟩
    have hsome := ExtTreeMap.mem_toList_iff_getElem?_eq_some.mp (h.mem_iff.mp hmem)
    rw [hk] at hsome
    cases hsome

lemma mapM_eq_some_filterMap {β γ : Type} {g : γ → Option β} {xs : List γ}
    (h : ∀ x ∈ xs, (g x).isSome = true) : xs.mapM g = some (xs.filterMap g) := by
  induction xs with
  | nil => rfl
  | cons x xs ih =>
    obtain ⟨y, hy⟩ := Option.isSome_iff_exists.mp (h x List.mem_cons_self)
    rw [List.mapM_cons, hy, ih (fun y hy => h y (List.mem_cons_of_mem _ hy)),
      List.filterMap_cons_some hy]
    rfl

lemma toList_keys_nodup (m : ExtTreeMap String α) : (m.toList.map Prod.fst).Nodup := by
  rw [ExtTreeMap.map_fst_toList_eq_keys]
  exact ExtTreeMap.nodup_keys

instance [Wire V α] [LosslessWire V α] : LosslessWire V (ExtTreeMap String α) where
  read_write m := by
    let write (entry : String × α) : String × V := (entry.1, Wire.write entry.2)
    let read (entry : String × V) : Option (String × α) :=
      (Wire.read entry.2).map (Prod.mk entry.1)
    have hread : ∀ entry, read (write entry) = some entry := by
      intro entry
      simp [read, write]
    have hnodup : ((m.toList.map write).map Prod.fst).Nodup := by
      rw [List.map_map]
      exact toList_keys_nodup m
    obtain ⟨es, hes, hperm⟩ := entries_record (V := V) _ hnodup
    have hsome : ∀ entry ∈ es, (read entry).isSome = true := by
      intro entry hentry
      obtain ⟨entry', -, rfl⟩ := List.mem_map.mp (hperm.mem_iff.mp hentry)
      rw [hread, Option.isSome_some]
    have hfound : (es.filterMap read).Perm m.toList := by
      have hback : (m.toList.map write).filterMap read = m.toList := by
        have hcomp : read ∘ write = some := funext hread
        rw [List.filterMap_map, hcomp, List.filterMap_some]
      exact hback ▸ hperm.filterMap read
    have hrun : es.mapM read = some (es.filterMap read) := mapM_eq_some_filterMap hsome
    change (do
      let found ← entries (record (m.toList.map write) : V)
      let read ← found.mapM read
      some (ExtTreeMap.ofList read)) = some m
    rw [hes]
    simp only [Option.bind_eq_bind, Option.bind_some, hrun, ofList_eq_of_perm hfound]

instance [Wire V α] : NonNullWire V (ExtTreeMap String α) := ⟨fun _ => isNull_record _⟩

end

lemma perm_insertEntry {key : String} {value : Value} {entries : List (String × Value)}
    (h : key ∉ entries.map Prod.fst) :
    (insertEntry key value entries).Perm ((key, value) :: entries) := by
  induction entries with
  | nil => exact .refl _
  | cons entry entries ih =>
    rw [List.map_cons, List.mem_cons, not_or] at h
    unfold insertEntry
    rw [if_neg h.1]
    split_ifs
    · exact .refl _
    · exact ((ih h.2).cons entry).trans (.swap _ _ _)

lemma entries_json_perm {es : List (String × Value)} (h : (es.map Prod.fst).Nodup) :
    (json es).entries.Perm es := by
  suffices hfold : ∀ o : Object, (∀ e ∈ es, e.1 ∉ o.entries.map Prod.fst) →
      (es.foldl (fun o entry => o.insert entry.1 entry.2) o).entries.Perm (o.entries ++ es) from
    hfold .empty (fun _ _ => List.not_mem_nil)
  induction es with
  | nil => exact fun o _ => by simp
  | cons e es ih =>
    intro o ho
    rw [List.map_cons, List.nodup_cons] at h
    have hperm : (o.insert e.1 e.2).entries.Perm (e :: o.entries) :=
      perm_insertEntry (ho e List.mem_cons_self)
    have hrest : ∀ e' ∈ es, e'.1 ∉ (o.insert e.1 e.2).entries.map Prod.fst := by
      intro e' he' hmem
      rcases List.mem_cons.mp ((hperm.map Prod.fst).mem_iff.mp hmem) with heq | hmem
      · exact h.1 (heq ▸ List.mem_map_of_mem he')
      · exact ho e' (List.mem_cons_of_mem _ he') hmem
    refine (ih h.2 _ hrest).trans ?_
    exact (hperm.append_right es).trans List.perm_middle.symm

instance : WireFormat Value where
  null := .null
  bool := .bool
  number := .number
  string := .string
  array := .array
  record es := (json es).toValue
  isNull v := match v with | .null => true | _ => false
  asBool v := match v with | .bool b => some b | _ => none
  asNumber v := match v with | .number n => some n | _ => none
  asString v := match v with | .string s => some s | _ => none
  asArray v := match v with | .array items => some items | _ => none
  entries v := match v with | .object es => some es | _ => none
  isNull_null := rfl
  isNull_bool _ := rfl
  isNull_number _ := rfl
  isNull_string _ := rfl
  isNull_array _ := rfl
  isNull_record _ := rfl
  asBool_bool _ := rfl
  asNumber_number _ := rfl
  asString_string _ := rfl
  asArray_array _ := rfl
  entries_record es h := ⟨(json es).entries, rfl, entries_json_perm h⟩

/-- A value of the format itself travels as it is. -/
instance : Wire Value Value := ⟨id, some⟩

instance : LosslessWire Value Value := ⟨fun _ => rfl⟩

namespace YamlValue

def key? : YamlValue × YamlValue → Option (String × YamlValue)
  | (.string key, value) => some (key, value)
  | _ => none

end YamlValue

instance : WireFormat YamlValue where
  null := .null
  bool := .bool
  number := .number
  string := .string
  array := .sequence
  record es := .mapping (es.map fun entry => (.string entry.1, entry.2))
  isNull v := match v with | .null => true | _ => false
  asBool v := match v with | .bool b => some b | _ => none
  asNumber v := match v with | .number n => some n | _ => none
  asString v := match v with | .string s => some s | _ => none
  asArray v := match v with | .sequence items => some items | _ => none
  entries v := match v with | .mapping es => es.mapM YamlValue.key? | _ => none
  isNull_null := rfl
  isNull_bool _ := rfl
  isNull_number _ := rfl
  isNull_string _ := rfl
  isNull_array _ := rfl
  isNull_record _ := rfl
  asBool_bool _ := rfl
  asNumber_number _ := rfl
  asString_string _ := rfl
  asArray_array _ := rfl
  entries_record es _ := ⟨es, mapM_map_eq_some (fun _ _ => rfl), .refl _⟩

instance : Wire YamlValue YamlValue := ⟨id, some⟩

instance : LosslessWire YamlValue YamlValue := ⟨fun _ => rfl⟩

end Lib
