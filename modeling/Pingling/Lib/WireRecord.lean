import Pingling.Lib.Wire

/-!
# Records in a wire format

A record type says which fields it writes, some of them only if they are present, and how
it is built from the fields that are found. A field may be required, have a default, be
missing or null, or go by two names.
-/

namespace Lib
open Std

section

variable {V α : Type}

/-- The value of a field, if the field was written. -/
def fieldValue (fields : List (String × Option V)) (key : String) : Option V :=
  (fields.lookup key).join

/-- The fields that are written. -/
def present (fields : List (String × Option V)) : List (String × V) :=
  fields.filterMap fun field => field.2.map (Prod.mk field.1)

@[simp] lemma fieldValue_nil (key : String) :
    fieldValue ([] : List (String × Option V)) key = none :=
  rfl

@[simp] lemma fieldValue_cons (name key : String) (v : Option V)
    (fields : List (String × Option V)) :
    fieldValue ((name, v) :: fields) key = if key = name then v else fieldValue fields key := by
  unfold fieldValue
  rw [List.lookup_cons]
  by_cases h : key = name
  · rw [if_pos h, beq_iff_eq.mpr h]
    rfl
  · rw [if_neg h, beq_eq_false_iff_ne.mpr h]

lemma present_keys_sublist (fields : List (String × Option V)) :
    ((present fields).map Prod.fst).Sublist (fields.map Prod.fst) := by
  induction fields with
  | nil => exact .slnil
  | cons field fields ih =>
    obtain ⟨name, v⟩ := field
    cases v with
    | none => exact ih.cons _
    | some v => exact ih.cons_cons _

lemma lookup_present {fields : List (String × Option V)} (h : (fields.map Prod.fst).Nodup)
    (key : String) : (present fields).lookup key = fieldValue fields key := by
  induction fields with
  | nil => rfl
  | cons field fields ih =>
    obtain ⟨name, v⟩ := field
    rw [List.map_cons, List.nodup_cons] at h
    have ih := ih h.2
    rw [fieldValue_cons]
    by_cases hkey : key = name
    · rw [if_pos hkey]
      cases v with
      | none =>
        have habsent : name ∉ (present fields).map Prod.fst :=
          fun hmem => h.1 ((present_keys_sublist fields).subset hmem)
        rw [hkey]
        change (present fields).lookup name = none
        rw [List.lookup_eq_none_iff]
        intro entry hentry
        rw [bne_iff_ne]
        rintro rfl
        exact habsent (List.mem_map_of_mem hentry)
      | some v =>
        change ((name, v) :: present fields).lookup key = some v
        rw [List.lookup_cons, beq_iff_eq.mpr hkey]
    · rw [if_neg hkey]
      cases v with
      | none => exact ih
      | some v =>
        change ((name, v) :: present fields).lookup key = fieldValue fields key
        rw [List.lookup_cons, beq_eq_false_iff_ne.mpr hkey]
        exact ih

/-- The fields that a type writes, and how it is built from the fields that are found. -/
class WireRecord (V α : Type) where
  fields : α → List (String × Option V)
  keys_nodup : ∀ a, ((fields a).map Prod.fst).Nodup
  build : (String → Option V) → Option α

/-- What is built from the fields of a value is the value. -/
class LosslessRecord (V α : Type) [WireRecord V α] : Prop where
  build_fields : ∀ a : α,
    WireRecord.build (fieldValue (WireRecord.fields a : List (String × Option V))) = some a

variable [WireFormat V] [WireRecord V α]
open WireFormat WireRecord

instance : Wire V α where
  write a := record (present (fields a))
  read v := (entries v).bind fun es => build fun key => es.lookup key

/-- A written record has its fields, whatever order the format keeps. -/
lemma entries_write (a : α) :
    ∃ es, entries (Wire.write a : V) = some es ∧
      (fun key => es.lookup key) = fieldValue (fields a : List (String × Option V)) := by
  have hnodup : ((present (fields a : List (String × Option V))).map Prod.fst).Nodup :=
    (keys_nodup a).sublist (present_keys_sublist _)
  obtain ⟨es, hes, hperm⟩ := entries_record (V := V) _ hnodup
  refine ⟨es, hes, ?_⟩
  funext key
  rw [lookup_perm hnodup hperm, lookup_present (keys_nodup a)]

/-- Reading a written record builds it from its fields. -/
theorem read_write_record (a : α) :
    Wire.read (α := α) (Wire.write a : V) =
      build (fieldValue (fields a : List (String × Option V))) := by
  obtain ⟨es, hes, hlookup⟩ := entries_write (V := V) a
  change (entries (Wire.write a : V)).bind (fun es => build fun key => es.lookup key) = _
  rw [hes, Option.bind_some, hlookup]

lemma lookup_entries_write (a : α) (key : String) :
    (entries (Wire.write a : V)).bind (·.lookup key) =
      fieldValue (fields a : List (String × Option V)) key := by
  obtain ⟨es, hes, hlookup⟩ := entries_write (V := V) a
  rw [hes, Option.bind_some]
  exact congrFun hlookup key

instance [LosslessRecord V α] : LosslessWire V α where
  read_write a := by rw [read_write_record, LosslessRecord.build_fields]

instance : NonNullWire V α := ⟨fun _ => isNull_record _⟩

end

/-- What is found beside the tag of a record. -/
def besideTag {V : Type} (tag : String) (get : String → Option V) (key : String) : Option V :=
  if key = tag then none else get key

lemma besideTag_fieldValue {V : Type} {tag : String} {v : Option V}
    {fields : List (String × Option V)} (h : (((tag, v) :: fields).map Prod.fst).Nodup) :
    besideTag tag (fieldValue ((tag, v) :: fields)) = fieldValue fields := by
  rw [List.map_cons, List.nodup_cons] at h
  funext key
  rw [besideTag, fieldValue_cons]
  by_cases hkey : key = tag
  · rw [if_pos hkey, hkey, fieldValue, List.lookup_eq_none_iff.mpr]
    · rfl
    · intro field hfield
      rw [bne_iff_ne]
      rintro rfl
      exact h.1 (List.mem_map.mpr ⟨field, hfield, rfl⟩)
  · rw [if_neg hkey, if_neg hkey]

section

variable {V α : Type} [Wire V α]

/-- A field that has to be there. -/
def required (v : Option V) : Option α :=
  v.bind Wire.read

/-- A field that has a value of its own where it is missing. -/
def defaulted (d : α) : Option V → Option α
  | none => some d
  | some v => Wire.read v

/-- A field that may be missing or null. -/
def nullable [WireFormat V] : Option V → Option (Option α)
  | none => some none
  | some v => if WireFormat.isNull v then some none else (Wire.read v).map some

/-- A field with two names, of which at most one may be used. -/
def oneOf : Option V → Option V → Option (Option V)
  | some _, some _ => none
  | some v, none => some (some v)
  | none, v => some v

@[simp] lemma oneOf_none_right (v : Option V) : oneOf v none = some v := by
  cases v <;> rfl

@[simp] lemma required_write [LosslessWire V α] (a : α) :
    required (some (Wire.write a : V)) = some a := by
  simp [required]

@[simp] lemma defaulted_write [LosslessWire V α] (d a : α) :
    defaulted d (some (Wire.write a : V)) = some a := by
  simp [defaulted]

/-- Null where there is nothing to write. -/
def writeOrNull [WireFormat V] (a : Option α) : V :=
  a.elim WireFormat.null Wire.write

/-- What is written as null is read as missing, and nothing else is. -/
lemma nullable_map_write_eq [WireFormat V] [LosslessWire V α] (a : Option α) :
    nullable (a.map (Wire.write : α → V)) =
      some (a.filter fun x => !WireFormat.isNull (Wire.write x : V)) := by
  cases a with
  | none => rfl
  | some x =>
    rw [Option.map_some, nullable, Option.filter_some]
    cases WireFormat.isNull (Wire.write x : V) <;> simp

lemma nullable_writeOrNull [WireFormat V] [LosslessWire V α] (a : Option α) :
    nullable (some (writeOrNull a : V)) =
      some (a.filter fun x => !WireFormat.isNull (Wire.write x : V)) := by
  cases a with
  | none => simp [writeOrNull, nullable]
  | some x => exact nullable_map_write_eq (some x)

lemma required_of_read {v : V} {a : α} (h : Wire.read v = some a) :
    required (some v) = some a := by
  rw [required, Option.bind_some, h]

lemma nullable_writeOrNull_of_read [WireFormat V] [NonNullWire V α] {kept : α → α}
    (h : ∀ a, Wire.read (Wire.write a : V) = some (kept a)) (a : Option α) :
    nullable (some (writeOrNull a : V)) = some (a.map kept) := by
  cases a with
  | none => simp [writeOrNull, nullable]
  | some a => simp [writeOrNull, nullable, h]

@[simp] lemma nullable_map_write [WireFormat V] [LosslessWire V α] [NonNullWire V α]
    (a : Option α) : nullable (a.map (Wire.write : α → V)) = some a := by
  rw [nullable_map_write_eq]
  cases a <;> simp

end

/-- What is left of an optional value after it was written and read. -/
def keptValue : Option Value → Option Value
  | some .null => none
  | v => v

@[simp] lemma nullable_map_write_value (v : Option Value) :
    nullable (v.map (Wire.write : Value → Value)) = some (keptValue v) := by
  rw [nullable_map_write_eq]
  rcases v with _ | ⟨⟨⟩⟩ <;> rfl

@[simp] lemma nullable_writeOrNull_value (v : Option Value) :
    nullable (some (writeOrNull v : Value)) = some (keptValue v) := by
  rw [nullable_writeOrNull]
  rcases v with _ | ⟨⟨⟩⟩ <;> rfl

@[simp] lemma keptValue_eq_self {v : Option Value} : keptValue v = v ↔ v ≠ some .null := by
  rcases v with _ | ⟨⟨⟩⟩ <;> simp [keptValue]

end Lib
