import Pingling.Lib.WireRecord

/-!
# YAML values without tags

A reader that first stores a value and looks at it again cannot store a tag. Whatever is
written from plain values, sequences, maps and records has none.
-/

namespace Lib
open Std

namespace YamlValue

mutual

/-- There is no tag in the value. -/
def untagged : YamlValue → Bool
  | .sequence items => untaggedItems items
  | .mapping entries => untaggedEntries entries
  | .tagged _ _ => false
  | _ => true

def untaggedItems : List YamlValue → Bool
  | [] => true
  | item :: items => item.untagged && untaggedItems items

def untaggedEntries : List (YamlValue × YamlValue) → Bool
  | [] => true
  | (key, value) :: entries => key.untagged && value.untagged && untaggedEntries entries

end

lemma untaggedItems_iff {items : List YamlValue} :
    untaggedItems items = true ↔ ∀ item ∈ items, item.untagged = true := by
  induction items with
  | nil => simp [untaggedItems]
  | cons item items ih => simp [untaggedItems, ih]

lemma untagged_record {entries : List (String × YamlValue)} :
    (WireFormat.record entries : YamlValue).untagged = true ↔
      ∀ entry ∈ entries, entry.2.untagged = true := by
  change untagged (.mapping _) = true ↔ _
  rw [untagged]
  induction entries with
  | nil => simp [untaggedEntries]
  | cons entry entries ih => simp [untaggedEntries, untagged, ih]

end YamlValue

/-- What is written has no tags. -/
class UntaggedWire (α : Type) [Wire YamlValue α] : Prop where
  untagged_write : ∀ a : α, (Wire.write a : YamlValue).untagged = true

/-- A field that holds no tag. -/
def UntaggedField (v : Option YamlValue) : Prop :=
  ∀ w, v = some w → w.untagged = true

def UntaggedFields (fields : List (String × Option YamlValue)) : Prop :=
  ∀ field ∈ fields, UntaggedField field.2

/-- No field of a record type holds a tag. -/
class UntaggedRecord (α : Type) [WireRecord YamlValue α] : Prop where
  untagged_fields : ∀ a : α, UntaggedFields (WireRecord.fields a)

attribute [simp] UntaggedWire.untagged_write UntaggedRecord.untagged_fields

section

variable {α : Type} [Wire YamlValue α]

@[simp] lemma untaggedField_some {v : YamlValue} :
    UntaggedField (some v) ↔ v.untagged = true := by
  simp [UntaggedField]

@[simp] lemma untaggedField_map [UntaggedWire α] (a : Option α) :
    UntaggedField (a.map (Wire.write : α → YamlValue)) := by
  cases a <;> simp [UntaggedField]

@[simp] lemma untaggedFields_nil : UntaggedFields [] := by simp [UntaggedFields]

@[simp] lemma untaggedFields_cons {key : String} {v : Option YamlValue}
    {fields : List (String × Option YamlValue)} :
    UntaggedFields ((key, v) :: fields) ↔ UntaggedField v ∧ UntaggedFields fields :=
  List.forall_mem_cons

end

section

variable {α : Type}
open YamlValue

instance : UntaggedWire Bool := ⟨fun _ => by simp [Wire.write, WireFormat.bool, untagged]⟩

instance : UntaggedWire String := ⟨fun _ => by simp [Wire.write, WireFormat.string, untagged]⟩

instance [MachineInt α] : UntaggedWire α :=
  ⟨fun _ => by simp [Wire.write, WireFormat.number, untagged]⟩

instance [WireEnum α] : UntaggedWire α :=
  ⟨fun _ => by simp [Wire.write, WireFormat.string, untagged]⟩

instance [Wire YamlValue α] [UntaggedWire α] : UntaggedWire (List α) where
  untagged_write items := by
    change untagged (.sequence _) = true
    rw [untagged, untaggedItems_iff]
    intro item hitem
    obtain ⟨a, -, rfl⟩ := List.mem_map.mp hitem
    exact UntaggedWire.untagged_write a

lemma untagged_write_map [Wire YamlValue α] {m : ExtTreeMap String α}
    (h : ∀ (key : String) (a : α), m[key]? = some a → (Wire.write a : YamlValue).untagged = true) :
    (Wire.write m : YamlValue).untagged = true := by
  apply untagged_record.mpr
  intro entry hentry
  obtain ⟨⟨key, a⟩, hmem, rfl⟩ := List.mem_map.mp hentry
  exact h key a (ExtTreeMap.mem_toList_iff_getElem?_eq_some.mp hmem)

instance [Wire YamlValue α] [UntaggedWire α] : UntaggedWire (ExtTreeMap String α) :=
  ⟨fun _ => untagged_write_map fun _ a _ => UntaggedWire.untagged_write a⟩

lemma untagged_write_record [WireRecord YamlValue α] {a : α}
    (h : UntaggedFields (WireRecord.fields a)) : (Wire.write a : YamlValue).untagged = true := by
  apply untagged_record.mpr
  intro entry hentry
  obtain ⟨field, hfield, hvalue⟩ := List.mem_filterMap.mp hentry
  obtain ⟨v, hv, rfl⟩ := Option.map_eq_some_iff.mp hvalue
  exact h field hfield v hv

instance [WireRecord YamlValue α] [UntaggedRecord α] : UntaggedWire α :=
  ⟨fun a => untagged_write_record (UntaggedRecord.untagged_fields a)⟩

end

end Lib
