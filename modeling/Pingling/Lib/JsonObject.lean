import Pingling.Lib.Json

/-!
# Building JSON objects, and the places in a value

Entries are put into an object one by one and kept in the order of their keys. A place in a
value is the list of the steps that lead to it from the top.
-/

namespace Lib

def insertEntry (key : String) (value : Value) : List (String × Value) → List (String × Value)
  | [] => [(key, value)]
  | entry :: entries =>
    if key < entry.1 then (key, value) :: entry :: entries
    else if key = entry.1 then (key, value) :: entries
    else entry :: insertEntry key value entries

lemma mem_insertEntry {key : String} {value : Value} {entries : List (String × Value)}
    {entry : String × Value} (h : entry ∈ insertEntry key value entries) :
    entry = (key, value) ∨ entry ∈ entries := by
  induction entries with
  | nil => simpa [insertEntry] using h
  | cons first entries ih =>
    unfold insertEntry at h
    split_ifs at h
    · simpa using h
    · rcases List.mem_cons.mp h with h | h
      · exact .inl h
      · exact .inr (List.mem_cons_of_mem _ h)
    · rcases List.mem_cons.mp h with h | h
      · exact .inr (h ▸ List.mem_cons_self)
      · exact (ih h).imp id (List.mem_cons_of_mem _)

lemma pairwise_insertEntry (key : String) (value : Value) {entries : List (String × Value)}
    (h : entries.Pairwise (fun a b => a.1 < b.1)) :
    (insertEntry key value entries).Pairwise (fun a b => a.1 < b.1) := by
  induction entries with
  | nil => simp [insertEntry]
  | cons first entries ih =>
    have hfirst : ∀ entry ∈ entries, first.1 < entry.1 := fun _ => List.rel_of_pairwise_cons h
    unfold insertEntry
    split_ifs with hlt heq
    · apply List.pairwise_cons.mpr
      refine ⟨fun entry hentry => ?_, h⟩
      rcases List.mem_cons.mp hentry with rfl | hentry
      · exact hlt
      · exact hlt.trans (hfirst _ hentry)
    · subst heq
      exact List.pairwise_cons.mpr ⟨hfirst, h.of_cons⟩
    · have hgt : first.1 < key := lt_of_le_of_ne (not_lt.mp hlt) (Ne.symm heq)
      apply List.pairwise_cons.mpr
      refine ⟨fun entry hentry => ?_, ih h.of_cons⟩
      rcases mem_insertEntry hentry with rfl | hentry
      · exact hgt
      · exact hfirst _ hentry

lemma lookup_cons_eq (name : String) (entry : String × Value) (entries : List (String × Value)) :
    (entry :: entries).lookup name =
      if name = entry.1 then some entry.2 else entries.lookup name := by
  rw [List.lookup_cons]
  by_cases h : name = entry.1
  · rw [if_pos h, beq_iff_eq.mpr h]
  · rw [if_neg h, beq_eq_false_iff_ne.mpr h]

lemma lookup_insertEntry (key name : String) (value : Value) (entries : List (String × Value)) :
    (insertEntry key value entries).lookup name =
      if name = key then some value else entries.lookup name := by
  induction entries with
  | nil => exact lookup_cons_eq name (key, value) []
  | cons first entries ih =>
    unfold insertEntry
    by_cases hlt : key < first.1
    · rw [if_pos hlt]
      exact lookup_cons_eq name (key, value) _
    · rw [if_neg hlt]
      by_cases heq : key = first.1
      · rw [if_pos heq, lookup_cons_eq, lookup_cons_eq, ← heq]
        by_cases h : name = key
        · rw [if_pos h, if_pos h]
        · simp only [if_neg h]
      · rw [if_neg heq, lookup_cons_eq, lookup_cons_eq, ih]
        by_cases h : name = first.1
        · have hkey : ¬ name = key := fun hkey => heq (hkey.symm.trans h)
          simp only [if_pos h, if_neg hkey]
        · simp only [if_neg h]

/-- A JSON object; its keys increase. -/
structure Object where
  entries : List (String × Value)
  sorted : entries.Pairwise (fun a b => a.1 < b.1)

namespace Object

def empty : Object := ⟨[], .nil⟩

def insert (o : Object) (key : String) (value : Value) : Object :=
  ⟨insertEntry key value o.entries, pairwise_insertEntry key value o.sorted⟩

/-- Insert a value that may be missing. -/
def insertSome (o : Object) (key : String) : Option Value → Object
  | some value => o.insert key value
  | none => o

def get? (o : Object) (key : String) : Option Value :=
  o.entries.lookup key

def toValue (o : Object) : Value :=
  .object o.entries

@[simp] lemma get?_empty (name : String) : empty.get? name = none := rfl

@[simp] lemma get?_insert (o : Object) (key name : String) (value : Value) :
    (o.insert key value).get? name = if name = key then some value else o.get? name :=
  lookup_insertEntry key name value o.entries

@[simp] lemma get?_insertSome (o : Object) (key name : String) (value : Option Value) :
    (o.insertSome key value).get? name =
      if name = key then value.or (o.get? name) else o.get? name := by
  cases value with
  | none => simp [insertSome]
  | some value => simp [insertSome]

@[simp] lemma field_toValue (o : Object) (name : String) :
    o.toValue.field name = (o.get? name).getD .null :=
  rfl

end Object

/-- An object literal. -/
def json (entries : List (String × Value)) : Object :=
  entries.foldl (fun o entry => o.insert entry.1 entry.2) .empty

namespace Value

def ofUInt64 (n : UInt64) : Value :=
  .number (.posInt n)

def ofUInt16 (n : UInt16) : Value :=
  ofUInt64 n.toUInt64

def ofUInt8 (n : UInt8) : Value :=
  ofUInt64 n.toUInt64

def ofInt32 (n : Int32) : Value :=
  .number (if n < 0 then .negInt n.toInt64 else .posInt n.toInt64.toUInt64)

def ofStrings (strings : List String) : Value :=
  .array (strings.map .string)

def ofOption (string : Option String) : Value :=
  (string.map .string).getD .null

def ofStringMap (strings : Std.ExtTreeMap String String) : Value :=
  (json (strings.toList.map (fun entry => (entry.1, .string entry.2)))).toValue

end Value

inductive PathStep where
  | key (name : String)
  | index (i : ℕ)

abbrev Path := List PathStep

namespace Value

def step? : Value → PathStep → Option Value
  | .object entries, .key name => entries.lookup name
  | .array items, .index i => items[i]?
  | _, _ => none

/-- The value at a place. -/
def at? (v : Value) : Path → Option Value
  | [] => some v
  | step :: path => (v.step? step).bind (·.at? path)

/-- Every switch in the value is at one of the places in `S`. -/
structure SwitchesIn (S : Path → Prop) (v : Value) : Prop where
  mem : ∀ path b, v.at? path = some (.bool b) → S path

variable {S : Path → Prop}

/-- A value without parts has a switch only if it is one. -/
lemma switchesIn_of_step?_eq_none {v : Value} (hstep : ∀ step, v.step? step = none)
    (h : ∀ b, v = bool b → S []) : v.SwitchesIn S := by
  apply SwitchesIn.mk
  intro path b hat
  cases path with
  | nil => exact h b (Option.some.inj hat)
  | cons step path => simp [at?, hstep] at hat

@[simp] lemma switchesIn_null : null.SwitchesIn S :=
  switchesIn_of_step?_eq_none (fun _ => rfl) (by simp)

@[simp] lemma switchesIn_number (n : Number) : (number n).SwitchesIn S :=
  switchesIn_of_step?_eq_none (fun _ => rfl) (by simp)

@[simp] lemma switchesIn_string (s : String) : (string s).SwitchesIn S :=
  switchesIn_of_step?_eq_none (fun _ => rfl) (by simp)

@[simp] lemma switchesIn_bool (b : Bool) : (bool b).SwitchesIn S ↔ S [] := by
  apply Iff.intro
  · intro h
    exact h.mem [] b rfl
  · intro h
    exact switchesIn_of_step?_eq_none (fun _ => rfl) (fun _ _ => h)

lemma switchesIn_array {items : List Value}
    (h : ∀ i, ∀ v ∈ items, v.SwitchesIn (fun path => S (.index i :: path))) :
    (array items).SwitchesIn S := by
  apply SwitchesIn.mk
  intro path b hat
  cases path with
  | nil => cases hat
  | cons step path =>
    cases step with
    | key name => cases hat
    | index i =>
      obtain ⟨v, hv, hat⟩ := Option.bind_eq_some_iff.mp hat
      exact (h i v (List.mem_of_getElem? hv)).mem path b hat

@[simp] lemma switchesIn_ofUInt64 (n : UInt64) : (ofUInt64 n).SwitchesIn S :=
  switchesIn_number _

@[simp] lemma switchesIn_ofUInt16 (n : UInt16) : (ofUInt16 n).SwitchesIn S :=
  switchesIn_number _

@[simp] lemma switchesIn_ofStrings (strings : List String) :
    (ofStrings strings).SwitchesIn S := by
  apply switchesIn_array
  intro i v hv
  obtain ⟨s, -, rfl⟩ := List.mem_map.mp hv
  exact switchesIn_string s

lemma switchesIn_ofUInt8s (bytes : List UInt8) :
    (array (bytes.map ofUInt8)).SwitchesIn S := by
  apply switchesIn_array
  intro i v hv
  obtain ⟨n, -, rfl⟩ := List.mem_map.mp hv
  exact switchesIn_number _

@[simp] lemma switchesIn_ofOption (string : Option String) :
    (ofOption string).SwitchesIn S := by
  cases string with
  | none => exact switchesIn_null
  | some s => exact switchesIn_string s

lemma switchesIn_singleton {v : Value} (h : ∀ S, v.SwitchesIn S) : (array [v]).SwitchesIn S := by
  apply switchesIn_array
  simp [h]

lemma switchesIn_toValue {o : Object} : o.toValue.SwitchesIn S ↔
    ∀ name v, o.get? name = some v → v.SwitchesIn (fun path => S (.key name :: path)) := by
  apply Iff.intro
  · intro h name v hv
    apply SwitchesIn.mk
    intro path b hat
    apply h.mem (.key name :: path) b
    exact Option.bind_eq_some_iff.mpr ⟨v, hv, hat⟩
  · intro h
    apply SwitchesIn.mk
    intro path b hat
    cases path with
    | nil => cases hat
    | cons step path =>
      cases step with
      | index i => cases hat
      | key name =>
        obtain ⟨v, hv, hat⟩ := Option.bind_eq_some_iff.mp hat
        exact (h name v hv).mem path b hat

end Value

namespace Object

variable {S : Path → Prop} {o : Object} {key : String}

lemma switchesIn_empty : empty.toValue.SwitchesIn S := by
  rw [Value.switchesIn_toValue]
  intro name v hv
  cases hv

lemma switchesIn_insert {value : Value} (ho : o.toValue.SwitchesIn S)
    (hvalue : value.SwitchesIn (fun path => S (.key key :: path))) :
    (o.insert key value).toValue.SwitchesIn S := by
  rw [Value.switchesIn_toValue]
  intro name v hv
  rw [get?_insert] at hv
  by_cases hname : name = key
  · rw [if_pos hname] at hv
    rw [← Option.some.inj hv, hname]
    exact hvalue
  · rw [if_neg hname] at hv
    exact Value.switchesIn_toValue.mp ho name v hv

lemma switchesIn_insertSome {value : Option Value} (ho : o.toValue.SwitchesIn S)
    (hvalue : ∀ v ∈ value, v.SwitchesIn (fun path => S (.key key :: path))) :
    (o.insertSome key value).toValue.SwitchesIn S := by
  cases value with
  | none => exact ho
  | some value => exact switchesIn_insert ho (hvalue value rfl)

lemma switchesIn_insertSome_map {α : Type} {f : α → Value} {x : Option α}
    (ho : o.toValue.SwitchesIn S)
    (hf : ∀ a, (f a).SwitchesIn (fun path => S (.key key :: path))) :
    (o.insertSome key (x.map f)).toValue.SwitchesIn S := by
  apply switchesIn_insertSome ho
  intro v hv
  obtain ⟨a, -, rfl⟩ := Option.map_eq_some_iff.mp hv
  exact hf a

lemma switchesIn_insertSome_ite {c : Prop} [Decidable c] {value : Value}
    (ho : o.toValue.SwitchesIn S)
    (hvalue : value.SwitchesIn (fun path => S (.key key :: path))) :
    (o.insertSome key (if c then some value else none)).toValue.SwitchesIn S := by
  apply switchesIn_insertSome ho
  intro v hv
  obtain ⟨-, hv⟩ := Option.ite_none_right_eq_some.mp hv
  exact Option.some.inj hv ▸ hvalue

lemma switchesIn_json {entries : List (String × Value)}
    (h : ∀ entry ∈ entries, entry.2.SwitchesIn (fun path => S (.key entry.1 :: path))) :
    (json entries).toValue.SwitchesIn S := by
  suffices hfold : ∀ o : Object, o.toValue.SwitchesIn S →
      (entries.foldl (fun o entry => o.insert entry.1 entry.2) o).toValue.SwitchesIn S from
    hfold empty switchesIn_empty
  induction entries with
  | nil => exact fun o ho => ho
  | cons entry entries ih =>
    intro o ho
    have hentry := h entry List.mem_cons_self
    exact ih (fun e he => h e (List.mem_cons_of_mem _ he)) _ (switchesIn_insert ho hentry)

end Object

lemma Value.switchesIn_ofStringMap {S : Path → Prop} (strings : Std.ExtTreeMap String String) :
    (ofStringMap strings).SwitchesIn S := by
  apply Object.switchesIn_json
  intro entry hentry
  obtain ⟨string, -, rfl⟩ := List.mem_map.mp hentry
  exact switchesIn_string string.2

end Lib
