import Pingling.Lib.JsonDocument

/-!
# Structures in a document

A structure is read from an object by the names of its fields, or from an array in the order in
which they are declared. None of its names may be repeated. Other entries are ignored, or kept in
a map if the structure has one for them; such a structure is read from objects only.
-/

namespace Lib

namespace Value

/-- An object has no entries but those that it was built from. -/
lemma mem_of_mem_json {entries : List (String × Value)} {entry : String × Value}
    (h : entry ∈ (json entries).entries) : entry ∈ entries := by
  suffices hfold : ∀ o : Object,
      entry ∈ (entries.foldl (fun o entry => o.insert entry.1 entry.2) o).entries →
        entry ∈ o.entries ∨ entry ∈ entries from
    (hfold .empty h).resolve_left List.not_mem_nil
  clear h
  induction entries with
  | nil => exact fun o h => Or.inl h
  | cons e entries ih =>
    intro o h
    rcases ih _ h with hmem | hmem
    · rcases mem_insertEntry hmem with heq | hold
      · exact Or.inr (heq ▸ List.mem_cons_self)
      · exact Or.inl hold
    · exact Or.inr (List.mem_cons_of_mem _ hmem)

mutual

/-- A value that was read lists the entries of its objects in the order of their keys. -/
lemma sorted_canonical : ∀ v : Value, Sorted v.canonical
  | .null => .null
  | .bool b => .bool b
  | .number n => .number n
  | .string s => .string s
  | .array items => .array (sorted_canonicalItems items)
  | .object entries =>
    .object (json (canonicalEntries entries)).sorted fun entry h =>
      sorted_canonicalEntries entries entry (mem_of_mem_json h)

lemma sorted_canonicalItems : ∀ items : List Value, ∀ item ∈ canonicalItems items, Sorted item
  | [], _, h => absurd h List.not_mem_nil
  | first :: items, item, h => by
    rcases List.mem_cons.mp h with rfl | h
    · exact sorted_canonical first
    · exact sorted_canonicalItems items item h

lemma sorted_canonicalEntries : ∀ entries : List (String × Value),
    ∀ entry ∈ canonicalEntries entries, Sorted entry.2
  | [], _, h => absurd h List.not_mem_nil
  | (key, value) :: entries, entry, h => by
    rcases List.mem_cons.mp h with rfl | h
    · exact sorted_canonical value
    · exact sorted_canonicalEntries entries entry h

end

end Value

namespace Document

/-- None of the names is the key of two entries. -/
def Once (names : List String) (entries : List (String × Value)) : Prop :=
  ((entries.map Prod.fst).filter (· ∈ names)).Nodup

instance (names : List String) (entries : List (String × Value)) :
    Decidable (Once names entries) :=
  inferInstanceAs (Decidable (List.Nodup _))

section

variable {α : Type} (names : List String)

/-- A structure that ignores what it does not know. -/
def readStruct (build : (String → Option Document) → Option α) : Value → Option α
  | .object entries => if Once names entries then build fun name => entries.lookup name else none
  | .array items =>
    if items.length ≤ names.length then build fun name => items[names.idxOf name]? else none
  | _ => none

/-- The entries that a structure does not know. -/
def others (entries : List (String × Value)) : List (String × Value) :=
  (entries.filter fun entry => entry.1 ∉ names).map (Prod.map id Value.canonical)

/-- A structure that keeps what it does not know. -/
def readFlattened (build : (String → Option Document) → Object → Option α) : Value → Option α
  | .object entries =>
    if Once names entries then
      build (fun name => entries.lookup name) (json (others names entries))
    else none
  | _ => none

variable {names}

/-- A structure that was written is built from its fields. -/
theorem readStruct_present (build : (String → Option Document) → Option α)
    {fields : List (String × Option Document)} (h : (fields.map Prod.fst).Nodup) :
    readStruct names build (.object (present fields)) = build (fieldValue fields) := by
  have honce : Once names (present fields) := (h.sublist (present_keys_sublist fields)).filter _
  have hlookup : (fun name => (present fields).lookup name) = fieldValue fields := by
    funext name
    exact lookup_present h name
  rw [readStruct, if_pos honce]
  exact congrArg build hlookup

/-- The entries that a structure keeps are none of its own. -/
def Kept (names : List String) (rest : Object) : Prop :=
  ∀ entry ∈ rest.entries, entry.1 ∉ names ∧ Value.Sorted entry.2

/-- A structure that was written with what it keeps is built from its fields and gets that back. -/
theorem readFlattened_append (build : (String → Option Document) → Object → Option α)
    {fields : List (String × Option Value)} (hnames : fields.map Prod.fst = names)
    (hnodup : names.Nodup) {rest : Object} (hrest : Kept names rest) :
    ∃ get, readFlattened names build (.object (present fields ++ rest.entries)) = build get rest ∧
      ∀ name ∈ names, get name = fieldValue fields name := by
  have hkeys := present_keys_sublist fields
  rw [hnames] at hkeys
  have hown : ∀ entry ∈ present fields, entry.1 ∈ names :=
    fun entry hentry => hkeys.subset (List.mem_map_of_mem hentry)
  have hfilter : (((present fields ++ rest.entries).map Prod.fst).filter (· ∈ names)) =
      (present fields).map Prod.fst := by
    rw [List.map_append, List.filter_append, List.filter_eq_self.mpr, List.filter_eq_nil_iff.mpr,
      List.append_nil]
    · intro key hkey
      obtain ⟨entry, hentry, rfl⟩ := List.mem_map.mp hkey
      simpa using (hrest entry hentry).1
    · intro key hkey
      obtain ⟨entry, hentry, rfl⟩ := List.mem_map.mp hkey
      simpa using hown entry hentry
  have honce : Once names (present fields ++ rest.entries) := by
    rw [Once, hfilter]
    exact hnodup.sublist hkeys
  have hothers : json (others names (present fields ++ rest.entries)) = rest := by
    have heq : others names (present fields ++ rest.entries) = rest.entries := by
      rw [others, List.filter_append, List.filter_eq_nil_iff.mpr, List.filter_eq_self.mpr,
        List.nil_append]
      · rw [List.map_congr_left (g := id), List.map_id]
        intro entry hentry
        rw [Prod.map, Value.canonical_of_sorted (hrest entry hentry).2]
        rfl
      · intro entry hentry
        simpa using (hrest entry hentry).1
      · intro entry hentry
        simpa using hown entry hentry
    have hentries := json_of_sorted rest.sorted
    rw [heq]
    cases rest
    cases hjson : json _
    rw [hjson] at hentries
    cases hentries
    rfl
  refine ⟨fun name => (present fields ++ rest.entries).lookup name, ?_, ?_⟩
  · rw [readFlattened, if_pos honce, hothers]
  · intro name hname
    have hmiss : rest.entries.lookup name = none := by
      rw [List.lookup_eq_none_iff]
      intro entry hentry
      rw [bne_iff_ne]
      rintro rfl
      exact (hrest entry hentry).1 hname
    have hlookup : (present fields ++ rest.entries).lookup name = fieldValue fields name := by
      rw [List.lookup_append, hmiss, Option.or_none, lookup_present (hnames ▸ hnodup)]
    exact hlookup

lemma build_of_readStruct {build : (String → Option Document) → Option α} {document : Value}
    {a : α} (h : readStruct names build document = some a) : ∃ get, build get = some a := by
  cases document with
  | object entries => exact ⟨_, (Option.ite_none_right_eq_some.mp h).2⟩
  | array items => exact ⟨_, (Option.ite_none_right_eq_some.mp h).2⟩
  | _ => cases h

/-- What a structure keeps of a document are none of its own entries. -/
lemma kept_of_readFlattened {build : (String → Option Document) → Object → Option α}
    {document : Value} {a : α} (h : readFlattened names build document = some a) :
    ∃ get rest, build get rest = some a ∧ Kept names rest := by
  cases document with
  | object entries =>
    rw [readFlattened, Option.ite_none_right_eq_some] at h
    refine ⟨_, _, h.2, fun entry hentry => ?_⟩
    obtain ⟨entry', hentry', rfl⟩ := List.mem_map.mp (Value.mem_of_mem_json hentry)
    have hnot := (List.mem_filter.mp hentry').2
    exact ⟨by simpa using hnot, Value.sorted_canonical _⟩
  | _ => cases h

end

lemma read_of_nullable {α : Type} [Wire Document α] {document : Option Document} {a : α}
    (h : nullable document = some (some a)) :
    ∃ v, document = some v ∧ Wire.read v = some a := by
  cases document with
  | none => cases h
  | some v =>
    rw [nullable] at h
    split_ifs at h
    · cases h
    · obtain ⟨a', hread, heq⟩ := Option.map_eq_some_iff.mp h
      exact ⟨v, rfl, Option.some.inj heq ▸ hread⟩

/-- Every item of a sequence that was read was read itself. -/
lemma read_of_mem {α : Type} [Wire Document α] {document : Document} {items : List α}
    (h : Wire.read document = some items) {a : α} (ha : a ∈ items) :
    ∃ v : Document, Wire.read v = some a := by
  obtain ⟨found, -, hitems⟩ := Option.bind_eq_some_iff.mp h
  clear h
  induction found generalizing items with
  | nil =>
    cases hitems
    exact absurd ha List.not_mem_nil
  | cons v found ih =>
    simp only [List.mapM_cons, Option.bind_eq_bind, Option.bind_eq_some_iff,
      Option.pure_def, Option.some.injEq] at hitems
    obtain ⟨b, hb, rest, hrest, rfl⟩ := hitems
    rcases List.mem_cons.mp ha with rfl | ha
    · exact ⟨v, hb⟩
    · exact ih ha hrest

end Document
end Lib
