import Pingling.Lib.JsonStruct

/-!
# The snapshots of the Clash API

The controller reports traffic and connections as documents. A snapshot that was read from a
document is written as a document from which it is read again, with all that a connection keeps
beside the fields that are known.
-/

namespace Pingling.ClashApi
open Lib

/-- How much goes up and down at a moment. -/
structure TrafficSnapshot where
  up : UInt64
  down : UInt64
  deriving DecidableEq

/-- What a connection is about. Fields that are not known are kept. -/
structure ConnectionMetadata where
  network : Option String
  sourceIp : Option String
  destinationIp : Option String
  extra : Object

/-- A connection that is open. -/
structure ConnectionRecord where
  id : String
  download : UInt64
  upload : UInt64
  metadata : Option ConnectionMetadata
  chains : List String
  rule : Option String

/-- All open connections and the traffic so far. -/
structure ConnectionsSnapshot where
  connections : List ConnectionRecord
  downloadTotal : UInt64
  uploadTotal : UInt64
  memory : UInt64

namespace TrafficSnapshot

def names : List String :=
  ["up", "down"]

def fields (self : TrafficSnapshot) : List (String × Option Document) :=
  [("up", some (Wire.write self.up)), ("down", some (Wire.write self.down))]

def ofFields (get : String → Option Document) : Option TrafficSnapshot := do
  some ⟨← required (get "up"), ← required (get "down")⟩

instance : Wire Document TrafficSnapshot where
  write self := Value.object (present self.fields)
  read document := Document.readStruct names ofFields document

end TrafficSnapshot

namespace ConnectionMetadata

def names : List String :=
  ["network", "source_ip", "destination_ip"]

def fields (self : ConnectionMetadata) : List (String × Option Value) :=
  [("network", some (writeOrNull self.network)), ("source_ip", some (writeOrNull self.sourceIp)),
    ("destination_ip", some (writeOrNull self.destinationIp))]

def ofFields (get : String → Option Document) (extra : Object) : Option ConnectionMetadata := do
  some ⟨← nullable (get "network"), ← nullable (get "source_ip"),
    ← nullable (get "destination_ip"), extra⟩

/-- The fields that are known come first. -/
instance : Wire Document ConnectionMetadata where
  write self := Value.object (present self.fields ++ self.extra.entries)
  read document := Document.readFlattened names ofFields document

end ConnectionMetadata

namespace ConnectionRecord

def names : List String :=
  ["id", "download", "upload", "metadata", "chains", "rule"]

def fields (self : ConnectionRecord) : List (String × Option Document) :=
  [("id", some (Wire.write self.id)), ("download", some (Wire.write self.download)),
    ("upload", some (Wire.write self.upload)), ("metadata", some (writeOrNull self.metadata)),
    ("chains", some (Wire.write self.chains)), ("rule", some (writeOrNull self.rule))]

def ofFields (get : String → Option Document) : Option ConnectionRecord := do
  some ⟨← required (get "id"), ← defaulted 0 (get "download"), ← defaulted 0 (get "upload"),
    ← nullable (get "metadata"), ← defaulted [] (get "chains"), ← nullable (get "rule")⟩

instance : Wire Document ConnectionRecord where
  write self := Value.object (present self.fields)
  read document := Document.readStruct names ofFields document

end ConnectionRecord

namespace ConnectionsSnapshot

def names : List String :=
  ["connections", "download_total", "upload_total", "memory"]

def fields (self : ConnectionsSnapshot) : List (String × Option Document) :=
  [("connections", some (Wire.write self.connections)),
    ("download_total", some (Wire.write self.downloadTotal)),
    ("upload_total", some (Wire.write self.uploadTotal)),
    ("memory", some (Wire.write self.memory))]

def ofFields (get : String → Option Document) : Option ConnectionsSnapshot := do
  some ⟨← defaulted [] (get "connections"), ← defaulted 0 (get "download_total"),
    ← defaulted 0 (get "upload_total"), ← defaulted 0 (get "memory")⟩

instance : Wire Document ConnectionsSnapshot where
  write self := Value.object (present self.fields)
  read document := Document.readStruct names ofFields document

end ConnectionsSnapshot

/-- What is kept beside the known fields does not repeat one of them. -/
def ConnectionMetadata.Kept (self : ConnectionMetadata) : Prop :=
  Document.Kept names self.extra

def ConnectionRecord.Kept (self : ConnectionRecord) : Prop :=
  ∀ metadata, self.metadata = some metadata → metadata.Kept

def ConnectionsSnapshot.Kept (self : ConnectionsSnapshot) : Prop :=
  ∀ connection ∈ self.connections, connection.Kept

instance : LosslessWire Document TrafficSnapshot where
  read_write self := by
    have hnodup : (self.fields.map Prod.fst).Nodup := (by decide : TrafficSnapshot.names.Nodup)
    refine (Document.readStruct_present TrafficSnapshot.ofFields hnodup).trans ?_
    simp [TrafficSnapshot.ofFields, TrafficSnapshot.fields]

lemma ConnectionMetadata.read_write {self : ConnectionMetadata} (h : self.Kept) :
    Wire.read (Wire.write self : Document) = some self := by
  have hnames : self.fields.map Prod.fst = names := rfl
  obtain ⟨get, hread, hget⟩ := Document.readFlattened_append ofFields hnames (by decide) h
  have hnetwork : get "network" = some (writeOrNull self.network) := hget "network" (by decide)
  have hsource : get "source_ip" = some (writeOrNull self.sourceIp) :=
    hget "source_ip" (by decide)
  have hdestination : get "destination_ip" = some (writeOrNull self.destinationIp) :=
    hget "destination_ip" (by decide)
  refine hread.trans ?_
  rw [ofFields, hnetwork, hsource, hdestination]
  simp only [Document.nullable_writeOrNull_string, Option.bind_eq_bind, Option.bind_some]

lemma ConnectionMetadata.isNull_write (self : ConnectionMetadata) :
    WireFormat.isNull (Wire.write self : Document) = false :=
  rfl

lemma ConnectionRecord.read_write {self : ConnectionRecord} (h : self.Kept) :
    Wire.read (Wire.write self : Document) = some self := by
  have hnodup : (self.fields.map Prod.fst).Nodup := (by decide : names.Nodup)
  have hmetadata : nullable (some (writeOrNull self.metadata : Document)) =
      some self.metadata := by
    cases hmeta : self.metadata with
    | none => rfl
    | some metadata =>
      rw [writeOrNull, Option.elim_some, nullable, metadata.isNull_write,
        ConnectionMetadata.read_write (h metadata hmeta)]
      rfl
  refine (Document.readStruct_present ofFields hnodup).trans ?_
  simp [ofFields, fields, hmetadata]

lemma ConnectionsSnapshot.read_write {self : ConnectionsSnapshot} (h : self.Kept) :
    Wire.read (Wire.write self : Document) = some self := by
  have hnodup : (self.fields.map Prod.fst).Nodup := (by decide : names.Nodup)
  have hconnections : defaulted [] (some (Wire.write self.connections : Document)) =
      some self.connections :=
    mapM_map_eq_some fun connection hmem => ConnectionRecord.read_write (h connection hmem)
  refine (Document.readStruct_present ofFields hnodup).trans ?_
  simp [ofFields, fields, hconnections]

/-- What is read has nothing twice. -/
lemma ConnectionMetadata.kept_of_read {document : Document} {self : ConnectionMetadata}
    (h : Wire.read document = some self) : self.Kept := by
  obtain ⟨get, extra, hbuild, hkept⟩ := Document.kept_of_readFlattened h
  simp only [ofFields, Option.bind_eq_bind, Option.bind_eq_some_iff, Option.some.injEq] at hbuild
  obtain ⟨network, -, source, -, destination, -, rfl⟩ := hbuild
  exact hkept

lemma ConnectionRecord.kept_of_read {document : Document} {self : ConnectionRecord}
    (h : Wire.read document = some self) : self.Kept := by
  obtain ⟨get, hbuild⟩ := Document.build_of_readStruct h
  simp only [ofFields, Option.bind_eq_bind, Option.bind_eq_some_iff, Option.some.injEq] at hbuild
  obtain ⟨id, -, download, -, upload, -, metadata, hmetadata, chains, -, rule, -, rfl⟩ := hbuild
  rintro metadata rfl
  obtain ⟨v, -, hread⟩ := Document.read_of_nullable hmetadata
  exact ConnectionMetadata.kept_of_read hread

lemma ConnectionsSnapshot.kept_of_read {document : Document} {self : ConnectionsSnapshot}
    (h : Wire.read document = some self) : self.Kept := by
  obtain ⟨get, hbuild⟩ := Document.build_of_readStruct h
  simp only [ofFields, Option.bind_eq_bind, Option.bind_eq_some_iff, Option.some.injEq] at hbuild
  obtain ⟨connections, hconnections, download, -, upload, -, memory, -, rfl⟩ := hbuild
  intro connection hmem
  cases hget : get "connections" with
  | none =>
    rw [hget] at hconnections
    cases hconnections
    exact absurd hmem List.not_mem_nil
  | some v =>
    rw [hget] at hconnections
    obtain ⟨v, hread⟩ := Document.read_of_mem hconnections hmem
    exact ConnectionRecord.kept_of_read hread

/-- A snapshot that was read from any document survives being written and read, also as text if
it is not nested too deep and its floats survive. -/
theorem ConnectionsSnapshot.read_back {document : Document} {self : ConnectionsSnapshot}
    (h : Wire.read document = some self) :
    Wire.read (Wire.write self : Document) = some self ∧
      ∀ float parse, Document.Readable float parse Document.maxDepth (Wire.write self : Document) →
        Document.fromText parse (Document.toText float self) = some self := by
  have hread := read_write (kept_of_read h)
  refine ⟨hread, fun float parse hreadable => ?_⟩
  rw [Document.fromText_toText_eq hreadable, hread]

/-- A connection with metadata that is not known, in a document with missing fields and one that
is not known. -/
theorem ConnectionsSnapshot.read_back_memory :
    let metadata : ConnectionMetadata :=
      ⟨some "tcp", none, none, json [("type", .string "HTTP")]⟩
    let self : ConnectionsSnapshot := ⟨[⟨"a", 0, 3, some metadata, ["DIRECT"], none⟩], 0, 0, 7⟩
    Wire.read (Wire.write self : Document) = some self ∧
      Document.fromText (fun _ => none) (Document.toText (fun _ => []) self) = some self := by
  intro metadata self
  have hread : Wire.read (V := Document)
      (.object [("memory", .number (.posInt 7)), ("downloadTotal", .number (.posInt 5)),
        ("connections", .array [.object [("id", .string "a"), ("upload", .number (.posInt 3)),
          ("chains", .array [.string "DIRECT"]), ("metadata", .object [("type", .string "HTTP"),
            ("network", .string "tcp")])]])]) = some self := rfl
  obtain ⟨hdocument, htext⟩ := read_back hread
  exact ⟨hdocument, htext _ _ (Document.readable_of_floatFree _ _ rfl)⟩

/-- A text that may be null is written as it was found. -/
lemma writeOrNull_of_nullable {found : Option Value} {a : Option String}
    (h : nullable (show Option Document from found) = some a) :
    (writeOrNull a : Document) = found.elim Value.null Value.canonical := by
  cases found with
  | none =>
    rw [← Option.some.inj h]
    rfl
  | some v =>
    cases v with
    | null =>
      rw [← Option.some.inj h]
      rfl
    | string s =>
      rw [← Option.some.inj h]
      rfl
    | _ => cases h

lemma fieldValue_of_notMem {fields : List (String × Option Value)} {name : String}
    (h : name ∉ fields.map Prod.fst) : fieldValue fields name = none := by
  rw [fieldValue, List.lookup_eq_none_iff.mpr]
  · rfl
  · intro field hfield
    rw [bne_iff_ne]
    rintro rfl
    exact h (List.mem_map_of_mem hfield)

/-- The further entries of an object without repetitions, by their keys. -/
lemma lookup_others {names : List String} {entries : List (String × Value)}
    (h : (entries.map Prod.fst).Nodup) {name : String} (hname : name ∉ names) :
    (json (Document.others names entries)).entries.lookup name =
      (entries.lookup name).map Value.canonical := by
  have hkeys : ((Document.others names entries).map Prod.fst).Nodup := by
    rw [Document.others, List.map_map]
    exact h.sublist ((List.filter_sublist).map Prod.fst)
  rw [lookup_perm hkeys (entries_json_perm hkeys), Document.others]
  clear hkeys h
  induction entries with
  | nil => rfl
  | cons entry entries ih =>
    by_cases hkey : name = entry.1
    · have hkeep : entry.1 ∉ names := hkey ▸ hname
      rw [List.filter_cons_of_pos (by simpa using hkeep), List.map_cons, lookup_cons_eq,
        lookup_cons_eq, if_pos hkey]
      exact if_pos hkey
    · rw [lookup_cons_eq name entry, if_neg hkey, ← ih, List.filter_cons]
      split_ifs
      · rw [List.map_cons, lookup_cons_eq]
        exact if_neg hkey
      · rfl

/-- Whatever an object says about a connection is kept: the document that is written has each of
its entries with the same value, and beside these only null for the known fields that were
missing. -/
theorem ConnectionMetadata.keeps_entries {entries : List (String × Value)}
    (hnodup : (entries.map Prod.fst).Nodup) {self : ConnectionMetadata}
    (h : Wire.read (V := Document) (.object entries) = some self) :
    ∃ written, (Wire.write self : Document) = Value.object written ∧
      ∀ name, written.lookup name =
        ((entries.lookup name).map Value.canonical).or
          (if name ∈ names then some .null else none) := by
  have hbuild := (Option.ite_none_right_eq_some.mp h).2
  simp only [ofFields, Option.bind_eq_bind, Option.bind_eq_some_iff, Option.some.injEq] at hbuild
  obtain ⟨network, hnetwork, source, hsource, destination, hdestination, rfl⟩ := hbuild
  refine ⟨_, rfl, fun name => ?_⟩
  have hnames : ((fields ⟨network, source, destination,
      json (Document.others names entries)⟩).map Prod.fst).Nodup := (by decide : names.Nodup)
  rw [List.lookup_append, lookup_present hnames]
  by_cases hname : name ∈ names
  · have hknown : fieldValue (fields ⟨network, source, destination,
        json (Document.others names entries)⟩) name =
          some ((entries.lookup name).elim Value.null Value.canonical) := by
      simp only [names, List.mem_cons, List.not_mem_nil, or_false] at hname
      rcases hname with rfl | rfl | rfl
      · exact congrArg some (writeOrNull_of_nullable hnetwork)
      · exact congrArg some (writeOrNull_of_nullable hsource)
      · exact congrArg some (writeOrNull_of_nullable hdestination)
    rw [hknown, if_pos hname]
    cases entries.lookup name <;> rfl
  · rw [fieldValue_of_notMem hname, if_neg hname, Option.none_or, Option.or_none]
    exact lookup_others hnodup hname

theorem ConnectionMetadata.keeps_entries_type :
    ∃ written, (Wire.write (⟨some "tcp", none, none, json [("type", .string "HTTP")]⟩ :
        ConnectionMetadata) : Document) = Value.object written ∧
      ∀ name, written.lookup name =
        ((List.lookup name [("type", Value.string "HTTP"), ("network", .string "tcp")]).map
          Value.canonical).or (if name ∈ names then some .null else none) :=
  keeps_entries (by decide) rfl

end Pingling.ClashApi
