import Pingling.Lib.IpAddr
import Pingling.Lib.KeyedFold

/-!
# Events of network interfaces

The operating system's watcher reports the interfaces it finds and how they differ from those it
found before. The backend turns the report into events. A subscriber that applies the events to
the snapshots it has gets the snapshots of the new interfaces.
-/

namespace Pingling.Shared
open Lib Std

namespace Netwatcher

structure IpRecord where
  ip : IpAddr
  prefixLen : UInt8
  deriving DecidableEq

structure Interface where
  index : UInt32
  name : String
  hwAddr : String
  ips : List IpRecord
  deriving DecidableEq

structure InterfaceDiff where
  hwAddrChanged : Bool
  addrsAdded : List IpRecord
  addrsRemoved : List IpRecord

/-- The entries of the modified interfaces are those of a map, in the order it is iterated. -/
structure UpdateDiff where
  added : List UInt32
  removed : List UInt32
  modified : List (UInt32 × InterfaceDiff)
  modified_nodup : (modified.map Prod.fst).Nodup

structure Update where
  interfaces : ExtHashMap UInt32 Interface
  diff : UpdateDiff

/-- Interfaces are stored under their own indices. -/
def Keyed (interfaces : ExtHashMap UInt32 Interface) : Prop :=
  ∀ (i : UInt32) (iface : Interface), interfaces[i]? = some iface → iface.index = i

/-- The diff lists the interfaces that are new, gone and different, each of them once. -/
structure Update.Exact (update : Update) (old : ExtHashMap UInt32 Interface) : Prop where
  added : ∀ i, i ∈ update.diff.added ↔ i ∉ old ∧ i ∈ update.interfaces
  removed : ∀ i, i ∈ update.diff.removed ↔ i ∈ old ∧ i ∉ update.interfaces
  modified : ∀ i, i ∈ update.diff.modified.map Prod.fst ↔
    i ∈ old ∧ i ∈ update.interfaces ∧ old[i]? ≠ update.interfaces[i]?
  added_nodup : update.diff.added.Nodup
  removed_nodup : update.diff.removed.Nodup

end Netwatcher

open Netwatcher

structure IpAddrInfo where
  ip : String
  prefixLen : UInt8
  isV4 : Bool
  deriving DecidableEq

structure IfaceSnapshot where
  index : UInt32
  name : String
  hwAddr : String
  ips : List IpAddrInfo
  deriving DecidableEq

inductive UpdateEvent where
  | added (snapshot : IfaceSnapshot)
  | removed (index : UInt32) (name : String)
  | modified (snapshot : IfaceSnapshot) (addrsAdded addrsRemoved : List IpAddrInfo)
      (hwAddrChanged : Bool)

abbrev IfaceMap := ExtHashMap UInt32 IfaceSnapshot

abbrev IfaceMap.lookup (map : IfaceMap) (i : UInt32) : Option IfaceSnapshot :=
  map[i]?

def ipRecordToInfo (rec : IpRecord) : IpAddrInfo :=
  ⟨rec.ip.toString, rec.prefixLen, rec.ip.isIpv4⟩

def ifaceToSnapshot (iface : Interface) : IfaceSnapshot :=
  ⟨iface.index, iface.name, iface.hwAddr, iface.ips.map ipRecordToInfo⟩

/-- The snapshots of a map of interfaces. -/
def listInterfaces (raw : ExtHashMap UInt32 Interface) : IfaceMap :=
  raw.map (fun _ iface => ifaceToSnapshot iface)

section

variable (interfaces : ExtHashMap UInt32 Interface)

def addedEvent (idx : UInt32) : Option UpdateEvent := do
  let iface ← interfaces[idx]?
  some (.added (ifaceToSnapshot iface))

/-- The name of a removed interface is not known any more. -/
def removedEvent (idx : UInt32) : UpdateEvent :=
  .removed idx s!"if{idx}"

def modifiedEvent (entry : UInt32 × InterfaceDiff) : Option UpdateEvent := do
  let (idx, diff) := entry
  let iface ← interfaces[idx]?
  some (.modified (ifaceToSnapshot iface) (diff.addrsAdded.map ipRecordToInfo)
    (diff.addrsRemoved.map ipRecordToInfo) diff.hwAddrChanged)

end

def eventsFromUpdate (update : Update) : List UpdateEvent :=
  update.diff.added.filterMap (addedEvent update.interfaces) ++
    update.diff.removed.map removedEvent ++
    update.diff.modified.filterMap (modifiedEvent update.interfaces)

namespace UpdateEvent

def index : UpdateEvent → UInt32
  | added snapshot => snapshot.index
  | removed index _ => index
  | modified snapshot _ _ _ => snapshot.index

/-- What the event makes of the snapshot at its index. -/
def effect (before : Option IfaceSnapshot) : UpdateEvent → Option IfaceSnapshot
  | added snapshot => some snapshot
  | removed _ _ => none
  | modified snapshot _ _ _ => before.map (fun _ => snapshot)

/-- A subscriber inserts what is added, deletes what is removed and replaces what is modified. -/
def apply (map : IfaceMap) : UpdateEvent → IfaceMap
  | added snapshot => map.insert snapshot.index snapshot
  | removed index _ => map.erase index
  | modified snapshot _ _ _ => map.modify snapshot.index (fun _ => snapshot)

lemma actsAt : ActsAt apply (fun (map : IfaceMap) (i : UInt32) => map[i]?) index effect := by
  intro map event i
  cases event with
  | added snapshot =>
    change (map.insert snapshot.index snapshot)[i]? =
      if snapshot.index = i then some snapshot else map[i]?
    simp only [ExtHashMap.getElem?_insert, beq_iff_eq]
  | removed idx name =>
    change (map.erase idx)[i]? = if idx = i then none else map[i]?
    simp only [ExtHashMap.getElem?_erase, beq_iff_eq]
  | modified snapshot addrsAdded addrsRemoved hwAddrChanged =>
    change (map.modify snapshot.index (fun _ => snapshot))[i]? =
      if snapshot.index = i then map[i]?.map (fun _ => snapshot) else map[i]?
    rw [ExtHashMap.getElem?_modify]
    by_cases hindex : snapshot.index = i
    · simp [hindex]
    · simp [hindex]

end UpdateEvent

section

variable {update : Update} {old : ExtHashMap UInt32 Interface}

lemma index_of_addedEvent (hkeyed : Keyed update.interfaces) (idx : UInt32) (event : UpdateEvent)
    (h : addedEvent update.interfaces idx = some event) : event.index = idx := by
  rw [addedEvent, Option.bind_eq_bind, Option.bind_eq_some_iff] at h
  obtain ⟨iface, hiface, hevent⟩ := h
  rw [← Option.some.inj hevent]
  exact hkeyed idx iface hiface

lemma index_of_modifiedEvent (hkeyed : Keyed update.interfaces) (entry : UInt32 × InterfaceDiff)
    (event : UpdateEvent) (h : modifiedEvent update.interfaces entry = some event) :
    event.index = entry.1 := by
  rw [modifiedEvent, Option.bind_eq_bind, Option.bind_eq_some_iff] at h
  obtain ⟨iface, hiface, hevent⟩ := h
  rw [← Option.some.inj hevent]
  exact hkeyed entry.1 iface hiface

lemma filter_events (hkeyed : Keyed update.interfaces) (i : UInt32) :
    (eventsFromUpdate update).filter (fun event => event.index = i) =
      (update.diff.added.filter (fun idx => idx = i)).filterMap (addedEvent update.interfaces) ++
        (update.diff.removed.filter (fun idx => idx = i)).map removedEvent ++
        (update.diff.modified.filter (fun entry => entry.1 = i)).filterMap
          (modifiedEvent update.interfaces) := by
  rw [eventsFromUpdate, List.filter_append, List.filter_append, List.filter_map,
    filter_filterMap_key (index_of_addedEvent hkeyed),
    filter_filterMap_key (index_of_modifiedEvent hkeyed)]
  rfl

/-- The events of an index take its snapshot before to the one after, and there is one event just
when the interface is another one. -/
lemma events_at (hexact : update.Exact old) (hkeyed : Keyed update.interfaces) (i : UInt32) :
    let events := (eventsFromUpdate update).filter (fun event => event.index = i)
    events.foldl UpdateEvent.effect (old[i]?.map ifaceToSnapshot) =
        update.interfaces[i]?.map ifaceToSnapshot ∧
      events.length = if old[i]? = update.interfaces[i]? then 0 else 1 := by
  intro events
  have hadded := hexact.added i
  have hremoved := hexact.removed i
  have hmodified := hexact.modified i
  simp only [ExtHashMap.mem_iff_isSome_getElem?] at hadded hremoved hmodified
  have hevents : events = _ := filter_events hkeyed i
  rw [filter_eq_of_nodup hexact.added_nodup, filter_eq_of_nodup hexact.removed_nodup] at hevents
  have hunmodified : i ∉ update.diff.modified.map Prod.fst →
      update.diff.modified.filter (fun entry => entry.1 = i) = [] := filter_key_of_not_mem
  cases hold : old[i]? with
  | none =>
    simp only [hold, Option.isSome_none, Bool.false_eq_true, false_and, iff_false,
      not_false_eq_true, true_and] at hadded hremoved hmodified
    rw [if_neg hremoved, hunmodified hmodified] at hevents
    cases hnew : update.interfaces[i]? with
    | none =>
      rw [if_neg (by simp [hadded, hnew])] at hevents
      simp [hevents]
    | some iface =>
      rw [if_pos (by simp [hadded, hnew])] at hevents
      simp [hevents, addedEvent, hnew, UpdateEvent.effect]
  | some before =>
    simp only [hold, Option.isSome_some, not_true_eq_false, false_and, iff_false, true_and]
      at hadded hremoved hmodified
    rw [if_neg hadded] at hevents
    cases hnew : update.interfaces[i]? with
    | none =>
      rw [if_pos (by simp [hremoved, hnew]), hunmodified (by simp [hmodified, hnew])] at hevents
      simp [hevents, removedEvent, UpdateEvent.effect]
    | some iface =>
      rw [if_neg (by simp [hremoved, hnew])] at hevents
      by_cases hsame : before = iface
      · rw [hunmodified (by simp [hmodified, hnew, hsame])] at hevents
        simp [hevents, hsame]
      · have hmem : i ∈ update.diff.modified.map Prod.fst := by simp [hmodified, hnew, hsame]
        obtain ⟨⟨idx, diff⟩, hentry, rfl⟩ := List.mem_map.mp hmem
        rw [filter_key_of_mem update.diff.modified_nodup hentry] at hevents
        simp [hevents, modifiedEvent, hnew, hsame, UpdateEvent.effect]

end

/-- Applied to the snapshots of the interfaces that there were, the events give those of the
interfaces that there are. Every index whose interface is another one has one event, and no other
index has any. -/
theorem events_rebuild (update : Update) (old : ExtHashMap UInt32 Interface)
    (hexact : update.Exact old) (hkeyed : Keyed update.interfaces) :
    (eventsFromUpdate update).foldl UpdateEvent.apply (listInterfaces old) =
        listInterfaces update.interfaces ∧
      ∀ i, ((eventsFromUpdate update).filter (fun event => event.index = i)).length =
        if old[i]? = update.interfaces[i]? then 0 else 1 := by
  constructor
  · apply ExtHashMap.ext_getElem?
    intro i
    have hevents := (events_at hexact hkeyed i).1
    rw [UpdateEvent.actsAt.foldl (eventsFromUpdate update) (listInterfaces old) i]
    unfold listInterfaces
    rw [ExtHashMap.getElem?_map, ExtHashMap.getElem?_map]
    exact hevents
  · intro i
    exact (events_at hexact hkeyed i).2

def loopback : Interface :=
  ⟨1, "lo", "", [⟨.v4 ⟨#v[127, 0, 0, 1]⟩, 8⟩]⟩

def cable (host : UInt8) : Interface :=
  ⟨2, "eth0", "02:00:00:00:00:01", [⟨.v4 ⟨#v[192, 168, 0, host]⟩, 24⟩]⟩

def cabled : ExtHashMap UInt32 Interface :=
  (((∅ : ExtHashMap UInt32 Interface).insert 1 loopback).insert 2 (cable 2)).insert 3
    ⟨3, "wlan0", "02:00:00:00:00:02", []⟩

/-- The radio interface is gone, the cable has another address and a tunnel has come up. -/
def switched : Update where
  interfaces :=
    (((∅ : ExtHashMap UInt32 Interface).insert 1 loopback).insert 2 (cable 7)).insert 7
      ⟨7, "tun0", "", [⟨.v4 ⟨#v[10, 0, 0, 1]⟩, 8⟩]⟩
  diff := ⟨[7], [3], [(2, ⟨false, (cable 7).ips, (cable 2).ips⟩)], List.nodup_singleton 2⟩

lemma switched_exact : switched.Exact cabled where
  added i := by
    simp only [switched, cabled, ExtHashMap.mem_insert]
    grind
  removed i := by
    simp only [switched, cabled, ExtHashMap.mem_insert]
    grind
  modified i := by
    have hcable : cable 2 ≠ cable 7 := by decide
    simp only [switched, cabled, ExtHashMap.mem_insert, ExtHashMap.getElem?_insert]
    grind
  added_nodup := List.nodup_singleton 7
  removed_nodup := List.nodup_singleton 3

lemma switched_keyed : Keyed switched.interfaces := by
  intro i iface h
  simp only [switched, ExtHashMap.getElem?_insert] at h
  grind [loopback, cable]

theorem events_rebuild_switched :
    (eventsFromUpdate switched).foldl UpdateEvent.apply (listInterfaces cabled) =
        listInterfaces switched.interfaces ∧
      ∀ i, ((eventsFromUpdate switched).filter (fun event => event.index = i)).length =
        if cabled[i]? = switched.interfaces[i]? then 0 else 1 :=
  events_rebuild switched cabled switched_exact switched_keyed

end Pingling.Shared
