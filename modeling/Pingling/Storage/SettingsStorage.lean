import Pingling.Domain.Types
import Pingling.Lib.JsonText
import Pingling.Lib.Replace
import Pingling.Lib.Steps

/-!
# Settings storage

The settings are a map of strings. One store keeps them in memory only, the other also in a
JSON file, which it replaces after each change and reads when it is opened. A `StoreStep` is
what happens to the process that has the file open, its end included.
-/

namespace Pingling.Storage
open Lib Domain

abbrev Settings := BTreeMap String String

/-- A question to a store. -/
inductive Query where
  | getString (key : String)
  | has (key : String)
  | keys
  | len
  | isEmpty
  deriving DecidableEq

/-- The answers to the questions. -/
inductive Answer where
  | value (value : Option String)
  | flag (flag : Bool)
  | names (keys : List String)
  | count (count : ℕ)
  deriving DecidableEq

/-- A change of the settings. -/
inductive Change where
  | setString (key value : String)
  | remove (key : String)
  | clear
  deriving DecidableEq

/-- `has`, where a store does not define its own. -/
def hasDefault (getString : String → Except VpnError (Option String)) (key : String) :
    Except VpnError Bool := do
  return (← getString key).isSome

/-- Settings that are kept in memory. -/
structure MemorySettingsStorage where
  data : Settings

namespace MemorySettingsStorage

def new : MemorySettingsStorage :=
  ⟨∅⟩

def getString (key : String) (store : MemorySettingsStorage) : Except VpnError (Option String) :=
  .ok store.data[key]?

def setString (key value : String) (store : MemorySettingsStorage) : MemorySettingsStorage :=
  ⟨store.data.insert key value⟩

def remove (key : String) (store : MemorySettingsStorage) : MemorySettingsStorage :=
  ⟨store.data.erase key⟩

def has (key : String) (store : MemorySettingsStorage) : Except VpnError Bool :=
  .ok (store.data.contains key)

def keys (store : MemorySettingsStorage) : Except VpnError (List String) :=
  .ok store.data.keys

def clear (_ : MemorySettingsStorage) : MemorySettingsStorage :=
  ⟨∅⟩

def len (store : MemorySettingsStorage) : Except VpnError ℕ :=
  .ok store.data.size

def isEmpty (store : MemorySettingsStorage) : Except VpnError Bool :=
  .ok store.data.isEmpty

def query : Query → MemorySettingsStorage → Except VpnError Answer
  | .getString key, store => (store.getString key).map .value
  | .has key, store => (store.has key).map .flag
  | .keys, store => store.keys.map .names
  | .len, store => store.len.map .count
  | .isEmpty, store => store.isEmpty.map .flag

/-- A change of the memory store, which never fails. -/
def change : Change → MemorySettingsStorage → MemorySettingsStorage
  | .setString key value, store => store.setString key value
  | .remove key, store => store.remove key
  | .clear, store => store.clear

end MemorySettingsStorage

/-- Writing and reading maps of strings as JSON. -/
structure Codec where
  encode : Settings → Except String String
  decode : String → Except String Settings

/-- Maps of strings as they are written in practice. -/
def jsonCodec : Codec where
  encode := fun data => .ok (JsonText.encode data)
  decode := fun text =>
    match JsonText.decode text with
    | some data => .ok data
    | none => .error "invalid settings"

/-- The path of the settings file, its parent and the path of the temporary file. -/
structure SettingsPath where
  path : String
  parent : Option String
  tmp : String

/-- Settings that are kept in memory and in a file. -/
structure JsonFileSettingsStorage where
  path : SettingsPath
  data : Settings

/-- What the file system says to `with_path`, besides what the file holds. -/
structure OpenIo where
  createDir : Option String
  hidden : Bool
  read : Option String

namespace JsonFileSettingsStorage

/-- `with_path`. A file that `exists` does not see counts as none. -/
def withPath (codec : Codec) (path : SettingsPath) (io : OpenIo) (disk : Disk) :
    Except VpnError JsonFileSettingsStorage := do
  match path.parent, io.createDir with
  | some parent, some e => .error (.storageError s!"create settings dir {parent}: {e}")
  | _, _ =>
    let name := path.path
    match if io.hidden then none else disk.file with
    | none => return ⟨path, ∅⟩
    | some bytes =>
      let text ←
        match io.read, String.fromUTF8? bytes with
        | some e, _ => .error (.storageError s!"read settings {name}: {e}")
        | none, none =>
          .error (.storageError s!"read settings {name}: stream did not contain valid UTF-8")
        | none, some text => .ok text
      match codec.decode text with
      | .ok data => return ⟨path, data⟩
      | .error e => .error (.storageError s!"parse settings {name}: {e}")

/-- The error that `persist` makes of a disk operation that fails. -/
def failure (path : SettingsPath) : DiskOp → String → VpnError
  | .createDir, e =>
    let parent := path.parent.getD ""
    .storageError s!"create settings dir {parent}: {e}"
  | .createTmp, e =>
    let tmp := path.tmp
    .storageError s!"create settings tmp {tmp}: {e}"
  | .write _, e | .sync, e => .storageError s!"write settings tmp: {e}"
  | .rename, e =>
    let name := path.path
    .storageError s!"rename settings {name}: {e}"

/-- The disk operations of `persist` before it encodes the settings. -/
def prepareOps (path : SettingsPath) : List DiskOp :=
  match path.parent with
  | some _ => [.createDir, .createTmp]
  | none => [.createTmp]

/-- `persist`, up to a cut. -/
def persist (codec : Codec) (cut : Option Cut) (store : JsonFileSettingsStorage) (disk : Disk) :
    Ending VpnError × Disk :=
  let prepare := prepareOps store.path
  match codec.encode store.data with
  | .ok json =>
    runOps (failure store.path) (prepare ++ [.write json.toUTF8, .sync] ++ [.rename]) cut disk
  | .error e =>
    match runOps (failure store.path) prepare cut disk with
    | (.done, disk) => (.failed (.storageError s!"encode settings: {e}"), disk)
    | interrupted => interrupted

def getString (key : String) (store : JsonFileSettingsStorage) :
    Except VpnError (Option String) :=
  .ok store.data[key]?

/-- Change the settings in memory, and then the file. -/
def mutate (codec : Codec) (f : Settings → Settings) (cut : Option Cut)
    (store : JsonFileSettingsStorage) (disk : Disk) :
    Ending VpnError × JsonFileSettingsStorage × Disk :=
  let store := { store with data := f store.data }
  let (ending, disk) := store.persist codec cut disk
  (ending, store, disk)

def setString (codec : Codec) (key value : String) (cut : Option Cut) :=
  mutate codec (fun data => data.insert key value) cut

def remove (codec : Codec) (key : String) (cut : Option Cut) :=
  mutate codec (fun data => data.erase key) cut

def clear (codec : Codec) (cut : Option Cut) :=
  mutate codec (fun _ => ∅) cut

def keys (store : JsonFileSettingsStorage) : Except VpnError (List String) :=
  .ok store.data.keys

def len (store : JsonFileSettingsStorage) : Except VpnError ℕ :=
  .ok store.data.size

def isEmpty (store : JsonFileSettingsStorage) : Except VpnError Bool :=
  .ok store.data.isEmpty

def query : Query → JsonFileSettingsStorage → Except VpnError Answer
  | .getString key, store => (store.getString key).map .value
  | .has key, store => (hasDefault (fun key => store.getString key) key).map .flag
  | .keys, store => store.keys.map .names
  | .len, store => store.len.map .count
  | .isEmpty, store => store.isEmpty.map .flag

def change (codec : Codec) : Change → Option Cut → JsonFileSettingsStorage → Disk →
    Ending VpnError × JsonFileSettingsStorage × Disk
  | .setString key value => setString codec key value
  | .remove key => remove codec key
  | .clear => clear codec

end JsonFileSettingsStorage

/-- What a step of the process shows. -/
inductive Entry where
  | opened
  | notOpened (error : VpnError)
  | changed (change : Change)
  | refused (change : Change) (error : VpnError)
  | cut (change : Change)
  | answered (query : Query) (answer : Except VpnError Answer)
  | died

/-- The disk, the store of the process that runs, if one does, and what has been shown. -/
structure World where
  disk : Disk
  store : Option JsonFileSettingsStorage
  log : List Entry

/-- A process opens the store, changes it, asks it something or dies. -/
inductive StoreStep where
  | withPath (io : OpenIo)
  | change (change : Change) (cut : Option Cut)
  | query (query : Query)
  | die

namespace World

/-- A process that opens the settings at a path. -/
def openStore (codec : Codec) (path : SettingsPath) (io : OpenIo) (w : World) : World :=
  match JsonFileSettingsStorage.withPath codec path io w.disk with
  | .ok store => { w with store := some store, log := w.log ++ [.opened] }
  | .error e => { w with log := w.log ++ [.notOpened e] }

/-- A call that changes the settings. A process that dies loses its store. -/
def changeStore (codec : Codec) (change : Change) (cut : Option Cut)
    (store : JsonFileSettingsStorage) (w : World) : World :=
  match store.change codec change cut w.disk with
  | (.done, store, disk) => ⟨disk, some store, w.log ++ [.changed change]⟩
  | (.failed e, store, disk) => ⟨disk, some store, w.log ++ [.refused change e]⟩
  | (.crashed, _, disk) => ⟨disk, none, w.log ++ [.cut change]⟩

def step (codec : Codec) (path : SettingsPath) : StoreStep → World → Option World
  | .withPath io, w =>
    match w.store with
    | none => some (w.openStore codec path io)
    | some _ => none
  | .change change cut, w => w.store.map (fun store => w.changeStore codec change cut store)
  | .query query, w => w.store.map (fun store =>
    { w with log := w.log ++ [.answered query (store.query query)] })
  | .die, w => w.store.map (fun _ => { w with store := none, log := w.log ++ [.died] })

section

variable {codec : Codec} {path : SettingsPath} {w : World} {store : JsonFileSettingsStorage}

lemma step_withPath (h : w.store = none) (io : OpenIo) :
    step codec path (.withPath io) w = some (w.openStore codec path io) := by
  rw [step, h]

lemma step_change (h : w.store = some store) (change : Change) (cut : Option Cut) :
    step codec path (.change change cut) w = some (w.changeStore codec change cut store) := by
  rw [step, h]
  rfl

lemma step_query (h : w.store = some store) (query : Query) :
    step codec path (.query query) w =
      some { w with log := w.log ++ [.answered query (store.query query)] } := by
  simp only [step, h, Option.map_some]

lemma step_die (h : w.store = some store) :
    step codec path .die w = some { w with store := none, log := w.log ++ [.died] } := by
  simp only [step, h, Option.map_some]

end
end World
end Pingling.Storage
