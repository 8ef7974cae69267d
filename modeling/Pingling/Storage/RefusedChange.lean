import Pingling.Storage.SettingsStorage

/-!
# Changes that are refused

A change is made in memory before the file is replaced, and stays there when the replacement
fails. A refused change leaves no trace only when it changes nothing.
-/

namespace Pingling.Storage
open Lib Domain

/-- The settings after a change. -/
def Change.apply : Change → Settings → Settings
  | .setString key value, data => data.insert key value
  | .remove key, data => data.erase key
  | .clear, _ => ∅

/-- The settings are already as the change would make them. -/
def Change.Vacuous : Change → Settings → Prop
  | .setString key value, data => data[key]? = some value
  | .remove key, data => data[key]? = none
  | .clear, data => ∀ key : String, data[key]? = none

lemma Change.apply_eq_self {change : Change} {data : Settings} :
    change.apply data = data ↔ change.Vacuous data := by
  cases change with
  | setString key value =>
    constructor
    · intro h
      rw [Vacuous, ← h, apply, Std.ExtTreeMap.getElem?_insert_self]
    · intro h
      apply Std.ExtTreeMap.ext_getElem?
      intro k
      rw [apply, Std.ExtTreeMap.getElem?_insert]
      by_cases hk : compare key k = .eq
      · rw [if_pos hk, ← Std.LawfulEqCmp.eq_of_compare hk]
        exact h.symm
      · rw [if_neg hk]
  | remove key =>
    constructor
    · intro h
      rw [Vacuous, ← h, apply, Std.ExtTreeMap.getElem?_erase_self]
    · intro h
      apply Std.ExtTreeMap.ext_getElem?
      intro k
      rw [apply, Std.ExtTreeMap.getElem?_erase]
      by_cases hk : compare key k = .eq
      · rw [if_pos hk, ← Std.LawfulEqCmp.eq_of_compare hk]
        exact h.symm
      · rw [if_neg hk]
  | clear =>
    constructor
    · intro h key
      rw [← h, apply, Std.ExtTreeMap.getElem?_empty]
    · intro h
      apply Std.ExtTreeMap.ext_getElem?
      intro k
      rw [apply, Std.ExtTreeMap.getElem?_empty, h k]

namespace JsonFileSettingsStorage

variable {codec : Codec} {store : JsonFileSettingsStorage} {disk disk' : Disk}

lemma change_eq_mutate (codec : Codec) (change : Change) (cut : Option Cut)
    (store : JsonFileSettingsStorage) (disk : Disk) :
    store.change codec change cut disk = store.mutate codec change.apply cut disk := by
  cases change <;> rfl

lemma rename_notMem_prepareOps (path : SettingsPath) : .rename ∉ prepareOps path := by
  unfold prepareOps
  cases path.parent <;> simp

lemma rename_notMem_writeOps (path : SettingsPath) (bytes : ByteArray) :
    .rename ∉ prepareOps path ++ [.write bytes, .sync] := by
  simp [rename_notMem_prepareOps]

/-- The temporary file holds the new contents before it is renamed. -/
lemma tmp_completeOps (path : SettingsPath) (bytes : ByteArray) (disk : Disk) :
    (completeOps (prepareOps path ++ [.write bytes, .sync]) disk).tmp = some bytes := by
  unfold prepareOps
  cases path.parent <;> simp [completeOps, DiskOp.run]

/-- How a `persist` that encodes the settings may end, and what the file then holds. -/
lemma replaced_persist {json : String} (h : codec.encode store.data = .ok json)
    (cut : Option Cut) (disk : Disk) :
    Replaced disk.file json.toUTF8 (store.persist codec cut disk).1
      (store.persist codec cut disk).2.file := by
  simp only [persist, h]
  exact replaced_runOps (rename_notMem_writeOps store.path _)
    (tmp_completeOps store.path _ disk) cut

lemma file_persist_of_encode_error {e : String} (h : codec.encode store.data = .error e)
    (cut : Option Cut) (disk : Disk) : (store.persist codec cut disk).2.file = disk.file := by
  have hfile : (runOps (failure store.path) (prepareOps store.path) cut disk).2.file =
      disk.file := file_runOps (rename_notMem_prepareOps store.path) cut disk
  simp only [persist, h]
  cases hrun : runOps (failure store.path) (prepareOps store.path) cut disk with
  | mk ending left =>
    rw [hrun] at hfile
    cases ending <;> exact hfile

/-- A `persist` that fails leaves the file alone. -/
lemma file_of_persist_failed {cut : Option Cut} {e : VpnError}
    (h : (store.persist codec cut disk).1 = .failed e) :
    (store.persist codec cut disk).2.file = disk.file := by
  cases hencode : codec.encode store.data with
  | ok json =>
    have hreplaced := replaced_persist hencode cut disk
    rw [h] at hreplaced
    generalize (store.persist codec cut disk).2.file = file at hreplaced
    cases hreplaced
    rfl
  | error e' => exact file_persist_of_encode_error hencode cut disk

lemma ending_persist (codec : Codec) (cut : Option Cut) (store : JsonFileSettingsStorage)
    (disk disk' : Disk) :
    (store.persist codec cut disk).1 = (store.persist codec cut disk').1 := by
  cases hencode : codec.encode store.data with
  | ok json =>
    simp only [persist, hencode]
    exact ending_runOps _ cut disk disk'
  | error e =>
    have hending : (runOps (failure store.path) (prepareOps store.path) cut disk).1 =
        (runOps (failure store.path) (prepareOps store.path) cut disk').1 :=
      ending_runOps _ cut disk disk'
    simp only [persist, hencode]
    cases hrun : runOps (failure store.path) (prepareOps store.path) cut disk with
    | mk ending left =>
      cases hrun' : runOps (failure store.path) (prepareOps store.path) cut disk' with
      | mk ending' left' =>
        rw [hrun, hrun'] at hending
        simp only at hending
        rw [hending]
        cases ending' <;> rfl

/-- What the temporary file held at first makes no difference to `persist`. -/
lemma file_persist_congr (hfile : disk.file = disk'.file) (cut : Option Cut) :
    (store.persist codec cut disk).2.file = (store.persist codec cut disk').2.file := by
  cases hencode : codec.encode store.data with
  | ok json =>
    simp only [persist, hencode]
    apply file_runOps_congr (rename_notMem_writeOps store.path _) hfile
    rw [tmp_completeOps, tmp_completeOps]
  | error e =>
    rw [file_persist_of_encode_error hencode, file_persist_of_encode_error hencode, hfile]

end JsonFileSettingsStorage

namespace World

open JsonFileSettingsStorage

variable {codec : Codec} {path : SettingsPath}

structure SameButTmp (w w' : World) : Prop where
  file : w.disk.file = w'.disk.file
  store : w.store = w'.store
  log : w.log = w'.log

lemma SameButTmp.openStore {w w' : World} (h : SameButTmp w w') (io : OpenIo) :
    SameButTmp (w.openStore codec path io) (w'.openStore codec path io) := by
  have hread : JsonFileSettingsStorage.withPath codec path io w.disk =
      JsonFileSettingsStorage.withPath codec path io w'.disk := by
    rw [JsonFileSettingsStorage.withPath, JsonFileSettingsStorage.withPath, h.file]
  unfold World.openStore
  rw [hread]
  cases JsonFileSettingsStorage.withPath codec path io w'.disk with
  | ok store => exact ⟨h.file, rfl, by rw [h.log]⟩
  | error e => exact ⟨h.file, h.store, by rw [h.log]⟩

lemma SameButTmp.changeStore {w w' : World} (h : SameButTmp w w') (change : Change)
    (cut : Option Cut) (store : JsonFileSettingsStorage) :
    SameButTmp (w.changeStore codec change cut store) (w'.changeStore codec change cut store) := by
  have hending := ending_persist codec cut { store with data := change.apply store.data }
    w.disk w'.disk
  have hfile : (persist codec cut { store with data := change.apply store.data } w.disk).2.file =
      (persist codec cut { store with data := change.apply store.data } w'.disk).2.file :=
    file_persist_congr h.file cut
  simp only [World.changeStore, change_eq_mutate, mutate]
  cases hp : persist codec cut { store with data := change.apply store.data } w.disk with
  | mk ending left =>
    cases hp' : persist codec cut { store with data := change.apply store.data } w'.disk with
    | mk ending' left' =>
      rw [hp, hp'] at hending hfile
      simp only at hending hfile
      rw [hending, h.log]
      cases ending' <;> exact ⟨hfile, rfl, rfl⟩

/-- A step is possible in both of such worlds or in neither, and leads to such worlds. -/
lemma SameButTmp.step {w w' : World} (h : SameButTmp w w') (a : StoreStep) :
    (World.step codec path a w = none ∧ World.step codec path a w' = none) ∨
      ∃ t t', World.step codec path a w = some t ∧ World.step codec path a w' = some t' ∧
        SameButTmp t t' := by
  cases hstore : w.store with
  | none =>
    have hstore' : w'.store = none := by rw [← h.store, hstore]
    cases a with
    | withPath io =>
      exact .inr ⟨_, _, step_withPath hstore io, step_withPath hstore' io, h.openStore io⟩
    | _ => exact .inl ⟨by rw [World.step, hstore]; rfl, by rw [World.step, hstore']; rfl⟩
  | some store =>
    have hstore' : w'.store = some store := by rw [← h.store, hstore]
    cases a with
    | withPath io => exact .inl ⟨by rw [World.step, hstore], by rw [World.step, hstore']⟩
    | change change cut =>
      exact .inr ⟨_, _, step_change hstore change cut, step_change hstore' change cut,
        h.changeStore change cut store⟩
    | query query =>
      exact .inr ⟨_, _, step_query hstore query, step_query hstore' query,
        ⟨h.file, h.store, by rw [h.log]⟩⟩
    | die =>
      exact .inr ⟨_, _, step_die hstore, step_die hstore', ⟨h.file, rfl, by rw [h.log]⟩⟩

/-- Whatever is done next, the file holds the same. -/
lemma SameButTmp.runSteps {w w' : World} (h : SameButTmp w w') (steps : List StoreStep) :
    (Lib.runSteps (World.step codec path) steps w).map (fun w => w.disk.file) =
      (Lib.runSteps (World.step codec path) steps w').map (fun w => w.disk.file) := by
  induction steps generalizing w w' with
  | nil => rw [runSteps_nil, runSteps_nil, Option.map_some, Option.map_some, h.file]
  | cons a steps ih =>
    rw [Lib.runSteps, Lib.runSteps]
    obtain ⟨hnone, hnone'⟩ | ⟨t, t', ht, ht', hsame⟩ := SameButTmp.step h a
    · rw [hnone, hnone']
    · rw [ht, ht']
      exact ih hsame

end World

/-- A call has left no trace: every query is answered as before it, and whatever is done next,
the file holds what it would hold had the call not been made. -/
structure NoTrace (codec : Codec) (store : JsonFileSettingsStorage) (disk : Disk)
    (store' : JsonFileSettingsStorage) (disk' : Disk) : Prop where
  answers : ∀ query, store'.query query = store.query query
  later : ∀ steps,
    (runSteps (World.step codec store.path) steps ⟨disk', some store', []⟩).map
        (fun w => w.disk.file) =
      (runSteps (World.step codec store.path) steps ⟨disk, some store, []⟩).map
        (fun w => w.disk.file)

/-- A call that is refused leaves no trace if and only if its change changes nothing. -/
theorem noTrace_iff_vacuous (codec : Codec) (store : JsonFileSettingsStorage) (disk : Disk)
    (change : Change) (cut : Option Cut) (e : VpnError)
    (hfailed : (store.change codec change cut disk).1 = .failed e) :
    NoTrace codec store disk (store.change codec change cut disk).2.1
      (store.change codec change cut disk).2.2 ↔ change.Vacuous store.data := by
  rw [JsonFileSettingsStorage.change_eq_mutate] at hfailed ⊢
  rw [← Change.apply_eq_self]
  constructor
  · intro h
    apply Std.ExtTreeMap.ext_getElem?
    intro key
    have hanswer := h.answers (.getString key)
    simp only [JsonFileSettingsStorage.query, JsonFileSettingsStorage.getString,
      JsonFileSettingsStorage.mutate, Except.map, Except.ok.injEq, Answer.value.injEq] at hanswer
    exact hanswer
  · intro hsame
    have hstore : { store with data := change.apply store.data } = store := by rw [hsame]
    have hfile := JsonFileSettingsStorage.file_of_persist_failed hfailed
    simp only [JsonFileSettingsStorage.mutate, hstore] at hfile ⊢
    have hworlds : World.SameButTmp ⟨(store.persist codec cut disk).2, some store, []⟩
        ⟨disk, some store, []⟩ := ⟨hfile, rfl, rfl⟩
    exact ⟨fun _ => rfl, hworlds.runSteps⟩

/-- An empty store whose directory cannot be created. -/
def emptyStore : JsonFileSettingsStorage :=
  ⟨⟨"/run/app/settings.json", some "/run/app", "/run/app/settings.json.tmp"⟩, ∅⟩

def noDirectory : Cut :=
  ⟨0, none, .failure "permission denied"⟩

theorem noTrace_of_remove : NoTrace jsonCodec emptyStore ⟨none, none⟩
    (emptyStore.change jsonCodec (.remove "theme") (some noDirectory) ⟨none, none⟩).2.1
    (emptyStore.change jsonCodec (.remove "theme") (some noDirectory) ⟨none, none⟩).2.2 :=
  (noTrace_iff_vacuous jsonCodec emptyStore ⟨none, none⟩ (.remove "theme") (some noDirectory) _
    rfl).mpr Std.ExtTreeMap.getElem?_empty

/-- A value whose `set_string` is refused is read back all the same. -/
theorem not_noTrace_of_failed : ¬ ∀ (codec : Codec) (store : JsonFileSettingsStorage)
    (disk : Disk) (change : Change) (cut : Option Cut) (e : VpnError),
    (store.change codec change cut disk).1 = .failed e →
      NoTrace codec store disk (store.change codec change cut disk).2.1
        (store.change codec change cut disk).2.2 := by
  intro hnoTrace
  have htrace := hnoTrace jsonCodec emptyStore ⟨none, none⟩ (.setString "theme" "dark")
    (some noDirectory) _ rfl
  have hvalue := htrace.answers (.getString "theme")
  simp only [emptyStore, JsonFileSettingsStorage.change_eq_mutate, JsonFileSettingsStorage.mutate,
    Change.apply, JsonFileSettingsStorage.query, JsonFileSettingsStorage.getString, Except.map,
    Std.ExtTreeMap.getElem?_insert_self, Std.ExtTreeMap.getElem?_empty] at hvalue
  cases hvalue

end Pingling.Storage
