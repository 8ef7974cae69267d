import Pingling.Storage.RefusedChange

/-!
# Crashes

A process may die at any point and leave any temporary file behind. What its successors read
is what a memory store would hold that was given the same changes, where the change that the
process was making is made or is not made.
-/

namespace Pingling.Storage
open Lib Domain

/-- What a memory store that is empty at first would show, with the memory store that is left.
A change that is cut counts as made or as not made. -/
inductive Explained : List Entry → MemorySettingsStorage → Prop where
  | new : Explained [] .new
  | opened {log memory} : Explained log memory → Explained (log ++ [.opened]) memory
  | died {log memory} : Explained log memory → Explained (log ++ [.died]) memory
  | changed {log memory} (change : Change) : Explained log memory →
      Explained (log ++ [.changed change]) (memory.change change)
  | answered {log memory} (query : Query) : Explained log memory →
      Explained (log ++ [.answered query (memory.query query)]) memory
  | cutDone {log memory} (change : Change) : Explained log memory →
      Explained (log ++ [.cut change]) (memory.change change)
  | cutUndone {log memory} (change : Change) : Explained log memory →
      Explained (log ++ [.cut change]) memory

/-- The file system reports no error to a step. -/
def StoreStep.NoIoError : StoreStep → Prop
  | .withPath io => io.createDir = none ∧ io.hidden = false ∧ io.read = none
  | .change _ cut => ∀ c ∈ cut, c.cause = .crash
  | _ => True

/-- Decoding undoes encoding. -/
def Codec.Lossless (codec : Codec) : Prop :=
  ∀ data, ∃ json, codec.encode data = .ok json ∧ codec.decode json = .ok data

/-- The file holds the settings. The empty settings need no file. -/
def Holds (codec : Codec) (data : Settings) : Option ByteArray → Prop
  | none => data = ∅
  | some bytes => ∃ json, codec.encode data = .ok json ∧ bytes = json.toUTF8

lemma jsonCodec_lossless : jsonCodec.Lossless := by
  intro data
  refine ⟨_, rfl, ?_⟩
  simp only [jsonCodec, JsonText.decode_encode]

lemma memory_change (change : Change) (memory : MemorySettingsStorage) :
    (memory.change change).data = change.apply memory.data := by
  cases change <;> rfl

/-- Two stores with the same settings answer alike. -/
lemma query_eq {store : JsonFileSettingsStorage} {memory : MemorySettingsStorage}
    (h : store.data = memory.data) (query : Query) : store.query query = memory.query query := by
  obtain ⟨path, data⟩ := store
  obtain rfl : data = memory.data := h
  cases query with
  | has key =>
    have hcontains : memory.data[key]?.isSome = memory.data.contains key :=
      Std.ExtTreeMap.contains_eq_isSome_getElem?.symm
    change Except.map Answer.flag (.ok memory.data[key]?.isSome) = _
    rw [hcontains]
    rfl
  | _ => rfl

namespace World

open JsonFileSettingsStorage

variable {codec : Codec} {path : SettingsPath} {w t : World}

/-- The log is explained by a memory store that holds what the process holds in memory and
what the file holds. -/
structure Mirrored (codec : Codec) (w : World) (memory : MemorySettingsStorage) : Prop where
  explained : Explained w.log memory
  store : ∀ store, w.store = some store → store.data = memory.data
  file : Holds codec memory.data w.disk.file
  opens : ∀ e, .notOpened e ∉ w.log

lemma withPath_of_holds (hcodec : codec.Lossless) {data : Settings} {disk : Disk}
    (h : Holds codec data disk.file) {io : OpenIo} (hdir : io.createDir = none)
    (hseen : io.hidden = false) (hread : io.read = none) :
    withPath codec path io disk = .ok ⟨path, data⟩ := by
  unfold withPath
  rw [hdir, hseen, hread]
  cases hfile : disk.file with
  | none =>
    rw [hfile] at h
    have hempty : data = ∅ := h
    rw [hempty]
    cases path.parent <;> rfl
  | some bytes =>
    rw [hfile] at h
    obtain ⟨json, hencode, rfl⟩ := h
    obtain ⟨json', hencode', hdecode⟩ := hcodec data
    obtain rfl : json = json' := Except.ok.inj (hencode.symm.trans hencode')
    have htext : String.fromUTF8? json.toByteArray = some json := by
      simp only [String.fromUTF8?, Option.dite_none_right_eq_some]
      exact ⟨json.isValidUTF8, rfl⟩
    cases path.parent <;> simp [htext, hdecode, bind, Except.bind, pure, Except.pure]

lemma Mirrored.openStore (hcodec : codec.Lossless) {memory : MemorySettingsStorage}
    (h : w.Mirrored codec memory) {io : OpenIo} (hio : (StoreStep.withPath io).NoIoError) :
    (w.openStore codec path io).Mirrored codec memory := by
  have hopen : withPath codec path io w.disk = .ok ⟨path, memory.data⟩ :=
    withPath_of_holds hcodec h.file hio.1 hio.2.1 hio.2.2
  simp only [World.openStore, hopen]
  exact ⟨h.explained.opened, fun store hstore => by rw [← Option.some.inj hstore], h.file,
    by simpa using h.opens⟩

/-- Only a failing disk operation makes a `persist` that encodes the settings fail. -/
lemma ending_persist_ne_failed {store : JsonFileSettingsStorage} {json : String}
    (hencode : codec.encode store.data = .ok json) {cut : Option Cut}
    (hcut : ∀ c ∈ cut, c.cause = .crash) (disk : Disk) (e : VpnError) :
    (store.persist codec cut disk).1 ≠ .failed e := by
  simp only [persist, hencode]
  exact ending_runOps_ne_failed _ hcut disk e

/-- A change that is not refused is made both in memory and in the file, or is cut before or
after it is made. -/
lemma Mirrored.changeStore (hcodec : codec.Lossless) {memory : MemorySettingsStorage}
    (h : w.Mirrored codec memory) {store : JsonFileSettingsStorage} (hstore : w.store = some store)
    (change : Change) {cut : Option Cut} (hcut : ∀ c ∈ cut, c.cause = .crash) :
    ∃ memory', (w.changeStore codec change cut store).Mirrored codec memory' := by
  have hdata : change.apply store.data = (memory.change change).data := by
    rw [memory_change, h.store store hstore]
  obtain ⟨json, hencode, -⟩ := hcodec (change.apply store.data)
  have hreplaced : Replaced w.disk.file json.toUTF8
      (persist codec cut { store with data := change.apply store.data } w.disk).1
      (persist codec cut { store with data := change.apply store.data } w.disk).2.file :=
    replaced_persist hencode cut w.disk
  have hnew : Holds codec (memory.change change).data (some json.toUTF8) :=
    ⟨json, by rw [← hdata, hencode], rfl⟩
  simp only [World.changeStore, change_eq_mutate, mutate]
  cases hp : persist codec cut { store with data := change.apply store.data } w.disk with
  | mk ending left =>
    rw [hp] at hreplaced
    simp only at hreplaced
    generalize hfile : left.file = file at hreplaced
    cases hreplaced with
    | done =>
      refine ⟨memory.change change, h.explained.changed change, fun store' hstore' => ?_,
        hfile ▸ hnew, by simpa using h.opens⟩
      rw [← Option.some.inj hstore', hdata]
    | failed e => exact absurd (congrArg Prod.fst hp) (ending_persist_ne_failed hencode hcut _ e)
    | crashedBefore =>
      exact ⟨memory, h.explained.cutUndone change, fun _ hnone => (by cases hnone),
        by simpa only [hfile] using h.file, by simpa using h.opens⟩
    | crashedAfter =>
      exact ⟨memory.change change, h.explained.cutDone change, fun _ hnone => (by cases hnone),
        by simpa only [hfile] using hnew, by simpa using h.opens⟩

lemma Mirrored.step (hcodec : codec.Lossless) {memory : MemorySettingsStorage}
    (h : w.Mirrored codec memory) {a : StoreStep} (hio : a.NoIoError)
    (ha : step codec path a w = some t) : ∃ memory', t.Mirrored codec memory' := by
  cases hstore : w.store with
  | none =>
    cases a with
    | withPath io =>
      rw [step_withPath hstore, Option.some.injEq] at ha
      rw [← ha]
      exact ⟨memory, h.openStore hcodec hio⟩
    | _ =>
      rw [World.step, hstore] at ha
      cases ha
  | some store =>
    cases a with
    | withPath io =>
      rw [World.step, hstore] at ha
      cases ha
    | change change cut =>
      rw [step_change hstore, Option.some.injEq] at ha
      rw [← ha]
      exact h.changeStore hcodec hstore change hio
    | query query =>
      rw [step_query hstore, Option.some.injEq] at ha
      rw [← ha, query_eq (h.store store hstore)]
      exact ⟨memory, h.explained.answered query, h.store, h.file, by simpa using h.opens⟩
    | die =>
      rw [step_die hstore, Option.some.injEq] at ha
      rw [← ha]
      exact ⟨memory, h.explained.died, fun _ hnone => (by cases hnone), h.file,
        by simpa using h.opens⟩

/-- In every run without I/O errors from a missing file, whatever temporary file lies beside
it and wherever processes die, the answers are those of a memory store that is given the same
changes, and the file can always be opened. -/
theorem explained_of_run (codec : Codec) (hcodec : codec.Lossless) (path : SettingsPath)
    (tmp : Option ByteArray) (steps : List StoreStep) (w : World)
    (hio : ∀ a ∈ steps, a.NoIoError)
    (h : runSteps (step codec path) steps ⟨⟨none, tmp⟩, none, []⟩ = some w) :
    (∃ memory, Explained w.log memory) ∧ ∀ e, .notOpened e ∉ w.log := by
  have hstart : Mirrored codec ⟨⟨none, tmp⟩, none, []⟩ .new :=
    ⟨.new, fun _ hnone => (by cases hnone), rfl, by simp⟩
  obtain ⟨memory, hmirrored⟩ := runSteps_preserves_of
    (P := fun w => ∃ memory, Mirrored codec w memory)
    (fun a s t ⟨memory, hs⟩ hcond ha => hs.step hcodec hcond ha) ⟨.new, hstart⟩
    (eachStep_of_mem hio _) h
  exact ⟨⟨memory, hmirrored.explained⟩, hmirrored.opens⟩

/-- A process dies while it writes the temporary file of its first change, and its successor
makes another change. -/
def diedWhileWriting : List StoreStep :=
  [.withPath ⟨none, false, none⟩,
    .change (.setString "theme" "dark") (some ⟨2, some "\x7b".toUTF8, .crash⟩),
    .withPath ⟨none, false, none⟩, .query (.getString "theme"),
    .change (.setString "theme" "light") none, .query .keys, .die]

theorem explained_of_diedWhileWriting : ∃ w,
    runSteps (step jsonCodec emptyStore.path) diedWhileWriting ⟨⟨none, none⟩, none, []⟩ = some w ∧
      (∃ memory, Explained w.log memory) ∧ ∀ e, .notOpened e ∉ w.log :=
  ⟨_, rfl, explained_of_run jsonCodec jsonCodec_lossless emptyStore.path none diedWhileWriting _
    (by simp [diedWhileWriting, StoreStep.NoIoError]) rfl⟩

end World
end Pingling.Storage
