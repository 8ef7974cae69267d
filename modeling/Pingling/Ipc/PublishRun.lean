import Pingling.Ipc.RegistryRuns

/-!
# Publishing as a run

The calls that publishing makes, one after the other, are a run of the steps of one daemon. Its
result is what publishing says, whichever of the calls fail.
-/

namespace Pingling.Ipc.Discovery
open Lib

/-- The answer to a look at a name. -/
def Os.answer (os : Os) (name : OsString) : KillResult :=
  match entryPid name with
  | some pid => os.kill pid
  | none => .delivered

/-- What a daemon does for a name of the directory. -/
def Os.pruneActions (os : Os) (name : OsString) : List Action :=
  if stale os name then [.look name (os.answer name), .remove (os.removes name)]
  else [.look name (os.answer name)]

def WriteOutcome.ownActions (size : ℕ) : WriteOutcome → List Action
  | .done => [.openOwn true, .writeOwn size, .endOwn true]
  | .notOpened => [.openOwn false]
  | .cut written => [.openOwn true, .writeOwn (min written size), .endOwn false]

def WriteOutcome.latestActions (size : ℕ) : WriteOutcome → List Action
  | .done => [.openLatest true, .writeLatest size, .endLatest true]
  | .notOpened => [.openLatest false]
  | .cut written => [.openLatest true, .writeLatest (min written size), .endLatest false]

/-- The calls of a daemon that is not interrupted. -/
def Os.publishActions (os : Os) (pid : UInt32) (size : ℕ) : List Action :=
  (os.listing.getD []).flatMap os.pruneActions ++ .endPrune ::
    (os.writes (registryFile pid)).ownActions size ++
      if os.writes (registryFile pid) = .done then (os.writes latestFile).latestActions size else []

/-- The calls of one daemon, one after the other. -/
abbrev acts (pid : UInt32) (ad : List UInt8) (actions : List Action) (state : Phase × Files) :
    Option (Phase × Files) :=
  runSteps (fun action state => act pid ad action state.1 state.2) actions state

variable (pid : UInt32) (ad : List UInt8) (os : Os)

lemma stale_eq (name : OsString) :
    stale os name = ((entryPid name).isSome && !pidAlive (os.answer name)) := by
  unfold stale Os.answer
  cases entryPid name <;> rfl

lemma acts_pruneActions (files : Files) (name : OsString) :
    acts pid ad (os.pruneActions name) (.pruning, files) =
      some (.pruning, pruneEntry os files name) := by
  have hlook : act pid ad (.look name (os.answer name)) .pruning files =
      some (if stale os name then .removing name else .pruning, files) := by
    rw [stale_eq]
    rfl
  rw [pruneEntry_eq, Os.pruneActions]
  cases hstale : stale os name with
  | true =>
    rw [hstale] at hlook
    rw [if_pos rfl]
    exact runSteps_cons.mpr ⟨_, hlook, by cases os.removes name <;> rfl⟩
  | false =>
    rw [hstale] at hlook
    exact runSteps_cons.mpr ⟨_, hlook, rfl⟩

lemma acts_prune (names : List OsString) (files : Files) :
    acts pid ad (names.flatMap os.pruneActions) (.pruning, files) =
      some (.pruning, names.foldl (pruneEntry os) files) := by
  induction names generalizing files with
  | nil => rfl
  | cons name names ih =>
    rw [List.flatMap_cons]
    exact runSteps_append.mpr ⟨_, acts_pruneActions pid ad os files name, ih _⟩

lemma writeChunk_put (files : Files) (name : OsString) (count : ℕ) :
    (files.put name []).writeChunk name ad 0 count = files.put name (ad.take count) := by
  have hself : files.put name [] name = some [] := by
    have hself := Function.update_self name (some ([] : List UInt8)) files
    exact hself
  have hwrite : writeAt 0 ((ad.drop 0).take count) [] = ad.take count := by simp [writeAt]
  rw [Files.writeChunk, hself, Option.map_some, hwrite, Files.put, Function.update_idem]
  rfl

lemma act_writeOwn {count : ℕ} (hcount : count ≤ ad.length) (files : Files) :
    act pid ad (.writeOwn count) (.writing 0) (files.put (registryFile pid) []) =
      some (.writing count, files.put (registryFile pid) (ad.take count)) := by
  rw [act, Nat.zero_add, if_pos hcount, writeChunk_put]

lemma act_writeLatest {count : ℕ} (hcount : count ≤ ad.length) (files : Files) :
    act pid ad (.writeLatest count) (.writingLatest 0) (files.put latestFile []) =
      some (.writingLatest count, files.put latestFile (ad.take count)) := by
  rw [act, Nat.zero_add, if_pos hcount, writeChunk_put]

lemma acts_ownActions (files : Files) (outcome : WriteOutcome) :
    acts pid ad (outcome.ownActions ad.length) (.opening, files) =
      some (if outcome = .done then .openingLatest else .refused,
        (files.write (registryFile pid) ad outcome).1) := by
  cases outcome with
  | done =>
    have hend : act pid ad (.endOwn true) (.writing ad.length)
        (files.put (registryFile pid) (ad.take ad.length)) =
        some (.openingLatest, files.put (registryFile pid) ad) := by
      rw [act, if_pos rfl, List.take_length]
    exact runSteps_cons.mpr ⟨_, rfl, runSteps_cons.mpr ⟨_, act_writeOwn pid ad le_rfl files,
      runSteps_cons.mpr ⟨_, hend, rfl⟩⟩⟩
  | notOpened => rfl
  | cut written =>
    have hwrite := act_writeOwn pid ad (Nat.min_le_right written ad.length) files
    rw [← List.take_eq_take_min] at hwrite
    exact runSteps_cons.mpr ⟨_, rfl, runSteps_cons.mpr ⟨_, hwrite, rfl⟩⟩

lemma acts_latestActions (files : Files) (outcome : WriteOutcome) :
    acts pid ad (outcome.latestActions ad.length) (.openingLatest, files) =
      some (.published, (files.write latestFile ad outcome).1) := by
  cases outcome with
  | done =>
    have hend : act pid ad (.endLatest true) (.writingLatest ad.length)
        (files.put latestFile (ad.take ad.length)) =
        some (.published, files.put latestFile ad) := by
      rw [act, if_pos rfl, List.take_length]
    exact runSteps_cons.mpr ⟨_, rfl, runSteps_cons.mpr ⟨_, act_writeLatest pid ad le_rfl files,
      runSteps_cons.mpr ⟨_, hend, rfl⟩⟩⟩
  | notOpened => rfl
  | cut written =>
    have hwrite := act_writeLatest pid ad (Nat.min_le_right written ad.length) files
    rw [← List.take_eq_take_min] at hwrite
    exact runSteps_cons.mpr ⟨_, rfl, runSteps_cons.mpr ⟨_, hwrite, rfl⟩⟩

/-- The calls of a daemon that is not interrupted make what publishing makes. -/
lemma acts_publishActions (ad : DaemonAdvertisement) (files : Files) :
    acts pid ad.toJsonBytes (os.publishActions pid ad.toJsonBytes.length) (.pruning, files) =
      some (if os.writes (registryFile pid) = .done then .published else .refused,
        (publishRegistry os pid ad files).1) := by
  have hprune : acts pid ad.toJsonBytes ((os.listing.getD []).flatMap os.pruneActions)
      (.pruning, files) = some (.pruning, pruneStaleEntries os files) := by
    rw [acts_prune, pruneStaleEntries]
    cases os.listing <;> rfl
  have hown := acts_ownActions pid ad.toJsonBytes (pruneStaleEntries os files)
    (os.writes (registryFile pid))
  rw [Os.publishActions]
  by_cases hdone : os.writes (registryFile pid) = .done
  · rw [if_pos hdone] at hown ⊢
    have hlatest := acts_latestActions pid ad.toJsonBytes
      ((pruneStaleEntries os files).write (registryFile pid) ad.toJsonBytes
        (os.writes (registryFile pid))).1 (os.writes latestFile)
    have hpublished : (publishRegistry os pid ad files).1 =
        (((pruneStaleEntries os files).write (registryFile pid) ad.toJsonBytes
          (os.writes (registryFile pid))).1.write latestFile ad.toJsonBytes
            (os.writes latestFile)).1 := by
      simp only [publishRegistry, hdone, Files.write, if_true]
    rw [if_pos hdone, hpublished]
    exact runSteps_append.mpr ⟨_, runSteps_append.mpr ⟨_, hprune, runSteps_cons.mpr ⟨_, rfl, hown⟩⟩,
      hlatest⟩
  · rw [if_neg hdone] at hown ⊢
    have hpublished : (publishRegistry os pid ad files).1 =
        ((pruneStaleEntries os files).write (registryFile pid) ad.toJsonBytes
          (os.writes (registryFile pid))).1 := by
      cases hcase : os.writes (registryFile pid) with
      | done => exact absurd hcase hdone
      | notOpened => simp [publishRegistry, hcase, Files.write]
      | cut written => simp [publishRegistry, hcase, Files.write]
    rw [if_neg hdone, List.append_nil, hpublished]
    exact runSteps_append.mpr ⟨_, hprune, runSteps_cons.mpr ⟨_, rfl, hown⟩⟩

/-- What a daemon does goes on in the world as long as the operating system answers honestly. -/
lemma run_acts {actions : List Action} {phase phase' : Phase} {w : World} {files' : Files}
    (hacts : acts pid ad actions (phase, w.files) = some (phase', files'))
    (hdaemon : w.procs pid = some ⟨ad, phase⟩)
    (hhonest : ∀ action ∈ actions, ∀ v : World,
      (∀ other, (v.procs other).isSome = (w.procs other).isSome) → v.honest action = true) :
    World.run (actions.map (.act pid)) w =
      some ⟨files', Function.update w.procs pid (some ⟨ad, phase'⟩)⟩ := by
  induction actions generalizing phase w with
  | nil =>
    obtain ⟨hphase, hfiles⟩ := Prod.mk.inj (Option.some.inj hacts)
    have hself := Function.update_eq_self pid w.procs
    rw [hdaemon, hphase] at hself
    rw [hself, ← hfiles]
    rfl
  | cons action actions ih =>
    obtain ⟨⟨middle, files⟩, hact, hrest⟩ := runSteps_cons.mp hacts
    have hstep : World.step (.act pid action) w =
        some ⟨files, Function.update w.procs pid (some ⟨ad, middle⟩)⟩ :=
      step_act.mpr ⟨_, _, _, hdaemon,
        hhonest action List.mem_cons_self w (fun _ => rfl), hact, rfl⟩
    have hruns : ∀ other, (Function.update w.procs pid (some ⟨ad, middle⟩) other).isSome =
        (w.procs other).isSome := by
      intro other
      by_cases hpid : other = pid
      · rw [hpid, Function.update_self, hdaemon]
        rfl
      · rw [Function.update_of_ne hpid]
    have hafter := ih (w := ⟨files, Function.update w.procs pid (some ⟨ad, middle⟩)⟩) hrest
      (Function.update_self pid (some _) w.procs)
      (fun later hlater v hv => hhonest later (List.mem_cons_of_mem _ hlater) v
        (fun other => (hv other).trans (hruns other)))
    rw [Function.update_idem] at hafter
    exact runSteps_cons.mpr ⟨_, hstep, hafter⟩

lemma entryPid_le {name : OsString} {n : ℤ} (h : entryPid name = some n) : n ≤ 2 ^ 31 - 1 := by
  obtain ⟨fileName, -, h⟩ := Option.bind_eq_some_iff.mp h
  split_ifs at h
  rw [Decimal.parseInt, if_neg (fun hzero => absurd hzero.1 (by decide))] at h
  have hrange := (Option.filter_eq_some_iff.mp h).2
  exact (of_decide_eq_true hrange).2

lemma mem_publishActions {size : ℕ} {action : Action}
    (h : action ∈ os.publishActions pid size) :
    (∃ name, action = .look name (os.answer name)) ∨ ∀ w : World, w.honest action = true := by
  rw [Os.publishActions, List.mem_append, List.mem_append, List.mem_cons] at h
  rcases h with (h | rfl | h) | h
  · obtain ⟨name, -, h⟩ := List.mem_flatMap.mp h
    rw [Os.pruneActions] at h
    split_ifs at h
    · rw [List.mem_pair] at h
      rcases h with rfl | rfl
      · exact .inl ⟨name, rfl⟩
      · exact .inr fun _ => rfl
    · exact .inl ⟨name, List.mem_singleton.mp h⟩
  · exact .inr fun _ => rfl
  · right
    cases hcase : os.writes (registryFile pid) <;> rw [hcase] at h <;>
      simp only [WriteOutcome.ownActions, List.mem_cons, List.not_mem_nil, or_false] at h <;>
      rcases h with rfl | rfl | rfl <;> exact fun _ => rfl
  · right
    split_ifs at h
    · cases hcase : os.writes latestFile <;> rw [hcase] at h <;>
        simp only [WriteOutcome.latestActions, List.mem_cons, List.not_mem_nil, or_false] at h <;>
        rcases h with rfl | rfl | rfl <;> exact fun _ => rfl
    · cases h

/-- Every look of a daemon is honest if the operating system finds the daemons that run. -/
lemma honest_publishActions {size : ℕ} {w v : World}
    (hkill : ∀ other, (w.procs other).isSome → pidAlive (os.kill other.toNat) = true)
    (hv : ∀ other, (v.procs other).isSome = (w.procs other).isSome)
    {action : Action} (haction : action ∈ os.publishActions pid size) :
    v.honest action = true := by
  rcases mem_publishActions pid os haction with ⟨name, rfl⟩ | h
  · cases hentry : entryPid name with
    | none => simp [World.honest, hentry]
    | some n =>
      by_cases hneg : n < 0
      · simp [World.honest, hentry, hneg]
      · have hsize : n ≤ 2 ^ 31 - 1 := entryPid_le hentry
        have hback : ((UInt32.ofNat n.toNat).toNat : ℤ) = n := by
          rw [UInt32.toNat_ofNat_of_lt' (by simp [UInt32.size]; omega)]
          omega
        cases hruns : v.procs (UInt32.ofNat n.toNat) with
        | none => simp [World.honest, hentry, hruns]
        | some daemon =>
          have halive := hkill (UInt32.ofNat n.toNat) (by rw [← hv, hruns]; rfl)
          rw [hback] at halive
          simp [World.honest, Os.answer, hentry, halive]
  · exact h v

/-- A daemon that nobody disturbs makes a run in which the files and the outcome are those of
publishing, whatever the calls of the operating system do. -/
theorem publishRegistry_is_run {w : World} {pid : UInt32} {ad : DaemonAdvertisement}
    (hdaemon : w.procs pid = some ⟨ad.toJsonBytes, .pruning⟩)
    (hkill : ∀ other, (w.procs other).isSome → pidAlive (os.kill other.toNat) = true) :
    World.run ((os.publishActions pid ad.toJsonBytes.length).map (.act pid)) w =
      some ⟨(publishRegistry os pid ad w.files).1, Function.update w.procs pid
        (some ⟨ad.toJsonBytes,
          if (publishRegistry os pid ad w.files).2.isSome then .published else .refused⟩)⟩ := by
  have hwritten : (publishRegistry os pid ad w.files).2.isSome ↔
      os.writes (registryFile pid) = .done := by
    cases hcase : os.writes (registryFile pid) <;> simp [publishRegistry, hcase, Files.write]
  have hacts := acts_publishActions pid os ad w.files
  have hrun := run_acts pid ad.toJsonBytes hacts hdaemon
    (fun action haction v hv => honest_publishActions pid os hkill hv haction)
  rw [hrun]
  simp only [hwritten]

theorem publishRegistry_is_run_seven :
    let ad := DaemonAdvertisement.new ⟨7, none, 0⟩ (some "127.0.0.1:9000") none
    let os : Os := {
      kill := fun n => if n = 7 then .delivered else .errno esrch
      listing := some [registryFile 9, latestFile]
      removes := fun _ => true
      writes := fun _ => .done }
    let w : World :=
      ⟨fun _ => some [], Function.update (fun _ => none) 7 (some ⟨ad.toJsonBytes, .pruning⟩)⟩
    ∃ w', World.run ((os.publishActions 7 ad.toJsonBytes.length).map (.act 7)) w = some w' ∧
      w'.files = (publishRegistry os 7 ad w.files).1 := by
  intro ad os w
  let daemon : Daemon := ⟨ad.toJsonBytes, .pruning⟩
  have hdaemon : w.procs 7 = some daemon := by
    have hself := Function.update_self (7 : UInt32) (some daemon) (fun _ => none)
    exact hself
  have hkill : ∀ other, (w.procs other).isSome → pidAlive (os.kill other.toNat) = true := by
    intro other hruns
    by_cases hpid : other = 7
    · rw [hpid]
      rfl
    · have hnone := Function.update_of_ne hpid (some daemon) (fun _ => none)
      rw [show w.procs other = none from hnone] at hruns
      cases hruns
  exact ⟨_, publishRegistry_is_run os hdaemon hkill, rfl⟩

end Pingling.Ipc.Discovery
