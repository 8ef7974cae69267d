import Pingling.Ipc.RegistryRuns

/-!
# The file of the latest daemon

All daemons write `latest.json`, and each of them truncates it first. It is whole whenever nobody
writes it, if the daemons write it one after the other and none stops midway. No daemon removes it,
and none touches a file that is not its own, apart from those with a process id for a name.
-/

namespace Pingling.Ipc.Discovery
open Lib

/-- The daemons that a run starts. -/
def startedPids (steps : List RegistryStep) : List UInt32 :=
  steps.filterMap fun
    | .start pid _ => some pid
    | _ => none

/-- What the daemons that a run starts advertise. -/
def startedAds (steps : List RegistryStep) : List (List UInt8) :=
  steps.filterMap fun
    | .start _ ad => some ad
    | _ => none

lemma startedPids_append (steps : List RegistryStep) (a : RegistryStep) :
    startedPids (steps ++ [a]) = startedPids steps ++ startedPids [a] :=
  List.filterMap_append

lemma startedAds_append (steps : List RegistryStep) (a : RegistryStep) :
    startedAds (steps ++ [a]) = startedAds steps ++ startedAds [a] :=
  List.filterMap_append

/-- Nobody removes `latest.json`. -/
lemma act_latest_isSome {pid : UInt32} {ad : List UInt8} {action : Action} {phase phase' : Phase}
    {files files' : Files} (h : act pid ad action phase files = some (phase', files'))
    (hremoving : phase ≠ .removing latestFile) (hsome : (files latestFile).isSome) :
    (files' latestFile).isSome := by
  have hlatest := (registryFile_ne_latest pid).symm
  revert h
  fun_cases act pid ad action phase files <;> intro h <;> cases h
  case case2 ok name =>
    obtain ⟨content, -, hcontent⟩ := removeIf_eq files name ok
    rw [hcontent, Function.update_of_ne (fun heq => hremoving (by rw [heq]))]
    exact hsome
  case case4 => rwa [Files.put, Function.update_of_ne hlatest]
  case case6 => rwa [Files.writeChunk, Function.update_of_ne hlatest]
  case case11 =>
    have hself := Function.update_self latestFile (some ([] : List UInt8)) files
    exact Option.isSome_of_eq_some hself
  case case13 count written hcount =>
    have hself := Function.update_self latestFile
      ((files latestFile).map (writeAt written ((ad.drop written).take count))) files
    rw [Files.writeChunk, hself, Option.isSome_map]
    exact hsome
  case case18 ok =>
    obtain ⟨content, -, hcontent⟩ := removeIf_eq files (registryFile pid) ok
    rwa [hcontent, Function.update_of_ne hlatest]
  case case19 ok =>
    obtain ⟨content, -, hcontent⟩ := removeIf_eq files (registryFile pid) ok
    rwa [hcontent, Function.update_of_ne hlatest]
  all_goals exact hsome

/-- What a run leaves of the files that are not the daemons' own. -/
structure World.Foreign (files : Files) (steps : List RegistryStep) (w : World) : Prop where
  started : ∀ pid, (w.procs pid).isSome → pid ∈ startedPids steps
  removing : ∀ pid daemon name, w.procs pid = some daemon → daemon.phase = .removing name →
    (entryPid name).isSome
  kept : ∀ name, name ≠ latestFile → (∀ pid ∈ startedPids steps, name ≠ registryFile pid) →
    w.files name = files name ∨ w.files name = none ∧ (entryPid name).isSome
  latest : (files latestFile).isSome → (w.files latestFile).isSome

lemma World.Foreign.not_latest {files : Files} {steps : List RegistryStep} {w : World}
    (hw : w.Foreign files steps) {pid : UInt32} {daemon : Daemon}
    (hdaemon : w.procs pid = some daemon) : daemon.phase ≠ .removing latestFile := by
  intro hphase
  have hentry := hw.removing pid daemon _ hdaemon hphase
  rw [entryPid_latestFile] at hentry
  cases hentry

lemma World.Foreign.step {files : Files} {steps : List RegistryStep} {a : RegistryStep}
    {w w' : World} (hw : w.Foreign files steps) (h : World.step a w = some w') :
    w'.Foreign files (steps ++ [a]) := by
  constructor
  · intro pid hruns
    rw [startedPids_append, List.mem_append]
    rcases step_runs h hruns with hruns | ⟨ad, rfl⟩
    · exact .inl (hw.started pid hruns)
    · exact .inr (List.mem_singleton_self pid)
  · intro pid daemon name hdaemon hphase
    rcases step_daemon h hdaemon with ⟨hbefore, -⟩ | ⟨ad, -, rfl⟩ |
      ⟨action, phase, -, hbefore, -, hact⟩
    · exact hw.removing pid daemon name hbefore hphase
    · cases hphase
    · rw [hphase] at hact
      obtain ⟨-, -, hentry, -⟩ := act_removing hact
      exact hentry
  · intro name hlatest hothers
    have hnames : ∀ pid ∈ startedPids steps, name ≠ registryFile pid := by
      intro pid hpid
      apply hothers
      rw [startedPids_append]
      exact List.mem_append_left _ hpid
    rcases step_files h with hfiles | ⟨pid, action, daemon, phase, -, hdaemon, hact⟩
    · rw [hfiles]
      exact hw.kept name hlatest hnames
    · have hpid := hw.started pid (Option.isSome_of_eq_some hdaemon)
      rcases act_foreign hact (hnames pid hpid) hlatest with hkept | ⟨hnone, hphase⟩
      · rw [hkept]
        exact hw.kept name hlatest hnames
      · exact .inr ⟨hnone, hw.removing pid daemon name hdaemon hphase⟩
  · intro hsome
    rcases step_files h with hfiles | ⟨pid, action, daemon, phase, -, hdaemon, hact⟩
    · rw [hfiles]
      exact hw.latest hsome
    · exact act_latest_isSome hact (hw.not_latest hdaemon) (hw.latest hsome)

lemma foreign_boot (files : Files) : (World.boot files).Foreign files [] where
  started pid hruns := by cases hruns
  removing pid daemon name hdaemon hphase := by cases hdaemon
  kept name _ _ := .inl rfl
  latest := id

/-- Whatever the daemons of a run do, and whichever of them die, `latest.json` does not disappear
once it is there. A file that is neither that nor the entry of a daemon of the run keeps its
content, or is removed, and that only where its name has a process id. -/
theorem foreign_kept {files : Files} {steps : List RegistryStep} {w : World}
    (hrun : World.run steps (World.boot files) = some w) :
    ((files latestFile).isSome → (w.files latestFile).isSome) ∧
      ∀ name, name ≠ latestFile → (∀ pid ∈ startedPids steps, name ≠ registryFile pid) →
        w.files name = files name ∨ w.files name = none ∧ (entryPid name).isSome := by
  have hw : w.Foreign files steps := runSteps_invariant (foreign_boot files)
    (fun as a t t' _ ht hstep => World.Foreign.step ht hstep) hrun
  exact ⟨hw.latest, hw.kept⟩

theorem foreign_kept_seven :
    ∃ w, World.run [.start 7 [123, 125], .act 7 .endPrune, .act 7 (.openOwn true), .exit 7]
        (World.boot fun _ => some []) = some w ∧ (w.files latestFile).isSome := by
  obtain ⟨w, hrun⟩ : ∃ w, World.run [.start 7 [123, 125], .act 7 .endPrune,
      .act 7 (.openOwn true), .exit 7] (World.boot fun _ => some []) = some w := ⟨_, rfl⟩
  exact ⟨w, hrun, (foreign_kept hrun).1 rfl⟩

/-- How much of `latest.json` a daemon has written, if it is at it. -/
def Phase.latestWritten : Phase → Option ℕ
  | .writingLatest written => some written
  | _ => none

/-- How much of `latest.json` the daemon of a process has written, if there is one that is at it. -/
def World.written (w : World) (pid : UInt32) : Option ℕ :=
  (w.procs pid).bind fun daemon => daemon.phase.latestWritten

/-- A daemon opens `latest.json` when nobody else writes it, and does not fail nor die while it
writes. -/
def OneAfterAnother : RegistryStep → World → Prop
  | .act _ (.openLatest true), w => ∀ pid, w.written pid = none
  | .act _ (.endLatest false), _ => False
  | .exit pid, w => w.written pid = none
  | _, _ => True

/-- What a call has to do with `latest.json`. -/
lemma act_latest {pid : UInt32} {ad : List UInt8} {action : Action} {phase phase' : Phase}
    {files files' : Files} (h : act pid ad action phase files = some (phase', files'))
    (hremoving : phase ≠ .removing latestFile) :
    (phase.latestWritten = none ∧ phase'.latestWritten = none ∧
      files' latestFile = files latestFile) ∨
    (action = .openLatest true ∧ phase'.latestWritten = some 0 ∧ files' latestFile = some []) ∨
    (∃ written count, written + count ≤ ad.length ∧ phase.latestWritten = some written ∧
      phase'.latestWritten = some (written + count) ∧
      files' latestFile =
        (files latestFile).map (writeAt written ((ad.drop written).take count))) ∨
    (∃ ok, action = .endLatest ok ∧ phase'.latestWritten = none ∧
      files' latestFile = files latestFile ∧
        (ok = true → phase.latestWritten = some ad.length)) := by
  have hlatest := (registryFile_ne_latest pid).symm
  revert h
  fun_cases act pid ad action phase files <;> intro h <;> cases h
  case case1 name answer =>
    refine .inl ⟨rfl, ?_, rfl⟩
    split_ifs <;> rfl
  case case2 ok name =>
    obtain ⟨content, -, hcontent⟩ := removeIf_eq files name ok
    rw [hcontent, Function.update_of_ne (fun heq => hremoving (by rw [heq]))]
    exact .inl ⟨rfl, rfl, rfl⟩
  case case4 => exact .inl ⟨rfl, rfl, Function.update_of_ne hlatest _ _⟩
  case case6 => exact .inl ⟨rfl, rfl, Function.update_of_ne hlatest _ _⟩
  case case11 =>
    have hself := Function.update_self latestFile (some ([] : List UInt8)) files
    exact .inr (.inl ⟨rfl, rfl, hself⟩)
  case case13 count written hcount =>
    have hself := Function.update_self latestFile
      ((files latestFile).map (writeAt written ((ad.drop written).take count))) files
    exact .inr (.inr (.inl ⟨written, count, hcount, rfl, rfl, hself⟩))
  case case15 => exact .inr (.inr (.inr ⟨true, rfl, rfl, rfl, fun _ => rfl⟩))
  case case17 => exact .inr (.inr (.inr ⟨false, rfl, rfl, rfl, fun hok => by cases hok⟩))
  case case18 ok =>
    obtain ⟨content, -, hcontent⟩ := removeIf_eq files (registryFile pid) ok
    rw [hcontent, Function.update_of_ne hlatest]
    exact .inl ⟨rfl, rfl, rfl⟩
  case case19 ok =>
    obtain ⟨content, -, hcontent⟩ := removeIf_eq files (registryFile pid) ok
    rw [hcontent, Function.update_of_ne hlatest]
    exact .inl ⟨rfl, rfl, rfl⟩
  all_goals exact .inl ⟨rfl, rfl, rfl⟩

/-- Nobody writes `latest.json`, and it is what it was before the run or what a daemon of the run
advertises. -/
def World.Idle (files : Files) (steps : List RegistryStep) (w : World) : Prop :=
  (∀ pid, w.written pid = none) ∧
    (w.files latestFile = files latestFile ∨ ∃ ad ∈ startedAds steps, w.files latestFile = some ad)

/-- One daemon writes `latest.json`, and the file is what that one has written. -/
def World.Busy (w : World) : Prop :=
  ∃ pid daemon written, w.procs pid = some daemon ∧ daemon.phase.latestWritten = some written ∧
    written ≤ daemon.ad.length ∧ w.files latestFile = some (daemon.ad.take written) ∧
    ∀ other, other ≠ pid → w.written other = none

lemma written_eq {w : World} {pid : UInt32} {daemon : Daemon} (h : w.procs pid = some daemon) :
    w.written pid = daemon.phase.latestWritten := by
  rw [World.written, h, Option.bind_some]

lemma World.Idle.mono {files : Files} {steps later : List RegistryStep} {w : World}
    (h : w.Idle files steps) : w.Idle files (steps ++ later) := by
  refine ⟨h.1, h.2.imp_right ?_⟩
  rintro ⟨ad, had, hcontent⟩
  refine ⟨ad, ?_, hcontent⟩
  rw [startedAds, List.filterMap_append]
  exact List.mem_append_left _ had

/-- A step that leaves `latest.json`, and all that daemons have written of it. -/
lemma whole_quiet {files : Files} {steps : List RegistryStep} {w w' : World} {pid : UInt32}
    (hfile : w'.files latestFile = w.files latestFile)
    (hothers : ∀ other, other ≠ pid → w'.procs other = w.procs other)
    (hbefore : w.written pid = none) (hafter : w'.written pid = none)
    (h : w.Idle files steps ∨ w.Busy) : w'.Idle files steps ∨ w'.Busy := by
  have hwritten : ∀ other, w'.written other = w.written other := by
    intro other
    by_cases hpid : other = pid
    · rw [hpid, hbefore, hafter]
    · rw [World.written, hothers other hpid, World.written]
  rcases h with ⟨hnone, hcontent⟩ | ⟨writer, daemon, written, hdaemon, hphase, hle, hcontent, hrest⟩
  · left
    refine ⟨fun other => (hwritten other).trans (hnone other), ?_⟩
    rw [hfile]
    exact hcontent
  · right
    have hpid : writer ≠ pid := by
      rintro rfl
      rw [written_eq hdaemon, hphase] at hbefore
      cases hbefore
    refine ⟨writer, daemon, written, (hothers writer hpid).trans hdaemon, hphase, hle,
      hfile.trans hcontent, fun other hother => (hwritten other).trans (hrest other hother)⟩

/-- The writer of `latest.json` is the only one. -/
lemma busy_of_written {files : Files} {steps : List RegistryStep} {w : World} {pid : UInt32}
    {daemon : Daemon} {written : ℕ} (hdaemon : w.procs pid = some daemon)
    (hphase : daemon.phase.latestWritten = some written) (h : w.Idle files steps ∨ w.Busy) :
    w.files latestFile = some (daemon.ad.take written) ∧
      ∀ other, other ≠ pid → w.written other = none := by
  have hpid : w.written pid = some written := (written_eq hdaemon).trans hphase
  rcases h with ⟨hnone, -⟩ | ⟨writer, daemon', written', hdaemon', hphase', -, hcontent, hrest⟩
  · rw [hnone pid] at hpid
    cases hpid
  · have hwriter : writer = pid := by
      by_contra hne
      rw [hrest pid (fun heq => hne heq.symm)] at hpid
      cases hpid
    subst hwriter
    rw [hdaemon, Option.some.injEq] at hdaemon'
    subst hdaemon'
    rw [hphase, Option.some.injEq] at hphase'
    subst hphase'
    exact ⟨hcontent, hrest⟩

structure World.Whole (files : Files) (steps : List RegistryStep) (w : World) : Prop where
  ads : ∀ pid daemon, w.procs pid = some daemon → daemon.ad ∈ startedAds steps
  latest : w.Idle files steps ∨ w.Busy

lemma Whole.step_ads {files : Files} {steps : List RegistryStep} {a : RegistryStep} {w w' : World}
    (hw : w.Whole files steps) (h : World.step a w = some w') (pid : UInt32) (daemon : Daemon)
    (hdaemon : w'.procs pid = some daemon) : daemon.ad ∈ startedAds (steps ++ [a]) := by
  rw [startedAds_append, List.mem_append]
  rcases step_daemon h hdaemon with ⟨hbefore, -⟩ | ⟨ad, rfl, rfl⟩ |
    ⟨action, phase, -, hbefore, -, -⟩
  · exact .inl (hw.ads pid daemon hbefore)
  · exact .inr (List.mem_singleton_self ad)
  · exact .inl (hw.ads pid ⟨daemon.ad, phase⟩ hbefore)

lemma Whole.step {files : Files} {steps : List RegistryStep} {a : RegistryStep} {w w' : World}
    (hforeign : w.Foreign files steps) (hw : w.Whole files steps) (hcond : OneAfterAnother a w)
    (h : World.step a w = some w') : w'.Whole files (steps ++ [a]) := by
  have hads := Whole.step_ads hw h
  refine ⟨hads, ?_⟩
  have hlatest : w.Idle files (steps ++ [a]) ∨ w.Busy := hw.latest.imp_left World.Idle.mono
  cases a with
  | start pid ad =>
    obtain ⟨hfree, hw'⟩ := step_start.mp h
    have hprocs : w'.procs = Function.update w.procs pid (some ⟨ad, .pruning⟩) := by rw [hw']
    have hself : w'.procs pid = some ⟨ad, .pruning⟩ := by rw [hprocs, Function.update_self]
    have hothers : ∀ other, other ≠ pid → w'.procs other = w.procs other := by
      intro other hother
      rw [hprocs, Function.update_of_ne hother]
    have hbefore : w.written pid = none := by rw [World.written, hfree, Option.bind_none]
    exact whole_quiet (by rw [hw']) hothers hbefore (written_eq hself) hlatest
  | exit pid =>
    obtain ⟨-, hw'⟩ := step_exit.mp h
    have hprocs : w'.procs = Function.update w.procs pid none := by rw [hw']
    have hothers : ∀ other, other ≠ pid → w'.procs other = w.procs other := by
      intro other hother
      rw [hprocs, Function.update_of_ne hother]
    have hafter : w'.written pid = none := by
      rw [World.written, hprocs, Function.update_self, Option.bind_none]
    exact whole_quiet (by rw [hw']) hothers hcond hafter hlatest
  | act pid action =>
    obtain ⟨daemon, phase, files', hdaemon, -, hact, rfl⟩ := step_act.mp h
    let w' : World :=
      ⟨files', Function.update w.procs pid (some { daemon with phase := phase })⟩
    have hself : w'.procs pid = some { daemon with phase := phase } :=
      Function.update_self pid (some _) w.procs
    have hothers : ∀ other, other ≠ pid → w'.procs other = w.procs other :=
      fun other hother => Function.update_of_ne hother _ _
    have hwritten : ∀ other, other ≠ pid → w'.written other = w.written other := by
      intro other hother
      rw [World.written, hothers other hother, World.written]
    rcases act_latest hact (hforeign.not_latest hdaemon) with ⟨hbefore, hafter, hfile⟩ |
      ⟨rfl, hafter, hfile⟩ | ⟨written, count, hle, hbefore, hafter, hfile⟩ |
      ⟨ok, rfl, hafter, hfile, hdone⟩
    · exact whole_quiet hfile hothers ((written_eq hdaemon).trans hbefore)
        ((written_eq hself).trans hafter) hlatest
    · right
      exact ⟨pid, _, 0, hself, hafter, Nat.zero_le _, hfile,
        fun other hother => (hwritten other hother).trans (hcond other)⟩
    · obtain ⟨hcontent, hrest⟩ := busy_of_written hdaemon hbefore hlatest
      rw [hcontent, Option.map_some, writeAt_take hle] at hfile
      right
      exact ⟨pid, _, written + count, hself, hafter, hle, hfile,
        fun other hother => (hwritten other hother).trans (hrest other hother)⟩
    · cases ok with
      | false => exact hcond.elim
      | true =>
        obtain ⟨hcontent, hrest⟩ := busy_of_written hdaemon (hdone rfl) hlatest
        left
        constructor
        · intro other
          by_cases hother : other = pid
          · rw [hother]
            exact (written_eq hself).trans hafter
          · exact (hwritten other hother).trans (hrest other hother)
        · right
          refine ⟨daemon.ad, hads pid { daemon with phase := phase } hself, ?_⟩
          rw [List.take_length] at hcontent
          exact hfile.trans hcontent

/-- In a run in which the daemons write `latest.json` one after the other and none stops midway,
the file is what it was or what a daemon of the run advertises, whenever nobody writes it. While a
daemon writes it, the file is the part of its advertisement that it has written. -/
theorem latest_whole {files : Files} {steps : List RegistryStep} {w : World}
    (hrun : World.run steps (World.boot files) = some w)
    (hcond : EachStep World.step OneAfterAnother steps (World.boot files)) :
    ((∀ pid, w.written pid = none) → w.files latestFile = files latestFile ∨
      ∃ ad ∈ startedAds steps, w.files latestFile = some ad) ∧
    ∀ pid daemon written, w.procs pid = some daemon → w.written pid = some written →
      w.files latestFile = some (daemon.ad.take written) := by
  have hforeign : (World.boot files).Foreign files [] := foreign_boot files
  have hwhole : (World.boot files).Whole files [] := by
    constructor
    · intro pid daemon hdaemon
      cases hdaemon
    · exact .inl ⟨fun _ => rfl, .inl rfl⟩
  have hw : w.Foreign files steps ∧ w.Whole files steps :=
    runSteps_invariant_of (P := fun as v => v.Foreign files as ∧ v.Whole files as)
      ⟨hforeign, hwhole⟩
      (fun as a v v' hv hstepcond hstep => ⟨hv.1.step hstep, Whole.step hv.1 hv.2 hstepcond hstep⟩)
      hcond hrun
  constructor
  · intro hidle
    rcases hw.2.latest with ⟨-, hcontent⟩ | ⟨pid, daemon, written, hdaemon, hphase, -⟩
    · exact hcontent
    · have hnone := hidle pid
      rw [written_eq hdaemon, hphase] at hnone
      cases hnone
  · intro pid daemon written hdaemon hwritten
    rw [written_eq hdaemon] at hwritten
    exact (busy_of_written hdaemon hwritten hw.2.latest).1

theorem latest_whole_seven :
    ∃ w, World.run [.start 7 [123, 125], .act 7 .endPrune, .act 7 (.openOwn true),
          .act 7 (.writeOwn 2), .act 7 (.endOwn true), .act 7 (.openLatest true),
          .act 7 (.writeLatest 1)] (World.boot fun _ => some []) = some w ∧
      w.files latestFile = some [123] := by
  let steps : List RegistryStep := [.start 7 [123, 125], .act 7 .endPrune, .act 7 (.openOwn true),
    .act 7 (.writeOwn 2), .act 7 (.endOwn true), .act 7 (.openLatest true), .act 7 (.writeLatest 1)]
  let boot : World := World.boot fun _ => some []
  let w : World := (World.run steps boot).getD boot
  have hrun : World.run steps boot = some w := rfl
  have hcond : EachStep World.step OneAfterAnother steps boot := by
    apply EachStep.cons rfl trivial
    apply EachStep.cons rfl trivial
    apply EachStep.cons rfl trivial
    apply EachStep.cons rfl trivial
    apply EachStep.cons rfl trivial
    refine EachStep.cons rfl (fun pid => ?_) ?_
    · by_cases hpid : pid = 7
      · rw [hpid]
        rfl
      · simp only [World.written, Function.update_of_ne hpid]
        rfl
    · exact EachStep.cons rfl trivial trivial
  exact ⟨w, hrun, (latest_whole hrun hcond).2 7 ⟨[123, 125], .writingLatest 1⟩ 1 rfl rfl⟩

end Pingling.Ipc.Discovery
