import Pingling.Ipc.DaemonRegistry
import Pingling.Lib.Steps

/-!
# Daemons that share a registry

Daemons start, publish, clean up and die in any order, and every call of the file system is a step
of its own. A file is truncated when it is opened and written bit by bit after that. A process id
is free again when its process is gone. A daemon keeps its entry in every run in which no process
id is given away between the moment when it is found free and the removal of its file.
-/

namespace Pingling.Ipc.Discovery
open Lib

/-- How far a daemon has come. `removing` has found a file of a process that is gone; the writing
phases count the bytes that are written. -/
inductive Phase where
  | pruning
  | removing (name : OsString)
  | opening
  | writing (written : ℕ)
  | openingLatest
  | writingLatest (written : ℕ)
  | published
  | refused
  | cleaned
  deriving DecidableEq

/-- A call of a daemon, and whether it succeeds. Looking at a name and asking for its process is
one step, and removing the file is another. -/
inductive Action where
  | look (name : OsString) (answer : KillResult)
  | remove (ok : Bool)
  | endPrune
  | openOwn (ok : Bool)
  | writeOwn (count : ℕ)
  | endOwn (ok : Bool)
  | openLatest (ok : Bool)
  | writeLatest (count : ℕ)
  | endLatest (ok : Bool)
  | cleanup (ok : Bool)

/-- Writing at an offset of a file: what is missing before it reads as zeros, and what stands after
the new bytes stays. -/
def writeAt (offset : ℕ) (chunk content : List UInt8) : List UInt8 :=
  (content ++ List.replicate (offset - content.length) 0).take offset ++ chunk ++
    content.drop (offset + chunk.length)

/-- The next `count` bytes go to a file that is open. It need not have its name any more, and is
not seen then. -/
def Files.writeChunk (files : Files) (name : OsString) (ad : List UInt8) (written count : ℕ) :
    Files :=
  Function.update files name
    ((files name).map (writeAt written ((ad.drop written).take count)))

def Files.removeIf (files : Files) (name : OsString) (ok : Bool) : Files :=
  if ok then files.remove name else files

/-- What a call makes of the phase of a daemon and of the files. -/
def act (pid : UInt32) (ad : List UInt8) : Action → Phase → Files → Option (Phase × Files)
  | .look name answer, .pruning, files =>
    some (if (entryPid name).isSome && !pidAlive answer then .removing name else .pruning, files)
  | .remove ok, .removing name, files => some (.pruning, files.removeIf name ok)
  | .endPrune, .pruning, files => some (.opening, files)
  | .openOwn true, .opening, files => some (.writing 0, files.put (registryFile pid) [])
  | .openOwn false, .opening, files => some (.refused, files)
  | .writeOwn count, .writing written, files =>
    if written + count ≤ ad.length then
      some (.writing (written + count), files.writeChunk (registryFile pid) ad written count)
    else none
  | .endOwn true, .writing written, files =>
    if written = ad.length then some (.openingLatest, files) else none
  | .endOwn false, .writing _, files => some (.refused, files)
  | .openLatest true, .openingLatest, files => some (.writingLatest 0, files.put latestFile [])
  | .openLatest false, .openingLatest, files => some (.published, files)
  | .writeLatest count, .writingLatest written, files =>
    if written + count ≤ ad.length then
      some (.writingLatest (written + count), files.writeChunk latestFile ad written count)
    else none
  | .endLatest true, .writingLatest written, files =>
    if written = ad.length then some (.published, files) else none
  | .endLatest false, .writingLatest _, files => some (.published, files)
  | .cleanup ok, .published, files => some (.cleaned, files.removeIf (registryFile pid) ok)
  | .cleanup ok, .refused, files => some (.cleaned, files.removeIf (registryFile pid) ok)
  | _, _, _ => none

/-- A running daemon: the bytes of its advertisement, and its phase. -/
structure Daemon where
  ad : List UInt8
  phase : Phase
  deriving DecidableEq

/-- The registry directory, and the daemon that runs under each process id. -/
structure World where
  files : Files
  procs : UInt32 → Option Daemon

inductive RegistryStep where
  | start (pid : UInt32) (ad : List UInt8)
  | act (pid : UInt32) (action : Action)
  | exit (pid : UInt32)

/-- The operating system does not deny a daemon that runs. -/
def World.honest (w : World) : Action → Bool
  | .look name answer =>
    pidAlive answer ||
      match entryPid name with
      | some pid => decide (pid < 0) || (w.procs (UInt32.ofNat pid.toNat)).isNone
      | none => true
  | _ => true

def World.boot (files : Files) : World :=
  ⟨files, fun _ => none⟩

def World.step : RegistryStep → World → Option World
  | .start pid ad, w =>
    if (w.procs pid).isNone then
      some { w with procs := Function.update w.procs pid (some ⟨ad, .pruning⟩) }
    else none
  | .act pid action, w => do
    let daemon ← w.procs pid
    if w.honest action then
      let (phase, files) ← Discovery.act pid daemon.ad action daemon.phase w.files
      some ⟨files, Function.update w.procs pid (some { daemon with phase := phase })⟩
    else none
  | .exit pid, w =>
    if (w.procs pid).isSome then some { w with procs := Function.update w.procs pid none }
    else none

abbrev World.run (steps : List RegistryStep) (w : World) : Option World :=
  runSteps World.step steps w

variable {pid : UInt32} {ad : List UInt8} {action : Action} {phase phase' : Phase}
  {files files' : Files} {w w' : World}

lemma removeIf_eq (files : Files) (name : OsString) (ok : Bool) :
    ∃ content, (content = none ∨ content = files name) ∧
      files.removeIf name ok = Function.update files name content := by
  cases ok with
  | false => exact ⟨files name, .inr rfl, (Function.update_eq_self name files).symm⟩
  | true => exact ⟨none, .inl rfl, rfl⟩

/-- A call changes one file at most: the daemon's own, `latest.json` or the one that it has chosen
to remove. -/
lemma act_update (h : act pid ad action phase files = some (phase', files')) :
    files' = files ∨ ∃ name content, files' = Function.update files name content ∧
      (name = registryFile pid ∨ name = latestFile ∨
        phase = .removing name ∧ (content = none ∨ content = files name)) := by
  revert h
  fun_cases act pid ad action phase files <;> intro h <;> cases h
  case case2 ok name =>
    obtain ⟨content, hgone, hcontent⟩ := removeIf_eq files name ok
    exact .inr ⟨name, content, hcontent, .inr (.inr ⟨rfl, hgone⟩)⟩
  case case4 => exact .inr ⟨_, _, rfl, .inl rfl⟩
  case case6 => exact .inr ⟨_, _, rfl, .inl rfl⟩
  case case11 => exact .inr ⟨_, _, rfl, .inr (.inl rfl)⟩
  case case13 => exact .inr ⟨_, _, rfl, .inr (.inl rfl)⟩
  case case18 ok =>
    obtain ⟨content, -, hcontent⟩ := removeIf_eq files (registryFile pid) ok
    exact .inr ⟨_, content, hcontent, .inl rfl⟩
  case case19 ok =>
    obtain ⟨content, -, hcontent⟩ := removeIf_eq files (registryFile pid) ok
    exact .inr ⟨_, content, hcontent, .inl rfl⟩
  all_goals exact .inl rfl

/-- A call leaves the files of others, or removes one as the daemon has chosen to. -/
lemma act_foreign (h : act pid ad action phase files = some (phase', files')) {name : OsString}
    (hown : name ≠ registryFile pid) (hlatest : name ≠ latestFile) :
    files' name = files name ∨ files' name = none ∧ phase = .removing name := by
  rcases act_update h with rfl | ⟨changed, content, rfl, hchanged⟩
  · exact .inl rfl
  · by_cases hname : name = changed
    · subst hname
      rw [Function.update_self]
      rcases hchanged with heq | heq | ⟨hphase, hgone | hgone⟩
      · exact absurd heq hown
      · exact absurd heq hlatest
      · exact .inr ⟨hgone, hphase⟩
      · exact .inl hgone
    · exact .inl (Function.update_of_ne hname content files)

lemma act_files (h : act pid ad action phase files = some (phase', files')) {name : OsString}
    (hown : name ≠ registryFile pid) (hlatest : name ≠ latestFile)
    (hremoving : phase ≠ .removing name) : files' name = files name := by
  rcases act_foreign h hown hlatest with hkept | ⟨-, hphase⟩
  · exact hkept
  · exact absurd hphase hremoving

/-- A daemon begins to remove a file only where it finds that the process of the file is gone. -/
lemma act_removing {name : OsString}
    (h : act pid ad action phase files = some (.removing name, files')) :
    ∃ answer, action = .look name answer ∧ (entryPid name).isSome ∧ pidAlive answer = false := by
  revert h
  fun_cases act pid ad action phase files <;> intro h
  case case1 found answer =>
    rw [Option.some.injEq, Prod.mk.injEq] at h
    split_ifs at h with hstale
    · rw [Bool.and_eq_true, Bool.not_eq_true'] at hstale
      have hname : found = name := Phase.removing.inj h.1
      exact ⟨answer, by rw [hname], hname ▸ hstale.1, hstale.2⟩
    · cases h.1
  all_goals cases h

/-- The content of a daemon's own file, in the phases in which it has one. -/
def Phase.Entry (phase : Phase) (ad : List UInt8) (content : Option (List UInt8)) : Prop :=
  match phase with
  | .writing written => written ≤ ad.length ∧ content = some (ad.take written)
  | .openingLatest | .writingLatest _ | .published => content = some ad
  | _ => True

lemma writeAt_take {written count : ℕ} (hcount : written + count ≤ ad.length) :
    writeAt written ((ad.drop written).take count) (ad.take written) =
      ad.take (written + count) := by
  have hlength : (ad.take written).length = written := by
    rw [List.length_take]
    omega
  have hafter : (ad.take written).drop (written + ((ad.drop written).take count).length) = [] :=
    List.drop_of_length_le (by omega)
  rw [writeAt, hafter, hlength, Nat.sub_self, List.replicate_zero, List.append_nil,
    List.append_nil, List.take_take, Nat.min_self, List.take_add]

/-- A call keeps what a daemon has of its entry, unless the daemon removes it. -/
lemma act_entry (h : act pid ad action phase files = some (phase', files'))
    (hentry : phase.Entry ad (files (registryFile pid))) :
    phase'.Entry ad (files' (registryFile pid)) := by
  have hlatest := registryFile_ne_latest pid
  revert h
  fun_cases act pid ad action phase files <;> intro h <;> cases h
  case case1 name answer =>
    split_ifs
    · trivial
    · trivial
  case case4 =>
    refine ⟨Nat.zero_le _, ?_⟩
    exact Function.update_self (registryFile pid) (some []) files
  case case6 count written hcount =>
    refine ⟨hcount, ?_⟩
    have hself := Function.update_self (registryFile pid)
      ((files (registryFile pid)).map (writeAt written ((ad.drop written).take count))) files
    refine hself.trans ?_
    rw [hentry.2, Option.map_some, writeAt_take hcount]
  case case8 =>
    have hfull := hentry.2
    rw [List.take_length] at hfull
    exact hfull
  case case11 => exact (Function.update_of_ne hlatest _ _).trans hentry
  case case13 => exact (Function.update_of_ne hlatest _ _).trans hentry
  case case12 => exact hentry
  case case15 => exact hentry
  case case17 => exact hentry
  all_goals trivial

lemma step_start : World.step (.start pid ad) w = some w' ↔
    w.procs pid = none ∧
      w' = { w with procs := Function.update w.procs pid (some ⟨ad, .pruning⟩) } := by
  rw [World.step, Option.ite_none_right_eq_some, Option.isNone_iff_eq_none, Option.some.injEq,
    eq_comm (a := w')]

lemma step_act : World.step (.act pid action) w = some w' ↔
    ∃ daemon phase files, w.procs pid = some daemon ∧ w.honest action = true ∧
      act pid daemon.ad action daemon.phase w.files = some (phase, files) ∧
      w' = ⟨files, Function.update w.procs pid (some { daemon with phase := phase })⟩ := by
  unfold World.step
  simp only [Option.bind_eq_bind, Option.bind_eq_some_iff]
  constructor
  · rintro ⟨daemon, hdaemon, h⟩
    split_ifs at h with hhonest
    obtain ⟨⟨phase, files⟩, hact, h⟩ := Option.bind_eq_some_iff.mp h
    exact ⟨daemon, phase, files, hdaemon, hhonest, hact, (Option.some.inj h).symm⟩
  · rintro ⟨daemon, phase, files, hdaemon, hhonest, hact, rfl⟩
    refine ⟨daemon, hdaemon, ?_⟩
    rw [if_pos hhonest, hact]
    rfl

lemma step_exit : World.step (.exit pid) w = some w' ↔
    (w.procs pid).isSome ∧ w' = { w with procs := Function.update w.procs pid none } := by
  rw [World.step, Option.ite_none_right_eq_some, Option.some.injEq, eq_comm (a := w')]

/-- Where a running daemon comes from: it was there and has done nothing, it has just started, or
the step is its call. -/
lemma step_daemon {a : RegistryStep} (h : World.step a w = some w') {daemon : Daemon}
    (hdaemon : w'.procs pid = some daemon) :
    (w.procs pid = some daemon ∧ ∀ action, a ≠ .act pid action) ∨
    (∃ ad, a = .start pid ad ∧ daemon = ⟨ad, .pruning⟩) ∨
    ∃ action phase, a = .act pid action ∧ w.procs pid = some ⟨daemon.ad, phase⟩ ∧
      w.honest action = true ∧
      act pid daemon.ad action phase w.files = some (daemon.phase, w'.files) := by
  cases a with
  | start pid' ad =>
    obtain ⟨-, rfl⟩ := step_start.mp h
    change Function.update w.procs pid' (some ⟨ad, .pruning⟩) pid = some daemon at hdaemon
    by_cases hpid : pid = pid'
    · rw [hpid, Function.update_self, Option.some.injEq] at hdaemon
      exact .inr (.inl ⟨ad, by rw [hpid], hdaemon.symm⟩)
    · rw [Function.update_of_ne hpid] at hdaemon
      exact .inl ⟨hdaemon, fun action heq => by cases heq⟩
  | act pid' action =>
    obtain ⟨before, phase, files, hbefore, hhonest, hact, rfl⟩ := step_act.mp h
    change Function.update w.procs pid' (some { before with phase := phase }) pid = some daemon
      at hdaemon
    by_cases hpid : pid = pid'
    · subst hpid
      rw [Function.update_self, Option.some.injEq] at hdaemon
      subst hdaemon
      exact .inr (.inr ⟨action, before.phase, rfl, hbefore, hhonest, hact⟩)
    · rw [Function.update_of_ne hpid] at hdaemon
      refine .inl ⟨hdaemon, fun other heq => hpid ?_⟩
      exact (RegistryStep.act.inj heq).1.symm
  | exit pid' =>
    obtain ⟨-, rfl⟩ := step_exit.mp h
    change Function.update w.procs pid' none pid = some daemon at hdaemon
    by_cases hpid : pid = pid'
    · rw [hpid, Function.update_self] at hdaemon
      cases hdaemon
    · rw [Function.update_of_ne hpid] at hdaemon
      exact .inl ⟨hdaemon, fun action heq => by cases heq⟩

/-- Only the call of a daemon changes the files. -/
lemma step_files {a : RegistryStep} (h : World.step a w = some w') :
    w'.files = w.files ∨ ∃ pid action daemon phase, a = .act pid action ∧
      w.procs pid = some daemon ∧
      act pid daemon.ad action daemon.phase w.files = some (phase, w'.files) := by
  cases a with
  | start pid ad =>
    obtain ⟨-, rfl⟩ := step_start.mp h
    exact .inl rfl
  | act pid action =>
    obtain ⟨daemon, phase, files, hdaemon, -, hact, rfl⟩ := step_act.mp h
    exact .inr ⟨pid, action, daemon, phase, rfl, hdaemon, hact⟩
  | exit pid =>
    obtain ⟨-, rfl⟩ := step_exit.mp h
    exact .inl rfl

lemma step_runs {a : RegistryStep} (h : World.step a w = some w')
    (hruns : (w'.procs pid).isSome) : (w.procs pid).isSome ∨ ∃ ad, a = .start pid ad := by
  obtain ⟨daemon, hdaemon⟩ := Option.isSome_iff_exists.mp hruns
  rcases step_daemon h hdaemon with ⟨hbefore, -⟩ | ⟨ad, heq, -⟩ | ⟨action, phase, -, hbefore, -⟩
  · exact .inl (Option.isSome_of_eq_some hbefore)
  · exact .inr ⟨ad, heq⟩
  · exact .inl (Option.isSome_of_eq_some hbefore)

/-- Every running daemon has its entry, and no daemon is about to remove the file of one that
runs. -/
structure World.Safe (w : World) : Prop where
  entry : ∀ pid daemon, w.procs pid = some daemon →
    daemon.phase.Entry daemon.ad (w.files (registryFile pid))
  removing : ∀ pid daemon name, w.procs pid = some daemon → daemon.phase = .removing name →
    name ≠ latestFile ∧ ∀ pid', (w.procs pid').isSome → name ≠ registryFile pid'

/-- No process id is given to a new daemon while another one is about to remove its file. -/
def Undisturbed : RegistryStep → World → Prop
  | .start pid _, w => ∀ pid' daemon, w.procs pid' = some daemon →
    daemon.phase ≠ .removing (registryFile pid)
  | _, _ => True

/-- A daemon that is found to be gone does not run. -/
lemma honest_look {w : World} {name : OsString} {answer : KillResult}
    (h : w.honest (.look name answer) = true) (hpid : (entryPid name).isSome)
    (hdead : pidAlive answer = false) :
    name ≠ latestFile ∧ ∀ pid', (w.procs pid').isSome → name ≠ registryFile pid' := by
  constructor
  · rintro rfl
    rw [entryPid_latestFile] at hpid
    cases hpid
  · rintro pid' hruns rfl
    rw [entryPid_registryFile] at hpid
    have hentry := entryPid_registryFile pid'
    split_ifs at hpid hentry with hsize
    · have hnot : ¬ ((pid'.toNat : ℤ) < 0) := by omega
      have hback : UInt32.ofNat ((pid'.toNat : ℤ)).toNat = pid' := by simp
      rw [World.honest, hentry, hdead] at h
      simp only [hnot, decide_false, Bool.false_or, hback] at h
      rw [Option.isNone_iff_eq_none] at h
      rw [h] at hruns
      cases hruns
    · cases hpid

lemma World.Safe.step {a : RegistryStep} (hsafe : w.Safe) (hcond : Undisturbed a w)
    (h : World.step a w = some w') : w'.Safe := by
  constructor
  · intro pid daemon hdaemon
    rcases step_daemon h hdaemon with ⟨hbefore, hother⟩ | ⟨ad, -, rfl⟩ |
      ⟨action, phase, -, hbefore, -, hact⟩
    · rcases step_files h with hfiles | ⟨pid', action, daemon', phase, rfl, hdaemon', hact⟩
      · rw [hfiles]
        exact hsafe.entry pid daemon hbefore
      · have hpid : pid ≠ pid' := fun heq => hother action (by rw [heq])
        have hkept : w'.files (registryFile pid) = w.files (registryFile pid) := by
          apply act_files hact
          · exact fun heq => hpid (registryFile_injective heq)
          · exact registryFile_ne_latest pid
          · intro hphase
            exact (hsafe.removing pid' daemon' _ hdaemon' hphase).2 pid
              (Option.isSome_of_eq_some hbefore) rfl
        rw [hkept]
        exact hsafe.entry pid daemon hbefore
    · trivial
    · exact act_entry hact (hsafe.entry pid _ hbefore)
  · intro pid daemon name hdaemon hphase
    rcases step_daemon h hdaemon with ⟨hbefore, -⟩ | ⟨ad, -, rfl⟩ |
      ⟨action, phase, rfl, hbefore, hhonest, hact⟩
    · obtain ⟨hlatest, hothers⟩ := hsafe.removing pid daemon name hbefore hphase
      refine ⟨hlatest, fun other hruns => ?_⟩
      rcases step_runs h hruns with hruns | ⟨ad, rfl⟩
      · exact hothers other hruns
      · exact fun heq => hcond pid daemon hbefore (by rw [hphase, heq])
    · cases hphase
    · rw [hphase] at hact
      obtain ⟨answer, rfl, hentry, hdead⟩ := act_removing hact
      obtain ⟨hlatest, hothers⟩ := honest_look hhonest hentry hdead
      refine ⟨hlatest, fun other hruns => hothers other ?_⟩
      rcases step_runs h hruns with hruns | ⟨ad, heq⟩
      · exact hruns
      · cases heq

lemma safe_boot (files : Files) : (World.boot files).Safe where
  entry pid daemon hdaemon := by cases hdaemon
  removing pid daemon name hdaemon hphase := by cases hdaemon

/-- The daemon has written its entry, and has not cleaned it up. -/
def Phase.entered : Phase → Bool
  | .openingLatest | .writingLatest _ | .published => true
  | _ => false

/-- In a run in which no process id is given away while a daemon is about to remove its file, a
running daemon that has written its entry has it, whatever the others do. -/
theorem entry_kept {files : Files} {steps : List RegistryStep} {w : World}
    (hrun : World.run steps (World.boot files) = some w)
    (hcond : EachStep World.step Undisturbed steps (World.boot files)) {pid : UInt32}
    {daemon : Daemon} (hdaemon : w.procs pid = some daemon)
    (hphase : daemon.phase.entered = true) : w.files (registryFile pid) = some daemon.ad := by
  have hsafe : w.Safe := runSteps_preserves_of
    (fun a v v' hsafe hcond hstep => World.Safe.step hsafe hcond hstep)
    (safe_boot files) hcond hrun
  have hentry := hsafe.entry pid daemon hdaemon
  cases hcase : daemon.phase with
  | openingLatest =>
    rw [hcase] at hentry
    exact hentry
  | writingLatest written =>
    rw [hcase] at hentry
    exact hentry
  | published =>
    rw [hcase] at hentry
    exact hentry
  | _ =>
    rw [hcase] at hphase
    cases hphase

/-- A daemon begins to remove the file of a process that is gone. -/
lemma look_gone {w : World} {pid : UInt32} {ad : List UInt8} {name : OsString} {answer : KillResult}
    (hdaemon : w.procs pid = some ⟨ad, .pruning⟩) (hhonest : w.honest (.look name answer) = true)
    (hentry : (entryPid name).isSome) (hdead : pidAlive answer = false) :
    World.step (.act pid (.look name answer)) w =
      some { w with procs := Function.update w.procs pid (some ⟨ad, .removing name⟩) } := by
  refine step_act.mpr ⟨_, .removing name, w.files, hdaemon, hhonest, ?_, rfl⟩
  rw [act, hentry, hdead, Bool.not_false, Bool.and_true, if_pos rfl]

/-- A second daemon finds the file of a process that is gone and removes it. The entry of the first
one stays. -/
theorem entry_kept_two :
    ∃ w, World.run
        [.start 7 [123, 125], .act 7 .endPrune, .act 7 (.openOwn true), .act 7 (.writeOwn 2),
          .act 7 (.endOwn true), .start 8 [], .act 8 (.look (registryFile 9) (.errno esrch)),
          .act 8 (.remove true)]
        (World.boot fun _ => some []) = some w ∧
      w.files (registryFile 7) = some [123, 125] := by
  have hentry : entryPid (registryFile 9) = some 9 := by
    rw [entryPid_registryFile]
    rfl
  let steps : List RegistryStep := [.start 7 [123, 125], .act 7 .endPrune, .act 7 (.openOwn true),
    .act 7 (.writeOwn 2), .act 7 (.endOwn true), .start 8 []]
  let before : World :=
    (World.run steps (World.boot fun _ => some [])).getD (World.boot fun _ => none)
  have hbefore : World.run steps (World.boot fun _ => some []) = some before := rfl
  have hdaemon : before.procs 8 = some ⟨[], .pruning⟩ := rfl
  have hhonest : before.honest (.look (registryFile 9) (.errno esrch)) = true := by
    rw [World.honest, hentry]
    rfl
  have hlook := look_gone hdaemon hhonest (Option.isSome_of_eq_some hentry) rfl
  let after : World := ⟨before.files.remove (registryFile 9),
    Function.update (Function.update before.procs 8 (some ⟨[], .removing (registryFile 9)⟩)) 8
      (some ⟨[], .pruning⟩)⟩
  have hafter : World.run [.act 8 (.look (registryFile 9) (.errno esrch)), .act 8 (.remove true)]
      before = some after := runSteps_cons.mpr ⟨_, hlook, rfl⟩
  have hrun := runSteps_append.mpr ⟨before, hbefore, hafter⟩
  have hcond : EachStep World.step Undisturbed (steps ++
      [.act 8 (.look (registryFile 9) (.errno esrch)), .act 8 (.remove true)])
      (World.boot fun _ => some []) := by
    apply EachStep.cons rfl (fun pid daemon hnone => by cases hnone)
    apply EachStep.cons rfl trivial
    apply EachStep.cons rfl trivial
    apply EachStep.cons rfl trivial
    apply EachStep.cons rfl trivial
    refine EachStep.cons rfl (fun pid daemon hother hphase => ?_) ?_
    · by_cases hpid : pid = 7
      · subst hpid
        cases hother
        cases hphase
      · simp only [Function.update_of_ne hpid] at hother
        cases hother
    · exact ⟨trivial, fun _ _ => ⟨trivial, fun _ _ => trivial⟩⟩
  exact ⟨after, hrun, @entry_kept _ _ _ hrun hcond 7 ⟨[123, 125], .openingLatest⟩ rfl rfl⟩

end Pingling.Ipc.Discovery
