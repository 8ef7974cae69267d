import Pingling.Lib.LineReader
import Pingling.Cores.Ownership

/-!
# What the children print

Each child has two readers, one for its output and one for its errors. A reader takes bytes from
its pipe and sends an event for each line. The events about the lines of a child are the lines that
it printed, in whatever way its bytes arrive and whatever the other threads do meanwhile. The
threads of the core do not notice: what they do is a run of the core without pipes, in which the
lines just come.
-/

namespace Pingling.Cores
open Lib Domain

/-- The core, and the readers of each child by whether they read its errors. -/
structure PipedSystem where
  core : System
  readers : ℕ → Bool → LineReader

/-- A step of the core, or of a reader. -/
inductive PipedStep where
  | core (a : CoreStep)
  | read (child : ℕ) (stderr : Bool) (a : ReadStep)

/-- The events that a step sends, with the child that they are about. -/
def CoreStep.sends : CoreStep → List (ℕ × CoreEvent)
  | .sendCrashed _ child status => [(child, crashed status)]
  | .printLine child line stderr => [(child, if stderr then .errorLog line else .log line)]
  | _ => []

def CoreStep.prints : CoreStep → Bool
  | .printLine _ _ _ => true
  | _ => false

/-- The line that an event reports of a pipe. -/
def lineOf (child : ℕ) (stderr : Bool) : ℕ × CoreEvent → Option String
  | (about, .log line) => if about = child ∧ stderr = false then some line else none
  | (about, .errorLog line) => if about = child ∧ stderr = true then some line else none
  | _ => none

namespace PipedSystem

def init : PipedSystem :=
  ⟨.init, fun _ _ => .init⟩

/-- The step of the core in which a reader sends what it hands out. -/
def sendLine (spec : ProcessCoreSpec) (child : ℕ) (stderr : Bool) (line : Option String)
    (core : System) : Option System :=
  match line with
  | none => some core
  | some line => System.step spec (.printLine child line stderr) core

/-- The readers of a child start when it is spawned, and no other thread sends lines. -/
def step (spec : ProcessCoreSpec) : PipedStep → PipedSystem → Option PipedSystem
  | .core a, s =>
    if a.prints then none else (System.step spec a s.core).map fun core => { s with core := core }
  | .read child stderr a, s =>
    if child < s.core.spawned then do
      let reader ← LineReader.step a (s.readers child stderr)
      let core ← sendLine spec child stderr (LineReader.handed a (s.readers child stderr)) s.core
      some ⟨core, Function.update s.readers child
        (Function.update (s.readers child) stderr reader)⟩
    else none

abbrev run (spec : ProcessCoreSpec) (steps : List PipedStep) : Option PipedSystem :=
  runSteps (step spec) steps init

end PipedSystem

/-- The steps of a reader. -/
def readSteps (child : ℕ) (stderr : Bool) (steps : List PipedStep) : List ReadStep :=
  steps.filterMap fun
    | .read child' stderr' a => if child' = child ∧ stderr' = stderr then some a else none
    | .core _ => none

/-- The steps of the core that are not about lines. -/
def coreSteps (steps : List PipedStep) : List CoreStep :=
  steps.filterMap fun
    | .core a => some a
    | .read _ _ _ => none

/-- The bytes that came through a pipe. -/
def received (child : ℕ) (stderr : Bool) (steps : List PipedStep) : OsString :=
  LineReader.received (readSteps child stderr steps)

namespace System

variable {spec : ProcessCoreSpec} {s t : System}

lemma Rests.events (h : s.Rests t) : t.events = s.events := by
  obtain ⟨controller, returned, -, rfl⟩ := h
  rfl

lemma events_wake (reaper : ℕ) (failed : Bool) : (s.wake reaper failed).events = s.events := by
  cases hchild : s.child with
  | none => rw [wake_none hchild]
  | some child =>
    cases failed with
    | true => rw [wake_failed hchild]
    | false =>
      cases hexited : s.exited child with
      | none => rw [wake_running hchild hexited]
      | some status => rw [wake_exited hchild hexited]

/-- A step sends its events and leaves those that were sent. -/
lemma events_step {a : CoreStep} (h : step spec a s = some t) :
    t.events = s.events ++ a.sends := by
  obtain ⟨-, rfl⟩ := step_eq_some.mp h
  cases a with
  | sendCrashed | printLine => rfl
  | call c => exact (rests_enter c s).events.trans (List.append_nil _).symm
  | readStatus configPath =>
    exact (rests_readStatus configPath s).events.trans (List.append_nil _).symm
  | writeDisconnected next =>
    exact (rests_stopped next _).events.trans (List.append_nil _).symm
  | wake reaper failed => exact (events_wake reaper failed).trans (List.append_nil _).symm
  | takeChild next =>
    refine Eq.trans ?_ (List.append_nil _).symm
    cases hchild : s.child with
    | none => rw [CoreStep.effect, takeChild_none hchild, ret]
    | some child => rw [CoreStep.effect, takeChild_some hchild]
  | checkSlot configPath =>
    refine Eq.trans ?_ (List.append_nil _).symm
    rw [CoreStep.effect]
    split_ifs <;> rfl
  | spawn configPath os =>
    refine Eq.trans ?_ (List.append_nil _).symm
    rw [CoreStep.effect]
    cases spec.spawnProcess os (expandArgs spec.startArgs configPath) <;> rfl
  | killChild child next answer =>
    refine Eq.trans ?_ (List.append_nil _).symm
    cases answer <;> rfl
  | _ => exact (List.append_nil _).symm

end System

/-- A step of the core other than a line says nothing about lines. -/
lemma lineOf_sends {a : CoreStep} (h : a.prints = false) (child : ℕ) (stderr : Bool) :
    a.sends.filterMap (lineOf child stderr) = [] := by
  cases a with
  | printLine => cases h
  | _ => rfl

lemma lineOf_line (child child' : ℕ) (stderr stderr' : Bool) (line : String) :
    (CoreStep.printLine child' line stderr').sends.filterMap (lineOf child stderr) =
      if child' = child ∧ stderr' = stderr then [line] else [] := by
  cases stderr' <;> cases stderr <;> by_cases hchild : child' = child <;>
    simp [CoreStep.sends, lineOf, hchild]

namespace PipedSystem

variable {spec : ProcessCoreSpec} {s t : PipedSystem} {steps : List PipedStep}

/-- What the steps taken say about the state. -/
structure Wired (spec : ProcessCoreSpec) (steps : List PipedStep) (s : PipedSystem) : Prop where
  core : ∃ all, System.run spec all = some s.core ∧
    all.filter (fun a => !a.prints) = coreSteps steps
  reader : ∀ child stderr,
    runSteps LineReader.step (readSteps child stderr steps) .init = some (s.readers child stderr)
  events : ∀ child stderr,
    s.core.events.filterMap (lineOf child stderr) = (s.readers child stderr).out

lemma wired_init : Wired spec [] init :=
  ⟨⟨[], rfl, rfl⟩, fun _ _ => rfl, fun _ _ => rfl⟩

lemma readers_update (readers : ℕ → Bool → LineReader) (child child' : ℕ)
    (stderr stderr' : Bool) (reader : LineReader) :
    Function.update readers child (Function.update (readers child) stderr reader) child' stderr' =
      if child = child' ∧ stderr = stderr' then reader else readers child' stderr' := by
  by_cases hchild : child' = child
  · subst hchild
    rw [Function.update_self, Function.update_apply]
    simp [eq_comm]
  · rw [Function.update_of_ne hchild, if_neg fun h => hchild h.1.symm]

/-- What a reader hands out is what the core is given to send. -/
lemma sendLine_eq_some {child : ℕ} {stderr : Bool} {line : Option String} {core core' : System}
    (h : sendLine spec child stderr line core = some core') :
    ∃ sent : List CoreStep, runSteps (System.step spec) sent core = some core' ∧
      (∀ a ∈ sent, a.prints = true) ∧
      ∀ child' stderr', core'.events.filterMap (lineOf child' stderr') =
        core.events.filterMap (lineOf child' stderr') ++
          if child = child' ∧ stderr = stderr' then line.toList else [] := by
  cases line with
  | none =>
    obtain rfl := Option.some.inj h
    exact ⟨[], rfl, fun _ hmem => absurd hmem List.not_mem_nil, fun _ _ => by simp⟩
  | some line =>
    refine ⟨[.printLine child line stderr], runSteps_cons.mpr ⟨core', h, rfl⟩, ?_, ?_⟩
    · intro a hmem
      rw [List.mem_singleton.mp hmem]
      rfl
    · intro child' stderr'
      rw [System.events_step h, List.filterMap_append, lineOf_line]
      rfl

lemma Wired.step {a : PipedStep} (h : Wired spec steps s) (ha : step spec a s = some t) :
    Wired spec (steps ++ [a]) t := by
  obtain ⟨all, hrun, hall⟩ := h.core
  cases a with
  | core a =>
    obtain ⟨hprints, ha⟩ := Option.ite_none_left_eq_some.mp ha
    obtain ⟨core, hcore, rfl⟩ := Option.map_eq_some_iff.mp ha
    have hprints : a.prints = false := (Bool.not_eq_true _).mp hprints
    refine ⟨⟨all ++ [a], ?_, ?_⟩, ?_, ?_⟩
    · exact runSteps_append.mpr ⟨s.core, hrun, runSteps_cons.mpr ⟨core, hcore, rfl⟩⟩
    · rw [List.filter_append, hall, coreSteps, coreSteps, List.filterMap_append]
      simp [hprints]
    · intro child stderr
      rw [readSteps, List.filterMap_append]
      exact (congrArg (runSteps _ · _) (List.append_nil _)).trans (h.reader child stderr)
    · intro child stderr
      rw [System.events_step hcore, List.filterMap_append, lineOf_sends hprints,
        List.append_nil]
      exact h.events child stderr
  | read child stderr a =>
    obtain ⟨-, ha⟩ := Option.ite_none_right_eq_some.mp ha
    simp only [Option.bind_eq_bind, Option.bind_eq_some_iff, Option.some.injEq] at ha
    obtain ⟨reader, hreader, core, hcore, rfl⟩ := ha
    obtain ⟨sent, hsent, hprints, hevents⟩ := sendLine_eq_some hcore
    refine ⟨⟨all ++ sent, runSteps_append.mpr ⟨s.core, hrun, hsent⟩, ?_⟩, ?_, ?_⟩
    · have hnone : sent.filter (fun a => !a.prints) = [] := by
        rw [List.filter_eq_nil_iff]
        intro a hmem
        simp [hprints a hmem]
      rw [List.filter_append, hall, hnone, coreSteps, coreSteps, List.filterMap_append]
      rfl
    · intro child' stderr'
      dsimp only
      rw [readers_update, readSteps, List.filterMap_append]
      by_cases hsame : child = child' ∧ stderr = stderr'
      · obtain ⟨rfl, rfl⟩ := hsame
        rw [if_pos ⟨rfl, rfl⟩]
        refine runSteps_append.mpr ⟨_, h.reader child stderr, ?_⟩
        simpa using runSteps_cons.mpr ⟨reader, hreader, rfl⟩
      · rw [if_neg hsame]
        refine Eq.trans ?_ (h.reader child' stderr')
        simp [hsame, readSteps]
    · intro child' stderr'
      dsimp only
      rw [hevents, readers_update, h.events]
      by_cases hsame : child = child' ∧ stderr = stderr'
      · obtain ⟨rfl, rfl⟩ := hsame
        rw [if_pos ⟨rfl, rfl⟩, if_pos ⟨rfl, rfl⟩, LineReader.out_of_step hreader]
      · rw [if_neg hsame, if_neg hsame, List.append_nil]

lemma wired_of_run (h : run spec steps = some s) : Wired spec steps s :=
  runSteps_invariant wired_init (fun _ _ _ _ _ hs ha => hs.step ha) h

/-- Whatever the children print, in whatever pieces it arrives and whatever the threads of the core
do meanwhile: the core runs as it does without pipes, and the events about a pipe report the lines
of the bytes that came through it, each once and in order, up to the first that is no text. None of
these is missing when the reader waits for more or has stopped, and when the pipe was closed the
line that is not finished is reported too. -/
theorem lines_reported (spec : ProcessCoreSpec) (steps : List PipedStep) (s : PipedSystem)
    (h : run spec steps = some s) :
    (∃ all, System.run spec all = some s.core ∧
      all.filter (fun a => !a.prints) = coreSteps steps) ∧
    ∀ child stderr,
      let reported := s.core.events.filterMap (lineOf child stderr)
      let bytes := received child stderr steps
      let reader := s.readers child stderr
      (reader.phase = .reading → reported <+: ByteLines.printed bytes) ∧
        (reader.Waits ∨ reader.phase = .stopped → reported = ByteLines.printed bytes) ∧
        (reader.phase = .closed → reported = ByteLines.printedAll bytes) := by
  have hwired := wired_of_run h
  refine ⟨hwired.core, fun child stderr => ?_⟩
  have hreader := hwired.reader child stderr
  have hout := LineReader.out_of_run hreader
  rw [LineReader.bytes_of_run hreader] at hout
  rw [hwired.events child stderr]
  exact hout

/-- A line that comes in two pieces, the second of them with the beginning of another line. -/
theorem lines_reported_hi :
    let steps : List PipedStep :=
      (.call (.start "c") :: System.startSections "c" System.healthyOs 0).map .core ++
        [.read 0 false (.chunk [104, 105, 13]), .read 0 false (.chunk [10, 120]),
          .read 0 false .line]
    ∃ s, run System.sleepSpec steps = some s ∧
      s.core.events.filterMap (lineOf 0 false) = ["hi"] := by
  intro steps
  obtain ⟨s, hrun, hwaits⟩ : ∃ s, run System.sleepSpec steps = some s ∧
      (s.readers 0 false).Waits := ⟨_, rfl, by decide⟩
  have hprinted : ByteLines.printed (received 0 false steps) = ["hi"] := by decide
  have hreported := (lines_reported System.sleepSpec steps s hrun).2 0 false
  exact ⟨s, hrun, (hreported.2.1 (Or.inl hwaits)).trans hprinted⟩

end PipedSystem

end Pingling.Cores
