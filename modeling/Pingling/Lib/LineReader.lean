import Pingling.Lib.OsString
import Pingling.Lib.Steps

/-!
# Reading lines from a stream of bytes

A reader takes bytes as they come and hands out the lines that they finish, each as text and
without its line break. It goes on until a line is no text, a reading fails or the stream is
closed; the bytes after the last line break are a line when the stream is closed. How the stream is
cut into chunks does not matter to what is handed out.
-/

namespace Lib

namespace ByteLines

/-- The text of a finished line. A carriage return before the line break belongs to the break. -/
def text (line : OsString) : Option String :=
  (OsString.toStr line).map fun s =>
    if s.toList.getLast? = some '\r' then String.ofList s.toList.dropLast else s

/-- The lines of a stream, and what stands after the last line break. -/
def split (bytes : OsString) : List OsString × OsString :=
  let lines := bytes.splitOn 10
  (lines.dropLast, lines.getLast?.getD [])

/-- What comes before the first item that is missing. -/
def whole {α : Type} : List (Option α) → List α
  | [] => []
  | none :: _ => []
  | some a :: items => a :: whole items

/-- The texts of the finished lines, up to the first line that is no text. -/
def printed (bytes : OsString) : List String :=
  whole ((split bytes).1.map text)

/-- The texts of all lines of a stream that is closed, up to the first line that is no text. -/
def printedAll (bytes : OsString) : List String :=
  whole ((split bytes).1.map text ++
    if (split bytes).2 = [] then [] else [OsString.toStr (split bytes).2])

lemma whole_map_some {α : Type} (items : List α) (more : List (Option α)) :
    whole (items.map some ++ more) = items ++ whole more := by
  induction items with
  | nil => rfl
  | cons a items ih => rw [List.map_cons, List.cons_append, whole, ih, List.cons_append]

lemma split_of_notMem {bytes : OsString} (h : 10 ∉ bytes) : split bytes = ([], bytes) := by
  have hsplit : bytes.splitOn 10 = [bytes] := by
    rw [List.splitOn_eq_splitOnP, List.splitOnP_eq_singleton]
    intro b hb
    rw [beq_eq_false_iff_ne]
    rintro rfl
    exact h hb
  rw [split, hsplit]
  rfl

lemma split_line {line : OsString} (h : 10 ∉ line) (rest : OsString) :
    split (line ++ 10 :: rest) = (line :: (split rest).1, (split rest).2) := by
  have hsplit : (line ++ 10 :: rest).splitOn 10 = line :: rest.splitOn 10 := by
    rw [List.splitOn_eq_splitOnP, List.splitOn_eq_splitOnP,
      List.splitOnP_append_cons_of_forall_mem _ 10 (by rfl)]
    intro b hb
    rw [beq_eq_false_iff_ne]
    rintro rfl
    exact h hb
  have hne : rest.splitOn 10 ≠ [] := by
    rw [List.splitOn_eq_splitOnP]
    exact List.splitOnP_ne_nil _ _
  rw [split, hsplit, split, List.dropLast_cons_of_ne_nil hne, List.getLast?_cons,
    Option.getD_some]
  congr 1
  cases hlast : (rest.splitOn 10).getLast? with
  | none => exact absurd (List.getLast?_eq_none_iff.mp hlast) hne
  | some last => rfl

/-- The lines that stand before some bytes. -/
def joined (lines : List OsString) : OsString :=
  lines.flatMap (· ++ [10])

lemma split_joined {lines : List OsString} (h : ∀ line ∈ lines, 10 ∉ line) (rest : OsString) :
    split (joined lines ++ rest) = (lines ++ (split rest).1, (split rest).2) := by
  induction lines with
  | nil => rfl
  | cons line lines ih =>
    obtain ⟨hline, hlines⟩ := List.forall_mem_cons.mp h
    have happend : joined (line :: lines) ++ rest = line ++ 10 :: (joined lines ++ rest) := by
      simp [joined]
    rw [happend, split_line hline, ih hlines, List.cons_append]

end ByteLines

/-- A reader has stopped when a line was no text or a reading failed. -/
inductive ReaderPhase where
  | reading
  | stopped
  | closed
  deriving DecidableEq

/-- A reader and its unread bytes. `bytes` and `out` record what it was given and has handed out. -/
structure LineReader where
  pending : OsString
  phase : ReaderPhase
  bytes : OsString
  out : List String

inductive ReadStep where
  | chunk (bytes : OsString)
  | line
  | close
  | fail
  deriving DecidableEq

namespace LineReader
open ByteLines

def init : LineReader :=
  ⟨[], .reading, [], []⟩

/-- The reader needs more bytes to go on. -/
def Waits (r : LineReader) : Prop :=
  r.phase = .reading ∧ 10 ∉ r.pending

instance (r : LineReader) : Decidable r.Waits :=
  inferInstanceAs (Decidable (_ ∧ _))

def Enabled : ReadStep → LineReader → Prop
  | .chunk bytes, r => r.Waits ∧ bytes ≠ []
  | .line, r => r.phase = .reading ∧ 10 ∈ r.pending
  | .close, r | .fail, r => r.Waits

instance (a : ReadStep) (r : LineReader) : Decidable (Enabled a r) := by
  cases a <;> dsimp only [Enabled] <;> infer_instance

/-- The bytes before the first line break, and those after it. -/
def firstLine (pending : OsString) : OsString :=
  pending.takeWhile (· ≠ 10)

def afterLine (pending : OsString) : OsString :=
  (pending.dropWhile (· ≠ 10)).tail

/-- The text that a step hands out. -/
def handed : ReadStep → LineReader → Option String
  | .line, r => text (firstLine r.pending)
  | .close, r => if r.pending = [] then none else OsString.toStr r.pending
  | .chunk _, _ | .fail, _ => none

def next : ReadStep → LineReader → LineReader
  | .chunk bytes, r => { r with pending := r.pending ++ bytes, bytes := r.bytes ++ bytes }
  | .line, r =>
    { r with
      pending := afterLine r.pending
      phase := if (handed .line r).isSome then .reading else .stopped }
  | .close, r =>
    { r with
      pending := []
      phase := if r.pending = [] ∨ (handed .close r).isSome then .closed else .stopped }
  | .fail, r => { r with phase := .stopped }

def step (a : ReadStep) (r : LineReader) : Option LineReader :=
  if Enabled a r then some { next a r with out := r.out ++ (handed a r).toList } else none

/-- The bytes that a reader is given. -/
def received (steps : List ReadStep) : OsString :=
  steps.flatMap fun
    | .chunk bytes => bytes
    | _ => []

/-- The lines that were finished have been handed out, all but one that is no text. -/
def Reads (r : LineReader) : Prop :=
  ∃ lines rest, (∀ line ∈ lines, 10 ∉ line) ∧ r.bytes = joined lines ++ rest ∧
    match r.phase with
    | .reading => rest = r.pending ∧ lines.map text = r.out.map some
    | .stopped => lines.map text = r.out.map some ∧
      (10 ∉ rest ∨ ∃ bad more, rest = bad ++ 10 :: more ∧ 10 ∉ bad ∧ text bad = none)
    | .closed => 10 ∉ rest ∧
      lines.map text ++ (if rest = [] then [] else [OsString.toStr rest]) = r.out.map some

lemma reads_init : init.Reads :=
  ⟨[], [], fun _ h => absurd h List.not_mem_nil, rfl, rfl, rfl⟩

lemma pending_eq {pending : OsString} (h : 10 ∈ pending) :
    pending = firstLine pending ++ 10 :: afterLine pending := by
  have hne : pending.dropWhile (· ≠ 10) ≠ [] := by
    rw [Ne, List.dropWhile_eq_nil_iff]
    exact fun hall => absurd (hall 10 h) (by decide)
  obtain ⟨b, rest, hdrop⟩ := List.exists_cons_of_ne_nil hne
  have hb : b = 10 := by
    have hhead := List.head_dropWhile_not (· ≠ (10 : UInt8)) hne
    simp only [hdrop, List.head_cons] at hhead
    simpa using hhead
  calc pending = pending.takeWhile (· ≠ 10) ++ pending.dropWhile (· ≠ 10) :=
        List.takeWhile_append_dropWhile.symm
    _ = firstLine pending ++ 10 :: afterLine pending := by
        rw [afterLine, hdrop, hb, List.tail_cons, firstLine]

lemma notMem_firstLine (pending : OsString) : 10 ∉ firstLine pending := by
  intro hmem
  exact absurd (List.mem_takeWhile_imp hmem) (by decide)

lemma joined_concat (lines : List OsString) (line rest : OsString) :
    joined (lines ++ [line]) ++ rest = joined lines ++ (line ++ 10 :: rest) := by
  simp [joined]

lemma Reads.step {a : ReadStep} {r t : LineReader} (h : r.Reads)
    (ha : LineReader.step a r = some t) : t.Reads := by
  obtain ⟨henabled, ht⟩ := Option.ite_none_right_eq_some.mp ha
  obtain rfl := Option.some.inj ht
  obtain ⟨lines, rest, hlines, hbytes, hphase⟩ := h
  have hreading : r.phase = .reading := by
    cases a with
    | chunk bytes => exact henabled.1.1
    | line => exact henabled.1
    | close => exact henabled.1
    | fail => exact henabled.1
  rw [hreading] at hphase
  obtain ⟨rfl, hout⟩ := hphase
  cases a with
  | chunk bytes =>
    refine ⟨lines, r.pending ++ bytes, hlines, ?_, ?_⟩
    · simp [next, hbytes]
    · simp only [next, handed, hreading]
      exact ⟨trivial, by simpa using hout⟩
  | line =>
    have hpending := pending_eq henabled.2
    have hline := notMem_firstLine r.pending
    cases htext : text (firstLine r.pending) with
    | some t =>
      refine ⟨lines ++ [firstLine r.pending], afterLine r.pending, ?_, ?_, ?_⟩
      · intro line hmem
        rcases List.mem_append.mp hmem with hmem | hmem
        · exact hlines line hmem
        · rw [List.mem_singleton.mp hmem]
          exact hline
      · rw [joined_concat, ← hpending]
        exact hbytes
      · simp [next, handed, htext, hout]
    | none =>
      refine ⟨lines, r.pending, hlines, hbytes, ?_⟩
      simp only [next, handed, htext, Option.isSome_none, Bool.false_eq_true, if_false,
        Option.toList_none, List.append_nil]
      exact ⟨hout, Or.inr ⟨_, _, hpending, hline, htext⟩⟩
  | close =>
    refine ⟨lines, r.pending, hlines, hbytes, ?_⟩
    by_cases hempty : r.pending = []
    · simp [next, handed, hempty, hout]
    · cases htext : OsString.toStr r.pending with
      | some t =>
        simp only [next, handed, if_neg hempty, htext]
        simp [hout, henabled.2]
      | none =>
        simp only [next, handed, if_neg hempty, htext]
        simpa [hempty, hout] using Or.inl henabled.2
  | fail =>
    refine ⟨lines, r.pending, hlines, hbytes, ?_⟩
    exact ⟨by simpa [handed, next] using hout, Or.inl henabled.2⟩

lemma out_of_step {a : ReadStep} {r t : LineReader} (h : step a r = some t) :
    t.out = r.out ++ (handed a r).toList := by
  obtain ⟨-, ht⟩ := Option.ite_none_right_eq_some.mp h
  rw [← Option.some.inj ht]

lemma bytes_of_run {steps : List ReadStep} {r : LineReader}
    (h : runSteps step steps init = some r) : r.bytes = received steps := by
  refine runSteps_invariant (P := fun steps r => r.bytes = received steps) rfl
    (fun as a m m' _ hm ha => ?_) h
  obtain ⟨-, ht⟩ := Option.ite_none_right_eq_some.mp ha
  obtain rfl := Option.some.inj ht
  rw [received, List.flatMap_append, ← received, ← hm, List.flatMap_singleton]
  cases a with
  | chunk bytes => rfl
  | _ => exact (List.append_nil _).symm

/-- Whatever a reader was given, it has handed out the texts of the finished lines in order, up to
the first that is no text: all of them when it waits for more or has stopped, and when the stream
was closed also that of the last line. -/
theorem out_of_run {steps : List ReadStep} {r : LineReader}
    (h : runSteps step steps init = some r) :
    (r.phase = .reading → r.out <+: printed r.bytes) ∧
      (r.Waits ∨ r.phase = .stopped → r.out = printed r.bytes) ∧
      (r.phase = .closed → r.out = printedAll r.bytes) := by
  obtain ⟨lines, rest, hlines, hbytes, hphase⟩ :=
    runSteps_preserves (fun _ _ _ hr ha => Reads.step hr ha) reads_init h
  have hsplit := split_joined hlines rest
  have hprinted : lines.map text = r.out.map some →
      printed r.bytes = r.out ++ whole ((split rest).1.map text) := by
    intro hout
    rw [printed, hbytes, hsplit, List.map_append, hout, whole_map_some]
  have hwhole : 10 ∉ rest → whole ((split rest).1.map text) = [] := by
    intro hrest
    rw [split_of_notMem hrest]
    rfl
  refine ⟨fun hreading => ?_, fun hends => ?_, fun hclosed => ?_⟩
  · rw [hreading] at hphase
    rw [hprinted hphase.2]
    exact List.prefix_append _ _
  · rcases hends with ⟨hreading, hbreak⟩ | hstopped
    · rw [hreading] at hphase
      obtain ⟨rfl, hout⟩ := hphase
      rw [hprinted hout, hwhole hbreak, List.append_nil]
    · rw [hstopped] at hphase
      obtain ⟨hout, hrest | ⟨bad, more, rfl, hbad, htext⟩⟩ := hphase
      · rw [hprinted hout, hwhole hrest, List.append_nil]
      · rw [hprinted hout, split_line hbad, List.map_cons, htext, whole, List.append_nil]
  · rw [hclosed] at hphase
    obtain ⟨hrest, hout⟩ := hphase
    have hall := whole_map_some r.out []
    rw [List.append_nil, whole, List.append_nil] at hall
    rw [printedAll, hbytes, hsplit, split_of_notMem hrest, List.append_nil, hout, hall]

end LineReader
end Lib
