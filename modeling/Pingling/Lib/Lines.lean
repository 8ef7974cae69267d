import Mathlib

/-!
# Messages on lines

A stream of messages has a line break after each of them. A reader keeps the unfinished line
between two chunks of the stream, and where the stream is cut into chunks does not matter.
-/

namespace Lib.Lines

/-- The finished lines of a text, and what stands after the last line break. -/
def cut : List Char → List (List Char) × List Char
  | [] => ([], [])
  | c :: text =>
    if c = '\n' then ([] :: (cut text).1, (cut text).2)
    else
      match cut text with
      | ([], rest) => ([], c :: rest)
      | (line :: lines, rest) => ((c :: line) :: lines, rest)

/-- A reader takes a chunk: it hands out the lines that the chunk finishes. -/
def feed (pending chunk : List Char) : List (List Char) × List Char :=
  cut (pending ++ chunk)

/-- The lines that a reader hands out over a whole stream, and what it keeps. -/
def feedAll : List Char → List (List Char) → List (List Char) × List Char
  | pending, [] => ([], pending)
  | pending, chunk :: chunks =>
    let (lines, rest) := feed pending chunk
    let (more, last) := feedAll rest chunks
    (lines ++ more, last)

/-- A stream of messages. -/
def stream (messages : List (List Char)) : List Char :=
  messages.flatMap (fun message => message ++ ['\n'])

def IsLine (message : List Char) : Prop :=
  '\n' ∉ message

lemma cut_break (text : List Char) : cut ('\n' :: text) = ([] :: (cut text).1, (cut text).2) := by
  rfl

lemma cut_cons {c : Char} (h : c ≠ '\n') (text : List Char) :
    cut (c :: text) =
      match cut text with
      | ([], rest) => ([], c :: rest)
      | (line :: lines, rest) => ((c :: line) :: lines, rest) := by
  rw [cut, if_neg h]

lemma cut_line {message : List Char} (h : IsLine message) (text : List Char) :
    cut (message ++ '\n' :: text) = (message :: (cut text).1, (cut text).2) := by
  induction message with
  | nil => rfl
  | cons c message ih =>
    have hc : c ≠ '\n' := fun hc => h (hc ▸ List.mem_cons_self)
    have hrest : IsLine message := fun hmem => h (List.mem_cons_of_mem _ hmem)
    rw [List.cons_append, cut_cons hc, ih hrest]

lemma cut_of_isLine {message : List Char} (h : IsLine message) : cut message = ([], message) := by
  induction message with
  | nil => rfl
  | cons c message ih =>
    have hc : c ≠ '\n' := fun hc => h (hc ▸ List.mem_cons_self)
    have hrest : IsLine message := fun hmem => h (List.mem_cons_of_mem _ hmem)
    rw [cut_cons hc, ih hrest]

/-- Cutting a stream gives its messages. -/
lemma cut_stream {messages : List (List Char)} (h : ∀ message ∈ messages, IsLine message) :
    cut (stream messages) = (messages, []) := by
  induction messages with
  | nil => rfl
  | cons message messages ih =>
    have hline := h message List.mem_cons_self
    have ih := ih fun message hmem => h message (List.mem_cons_of_mem _ hmem)
    have hsplit : stream (message :: messages) = message ++ '\n' :: stream messages := by
      rw [stream, List.flatMap_cons, List.append_assoc]
      rfl
    rw [hsplit, cut_line hline, ih]

/-- What is kept of a text is its unfinished line. -/
lemma isLine_cut (text : List Char) : IsLine (cut text).2 := by
  induction text with
  | nil => exact List.not_mem_nil
  | cons c text ih =>
    by_cases hc : c = '\n'
    · rw [hc, cut_break]
      exact ih
    · rw [cut_cons hc]
      cases hcut : cut text with
      | mk lines rest =>
        rw [hcut] at ih
        cases lines with
        | nil =>
          intro hmem
          rcases List.mem_cons.mp hmem with heq | hmem
          · exact hc heq.symm
          · exact ih hmem
        | cons line lines => exact ih

/-- Cutting a text in two steps, the unfinished line of the first one going before the second. -/
lemma cut_append (text text' : List Char) :
    cut (text ++ text') =
      ((cut text).1 ++ (cut ((cut text).2 ++ text')).1, (cut ((cut text).2 ++ text')).2) := by
  induction text with
  | nil => rfl
  | cons c text ih =>
    by_cases hc : c = '\n'
    · rw [hc, List.cons_append, cut_break, cut_break, ih]
      rfl
    · rw [List.cons_append, cut_cons hc, cut_cons hc, ih]
      cases hcut : cut text with
      | mk lines rest =>
        cases lines with
        | nil =>
          rw [List.cons_append, cut_cons hc]
          cases cut (rest ++ text') with
          | mk more last => cases more <;> rfl
        | cons line lines => rfl

/-- A reader hands out the lines of the whole stream, however it is cut into chunks. -/
theorem feedAll_eq (pending : List Char) (hpending : IsLine pending) (chunks : List (List Char)) :
    feedAll pending chunks = cut (pending ++ chunks.flatten) := by
  induction chunks generalizing pending with
  | nil => rw [feedAll, List.flatten_nil, List.append_nil, cut_of_isLine hpending]
  | cons chunk chunks ih =>
    rw [feedAll, List.flatten_cons, ← List.append_assoc, cut_append (pending ++ chunk)]
    have hrest := ih (feed pending chunk).2 (isLine_cut _)
    simp only [hrest]
    rfl

end Lib.Lines
