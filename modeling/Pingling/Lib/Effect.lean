import Mathlib

/-!
# Actions on a world

An action reads and changes a world, raises events and gives a value. A routine is a program
that makes requests of a service, as many as it likes, before it answers; `Routine.serve`
runs it for a bounded number of turns.
-/

namespace Lib

/-- What an action leaves: its value, the world after it and the events it raised. -/
@[ext] structure Execution (W ω α : Type) where
  value : α
  world : W
  log : List ω

variable {W ω ω' α β : Type}

structure Action (W ω α : Type) where
  run : W → Execution W ω α

namespace Action

instance : Monad (Action W ω) where
  pure a := ⟨fun w => ⟨a, w, []⟩⟩
  bind x f := ⟨fun w =>
    let last := (f (x.run w).value).run (x.run w).world
    ⟨last.value, last.world, (x.run w).log ++ last.log⟩⟩

/-- Raise an event, then change the world. -/
def perform (event : ω) (change : W → α × W) : Action W ω α :=
  ⟨fun w => ⟨(change w).1, (change w).2, [event]⟩⟩

@[simp] lemma run_pure (a : α) (w : W) : (pure a : Action W ω α).run w = ⟨a, w, []⟩ := rfl

lemma run_bind (x : Action W ω α) (f : α → Action W ω β) (w : W) :
    (x >>= f).run w =
      ⟨((f (x.run w).value).run (x.run w).world).value,
        ((f (x.run w).value).run (x.run w).world).world,
        (x.run w).log ++ ((f (x.run w).value).run (x.run w).world).log⟩ := rfl

lemma run_perform_bind (event : ω) (change : W → α × W) (f : α → Action W ω β) (w : W) :
    (perform event change >>= f).run w =
      ⟨((f (change w).1).run (change w).2).value, ((f (change w).1).run (change w).2).world,
        event :: ((f (change w).1).run (change w).2).log⟩ := rfl

end Action

namespace Execution

/-- The execution with earlier events in front. -/
def prepend (log : List ω) (x : Execution W ω α) : Execution W ω α :=
  ⟨x.value, x.world, log ++ x.log⟩

/-- The execution with each event written out as a list of others. -/
def expand (f : ω → List ω') (x : Execution W ω α) : Execution W ω' α :=
  ⟨x.value, x.world, x.log.flatMap f⟩

lemma expand_prepend (f : ω → List ω') (log : List ω) (x : Execution W ω α) :
    (x.prepend log).expand f = (x.expand f).prepend (log.flatMap f) := by
  ext1
  · rfl
  · rfl
  · exact List.flatMap_append

end Execution

/-- What a routine does in its turn: it answers, or it makes a request and goes on with the
reply. -/
inductive Turn (I R F : Type) where
  | answer (r : R)
  | request (input : I) (resume : R → F)

/-- A program that makes requests. A frame is what it remembers from one turn to the next. -/
structure Routine (I R W : Type) where
  Frame : Type
  start : I → Frame
  turn : Frame → W → Turn I R Frame × W

namespace Routine

variable {I R : Type} (routine : Routine I R W)

/-- Run a routine over a service; no execution comes of it when the turns do not suffice. -/
def serve (service : I → W → Option (Execution W ω R)) :
    ℕ → routine.Frame → W → Option (Execution W ω R)
  | 0, _, _ => none
  | turns + 1, frame, w =>
    match routine.turn frame w with
    | (.answer r, w) => some ⟨r, w, []⟩
    | (.request input resume, w) =>
      (service input w).bind (fun reply =>
        (serve service turns (resume reply.value) reply.world).map (·.prepend reply.log))

/-- An execution over a service that logs in a coarser way can be written out. -/
theorem serve_expand {service : I → W → Option (Execution W ω R)}
    {service' : I → W → Option (Execution W ω' R)} {f : ω' → List ω}
    (h : ∀ input w, service input w = (service' input w).map (·.expand f))
    (turns : ℕ) (frame : routine.Frame) (w : W) :
    routine.serve service turns frame w =
      (routine.serve service' turns frame w).map (·.expand f) := by
  induction turns generalizing frame w with
  | zero => rfl
  | succ turns ih =>
    rw [serve, serve]
    rcases routine.turn frame w with ⟨r | ⟨input, resume⟩, w'⟩
    · rfl
    · simp only [h]
      cases service' input w' with
      | none => rfl
      | some reply =>
        simp only [Option.map_some, Option.bind_some, ih, Option.map_map]
        apply congrArg (fun g => Option.map g _)
        funext x
        exact (Execution.expand_prepend f reply.log x).symm

/-- More turns, of the routine and of its service, change no execution. -/
theorem serve_mono {service service' : I → W → Option (Execution W ω R)}
    (h : ∀ input w x, service input w = some x → service' input w = some x)
    {turns turns' : ℕ} (hle : turns ≤ turns') {frame : routine.Frame} {w : W}
    {x : Execution W ω R} (hx : routine.serve service turns frame w = some x) :
    routine.serve service' turns' frame w = some x := by
  induction turns generalizing turns' frame w x with
  | zero => exact nomatch hx
  | succ turns ih =>
    obtain ⟨turns', rfl⟩ := Nat.exists_eq_add_of_le' (Nat.lt_of_lt_of_le turns.succ_pos hle)
    rw [serve] at hx ⊢
    revert hx
    rcases routine.turn frame w with ⟨r | ⟨input, resume⟩, w'⟩
    · exact id
    · intro hx
      simp only [Option.bind_eq_some_iff, Option.map_eq_some_iff] at hx ⊢
      obtain ⟨reply, hreply, rest, hrest, rfl⟩ := hx
      exact ⟨reply, h input w' reply hreply, rest, ih (Nat.le_of_succ_le_succ hle) hrest, rfl⟩

end Routine
end Lib
