import Pingling.Lib.Traced

/-!
# Relays

A relay hands a value from stage to stage. Every stage makes a new value of the one it is handed,
and its step is reported, until a stage fails. `run_agree` says what a relay leaves behind, and that
this depends on nothing but the names of the stages and what they make.
-/

namespace Lib.Relay

/-- A stage is known by its name and what it makes of a value. -/
structure Stage (ν σ ε : Type) where
  name : ν
  act : σ → Except ε σ

/-- What a stage made of what it was handed. -/
structure Step (ν σ : Type) where
  name : ν
  input : σ
  output : σ

/-- The calls of the stages, and the reports of their steps in some form. -/
inductive Event (ν σ ρ : Type) where
  | called (name : ν) (input : σ)
  | reported (report : ρ)

variable {ν σ ε ε' ρ ρ' : Type}

def Event.map (f : ρ → ρ') : Event ν σ ρ → Event ν σ ρ'
  | called name input => .called name input
  | reported report => .reported (f report)

lemma Event.map_comp (f : ρ → ρ') {ρ'' : Type} (g : ρ' → ρ'') :
    (Event.map g ∘ Event.map f : Event ν σ ρ → Event ν σ ρ'') = Event.map (g ∘ f) := by
  funext event
  cases event <;> rfl

/-- The calls of a log, in order. -/
def calls (log : List (Event ν σ ρ)) : List (ν × σ) :=
  log.filterMap (fun
    | .called name input => some (name, input)
    | .reported _ => none)

/-- The reports of a log, in order. -/
def reports (log : List (Event ν σ ρ)) : List ρ :=
  log.filterMap (fun
    | .called _ _ => none
    | .reported report => some report)

def run : List (Stage ν σ ε) → σ → Traced (Event ν σ (Step ν σ)) ε σ
  | [], input => pure input
  | stage :: stages, input =>
    match stage.act input with
    | .error e => ⟨[.called stage.name input], .error e⟩
    | .ok output =>
      let rest := run stages output
      ⟨.called stage.name input :: .reported ⟨stage.name, input, output⟩ :: rest.log, rest.result⟩

section

variable {stage : Stage ν σ ε} {input : σ}

lemma run_of_error (stages : List (Stage ν σ ε)) {e : ε} (h : stage.act input = .error e) :
    run (stage :: stages) input = ⟨[.called stage.name input], .error e⟩ := by
  rw [run, h]

lemma run_of_ok (stages : List (Stage ν σ ε)) {output : σ} (h : stage.act input = .ok output) :
    run (stage :: stages) input = ⟨.called stage.name input ::
      .reported ⟨stage.name, input, output⟩ :: (run stages output).log,
        (run stages output).result⟩ := by
  rw [run, h]

end

@[simp] lemma reports_map (f : ρ → ρ') (log : List (Event ν σ ρ)) :
    reports (log.map (Event.map f)) = (reports log).map f := by
  induction log with
  | nil => rfl
  | cons event log ih =>
    cases event with
    | called name input => exact ih
    | reported report => exact congrArg (f report :: ·) ih

@[simp] lemma calls_map (f : ρ → ρ') (log : List (Event ν σ ρ)) :
    calls (log.map (Event.map f)) = calls log := by
  induction log with
  | nil => rfl
  | cons event log ih =>
    cases event with
    | called name input => exact congrArg ((name, input) :: ·) ih
    | reported report => exact ih

def Step.call (step : Step ν σ) : ν × σ :=
  (step.name, step.input)

/-- A log in which every call is followed by the report of its step. -/
def trace (steps : List (Step ν σ)) : List (Event ν σ (Step ν σ)) :=
  steps.flatMap (fun step => [.called step.name step.input, .reported step])

/-- The steps hand on a value: what goes into one of them, or out in the end, is what went in at
first or came out of the one before. -/
def HandsOn (input : σ) (steps : List (Step ν σ)) (last : σ) : Prop :=
  steps.map (·.input) ++ [last] = input :: steps.map (·.output)

def Stage.Makes (stage : Stage ν σ ε) (step : Step ν σ) : Prop :=
  step.name = stage.name ∧ stage.act step.input = .ok step.output

/-- The stages take the input to the last value by these steps. -/
structure Takes (stages : List (Stage ν σ ε)) (input : σ) (steps : List (Step ν σ)) (last : σ) :
    Prop where
  made : List.Forall₂ Stage.Makes stages steps
  handsOn : HandsOn input steps last

lemma Takes.nil (input : σ) : Takes ([] : List (Stage ν σ ε)) input [] input where
  made := .nil
  handsOn := rfl

lemma Takes.cons {stage : Stage ν σ ε} {stages : List (Stage ν σ ε)} {input output last : σ}
    {steps : List (Step ν σ)} (hact : stage.act input = .ok output)
    (h : Takes stages output steps last) :
    Takes (stage :: stages) input (⟨stage.name, input, output⟩ :: steps) last where
  made := .cons ⟨rfl, hact⟩ h.made
  handsOn := congrArg (input :: ·) h.handsOn

lemma reports_append (log log' : List (Event ν σ ρ)) :
    reports (log ++ log') = reports log ++ reports log' :=
  List.filterMap_append

lemma calls_append (log log' : List (Event ν σ ρ)) :
    calls (log ++ log') = calls log ++ calls log' :=
  List.filterMap_append

@[simp] lemma reports_trace (steps : List (Step ν σ)) : reports (trace steps) = steps := by
  induction steps with
  | nil => rfl
  | cons step steps ih => exact congrArg (step :: ·) ih

@[simp] lemma calls_trace (steps : List (Step ν σ)) :
    calls (trace steps) = steps.map Step.call := by
  induction steps with
  | nil => rfl
  | cons step steps ih => exact congrArg (step.call :: ·) ih

/-- The relay takes its input through all stages. -/
structure Succeeds (stages : List (Stage ν σ ε)) (input : σ) (steps : List (Step ν σ))
    (output : σ) : Prop where
  takes : Takes stages input steps output
  run_eq : run stages input = ⟨trace steps, .ok output⟩

/-- The relay takes its input up to a stage that fails. -/
structure FailsAt (stages : List (Stage ν σ ε)) (input : σ) (k : ℕ) (stage : Stage ν σ ε)
    (steps : List (Step ν σ)) (last : σ) (e : ε) : Prop where
  stage_eq : stages[k]? = some stage
  takes : Takes (stages.take k) input steps last
  fails : stage.act last = .error e
  run_eq : run stages input = ⟨trace steps ++ [.called stage.name last], .error e⟩

section

variable {stage : Stage ν σ ε} {stages : List (Stage ν σ ε)} {input output last : σ}
  {steps : List (Step ν σ)}

lemma Succeeds.cons (hact : stage.act input = .ok output)
    (h : Succeeds stages output steps last) :
    Succeeds (stage :: stages) input (⟨stage.name, input, output⟩ :: steps) last where
  takes := h.takes.cons hact
  run_eq := by
    rw [run_of_ok stages hact, h.run_eq]
    rfl

lemma FailsAt.head (stages : List (Stage ν σ ε)) {e : ε} (hact : stage.act input = .error e) :
    FailsAt (stage :: stages) input 0 stage [] input e where
  stage_eq := rfl
  takes := Takes.nil input
  fails := hact
  run_eq := run_of_error stages hact

lemma FailsAt.cons {k : ℕ} {failing : Stage ν σ ε} {e : ε} (hact : stage.act input = .ok output)
    (h : FailsAt stages output k failing steps last e) :
    FailsAt (stage :: stages) input (k + 1) failing (⟨stage.name, input, output⟩ :: steps)
      last e where
  stage_eq := h.stage_eq
  takes := h.takes.cons hact
  fails := h.fails
  run_eq := by
    rw [run_of_ok stages hact, h.run_eq]
    rfl

end

/-- The stages have one name, and one makes a value just when the other makes it too. -/
def Stage.Same (stage : Stage ν σ ε) (stage' : Stage ν σ ε') : Prop :=
  stage.name = stage'.name ∧
    ∀ input output, stage.act input = .ok output ↔ stage'.act input = .ok output

/-- Relays of such stages take their input through the same steps, to the same output or to stages
that fail at the same place. -/
theorem run_agree {stages : List (Stage ν σ ε)} {stages' : List (Stage ν σ ε')}
    (h : List.Forall₂ Stage.Same stages stages') (input : σ) :
    ∃ steps, (∃ output, Succeeds stages input steps output ∧ Succeeds stages' input steps output) ∨
      ∃ k stage stage' last e e', stage.name = stage'.name ∧
        FailsAt stages input k stage steps last e ∧
        FailsAt stages' input k stage' steps last e' := by
  induction h generalizing input with
  | nil => exact ⟨[], .inl ⟨input, ⟨Takes.nil input, rfl⟩, ⟨Takes.nil input, rfl⟩⟩⟩
  | @cons stage stage' stages stages' hsame hrest ih =>
    obtain ⟨hname, hsame⟩ := hsame
    cases hact : stage.act input with
    | error e =>
      cases hact' : stage'.act input with
      | error e' =>
        exact ⟨[], .inr ⟨0, stage, stage', input, e, e', hname, .head stages hact,
          .head stages' hact'⟩⟩
      | ok output =>
        rw [(hsame input output).mpr hact'] at hact
        exact nomatch hact
    | ok output =>
      have hact' := (hsame input output).mp hact
      obtain ⟨steps, hsteps⟩ := ih output
      refine ⟨⟨stage.name, input, output⟩ :: steps, ?_⟩
      rcases hsteps with ⟨last, hleft, hright⟩ |
        ⟨k, failing, failing', last, e, e', hfailing, hleft, hright⟩
      · exact .inl ⟨last, hleft.cons hact, hname ▸ hright.cons hact'⟩
      · exact .inr ⟨k + 1, failing, failing', last, e, e', hfailing, hleft.cons hact,
          hname ▸ hright.cons hact'⟩

end Lib.Relay
