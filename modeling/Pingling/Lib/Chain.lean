import Pingling.Lib.Positions

/-!
# Chains of links

A chain hands a state to a list of links, one after the other. A link may pass, take note
of the state, replace it, replace it and win its stage, halt the whole run, or fail it. A
run has several stages; a win ends its stage, a halt or a failure ends the run.

`visits` lists the links that were asked, each with the state it was given. The results
describe a run by its visits alone, and say when links can be deleted from a chain.
-/

namespace Lib
namespace Chain

/-- What one link does with the state it is given. -/
inductive Verdict (σ ε : Type) where
  | pass
  | observed
  | replaced (s : σ)
  | won (s : σ)
  | halted (s : σ)
  | failed (e : ε)

/-- How a stage or a run ends; a finished one remembers whether some link took part. -/
inductive Outcome (σ ε : Type) where
  | finished (handled : Bool) (s : σ)
  | halted (s : σ)
  | failed (e : ε)

variable {ι σ ε : Type} (act : ι → σ → Verdict σ ε)

namespace Verdict

/-- The verdicts after which the rest of the stage is not asked. -/
@[simp] def Stops : Verdict σ ε → Prop
  | .won _ | .halted _ | .failed _ => True
  | _ => False

/-- The outcome of the whole run, for the verdicts that end it. -/
@[simp] def ending : Verdict σ ε → Option (Outcome σ ε)
  | .halted s => some (.halted s)
  | .failed e => some (.failed e)
  | _ => none

/-- The verdicts of links that take part. -/
@[simp] def takes : Verdict σ ε → Bool
  | .pass => false
  | _ => true

/-- The state after a link that does not end the run. -/
@[simp] def next (s : σ) : Verdict σ ε → σ
  | .replaced s' | .won s' => s'
  | _ => s

lemma ending_eq_failed {v : Verdict σ ε} {e : ε} : v.ending = some (.failed e) ↔ v = .failed e := by
  cases v <;> simp

lemma ending_eq_halted {v : Verdict σ ε} {s : σ} : v.ending = some (.halted s) ↔ v = .halted s := by
  cases v <;> simp

end Verdict

/-- One stage. -/
def run : List ι → Bool → σ → Outcome σ ε
  | [], handled, s => .finished handled s
  | i :: is, handled, s =>
    match act i s with
    | .pass => run is handled s
    | .observed => run is true s
    | .replaced s' => run is true s'
    | .won s' => .finished true s'
    | .halted s' => .halted s'
    | .failed e => .failed e

/-- The links a stage asks, each with the state it is given. -/
def visits : List ι → σ → List (ι × σ)
  | [], _ => []
  | i :: is, s => (i, s) ::
    match act i s with
    | .pass | .observed => visits is s
    | .replaced s' => visits is s'
    | .won _ | .halted _ | .failed _ => []

/-- A run of several stages. -/
def runStages : List (List ι) → Bool → σ → Outcome σ ε
  | [], handled, s => .finished handled s
  | stage :: stages, handled, s =>
    match run act stage false s with
    | .finished h s' => runStages stages (handled || h) s'
    | .halted s' => .halted s'
    | .failed e => .failed e

/-- The visits of a run, one list for each stage. -/
def stageVisits : List (List ι) → σ → List (List (ι × σ))
  | [], _ => []
  | stage :: stages, s => visits act stage s ::
    match run act stage false s with
    | .finished _ s' => stageVisits stages s'
    | .halted _ | .failed _ => stages.map (fun _ => [])

/-- The state after a list of visits. -/
def latest (s : σ) (vs : List (ι × σ)) : σ :=
  vs.foldl (fun s v => (act v.1 v.2).next s) s

lemma latest_of_pass {vs : List (ι × σ)} (h : ∀ v ∈ vs, act v.1 v.2 = .pass) (s : σ) :
    latest act s vs = s := by
  induction vs generalizing s with
  | nil => rfl
  | cons v vs ih =>
    rw [latest, List.foldl_cons, h v List.mem_cons_self]
    exact ih (fun u hu => h u (List.mem_cons_of_mem _ hu)) s

/-- The outcome read off a list of visits. -/
def replay : List (ι × σ) → Bool → σ → Outcome σ ε
  | [], handled, s => .finished handled s
  | v :: vs, handled, s =>
    match (act v.1 v.2).ending with
    | some outcome => outcome
    | none => replay vs (handled || (act v.1 v.2).takes) ((act v.1 v.2).next s)

section Cons

variable {act} {i : ι} {is : List ι} {s : σ}

/-- A link that does not stop its stage hands its state on. -/
lemma run_cons (hgo : ¬(act i s).Stops) (handled : Bool) :
    run act (i :: is) handled s =
      run act is (handled || (act i s).takes) ((act i s).next s) := by
  rw [run]
  cases ha : act i s with
  | pass => simp
  | observed => simp
  | replaced s' => simp
  | _ => simp [ha] at hgo

lemma visits_cons (hgo : ¬(act i s).Stops) :
    visits act (i :: is) s = (i, s) :: visits act is ((act i s).next s) := by
  rw [visits]
  cases ha : act i s with
  | pass => rfl
  | observed => rfl
  | replaced s' => rfl
  | _ => simp [ha] at hgo

lemma visits_cons_of_stops (hstops : (act i s).Stops) : visits act (i :: is) s = [(i, s)] := by
  rw [visits]
  cases ha : act i s with
  | won s' => rfl
  | halted s' => rfl
  | failed e => rfl
  | _ => simp [ha] at hstops

/-- A link that stops a finished stage has won it. -/
lemma won_of_run_finished {handled h : Bool} {s' : σ}
    (hrun : run act (i :: is) handled s = .finished h s') (hstops : (act i s).Stops) :
    ∃ t, act i s = .won t := by
  rw [run] at hrun
  cases ha : act i s with
  | won t => exact ⟨t, rfl⟩
  | halted t =>
    rw [ha] at hrun
    cases hrun
  | failed e =>
    rw [ha] at hrun
    cases hrun
  | _ => simp [ha] at hstops

end Cons

/-- The links asked are a prefix of the stage; when it is proper the last one stopped it. -/
theorem visits_isPrefix (is : List ι) (s : σ) :
    (visits act is s).map Prod.fst <+: is ∧
      ((visits act is s).map Prod.fst ≠ is →
        ∃ vs v, visits act is s = vs ++ [v] ∧ (act v.1 v.2).Stops) := by
  induction is generalizing s with
  | nil => simp [visits]
  | cons i is ih =>
    by_cases hstops : (act i s).Stops
    · rw [visits_cons_of_stops hstops]
      exact ⟨⟨is, rfl⟩, fun _ => ⟨[], (i, s), rfl, hstops⟩⟩
    · obtain ⟨hinitial, hproper⟩ := ih ((act i s).next s)
      rw [visits_cons hstops, List.map_cons]
      refine ⟨(List.prefix_cons_inj i).mpr hinitial, fun hne => ?_⟩
      obtain ⟨vs, v, hvs, hlast⟩ := hproper (fun heq => hne (by rw [heq]))
      exact ⟨(i, s) :: vs, v, by rw [hvs, List.cons_append], hlast⟩

/-- A stage whose links all pass asks each of them about the state it began with. -/
lemma visits_of_pass {is : List ι} {s : σ} (h : ∀ i ∈ is, act i s = .pass) :
    visits act is s = is.map (·, s) := by
  induction is with
  | nil => rfl
  | cons i is ih =>
    rw [visits, h i List.mem_cons_self, List.map_cons]
    exact congrArg _ (ih (fun j hj => h j (List.mem_cons_of_mem _ hj)))

/-- A stage is replayed by its visits. -/
lemma run_eq_replay (is : List ι) (handled : Bool) (s : σ) :
    run act is handled s = replay act (visits act is s) handled s := by
  induction is generalizing handled s with
  | nil => rfl
  | cons i is ih =>
    rw [run, visits]
    cases ha : act i s with
    | pass => simp [replay, ha, ih]
    | observed => simp [replay, ha, ih]
    | replaced s' => simp [replay, ha, ih]
    | won s' => simp [replay, ha]
    | halted s' => simp [replay, ha]
    | failed e => simp [replay, ha]

/-- Visits that finish are followed by the next ones, from the state they leave. -/
lemma replay_append_finished {vs : List (ι × σ)} {handled h : Bool} {s s' : σ}
    (hvs : replay act vs handled s = .finished h s')
    (hends : ∀ v ∈ vs, (act v.1 v.2).ending = none) (ws : List (ι × σ)) :
    replay act (vs ++ ws) handled s = replay act ws h s' := by
  induction vs generalizing handled s with
  | nil =>
    rw [replay, Outcome.finished.injEq] at hvs
    rw [List.nil_append, hvs.1, hvs.2]
  | cons v vs ih =>
    rw [replay, hends v List.mem_cons_self] at hvs
    rw [List.cons_append, replay, hends v List.mem_cons_self]
    exact ih hvs (fun u hu => hends u (List.mem_cons_of_mem _ hu))

lemma replay_or (vs : List (ι × σ)) (handled h : Bool) (s : σ) :
    replay act vs (handled || h) s =
      match replay act vs h s with
      | .finished h' s' => .finished (handled || h') s'
      | .halted s' => .halted s'
      | .failed e => .failed e := by
  induction vs generalizing h s with
  | nil => rfl
  | cons v vs ih =>
    rw [replay, replay]
    cases hv : (act v.1 v.2).ending with
    | none =>
      rw [Bool.or_assoc]
      exact ih _ _
    | some o =>
      cases ha : act v.1 v.2 with
      | halted t =>
        rw [ha, Verdict.ending, Option.some.injEq] at hv
        rw [← hv]
      | failed e =>
        rw [ha, Verdict.ending, Option.some.injEq] at hv
        rw [← hv]
      | _ => simp [ha] at hv

/-- Every visit is given the state the visits before it left, and none follows one that
ended the run. -/
def Threaded : σ → List (ι × σ) → Prop
  | _, [] => True
  | s, v :: vs => v.2 = s ∧ ((act v.1 v.2).ending ≠ none → vs = []) ∧
    Threaded ((act v.1 v.2).next s) vs

variable {act}

lemma Threaded.split {s : σ} {pre post : List (ι × σ)} {v : ι × σ}
    (h : Threaded act s (pre ++ v :: post)) :
    v.2 = latest act s pre ∧ ((act v.1 v.2).ending ≠ none → post = []) := by
  induction pre generalizing s with
  | nil => exact ⟨h.1, h.2.1⟩
  | cons u pre ih => exact ih h.2.2

lemma Threaded.append {s : σ} {vs ws : List (ι × σ)} (h : Threaded act s vs)
    (hends : ∀ v ∈ vs, (act v.1 v.2).ending = none) (hws : Threaded act (latest act s vs) ws) :
    Threaded act s (vs ++ ws) := by
  induction vs generalizing s with
  | nil => exact hws
  | cons v vs ih =>
    obtain ⟨hv, -, htail⟩ := h
    refine ⟨hv, fun hne => absurd (hends v List.mem_cons_self) hne, ?_⟩
    exact ih htail (fun u hu => hends u (List.mem_cons_of_mem _ hu)) hws

/-- A visit that ends the run decides its outcome. -/
lemma Threaded.replay_ends {s : σ} {vs : List (ι × σ)} (h : Threaded act s vs) {v : ι × σ}
    (hv : v ∈ vs) {o : Outcome σ ε} (ho : (act v.1 v.2).ending = some o) (handled : Bool) :
    replay act vs handled s = o := by
  induction vs generalizing s handled with
  | nil => exact absurd hv List.not_mem_nil
  | cons u vs ih =>
    obtain ⟨-, hends, htail⟩ := h
    rw [replay]
    rcases List.mem_cons.mp hv with rfl | hv
    · rw [ho]
    · cases hu : (act u.1 u.2).ending with
      | none => exact ih htail hv _
      | some o' =>
        rw [hends (by rw [hu]; exact Option.some_ne_none o')] at hv
        exact absurd hv List.not_mem_nil

/-- Visits that do not end the run finish it with the latest state, handled if some link
took part. -/
lemma replay_finished {vs : List (ι × σ)} (hends : ∀ v ∈ vs, (act v.1 v.2).ending = none)
    (handled : Bool) (s : σ) :
    replay act vs handled s =
      .finished (handled || vs.any (fun v => (act v.1 v.2).takes)) (latest act s vs) := by
  induction vs generalizing s handled with
  | nil => simp [replay, latest]
  | cons v vs ih =>
    have hhead := hends v List.mem_cons_self
    rw [replay, hhead, ih (fun u hu => hends u (List.mem_cons_of_mem _ hu)), List.any_cons,
      Bool.or_assoc]
    rfl

variable (act)

lemma threaded_visits (is : List ι) (s : σ) : Threaded act s (visits act is s) := by
  induction is generalizing s with
  | nil => trivial
  | cons i is ih =>
    rw [visits]
    cases ha : act i s with
    | pass => exact ⟨rfl, by simp [ha], by simpa [ha] using ih s⟩
    | observed => exact ⟨rfl, by simp [ha], by simpa [ha] using ih s⟩
    | replaced s' => exact ⟨rfl, by simp [ha], by simpa [ha] using ih s'⟩
    | won s' => exact ⟨rfl, fun _ => rfl, trivial⟩
    | halted s' => exact ⟨rfl, fun _ => rfl, trivial⟩
    | failed e => exact ⟨rfl, fun _ => rfl, trivial⟩

/-- Visits whose replay finishes contain none that ends the run. -/
lemma Threaded.ending_eq_none {s s' : σ} {vs : List (ι × σ)} {handled h : Bool}
    (hvs : Threaded act s vs) (hrun : replay act vs handled s = .finished h s') :
    ∀ v ∈ vs, (act v.1 v.2).ending = none := by
  intro v hv
  cases ha : act v.1 v.2 with
  | halted t =>
    rw [hvs.replay_ends hv (by rw [ha]; rfl)] at hrun
    exact nomatch hrun
  | failed e =>
    rw [hvs.replay_ends hv (by rw [ha]; rfl)] at hrun
    exact nomatch hrun
  | pass => rfl
  | observed => rfl
  | replaced t => rfl
  | won t => rfl

/-- A stage that finishes visited no link that ends the run and leaves the latest state. -/
lemma run_finished {is : List ι} {handled h : Bool} {s s' : σ}
    (hrun : run act is handled s = .finished h s') :
    (∀ v ∈ visits act is s, (act v.1 v.2).ending = none) ∧
      s' = latest act s (visits act is s) := by
  rw [run_eq_replay] at hrun
  have hends := (threaded_visits act is s).ending_eq_none act hrun
  rw [replay_finished hends, Outcome.finished.injEq] at hrun
  exact ⟨hends, hrun.2.symm⟩

theorem threaded_stageVisits (stages : List (List ι)) (s : σ) :
    Threaded act s (stageVisits act stages s).flatten := by
  induction stages generalizing s with
  | nil => trivial
  | cons stage stages ih =>
    rw [stageVisits, List.flatten_cons]
    cases hrun : run act stage false s with
    | finished h s' =>
      obtain ⟨hends, rfl⟩ := run_finished act hrun
      exact (threaded_visits act stage s).append hends (ih _)
    | halted s' => simpa using threaded_visits act stage s
    | failed e => simpa using threaded_visits act stage s

/-- A run is replayed by the visits of its stages, one after the other. -/
theorem runStages_eq_replay (stages : List (List ι)) (handled : Bool) (s : σ) :
    runStages act stages handled s = replay act (stageVisits act stages s).flatten handled s := by
  induction stages generalizing handled s with
  | nil => rfl
  | cons stage stages ih =>
    have hor := replay_or act (visits act stage s) handled false s
    rw [Bool.or_false, ← run_eq_replay act stage false] at hor
    have hskip : (stages.map (fun _ => ([] : List (ι × σ)))).flatten = [] := by simp
    rw [runStages, stageVisits]
    cases hrun : run act stage false s with
    | finished h s' =>
      rw [hrun] at hor
      simp only [List.flatten_cons]
      rw [replay_append_finished act hor (run_finished act hrun).1, ih]
    | halted s' =>
      rw [hrun] at hor
      simp only [List.flatten_cons, hskip, List.append_nil]
      exact hor.symm
    | failed e =>
      rw [hrun] at hor
      simp only [List.flatten_cons, hskip, List.append_nil]
      exact hor.symm

/-- A stage that does not finish visited a link that ends the run. -/
lemma exists_ending_of_run {is : List ι} {handled : Bool} {s : σ}
    (h : ∀ b s', run act is handled s ≠ .finished b s') :
    ∃ v ∈ visits act is s, (act v.1 v.2).ending ≠ none := by
  by_contra hnone
  have hends : ∀ v ∈ visits act is s, (act v.1 v.2).ending = none := by
    intro v hv
    by_contra hne
    exact hnone ⟨v, hv, hne⟩
  have hfinished := replay_finished hends handled s
  rw [← run_eq_replay] at hfinished
  exact h _ _ hfinished

lemma stageVisits_of_ended {stage : List ι} {stages : List (List ι)} {s : σ}
    (h : ∀ b s', run act stage false s ≠ .finished b s') :
    stageVisits act (stage :: stages) s = visits act stage s :: stages.map (fun _ => []) := by
  rw [stageVisits]
  cases hrun : run act stage false s with
  | finished b s' => exact absurd hrun (h b s')
  | halted s' => rfl
  | failed e => rfl

lemma length_stageVisits (stages : List (List ι)) (s : σ) :
    (stageVisits act stages s).length = stages.length := by
  induction stages generalizing s with
  | nil => rfl
  | cons stage stages ih =>
    rw [stageVisits]
    cases run act stage false s with
    | finished b s' => simp [ih s']
    | halted s' => simp
    | failed e => simp

/-- Each stage of a run asks a prefix of its links. When it is proper, the last one asked
stopped the stage, or the run had ended in an earlier stage and no link was asked. -/
theorem stageVisits_isPrefix (stages : List (List ι)) (s : σ) {n : ℕ} {stage : List ι}
    {vs : List (ι × σ)} (hstage : stages[n]? = some stage)
    (hvs : (stageVisits act stages s)[n]? = some vs) :
    vs.map Prod.fst <+: stage ∧
      (vs.map Prod.fst ≠ stage →
        (∃ us v, vs = us ++ [v] ∧ (act v.1 v.2).Stops) ∨
        (vs = [] ∧ ∃ m < n, ∃ us, (stageVisits act stages s)[m]? = some us ∧
          ∃ v ∈ us, (act v.1 v.2).ending ≠ none)) := by
  induction stages generalizing s n with
  | nil => simp at hstage
  | cons first stages ih =>
    cases n with
    | zero =>
      rw [stageVisits, List.getElem?_cons_zero, Option.some.injEq] at hvs
      rw [List.getElem?_cons_zero, Option.some.injEq] at hstage
      subst hvs hstage
      have hfirst := visits_isPrefix act first s
      exact ⟨hfirst.1, fun hne => Or.inl (hfirst.2 hne)⟩
    | succ n =>
      rw [List.getElem?_cons_succ] at hstage
      by_cases hrun : ∃ b s', run act first false s = .finished b s'
      · obtain ⟨b, s', hrun⟩ := hrun
        have htail : stageVisits act (first :: stages) s =
            visits act first s :: stageVisits act stages s' := by
          rw [stageVisits, hrun]
        rw [htail, List.getElem?_cons_succ] at hvs
        obtain ⟨hinitial, hproper⟩ := ih s' hstage hvs
        refine ⟨hinitial, fun hne => (hproper hne).imp_right ?_⟩
        rintro ⟨hnil, m, hm, us, hus, v, hv, hends⟩
        refine ⟨hnil, m + 1, by omega, us, ?_, v, hv, hends⟩
        rw [htail, List.getElem?_cons_succ]
        exact hus
      · have hended : ∀ b s', run act first false s ≠ .finished b s' :=
          fun b s' heq => hrun ⟨b, s', heq⟩
        obtain ⟨v, hv, hends⟩ := exists_ending_of_run act hended
        rw [stageVisits_of_ended act hended, List.getElem?_cons_succ, List.getElem?_map, hstage,
          Option.map_some, Option.some.injEq] at hvs
        subst hvs
        refine ⟨⟨stage, rfl⟩, fun _ => Or.inr ⟨rfl, 0, Nat.succ_pos n, _, ?_, v, hv, hends⟩⟩
        rw [stageVisits, List.getElem?_cons_zero]

lemma mem_stage_of_mem_stageVisits {stages : List (List ι)} {s : σ} {v : ι × σ}
    (h : v ∈ (stageVisits act stages s).flatten) : ∃ stage ∈ stages, v.1 ∈ stage := by
  obtain ⟨vs, hvs, hv⟩ := List.mem_flatten.mp h
  obtain ⟨n, hn⟩ := List.getElem?_of_mem hvs
  have hlt : n < stages.length := by
    rw [← length_stageVisits act stages s]
    exact (List.getElem?_eq_some_iff.mp hn).1
  have hstage : stages[n]? = some stages[n] := List.getElem?_eq_getElem hlt
  exact ⟨stages[n], List.getElem_mem hlt,
    (stageVisits_isPrefix act stages s hstage hn).1.subset (List.mem_map_of_mem hv)⟩

section Arrangement

variable {κ : Type} (f : κ → ι)

/-- Renaming the links renames the visits. -/
lemma run_map (ks : List κ) (handled : Bool) (s : σ) :
    run act (ks.map f) handled s = run (fun k => act (f k)) ks handled s ∧
      visits act (ks.map f) s =
        (visits (fun k => act (f k)) ks s).map (fun v => (f v.1, v.2)) := by
  induction ks generalizing handled s with
  | nil => exact ⟨rfl, rfl⟩
  | cons k ks ih =>
    rw [List.map_cons, run, run, visits, visits, List.map_cons]
    cases act (f k) s with
    | pass => exact ⟨(ih handled s).1, congrArg _ (ih true s).2⟩
    | observed => exact ⟨(ih true s).1, congrArg _ (ih true s).2⟩
    | replaced s' => exact ⟨(ih true s').1, congrArg _ (ih true s').2⟩
    | won s' => exact ⟨rfl, rfl⟩
    | halted s' => exact ⟨rfl, rfl⟩
    | failed e => exact ⟨rfl, rfl⟩

/-- Links that never win may as well have a stage each. -/
theorem runStages_singletons {is : List ι} (hwon : ∀ i ∈ is, ∀ s t, act i s ≠ .won t)
    (handled : Bool) (s : σ) :
    runStages act (is.map (fun i => [i])) handled s = run act is handled s ∧
      (stageVisits act (is.map (fun i => [i])) s).flatten = visits act is s := by
  induction is generalizing handled s with
  | nil => exact ⟨rfl, rfl⟩
  | cons i is ih =>
    have ih := ih (fun j hj => hwon j (List.mem_cons_of_mem _ hj))
    have hskip : (is.map (fun _ => ([] : List (ι × σ)))).flatten = [] := by simp
    simp only [List.map_cons, runStages, stageVisits, run, visits]
    cases ha : act i s with
    | pass =>
      simp only [Bool.or_false, List.flatten_cons, List.singleton_append]
      exact ⟨(ih handled s).1, congrArg _ (ih handled s).2⟩
    | observed =>
      simp only [Bool.or_true, List.flatten_cons, List.singleton_append]
      exact ⟨(ih true s).1, congrArg _ (ih true s).2⟩
    | replaced s' =>
      simp only [Bool.or_true, List.flatten_cons, List.singleton_append]
      exact ⟨(ih true s').1, congrArg _ (ih true s').2⟩
    | won s' => exact absurd ha (hwon i List.mem_cons_self s s')
    | halted s' => simp
    | failed e => simp

end Arrangement

/-- The state that comes out of a list of links. -/
def through (s : σ) (is : List ι) : σ :=
  is.foldl (fun s i => (act i s).next s) s

/-- A finished stage asks the links up to the first one that wins in the state that reaches it. -/
theorem cutBehind_visits {is rest : List ι} {handled h : Bool} {s s' : σ}
    (hrun : run act is handled s = .finished h s')
    (hrest : is = (visits act is s).map Prod.fst ++ rest) :
    CutBehind (fun pre i => ∃ t, act i (through act s pre) = .won t) is
      ((visits act is s).map Prod.fst) rest := by
  induction is generalizing handled s with
  | nil =>
    have hnil : rest = [] := by simpa [visits] using hrest.symm
    rw [hnil]
    exact .nil _
  | cons i is ih =>
    by_cases hstops : (act i s).Stops
    · have hwon := won_of_run_finished hrun hstops
      rw [visits_cons_of_stops hstops] at hrest ⊢
      have hall : is = rest := by simpa using hrest
      rw [← hall]
      exact .behind hwon
    · have hwon : ¬∃ t, act i s = .won t := by
        rintro ⟨t, ht⟩
        exact hstops (by rw [ht]; trivial)
      rw [run_cons hstops] at hrun
      rw [visits_cons hstops, List.map_cons, List.cons_append, List.cons.injEq] at hrest
      rw [visits_cons hstops]
      exact (ih hrun hrest.2).cons hwon

section Outcome

variable {act} {s : σ} {vs : List (ι × σ)}

/-- An outcome other than finishing is the ending of some visit. -/
lemma Threaded.replay_ended_iff (h : Threaded act s vs) {handled : Bool} {o : Outcome σ ε}
    (ho : ∀ b s', o ≠ .finished b s') :
    replay act vs handled s = o ↔ ∃ v ∈ vs, (act v.1 v.2).ending = some o := by
  constructor
  · intro hended
    by_contra hnone
    have hends : ∀ v ∈ vs, (act v.1 v.2).ending = none := by
      intro v hv
      cases hv' : (act v.1 v.2).ending with
      | none => rfl
      | some o' =>
        rw [h.replay_ends hv hv'] at hended
        exact absurd ⟨v, hv, by rw [hv', hended]⟩ hnone
    rw [replay_finished hends] at hended
    exact ho _ _ hended.symm
  · rintro ⟨v, hv, hends⟩
    exact h.replay_ends hv hends handled

lemma Threaded.replay_failed_iff (h : Threaded act s vs) {handled : Bool} {e : ε} :
    replay act vs handled s = .failed e ↔
      ∃ v ∈ vs, (act v.1 v.2).ending = some (.failed e) :=
  h.replay_ended_iff (fun _ _ heq => nomatch heq)

lemma Threaded.replay_idle_iff (h : Threaded act s vs) :
    (∃ s', replay act vs false s = .finished false s') ↔
      ∀ v ∈ vs, (act v.1 v.2).takes = false := by
  constructor
  · rintro ⟨s', hidle⟩
    rw [replay_finished (h.ending_eq_none act hidle), Outcome.finished.injEq, Bool.false_or,
      List.any_eq_false] at hidle
    exact fun v hv => Bool.not_eq_true _ ▸ hidle.1 v hv
  · intro hidle
    have hends : ∀ v ∈ vs, (act v.1 v.2).ending = none := by
      intro v hv
      have htakes := hidle v hv
      cases ha : act v.1 v.2 with
      | pass => rfl
      | _ => simp [ha] at htakes
    have hany : vs.any (fun v => (act v.1 v.2).takes) = false :=
      List.any_eq_false.mpr (fun v hv => by rw [hidle v hv]; exact Bool.false_ne_true)
    exact ⟨latest act s vs, by rw [replay_finished hends, hany, Bool.false_or]⟩

/-- Visits of other links with the same verdicts have the same replay and are as threaded. -/
lemma Threaded.relabel {κ : Type} (h : Threaded act s vs) (act' : κ → σ → Verdict σ ε)
    (g : ι × σ → Option (κ × σ))
    (hg : ∀ v ∈ vs, ∃ k, g v = some (k, v.2) ∧ act' k v.2 = act v.1 v.2) :
    Threaded act' s (vs.filterMap g) ∧
      ∀ handled, replay act' (vs.filterMap g) handled s = replay act vs handled s := by
  induction vs generalizing s with
  | nil => exact ⟨trivial, fun _ => rfl⟩
  | cons v vs ih =>
    obtain ⟨hv, hends, htail⟩ := h
    obtain ⟨k, hk, hact⟩ := hg v List.mem_cons_self
    obtain ⟨hthreaded, hreplay⟩ := ih htail (fun u hu => hg u (List.mem_cons_of_mem _ hu))
    rw [List.filterMap_cons_some hk]
    constructor
    · rw [Threaded, hact]
      exact ⟨hv, fun hne => by rw [hends hne, List.filterMap_nil], hthreaded⟩
    · intro handled
      rw [replay, replay, hact]
      cases (act v.1 v.2).ending with
      | none => exact hreplay _
      | some o => rfl

end Outcome

/-- Nothing is left to ask when a stage halts the run. -/
def HaltsLast : List (List ι) → σ → Prop
  | [], _ => True
  | stage :: stages, s =>
    match run act stage false s with
    | .finished _ s' => HaltsLast stages s'
    | .halted _ => ∀ later ∈ stages, later = []
    | .failed _ => True

/-- A stage halts exactly when one of the links it asks does. -/
lemma run_halted_iff {is : List ι} {handled : Bool} {s t : σ} :
    run act is handled s = .halted t ↔ ∃ v ∈ visits act is s, act v.1 v.2 = .halted t := by
  have ho : ∀ b s', (.halted t : Outcome σ ε) ≠ .finished b s' := fun _ _ heq => nomatch heq
  rw [run_eq_replay, (threaded_visits act is s).replay_ended_iff ho]
  simp only [Verdict.ending_eq_halted]

theorem haltsLast_iff (stages : List (List ι)) (s : σ) :
    HaltsLast act stages s ↔
      ∀ (n m : ℕ) (vs : List (ι × σ)) (later : List ι), n < m →
        (stageVisits act stages s)[n]? = some vs →
        (∃ v ∈ vs, ∃ t, act v.1 v.2 = .halted t) → stages[m]? = some later → later = [] := by
  induction stages generalizing s with
  | nil => simp [HaltsLast]
  | cons stage stages ih =>
    have hskipped : ∀ (n : ℕ) (vs : List (ι × σ)),
        (stages.map (fun _ => ([] : List (ι × σ))))[n]? = some vs → vs = [] := by
      intro n vs hvs
      have hmem := List.mem_of_getElem? hvs
      simp only [List.mem_map] at hmem
      obtain ⟨-, -, hnil⟩ := hmem
      exact hnil.symm
    rw [HaltsLast, stageVisits]
    cases hrun : run act stage false s with
    | finished b s' =>
      have hnone : ∀ v ∈ visits act stage s, ∀ t, act v.1 v.2 ≠ .halted t := by
        intro v hv t ht
        have hends := (run_finished act hrun).1 v hv
        rw [ht] at hends
        exact nomatch hends
      simp only [ih s']
      constructor
      · intro hall n m vs later hlt hvs hhalts hlater
        obtain ⟨m, rfl⟩ := Nat.exists_eq_succ_of_ne_zero (Nat.ne_zero_of_lt hlt)
        rw [List.getElem?_cons_succ] at hlater
        cases n with
        | zero =>
          rw [List.getElem?_cons_zero, Option.some.injEq] at hvs
          obtain ⟨v, hv, t, ht⟩ := hhalts
          rw [← hvs] at hv
          exact absurd ht (hnone v hv t)
        | succ n => exact hall n m vs later (by omega) hvs hhalts hlater
      · intro hall n m vs later hlt hvs hhalts hlater
        exact hall (n + 1) (m + 1) vs later (by omega) hvs hhalts hlater
    | halted t =>
      obtain ⟨v, hv, ht⟩ := (run_halted_iff act).mp hrun
      constructor
      · intro hall n m vs later hlt hvs hhalts hlater
        obtain ⟨m, rfl⟩ := Nat.exists_eq_succ_of_ne_zero (Nat.ne_zero_of_lt hlt)
        exact hall later (List.mem_of_getElem? hlater)
      · intro hall later hlater
        obtain ⟨m, hm⟩ := List.getElem?_of_mem hlater
        exact hall 0 (m + 1) (visits act stage s) later (Nat.succ_pos m) rfl ⟨v, hv, t, ht⟩ hm
    | failed e =>
      refine iff_of_true trivial (fun n m vs later hlt hvs hhalts hlater => ?_)
      obtain ⟨v, hv, t, ht⟩ := hhalts
      cases n with
      | zero =>
        rw [List.getElem?_cons_zero, Option.some.injEq] at hvs
        rw [← hvs] at hv
        rw [(run_halted_iff act).mpr ⟨v, hv, ht⟩] at hrun
        exact nomatch hrun
      | succ n =>
        rw [hskipped n vs hvs] at hv
        exact absurd hv List.not_mem_nil

/-- Two outcomes agree but for links that merely took note: the first has more of them. -/
def Agrees : Outcome σ ε → Outcome σ ε → Prop
  | .finished h s, .finished h' s' => s = s' ∧ (h' = true → h = true)
  | .halted s, .halted s' => s = s'
  | .failed e, .failed e' => e = e'
  | _, _ => False

lemma Agrees.of_finished {h : Bool} {s : σ} {o : Outcome σ ε} (ho : Agrees (.finished h s) o) :
    ∃ h', o = .finished h' s ∧ (h' = true → h = true) := by
  cases o with
  | finished h' s' => exact ⟨h', by rw [ho.1], ho.2⟩
  | halted s' => exact ho.elim
  | failed e => exact ho.elim

lemma Agrees.of_halted {s : σ} {o : Outcome σ ε} (ho : Agrees (.halted s) o) : o = .halted s := by
  cases o with
  | halted s' => exact congrArg Outcome.halted (Eq.symm ho)
  | finished h s' => exact ho.elim
  | failed e => exact ho.elim

lemma Agrees.of_failed {e : ε} {o : Outcome σ ε} (ho : Agrees (.failed e) o) : o = .failed e := by
  cases o with
  | failed e' => exact congrArg Outcome.failed (Eq.symm ho)
  | finished h s => exact ho.elim
  | halted s => exact ho.elim

/-- Deleting links that never change the state either leaves the outcome alone, up to the
note that some link took part, or one of them failed the run. -/
theorem run_filter {keep : ι → Bool} {is : List ι}
    (hneutral : ∀ i ∈ is, ∀ s, keep i = false →
      act i s = .pass ∨ act i s = .observed ∨ ∃ e, act i s = .failed e)
    {handled handled' : Bool} (hle : handled' = true → handled = true) (s : σ) :
    (∃ v ∈ visits act is s, keep v.1 = false ∧
      ∃ e, act v.1 v.2 = .failed e ∧ run act is handled s = .failed e) ∨
    Agrees (run act is handled s) (run act (is.filter keep) handled' s) := by
  induction is generalizing handled handled' s with
  | nil => exact Or.inr ⟨rfl, hle⟩
  | cons i is ih =>
    have ih := fun {h h' : Bool} => @ih (fun j hj => hneutral j (List.mem_cons_of_mem _ hj)) h h'
    have hlift : ∀ {h : Bool} {s' : σ}, visits act (i :: is) s = (i, s) :: visits act is s' →
        (∃ v ∈ visits act is s', keep v.1 = false ∧
          ∃ e, act v.1 v.2 = .failed e ∧ run act is h s' = .failed e) →
        ∃ v ∈ visits act (i :: is) s, keep v.1 = false ∧
          ∃ e, act v.1 v.2 = .failed e ∧ run act is h s' = .failed e := by
      rintro h s' hvisits ⟨v, hv, hkeep, he⟩
      exact ⟨v, by rw [hvisits]; exact List.mem_cons_of_mem _ hv, hkeep, he⟩
    cases hkeep : keep i with
    | true =>
      rw [List.filter_cons_of_pos hkeep, run, run]
      cases ha : act i s with
      | pass => exact (ih hle s).imp_left (hlift (by rw [visits, ha]))
      | observed => exact (ih (fun _ => rfl) s).imp_left (hlift (by rw [visits, ha]))
      | replaced s' => exact (ih (fun _ => rfl) s').imp_left (hlift (by rw [visits, ha]))
      | won s' => exact Or.inr ⟨rfl, id⟩
      | halted s' => exact Or.inr rfl
      | failed e => exact Or.inr rfl
    | false =>
      rw [List.filter_cons_of_neg (by rw [hkeep]; exact Bool.false_ne_true), run]
      rcases hneutral i List.mem_cons_self s hkeep with ha | ha | ⟨e, ha⟩
      · rw [ha]
        exact (ih hle s).imp_left (hlift (by rw [visits, ha]))
      · rw [ha]
        exact (ih (fun _ => rfl) s).imp_left (hlift (by rw [visits, ha]))
      · rw [ha]
        exact Or.inl ⟨(i, s), by rw [visits]; exact List.mem_cons_self, hkeep, e, ha, rfl⟩

/-- Deleting links that only pass or take note leaves a stage's outcome alone. -/
lemma run_filter_neutral {keep : ι → Bool} {is : List ι}
    (hneutral : ∀ i ∈ is, ∀ s, keep i = false → act i s = .pass ∨ act i s = .observed) (s : σ) :
    Agrees (run act is false s) (run act (is.filter keep) false s) := by
  rcases run_filter act (fun i hi s h => (hneutral i hi s h).imp_right Or.inl) id s with
    ⟨v, hv, hkeep, e, he, -⟩ | h
  · have hmem : v.1 ∈ is :=
      (visits_isPrefix act is s).1.subset (List.mem_map_of_mem hv)
    rcases hneutral v.1 hmem v.2 hkeep with ha | ha
    · simp [ha] at he
    · simp [ha] at he
  · exact h

/-- The same for a run of several stages. -/
theorem runStages_filter_neutral {keep : ι → Bool} {stages : List (List ι)}
    (hneutral : ∀ stage ∈ stages, ∀ i ∈ stage, ∀ s, keep i = false →
      act i s = .pass ∨ act i s = .observed)
    {handled handled' : Bool} (hle : handled' = true → handled = true) (s : σ) :
    Agrees (runStages act stages handled s)
      (runStages act (stages.map (·.filter keep)) handled' s) := by
  induction stages generalizing handled handled' s with
  | nil => exact ⟨rfl, hle⟩
  | cons stage stages ih =>
    have ih := fun {h h' : Bool} =>
      @ih (fun stage hstage => hneutral stage (List.mem_cons_of_mem _ hstage)) h h'
    have hstage := run_filter_neutral act (hneutral stage List.mem_cons_self) s
    rw [List.map_cons, runStages, runStages]
    cases h : run act stage false s with
    | finished b t =>
      rw [h] at hstage
      obtain ⟨b', h', hb⟩ := hstage.of_finished
      rw [h']
      refine ih (fun hor => ?_) t
      rw [Bool.or_eq_true] at hor ⊢
      exact hor.imp hle hb
    | halted t =>
      rw [h] at hstage
      rw [hstage.of_halted]
      exact rfl
    | failed e =>
      rw [h] at hstage
      rw [hstage.of_failed]
      exact rfl

/-- A run in which no link took part ends with the state it began with. -/
lemma runStages_untouched {stages : List (List ι)} {s s' : σ}
    (h : runStages act stages false s = .finished false s') : s' = s := by
  rw [runStages_eq_replay] at h
  have hends := (threaded_stageVisits act stages s).ending_eq_none act h
  rw [replay_finished hends, Outcome.finished.injEq, Bool.false_or] at h
  obtain ⟨htakes, rfl⟩ := h
  rw [List.any_eq_false] at htakes
  refine latest_of_pass act (fun v hv => ?_) s
  have hv := htakes v hv
  cases ha : act v.1 v.2 with
  | pass => rfl
  | _ => simp [ha] at hv

/-- The same for one stage. -/
lemma run_untouched {is : List ι} {s s' : σ} (h : run act is false s = .finished false s') :
    s' = s := by
  have hstages : runStages act [is] false s = .finished false s' := by
    rw [runStages, h]
    rfl
  exact runStages_untouched act hstages

end Chain
end Lib
