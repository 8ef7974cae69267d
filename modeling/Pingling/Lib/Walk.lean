import Pingling.Lib.Effect
import Pingling.Lib.Positions

/-!
# Walks along a list

A walk takes the elements of a list in order and lets each change a state, until one of
them fails. `Walks` says what such a walk is without saying how it is computed;
`Action.walk` is the loop that takes it, and `Action.walk_spec` its rule.
-/

namespace Lib

variable {ι σ ε : Type} {step : ι → σ → Except ε Unit × σ}

/-- The state that a list of elements leaves, failures aside. -/
def stateAfter (step : ι → σ → Except ε Unit × σ) (s : σ) (is : List ι) : σ :=
  is.foldl (fun s i => (step i s).2) s

@[simp] lemma stateAfter_nil (s : σ) : stateAfter step s [] = s := rfl

@[simp] lemma stateAfter_cons (s : σ) (i : ι) (is : List ι) :
    stateAfter step s (i :: is) = stateAfter step (step i s).2 is := rfl

/-- The walk along `is` from `s` visits these elements, each with the state it is given, and
ends in `s'`, by a failure of the last element visited or else after all of them. -/
structure Walks (step : ι → σ → Except ε Unit × σ) (is : List ι) (s : σ)
    (visited : List (ι × σ)) (failure : Option ε) (s' : σ) : Prop where
  order : visited.map Prod.fst <+: is
  threaded : ∀ pre v post, visited = pre ++ v :: post →
    v.2 = stateAfter step s (pre.map Prod.fst)
  final : s' = stateAfter step s (visited.map Prod.fst)
  passed : failure = none →
    visited.map Prod.fst = is ∧ ∀ v ∈ visited, (step v.1 v.2).1 = .ok ()
  failed : ∀ e, failure = some e →
    ∃ pre v, visited = pre ++ [v] ∧ (step v.1 v.2).1 = .error e ∧
      ∀ u ∈ pre, (step u.1 u.2).1 = .ok ()

namespace Walks

lemma nil (s : σ) : Walks step [] s [] none s where
  order := List.nil_prefix
  threaded pre v post h := by simp at h
  final := rfl
  passed _ := ⟨rfl, fun v hv => absurd hv List.not_mem_nil⟩
  failed e h := nomatch h

lemma stop {i : ι} {is : List ι} {s s' : σ} {e : ε} (h : step i s = (.error e, s')) :
    Walks step (i :: is) s [(i, s)] (some e) s' where
  order := (List.prefix_cons_inj i).mpr List.nil_prefix
  threaded := forall_splits_cons.mpr ⟨rfl, fun pre v post hsplit => by simp at hsplit⟩
  final := by
    change s' = (step i s).2
    rw [h]
  passed hnone := nomatch hnone
  failed e' he := by
    cases he
    have hstep : (step i s).1 = .error e := by rw [h]
    exact ⟨[], (i, s), rfl, hstep, fun u hu => absurd hu List.not_mem_nil⟩

lemma next {i : ι} {is : List ι} {s s' t : σ} {visited : List (ι × σ)} {failure : Option ε}
    (h : step i s = (.ok (), s')) (hwalk : Walks step is s' visited failure t) :
    Walks step (i :: is) s ((i, s) :: visited) failure t := by
  have hok : (step i s).1 = .ok () := by rw [h]
  have hstate : ∀ js, stateAfter step s (i :: js) = stateAfter step s' js := by
    intro js
    rw [stateAfter_cons, h]
  constructor
  · rw [List.map_cons]
    exact (List.prefix_cons_inj i).mpr hwalk.order
  · rw [forall_splits_cons]
    refine ⟨rfl, fun pre v post hsplit => ?_⟩
    rw [List.map_cons, hstate]
    exact hwalk.threaded pre v post hsplit
  · rw [List.map_cons, hstate]
    exact hwalk.final
  · intro hnone
    have hpassed := hwalk.passed hnone
    refine ⟨by rw [List.map_cons, hpassed.1], fun v hv => ?_⟩
    rcases List.mem_cons.mp hv with rfl | hv
    · exact hok
    · exact hpassed.2 v hv
  · intro e he
    obtain ⟨pre, v, hvisited, hfails, hpre⟩ := hwalk.failed e he
    refine ⟨(i, s) :: pre, v, by rw [hvisited, List.cons_append], hfails, fun u hu => ?_⟩
    rcases List.mem_cons.mp hu with rfl | hu
    · exact hok
    · exact hpre u hu

end Walks

variable {W ω : Type} (event : ι → σ → ω) (change : ι → σ → W → (Except ε Unit × σ) × W)
  (abort : σ → ε → Action W ω Unit)

/-- A change of a state and of the world, as a step on the two. -/
def withWorld (i : ι) (s : σ × W) : Except ε Unit × (σ × W) :=
  ((change i s.1 s.2).1.1, (change i s.1 s.2).1.2, (change i s.1 s.2).2)

/-- The events of a walk. -/
def walkEvents (visited : List (ι × σ × W)) : List ω :=
  visited.map (fun v => event v.1 v.2.1)

namespace Action

/-- Let each element change the state in turn; `abort` follows the first failure. -/
def walk : List ι → σ → Action W ω (Except ε σ)
  | [], s => pure (.ok s)
  | i :: is, s => do
    match ← perform (event i s) (change i s) with
    | (.error e, s) =>
      abort s e
      pure (.error e)
    | (.ok (), s) => walk is s

/-- The loop walks; it gives the final state when no element failed, and otherwise aborts
in the state that the failing element left. -/
theorem walk_spec (is : List ι) (s : σ) (w : W) :
    ∃ visited failure t w', Walks (withWorld change) is (s, w) visited failure (t, w') ∧
      (walk event change abort is s).run w =
        match failure with
        | none => ⟨.ok t, w', walkEvents event visited⟩
        | some e =>
          ⟨.error e, ((abort t e).run w').world,
            walkEvents event visited ++ ((abort t e).run w').log⟩ := by
  induction is generalizing s w with
  | nil => exact ⟨[], none, s, w, .nil _, rfl⟩
  | cons i is ih =>
    rcases hchange : change i s w with ⟨⟨e | ⟨⟩, s'⟩, w'⟩
    · have hstep : withWorld change i (s, w) = (.error e, s', w') := by
        simp only [withWorld, hchange]
      refine ⟨_, some e, s', w', .stop hstep, ?_⟩
      rw [walk, run_perform_bind, hchange]
      simp only [run_bind, run_pure, List.append_nil]
      rfl
    · have hstep : withWorld change i (s, w) = (.ok (), s', w') := by
        simp only [withWorld, hchange]
      obtain ⟨visited, failure, t, w'', hwalk, hrun⟩ := ih s' w'
      refine ⟨_, failure, t, w'', hwalk.next hstep, ?_⟩
      rw [walk, run_perform_bind, hchange]
      cases failure with
      | none =>
        simp only [hrun]
        rfl
      | some e =>
        simp only [hrun]
        rfl

end Action
end Lib
