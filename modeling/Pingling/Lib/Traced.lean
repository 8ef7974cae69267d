import Mathlib

/-!
# Computations that leave a trace

A traced computation writes a log and then succeeds or fails; the log of a failed one is
kept. Sequencing appends the logs.
-/

namespace Lib

@[ext] structure Traced (ω ε α : Type) where
  log : List ω
  result : Except ε α

namespace Traced

variable {ω ω' ε ε' α β : Type}

def fail (e : ε) : Traced ω ε α :=
  ⟨[], .error e⟩

def emit (events : List ω) : Traced ω ε Unit :=
  ⟨events, .ok ()⟩

/-- The computation in another vocabulary of events and errors. -/
def translate (event : ω → List ω') (error : ε → ε') (x : Traced ω ε α) : Traced ω' ε' α :=
  ⟨x.log.flatMap event, x.result.mapError error⟩

instance : Monad (Traced ω ε) where
  pure a := ⟨[], .ok a⟩
  bind x f :=
    match x.result with
    | .ok a => ⟨x.log ++ (f a).log, (f a).result⟩
    | .error e => ⟨x.log, .error e⟩

@[simp] lemma pure_log (a : α) : (pure a : Traced ω ε α).log = [] := rfl

@[simp] lemma pure_result (a : α) : (pure a : Traced ω ε α).result = .ok a := rfl

@[simp] lemma fail_log (e : ε) : (fail e : Traced ω ε α).log = [] := rfl

@[simp] lemma fail_result (e : ε) : (fail e : Traced ω ε α).result = .error e := rfl

lemma bind_of_ok {x : Traced ω ε α} {f : α → Traced ω ε β} {a : α} (h : x.result = .ok a) :
    x >>= f = ⟨x.log ++ (f a).log, (f a).result⟩ := by
  change (match x.result with
    | .ok a => (⟨x.log ++ (f a).log, (f a).result⟩ : Traced ω ε β)
    | .error e => ⟨x.log, .error e⟩) = _
  rw [h]

lemma bind_of_error {x : Traced ω ε α} {f : α → Traced ω ε β} {e : ε} (h : x.result = .error e) :
    x >>= f = ⟨x.log, .error e⟩ := by
  change (match x.result with
    | .ok a => (⟨x.log ++ (f a).log, (f a).result⟩ : Traced ω ε β)
    | .error e => ⟨x.log, .error e⟩) = _
  rw [h]

@[simp] lemma emit_bind (events : List ω) (f : Unit → Traced ω ε β) :
    (emit events >>= f : Traced ω ε β) = ⟨events ++ (f ()).log, (f ()).result⟩ :=
  bind_of_ok rfl

end Traced
end Lib
