import Pingling.HostRuntime.Observation

/-!
# Replaying a run from its trace

A listener that sees the initial payload and the observations of a run, and nothing else,
knows how the run ended: `runSlotChainObserved_replayed`.
-/

namespace Pingling.HostRuntime
open Lib Std HostContract

/-- The plugin took part. -/
def SlotObservation.Handles (o : SlotObservation) : Prop :=
  o.event = .unchanged ∨ o.event = .continue ∨ o.event = .halt

/-- The payload of the plugin was used. -/
def SlotObservation.Decides (o : SlotObservation) : Prop :=
  (o.event = .continue ∨ o.event = .halt) ∧ o.policy ≠ .broadcast ∧ o.policy ≠ .bestEffort

instance (o : SlotObservation) : Decidable o.Decides :=
  inferInstanceAs (Decidable (_ ∧ _))

/-- An error was observed, or the trace breaks off after an entry. -/
def TraceFails (trace : List SlotObservation) : Prop :=
  (∃ o ∈ trace, o.event = .error) ∨ ∃ o, trace.getLast? = some o ∧ o.event = .enter

def TraceHandles (trace : List SlotObservation) : Prop :=
  ∃ o ∈ trace, o.Handles

/-- The last payload that was used, or the initial one. -/
def tracePayload (initial : Value) (trace : List SlotObservation) : Value :=
  match (trace.filter (fun o => o.Decides)).getLast? with
  | some o => o.payloadJson
  | none => initial

section Trace

variable {enter exit : SlotObservation} {trace : List SlotObservation}

lemma SlotObservation.Decides.handles {o : SlotObservation} (h : o.Decides) : o.Handles :=
  Or.inr h.1

lemma SlotObservation.Decides.ne_error {o : SlotObservation} (h : o.Decides) :
    o.event ≠ .error := by
  intro herror
  rcases h.1 with hevent | hevent
  · rw [herror] at hevent
    exact nomatch hevent
  · rw [herror] at hevent
    exact nomatch hevent

lemma not_traceFails_nil : ¬TraceFails [] := by
  simp [TraceFails]

lemma not_traceHandles_nil : ¬TraceHandles [] := by
  simp [TraceHandles]

lemma traceFails_cons_cons (hopens : enter.event = .enter) (hcloses : exit.event ≠ .enter) :
    TraceFails (enter :: exit :: trace) ↔ exit.event = .error ∨ TraceFails trace := by
  have hlast : (∃ o, (enter :: exit :: trace).getLast? = some o ∧ o.event = .enter) ↔
      ∃ o, trace.getLast? = some o ∧ o.event = .enter := by
    cases trace with
    | nil => simp [hcloses]
    | cons o trace => simp [List.getLast?_cons_cons]
  unfold TraceFails
  rw [hlast, List.exists_mem_cons_iff, List.exists_mem_cons_iff, hopens]
  simp [or_assoc]

lemma traceHandles_cons_cons (hopens : enter.event = .enter) :
    TraceHandles (enter :: exit :: trace) ↔ exit.Handles ∨ TraceHandles trace := by
  have henter : ¬enter.Handles := by simp [SlotObservation.Handles, hopens]
  unfold TraceHandles
  rw [List.exists_mem_cons_iff, List.exists_mem_cons_iff]
  exact or_iff_right henter

lemma tracePayload_cons_cons (hopens : enter.event = .enter) (initial : Value) :
    tracePayload initial (enter :: exit :: trace) =
      tracePayload (if exit.Decides then exit.payloadJson else initial) trace := by
  have henter : ¬enter.Decides := by simp [SlotObservation.Decides, hopens]
  unfold tracePayload
  by_cases hexit : exit.Decides
  · rw [if_pos hexit, List.filter_cons_of_neg (by simpa using henter),
      List.filter_cons_of_pos (by simpa using hexit), List.getLast?_cons]
    cases (trace.filter (fun o => o.Decides)).getLast? <;> rfl
  · rw [if_neg hexit, List.filter_cons_of_neg (by simpa using henter),
      List.filter_cons_of_neg (by simpa using hexit)]

end Trace

section Run

variable {P : Type} [SlotPayload P]

/-- What a terminal observation says about the verdict it stands for. -/
def Reports (o : SlotObservation) : Chain.Verdict P HostFailure → Prop
  | .pass => o.event ≠ .error ∧ ¬o.Handles
  | .observed => o.event ≠ .error ∧ o.Handles ∧ ¬o.Decides
  | .replaced next => o.Decides ∧ o.payloadJson = payloadJson next
  | .won next => o.Decides ∧ o.payloadJson = payloadJson next
  | .halted final => o.Decides ∧ o.payloadJson = payloadJson final
  | .failed _ => o.event = .error

lemma reports_terminal (call : PhaseCall) (answer : Answer P) (original : Value)
    (message : Option String) :
    Reports (call.observation (terminalEvent call.policy answer) (terminalPayload original answer)
      message) (policyVerdict call.policy answer) := by
  obtain ⟨pluginId, slot, phase, policy, wireVersion, invocationId⟩ := call
  cases policy <;> cases answer <;>
    simp [Reports, SlotObservation.Handles, SlotObservation.Decides,
      PhaseCall.observation, terminalEvent, terminalPayload, policyVerdict]

/-- The observations of a visit whose plugin is called: an entry alone when the answer is
garbled, else an entry and the report of the verdict. -/
lemma observations_of_called {link : PhaseLink} {payload : P} (hcalled : link.Called payload) :
    ∃ enter : SlotObservation, enter.event = .enter ∧
      ((observations (PhaseLink.log .recording link payload) = [enter] ∧
          ∃ error, link.verdict payload = .failed error) ∨
        ∃ exit : SlotObservation, exit.event ≠ .enter ∧
          observations (PhaseLink.log .recording link payload) = [enter, exit] ∧
          Reports exit (link.verdict payload)) := by
  by_cases hgarbled : link.Garbled payload
  · obtain ⟨hfailed, params, hlog⟩ := hgarbled.log_recording
    exact ⟨_, rfl, Or.inl ⟨by rw [hlog]; rfl, hfailed⟩⟩
  · obtain ⟨params, hparams⟩ := hcalled
    obtain ⟨message, hlog⟩ := PhaseLink.log_recording hparams hgarbled
    refine ⟨_, rfl, Or.inr ⟨_, terminalEvent_ne_enter _ _, by rw [hlog]; rfl, ?_⟩⟩
    rw [PhaseLink.verdict_called hparams]
    exact reports_terminal link.call (link.answer P params) _ message

/-- A trace tells the outcome of a chain that began with a payload, handled or not. -/
def Recounts (trace : List SlotObservation) (handled : Bool) (payload : P) :
    Chain.Outcome P HostFailure → Prop
  | .failed _ => TraceFails trace
  | .halted final => ¬TraceFails trace ∧ TraceHandles trace ∧
      payloadJson final = tracePayload (payloadJson payload) trace
  | .finished h final => ¬TraceFails trace ∧ (h = true ↔ handled = true ∨ TraceHandles trace) ∧
      payloadJson final = tracePayload (payloadJson payload) trace

/-- An entry and a report before a trace, of a visit that does not end the run. -/
lemma Recounts.cons {enter exit : SlotObservation} {trace : List SlotObservation}
    {handled takes : Bool} {payload next : P} {outcome : Chain.Outcome P HostFailure}
    (hopens : enter.event = .enter) (hcloses : exit.event ≠ .enter) (herror : exit.event ≠ .error)
    (htakes : takes = true ↔ exit.Handles)
    (hnext : payloadJson next = if exit.Decides then exit.payloadJson else payloadJson payload)
    (h : Recounts trace (handled || takes) next outcome) :
    Recounts (enter :: exit :: trace) handled payload outcome := by
  have hfails : TraceFails (enter :: exit :: trace) ↔ TraceFails trace := by
    rw [traceFails_cons_cons hopens hcloses]
    exact or_iff_right herror
  have hpayload : tracePayload (payloadJson payload) (enter :: exit :: trace) =
      tracePayload (payloadJson next) trace := by
    rw [tracePayload_cons_cons hopens, hnext]
  cases outcome with
  | failed error => exact hfails.mpr h
  | halted final =>
    refine ⟨fun hf => h.1 (hfails.mp hf), ?_, h.2.2.trans hpayload.symm⟩
    exact (traceHandles_cons_cons hopens).mpr (Or.inr h.2.1)
  | finished b final =>
    refine ⟨fun hf => h.1 (hfails.mp hf), ?_, h.2.2.trans hpayload.symm⟩
    rw [h.2.1, Bool.or_eq_true, htakes, traceHandles_cons_cons hopens, or_assoc]

/-- The trace of a chain recounts its outcome: by induction on the visits, carrying the payload
and the handled flag. -/
theorem recounts_replay {vs : List (PhaseLink × P)} {payload : P} (handled : Bool)
    (hthreaded : Chain.Threaded PhaseLink.verdict payload vs)
    (hcalled : ∀ v ∈ vs, v.1.Called v.2) :
    Recounts (observations (vs.flatMap (fun v => PhaseLink.log .recording v.1 v.2))) handled payload
      (Chain.replay PhaseLink.verdict vs handled payload) := by
  induction vs generalizing payload handled with
  | nil => exact ⟨not_traceFails_nil, by simp [not_traceHandles_nil], rfl⟩
  | cons v vs ih =>
    obtain ⟨hv, hends, htail⟩ := hthreaded
    obtain ⟨enter, hopens, hvisit⟩ := observations_of_called (hcalled v List.mem_cons_self)
    have ih := fun b => ih b htail (fun u hu => hcalled u (List.mem_cons_of_mem _ hu))
    rw [List.flatMap_cons, observations_append, Chain.replay]
    rcases hvisit with ⟨hentry, error, hfailed⟩ | ⟨exit, hcloses, hbracket, hreports⟩
    · have hlast : vs = [] := hends (by rw [hfailed]; exact Option.some_ne_none _)
      rw [hentry, hlast, hfailed]
      exact Or.inr ⟨enter, rfl, hopens⟩
    · rw [hbracket]
      cases hverdict : v.1.verdict v.2 with
      | pass =>
        rw [hverdict] at hreports ih hends
        obtain ⟨herror, hidle⟩ := hreports
        have hnext : ¬exit.Decides := fun h => hidle h.handles
        exact Recounts.cons hopens hcloses herror (by simp [hidle]) (by rw [if_neg hnext]; rfl)
          (ih _)
      | observed =>
        rw [hverdict] at hreports ih hends
        obtain ⟨herror, hhandles, hnext⟩ := hreports
        exact Recounts.cons hopens hcloses herror (by simp [hhandles]) (by rw [if_neg hnext]; rfl)
          (ih _)
      | replaced next =>
        rw [hverdict] at hreports ih hends
        obtain ⟨hdecides, hpayload⟩ := hreports
        exact Recounts.cons hopens hcloses hdecides.ne_error (by simp [hdecides.handles])
          (by rw [if_pos hdecides, hpayload]; rfl) (ih _)
      | won next =>
        rw [hverdict] at hreports ih hends
        obtain ⟨hdecides, hpayload⟩ := hreports
        exact Recounts.cons hopens hcloses hdecides.ne_error (by simp [hdecides.handles])
          (by rw [if_pos hdecides, hpayload]; rfl) (ih _)
      | halted final =>
        rw [hverdict] at hreports hends
        obtain ⟨hdecides, hpayload⟩ := hreports
        obtain rfl : vs = [] := hends (Option.some_ne_none _)
        refine ⟨?_, ?_, ?_⟩
        · intro hfails
          rcases (traceFails_cons_cons hopens hcloses).mp hfails with herror | hnil
          · exact hdecides.ne_error herror
          · exact not_traceFails_nil hnil
        · exact (traceHandles_cons_cons hopens).mpr (Or.inl hdecides.handles)
        · refine Eq.trans ?_ (tracePayload_cons_cons hopens _).symm
          rw [if_pos hdecides, hpayload]
          rfl
      | failed error =>
        rw [hverdict] at hreports
        exact (traceFails_cons_cons hopens hcloses).mpr (Or.inl hreports)

/-- How a run ends is told by the initial payload and the observations, when the payloads it
hands to plugins serialise. -/
theorem runSlotChainObserved_replayed {runtime : LoadedPluginRegistry} (h : runtime.Reachable)
    (slot : Slot) (wireVersion : UInt32) (invocationId : String) (initial : P)
    (hserialises : ∀ v ∈ runtime.chainVisits slot wireVersion invocationId initial,
      ∃ json, SlotPayload.toValue v.2 = .ok json) :
    let run := runtime.runSlotChainObserved slot wireVersion invocationId .recording initial
    let trace := observations run.log
    ((∃ error, run.result = .error error) ↔ TraceFails trace) ∧
    (¬TraceFails trace →
      (run.result = .ok none ↔ ¬TraceHandles trace) ∧
      (TraceHandles trace → ∃ payload, run.result = .ok (some payload) ∧
        payloadJson payload = tracePayload (payloadJson initial) trace)) := by
  intro run trace
  have hfollows := h.wellFormed.runSlotChainObserved_follows slot wireVersion invocationId initial
    .recording
  have hrecounts := recounts_replay false hfollows.threaded
    (fun v hv => SlotContext.toValue_eq_ok.mpr (hserialises v hv))
  rw [← hfollows.log] at hrecounts
  have hresult : run.result = _ := hfollows.result
  cases hreplay : Chain.replay PhaseLink.verdict
      (runtime.chainVisits slot wireVersion invocationId initial) false initial with
  | failed error =>
    rw [hreplay] at hrecounts hresult
    have hfails : TraceFails trace := hrecounts
    exact ⟨iff_of_true ⟨error, hresult⟩ hfails, fun hnot => absurd hfails hnot⟩
  | halted final =>
    rw [hreplay] at hrecounts hresult
    obtain ⟨hfails, hhandles, hpayload⟩ := hrecounts
    refine ⟨iff_of_false ?_ hfails, fun _ => ⟨iff_of_false ?_ (fun hnot => hnot hhandles),
      fun _ => ⟨final, hresult, hpayload⟩⟩⟩
    · rintro ⟨error, herror⟩
      rw [hresult] at herror
      exact nomatch herror
    · intro hnone
      rw [hresult] at hnone
      exact nomatch hnone
  | finished handled final =>
    rw [hreplay] at hrecounts hresult
    obtain ⟨hfails, hhandled, hpayload⟩ := hrecounts
    have hhandled : handled = true ↔ TraceHandles trace :=
      hhandled.trans (or_iff_right Bool.false_ne_true)
    refine ⟨iff_of_false ?_ hfails, fun _ => ⟨?_, fun hhandles => ⟨final, ?_, hpayload⟩⟩⟩
    · rintro ⟨error, herror⟩
      rw [hresult] at herror
      exact nomatch herror
    · rw [hresult, ← hhandled]
      cases handled <;> simp [chainResult]
    · rw [hresult, hhandled.mpr hhandles]
      rfl

end Run

theorem runSlotChainObserved_replayed_resolver :
    let run := resolverRuntime.runSlotChainObserved ⟨"config.process"⟩ 1 "inv" .recording Value.null
    let trace := observations run.log
    ((∃ error, run.result = .error error) ↔ TraceFails trace) ∧
    (¬TraceFails trace →
      (run.result = .ok none ↔ ¬TraceHandles trace) ∧
      (TraceHandles trace → ∃ payload, run.result = .ok (some payload) ∧
        payloadJson payload = tracePayload (payloadJson Value.null) trace)) :=
  runSlotChainObserved_replayed (LoadedPluginRegistry.reachable_load _) ⟨"config.process"⟩ 1 "inv"
    Value.null (fun v _ => ⟨v.2, rfl⟩)

end Pingling.HostRuntime
