import Pingling.HostRuntime.PolicyChain

/-!
# What a slot chain does

`SlotChainSemantics` describes a run of `runSlotChain` by the calls it makes: which
bindings are reached in each phase, which payload each plugin is handed, and how the
answers decide the result. `runSlotChain_semantics` proves it of every run.
-/

namespace Pingling.HostRuntime
open Lib Std HostContract

/-- The policies under which the host uses a plugin's output. -/
def UsesOutput (policy : SlotPolicy) : Prop :=
  policy = .pipeline ∨ policy = .singleOwner ∨ policy = .firstSuccess

instance (policy : SlotPolicy) : Decidable (UsesOutput policy) :=
  inferInstanceAs (Decidable (_ ∨ _ ∨ _))

/-- One `handleIpc` call of a run: the binding it is made for, the payload that is handed
over, its context as JSON, and the answer as the host reads it. -/
structure SlotCall (P : Type) where
  binding : PluginBinding
  payload : P
  params : Value
  answer : Answer P

namespace SlotCall

variable {P : Type}

def method (c : SlotCall P) : String :=
  s!"slot.{c.binding.slot.value}.{c.binding.phase.asStr}"

def ipcCall (c : SlotCall P) : IpcCall :=
  ⟨c.binding.pluginId, c.method, c.params⟩

/-- A halt that the host obeys. -/
def Halts (c : SlotCall P) (final : P) : Prop :=
  UsesOutput c.binding.policy ∧ c.answer = .halt final

/-- A failure that is not suppressed. -/
def Fails (c : SlotCall P) (error : HostFailure) : Prop :=
  c.binding.policy ≠ .bestEffort ∧ c.answer = .failure error

def Ends (c : SlotCall P) : Prop :=
  (∃ final, c.Halts final) ∨ ∃ error, c.Fails error

/-- The concrete result of a `firstSuccess` handler. -/
def Wins (c : SlotCall P) : Prop :=
  c.binding.policy = .firstSuccess ∧ ∃ next, c.answer = .continue next

/-- An answer that leaves the run unhandled. -/
def Idle (c : SlotCall P) : Prop :=
  c.answer = .skipped ∨ c.answer = .unhandled ∨
    c.binding.policy = .bestEffort ∧ ∃ error, c.answer = .failure error

/-- The payload that a call puts in the place of the one it was given. -/
def output (c : SlotCall P) : Option P :=
  match c.answer with
  | .continue next => if UsesOutput c.binding.policy then some next else none
  | _ => none

def verdict (c : SlotCall P) : Chain.Verdict P HostFailure :=
  policyVerdict c.binding.policy c.answer

lemma verdict_stops {c : SlotCall P} : c.verdict.Stops ↔ c.Ends ∨ c.Wins := by
  unfold verdict Ends Halts Fails Wins UsesOutput
  cases c.answer <;> cases c.binding.policy <;> simp [policyVerdict]

lemma verdict_ending {c : SlotCall P} : c.verdict.ending ≠ none ↔ c.Ends := by
  unfold verdict Ends Halts Fails UsesOutput
  cases c.answer <;> cases c.binding.policy <;> simp [policyVerdict]

lemma verdict_ending_halted {c : SlotCall P} {final : P} :
    c.verdict.ending = some (.halted final) ↔ c.Halts final := by
  unfold verdict Halts UsesOutput
  cases c.answer <;> cases c.binding.policy <;> simp [policyVerdict]

lemma verdict_ending_failed {c : SlotCall P} {error : HostFailure} :
    c.verdict.ending = some (.failed error) ↔ c.Fails error := by
  unfold verdict Fails
  cases c.answer <;> cases c.binding.policy <;> simp [policyVerdict]

lemma verdict_takes {c : SlotCall P} : c.verdict.takes = false ↔ c.Idle := by
  unfold verdict Idle
  cases c.answer <;> cases c.binding.policy <;> simp [policyVerdict]

lemma verdict_next {c : SlotCall P} (payload : P) :
    c.verdict.next payload = c.output.getD payload := by
  unfold verdict output UsesOutput
  cases c.answer <;> cases c.binding.policy <;> simp [policyVerdict]

end SlotCall

/-- The payload after some calls: the latest output that was used, or the initial payload. -/
def payloadAfter {P : Type} (initial : P) (cs : List (SlotCall P)) : P :=
  cs.foldl (fun payload c => c.output.getD payload) initial

section Results

variable {P : Type} {outcome : Chain.Outcome P HostFailure}

lemma phaseResult_eq_error {error : HostFailure} :
    phaseResult outcome = .error error ↔ outcome = .failed error := by
  cases outcome <;> simp [phaseResult]

lemma chainResult_eq_error {error : HostFailure} :
    chainResult outcome = .error error ↔ outcome = .failed error := by
  cases outcome <;> simp [chainResult]

lemma chainResult_eq_none :
    chainResult outcome = .ok none ↔ ∃ payload, outcome = .finished false payload := by
  cases outcome <;> simp [chainResult]

lemma finished_of_phaseResult {payload : P}
    (h : phaseResult outcome = .ok (.unhandled payload) ∨
      phaseResult outcome = .ok (.handled payload)) :
    ∃ handled, outcome = .finished handled payload := by
  cases outcome with
  | finished handled next =>
    refine ⟨handled, ?_⟩
    cases handled <;> simpa [phaseResult] using h
  | halted final => simp [phaseResult] at h
  | failed error => simp [phaseResult] at h

end Results

namespace LoadedPluginRegistry

variable {P : Type} [SlotPayload P] (self : LoadedPluginRegistry) (slot : Slot)
  (wireVersion : UInt32) (invocationId : String)

/-- The bound plugin is loaded, is handed the payload in its context, and answers as recorded. -/
def Answered (c : SlotCall P) : Prop :=
  ∃ plugin, self.plugins[c.binding.pluginId]? = some plugin ∧
    SlotContext.toValue ⟨c.binding.slot, c.binding.phase, wireVersion, invocationId, c.payload⟩ =
      .ok c.params ∧
    c.answer = readAnswer (phaseCallOf c.binding wireVersion invocationId)
      (plugin.handleIpc c.method c.params)

/-- The calls that a run makes, phase by phase, and the result they account for. -/
structure SlotChainSemantics (runtime : LoadedPluginRegistry) (slot : Slot) (wireVersion : UInt32)
    (invocationId : String) (initial : P) (made : SlotPhase → List (SlotCall P))
    (run : Run (Option P)) : Prop where
  /-- These are the calls of the run, in the order of the phases. -/
  log : calls run.log = (SlotPhase.order.flatMap made).map SlotCall.ipcCall
  answered : ∀ phase, ∀ c ∈ made phase, runtime.Answered wireVersion invocationId c
  planned : ∀ phase, (made phase).map SlotCall.binding <+: runtime.registry.bindingsFor slot phase
  /-- A phase is cut short by its last call, or by the end of the run in an earlier phase. -/
  stopped : ∀ phase, (made phase).map SlotCall.binding ≠ runtime.registry.bindingsFor slot phase →
    (∃ cs c, made phase = cs ++ [c] ∧ (c.Ends ∨ c.Wins)) ∨
    (made phase = [] ∧ ∃ earlier,
      SlotPhase.order.idxOf earlier < SlotPhase.order.idxOf phase ∧ ∃ c ∈ made earlier, c.Ends)
  /-- A call that ends the run is the last one of all. -/
  last : ∀ pre c post, SlotPhase.order.flatMap made = pre ++ c :: post → c.Ends → post = []
  payload : ∀ pre c post, SlotPhase.order.flatMap made = pre ++ c :: post →
    c.payload = payloadAfter initial pre
  failed : ∀ error, run.result = .error error ↔
    ∃ c ∈ SlotPhase.order.flatMap made, c.Fails error
  halted : ∀ c ∈ SlotPhase.order.flatMap made, ∀ final,
    c.Halts final → run.result = .ok (some final)
  unhandled : run.result = .ok none ↔ ∀ c ∈ SlotPhase.order.flatMap made, c.Idle
  handled : (∀ c ∈ SlotPhase.order.flatMap made, ¬c.Ends) →
    (∃ c ∈ SlotPhase.order.flatMap made, ¬c.Idle) →
    run.result = .ok (some (payloadAfter initial (SlotPhase.order.flatMap made)))

/-- A visit as a call; only of interest when the plugin is loaded and the payload serialises. -/
def slotCall (visit : PluginBinding × P) : SlotCall P :=
  let call := phaseCallOf visit.1 wireVersion invocationId
  match self.plugins[visit.1.pluginId]?, (call.context visit.2).toValue with
  | some plugin, .ok params =>
    ⟨visit.1, visit.2, params, readAnswer call (plugin.handleIpc call.method params)⟩
  | _, _ => ⟨visit.1, visit.2, .null, .skipped⟩

/-- The plugin of a visit can be called. -/
def Served (visit : PluginBinding × P) : Prop :=
  (∃ plugin, self.plugins[visit.1.pluginId]? = some plugin) ∧
    ∃ params, ((phaseCallOf visit.1 wireVersion invocationId).context visit.2).toValue = .ok params

@[simp] lemma slotCall_binding (visit : PluginBinding × P) :
    (self.slotCall wireVersion invocationId visit).binding = visit.1 := by
  unfold slotCall
  dsimp only
  split <;> rfl

@[simp] lemma slotCall_payload (visit : PluginBinding × P) :
    (self.slotCall wireVersion invocationId visit).payload = visit.2 := by
  unfold slotCall
  dsimp only
  split <;> rfl

variable {self slot wireVersion invocationId}

/-- A served visit is one call, and its answer decides the verdict. -/
lemma Served.slotCall {visit : PluginBinding × P} (h : self.Served wireVersion invocationId visit) :
    self.Answered wireVersion invocationId (self.slotCall wireVersion invocationId visit) ∧
      self.visitCalls wireVersion invocationId visit =
        [(self.slotCall wireVersion invocationId visit).ipcCall] ∧
      self.verdict wireVersion invocationId visit.1 visit.2 =
        (self.slotCall wireVersion invocationId visit).verdict := by
  obtain ⟨⟨plugin, hplugin⟩, params, hparams⟩ := h
  have hcall : self.slotCall wireVersion invocationId visit =
      ⟨visit.1, visit.2, params, readAnswer (phaseCallOf visit.1 wireVersion invocationId)
        (plugin.handleIpc (phaseCallOf visit.1 wireVersion invocationId).method params)⟩ := by
    simp only [LoadedPluginRegistry.slotCall, hplugin, hparams]
  rw [hcall]
  refine ⟨⟨plugin, hplugin, hparams, rfl⟩, ?_, ?_⟩
  · rw [visitCalls, hplugin]
    simp only [phaseCalls, hparams]
    rfl
  · rw [LoadedPluginRegistry.verdict, hplugin]
    simp only [phaseVerdict, hparams]
    rfl

/-- A visit that does not fail is served. -/
lemma served_of_not_failed {visit : PluginBinding × P}
    (h : ∀ e, self.verdict wireVersion invocationId visit.1 visit.2 ≠ .failed e) :
    self.Served wireVersion invocationId visit := by
  unfold LoadedPluginRegistry.verdict at h
  cases hplugin : self.plugins[visit.1.pluginId]? with
  | none => simp [hplugin] at h
  | some plugin =>
    refine ⟨⟨plugin, hplugin⟩, ?_⟩
    cases hparams : ((phaseCallOf visit.1 wireVersion invocationId).context visit.2).toValue with
    | error e => simp [hplugin, phaseVerdict, hparams] at h
    | ok params => exact ⟨params, rfl⟩

/-- Every visit of a phase that finishes is served. -/
lemma served_of_finished {bs : List PluginBinding} {payload final : P} {handled : Bool}
    (hrun : Chain.run (self.verdict wireVersion invocationId) bs false payload =
      .finished handled final) :
    ∀ v ∈ Chain.visits (self.verdict wireVersion invocationId) bs payload,
      self.Served wireVersion invocationId v := by
  intro v hv
  apply served_of_not_failed
  intro e hfailed
  have hends := (Chain.run_finished _ hrun).1 v hv
  rw [hfailed] at hends
  exact nomatch hends

section Served

variable {initial : P} {vs : List (PluginBinding × P)}
  (hserved : ∀ v ∈ vs, self.Served wireVersion invocationId v)
include hserved

lemma verdict_of_served {v : PluginBinding × P} (hv : v ∈ vs) :
    self.verdict wireVersion invocationId v.1 v.2 =
      (self.slotCall wireVersion invocationId v).verdict :=
  (hserved v hv).slotCall.2.2

lemma flatMap_visitCalls :
    vs.flatMap (self.visitCalls wireVersion invocationId) =
      (vs.map (self.slotCall wireVersion invocationId)).map SlotCall.ipcCall := by
  induction vs with
  | nil => rfl
  | cons v vs ih =>
    rw [List.flatMap_cons, (hserved v List.mem_cons_self).slotCall.2.1,
      ih (fun u hu => hserved u (List.mem_cons_of_mem _ hu))]
    rfl

lemma latest_eq_payloadAfter (initial : P) :
    Chain.latest (self.verdict wireVersion invocationId) initial vs =
      payloadAfter initial (vs.map (self.slotCall wireVersion invocationId)) := by
  induction vs generalizing initial with
  | nil => rfl
  | cons v vs ih =>
    rw [Chain.latest, List.foldl_cons, verdict_of_served hserved List.mem_cons_self,
      SlotCall.verdict_next, List.map_cons, payloadAfter, List.foldl_cons]
    exact ih (fun u hu => hserved u (List.mem_cons_of_mem _ hu)) _

lemma calls_finished (initial : P)
    (h : ∀ c ∈ vs.map (self.slotCall wireVersion invocationId), ¬c.Ends) :
    ∃ handled, Chain.replay (self.verdict wireVersion invocationId) vs false initial =
      .finished handled
        (payloadAfter initial (vs.map (self.slotCall wireVersion invocationId))) := by
  have hends : ∀ v ∈ vs, (self.verdict wireVersion invocationId v.1 v.2).ending = none := by
    intro v hv
    by_contra hne
    rw [verdict_of_served hserved hv] at hne
    exact h _ (List.mem_map_of_mem hv) (SlotCall.verdict_ending.mp hne)
  refine ⟨vs.any (fun v => (self.verdict wireVersion invocationId v.1 v.2).takes), ?_⟩
  rw [Chain.replay_finished hends, latest_eq_payloadAfter hserved, Bool.false_or]

variable (hthreaded : Chain.Threaded (self.verdict wireVersion invocationId) initial vs)
include hthreaded

/-- A call is given the payload after the calls before it; nothing follows one that ends. -/
lemma calls_split {pre post : List (SlotCall P)} {c : SlotCall P}
    (h : vs.map (self.slotCall wireVersion invocationId) = pre ++ c :: post) :
    c.payload = payloadAfter initial pre ∧ (c.Ends → post = []) := by
  obtain ⟨us, ws, rfl, rfl, hws⟩ := List.map_eq_append_iff.mp h
  obtain ⟨v, ws, rfl, rfl, rfl⟩ := List.map_eq_cons_iff.mp hws
  have hv : v ∈ us ++ v :: ws := List.mem_append_right _ List.mem_cons_self
  obtain ⟨hpayload, hends⟩ := hthreaded.split
  refine ⟨?_, fun hc => ?_⟩
  · rw [slotCall_payload, hpayload,
      latest_eq_payloadAfter (fun u hu => hserved u (List.mem_append_left _ hu))]
  · rw [hends (by rw [verdict_of_served hserved hv]; exact SlotCall.verdict_ending.mpr hc)]
    rfl

lemma calls_failed_iff {error : HostFailure} :
    Chain.replay (self.verdict wireVersion invocationId) vs false initial = .failed error ↔
      ∃ c ∈ vs.map (self.slotCall wireVersion invocationId), c.Fails error := by
  rw [hthreaded.replay_failed_iff]
  constructor
  · rintro ⟨v, hv, hfails⟩
    rw [verdict_of_served hserved hv] at hfails
    exact ⟨_, List.mem_map_of_mem hv, SlotCall.verdict_ending_failed.mp hfails⟩
  · rintro ⟨c, hc, hfails⟩
    obtain ⟨v, hv, rfl⟩ := List.mem_map.mp hc
    refine ⟨v, hv, ?_⟩
    rw [verdict_of_served hserved hv]
    exact SlotCall.verdict_ending_failed.mpr hfails

lemma calls_halted {c : SlotCall P} {final : P}
    (hc : c ∈ vs.map (self.slotCall wireVersion invocationId)) (hhalts : c.Halts final) :
    Chain.replay (self.verdict wireVersion invocationId) vs false initial = .halted final := by
  obtain ⟨v, hv, rfl⟩ := List.mem_map.mp hc
  refine hthreaded.replay_ends hv ?_ false
  rw [verdict_of_served hserved hv]
  exact SlotCall.verdict_ending_halted.mpr hhalts

lemma calls_idle_iff :
    (∃ payload, Chain.replay (self.verdict wireVersion invocationId) vs false initial =
      .finished false payload) ↔
      ∀ c ∈ vs.map (self.slotCall wireVersion invocationId), c.Idle := by
  rw [hthreaded.replay_idle_iff, List.forall_mem_map]
  refine forall_congr' (fun v => forall_congr' (fun hv => ?_))
  rw [verdict_of_served hserved hv]
  exact SlotCall.verdict_takes

end Served

/-- A planned visit whose payload serialises is served. -/
lemma WellFormed.served (h : self.WellFormed) {phase : SlotPhase} {visit : PluginBinding × P}
    (hv : visit.1 ∈ self.registry.bindingsFor slot phase)
    (hserialises : ∃ json, SlotPayload.toValue visit.2 = .ok json) :
    self.Served wireVersion invocationId visit :=
  ⟨h.plugin_of_binding hv, SlotContext.toValue_eq_ok.mpr hserialises⟩

lemma exists_phase {n : ℕ} (h : n < 3) : ∃ phase, SlotPhase.order.idxOf phase = n := by
  interval_cases n
  · exact ⟨.before, rfl⟩
  · exact ⟨.exec, rfl⟩
  · exact ⟨.after, rfl⟩

lemma idxOf_phase_lt (phase : SlotPhase) : SlotPhase.order.idxOf phase < 3 := by
  cases phase <;> decide

/-- The list for a phase, in a list with one entry for each phase. -/
lemma getElem?_idxOf_phase {α : Type} {xss : List (List α)} (hlength : xss.length = 3)
    (phase : SlotPhase) :
    xss[SlotPhase.order.idxOf phase]? = some (xss.getD (SlotPhase.order.idxOf phase) []) := by
  obtain ⟨a, b, c, rfl⟩ := List.length_eq_three.mp hlength
  cases phase <;> rfl

lemma getElem?_plan (self : LoadedPluginRegistry) (slot : Slot) (phase : SlotPhase) :
    (SlotPhase.order.map (self.registry.bindingsFor slot))[SlotPhase.order.idxOf phase]? =
      some (self.registry.bindingsFor slot phase) := by
  cases phase <;> rfl

/-- The calls of a phase, among the visits of the three phases. -/
def callsIn (self : LoadedPluginRegistry) (wireVersion : UInt32) (invocationId : String)
    (vss : List (List (PluginBinding × P))) (phase : SlotPhase) : List (SlotCall P) :=
  (vss.getD (SlotPhase.order.idxOf phase) []).map (self.slotCall wireVersion invocationId)

lemma flatMap_callsIn {vss : List (List (PluginBinding × P))} (hlength : vss.length = 3) :
    SlotPhase.order.flatMap (self.callsIn wireVersion invocationId vss) =
      vss.flatten.map (self.slotCall wireVersion invocationId) := by
  obtain ⟨a, b, c, rfl⟩ := List.length_eq_three.mp hlength
  simp [SlotPhase.order, callsIn]

/-- The calls of each phase go down its plan and stop for a reason. -/
lemma callsIn_planned {initial : P} {vss : List (List (PluginBinding × P))}
    (hvss : Chain.stageVisits (self.verdict wireVersion invocationId)
      (SlotPhase.order.map (self.registry.bindingsFor slot)) initial = vss)
    (hserved : ∀ v ∈ vss.flatten, self.Served wireVersion invocationId v) (phase : SlotPhase) :
    (self.callsIn wireVersion invocationId vss phase).map SlotCall.binding <+:
        self.registry.bindingsFor slot phase ∧
      ((self.callsIn wireVersion invocationId vss phase).map SlotCall.binding ≠
          self.registry.bindingsFor slot phase →
        (∃ cs c, self.callsIn wireVersion invocationId vss phase = cs ++ [c] ∧
          (c.Ends ∨ c.Wins)) ∨
        (self.callsIn wireVersion invocationId vss phase = [] ∧ ∃ earlier,
          SlotPhase.order.idxOf earlier < SlotPhase.order.idxOf phase ∧
          ∃ c ∈ self.callsIn wireVersion invocationId vss earlier, c.Ends)) := by
  have hlength : vss.length = 3 := by
    rw [← hvss, Chain.length_stageVisits]
    rfl
  have hvs := getElem?_idxOf_phase hlength
  have hstage := self.getElem?_plan slot phase
  have hbinding : (self.callsIn wireVersion invocationId vss phase).map SlotCall.binding =
      (vss.getD (SlotPhase.order.idxOf phase) []).map Prod.fst := by
    rw [callsIn, List.map_map]
    exact List.map_congr_left (fun v _ => slotCall_binding _ _ _ v)
  rw [hbinding]
  obtain ⟨hinitial, hproper⟩ := Chain.stageVisits_isPrefix _ _ _ hstage
    (by rw [hvss]; exact hvs phase)
  refine ⟨hinitial, fun hne => ?_⟩
  rcases hproper hne with ⟨us, v, heq, hstops⟩ | ⟨hnil, m, hm, us, hus, v, hv, hends⟩
  · have hv : v ∈ vss.flatten := mem_flatten_of_mem_getD (by
      rw [heq]
      exact List.mem_append_right _ List.mem_cons_self)
    refine Or.inl ⟨us.map (self.slotCall wireVersion invocationId),
      self.slotCall wireVersion invocationId v, ?_, ?_⟩
    · rw [callsIn, heq, List.map_append, List.map_singleton]
    · rw [verdict_of_served hserved hv] at hstops
      exact SlotCall.verdict_stops.mp hstops
  · obtain ⟨earlier, rfl⟩ := exists_phase (hm.trans (idxOf_phase_lt phase))
    rw [hvss, hvs earlier, Option.some.injEq] at hus
    subst hus
    refine Or.inr ⟨by rw [callsIn, hnil, List.map_nil], earlier, hm,
      self.slotCall wireVersion invocationId v, List.mem_map_of_mem hv, ?_⟩
    rw [verdict_of_served hserved (mem_flatten_of_mem_getD hv)] at hends
    exact SlotCall.verdict_ending.mp hends

/-- Every run of `runSlotChain` is described by the calls it makes. -/
theorem runSlotChain_semantics [LawfulSlotPayload P] (h : Reachable self) (slot : Slot)
    (wireVersion : UInt32) (invocationId : String) (initial : P) :
    ∃ made, self.SlotChainSemantics slot wireVersion invocationId initial made
      (self.runSlotChain slot wireVersion invocationId initial) := by
  obtain ⟨hresult, hlog⟩ := self.runPhases_spec slot wireVersion invocationId .null SlotPhase.order
    initial false
  rw [Chain.runStages_eq_replay] at hresult
  change (self.runSlotChain slot wireVersion invocationId initial).result = _ at hresult
  have hthreaded := Chain.threaded_stageVisits (self.verdict wireVersion invocationId)
    (SlotPhase.order.map (self.registry.bindingsFor slot)) initial
  have hlength := Chain.length_stageVisits (self.verdict wireVersion invocationId)
    (SlotPhase.order.map (self.registry.bindingsFor slot)) initial
  have hserved : ∀ v ∈ (Chain.stageVisits (self.verdict wireVersion invocationId)
      (SlotPhase.order.map (self.registry.bindingsFor slot)) initial).flatten,
      self.Served wireVersion invocationId v := by
    intro v hv
    obtain ⟨stage, hstage, hv⟩ := Chain.mem_stage_of_mem_stageVisits _ hv
    obtain ⟨phase, -, rfl⟩ := List.mem_map.mp hstage
    obtain ⟨json, hjson, -⟩ := LawfulSlotPayload.roundTrip v.2
    exact h.wellFormed.served hv ⟨json, hjson⟩
  generalize hvss : Chain.stageVisits (self.verdict wireVersion invocationId)
    (SlotPhase.order.map (self.registry.bindingsFor slot)) initial = vss at *
  have hall : SlotPhase.order.flatMap (self.callsIn wireVersion invocationId vss) =
      vss.flatten.map (self.slotCall wireVersion invocationId) := flatMap_callsIn hlength
  refine ⟨self.callsIn wireVersion invocationId vss, ?_⟩
  refine
    { log := ?_
      answered := ?_
      planned := fun phase => (callsIn_planned hvss hserved phase).1
      stopped := fun phase => (callsIn_planned hvss hserved phase).2
      last := fun pre c post hsplit => (calls_split hserved hthreaded (hall ▸ hsplit)).2
      payload := fun pre c post hsplit => (calls_split hserved hthreaded (hall ▸ hsplit)).1
      failed := ?_
      halted := ?_
      unhandled := ?_
      handled := ?_ }
  · rw [hall, ← flatMap_visitCalls hserved]
    exact hlog
  · intro phase c hc
    obtain ⟨v, hv, rfl⟩ := List.mem_map.mp hc
    refine (hserved v (mem_flatten_of_mem_getD hv)).slotCall.1
  · intro error
    rw [hall, ← calls_failed_iff hserved hthreaded, hresult, chainResult_eq_error]
  · intro c hc final hhalts
    rw [hall] at hc
    rw [hresult, calls_halted hserved hthreaded hc hhalts]
    rfl
  · rw [hall, ← calls_idle_iff hserved hthreaded, ← chainResult_eq_none]
    exact iff_of_eq (congrArg (· = .ok none) hresult)
  · intro hends hidle
    rw [hall] at hends hidle ⊢
    obtain ⟨handled, hfinished⟩ := calls_finished hserved initial hends
    obtain ⟨c, hc, hnotIdle⟩ := hidle
    have hhandled : handled = true := by
      by_contra hne
      rw [Bool.not_eq_true] at hne
      rw [hne] at hfinished
      exact hnotIdle ((calls_idle_iff hserved hthreaded).mp ⟨_, hfinished⟩ c hc)
    rw [hresult, hfinished, hhandled]
    rfl

end LoadedPluginRegistry

def continueWith (payload : Value) : Option (HostResult Value) :=
  some (.ok (.object [("kind", .string "continue"), ("payload", payload)]))

def resolverRuntime : LoadedPluginRegistry :=
  .load [(manifestFor "resolver" 0 "config.process" [.exec] .pipeline,
    constantPlugin "resolver" (continueWith (.string "resolved")))]

theorem runSlotChain_semantics_resolver :
    ∃ made, resolverRuntime.SlotChainSemantics ⟨"config.process"⟩ 1 "inv" Value.null made
      (resolverRuntime.runSlotChain ⟨"config.process"⟩ 1 "inv" Value.null) :=
  LoadedPluginRegistry.runSlotChain_semantics (LoadedPluginRegistry.reachable_load _)
    ⟨"config.process"⟩ 1 "inv" Value.null

end Pingling.HostRuntime
