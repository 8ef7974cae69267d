import Pingling.HostRuntime.SlotChain

/-!
# Running the phases one by one

A host can run a slot with one call of `runSlotPhase` for each phase. It is told that a
phase handled the slot, but not that it halted. `phaseByPhase_iff` says when such a host
makes the run that `runSlotChain` makes.
-/

namespace Pingling.HostRuntime
open Lib Std HostContract

/-- What `runSlotPhase` tells of the result of a phase. -/
def PhaseResult.output {P : Type} : PhaseResult P → Option P
  | .unhandled _ => none
  | .handled payload => some payload
  | .halted payload => some payload

namespace LoadedPluginRegistry

section

variable {P : Type} [SlotPayload P] (self : LoadedPluginRegistry) (slot : Slot)
  (wireVersion : UInt32) (invocationId : String)

/-- The loop of a host that feeds each phase's payload into the next phase. -/
def hostPhases : List SlotPhase → P → Bool → Run (Option P)
  | [], payload, anyHandled => pure (if anyHandled then some payload else none)
  | phase :: phases, payload, anyHandled => do
    match ← self.runSlotPhase slot wireVersion invocationId phase payload with
    | none => hostPhases phases payload anyHandled
    | some next => hostPhases phases next true

/-- A slot run by a host that calls `runSlotPhase` for every phase in turn. -/
def runPhaseByPhase (initialPayload : P) : Run (Option P) :=
  self.hostPhases slot wireVersion invocationId SlotPhase.order initialPayload false

/-- The plugin of a binding answers `Halt` to a payload. -/
def AnswersHalt (b : PluginBinding) (payload : P) : Prop :=
  let call := phaseCallOf b wireVersion invocationId
  ∃ plugin params, self.plugins[b.pluginId]? = some plugin ∧
    (call.context payload).toValue = .ok params ∧
    ∃ final : P, readAnswer call (plugin.handleIpc call.method params) = .halt final

/-- The bindings that a chain reaches in a phase, each with the payload it is handed. -/
def reachedIn (initialPayload : P) (phase : SlotPhase) : List (PluginBinding × P) :=
  (Chain.stageVisits (self.verdict wireVersion invocationId)
    (SlotPhase.order.map (self.registry.bindingsFor slot)) initialPayload).getD
      (SlotPhase.order.idxOf phase) []

/-- A chain is halted in a phase, by a binding whose output the host uses. -/
def HaltsIn (initialPayload : P) (phase : SlotPhase) : Prop :=
  ∃ v ∈ self.reachedIn slot wireVersion invocationId initialPayload phase,
    UsesOutput v.1.policy ∧ self.AnswersHalt wireVersion invocationId v.1 v.2

end

variable {P : Type} [SlotPayload P] {self : LoadedPluginRegistry} {slot : Slot}
  {wireVersion : UInt32} {invocationId : String}

omit [SlotPayload P] in
lemma policyVerdict_eq_halted {policy : SlotPolicy} {answer : Answer P} {final : P} :
    policyVerdict policy answer = .halted final ↔ UsesOutput policy ∧ answer = .halt final := by
  cases policy <;> cases answer <;> simp [policyVerdict, UsesOutput]

lemma verdict_halted_iff {b : PluginBinding} {payload : P} :
    (∃ final, self.verdict wireVersion invocationId b payload = .halted final) ↔
      UsesOutput b.policy ∧ self.AnswersHalt wireVersion invocationId b payload := by
  unfold verdict AnswersHalt phaseVerdict
  cases hplugin : self.plugins[b.pluginId]? with
  | none => simp
  | some plugin =>
    cases hparams : ((phaseCallOf b wireVersion invocationId).context payload).toValue with
    | error message => simp [hparams]
    | ok params => simp [policyVerdict_eq_halted, hparams]

lemma runSlotPhase_of_ok {phase : SlotPhase} {payload : P} {result : PhaseResult P}
    (h : (self.runSlotPhaseObserved slot wireVersion invocationId .null phase payload).result =
      .ok result) :
    self.runSlotPhase slot wireVersion invocationId phase payload =
      ⟨(self.runSlotPhaseObserved slot wireVersion invocationId .null phase payload).log,
        .ok result.output⟩ := by
  rw [runSlotPhase, Traced.bind_of_ok h]
  cases result <;> simp [PhaseResult.output]

/-- A phase with bindings makes a call or fails. -/
lemma WellFormed.called_or_failed (h : self.WellFormed) {phase : SlotPhase}
    (hplan : self.registry.bindingsFor slot phase ≠ []) (observer : SlotObserver) (payload : P) :
    calls (self.runSlotPhaseObserved slot wireVersion invocationId observer phase payload).log ≠
        [] ∨
      ∃ error, (self.runSlotPhaseObserved slot wireVersion invocationId observer phase
        payload).result = .error error := by
  obtain ⟨hresult, hcalls⟩ :=
    self.runSlotPhaseObserved_spec slot wireVersion invocationId observer phase payload
  obtain ⟨b, bs, hbs⟩ := List.exists_cons_of_ne_nil hplan
  have hb : b ∈ self.registry.bindingsFor slot phase := by
    rw [hbs]
    exact List.mem_cons_self
  obtain ⟨plugin, hplugin⟩ := h.plugin_of_binding hb
  rw [hbs] at hresult hcalls
  cases hparams : ((phaseCallOf b wireVersion invocationId).context payload).toValue with
  | error message =>
    right
    have hfailed : ∃ error, self.verdict wireVersion invocationId b payload = .failed error := by
      simp only [verdict, hplugin, phaseVerdict, hparams]
      exact ⟨_, rfl⟩
    obtain ⟨error, hfailed⟩ := hfailed
    rw [Chain.run, hfailed] at hresult
    exact ⟨error, hresult⟩
  | ok params =>
    left
    rw [hcalls, Chain.visits, List.flatMap_cons, visitCalls, hplugin]
    simp [phaseCalls, hparams]

/-- After a halt the host goes on, and makes a difference unless no plugin is left. -/
lemma WellFormed.hostPhases_after_halt (h : self.WellFormed) (phases : List SlotPhase)
    (final : P) :
    ((self.hostPhases slot wireVersion invocationId phases final true).result =
        .ok (some final) ∧
      calls (self.hostPhases slot wireVersion invocationId phases final true).log = []) ↔
    ∀ phase ∈ phases, self.registry.bindingsFor slot phase = [] := by
  induction phases with
  | nil => simp [hostPhases]
  | cons phase phases ih =>
    rw [hostPhases, List.forall_mem_cons]
    by_cases hplan : self.registry.bindingsFor slot phase = []
    · have hempty : self.runSlotPhaseObserved slot wireVersion invocationId .null phase final =
          pure (.unhandled final) := by
        rw [runSlotPhaseObserved, hplan]
        rfl
      have hresult : (self.runSlotPhaseObserved slot wireVersion invocationId .null phase
          final).result = .ok (.unhandled final) := by rw [hempty]; rfl
      rw [runSlotPhase_of_ok hresult, Traced.bind_of_ok rfl, PhaseResult.output, hempty]
      simp only [Traced.pure_log, List.nil_append, ih, hplan, true_and]
    · refine iff_of_false ?_ (fun hall => hplan hall.1)
      rintro ⟨hresult, hcalls⟩
      cases hrun : (self.runSlotPhaseObserved slot wireVersion invocationId .null phase
          final).result with
      | error error =>
        have hfailed : (self.runSlotPhase slot wireVersion invocationId phase final).result =
            .error error := by
          rw [runSlotPhase, Traced.bind_of_error hrun]
        rw [Traced.bind_of_error hfailed] at hresult
        exact nomatch hresult
      | ok result =>
        rw [runSlotPhase_of_ok hrun, Traced.bind_of_ok rfl] at hcalls
        rcases h.called_or_failed hplan .null final with hcalled | ⟨error, herror⟩
        · rw [calls_append, List.append_eq_nil_iff] at hcalls
          exact hcalled hcalls.1
        · rw [hrun] at herror
          exact nomatch herror

/-- The loops of the host and of the chain agree exactly when a halt leaves no plugin to ask. -/
lemma WellFormed.hostPhases_iff (h : self.WellFormed) (phases : List SlotPhase) (payload : P)
    (handled : Bool) :
    ((self.hostPhases slot wireVersion invocationId phases payload handled).result =
        (self.runPhases slot wireVersion invocationId .null phases payload handled).result ∧
      calls (self.hostPhases slot wireVersion invocationId phases payload handled).log =
        calls (self.runPhases slot wireVersion invocationId .null phases payload handled).log) ↔
    Chain.HaltsLast (self.verdict wireVersion invocationId)
      (phases.map (self.registry.bindingsFor slot)) payload := by
  induction phases generalizing payload handled with
  | nil => exact iff_of_true ⟨rfl, rfl⟩ trivial
  | cons phase phases ih =>
    have hphase := (self.runSlotPhaseObserved_spec slot wireVersion invocationId .null phase
      payload).1
    rw [hostPhases, runPhases, List.map_cons, Chain.HaltsLast]
    cases hrun : Chain.run (self.verdict wireVersion invocationId)
        (self.registry.bindingsFor slot phase) false payload with
    | finished taken next =>
      rw [hrun, phaseResult] at hphase
      cases taken with
      | false =>
        obtain rfl := Chain.run_untouched _ hrun
        simp only [Bool.false_eq_true, if_false] at hphase
        rw [runSlotPhase_of_ok hphase, Traced.bind_of_ok rfl, Traced.bind_of_ok hphase]
        simp only [PhaseResult.output, calls_append, List.append_right_inj]
        exact ih next handled
      | true =>
        simp only [if_true] at hphase
        rw [runSlotPhase_of_ok hphase, Traced.bind_of_ok rfl, Traced.bind_of_ok hphase]
        simp only [PhaseResult.output, calls_append, List.append_right_inj]
        exact ih next true
    | halted final =>
      rw [hrun, phaseResult] at hphase
      rw [runSlotPhase_of_ok hphase, Traced.bind_of_ok rfl, Traced.bind_of_ok hphase]
      simp only [PhaseResult.output, calls_append, Traced.pure_log, calls_nil, Traced.pure_result,
        List.append_right_inj, h.hostPhases_after_halt phases final, List.forall_mem_map]
    | failed error =>
      rw [hrun, phaseResult] at hphase
      have hfailed : self.runSlotPhase slot wireVersion invocationId phase payload =
          ⟨(self.runSlotPhaseObserved slot wireVersion invocationId .null phase payload).log,
            .error error⟩ := by
        rw [runSlotPhase, Traced.bind_of_error hphase]
      rw [hfailed, Traced.bind_of_error rfl, Traced.bind_of_error hphase]
      exact iff_of_true ⟨rfl, rfl⟩ trivial

/-- A host that runs the phases one by one gets the result of `runSlotChain`, and calls no
plugin after a halt, exactly when every phase after one that halts is without bindings. -/
theorem phaseByPhase_iff (h : Reachable self) (slot : Slot) (wireVersion : UInt32)
    (invocationId : String) (initialPayload : P) :
    ((self.runPhaseByPhase slot wireVersion invocationId initialPayload).result =
        (self.runSlotChain slot wireVersion invocationId initialPayload).result ∧
      calls (self.runPhaseByPhase slot wireVersion invocationId initialPayload).log =
        calls (self.runSlotChain slot wireVersion invocationId initialPayload).log) ↔
    ∀ phase later, SlotPhase.order.idxOf phase < SlotPhase.order.idxOf later →
      self.HaltsIn slot wireVersion invocationId initialPayload phase →
      self.registry.bindingsFor slot later = [] := by
  refine (h.wellFormed.hostPhases_iff SlotPhase.order initialPayload false).trans ?_
  have hlength := Chain.length_stageVisits (self.verdict wireVersion invocationId)
    (SlotPhase.order.map (self.registry.bindingsFor slot)) initialPayload
  have hhalts : ∀ phase, self.HaltsIn slot wireVersion invocationId initialPayload phase ↔
      ∃ v ∈ self.reachedIn slot wireVersion invocationId initialPayload phase, ∃ final,
        self.verdict wireVersion invocationId v.1 v.2 = .halted final := by
    intro phase
    simp only [HaltsIn, verdict_halted_iff]
  rw [Chain.haltsLast_iff]
  constructor
  · intro hlast phase later hlt hhalted
    exact hlast _ _ _ _ hlt (getElem?_idxOf_phase hlength phase) ((hhalts phase).mp hhalted)
      (self.getElem?_plan slot later)
  · intro hlast n m vs stage hlt hvs hhalted hstage
    have hm : m < 3 := (List.getElem?_eq_some_iff.mp hstage).1
    obtain ⟨phase, rfl⟩ := exists_phase (hlt.trans hm)
    obtain ⟨later, rfl⟩ := exists_phase hm
    rw [getElem?_idxOf_phase hlength phase, Option.some.injEq] at hvs
    rw [self.getElem?_plan slot later, Option.some.injEq] at hstage
    rw [← hvs] at hhalted
    rw [← hstage]
    exact hlast phase later hlt ((hhalts phase).mpr hhalted)

end LoadedPluginRegistry

def haltWith (payload : Value) : Option (HostResult Value) :=
  some (.ok (.object [("kind", .string "halt"), ("payload", payload)]))

/-- A plugin that refuses in `before`, and one that acts in `exec`. -/
def refusingRuntime : LoadedPluginRegistry :=
  .load [(manifestFor "quota" 0 "vpn.connect" [.before] .pipeline,
      constantPlugin "quota" (haltWith (.string "refused"))),
    (manifestFor "driver" 0 "vpn.connect" [.exec] .pipeline,
      constantPlugin "driver" (continueWith (.string "connected")))]

theorem phaseByPhase_iff_resolver :
    ((resolverRuntime.runPhaseByPhase ⟨"config.process"⟩ 1 "inv" Value.null).result =
        (resolverRuntime.runSlotChain ⟨"config.process"⟩ 1 "inv" Value.null).result ∧
      calls (resolverRuntime.runPhaseByPhase ⟨"config.process"⟩ 1 "inv" Value.null).log =
        calls (resolverRuntime.runSlotChain ⟨"config.process"⟩ 1 "inv" Value.null).log) ↔
    ∀ phase later, SlotPhase.order.idxOf phase < SlotPhase.order.idxOf later →
      resolverRuntime.HaltsIn ⟨"config.process"⟩ 1 "inv" Value.null phase →
      resolverRuntime.registry.bindingsFor ⟨"config.process"⟩ later = [] :=
  LoadedPluginRegistry.phaseByPhase_iff (LoadedPluginRegistry.reachable_load _)
    ⟨"config.process"⟩ 1 "inv" Value.null

/-- The chain ends with the refusal; the host goes on, and connects. -/
theorem refusal_not_heard :
    refusingRuntime.Reachable ∧
    (refusingRuntime.runSlotChain ⟨"vpn.connect"⟩ 1 "inv" Value.null).result =
      .ok (some (.string "refused")) ∧
    (refusingRuntime.runPhaseByPhase ⟨"vpn.connect"⟩ 1 "inv" Value.null).result =
      .ok (some (.string "connected")) ∧
    (calls (refusingRuntime.runSlotChain ⟨"vpn.connect"⟩ 1 "inv" Value.null).log).map
      IpcCall.pluginId = ["quota"] ∧
    (calls (refusingRuntime.runPhaseByPhase ⟨"vpn.connect"⟩ 1 "inv" Value.null).log).map
      IpcCall.pluginId = ["quota", "driver"] :=
  ⟨LoadedPluginRegistry.reachable_load _, rfl, rfl, rfl, rfl⟩

end Pingling.HostRuntime
