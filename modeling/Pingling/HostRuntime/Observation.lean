import Pingling.HostRuntime.SinglePlugin
import Pingling.HostRuntime.SlotChain

/-!
# What an observer is told

A phase of a plugin that runs to its end is a `Bracket`: an observation on entry, the call,
and one terminal observation. `runPluginPhase_recorded` says which terminal event stands
for which answer. The one phase that breaks off after its entry is a `Garbled` one, and
`bracketed_iff` says that it alone spoils the brackets of a run. A payload that does not serialise
fails a run too, and no event tells of it.
-/

namespace Pingling.HostRuntime
open Lib Std HostContract

/-- The observations of a log, in order. -/
def observations (log : List RuntimeEvent) : List SlotObservation :=
  log.filterMap (fun
    | .called _ => none
    | .observed observation => some observation)

/-- The observer that keeps every observation. -/
def SlotObserver.recording : SlotObserver :=
  ⟨fun observation => [observation]⟩

@[simp] lemma observations_nil : observations [] = [] := rfl

@[simp] lemma observations_called_cons (call : IpcCall) (log : List RuntimeEvent) :
    observations (.called call :: log) = observations log := rfl

@[simp] lemma observations_observed_cons (observation : SlotObservation) (log : List RuntimeEvent) :
    observations (.observed observation :: log) = observation :: observations log := rfl

@[simp] lemma calls_observed_cons (observation : SlotObservation) (log : List RuntimeEvent) :
    calls (.observed observation :: log) = calls log := rfl

@[simp] lemma observations_append (log log' : List RuntimeEvent) :
    observations (log ++ log') = observations log ++ observations log' :=
  List.filterMap_append

/-- An observation of a phase of a plugin. -/
def PhaseCall.observation (call : PhaseCall) (event : SlotEvent) (payloadJson : Value)
    (errorMessage : Option String) : SlotObservation :=
  ⟨call.pluginId, call.slot, call.phase, call.policy, call.wireVersion, call.invocationId, event,
    payloadJson, errorMessage⟩

@[simp] lemma PhaseCall.observe_recording (call : PhaseCall) (event : SlotEvent)
    (payloadJson : Value) (errorMessage : Option String) :
    call.observe .recording event payloadJson errorMessage =
      Traced.emit [.observed (call.observation event payloadJson errorMessage)] := rfl

/-- The event that ends a phase in which a plugin gave this answer. -/
def terminalEvent {P : Type} (policy : SlotPolicy) : Answer P → SlotEvent
  | .skipped => .skipped
  | .unhandled => .unhandled
  | .unchanged => .unchanged
  | .continue _ => .continue
  | .halt _ => .halt
  | .failure _ => if policy = .bestEffort then .suppressedError else .error

lemma terminalEvent_ne_enter {P : Type} (policy : SlotPolicy) (answer : Answer P) :
    terminalEvent policy answer ≠ .enter := by
  cases policy <;> cases answer <;> simp [terminalEvent]

/-- An error is observed just when the phase fails. -/
lemma terminalEvent_eq_error {P : Type} {policy : SlotPolicy} {answer : Answer P} :
    terminalEvent policy answer = .error ↔
      ∃ error, policyVerdict policy answer = .failed error := by
  cases policy <;> cases answer <;> simp [terminalEvent, policyVerdict]

section

variable {P : Type} [SlotPayload P]

/-- The payload that the terminal event carries. -/
def terminalPayload (original : Value) : Answer P → Value
  | .continue payload => payloadJson payload
  | .halt payload => payloadJson payload
  | _ => original

/-- The link of a chain that asks one plugin in one phase. -/
structure PhaseLink where
  plugin : Plugin
  call : PhaseCall

namespace PhaseLink

def verdict (link : PhaseLink) (payload : P) : Chain.Verdict P HostFailure :=
  phaseVerdict link.plugin link.call payload

def log (observer : SlotObserver) (link : PhaseLink) (payload : P) : List RuntimeEvent :=
  (runPluginPhase link.plugin link.call payload observer).log

/-- The answer of the plugin to a call. -/
def answer (P : Type) [SlotPayload P] (link : PhaseLink) (params : Value) : Answer P :=
  readAnswer link.call (link.plugin.handleIpc link.call.method params)

/-- The plugin is called: the context serialises. -/
def Called (link : PhaseLink) (payload : P) : Prop :=
  ∃ params, (link.call.context payload).toValue = .ok params

/-- The plugin answers with a value that does not decode as an outcome, under a policy that
does not suppress it. -/
def Garbled (link : PhaseLink) (payload : P) : Prop :=
  link.call.policy ≠ .bestEffort ∧ ∃ params raw message,
    (link.call.context payload).toValue = .ok params ∧
    link.plugin.handleIpc link.call.method params = some (.ok raw) ∧
    SlotPayload.outcomeFromValue (P := P) raw = .error message

end PhaseLink

omit [SlotPayload P] in
lemma applyError_recorded (call : PhaseCall) (payload : P) (original : Value) (message : String)
    (failure : HostFailure) :
    (applyError call payload .recording original message failure).log =
      [.observed (call.observation (terminalEvent call.policy (.failure failure : Answer P))
        original (some message))] := by
  rw [applyError, terminalEvent]
  split_ifs <;> simp

lemma applyOutcome_recorded (call : PhaseCall) (payload : P) (outcome : SlotOutcome P)
    (original raw : Value) (hraw : SlotPayload.outcomeFromValue raw = .ok outcome) :
    ∃ message, (applyOutcome call payload outcome .recording original).log =
      [.observed (call.observation
        (terminalEvent call.policy (readAnswer (P := P) call (some (.ok raw))))
        (terminalPayload original (readAnswer (P := P) call (some (.ok raw)))) message)] := by
  rw [readAnswer, hraw]
  cases outcome with
  | unchanged => exact ⟨none, by simp [applyOutcome, terminalEvent, terminalPayload]⟩
  | unhandled => exact ⟨none, by simp [applyOutcome, terminalEvent, terminalPayload]⟩
  | error message => exact ⟨some message, applyError_recorded call payload original message _⟩
  | «continue» next =>
    refine ⟨none, ?_⟩
    unfold applyOutcome
    cases call.policy <;> simp [terminalEvent, terminalPayload]
  | halt final =>
    refine ⟨none, ?_⟩
    unfold applyOutcome
    cases call.policy <;> simp [terminalEvent, terminalPayload]

namespace PhaseLink

variable {link : PhaseLink} {payload : P}

/-- A plugin is observed on entry, called, and observed once more with its answer. -/
theorem log_recording {params : Value} (hparams : (link.call.context payload).toValue = .ok params)
    (hdecodes : ¬link.Garbled payload) :
    ∃ message, log .recording link payload =
      [.observed (link.call.observation .enter (params.field "payload") none),
        .called ⟨link.call.pluginId, link.call.method, params⟩,
        .observed (link.call.observation (terminalEvent link.call.policy (link.answer P params))
          (terminalPayload (params.field "payload") (link.answer P params)) message)] := by
  unfold log answer runPluginPhase
  simp only [hparams, PhaseCall.observe_recording, Traced.emit_bind, Plugin.call]
  cases hanswer : link.plugin.handleIpc link.call.method params with
  | none => exact ⟨none, by simp [Traced.bind_of_ok, readAnswer, terminalEvent, terminalPayload]⟩
  | some answer =>
    cases answer with
    | error error =>
      have herror :=
        applyError_recorded link.call payload (params.field "payload") error.toString error
      exact ⟨some error.toString,
        by simp [Traced.bind_of_ok, herror, readAnswer, terminalPayload]⟩
    | ok raw =>
      cases hraw : SlotPayload.outcomeFromValue (P := P) raw with
      | ok outcome =>
        obtain ⟨message, houtcome⟩ :=
          applyOutcome_recorded link.call payload outcome (params.field "payload") raw hraw
        exact ⟨message, by simp [Traced.bind_of_ok, hraw, houtcome]⟩
      | error message =>
        have hpolicy : link.call.policy = .bestEffort := by
          by_contra hne
          exact hdecodes ⟨hne, params, raw, message, hparams, hanswer, hraw⟩
        exact ⟨some (link.call.describe s!"parse outcome: {message}"), by
          simp [Traced.bind_of_ok, hraw, readAnswer, hpolicy, terminalEvent, terminalPayload]⟩

/-- The phase of a garbled answer fails without a terminal event. -/
lemma Garbled.log_recording (h : link.Garbled payload) :
    (∃ error, link.verdict payload = .failed error) ∧
    ∃ params, log .recording link payload =
      [.observed (link.call.observation .enter (params.field "payload") none),
        .called ⟨link.call.pluginId, link.call.method, params⟩] := by
  obtain ⟨hpolicy, params, raw, message, hparams, hanswer, hraw⟩ := h
  constructor
  · simp only [verdict, phaseVerdict, hparams, hanswer, readAnswer, hraw, policyVerdict_failure,
      if_neg hpolicy]
    exact ⟨_, rfl⟩
  · refine ⟨params, ?_⟩
    unfold log runPluginPhase
    simp only [hparams, PhaseCall.observe_recording, Traced.emit_bind, Plugin.call, hanswer]
    simp [Traced.bind_of_ok, hraw, if_neg hpolicy]

lemma log_uncalled {observer : SlotObserver} (h : ¬link.Called payload) :
    (∃ error, link.verdict payload = .failed error) ∧ log observer link payload = [] := by
  unfold log verdict runPluginPhase phaseVerdict
  cases hparams : (link.call.context payload).toValue with
  | error message => exact ⟨⟨_, rfl⟩, rfl⟩
  | ok params => exact absurd ⟨params, hparams⟩ h

lemma verdict_called {params : Value} (hparams : (link.call.context payload).toValue = .ok params) :
    link.verdict payload = policyVerdict link.call.policy (link.answer P params) := by
  simp only [verdict, phaseVerdict, hparams, answer]

end PhaseLink

/-- A run does what its visits do, one after the other. -/
structure Follows (observer : SlotObserver) (run : Run (Option P))
    (visits : List (PhaseLink × P)) (initial : P) : Prop where
  threaded : Chain.Threaded PhaseLink.verdict initial visits
  result : run.result = chainResult (Chain.replay PhaseLink.verdict visits false initial)
  log : run.log = visits.flatMap (fun v => PhaseLink.log observer v.1 v.2)

/-- The visits of a plugin that runs alone. -/
def singleVisits (pluginId : String) (plugin : Plugin) (slot : Slot) (wireVersion : UInt32)
    (invocationId : String) (initial : P) : List (PhaseLink × P) :=
  (Chain.visits (singleVerdict pluginId plugin slot wireVersion invocationId) SlotPhase.order
    initial).map (fun v =>
      (⟨plugin, ⟨pluginId, slot, v.1, .pipeline, wireVersion, invocationId⟩⟩, v.2))

lemma runSinglePluginSlotChainObserved_follows (pluginId : String) (plugin : Plugin) (slot : Slot)
    (wireVersion : UInt32) (invocationId : String) (initial : P) (observer : SlotObserver) :
    Follows observer
      (runSinglePluginSlotChainObserved pluginId plugin slot wireVersion invocationId initial
        observer)
      (singleVisits pluginId plugin slot wireVersion invocationId initial) initial := by
  obtain ⟨hresult, hlog⟩ := runSinglePluginPhases_trace pluginId plugin slot wireVersion
    invocationId observer SlotPhase.order initial false
  have hvisits := (Chain.threaded_visits
    (singleVerdict pluginId plugin slot wireVersion invocationId) SlotPhase.order initial).relabel
      PhaseLink.verdict (fun v =>
        some (⟨plugin, ⟨pluginId, slot, v.1, .pipeline, wireVersion, invocationId⟩⟩, v.2))
      (fun v _ => ⟨_, rfl, rfl⟩)
  rw [List.filterMap_eq_map'] at hvisits
  rw [Chain.run_eq_replay, ← hvisits.2 false] at hresult
  refine ⟨hvisits.1, hresult, ?_⟩
  rw [singleVisits, List.flatMap_map]
  exact hlog

namespace LoadedPluginRegistry

/-- The visits of a chain. -/
def chainVisits (self : LoadedPluginRegistry) (slot : Slot) (wireVersion : UInt32)
    (invocationId : String) (initial : P) : List (PhaseLink × P) :=
  (Chain.stageVisits (self.verdict wireVersion invocationId)
    (SlotPhase.order.map (self.registry.bindingsFor slot)) initial).flatten.filterMap (fun v =>
      self.plugins[v.1.pluginId]?.map (fun plugin =>
        (⟨plugin, phaseCallOf v.1 wireVersion invocationId⟩, v.2)))

lemma WellFormed.runSlotChainObserved_follows {self : LoadedPluginRegistry} (h : self.WellFormed)
    (slot : Slot) (wireVersion : UInt32) (invocationId : String) (initial : P)
    (observer : SlotObserver) :
    Follows observer
      (self.runSlotChainObserved slot wireVersion invocationId observer initial)
      (self.chainVisits slot wireVersion invocationId initial) initial := by
  obtain ⟨hresult, hlog⟩ := self.runPhases_trace slot wireVersion invocationId observer
    SlotPhase.order initial false
  rw [Chain.runStages_eq_replay] at hresult
  have hthreaded := Chain.threaded_stageVisits (self.verdict wireVersion invocationId)
    (SlotPhase.order.map (self.registry.bindingsFor slot)) initial
  have hloaded : ∀ v ∈ (Chain.stageVisits (self.verdict wireVersion invocationId)
      (SlotPhase.order.map (self.registry.bindingsFor slot)) initial).flatten,
      ∃ plugin, self.plugins[v.1.pluginId]? = some plugin := by
    intro v hv
    obtain ⟨stage, hstage, hv⟩ := Chain.mem_stage_of_mem_stageVisits _ hv
    obtain ⟨phase, -, rfl⟩ := List.mem_map.mp hstage
    exact h.plugin_of_binding hv
  have hvisits := hthreaded.relabel PhaseLink.verdict (fun v =>
    self.plugins[v.1.pluginId]?.map (fun plugin =>
      (⟨plugin, phaseCallOf v.1 wireVersion invocationId⟩, v.2))) (by
    intro v hv
    obtain ⟨plugin, hplugin⟩ := hloaded v hv
    refine ⟨⟨plugin, phaseCallOf v.1 wireVersion invocationId⟩, by rw [hplugin]; rfl, ?_⟩
    rw [verdict, hplugin]
    rfl)
  refine ⟨hvisits.1, hresult.trans (congrArg _ (hvisits.2 false).symm), hlog.trans ?_⟩
  apply Eq.symm
  apply flatMap_filterMap_of_forall
  intro v hv
  obtain ⟨plugin, hplugin⟩ := hloaded v hv
  refine ⟨(⟨plugin, phaseCallOf v.1 wireVersion invocationId⟩, v.2), by rw [hplugin]; rfl, ?_⟩
  rw [visitLog, hplugin]
  rfl

end LoadedPluginRegistry

end

/-- A phase of a plugin as an observer sees it: the entry and one terminal event, for one call. -/
structure Bracket where
  enter : SlotObservation
  call : IpcCall
  exit : SlotObservation
  opens : enter.event = .enter
  closes : exit.event ≠ .enter
  pluginId : exit.pluginId = enter.pluginId ∧ call.pluginId = enter.pluginId
  slot : exit.slot = enter.slot
  phase : exit.phase = enter.phase
  policy : exit.policy = enter.policy
  invocationId : exit.invocationId = enter.invocationId

/-- The observations of a log are brackets, one for each call. -/
def Bracketed (log : List RuntimeEvent) : Prop :=
  ∃ brackets : List Bracket, observations log = brackets.flatMap (fun b => [b.enter, b.exit]) ∧
    calls log = brackets.map Bracket.call

lemma Bracketed.append {log log' : List RuntimeEvent} (h : Bracketed log) (h' : Bracketed log') :
    Bracketed (log ++ log') := by
  obtain ⟨brackets, hobservations, hcalls⟩ := h
  obtain ⟨brackets', hobservations', hcalls'⟩ := h'
  refine ⟨brackets ++ brackets', ?_, ?_⟩
  · rw [observations_append, hobservations, hobservations', List.flatMap_append]
  · rw [calls_append, hcalls, hcalls', List.map_append]

lemma bracketed_flatMap {α : Type} {f : α → List RuntimeEvent} {xs : List α}
    (h : ∀ x ∈ xs, Bracketed (f x)) : Bracketed (xs.flatMap f) := by
  induction xs with
  | nil => exact ⟨[], rfl, rfl⟩
  | cons x xs ih =>
    rw [List.flatMap_cons]
    exact (h x List.mem_cons_self).append (ih (fun y hy => h y (List.mem_cons_of_mem _ hy)))

/-- An entry without its terminal event shows in the number of observations. -/
lemma Bracketed.even_length {log : List RuntimeEvent} (h : Bracketed log) :
    Even (observations log).length := by
  obtain ⟨brackets, hobservations, -⟩ := h
  have hlength : (brackets.flatMap (fun b => [b.enter, b.exit])).length = brackets.length * 2 := by
    simp [List.length_flatMap]
  exact ⟨brackets.length, by rw [hobservations, hlength, Nat.mul_two]⟩

section

variable {P : Type} [SlotPayload P]

/-- The visits of a phase that does not break off are bracketed. -/
lemma PhaseLink.bracketed_log {link : PhaseLink} {payload : P} (h : ¬link.Garbled payload) :
    Bracketed (log .recording link payload) := by
  by_cases hcalled : link.Called payload
  · obtain ⟨params, hparams⟩ := hcalled
    obtain ⟨message, hlog⟩ := log_recording hparams h
    rw [hlog]
    let bracket : Bracket :=
      { enter := link.call.observation .enter (params.field "payload") none
        call := ⟨link.call.pluginId, link.call.method, params⟩
        exit := link.call.observation (terminalEvent link.call.policy (link.answer P params))
          (terminalPayload (params.field "payload") (link.answer P params)) message
        opens := rfl
        closes := terminalEvent_ne_enter _ _
        pluginId := ⟨rfl, rfl⟩
        slot := rfl
        phase := rfl
        policy := rfl
        invocationId := rfl }
    exact ⟨[bracket], rfl, rfl⟩
  · rw [(log_uncalled hcalled).2]
    exact ⟨[], rfl, rfl⟩

/-- The observations of a run are brackets, one for each call, and a run that fails after it has
called a plugin ends with the observation of an error of its last call. -/
structure WellObserved (run : Run (Option P)) : Prop where
  bracketed : Bracketed run.log
  failed : ∀ error, run.result = .error error → ∀ call, (calls run.log).getLast? = some call →
    ∃ o, (observations run.log).getLast? = some o ∧ o.event = .error ∧
      o.pluginId = call.pluginId ∧ call.method = s!"slot.{o.slot.value}.{o.phase.asStr}"

namespace Follows

variable {run : Run (Option P)} {visits : List (PhaseLink × P)} {initial : P}

/-- A failing visit is the last one. -/
lemma eq_nil_of_failed {observer : SlotObserver} (h : Follows observer run visits initial)
    {pre post : List (PhaseLink × P)} {v : PhaseLink × P} (hsplit : visits = pre ++ v :: post)
    (hfailed : ∃ error, v.1.verdict v.2 = .failed error) : post = [] := by
  obtain ⟨error, hfailed⟩ := hfailed
  have hthreaded := h.threaded
  rw [hsplit] at hthreaded
  exact hthreaded.split.2 (by rw [hfailed]; exact Option.some_ne_none _)

/-- The trace of a run is bracketed unless a visit is garbled. -/
lemma bracketed_iff (h : Follows .recording run visits initial) :
    Bracketed run.log ↔ ∀ v ∈ visits, ¬v.1.Garbled v.2 := by
  rw [h.log]
  constructor
  · intro hbracketed v hv hgarbled
    obtain ⟨pre, post, hsplit⟩ := List.append_of_mem hv
    obtain ⟨hfailed, params, hlog⟩ := hgarbled.log_recording
    have hpost := h.eq_nil_of_failed hsplit hfailed
    have hpre : Bracketed (pre.flatMap (fun v => PhaseLink.log .recording v.1 v.2)) := by
      apply bracketed_flatMap
      intro u hu
      apply PhaseLink.bracketed_log
      intro hgarbled'
      obtain ⟨before, after, hsplit'⟩ := List.append_of_mem hu
      have hearlier : visits = before ++ u :: (after ++ v :: post) := by
        rw [hsplit, hsplit', List.append_assoc, List.cons_append]
      have hnil := h.eq_nil_of_failed hearlier hgarbled'.log_recording.1
      exact List.append_ne_nil_of_right_ne_nil _ (List.cons_ne_nil _ _) hnil
    rw [hsplit, hpost, List.flatMap_append, List.flatMap_singleton, hlog] at hbracketed
    have heven := hbracketed.even_length
    rw [observations_append, List.length_append] at heven
    have hodd : ¬Even 1 := by decide
    exact hodd ((Nat.even_add.mp heven).mp hpre.even_length)
  · intro hdecodes
    exact bracketed_flatMap (fun v hv => PhaseLink.bracketed_log (hdecodes v hv))

/-- A visit that is called and decodes ends the log so far with its call and its last event. -/
lemma getLast?_log {v : PhaseLink × P} {params : Value}
    (hparams : (v.1.call.context v.2).toValue = .ok params) (hdecodes : ¬v.1.Garbled v.2)
    (front : List RuntimeEvent) :
    ∃ o, (observations (front ++ PhaseLink.log .recording v.1 v.2)).getLast? = some o ∧
      o.event = terminalEvent v.1.call.policy (v.1.answer P params) ∧
      (calls (front ++ PhaseLink.log .recording v.1 v.2)).getLast? =
        some ⟨o.pluginId, s!"slot.{o.slot.value}.{o.phase.asStr}", params⟩ := by
  obtain ⟨message, hlog⟩ := PhaseLink.log_recording hparams hdecodes
  rw [hlog]
  refine ⟨v.1.call.observation (terminalEvent v.1.call.policy (v.1.answer P params))
    (terminalPayload (params.field "payload") (v.1.answer P params)) message, ?_, rfl, ?_⟩
  · simp
  · simp [PhaseCall.method, PhaseCall.observation]

/-- A run fails just when its last visit does. -/
lemma exists_failed_iff {observer : SlotObserver} (h : Follows observer run visits initial) :
    (∃ error, run.result = .error error) ↔
      ∃ pre v, visits = pre ++ [v] ∧ ∃ error, v.1.verdict v.2 = .failed error := by
  constructor
  · rintro ⟨error, herror⟩
    have hresult := h.result
    rw [herror] at hresult
    obtain ⟨v, hv, hends⟩ :=
      h.threaded.replay_failed_iff.mp (chainResult_eq_error.mp hresult.symm)
    have hfailed := Chain.Verdict.ending_eq_failed.mp hends
    obtain ⟨pre, post, hsplit⟩ := List.append_of_mem hv
    rw [h.eq_nil_of_failed hsplit ⟨error, hfailed⟩] at hsplit
    exact ⟨pre, v, hsplit, error, hfailed⟩
  · rintro ⟨pre, v, hsplit, error, hfailed⟩
    have hv : v ∈ visits := hsplit ▸ List.mem_append_right pre (List.mem_singleton_self v)
    have hreplay := h.threaded.replay_ends hv (Chain.Verdict.ending_eq_failed.mpr hfailed) false
    exact ⟨error, by rw [h.result, hreplay]; rfl⟩

/-- A run that fails after a call, with the plugin of its last visit called, ends with the
observation of the error. -/
lemma error_observed (h : Follows .recording run visits initial)
    (hdecodes : ∀ v ∈ visits, ¬v.1.Garbled v.2) (hcalled : ∀ v ∈ visits.tail, v.1.Called v.2)
    {error : HostFailure} (herror : run.result = .error error) {call : IpcCall}
    (hlast : (calls run.log).getLast? = some call) :
    ∃ o, (observations run.log).getLast? = some o ∧ o.event = .error ∧
      o.pluginId = call.pluginId ∧ call.method = s!"slot.{o.slot.value}.{o.phase.asStr}" := by
  obtain ⟨pre, v, hsplit, error, hfailed⟩ := h.exists_failed_iff.mp ⟨error, herror⟩
  have hlog : run.log = pre.flatMap (fun v => PhaseLink.log .recording v.1 v.2) ++
      PhaseLink.log .recording v.1 v.2 := by
    rw [h.log, hsplit, List.flatMap_append, List.flatMap_singleton]
  by_cases hv : v.1.Called v.2
  · obtain ⟨params, hparams⟩ := hv
    have hv : v ∈ visits := hsplit ▸ List.mem_append_right pre (List.mem_singleton_self v)
    obtain ⟨o, ho, hevent, hcall⟩ := getLast?_log hparams (hdecodes v hv)
      (pre.flatMap fun v => PhaseLink.log .recording v.1 v.2)
    rw [← hlog] at ho hcall
    rw [PhaseLink.verdict_called hparams] at hfailed
    rw [terminalEvent_eq_error.mpr ⟨error, hfailed⟩] at hevent
    rw [hlast, Option.some.injEq] at hcall
    rw [hcall]
    exact ⟨o, ho, hevent, rfl, rfl⟩
  · -- only a first visit may be left uncalled, and then nothing was called at all
    have hpre : pre = [] := by
      cases pre with
      | nil => rfl
      | cons u pre =>
        have hmem : v ∈ visits.tail := by
          rw [hsplit]
          exact List.mem_append_right pre (List.mem_singleton_self v)
        exact absurd (hcalled v hmem) hv
    rw [hlog, hpre, (PhaseLink.log_uncalled hv).2] at hlast
    cases hlast

/-- A visit after the first one that is left uncalled fails the run without an error event. -/
lemma called_of_wellObserved (h : Follows .recording run visits initial)
    (hobserved : WellObserved run) (hdecodes : ∀ v ∈ visits, ¬v.1.Garbled v.2)
    {v : PhaseLink × P} (hv : v ∈ visits.tail) : v.1.Called v.2 := by
  by_contra hcalled
  obtain ⟨front, post, hsplit, hne⟩ : ∃ front post, visits = front ++ v :: post ∧ front ≠ [] := by
    cases hvisits : visits with
    | nil =>
      rw [hvisits] at hv
      cases hv
    | cons u visits =>
      rw [hvisits] at hv
      obtain ⟨mid, post, rfl⟩ := List.append_of_mem hv
      exact ⟨u :: mid, post, rfl, List.cons_ne_nil _ _⟩
  obtain ⟨pre, u, rfl⟩ := (List.eq_nil_or_concat' front).resolve_left hne
  obtain ⟨hfailed, hlog⟩ : (∃ error, v.1.verdict v.2 = .failed error) ∧
      PhaseLink.log .recording v.1 v.2 = [] := PhaseLink.log_uncalled hcalled
  have hpost := h.eq_nil_of_failed hsplit hfailed
  rw [hpost] at hsplit
  obtain ⟨error, herror⟩ := h.exists_failed_iff.mpr ⟨pre ++ [u], v, hsplit, hfailed⟩
  have hearlier : visits = pre ++ u :: [v] := by rw [hsplit, List.append_assoc]; rfl
  -- the visit before it did not fail, so its plugin was called and no error was observed
  have hunfailed : ¬∃ error, u.1.verdict u.2 = .failed error := fun hu =>
    List.cons_ne_nil v [] (h.eq_nil_of_failed hearlier hu)
  have hu : u.1.Called u.2 := by
    by_contra hu
    have huncalled : (∃ error, u.1.verdict u.2 = .failed error) ∧
        PhaseLink.log .recording u.1 u.2 = [] := PhaseLink.log_uncalled hu
    exact hunfailed huncalled.1
  obtain ⟨params, hparams⟩ := hu
  have hmem : u ∈ visits := hearlier ▸ List.mem_append_right pre List.mem_cons_self
  obtain ⟨o, ho, hevent, hcall⟩ := getLast?_log hparams (hdecodes u hmem)
    (pre.flatMap fun v => PhaseLink.log .recording v.1 v.2)
  have hrunlog : run.log = pre.flatMap (fun v => PhaseLink.log .recording v.1 v.2) ++
      PhaseLink.log .recording u.1 u.2 := by
    rw [h.log, hearlier, List.flatMap_append, List.flatMap_cons, List.flatMap_singleton, hlog,
      List.append_nil]
  rw [← hrunlog] at ho hcall
  obtain ⟨o', ho', herrorEvent, -⟩ := hobserved.failed error herror _ hcall
  rw [ho, Option.some.injEq] at ho'
  rw [← ho', hevent] at herrorEvent
  obtain ⟨error', herror'⟩ := terminalEvent_eq_error.mp herrorEvent
  exact hunfailed ⟨error', by rw [PhaseLink.verdict_called hparams, herror']⟩

lemma wellObserved_iff (h : Follows .recording run visits initial) :
    WellObserved run ↔
      (∀ v ∈ visits, ¬v.1.Garbled v.2) ∧ ∀ v ∈ visits.tail, v.1.Called v.2 := by
  constructor
  · intro hobserved
    have hdecodes := h.bracketed_iff.mp hobserved.bracketed
    exact ⟨hdecodes, fun v hv => h.called_of_wellObserved hobserved hdecodes hv⟩
  · rintro ⟨hdecodes, hcalled⟩
    exact ⟨h.bracketed_iff.mpr hdecodes,
      fun _ herror _ hlast => h.error_observed hdecodes hcalled herror hlast⟩

end Follows

/-- The trace of a run, with or without a registry, is well observed exactly when no plugin it
calls gives an answer that does not decode, under a policy other than `bestEffort`, and every
payload that it hands on after its first call serialises. -/
theorem runs_wellObserved_iff {runtime : LoadedPluginRegistry} (h : runtime.Reachable)
    (pluginId : String) (plugin : Plugin) (slot : Slot) (wireVersion : UInt32)
    (invocationId : String) (initial : P) :
    (WellObserved
        (runtime.runSlotChainObserved slot wireVersion invocationId .recording initial) ↔
      (∀ v ∈ runtime.chainVisits slot wireVersion invocationId initial, ¬v.1.Garbled v.2) ∧
      ∀ v ∈ (runtime.chainVisits slot wireVersion invocationId initial).tail,
        v.1.Called v.2) ∧
    (WellObserved
        (runSinglePluginSlotChainObserved pluginId plugin slot wireVersion invocationId initial
          .recording) ↔
      (∀ v ∈ singleVisits pluginId plugin slot wireVersion invocationId initial,
        ¬v.1.Garbled v.2) ∧
      ∀ v ∈ (singleVisits pluginId plugin slot wireVersion invocationId initial).tail,
        v.1.Called v.2) := by
  constructor
  · exact (h.wellFormed.runSlotChainObserved_follows slot wireVersion invocationId initial
      .recording).wellObserved_iff
  · exact (runSinglePluginSlotChainObserved_follows pluginId plugin slot wireVersion invocationId
      initial .recording).wellObserved_iff

end

/-- An answer that is not the JSON of an outcome. -/
def garbledAnswer : Option (HostResult Value) :=
  some (.ok (.string "yes"))

theorem runs_wellObserved_iff_resolver :
    let plugin := constantPlugin "watcher" none
    (WellObserved
        (resolverRuntime.runSlotChainObserved ⟨"config.process"⟩ 1 "inv" .recording Value.null) ↔
      (∀ v ∈ resolverRuntime.chainVisits ⟨"config.process"⟩ 1 "inv" Value.null,
        ¬v.1.Garbled v.2) ∧
      ∀ v ∈ (resolverRuntime.chainVisits ⟨"config.process"⟩ 1 "inv" Value.null).tail,
        v.1.Called v.2) ∧
    (WellObserved
        (runSinglePluginSlotChainObserved "watcher" plugin ⟨"config.process"⟩ 1 "inv" Value.null
          .recording) ↔
      (∀ v ∈ singleVisits "watcher" plugin ⟨"config.process"⟩ 1 "inv" Value.null,
        ¬v.1.Garbled v.2) ∧
      ∀ v ∈ (singleVisits "watcher" plugin ⟨"config.process"⟩ 1 "inv" Value.null).tail,
        v.1.Called v.2) :=
  runs_wellObserved_iff (LoadedPluginRegistry.reachable_load _) "watcher"
    (constantPlugin "watcher" none) ⟨"config.process"⟩ 1 "inv" Value.null

/-- An answer that does not decode fails the run, and the observer is told of the entry only. -/
theorem garbled_not_bracketed :
    let runtime := LoadedPluginRegistry.load
      [(manifestFor "resolver" 0 "config.process" [.exec] .pipeline,
        constantPlugin "resolver" garbledAnswer)]
    let run := runtime.runSlotChainObserved ⟨"config.process"⟩ 1 "inv" .recording Value.null
    runtime.Reachable ∧ (∃ error, run.result = .error error) ∧
    (calls run.log).map IpcCall.pluginId = ["resolver"] ∧
    (observations run.log).map SlotObservation.event = [.enter] ∧ ¬Bracketed run.log := by
  intro runtime run
  have hevents : (observations run.log).map SlotObservation.event = [.enter] := rfl
  refine ⟨LoadedPluginRegistry.reachable_load _, ⟨_, rfl⟩, rfl, hevents, fun hbracketed => ?_⟩
  have heven := hbracketed.even_length
  rw [← List.length_map SlotObservation.event, hevents] at heven
  exact absurd heven (by decide)

end Pingling.HostRuntime
