import Pingling.Shared.NetwatchBackend

/-!
# The mirror of a subscriber

A client subscribes, lists the interfaces and applies the events of its channel to what it has
listed. The watcher may take several changes for one, so that a client has listed what is never
reported. An event that changes the mirror at an index puts what the watcher has reported there,
and later events follow the reports. So the mirror is right where the list was, or where an event
has reached it.
-/

namespace Pingling.Shared
open Lib Netwatcher
open Std (ExtHashMap)

/-- Whether the event decides what there is at its index. Nothing is modified where nothing is. -/
def UpdateEvent.Lands (start : Option IfaceSnapshot) : UpdateEvent → Prop
  | .modified .. => start ≠ none
  | _ => True

/-- An event of an index reaches a client that starts there with a snapshot or without one. -/
def Reaches (start : Option IfaceSnapshot) (events : List UpdateEvent) : Prop :=
  ∃ event ∈ events, event.Lands start

lemma effect_of_not_lands {event : UpdateEvent} {start : Option IfaceSnapshot}
    (hlands : ¬ event.Lands start) : UpdateEvent.effect start event = start := by
  cases event with
  | added snapshot => exact absurd trivial hlands
  | removed index name => exact absurd trivial hlands
  | modified snapshot addrsAdded addrsRemoved hwAddrChanged =>
    rw [not_not.mp hlands]
    rfl

lemma foldl_of_not_reaches {events : List UpdateEvent} {start : Option IfaceSnapshot}
    (hreaches : ¬ Reaches start events) : events.foldl UpdateEvent.effect start = start := by
  induction events with
  | nil => rfl
  | cons event events ih =>
    have hlands : ¬ event.Lands start := fun hlands =>
      hreaches ⟨event, List.mem_cons_self, hlands⟩
    rw [List.foldl_cons, effect_of_not_lands hlands]
    exact ih fun ⟨other, hother, hlands⟩ =>
      hreaches ⟨other, List.mem_cons_of_mem event hother, hlands⟩

/-- An event that leads from one of two values to the other leads to the second one from wherever
it lands. -/
lemma effect_of_lands {event : UpdateEvent} {old new start : Option IfaceSnapshot}
    (heffect : UpdateEvent.effect old event = new) (hthere : ¬ (old = none ∧ new = none))
    (hlands : event.Lands start) : UpdateEvent.effect start event = new := by
  cases event with
  | added snapshot => exact heffect
  | removed index name => exact heffect
  | modified snapshot addrsAdded addrsRemoved hwAddrChanged =>
    obtain ⟨value, rfl⟩ := Option.ne_none_iff_exists'.mp hlands
    cases old with
    | none => exact absurd ⟨rfl, heffect.symm⟩ hthere
    | some before => exact heffect

/-- Where an event of an update reaches a client, the client has what is reported. -/
lemma foldl_of_reaches {update : Update} {old : Table} (hexact : update.Exact old)
    (hkeyed : Keyed update.interfaces) (i : UInt32) {start : Option IfaceSnapshot}
    (hreaches : Reaches start
      ((eventsFromUpdate update).filter (fun event => event.index = i))) :
    ((eventsFromUpdate update).filter (fun event => event.index = i)).foldl UpdateEvent.effect
      start = update.interfaces[i]?.map ifaceToSnapshot := by
  obtain ⟨hfold, hlength⟩ := events_at hexact hkeyed i
  obtain ⟨event, hmem, hlands⟩ := hreaches
  by_cases hsame : old[i]? = update.interfaces[i]?
  · rw [if_pos hsame] at hlength
    rw [List.eq_nil_of_length_eq_zero hlength] at hmem
    cases hmem
  · rw [if_neg hsame] at hlength
    obtain ⟨single, hsingle⟩ := List.length_eq_one_iff.mp hlength
    rw [hsingle, List.mem_singleton] at hmem
    rw [hsingle] at hfold ⊢
    subst hmem
    apply effect_of_lands hfold _ hlands
    rintro ⟨hold, hnew⟩
    rw [Option.map_eq_none_iff] at hold hnew
    exact hsame (hold.trans hnew.symm)

section

variable {ι : Type}

/-- The watcher reports the tables of the operating system in their order, each with what has
changed since the one that it has reported before. -/
def Documented : HostStep ι → Host ι → Prop
  | .change table, _ => Keyed table
  | .callback update, h =>
    h.pending.head? = some update.interfaces ∧ update.Exact h.reported
  | _, _ => True

/-- What a client has when it has applied the events of its channel to what it has listed. -/
def Host.applied (h : Host ι) (sub : ι) (listed : IfaceMap) : IfaceMap :=
  (h.channels sub).queue.foldl UpdateEvent.apply listed

lemma listInterfaces_getElem? (table : Table) (i : UInt32) :
    (listInterfaces table)[i]? = table[i]?.map ifaceToSnapshot :=
  ExtHashMap.getElem?_map

/-- The tables of a host. The last one that the watcher has yet to report is the present one. -/
structure Host.Tables (h : Host ι) : Prop where
  os : Keyed h.os
  pending : ∀ table ∈ h.pending, Keyed table
  present : h.backend.handle = true → h.os = h.pending.getLastD h.reported
  asleep : h.backend.handle = false → h.pending = [] ∧ ∀ sub, h.subscribing sub = .start

lemma tables_boot : (Host.boot : Host ι).Tables := by
  refine ⟨?_, ?_, ?_, ?_⟩
  · intro i iface hiface
    rw [Host.boot, ExtHashMap.getElem?_empty] at hiface
    cases hiface
  · exact fun table htable => by cases htable
  · exact fun hhandle => by cases hhandle
  · exact fun _ => ⟨rfl, fun _ => rfl⟩

variable [DecidableEq ι]

/-- The events of an index since a subscriber has joined. -/
def eventsOf (sub : ι) (steps : List (HostStep ι)) (i : UInt32) : List UpdateEvent :=
  (eventsSinceJoin sub steps).filter (fun event => event.index = i)

/-- Where the events reach a client they lead it to what is reported. A client that starts with a
table that has been reported since it has joined is led to the last one everywhere. -/
structure Host.Mirrored (steps : List (HostStep ι)) (h : Host ι) : Prop where
  reached : ∀ sub i start, Reaches start (eventsOf sub steps i) →
    (eventsOf sub steps i).foldl UpdateEvent.effect start = h.reported[i]?.map ifaceToSnapshot
  rebuilt : ∀ sub update, .callback update ∈ sinceJoin sub steps →
    (eventsSinceJoin sub steps).foldl UpdateEvent.apply (listInterfaces update.interfaces) =
      listInterfaces h.reported

variable {h h' : Host ι} {steps : List (HostStep ι)} {a : HostStep ι}

lemma foldl_apply_getElem? (sub : ι) (listed : IfaceMap) (i : UInt32) :
    ((eventsSinceJoin sub steps).foldl UpdateEvent.apply listed)[i]? =
      (eventsOf sub steps i).foldl UpdateEvent.effect listed[i]? :=
  UpdateEvent.actsAt.foldl _ _ _

lemma mem_sinceJoin_append {sub : ι} {update : Update}
    (hmem : .callback update ∈ sinceJoin sub (steps ++ [a])) :
    .callback update ∈ sinceJoin sub steps ∨
      sinceJoin sub steps ≠ [] ∧ a = .callback update := by
  rw [sinceJoin_append] at hmem
  split_ifs at hmem with hjoin hpush
  · rw [← List.mem_singleton.mp hmem] at hpush
    cases hpush
  · cases hmem
  · rcases List.mem_append.mp hmem with hmem | hmem
    · exact .inl hmem
    · exact .inr ⟨hjoin, (List.mem_singleton.mp hmem).symm⟩

/-- A step that reports nothing. -/
lemma Host.Mirrored.quiet (hm : h.Mirrored steps) (hupdate : a.update? = none)
    (hreported : h'.reported = h.reported) : h'.Mirrored (steps ++ [a]) := by
  constructor
  · intro sub i start
    rw [eventsOf, eventsSinceJoin_quiet hupdate, hreported]
    exact hm.reached sub i start
  · intro sub update hmem
    rw [eventsSinceJoin_quiet hupdate, hreported]
    rcases mem_sinceJoin_append hmem with hmem | ⟨-, rfl⟩
    · exact hm.rebuilt sub update hmem
    · cases hupdate

lemma eventsSinceJoin_of_nil {sub : ι} (hjoin : sinceJoin sub steps = []) :
    eventsSinceJoin sub steps = [] := by
  rw [eventsSinceJoin, hjoin]
  rfl

/-- The events of an update come after those that lead to what has been reported before. -/
lemma Host.Mirrored.reached_callback {update : Update} (hm : h.Mirrored steps)
    (hexact : update.Exact h.reported) (hkeyed : Keyed update.interfaces) {sub : ι} {i : UInt32}
    {start : Option IfaceSnapshot}
    (hreaches : Reaches start (eventsOf sub (steps ++ [.callback update]) i)) :
    (eventsOf sub (steps ++ [.callback update]) i).foldl UpdateEvent.effect start =
      update.interfaces[i]?.map ifaceToSnapshot := by
  rw [eventsOf, eventsSinceJoin_callback, List.filter_append] at hreaches ⊢
  by_cases hjoin : sinceJoin sub steps = []
  · rw [if_pos hjoin, eventsSinceJoin_of_nil hjoin] at hreaches
    obtain ⟨event, hevent, -⟩ := hreaches
    cases hevent
  · rw [if_neg hjoin] at hreaches ⊢
    rw [List.foldl_append]
    by_cases hbefore : Reaches start (eventsOf sub steps i)
    · have hstart := hm.reached sub i start hbefore
      rw [eventsOf] at hstart
      rw [hstart]
      exact (events_at hexact hkeyed i).1
    · have hstart := foldl_of_not_reaches hbefore
      rw [eventsOf] at hstart
      rw [hstart]
      obtain ⟨event, hevent, hlands⟩ := hreaches
      rcases List.mem_append.mp hevent with hevent | hevent
      · exact absurd ⟨event, hevent, hlands⟩ hbefore
      · exact foldl_of_reaches hexact hkeyed i ⟨event, hevent, hlands⟩

lemma Host.Mirrored.callback {update : Update} (hm : h.Mirrored steps)
    (hexact : update.Exact h.reported) (hkeyed : Keyed update.interfaces)
    (hreported : h'.reported = update.interfaces) :
    h'.Mirrored (steps ++ [.callback update]) := by
  constructor
  · intro sub i start hreaches
    rw [hreported]
    exact hm.reached_callback hexact hkeyed hreaches
  · intro sub other hmem
    rw [hreported]
    rcases mem_sinceJoin_append hmem with hmem | ⟨-, hother⟩
    · have hjoin : sinceJoin sub steps ≠ [] := List.ne_nil_of_mem hmem
      rw [eventsSinceJoin_callback, if_neg hjoin, List.foldl_append, hm.rebuilt sub other hmem]
      exact (events_rebuild update h.reported hexact hkeyed).1
    · cases hother
      apply ExtHashMap.ext_getElem?
      intro i
      rw [foldl_apply_getElem?, listInterfaces_getElem?]
      by_cases hreaches : Reaches (update.interfaces[i]?.map ifaceToSnapshot)
          (eventsOf sub (steps ++ [.callback update]) i)
      · exact hm.reached_callback hexact hkeyed hreaches
      · exact foldl_of_not_reaches hreaches

/-- The interfaces change, and a watcher that has been started will report them. -/
lemma Host.Tables.change (ht : h.Tables) {table : Table} (hkeyed : Keyed table)
    (hstep : Host.step (.change table) h = some h') : h'.Tables := by
  cases hstep
  refine ⟨hkeyed, ?_, ?_, ?_⟩
  · intro other hother
    change other ∈ if h.backend.handle then h.pending ++ [table] else h.pending at hother
    split_ifs at hother
    · rcases List.mem_append.mp hother with hother | hother
      · exact ht.pending other hother
      · rw [List.mem_singleton.mp hother]
        exact hkeyed
    · exact ht.pending other hother
  · intro hhandle
    change h.backend.handle = true at hhandle
    change table = (if h.backend.handle then h.pending ++ [table] else h.pending).getLastD _
    rw [if_pos hhandle, List.getLastD_concat]
  · intro hhandle
    change h.backend.handle = false at hhandle
    change (if h.backend.handle then h.pending ++ [table] else h.pending) = [] ∧ _
    rw [hhandle]
    exact ht.asleep hhandle

/-- A watcher that is started now has the present interfaces to report. -/
lemma Host.Tables.ensureStarted (ht : h.Tables) {sub : ι} {starts : Bool}
    (hstep : Host.step (.ensureStarted sub starts) h = some h') : h'.Tables := by
  obtain ⟨-, hstep⟩ := Option.ite_none_right_eq_some.mp hstep
  obtain ⟨backend, hbackend, rfl⟩ := Option.map_eq_some_iff.mp hstep
  have hstarted : backend.handle = true := NetwatcherBackend.handle_ensureStarted hbackend
  refine ⟨ht.os, ?_, ?_, ?_⟩
  · intro table htable
    change table ∈ if h.backend.handle then h.pending else [h.os] at htable
    split_ifs at htable
    · exact ht.pending table htable
    · rw [List.mem_singleton.mp htable]
      exact ht.os
  · intro _
    change h.os = (if h.backend.handle then h.pending else [h.os]).getLastD _
    split_ifs with hhandle
    · exact ht.present hhandle
    · rfl
  · intro hhandle
    cases hhandle.symm.trans hstarted

/-- The first of the tables is reported. -/
lemma Host.Tables.callback (ht : h.Tables) {update : Update}
    (hhead : h.pending.head? = some update.interfaces)
    (hstep : Host.step (.callback update) h = some h') : h'.Tables := by
  obtain ⟨hhandle, hstep⟩ := Option.ite_none_right_eq_some.mp hstep
  cases hstep
  obtain ⟨rest, htables⟩ : ∃ rest, h.pending = update.interfaces :: rest :=
    ⟨_, List.eq_cons_of_mem_head? hhead⟩
  refine ⟨ht.os, ?_, ?_, ?_⟩
  · exact fun table htable => ht.pending table (List.mem_of_mem_tail htable)
  · intro _
    change h.os = h.pending.tail.getLastD update.interfaces
    rw [ht.present hhandle, htables, List.getLastD_cons, List.tail_cons]
  · intro hasleep
    cases hasleep.symm.trans hhandle

/-- The first of several tables is left out. -/
lemma Host.Tables.skip (ht : h.Tables) (hstep : Host.step .skip h = some h') : h'.Tables := by
  obtain ⟨first, next, rest, hpending, rfl⟩ := step_skip hstep
  refine ⟨ht.os, ?_, ?_, ?_⟩
  · intro table htable
    apply ht.pending
    rw [hpending]
    exact List.mem_cons_of_mem _ htable
  · intro hhandle
    have hpresent := ht.present hhandle
    rw [hpending, List.getLastD_cons, List.getLastD_cons] at hpresent
    change h.os = (next :: rest).getLastD _
    rw [hpresent, List.getLastD_cons]
  · intro hhandle
    have hnone := (ht.asleep hhandle).1
    rw [hpending] at hnone
    cases hnone

lemma Host.Tables.step (ht : h.Tables) (hcond : Documented a h) (hstep : Host.step a h = some h') :
    h'.Tables := by
  cases a with
  | change table => exact ht.change hcond hstep
  | ensureStarted sub starts => exact ht.ensureStarted hstep
  | push sub =>
    obtain ⟨hphase, hstep⟩ := Option.ite_none_right_eq_some.mp hstep
    cases hstep
    refine ⟨ht.os, ht.pending, ht.present, fun hhandle => ?_⟩
    have hstart := (ht.asleep hhandle).2 sub
    rw [hphase] at hstart
    cases hstart
  | callback update => exact ht.callback hcond.1 hstep
  | list sub =>
    cases hstep
    exact ⟨ht.os, ht.pending, ht.present, ht.asleep⟩
  | drop sub =>
    obtain ⟨-, hstep⟩ := Option.ite_none_right_eq_some.mp hstep
    cases hstep
    exact ⟨ht.os, ht.pending, ht.present, ht.asleep⟩
  | skip => exact ht.skip hstep

/-- A step reports the interfaces of an update, or nothing. -/
lemma step_reported (hstep : Host.step a h = some h') :
    (∃ update, a = .callback update ∧ h'.reported = update.interfaces) ∨
      (a.update? = none ∧ h'.reported = h.reported) := by
  cases a with
  | callback update =>
    obtain ⟨-, hstep⟩ := Option.ite_none_right_eq_some.mp hstep
    cases hstep
    exact .inl ⟨update, rfl, rfl⟩
  | ensureStarted sub starts =>
    obtain ⟨-, hstep⟩ := Option.ite_none_right_eq_some.mp hstep
    obtain ⟨backend, -, rfl⟩ := Option.map_eq_some_iff.mp hstep
    exact .inr ⟨rfl, rfl⟩
  | skip =>
    obtain ⟨first, next, rest, -, rfl⟩ := step_skip hstep
    exact .inr ⟨rfl, rfl⟩
  | change table =>
    cases hstep
    exact .inr ⟨rfl, rfl⟩
  | list sub =>
    cases hstep
    exact .inr ⟨rfl, rfl⟩
  | push sub =>
    obtain ⟨-, hstep⟩ := Option.ite_none_right_eq_some.mp hstep
    cases hstep
    exact .inr ⟨rfl, rfl⟩
  | drop sub =>
    obtain ⟨-, hstep⟩ := Option.ite_none_right_eq_some.mp hstep
    cases hstep
    exact .inr ⟨rfl, rfl⟩

lemma Host.Mirrored.step (hm : h.Mirrored steps) (ht : h.Tables) (hcond : Documented a h)
    (hstep : Host.step a h = some h') : h'.Mirrored (steps ++ [a]) := by
  rcases step_reported hstep with ⟨update, rfl, hreported⟩ | ⟨hupdate, hreported⟩
  · obtain ⟨hhead, hexact⟩ := hcond
    exact hm.callback hexact (ht.pending _ (List.mem_of_mem_head? hhead)) hreported
  · exact hm.quiet hupdate hreported

lemma mirrored_boot : (Host.boot : Host ι).Mirrored [] := by
  constructor
  · rintro sub i start ⟨event, hevent, -⟩
    cases hevent
  · exact fun sub update hmem => by cases hmem

/-- What the watcher has reported last is what there is, once a subscriber is on the list and
nothing is left to be reported. -/
lemma os_eq_reported (hsent : h.Sent steps) (ht : h.Tables) {sub : ι}
    (hjoin : sinceJoin sub steps ≠ []) (hpending : h.pending = []) : h.os = h.reported := by
  have hhandle : h.backend.handle = true := by
    by_contra hasleep
    have hstart := (ht.asleep (Bool.eq_false_iff.mpr hasleep)).2 sub
    rw [(hsent.joined sub).mpr hjoin] at hstart
    cases hstart
  have hpresent := ht.present hhandle
  rw [hpending] at hpresent
  exact hpresent

/-- In a run in which the watcher does what it documents, also when it takes changes for one, let a
client apply all events of its channel to what it has listed at any time. When the watcher has
reported the present interfaces, the client has them just when, at each index, what it has listed
is the present one or an event of the reports since it has joined reaches it there. It has them if
what it has listed has been reported since then. -/
theorem mirror_right_iff (hrun : Host.run steps = some h)
    (hcond : EachStep Host.step Documented steps Host.boot) {sub : ι}
    (hopen : (h.channels sub).closed = false) (hpending : h.pending = []) (listed : IfaceMap) :
    (h.applied sub listed = listInterfaces h.os ↔
        ∀ i, listed.lookup i = (listInterfaces h.os).lookup i ∨
          Reaches (listed.lookup i) (eventsOf sub steps i)) ∧
      ∀ update, .callback update ∈ sinceJoin sub steps → listed = listInterfaces update.interfaces →
        h.applied sub listed = listInterfaces h.os := by
  obtain ⟨hsent, ht, hm⟩ : h.Sent steps ∧ h.Tables ∧ h.Mirrored steps :=
    runSteps_invariant_of (P := fun as (v : Host ι) => v.Sent as ∧ v.Tables ∧ v.Mirrored as)
      ⟨sent_boot, tables_boot, mirrored_boot⟩
      (fun as b v v' hv hb hstep =>
        ⟨hv.1.step hstep, hv.2.1.step hb hstep, hv.2.2.step hv.2.1 hb hstep⟩) hcond hrun
  have happlied : h.applied sub listed =
      (eventsSinceJoin sub steps).foldl UpdateEvent.apply listed := by
    rw [Host.applied, hsent.opened sub hopen]
  have hlookup : ∀ i, (h.applied sub listed).lookup i =
      (eventsOf sub steps i).foldl UpdateEvent.effect (listed.lookup i) := by
    intro i
    rw [happlied]
    exact foldl_apply_getElem? sub listed i
  refine ⟨⟨fun hright i => ?_, fun hindex => ?_⟩, fun update hmem hlisted => ?_⟩
  · by_cases hreaches : Reaches (listed.lookup i) (eventsOf sub steps i)
    · exact .inr hreaches
    · have hindex := hlookup i
      rw [foldl_of_not_reaches hreaches, hright] at hindex
      exact .inl hindex.symm
  · apply ExtHashMap.ext_getElem?
    intro i
    refine (hlookup i).trans ?_
    by_cases hreaches : Reaches (listed.lookup i) (eventsOf sub steps i)
    · have hjoin : sinceJoin sub steps ≠ [] := by
        intro hjoin
        obtain ⟨event, hevent, -⟩ := hreaches
        rw [eventsOf, eventsSinceJoin_of_nil hjoin] at hevent
        cases hevent
      rw [hm.reached sub i _ hreaches, os_eq_reported hsent ht hjoin hpending,
        listInterfaces_getElem?]
    · rw [foldl_of_not_reaches hreaches]
      exact (hindex i).resolve_right hreaches
  · rw [happlied, hlisted, hm.rebuilt sub update hmem,
      os_eq_reported hsent ht (List.ne_nil_of_mem hmem) hpending]

/-- The watcher reports that there is nothing. -/
def nothingUp : Update where
  interfaces := ∅
  diff := ⟨[], [], [], List.nodup_nil⟩

lemma nothingUp_exact : nothingUp.Exact ∅ where
  added i := by simp [nothingUp]
  removed i := by simp [nothingUp]
  modified i := by simp [nothingUp]
  added_nodup := List.nodup_nil
  removed_nodup := List.nodup_nil

/-- A client lists a tunnel, a cable and the loopback, which come and go between two reports. -/
def missedTunnel : List (HostStep ℕ) :=
  [.ensureStarted 0 true, .push 0, .callback nothingUp, .change switched.interfaces, .list 0,
    .change ∅, .skip, .callback nothingUp]

/-- They stay in its mirror. A client that has listed what is reported first is right. -/
theorem mirror_right_iff_missedTunnel :
    ∃ h, Host.run missedTunnel = some h ∧
      h.mirror 0 = some (listInterfaces switched.interfaces) ∧
      h.applied 0 (listInterfaces switched.interfaces) ≠ listInterfaces h.os ∧
      h.applied 0 (listInterfaces ∅) = listInterfaces h.os := by
  obtain ⟨h, hrun, hlisted, hos, hpending, hchannels⟩ : ∃ h, Host.run missedTunnel = some h ∧
      h.mirror 0 = some (listInterfaces switched.interfaces) ∧ h.os = ∅ ∧ h.pending = [] ∧
      h.channels 0 = ⟨[], false⟩ := ⟨_, rfl, rfl, rfl, rfl, rfl⟩
  have hkeyed : Keyed (∅ : Table) := by
    intro i iface hiface
    rw [ExtHashMap.getElem?_empty] at hiface
    cases hiface
  have hcond : EachStep Host.step Documented missedTunnel Host.boot := by
    apply EachStep.cons rfl trivial
    apply EachStep.cons rfl trivial
    apply EachStep.cons rfl ⟨rfl, nothingUp_exact⟩
    apply EachStep.cons rfl switched_keyed
    apply EachStep.cons rfl trivial
    apply EachStep.cons rfl hkeyed
    apply EachStep.cons rfl trivial
    exact EachStep.cons rfl ⟨rfl, nothingUp_exact⟩ trivial
  have hopen : (h.channels 0).closed = false := by rw [hchannels]
  refine ⟨h, hrun, hlisted, fun hright => ?_, ?_⟩
  · rcases (mirror_right_iff hrun hcond hopen hpending _).1.mp hright 7 with htunnel | hreaches
    · rw [hos] at htunnel
      simp [IfaceMap.lookup, listInterfaces_getElem?, switched] at htunnel
    · obtain ⟨event, hevent, -⟩ := hreaches
      cases hevent
  · exact (mirror_right_iff hrun hcond hopen hpending _).2 nothingUp
      (List.mem_cons_of_mem _ List.mem_cons_self) rfl

end

end Pingling.Shared
