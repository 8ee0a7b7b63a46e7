import LimnoPulse.Alerts.Provenance

/-!
# One active incident per rule

The event row of an incident and the state row of its rule are written by two
programs through four transactions.  Each of them keeps every incident, ends the
active incident of one rule, or opens one for a rule that has none.

Main results:

- Theorem `Transaction.Justified.incidentStep`: every justified transaction does so.
- Theorem `IncidentStep.incidents`: such steps keep events and states in agreement.
- Theorem `oneActiveIncident_of_run`: after every run, each rule has at
  most one unresolved event, and it has one exactly when its state says so.
-/

namespace LimnoPulse.Alerts

open CivilTime StoreProgram Evaluator
open Function (update update_of_ne update_self)

variable {s t : Store} {key : RuleKey}

/-- The row stays, or its revision grows with the same incident. -/
def StateKept (old new : Option StateRow) : Prop :=
  new = old ∨ ∃ row, new = some row ∧
    row.state.incident = old.bind (fun previous => previous.state.incident) ∧
    ∀ previous, old = some previous → previous.stateRevision < row.stateRevision

/-- The row stays, or becomes another one of the same incident, as unresolved. -/
def EventKept (old new : Option EventRow) : Prop :=
  new = old ∨ ∃ previous row, old = some previous ∧ new = some row ∧ row.SameIncident previous ∧
    row.status.unresolved = previous.status.unresolved

/-- What a transaction can do to the incidents. -/
inductive IncidentStep (s t : Store) : Prop where
  | kept (hstates : ∀ key, StateKept (s.states key) (t.states key))
      (hevents : ∀ key, EventKept (s.events key) (t.events key))
  | ended (key : RuleKey) (old new : StateRow) (eventId : EventId) (event resolved : EventRow)
      (hstate : s.states key = some old) (hincident : old.state.incident = some eventId)
      (hnone : new.state.incident = none) (hrevision : old.stateRevision < new.stateRevision)
      (hevent : s.events ⟨key.tenantId, eventId⟩ = some event)
      (hsame : resolved.SameIncident event) (hresolved : resolved.status = .resolved)
      (hstates : t.states = update s.states key (some new))
      (hevents : t.events = update s.events ⟨key.tenantId, eventId⟩ (some resolved))
  | opened (key : RuleKey) (new : StateRow) (event : EventRow)
      (hkey : key = ⟨event.tenantId, event.ruleId⟩) (hnone : s.incident key = none)
      (hincident : new.state.incident = some event.eventId)
      (hrevision : ∀ old, s.states key = some old → old.stateRevision < new.stateRevision)
      (habsent : s.events ⟨event.tenantId, event.eventId⟩ = none)
      (hunresolved : event.status.unresolved = true)
      (hrule : ∃ row, s.rule key = some row ∧
        event.evaluationRevision = row.rule.evaluationRevision)
      (hstates : t.states = update s.states key (some new))
      (hevents : t.events = update s.events ⟨event.tenantId, event.eventId⟩ (some event))

/-- The incident stays. -/
theorem StateKept.incident (h : StateKept (s.states key) (t.states key)) :
    t.incident key = s.incident key := by
  unfold Store.incident
  rcases h with heq | ⟨row, hrow, hinc, -⟩
  · rw [heq]
  · rw [hrow, Option.bind_some, hinc]

/-- Only its state matters. -/
theorem Store.incident_congr (h : t.states key = s.states key) :
    t.incident key = s.incident key := by
  unfold Store.incident
  rw [h]

/-- The incident after a state row was written. -/
theorem Store.incident_update {new : StateRow}
    (h : t.states = update s.states key (some new)) (other : RuleKey) :
    t.incident other = if other = key then new.state.incident else s.incident other := by
  by_cases hkey : other = key
  · subst hkey
    simp [Store.incident, h]
  · rw [if_neg hkey]
    exact Store.incident_congr (by rw [h, update_of_ne hkey])

/-- An event is the incident of one rule. -/
theorem Incidents.eq_of_incident (hs : Incidents s) {other : RuleKey} {eventId : EventId}
    (h : s.incident key = some eventId) (hother : s.incident other = some eventId)
    (htenant : other.tenantId = key.tenantId) : other = key := by
  obtain ⟨row, hrow, hrule, -⟩ := hs.unresolved key eventId h
  obtain ⟨row', hrow', hrule', -⟩ := hs.unresolved other eventId hother
  rw [htenant, hrow] at hrow'
  cases hrow'
  cases other
  cases key
  simp_all

/-- Kept rows agree. -/
theorem Incidents.kept (hs : Incidents s) (hstates : ∀ key, StateKept (s.states key) (t.states key))
    (hevents : ∀ key, EventKept (s.events key) (t.events key)) : Incidents t := by
  refine ⟨?_, ?_, ?_⟩
  · intro key row hrow
    rcases hevents key with heq | ⟨previous, new, hprev, hnew, hsame, -⟩
    · exact hs.keyed key row (heq ▸ hrow)
    · rw [hnew] at hrow
      cases hrow
      rw [hsame.2.1, hsame.1]
      exact hs.keyed key previous hprev
  · intro key row hrow hunres
    rw [(hstates _).incident]
    rcases hevents key with heq | ⟨previous, new, hprev, hnew, hsame, hstat⟩
    · exact hs.active key row (heq ▸ hrow) hunres
    · rw [hnew] at hrow
      cases hrow
      rw [hstat] at hunres
      rw [hsame.1, hsame.2.1, hsame.2.2.1]
      exact hs.active key previous hprev hunres
  · intro key eventId hinc
    rw [(hstates key).incident] at hinc
    obtain ⟨row, hrow, hrule, hunres⟩ := hs.unresolved key eventId hinc
    rcases hevents ⟨key.tenantId, eventId⟩ with heq | ⟨previous, new, hprev, hnew, hsame, hstat⟩
    · exact ⟨row, heq.trans hrow, hrule, hunres⟩
    · rw [hrow] at hprev
      cases hprev
      exact ⟨new, hnew, hsame.2.2.1.trans hrule, hstat.trans hunres⟩

section Updates

variable {new : StateRow} (hstates : t.states = update s.states key (some new))
include hstates

/-- An incident ends. -/
theorem Incidents.ended (hs : Incidents s) {eventId : EventId} {event resolved : EventRow}
    (hinc : s.incident key = some eventId) (hnone : new.state.incident = none)
    (hevent : s.events ⟨key.tenantId, eventId⟩ = some event)
    (hsame : resolved.SameIncident event) (hresolved : resolved.status = .resolved)
    (hevents : t.events = update s.events ⟨key.tenantId, eventId⟩ (some resolved)) :
    Incidents t := by
  refine ⟨?_, ?_, ?_⟩
  · intro other row hrow
    obtain ⟨rfl, rfl⟩ | ⟨hother, hrow⟩ := eq_some_of_update hevents hrow
    · rw [hsame.2.1, hsame.1]
      exact hs.keyed _ event hevent
    · exact hs.keyed other row hrow
  · intro other row hrow hunres
    obtain ⟨rfl, rfl⟩ | ⟨hother, hrow⟩ := eq_some_of_update hevents hrow
    · simp [hresolved, EventStatus.unresolved] at hunres
    · have hact := hs.active other row hrow hunres
      rw [Store.incident_update hstates, if_neg]
      · exact hact
      · -- The other event would be the incident that ended.
        intro hkey
        rw [hkey, hinc] at hact
        have hkeyed := hs.keyed other row hrow
        rw [← Option.some.inj hact] at hkeyed
        rw [← hkey] at hother
        exact hother hkeyed
  · intro other otherId hact
    rw [Store.incident_update hstates] at hact
    split at hact
    next => rw [hnone] at hact; cases hact
    next hkey =>
      obtain ⟨row, hrow, hrule, hunres⟩ := hs.unresolved other otherId hact
      refine ⟨row, ?_, hrule, hunres⟩
      rw [hevents, update_of_ne, hrow]
      intro hsameKey
      obtain ⟨htenant, rfl⟩ := EventKey.mk.inj hsameKey
      exact hkey (hs.eq_of_incident hinc hact htenant)

/-- An incident opens. -/
theorem Incidents.opened (hs : Incidents s) {event : EventRow}
    (hkey : key = ⟨event.tenantId, event.ruleId⟩) (hnone : s.incident key = none)
    (hinc : new.state.incident = some event.eventId)
    (habsent : s.events ⟨event.tenantId, event.eventId⟩ = none)
    (hunres : event.status.unresolved = true)
    (hevents : t.events =
      update s.events ⟨event.tenantId, event.eventId⟩ (some event)) : Incidents t := by
  refine ⟨?_, ?_, ?_⟩
  · intro other row hrow
    obtain ⟨rfl, rfl⟩ | ⟨hother, hrow⟩ := eq_some_of_update hevents hrow
    · rfl
    · exact hs.keyed other row hrow
  · intro other row hrow hrowUnresolved
    rw [Store.incident_update hstates]
    obtain ⟨rfl, rfl⟩ | ⟨hother, hrow⟩ := eq_some_of_update hevents hrow
    · rw [if_pos hkey.symm, hinc]
    · have hact := hs.active other row hrow hrowUnresolved
      split
      next hsameKey => rw [hsameKey, hnone] at hact; cases hact
      next => exact hact
  · intro other otherId hact
    rw [Store.incident_update hstates] at hact
    split at hact
    next hsameKey =>
      rw [hinc] at hact
      cases hact
      refine ⟨event, ?_, ?_, hunres⟩
      · rw [hsameKey, hkey, hevents, update_self]
      · rw [hsameKey, hkey]
    next =>
      obtain ⟨row, hrow, hrule, hrowUnresolved⟩ := hs.unresolved other otherId hact
      exact ⟨row, update_eq_some_of_fresh hevents habsent hrow, hrule, hrowUnresolved⟩

end Updates

/-- A step keeps the agreement. -/
theorem IncidentStep.incidents (hs : Incidents s) (hstep : IncidentStep s t) : Incidents t := by
  cases hstep with
  | kept hstates hevents => exact hs.kept hstates hevents
  | ended key old new eventId event resolved hstate hinc hnone _ hevent hsame hresolved hstates
      hevents =>
    have hbefore : s.incident key = some eventId := by
      rw [Store.incident, hstate]
      exact hinc
    exact hs.ended hstates hbefore hnone hevent hsame hresolved hevents
  | opened key new event hkey hnone hinc _ habsent hunres _ hstates hevents =>
    exact hs.opened hstates hkey hnone hinc habsent hunres hevents

/-- A step moves on. -/
theorem Later.of_incidentStep (hrules : ∀ key row, row ∈ s.rules key → row ∈ t.rules key)
    (hstep : IncidentStep s t) : Later s t := by
  have hsame : ∀ key row, s.states key = some row → t.states key = s.states key →
      ∃ new, t.states key = some new ∧ (new = row ∨ row.stateRevision < new.stateRevision) :=
    fun _ row hrow heq => ⟨row, heq.trans hrow, .inl rfl⟩
  have hsameEvent : ∀ key row, s.events key = some row → t.events key = s.events key →
      ∃ new, t.events key = some new ∧ new.SameIncident row ∧
        (row.status = .resolved → new.status = .resolved) :=
    fun _ row hrow heq => ⟨row, heq.trans hrow, .refl row, id⟩
  refine ⟨hrules, ?_, ?_⟩
  · intro key row hrow
    cases hstep with
    | kept hstates =>
      rcases hstates key with heq | ⟨new, hnew, -, hrev⟩
      · exact hsame key row hrow heq
      · exact ⟨new, hnew, .inr (hrev row hrow)⟩
    | ended changed old new _ _ _ hstate _ _ hrev _ _ _ hstates =>
      by_cases hkey : key = changed
      · subst hkey
        rw [hstate] at hrow
        cases hrow
        exact ⟨new, by rw [hstates, update_self], .inr hrev⟩
      · exact hsame key row hrow (by rw [hstates, update_of_ne hkey])
    | opened changed new _ _ _ _ hrev _ _ _ hstates =>
      by_cases hkey : key = changed
      · subst hkey
        exact ⟨new, by rw [hstates, update_self], .inr (hrev row hrow)⟩
      · exact hsame key row hrow (by rw [hstates, update_of_ne hkey])
  · intro key row hrow
    cases hstep with
    | kept _ hevents =>
      rcases hevents key with heq | ⟨previous, new, hprev, hnew, hinc, hstat⟩
      · exact hsameEvent key row hrow heq
      · rw [hrow] at hprev
        cases hprev
        refine ⟨new, hnew, hinc, fun hresolved => ?_⟩
        apply EventStatus.eq_resolved_of_not_unresolved
        rw [hstat, hresolved]
        simp [EventStatus.unresolved]
    | ended changed _ _ eventId event resolved _ _ _ _ hevent hinc hresolved _ hevents =>
      by_cases hkey : key = ⟨changed.tenantId, eventId⟩
      · subst hkey
        rw [hevent] at hrow
        cases hrow
        exact ⟨resolved, by rw [hevents, update_self], hinc, fun _ => hresolved⟩
      · exact hsameEvent key row hrow (by rw [hevents, update_of_ne hkey])
    | opened _ _ event _ _ _ _ habsent _ _ _ hevents =>
      by_cases hkey : key = ⟨event.tenantId, event.eventId⟩
      · subst hkey
        rw [habsent] at hrow
        cases hrow
      · exact hsameEvent key row hrow (by rw [hevents, update_of_ne hkey])

/-- A committed transaction only adds values to rule rows. -/
theorem Transaction.write_rules_grow {transaction : Transaction}
    (h : transaction.write s = some t) :
    ∀ key row, row ∈ s.rules key → row ∈ t.rules key := by
  intro key row hrow
  cases transaction with
  | createRule =>
    obtain ⟨-, rfl⟩ := createRule_write_rules h
    exact Store.mem_putRule_rules hrow
  | updateRule =>
    obtain ⟨_, -, -, -, hrules⟩ := UpdateRule.write_rules h
    rw [hrules]
    exact Store.mem_putRule_rules hrow
  | replaceRule =>
    obtain ⟨_, -, -, -, -, hrules⟩ := ReplaceRule.write_rules h
    rw [hrules]
    exact Store.mem_putRule_rules (Store.mem_putRule_rules hrow)
  | acknowledgeEvent request | resolveEvent request stateOperation =>
    rw [Transaction.write_rules_eq h (by simp)]
    exact hrow
  | commit =>
    obtain ⟨_, -, -, -, -, -, hrules⟩ := CommitRequest.write_rules h
    rw [hrules]
    exact Store.mem_putRule_rules hrow

/-! ## Every justified transaction is an incident step -/

/-- No state and no event changes. -/
theorem IncidentStep.refl_of (hstates : t.states = s.states) (hevents : t.events = s.events) :
    IncidentStep s t :=
  .kept (fun _ => .inl (by rw [hstates])) fun _ => .inl (by rw [hevents])

/-- Writing one state row without changing the incident. -/
theorem stateKept_update {changed : RuleKey} {new : StateRow}
    (hinc : new.state.incident = s.incident changed)
    (hrev : ∀ old, s.states changed = some old → old.stateRevision < new.stateRevision)
    (hstates : t.states = update s.states changed (some new)) (key : RuleKey) :
    StateKept (s.states key) (t.states key) := by
  by_cases hkey : key = changed
  · subst hkey
    exact .inr ⟨new, by rw [hstates, update_self], hinc, hrev⟩
  · exact .inl (by rw [hstates, update_of_ne hkey])

/-- An event row written with the same incident. -/
theorem eventKept_update {changed : EventKey} {event new : EventRow}
    (hevent : s.events changed = some event) (hsame : new.SameIncident event)
    (hstat : new.status.unresolved = event.status.unresolved)
    (hevents : t.events = update s.events changed (some new)) (key : EventKey) :
    EventKept (s.events key) (t.events key) := by
  by_cases hkey : key = changed
  · subst hkey
    exact .inr ⟨event, new, hevent, by rw [hevents, update_self], hsame, hstat⟩
  · exact .inl (by rw [hevents, update_of_ne hkey])

/-- A change of meaning ends one. -/
theorem IncidentEnd.incidentStep {revision : Nat} {stateItem : Option StateRow}
    (h : IncidentEnd key revision stateItem s t)
    (hseen : ∀ item, stateItem = some item → SeenState s key item) : IncidentStep s t := by
  cases h with
  | absent _ _ hstates hevents
  | idle _ _ _ _ _ _ _ hstates hevents => exact .refl_of hstates hevents
  | reset item old new hitem hpend hstate hrev hmode hnext hstates hevents =>
    have hold : old = item := (hseen item hitem).eq_of_revision hstate hrev
    subst hold
    refine .kept (stateKept_update ?_ ?_ hstates) fun _ => .inl (by rw [hevents])
    · rw [State.incident_of_not_active (by simp [hmode]), Store.incident, hstate, Option.bind_some,
        State.incident_of_not_active (by simp [hpend])]
    · intro other hother
      rw [hstate] at hother
      cases hother
      omega
  | resolved item old new eventId event ended hitem hact hinc hstate hrev hmode hnext
      hevent _ _ hsame hended hstates hevents =>
      have hold : old = item := (hseen item hitem).eq_of_revision hstate hrev
      subst hold
      exact .ended key old new eventId event ended hstate
        (State.incident_eq_some.mpr ⟨hact, hinc⟩)
        (State.incident_of_not_active (by simp [hmode])) (by omega) hevent hsame hended hstates hevents

/-- A resolution ends the incident; without a state write it fails. -/
theorem EventChange.resolve_incidentStep {request : EventChange}
    {stateOperation : Option (StateRow × Nat)} (hs : Incidents s)
    (hjust : (Transaction.resolveEvent request stateOperation).Justified s)
    (h : (Transaction.resolveEvent request stateOperation).write s = some t) :
    IncidentStep s t := by
  obtain ⟨event, new, hevent, hunres, hsame, hresolved, -, hevents, hstateWrite⟩ := resolve_write h
  obtain ⟨⟨row, hrow, hrowSame⟩, hoperation⟩ := hjust
  rw [hevent] at hrow
  cases hrow
  cases stateOperation with
  | none =>
    obtain ⟨stored, hstored, hstat⟩ := hoperation
    rw [hevent] at hstored
    cases hstored
    simp [hstat, EventStatus.unresolved] at hunres
  | some operation =>
    obtain ⟨resolved, revision⟩ := operation
    obtain ⟨item, hseen, hitem, rfl⟩ := hoperation
    obtain ⟨⟨old, hold, hrev⟩, hstates⟩ := hstateWrite
    obtain ⟨hact, hinc, hmode, hnext⟩ := resolvedEvaluatorState_eq_some hitem
    have heq : old = item := hseen.eq_of_revision hold hrev
    subst heq
    -- The stored event lies under the key made of the request's own event.
    have hkey : request.key = ⟨request.event.tenantId, request.event.eventId⟩ := by
      rw [hs.keyed _ _ hevent, hrowSame.1, hrowSame.2.1]
    rw [hkey] at hevent hevents
    exact .ended ⟨request.event.tenantId, request.event.ruleId⟩ old resolved
      request.event.eventId event new hold (State.incident_eq_some.mpr ⟨hact, hinc⟩)
      (State.incident_of_not_active (by simp [hmode])) (by omega) hevent hsame hresolved hstates
      hevents

namespace CommitRequest

variable {request : CommitRequest}

section

variable (hcomp : request.Computed s)
include hcomp

/-- A commit finds the state it was decided from. -/
theorem Computed.found (h : (Transaction.commit request).write s = some t) :
    (s.states request.stateKey = none ∧ request.previousState = {}) ∨
      ∃ old, s.states request.stateKey = some old ∧
        request.previousState = ⟨old.state, old.stateRevision⟩ := by
  obtain ⟨arguments, item, hreq, hseen⟩ := hcomp.computed
  have hprev : request.previousState = versionedState item := by
    rw [hreq]
    rfl
  obtain ⟨hfound, -⟩ := write_states h
  cases item with
  | none =>
    rcases hfound with ⟨-, hnone⟩ | ⟨old, hpositive, -⟩
    · exact .inl ⟨hnone, hprev⟩
    · rw [hprev] at hpositive
      exact absurd rfl hpositive
  | some row =>
    rcases hfound with ⟨-, hnone⟩ | ⟨old, -, hold, hrev⟩
    · -- A state that was loaded is still stored.
      obtain ⟨stored, hstored, -⟩ := hseen row rfl
      rw [hnone] at hstored
      cases hstored
    · have hrow : old = row := by
        apply (hseen row rfl).eq_of_revision hold
        rw [hrev, hprev]
        rfl
      exact .inr ⟨old, hold, hprev.trans (hrow ▸ rfl)⟩

/-- It finds that incident with a smaller revision. -/
theorem Computed.previous (h : (Transaction.commit request).write s = some t) :
    s.incident request.stateKey = request.previousState.state.incident ∧
      ∀ old, s.states request.stateKey = some old →
        old.stateRevision < request.nextStateRow.stateRevision := by
  rcases hcomp.found h with ⟨hnone, hprev⟩ | ⟨old, hold, hprev⟩
  · refine ⟨?_, by simp [hnone]⟩
    rw [Store.incident, hnone, hprev]
    rfl
  · refine ⟨?_, ?_⟩
    · rw [Store.incident, hold, hprev]
      rfl
    · intro other hother
      rw [hold] at hother
      cases hother
      show old.stateRevision < request.previousState.revision + 1
      rw [hprev]
      exact Nat.lt_succ_self _

/-- The decision that a commit writes. -/
theorem Computed.decides :
    (evaluatorRule request.work.rule).Decides request.previousState.state request.slot
      request.decision := by
  obtain ⟨arguments, item, hreq, -⟩ := hcomp.computed
  have hdecides := (evaluatorRule request.work.rule).decide_decides (versionedState item).state
    (evaluationOf request.work arguments.slot arguments.window) (evaluationCadence * second)
  have hslot : (evaluationOf request.work arguments.slot arguments.window).slot = arguments.slot := by
    unfold evaluationOf
    cases arguments.window <;> simp
  rw [hslot] at hdecides
  rw [hreq]
  exact hdecides

/-- What was decided about the incident. -/
theorem Computed.decided :
    (request.decision.transition = .none ∧
      request.decision.next.incident = request.previousState.state.incident) ∨
    (request.decision.transition = .recovered ∧ request.decision.next.incident = none ∧
      ∀ eventId, request.decision.resolvedEventId = some eventId →
        request.previousState.state.incident = some eventId) ∨
    (request.previousState.state.incident = none ∧
      request.decision.next.incident = request.decision.eventId ∧
      (request.decision.transition = .opened ∨ request.decision.transition = .suppressed) ∧
      ∀ status, request.decision.next.activeStatus = some status → status.unresolved = true) := by
  obtain ⟨arguments, item, hreq, -⟩ := hcomp.computed
  have hdecis : request.decision = (evaluatorRule request.work.rule).decide
      request.previousState.state (evaluationOf request.work arguments.slot arguments.window)
      (evaluationCadence * second) := by
    rw [hreq]
    rfl
  have hcases := (evaluatorRule request.work.rule).decide_cases request.previousState.state
    (evaluationOf request.work arguments.slot arguments.window) (evaluationCadence * second)
  rw [← hdecis] at hcases
  rcases hcases with ⟨htrans, hid, hmode, -, -⟩ | ⟨htrans, hact, hresolved, -, hmode, -⟩ |
      ⟨hidle, hmode, hid, heventId, -, hstat⟩
  · refine .inl ⟨htrans, ?_⟩
    simp only [State.incident, hid, hmode]
  · refine .inr (.inl ⟨htrans, State.incident_of_not_active (by simp [hmode]), ?_⟩)
    intro eventId hevent
    exact State.incident_eq_some.mpr ⟨hact, hresolved ▸ hevent⟩
  · refine .inr (.inr ⟨State.incident_of_not_active hidle, ?_, ?_, ?_⟩)
    · rw [State.incident, if_pos hmode, hid, heventId]
    · rcases hstat with ⟨hopened, -⟩ | ⟨hsupp, -⟩
      · exact .inl hopened
      · exact .inr hsupp
    · intro status hact
      rcases hstat with ⟨-, hopened⟩ | ⟨-, hsupp⟩
      · rw [hopened] at hact
        cases hact
        rfl
      · rw [hsupp] at hact
        cases hact
        rfl

/-- A commit is a step. -/
theorem incidentStep (h : (Transaction.commit request).write s = some t) : IncidentStep s t := by
  obtain ⟨hprev, hrev⟩ := hcomp.previous h
  have hdecided := hcomp.decided
  obtain ⟨-, hstates⟩ := write_states h
  cases write_events h with
  | unchanged htrans _ hevents =>
    have hkept : request.decision.next.incident = request.previousState.state.incident := by
      simpa [htrans] using hdecided
    exact .kept (stateKept_update (hkept.trans hprev.symm) hrev hstates)
      fun _ => .inl (by rw [hevents])
  | refreshed eventId event new htrans _ _ hevent hsame hstat hevents =>
    have hkept : request.decision.next.incident = request.previousState.state.incident := by
      simpa [htrans] using hdecided
    exact .kept (stateKept_update (hkept.trans hprev.symm) hrev hstates)
      (eventKept_update hevent hsame (by rw [hstat]) hevents)
  | recovered eventId event new htrans hid hevent _ hsame hresolved hevents =>
    simp only [htrans, reduceCtorEq, false_and, true_and, or_self, and_false, or_false,
      false_or] at hdecided
    obtain ⟨hnone, hinc⟩ := hdecided
    rw [hinc eventId hid] at hprev
    obtain ⟨old, hold, hact⟩ := Option.bind_eq_some_iff.mp hprev
    exact .ended request.stateKey old request.nextStateRow eventId event new hold hact hnone
      (hrev old hold) hevent hsame hresolved hstates hevents
  | opened eventId status value htrans hid hstat habsent hevents =>
    have hopening : request.previousState.state.incident = none ∧
        request.decision.next.incident = request.decision.eventId ∧
        ∀ status, request.decision.next.activeStatus = some status → status.unresolved = true := by
      rcases hdecided with ⟨hnone, -⟩ | ⟨hrecovered, -⟩ | ⟨hidle, hnew, -, hunres⟩
      · simp [hnone] at htrans
      · simp [hrecovered] at htrans
      · exact ⟨hidle, hnew, hunres⟩
    obtain ⟨hidle, hnew, hunres⟩ := hopening
    have htenant : request.work.key.tenantId = request.work.rule.tenantId := by
      rw [← hcomp.key]
      rfl
    have hkey : request.stateKey = ⟨request.work.rule.tenantId, request.work.rule.ruleId⟩ := by
      rw [stateKey, htenant]
    have heventKey : request.eventKey eventId = ⟨request.work.rule.tenantId, eventId⟩ := by
      rw [eventKey, htenant]
    rw [heventKey] at habsent hevents
    obtain ⟨row, hrow, -, hruleRevision, -⟩ := write_rules h
    have hrule : s.rule request.stateKey = some row := by
      rw [← hcomp.key] at hrow
      rw [hkey]
      exact hrow
    exact .opened request.stateKey request.nextStateRow (request.eventRow eventId status value) hkey
      (hprev.trans hidle) (hnew.trans hid) hrev habsent (hunres status hstat)
      ⟨row, hrule, hruleRevision.symm⟩ hstates hevents

end

end CommitRequest

/-- Justified transactions are incident steps. -/
theorem Transaction.Justified.incidentStep {transaction : Transaction} (hs : Incidents s)
    (hjust : transaction.Justified s) (h : transaction.write s = some t) :
    IncidentStep s t := by
  cases transaction with
  | createRule =>
    obtain ⟨-, rfl⟩ := createRule_write_rules h
    exact .refl_of rfl rfl
  | updateRule =>
    have hinc := UpdateRule.write_incident h
    split at hinc
    · exact hinc.incidentStep hjust.2
    · exact .refl_of hinc.1 hinc.2
  | replaceRule => exact (ReplaceRule.write_incident h).incidentStep hjust.2
  | acknowledgeEvent =>
    obtain ⟨event, new, hevent, hopened, hsame, hack, hstates, hevents, -⟩ :=
      EventChange.acknowledge_write h
    refine .kept (fun _ => .inl (by rw [hstates])) (eventKept_update hevent hsame ?_ hevents)
    rw [hopened, hack]
    rfl
  | resolveEvent => exact EventChange.resolve_incidentStep hs hjust h
  | commit => exact CommitRequest.incidentStep hjust h

/-- Justified operations keep events and states in agreement. -/
theorem exec_incidents {op : Op} {choice : Choice} {reply : Reply op} (hs : Incidents s)
    (hjust : op.Justified s) (h : exec op choice s = some (reply, t)) :
    Incidents t ∧ Later s t := by
  rcases exec_cases h with ⟨rfl, -⟩ | ⟨key, lease, rfl, hclaim⟩ | ⟨transaction, rfl, -, hwrite⟩
  · exact ⟨hs, Later.refl t⟩
  · obtain ⟨row, -, -, rfl⟩ := claimLease_eq_some hclaim
    have hstep : IncidentStep s (s.putRule (row.lease lease)) := .refl_of rfl rfl
    exact ⟨hstep.incidents hs,
      Later.of_incidentStep (fun _ _ hrow => Store.mem_putRule_rules hrow) hstep⟩
  · have hstep := Transaction.Justified.incidentStep hs (hjust transaction rfl) hwrite
    exact ⟨hstep.incidents hs, Later.of_incidentStep (Transaction.write_rules_grow hwrite) hstep⟩

/-! ## Runs -/

/-- The event row is an unresolved event of the rule. -/
def EventRow.UnresolvedOf (row : EventRow) (key : RuleKey) : Prop :=
  row.tenantId = key.tenantId ∧ row.ruleId = key.ruleId ∧ row.status.unresolved = true

/-- A rule has at most one unresolved event, its active one. -/
def OneActiveIncident (s : Store) : Prop :=
  ∀ key : RuleKey,
    (∀ first second row row', s.events first = some row → s.events second = some row' →
      row.UnresolvedOf key → row'.UnresolvedOf key → first = second) ∧
    ∀ eventId, (∃ eventKey row, s.events eventKey = some row ∧ row.eventId = eventId ∧
        row.UnresolvedOf key) ↔
      ∃ state, s.states key = some state ∧ state.state.mode = .active ∧
        state.state.activeEventId = some eventId

/-- Agreement leaves one incident. -/
theorem Incidents.oneActiveIncident (hs : Incidents s) : OneActiveIncident s := by
  have hinc : ∀ key eventKey row, s.events eventKey = some row → row.UnresolvedOf key →
      s.incident key = some row.eventId := by
    rintro key eventKey row hrow ⟨htenant, hrule, hunres⟩
    have hact := hs.active eventKey row hrow hunres
    rwa [htenant, hrule] at hact
  intro key
  refine ⟨?_, ?_⟩
  · intro first second row row' hrow hrow' hof hof'
    have hfirst := hinc key first row hrow hof
    rw [hinc key second row' hrow' hof'] at hfirst
    rw [hs.keyed first row hrow, hs.keyed second row' hrow', hof.1, hof'.1, Option.some.inj hfirst]
  · intro eventId
    constructor
    · rintro ⟨eventKey, row, hrow, rfl, hof⟩
      obtain ⟨state, hstate, hact⟩ := Option.bind_eq_some_iff.mp (hinc key eventKey row hrow hof)
      exact ⟨state, hstate, State.incident_eq_some.mp hact⟩
    · rintro ⟨state, hstate, hact⟩
      have hstored : s.incident key = some eventId := by
        rw [Store.incident, hstate]
        exact State.incident_eq_some.mpr hact
      obtain ⟨row, hrow, hrule, hunres⟩ := hs.unresolved key eventId hstored
      have hkey := hs.keyed _ row hrow
      simp only [EventKey.mk.injEq] at hkey
      exact ⟨_, row, hrow, hkey.2.symm, hkey.1.symm, hrule, hunres⟩

/-- A store without events and states agrees. -/
theorem incidents_of_none (hevents : ∀ key, s.events key = none)
    (hstates : ∀ key, s.states key = none) : Incidents s where
  keyed := by simp [hevents]
  active := by simp [hevents]
  unresolved := by simp [Store.incident, hstates]

/-- From a store without events and states, every interleaving of evaluator runs and API calls
leaves each rule with at most one unresolved event, the active incident of its state. -/
theorem oneActiveIncident_of_run (s : Store) (hevents : ∀ key, s.events key = none)
    (hstates : ∀ key, s.states key = none) (schedule : List (Action Choice Call))
    (w : World Store Call Result Op Reply)
    (hrun : machine.run (Machine.initial s) schedule = some w) : OneActiveIncident w.store := by
  have hkept : KeptByJustified (fun _ _ _ => True) Incidents Later :=
    ⟨fun _ _ _ => Later.trans, fun _ _ => id,
      fun _ _ _ _ _ hs hjustified _ hexec => exec_incidents hs hjustified hexec⟩
  have hcontract := contract_of_kept hkept (fun _ h => h) Later.refl
  have hguarded := Machine.guarded_true (M := machine) schedule
    (Machine.initial s)
  exact (hcontract.run_initial (incidents_of_none hevents hstates) hguarded hrun).1.oneActiveIncident

namespace FirstIncident

/-- A rule that one breach confirms, due at the epoch. -/
def row : RuleRow :=
  { rule := { sampleRule with duration := ⟨1, .m, by decide⟩ }
    evaluationBucket := some 0
    nextEvaluationAt := some 0
    gsi1pk := some (evaluationPartition 0)
    gsi1sk := some (nanosecondText 0 ++ "#TENANT#t#RULE#r") }

/-- A breached evaluation at the epoch. -/
def evaluation : Call :=
  .processCandidate
    { key := ⟨"t", "r"⟩
      lease := ⟨"worker", 0, minute, 0⟩
      slot := 0
      window := some (.sufficient, some 31)
      telegramDeliveryEnabled := false }

/-- The evaluation alone. -/
def schedule : List (Action Choice Call) :=
  [.start evaluation, .step 0 {}, .step 0 {}, .step 0 {}]

end FirstIncident

/-- The evaluation that opens the first incident of a rule. -/
theorem oneActiveIncident_of_first_evaluation :
    ∃ w : World Store Call Result Op Reply,
      machine.run (Machine.initial (Store.empty.putRule FirstIncident.row)) FirstIncident.schedule =
          some w ∧
        w.store.incident ⟨"t", "r"⟩ = some ⟨"t", "r", 1, 1, 0⟩ ∧ OneActiveIncident w.store :=
  ⟨_, rfl, rfl, oneActiveIncident_of_run (Store.empty.putRule FirstIncident.row) (fun _ => rfl)
    (fun _ => rfl) FirstIncident.schedule _ rfl⟩

end LimnoPulse.Alerts
