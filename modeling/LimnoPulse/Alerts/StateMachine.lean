import LimnoPulse.Alerts.Rule

/-!
# The incident state machine of the evaluator

One evaluation of a rule moves its incident state; `Rule.decide` is the pure
decision.  Event and outbox identifiers are digests of their content in the source
and are modelled by that content.

Main results:

- Theorem `Rule.decide_cases`: every decision keeps the incident, resolves
  the active one, or opens a new one, with the complete shape of each outcome.
-/

namespace LimnoPulse.Alerts.Evaluator

open CivilTime

/-- How good the data are. -/
inductive Quality where
  | sufficient
  | insufficientData
  | staleData
  | queryError
deriving DecidableEq

/-- The incident mode; `unset` was never stored. -/
inductive Mode where
  | unset
  | healthy
  | pending
  | active
deriving DecidableEq

/-- The status of an incident. -/
inductive EventStatus where
  | opened
  | acknowledged
  | suppressed
  | resolved
deriving DecidableEq

/-- An event that still counts as an incident. -/
def EventStatus.unresolved : EventStatus → Bool
  | .opened | .acknowledged | .suppressed => true
  | .resolved => false

/-- What a decision does to an incident. -/
inductive Transition where
  | none
  | opened
  | suppressed
  | recovered
deriving DecidableEq

/-- What a notification is about. -/
inductive OutboxKind where
  | opening
  | recovery
deriving DecidableEq

/-- Whether a notification can be sent. -/
inductive OutboxStatus where
  | ready
  | blocked
deriving DecidableEq

/-- The identifier of an incident. -/
structure EventId where
  (tenantId ruleId : String)
  (version evaluationRevision : Nat)
  slot : Instant
deriving DecidableEq

/-- The identifier of an outbox row. -/
structure OutboxId where
  eventId : EventId
  channel : AlertChannel
  kind : OutboxKind
deriving DecidableEq

/-- The opening outbox of each channel that has one. -/
structure OpeningOutboxes where
  email : Option OutboxId := none
  telegram : Option OutboxId := none
deriving DecidableEq

/-- Note an opening outbox. -/
def OpeningOutboxes.set (outboxes : OpeningOutboxes) (channel : AlertChannel) (id : OutboxId) :
    OpeningOutboxes :=
  match channel with
  | .email => { outboxes with email := some id }
  | .telegram => { outboxes with telegram := some id }

/-- The entries in the order of their channel names. -/
def OpeningOutboxes.sorted (outboxes : OpeningOutboxes) : List (AlertChannel × OutboxId) :=
  outboxes.email.toList.map (fun id => (AlertChannel.email, id))
    ++ outboxes.telegram.toList.map (fun id => (AlertChannel.telegram, id))

/-- The part of a rule the state machine reads. -/
structure Rule where
  (tenantId ruleId : String)
  (version evaluationRevision : Nat)
  (duration cooldown : Int)
  channels : List AlertChannel
deriving DecidableEq

/-- What was found in a window. -/
structure Evaluation where
  slot : Instant
  quality : Quality
  breached : Bool
  value : Option Rat
  missedSlots : Nat
deriving DecidableEq

/-- The data are sufficient. -/
def Evaluation.isDeterminate (evaluation : Evaluation) : Bool :=
  evaluation.quality = .sufficient && evaluation.value.isSome

/-- Make quality, value and breach agree. -/
def Evaluation.normalized (evaluation : Evaluation) : Evaluation :=
  if evaluation.isDeterminate then evaluation
  else
    { evaluation with
      quality := if evaluation.quality = .sufficient then .insufficientData else evaluation.quality
      value := none
      breached := false }

/-- The incident state; zero times and empty ids are absent. -/
structure State where
  mode : Mode := .unset
  confirmedSlots : Nat := 0
  pendingSince : Option Instant := none
  lastBreachSlot : Option Instant := none
  lastEvaluatedSlot : Option Instant := none
  lastQuality : Option Quality := none
  lastValue : Option Rat := none
  activeEventId : Option EventId := none
  activeStatus : Option EventStatus := none
  activeOpenedAt : Option Instant := none
  openingOutboxes : Option OpeningOutboxes := none
  cooldownUntil : Option Instant := none
  lastNotifiedEventId : Option EventId := none
  suppressionSourceEventId : Option EventId := none
deriving DecidableEq

/-- The active incident of a state. -/
def State.incident (state : State) : Option EventId :=
  if state.mode = .active then state.activeEventId else none

/-- The active incident. -/
theorem State.incident_eq_some {state : State} {eventId : EventId} :
    state.incident = some eventId ↔ state.mode = .active ∧ state.activeEventId = some eventId := by
  unfold State.incident
  split
  next hmode => simp [hmode]
  next hmode => simp [hmode]

theorem State.incident_of_not_active {state : State} (h : state.mode ≠ .active) :
    state.incident = none :=
  if_neg h

/-- A notification to send. -/
structure OutboxDecision where
  outboxId : OutboxId
  channel : AlertChannel
  kind : OutboxKind
  status : OutboxStatus
  dependsOnOutboxId : Option OutboxId
deriving DecidableEq

/-- What an evaluation leads to. -/
structure Decision where
  next : State
  transition : Transition
  eventId : Option EventId := none
  resolvedEventId : Option EventId := none
  outboxes : List OutboxDecision := []
deriving DecidableEq

/-- The identifier of an incident. -/
def Rule.eventId (rule : Rule) (confirmedOpenWindowEnd : Instant) : EventId :=
  ⟨rule.tenantId, rule.ruleId, rule.version, rule.evaluationRevision, confirmedOpenWindowEnd⟩

/-- How many breaches confirm. -/
def requiredSlots (duration cadence : Int) : Int :=
  if duration ≤ cadence then 1 else (duration + cadence - 1).tdiv cadence

/-- Drop the confirmation. -/
def State.resetPending (state : State) : State :=
  { state with
    mode := .healthy
    confirmedSlots := 0
    pendingSince := none
    lastBreachSlot := none }

/-- Open an incident. -/
def Rule.openIncident (rule : Rule) (state : State) (evaluation : Evaluation) : Decision :=
  let eventId := rule.eventId evaluation.slot
  let next :=
    { state with
      mode := .active
      activeEventId := some eventId
      activeOpenedAt := some evaluation.slot
      confirmedSlots := 0
      pendingSince := none
      openingOutboxes := some {} }
  if next.cooldownUntil.any (evaluation.slot < ·) then
    { next :=
        { next with
          activeStatus := some .suppressed
          suppressionSourceEventId := next.lastNotifiedEventId }
      transition := .suppressed
      eventId := some eventId }
  else
    let outboxId channel : OutboxId := ⟨eventId, channel, .opening⟩
    { next :=
        { next with
          activeStatus := some .opened
          suppressionSourceEventId := none
          cooldownUntil := some (evaluation.slot + rule.cooldown)
          lastNotifiedEventId := some eventId
          openingOutboxes :=
            some (rule.channels.foldl (fun outboxes channel => outboxes.set channel (outboxId channel)) {}) }
      transition := .opened
      eventId := some eventId
      outboxes := rule.channels.map fun channel => ⟨outboxId channel, channel, .opening, .ready, none⟩ }

/-- One for each opening outbox, none if suppressed. -/
def State.recoveryOutboxes (state : State) (resolvedEventId : EventId) : List OutboxDecision :=
  if state.activeStatus = some .suppressed then []
  else
    (state.openingOutboxes.getD {}).sorted.map fun (channel, openingId) =>
      ⟨⟨resolvedEventId, channel, .recovery⟩, channel, .recovery, .blocked, some openingId⟩

/-- Resolve the active incident. -/
def recoverIncident (state : State) : Decision :=
  { next :=
      { state with
        mode := .healthy
        activeEventId := none
        activeStatus := none
        activeOpenedAt := none
        openingOutboxes := none
        suppressionSourceEventId := none
        lastBreachSlot := none }
    transition := .recovered
    resolvedEventId := state.activeEventId
    outboxes := (state.activeEventId.map state.recoveryOutboxes).getD [] }

/-- A breach without an incident, before the count is compared. -/
def State.confirmBreach (state : State) (evaluation : Evaluation) (cadence : Int) : State :=
  let consecutive := state.mode = .pending && evaluation.missedSlots = 0
    && state.lastBreachSlot.any (fun slot => slot + cadence = evaluation.slot)
  if consecutive then
    { state with
      confirmedSlots := state.confirmedSlots + 1
      lastBreachSlot := some evaluation.slot }
  else
    { state with
      mode := .pending
      confirmedSlots := 1
      pendingSince := some evaluation.slot
      lastBreachSlot := some evaluation.slot }

/-- What precedes the use of the value. -/
def State.observe (current : State) (evaluation : Evaluation) : State :=
  let next :=
    { current with
      mode := if current.mode = .unset then .healthy else current.mode
      lastEvaluatedSlot := some evaluation.slot
      lastQuality := some evaluation.quality }
  if 0 < evaluation.missedSlots && next.mode = .pending then next.resetPending else next

/-- `Decide`. -/
def Rule.decide (rule : Rule) (current : State) (raw : Evaluation) (cadence : Int) : Decision :=
  let evaluation := raw.normalized
  let observed := current.observe evaluation
  if !evaluation.isDeterminate then { next := observed, transition := .none }
  else
    let next := { observed with lastValue := evaluation.value }
    if next.mode = .active then
      if evaluation.breached then { next := next, transition := .none } else recoverIncident next
    else if !evaluation.breached then { next := next.resetPending, transition := .none }
    else
      let next := next.confirmBreach evaluation cadence
      if next.confirmedSlots < requiredSlots rule.duration cadence then
        { next := next, transition := .none }
      else rule.openIncident next evaluation

/-- Observing keeps what is active. -/
theorem State.observe_active (current : State) (evaluation : Evaluation) :
    (current.observe evaluation).mode = .active ↔ current.mode = .active := by
  unfold State.observe
  cases hmode : current.mode with
  | pending =>
    simp only [reduceCtorEq, if_false, iff_false]
    split <;> simp [State.resetPending]
  | unset | healthy | active => simp

/-- A breach is pending. -/
theorem State.confirmBreach_mode (state : State) (evaluation : Evaluation) (cadence : Int) :
    (state.confirmBreach evaluation cadence).mode = .pending := by
  unfold State.confirmBreach
  simp only
  split
  next hcons =>
    simp only [Bool.and_eq_true, decide_eq_true_eq] at hcons
    exact hcons.1.1
  next => rfl

/-- An opening makes a fresh event active. -/
theorem Rule.openIncident_spec (rule : Rule) (state : State) (evaluation : Evaluation) :
    let decision := rule.openIncident state evaluation
    decision.next.mode = .active ∧
      decision.next.activeEventId = some (rule.eventId evaluation.slot) ∧
      decision.eventId = some (rule.eventId evaluation.slot) ∧
      decision.resolvedEventId = none ∧
      (decision.transition = .opened ∧ decision.next.activeStatus = some .opened ∨
        decision.transition = .suppressed ∧ decision.next.activeStatus = some .suppressed) := by
  unfold Rule.openIncident
  simp only
  split <;> simp

/-! ## What a decision keeps -/

/-- The same incident and last notification. -/
structure State.SameIncident (state other : State) : Prop where
  activeEventId : state.activeEventId = other.activeEventId
  activeStatus : state.activeStatus = other.activeStatus
  activeOpenedAt : state.activeOpenedAt = other.activeOpenedAt
  openingOutboxes : state.openingOutboxes = other.openingOutboxes
  cooldownUntil : state.cooldownUntil = other.cooldownUntil
  lastNotifiedEventId : state.lastNotifiedEventId = other.lastNotifiedEventId
  suppressionSourceEventId : state.suppressionSourceEventId = other.suppressionSourceEventId

/-- The two states agree on the confirmation of a breach. -/
structure State.SameConfirmation (state other : State) : Prop where
  confirmedSlots : state.confirmedSlots = other.confirmedSlots
  pendingSince : state.pendingSince = other.pendingSince

/-- A reset keeps the incident. -/
theorem State.sameIncident_resetPending (state : State) : state.resetPending.SameIncident state :=
  ⟨rfl, rfl, rfl, rfl, rfl, rfl, rfl⟩

theorem State.sameIncident_observe (state : State) (evaluation : Evaluation) :
    (state.observe evaluation).SameIncident state := by
  unfold State.observe
  simp only
  split_ifs <;> exact ⟨rfl, rfl, rfl, rfl, rfl, rfl, rfl⟩

theorem State.sameIncident_confirmBreach (state : State) (evaluation : Evaluation) (cadence : Int) :
    (state.confirmBreach evaluation cadence).SameIncident state := by
  unfold State.confirmBreach
  simp only
  split <;> exact ⟨rfl, rfl, rfl, rfl, rfl, rfl, rfl⟩

theorem State.SameIncident.trans {a b c : State} (hab : a.SameIncident b) (hbc : b.SameIncident c) :
    a.SameIncident c :=
  ⟨hab.1.trans hbc.1, hab.2.trans hbc.2, hab.3.trans hbc.3, hab.4.trans hbc.4, hab.5.trans hbc.5,
    hab.6.trans hbc.6, hab.7.trans hbc.7⟩

/-- The slot is noted. -/
@[simp]
theorem State.observe_lastEvaluatedSlot (state : State) (evaluation : Evaluation) :
    (state.observe evaluation).lastEvaluatedSlot = some evaluation.slot := by
  unfold State.observe
  simp only
  split_ifs <;> rfl

/-- A breach keeps it. -/
@[simp]
theorem State.confirmBreach_lastEvaluatedSlot (state : State) (evaluation : Evaluation)
    (cadence : Int) :
    (state.confirmBreach evaluation cadence).lastEvaluatedSlot = state.lastEvaluatedSlot := by
  unfold State.confirmBreach
  simp only
  split <;> rfl

/-- An active state keeps its count. -/
theorem State.sameConfirmation_observe {state : State} (h : state.mode = .active)
    (evaluation : Evaluation) : (state.observe evaluation).SameConfirmation state := by
  unfold State.observe
  simp only [h, reduceCtorEq, if_false, decide_false, Bool.and_false, Bool.false_eq_true]
  exact ⟨rfl, rfl⟩

/-- The slot stays. -/
@[simp]
theorem Evaluation.normalized_slot (evaluation : Evaluation) :
    evaluation.normalized.slot = evaluation.slot := by
  unfold Evaluation.normalized
  split <;> rfl

/-- The incident stays, is resolved, or is opened where there is none. -/
inductive Rule.Decides (rule : Rule) (current : State) (slot : Instant) : Decision → Prop where
  | kept (next : State) (hincident : next.SameIncident current)
      (hslot : next.lastEvaluatedSlot = some slot)
      (hmode : next.mode = .active ↔ current.mode = .active)
      (hactive : current.mode = .active → next.SameConfirmation current) :
      rule.Decides current slot { next := next, transition := .none }
  | recovered (observed : State) (hincident : observed.SameIncident current)
      (hslot : observed.lastEvaluatedSlot = some slot) (hmode : current.mode = .active)
      (hactive : observed.SameConfirmation current) :
      rule.Decides current slot (recoverIncident observed)
  | opened (pending : State) (evaluation : Evaluation) (hincident : pending.SameIncident current)
      (hslot : pending.lastEvaluatedSlot = some slot) (hmode : current.mode ≠ .active)
      (hevaluation : evaluation.slot = slot) :
      rule.Decides current slot (rule.openIncident pending evaluation)

/-- Every decision has a shape. -/
theorem Rule.decide_decides (rule : Rule) (current : State) (raw : Evaluation) (cadence : Int) :
    rule.Decides current raw.slot (rule.decide current raw cadence) := by
  have hinc := State.sameIncident_observe current raw.normalized
  have hact := State.observe_active current raw.normalized
  have hslot : (current.observe raw.normalized).lastEvaluatedSlot = some raw.slot := by simp
  generalize hobs : { current.observe raw.normalized with lastValue := raw.normalized.value } =
    observed
  have hinc' : observed.SameIncident current := by
    subst hobs
    exact { hinc with }
  have hslot' : observed.lastEvaluatedSlot = some raw.slot := by
    subst hobs
    exact hslot
  have hmode' : observed.mode = .active ↔ current.mode = .active := by
    subst hobs
    exact hact
  have hkept : current.mode = .active → observed.SameConfirmation current := by
    intro hmode
    subst hobs
    have h := State.sameConfirmation_observe hmode raw.normalized
    exact ⟨h.1, h.2⟩
  unfold Rule.decide
  simp only [hobs]
  split
  next =>
    exact .kept _ hinc hslot hact fun hmode => State.sameConfirmation_observe hmode _
  next =>
    split
    next hmode =>
      split
      next => exact .kept _ hinc' hslot' hmode' hkept
      next =>
        have hcur := hact.mp hmode
        exact .recovered _ hinc' hslot' hcur (hkept hcur)
    next hmode =>
      have hcur : current.mode ≠ .active := fun h => hmode (hact.mpr h)
      split
      next =>
        refine .kept _ (observed.sameIncident_resetPending.trans hinc') hslot' ?_
          (fun h => absurd h hcur)
        simp [State.resetPending, hcur]
      next =>
        have hpend := (observed.sameIncident_confirmBreach raw.normalized cadence).trans hinc'
        split
        next =>
          refine .kept _ hpend (by simpa using hslot') ?_ (fun h => absurd h hcur)
          simp [State.confirmBreach_mode, hcur]
        next => exact .opened _ _ hpend (by simpa using hslot') hcur raw.normalized_slot

/-- Every decision has such a shape; the last two need a determinate evaluation. -/
theorem Rule.decide_cases (rule : Rule) (current : State) (raw : Evaluation) (cadence : Int) :
    let decision := rule.decide current raw cadence
    (decision.transition = .none ∧ decision.next.activeEventId = current.activeEventId ∧
      (decision.next.mode = .active ↔ current.mode = .active) ∧
      decision.eventId = none ∧ decision.resolvedEventId = none) ∨
    (decision.transition = .recovered ∧ current.mode = .active ∧
      decision.resolvedEventId = current.activeEventId ∧ decision.eventId = none ∧
      decision.next.mode = .healthy ∧ decision.next.activeEventId = none) ∨
    (current.mode ≠ .active ∧ decision.next.mode = .active ∧
      decision.next.activeEventId = some (rule.eventId raw.slot) ∧
      decision.eventId = some (rule.eventId raw.slot) ∧ decision.resolvedEventId = none ∧
      (decision.transition = .opened ∧ decision.next.activeStatus = some .opened ∨
        decision.transition = .suppressed ∧ decision.next.activeStatus = some .suppressed)) := by
  have hdecides := rule.decide_decides current raw cadence
  generalize rule.decide current raw cadence = decision at hdecides ⊢
  cases hdecides with
  | kept next hinc _ hmode => exact .inl ⟨rfl, hinc.activeEventId, hmode, rfl, rfl⟩
  | recovered observed hinc _ hmode =>
    exact .inr (.inl ⟨rfl, hmode, hinc.activeEventId, rfl, rfl, rfl⟩)
  | opened pending evaluation _ _ hmode hevaluation =>
    have hopen := rule.openIncident_spec pending evaluation
    rw [hevaluation] at hopen
    exact .inr (.inr ⟨hmode, hopen⟩)

end LimnoPulse.Alerts.Evaluator
