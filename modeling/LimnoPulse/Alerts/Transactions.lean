import LimnoPulse.Alerts.Store

/-!
# The transactions of the API and the evaluator

Each write request of the alert tables, as a list of conditional items.  A
request records the values it was computed from: the rows that were read before
and the caller's arguments.

Main results:

- Definition `Transaction.items`: the items of each transaction, in the
  order of the source.
- Definition `claimLease`: the lease update of the evaluator.
-/

namespace LimnoPulse.Alerts

open CivilTime StoreProgram Evaluator

/-- Put a rule row that must not exist yet. -/
def conditionedRulePut (rule : AlertRule) : WriteItem Store where
  condition s := (s.rule rule.key).isNone
  effect s := s.putRule (ruleToItem rule)

/-- Update an active rule of the expected version. -/
def conditionedRuleUpdate (key : RuleKey) (expectedVersion : Nat) (change : RuleRow → RuleRow) :
    WriteItem Store where
  condition s := (s.rule key).any fun row =>
    row.rule.version = expectedVersion && row.rule.status = .active
  effect s := s.modifyRule key change

/-- Put a transition row that must not exist yet. -/
def transitionPut (key : TransitionKey) (row : TransitionRow) : WriteItem Store where
  condition s := (s.transitions key).isNone
  effect s := s.putTransition key row

/-- No state (`none`) or one of the given revision. -/
def stateSnapshotCondition (key : RuleKey) (expectedRevision : Option Nat) : WriteItem Store where
  condition s :=
    match expectedRevision with
    | none => (s.states key).isNone
    | some revision => (s.states key).any fun row => row.stateRevision = revision
  effect s := s

/-- Replace an incident state of the given revision. -/
def statePut (key : RuleKey) (row : StateRow) (previousRevision : Nat) : WriteItem Store where
  condition s := (s.states key).any fun old => old.stateRevision = previousRevision
  effect s := s.putState key row

/-- The state after a resolution, if the event is active. -/
def resolvedEvaluatorState (item : StateRow) (eventId : EventId) (now : Instant) :
    Option StateRow :=
  if item.state.mode ≠ .active || item.state.activeEventId ≠ some eventId then none
  else some
    { item with
      state :=
        { item.state with
          mode := .healthy
          confirmedSlots := 0
          pendingSince := none
          lastBreachSlot := none
          activeEventId := none
          activeStatus := none
          activeOpenedAt := none
          openingOutboxes := none
          suppressionSourceEventId := none }
      stateRevision := item.stateRevision + 1
      updatedAt := now }

/-- The state without its confirmation, if pending. -/
def resetPendingEvaluatorState (item : StateRow) (now : Instant) : Option StateRow :=
  if item.state.mode ≠ .pending then none
  else some
    { item with
      state :=
        { item.state with
          mode := .healthy
          confirmedSlots := 0
          pendingSince := none
          lastBreachSlot := none }
      stateRevision := item.stateRevision + 1
      updatedAt := now }

/-- The event after a rule change resolved it. -/
def EventRow.administrativelyResolved (event : EventRow) (actorId reason : String) (now : Instant) :
    EventRow :=
  { event with
    status := .resolved
    resolvedAt := some now
    resolvedBy := some actorId
    resolutionReason := some reason
    updatedAt := now
    version := event.version + 1
    gsi3pk := none
    gsi3sk := none }

/-- The resolution of an event by a rule change. -/
def administrativeEventUpdate (key : EventKey) (revision : Nat) (actorId reason : String)
    (now : Instant) : WriteItem Store where
  condition s := (s.events key).any fun event =>
    event.status.unresolved && event.evaluationRevision = revision
  effect s := s.modifyEvent key fun event => event.administrativelyResolved actorId reason now

/-- Who changes a rule, with a transition identifier. -/
structure Administrator where
  (actorId transitionId : String)

/-- The items that end the incident of a changed rule, fenced by the revision that was read. -/
def administrativeResolutionOperations (rule : AlertRule) (stateItem : Option StateRow)
    (audit : Administrator) (now : Instant) (reason : String) : List (WriteItem Store) :=
  match stateItem with
  | none => [stateSnapshotCondition rule.key none]
  | some item =>
    if item.state.mode = .pending then
      match resetPendingEvaluatorState item now with
      | none => []
      | some reset => [statePut rule.key reset item.stateRevision]
    else
      match item.state.activeEventId with
      | none => [stateSnapshotCondition rule.key (some item.stateRevision)]
      | some eventId =>
        match resolvedEvaluatorState item eventId now with
        | none => [stateSnapshotCondition rule.key (some item.stateRevision)]
        | some resolved =>
          let eventKey : EventKey := ⟨rule.tenantId, eventId⟩
          [administrativeEventUpdate eventKey rule.evaluationRevision audit.actorId reason now,
            statePut rule.key resolved item.stateRevision,
            transitionPut ⟨eventKey, now, audit.transitionId⟩
              ⟨rule.ruleId, "resolved", some reason, "user", some audit.actorId⟩]

/-! ## Rule changes -/

/-- An update as it is sent, with the rows that were read. -/
structure UpdateRule where
  (tenantId ruleId : String)
  expectedVersion : Nat
  updates : AlertRuleUpdates
  existing : AlertRule
  stateItem : Option StateRow
  audit : Administrator
  now : Instant

namespace UpdateRule

/-- The key of the rule. -/
def key (request : UpdateRule) : RuleKey := ⟨request.tenantId, request.ruleId⟩

/-- Judged against the row that was read. -/
def semanticChange (request : UpdateRule) : Bool :=
  Alerts.semanticChange request.existing request.updates

/-- The revision after the update. -/
def evaluationRevision (request : UpdateRule) : Nat :=
  request.existing.evaluationRevision + request.semanticChange.toNat

/-- The rule the caller is told about. -/
def updated (request : UpdateRule) : AlertRule :=
  { request.existing.apply request.updates with
    updatedAt := request.now
    version := request.expectedVersion + 1
    evaluationRevision := request.evaluationRevision }

/-- The stored row with the fields the update sets. -/
def merge (request : UpdateRule) (row : RuleRow) : RuleRow :=
  { row with
    rule :=
      { row.rule.apply request.updates with
        updatedAt := request.now
        version := request.expectedVersion + 1
        evaluationRevision := request.evaluationRevision } }

/-- What the conditioned update does to the stored row. -/
def change (request : UpdateRule) (row : RuleRow) : RuleRow :=
  if request.semanticChange && request.updated.enabled then
    ((request.merge row).setSchedule
      (alertEvaluationSchedule request.tenantId request.ruleId request.now)).removeLease
  else if request.semanticChange then (request.merge row).removeSchedule
  else request.merge row

/-- The rule itself is the merged one. -/
@[simp]
theorem change_rule (request : UpdateRule) (row : RuleRow) :
    (request.change row).rule = (request.merge row).rule := by
  unfold change
  split
  · rfl
  · split <;> rfl

/-- The items of an update. -/
def items (request : UpdateRule) : List (WriteItem Store) :=
  conditionedRuleUpdate request.key request.expectedVersion request.change ::
    if request.semanticChange then
      administrativeResolutionOperations request.existing request.stateItem request.audit
        request.now "rule_semantics_changed"
    else []

end UpdateRule

/-- A replacement of a rule as it is sent. -/
structure ReplaceRule where
  (tenantId ruleId : String)
  expectedVersion : Nat
  replacement : AlertRule
  (idempotencyKey requestHash : String)
  existing : AlertRule
  stateItem : Option StateRow
  audit : Administrator
  now : Instant

/-- How long the receipt of a replacement is kept. -/
def idempotencyRetention : Int := 86400 * second

namespace ReplaceRule

/-- The key of the rule. -/
def key (request : ReplaceRule) : RuleKey := ⟨request.tenantId, request.ruleId⟩

/-- The replaced rule the caller is told about. -/
def replaced (request : ReplaceRule) : AlertRule :=
  { request.existing with
    enabled := false
    status := .replaced
    replacedByRuleId := some request.replacement.ruleId
    updatedAt := request.now
    version := request.expectedVersion + 1
    evaluationRevision := request.existing.evaluationRevision + 1 }

/-- The rule that takes over. -/
def successor (request : ReplaceRule) : AlertRule :=
  { request.replacement with
    tenantId := request.tenantId
    replacesRuleId := some request.ruleId
    replacedByRuleId := none
    status := .active
    version := 1 }

/-- What the conditioned update does to the stored row. -/
def change (request : ReplaceRule) (row : RuleRow) : RuleRow :=
  RuleRow.removeSchedule
    { row with
      rule :=
        { row.rule with
          enabled := false
          status := .replaced
          replacedByRuleId := some request.replacement.ruleId
          updatedAt := request.now
          version := request.expectedVersion + 1
          evaluationRevision := request.existing.evaluationRevision + 1 } }

/-- Put the receipt over an absent or expired one. -/
def idempotencyPut (request : ReplaceRule) : WriteItem Store where
  condition s := ((s.receipts (request.tenantId, request.idempotencyKey)).current).all fun row =>
    row.expiresAt / second ≤ request.now / second
  effect s := s.putReceipt (request.tenantId, request.idempotencyKey)
    { requestHash := request.requestHash
      replaced := request.replaced
      replacement := request.successor
      createdAt := request.now
      expiresAt := request.now + idempotencyRetention }

/-- The items of a replacement. -/
def items (request : ReplaceRule) : List (WriteItem Store) :=
  conditionedRuleUpdate request.key request.expectedVersion request.change ::
    administrativeResolutionOperations request.existing request.stateItem request.audit
      request.now "rule_replaced"
    ++ [conditionedRulePut request.successor, request.idempotencyPut]

end ReplaceRule

/-- A user's change, with the event that was read. -/
structure EventChange where
  key : EventKey
  event : EventRow
  expectedVersion : Nat
  audit : Administrator
  now : Instant

namespace EventChange

/-- Update an event of the expected version and status. -/
def eventUpdate (request : EventChange) (allowed : List EventStatus) (change : EventRow → EventRow) :
    WriteItem Store where
  condition s := (s.events request.key).any fun event =>
    event.version = request.expectedVersion && event.status ∈ allowed
  effect s := s.modifyEvent request.key change

/-- The transition row. -/
def transition (request : EventChange) (name : String) : WriteItem Store :=
  transitionPut
    ⟨⟨request.event.tenantId, request.event.eventId⟩, request.now, request.audit.transitionId⟩
    ⟨request.event.ruleId, name, none, "user", some request.audit.actorId⟩

/-- The event after its acknowledgement. -/
def acknowledged (request : EventChange) (event : EventRow) : EventRow :=
  { event with
    status := .acknowledged
    acknowledgedAt := some request.now
    acknowledgedBy := some request.audit.actorId
    updatedAt := request.now
    version := request.expectedVersion + 1 }

/-- The items of an acknowledgement. -/
def acknowledgeItems (request : EventChange) : List (WriteItem Store) :=
  [request.eventUpdate [.opened] request.acknowledged, request.transition "acknowledged"]

/-- The event after its manual resolution. -/
def resolved (request : EventChange) (event : EventRow) : EventRow :=
  { event with
    status := .resolved
    resolvedAt := some request.now
    resolvedBy := some request.audit.actorId
    resolutionReason := some "manual"
    updatedAt := request.now
    version := request.expectedVersion + 1
    gsi3pk := none
    gsi3sk := none }

/-- The items of a resolution. -/
def resolveItems (request : EventChange) (stateOperation : Option (StateRow × Nat)) :
    List (WriteItem Store) :=
  request.eventUpdate [.opened, .acknowledged, .suppressed] request.resolved ::
    (stateOperation.toList.map fun (row, revision) =>
      statePut ⟨request.event.tenantId, request.event.ruleId⟩ row revision)
    ++ [request.transition "resolved"]

end EventChange

/-! ## Evaluator commits -/

/-- A claimed rule. -/
structure Work where
  key : RuleKey
  rule : AlertRule
  nextEvaluationAt : Instant
  leaseOwner : String
  leaseEpoch : Nat

/-- The rule as the state machine sees it. -/
def evaluatorRule (rule : AlertRule) : Evaluator.Rule :=
  { tenantId := rule.tenantId
    ruleId := rule.ruleId
    version := rule.version
    evaluationRevision := rule.evaluationRevision
    duration := rule.duration.nanoseconds
    cooldown := rule.cooldownSeconds.seconds * second
    channels := rule.channels.channels }

/-- Decode a claimed row. -/
def workFromItem (key : RuleKey) (row : RuleRow) : Option Work :=
  if row.rule.tenantId = "" || row.rule.ruleId = "" || row.rule.pondId = "" then none
  else if row.rule.version < 1 || row.rule.evaluationRevision < 1 then none
  else row.nextEvaluationAt.map fun nextDue =>
    { key := key
      rule := row.rule
      nextEvaluationAt := nextDue
      leaseOwner := row.leaseOwner.getD ""
      leaseEpoch := row.leaseEpoch.getD 0 }

/-- Who claims, and until when. -/
structure LeaseRequest where
  owner : String
  (now expiresAt dueThrough : Instant)

/-- Enabled, active, due, and not leased to another owner. -/
def claimable (lease : LeaseRequest) (row : RuleRow) : Bool :=
  row.rule.enabled && row.rule.status = .active
    && row.nextEvaluationAt.any (· ≤ lease.dueThrough)
    && (row.leaseOwner.isNone || row.leaseExpiresAt.isNone
      || row.leaseExpiresAt.any (· ≤ lease.now) || row.leaseOwner = some lease.owner)

/-- The row with its lease. -/
def RuleRow.lease (row : RuleRow) (lease : LeaseRequest) : RuleRow :=
  { row with
    leaseOwner := some lease.owner
    leaseExpiresAt := some lease.expiresAt
    leaseEpoch := some (row.leaseEpoch.getD 0 + 1) }

/-- The conditional update that claims a rule. -/
def claimLease (key : RuleKey) (lease : LeaseRequest) (s : Store) : Option Store :=
  if (s.rule key).any (claimable lease) then some (s.modifyRule key fun row => row.lease lease)
  else none

/-- A loaded state; revision 0 is not stored. -/
structure VersionedState where
  state : State := {}
  revision : Nat := 0

/-- An evaluation to commit. -/
structure CommitRequest where
  work : Work
  previousState : VersionedState
  evaluation : Evaluation
  decision : Decision
  (slot nextDue : Instant)
  telegramDeliveryEnabled : Bool

namespace CommitRequest

/-- The value to persist for an evaluation. -/
def determinateValue (evaluation : Evaluation) : Option Rat :=
  if evaluation.isDeterminate then evaluation.value else none

/-- The schedule advanced and the lease released. -/
def advance (request : CommitRequest) (row : RuleRow) : RuleRow :=
  RuleRow.removeLease
    { row with
      nextEvaluationAt := some request.nextDue
      gsi1sk := some (nanosecondText request.nextDue ++ ("#TENANT#"
        ++ request.work.rule.tenantId ++ "#RULE#" ++ request.work.rule.ruleId))
      lastEvaluatedSlot := some request.slot
      lastEvaluationQuality := some request.evaluation.quality
      lastEvaluationValue := determinateValue request.evaluation }

/-- Advance the schedule under the claim's lease. -/
def ruleScheduleUpdate (request : CommitRequest) : WriteItem Store where
  condition s := (s.rule request.work.key).any fun row =>
    row.rule.version = request.work.rule.version
      && row.rule.evaluationRevision = request.work.rule.evaluationRevision
      && row.leaseOwner = some request.work.leaseOwner
      && row.leaseEpoch = some request.work.leaseEpoch
      && row.rule.enabled && row.rule.status = .active
  effect s := s.modifyRule request.work.key request.advance

/-- The key of the rule's incident state. -/
def stateKey (request : CommitRequest) : RuleKey :=
  ⟨request.work.key.tenantId, request.work.rule.ruleId⟩

/-- The incident state the commit writes. -/
def nextStateRow (request : CommitRequest) : StateRow :=
  { tenantId := request.work.rule.tenantId
    ruleId := request.work.rule.ruleId
    stateRevision := request.previousState.revision + 1
    state := request.decision.next
    updatedAt := request.slot }

/-- The next state over the loaded one. -/
def statePut (request : CommitRequest) : WriteItem Store where
  condition s :=
    if request.previousState.revision = 0 then (s.states request.stateKey).isNone
    else (s.states request.stateKey).any fun row =>
      row.stateRevision = request.previousState.revision
  effect s := s.putState request.stateKey request.nextStateRow

/-- The key of one of the rule's events. -/
def eventKey (request : CommitRequest) (eventId : EventId) : EventKey :=
  ⟨request.work.key.tenantId, eventId⟩

/-- The event row of a new incident. -/
def eventRow (request : CommitRequest) (eventId : EventId) (status : EventStatus) (value : Rat) :
    EventRow :=
  let rule := request.work.rule
  { eventId := eventId
    tenantId := rule.tenantId
    ruleId := rule.ruleId
    ruleVersion := rule.version
    evaluationRevision := rule.evaluationRevision
    ruleName := rule.name
    pondId := rule.pondId
    deviceId := rule.deviceId
    metric := rule.metric
    operator := rule.operator
    threshold := rule.threshold
    aggregation := rule.aggregation
    severity := rule.severity
    status := status
    openedAt := request.slot
    createdAt := request.slot
    updatedAt := request.slot
    version := 1
    confirmedOpenWindowEnd := request.slot
    windowStart := request.slot - rule.window.nanoseconds
    windowEnd := request.slot
    lastEvaluatedAt := request.slot
    lastEvaluationQuality := request.evaluation.quality
    lastEvaluationValue := some value
    suppressionSourceEventId := request.decision.next.suppressionSourceEventId
    gsi3pk :=
      if status = .opened || status = .acknowledged then some (activeIndexPartition rule.tenantId)
      else none
    gsi3sk :=
      if status = .opened || status = .acknowledged then some ⟨request.slot, eventId⟩ else none }

/-- The event of a new incident, with a determinate value. -/
def eventPut (request : CommitRequest) : Option (WriteItem Store) := do
  let value ← determinateValue request.evaluation
  let eventId ← request.decision.eventId
  let status ← request.decision.next.activeStatus
  return {
    condition := fun s => (s.events (request.eventKey eventId)).isNone
    effect := fun s =>
      s.putEvent (request.eventKey eventId) (request.eventRow eventId status value) }

/-- Record the decision's transition of an event. -/
def transitionPut (request : CommitRequest) (eventId : EventId) (name : String) : WriteItem Store :=
  Alerts.transitionPut ⟨request.eventKey eventId, request.slot, name⟩
    ⟨request.work.rule.ruleId, name, none, "evaluator", none⟩

/-- Update an event that is still unresolved. -/
def activeEventUpdate (request : CommitRequest) (eventId : EventId)
    (change : EventRow → EventRow) : WriteItem Store where
  condition s := (s.events (request.eventKey eventId)).any fun event => event.status.unresolved
  effect s := s.modifyEvent (request.eventKey eventId) change

/-- The active event with its last evaluation refreshed. -/
def refreshed (request : CommitRequest) (event : EventRow) : EventRow :=
  { event with
    lastEvaluatedAt := request.slot
    lastEvaluationQuality := request.evaluation.quality
    lastEvaluationValue := determinateValue request.evaluation }

/-- Note an evaluation in the event. -/
def eventMetadataUpdate (request : CommitRequest) (eventId : EventId) : WriteItem Store :=
  request.activeEventUpdate eventId request.refreshed

/-- The event after the evaluator saw its recovery. -/
def recovered (request : CommitRequest) (value : Rat) (event : EventRow) : EventRow :=
  { event with
    status := .resolved
    resolvedAt := some request.slot
    updatedAt := request.slot
    version := event.version + 1
    lastEvaluatedAt := request.slot
    lastEvaluationQuality := request.evaluation.quality
    lastEvaluationValue := some value
    gsi3pk := none
    gsi3sk := none }

/-- Resolve the recovered event, with a determinate value. -/
def eventResolutionUpdate (request : CommitRequest) (eventId : EventId) :
    Option (WriteItem Store) :=
  (determinateValue request.evaluation).map fun value =>
    request.activeEventUpdate eventId (request.recovered value)

/-- The relay work an outbox row stands for. -/
def classifyOutboxRelayWork : OutboxKind → OutboxStatus → Option RelayWorkKind
  | .opening, .ready => some .intent
  | .recovery, .blocked => some .dependency
  | _, _ => none

/-- Telegram rows are parked while it is off. -/
def expansionStatus (request : CommitRequest) (outbox : OutboxDecision) : Option ExpansionStatus :=
  if outbox.channel = .email || request.telegramDeliveryEnabled then do
    let workKind ← classifyOutboxRelayWork outbox.kind outbox.status
    let index ← buildRelayIndexKey workKind request.work.rule.tenantId outbox.outboxId request.slot
    return .pending ⟨if outbox.channel = .telegram then 2 else 1, request.slot, workKind, index⟩
  else some .deferredUnsupportedChannel

/-- A new outbox row. -/
def outboxRow (request : CommitRequest) (outbox : OutboxDecision) (status : ExpansionStatus) :
    OutboxRow :=
  { outboxId := outbox.outboxId
    eventId := request.decision.eventId.or request.decision.resolvedEventId
    tenantId := request.work.rule.tenantId
    ruleId := request.work.rule.ruleId
    channel := outbox.channel
    kind := outbox.kind
    status := outbox.status
    dependsOnOutboxId := outbox.dependsOnOutboxId
    createdAt := request.slot
    evaluationWindowStart := request.slot - request.work.rule.window.nanoseconds
    evaluationWindowEnd := request.slot
    evaluatedAt := request.slot
    evaluationValue := determinateValue request.evaluation
    expansionStatus := status }

/-- Put an outbox row that must not exist yet. -/
def outboxPut (request : CommitRequest) (outbox : OutboxDecision) : Option (WriteItem Store) :=
  (request.expansionStatus outbox).map fun status =>
    let key := (request.work.key.tenantId, outbox.outboxId)
    { condition := fun s => (s.outboxes key).isNone
      effect := fun s => s.putOutbox key (request.outboxRow outbox status) }

/-- The event items of the decision. -/
def eventItems (request : CommitRequest) : Option (List (WriteItem Store)) :=
  match request.decision.transition with
  | .opened => do
    let eventId ← request.decision.eventId
    return [← request.eventPut, request.transitionPut eventId "opened"]
  | .suppressed => do
    let eventId ← request.decision.eventId
    return [← request.eventPut, request.transitionPut eventId "suppressed"]
  | .recovered => do
    let eventId ← request.decision.resolvedEventId
    return [← request.eventResolutionUpdate eventId, request.transitionPut eventId "recovered"]
  | .none =>
    if request.decision.next.mode = .active then do
      let eventId ← request.decision.next.activeEventId
      return [request.eventMetadataUpdate eventId]
    else some []

/-- The items of a commit, if it can be written. -/
def items (request : CommitRequest) : Option (List (WriteItem Store)) := do
  let eventItems ← request.eventItems
  let outboxItems ← request.decision.outboxes.mapM request.outboxPut
  return request.ruleScheduleUpdate :: request.statePut :: eventItems ++ outboxItems

end CommitRequest

/-- Every transaction of the alert tables. -/
inductive Transaction where
  | createRule (rule : AlertRule)
  | updateRule (request : UpdateRule)
  | replaceRule (request : ReplaceRule)
  | acknowledgeEvent (request : EventChange)
  | resolveEvent (request : EventChange) (stateOperation : Option (StateRow × Nat))
  | commit (request : CommitRequest)

/-- The items of a transaction; `none` when none is sent. -/
def Transaction.items : Transaction → Option (List (WriteItem Store))
  | .createRule rule => some [conditionedRulePut rule]
  | .updateRule request => some request.items
  | .replaceRule request => some request.items
  | .acknowledgeEvent request => some request.acknowledgeItems
  | .resolveEvent request stateOperation => some (request.resolveItems stateOperation)
  | .commit request => request.items

/-- Send a transaction. -/
def Transaction.write (transaction : Transaction) (s : Store) : Option Store :=
  transaction.items.bind fun items => transactWrite items s

end LimnoPulse.Alerts
