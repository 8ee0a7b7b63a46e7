import LimnoPulse.Notifications.Rows

/-!
# Conditional updates

Every update expression and condition check of worker, feedback and relay, as a
condition on the row it finds and an effect on it.

Main results:

- Definition `Item.toTableItem`: the items of table transactions.
- Theorem `DeliveryUpdate.effect_some`: the effect of an update on a row that exists.
-/

namespace LimnoPulse.Notifications

open CivilTime StoreProgram

namespace RelayFields

/-- Indexed as the candidate says, due, and free or one's own. -/
def claimable (relay : RelayFields) (work : Work) (lease : LeaseRequest) : Bool :=
  (relay.workKind = none || relay.workKind = some work.candidate.kind) &&
    relay.index = some work.candidate.index &&
    relay.availableAt.any (fun available => decide (available ≤ lease.dueThrough)) &&
    (relay.leaseExpiresAt.all (fun expires => decide (expires ≤ lease.now)) ||
      relay.leaseOwner = some lease.owner)

/-- Take a lease. -/
def claim (relay : RelayFields) (work : Work) (lease : LeaseRequest) : RelayFields :=
  { relay with
    workKind := relay.workKind.or (some work.candidate.kind)
    leaseOwner := some lease.owner
    leaseExpiresAt := some lease.expiresAt
    leaseEpoch := some (relay.leaseEpoch.getD 0 + 1) }

/-- Leased under owner and epoch, and indexed as it was. -/
def heldBy (relay : RelayFields) (work : Work) : Bool :=
  work.leaseOwner.isSome && relay.leaseOwner = work.leaseOwner &&
    relay.leaseEpoch = some work.leaseEpoch && relay.workKind = some work.candidate.kind &&
    relay.index = some work.candidate.index

/-- Give the lease back and wait. -/
def reschedule (relay : RelayFields) (work : Work) (next : Instant) (index : RelayIndexKey) :
    RelayFields :=
  { relay with
    workKind := some work.candidate.kind
    availableAt := some next
    index := some index
    leaseOwner := none
    leaseEpoch := none
    leaseExpiresAt := none }

/-- The attributes of an item that leaves the relay index. -/
def withdrawn (relay : RelayFields) : RelayFields :=
  { relay with
    availableAt := none
    index := none
    leaseOwner := none
    leaseEpoch := none
    leaseExpiresAt := none }

end RelayFields

/-! ## Deliveries -/

/-- Updates of a claimed delivery that send nothing. -/
inductive ProcessingTransition where
  | cancel (reason : CancellationReason) (now : Instant)
  | defer (request : DeferRequest)
  | preflightFailure (completion : PreflightFailureCompletion)
  | finalizeUnknown (now : Instant)

/-- What becomes of a recovery that waited for its opening. -/
inductive Release where
  | pending (index : RelayIndexKey)
  | cancelled

/-- Updates and checks of delivery rows. -/
inductive DeliveryUpdate where
  | repairPublication (record : DeliveryRecord) (now : Instant)
  | claim (record : DeliveryRecord) (request : ClaimRequest)
  | renew (record : DeliveryRecord) (expiresAt : Instant)
  | transition (record : DeliveryRecord) (step : ProcessingTransition)
  | beginAttempt (record : DeliveryRecord) (request : BeginAttemptRequest)
  | completeAttempt (record : DeliveryRecord) (completion : AttemptCompletion)
  | releaseRecovery (recovery : DeliveryRow) (release : Release) (now : Instant)
  | feedback (current : DeliveryRow) (nextState : DeliveryState)
      (decision : DeliveryProviderDecision) (now : Instant)
  | relayClaim (work : Work) (lease : LeaseRequest)
  | markQueued (work : Work)
  | reschedule (work : Work) (next : Instant) (index : RelayIndexKey)
  | create (snapshot : DeliverySnapshot) (availableAt : Instant) (index : Option RelayIndexKey)
  | checkTerminal (state : DeliveryState) (revision : Nat)
  | checkFeedback (current : DeliveryRow)
  | checkOpening (opening : DeliveryRow)
  | checkAbsent

namespace DeliveryRow

/-- The delivery is still claimed as the record says. -/
def ownedBy (row : DeliveryRow) (record : DeliveryRecord) : Bool :=
  row.state = .processing && row.revision = record.revision && record.leaseOwner.isSome &&
    row.leaseOwner = record.leaseOwner && row.leaseEpoch = some record.leaseEpoch

/-- State, revision and metadata are what feedback read. -/
def asRead (row current : DeliveryRow) : Bool :=
  row.outboxId = current.outboxId && row.deliveryId = current.deliveryId &&
    row.state = current.state && row.revision = current.revision &&
    row.providerOutcome = current.providerOutcome &&
    row.providerMessageId = current.providerMessageId &&
    row.providerAttemptId = current.providerAttemptId

/-- The row that is created for a delivery. -/
def ofSnapshot (snapshot : DeliverySnapshot) (availableAt : Instant)
    (index : Option RelayIndexKey) : DeliveryRow :=
  { snapshot with
    revision := 1
    relay :=
      { availableAt := index.map fun _ => availableAt
        workKind := index.map fun _ => .delivery
        index := index } }

/-- An earlier try of the page created the row. -/
def createdAs (row : DeliveryRow) (snapshot : DeliverySnapshot) : Bool :=
  row.tenantId = snapshot.tenantId && row.outboxId = snapshot.outboxId &&
    row.deliveryId = snapshot.deliveryId && row.eventId = snapshot.eventId &&
    row.ruleId = snapshot.ruleId && row.kind = snapshot.kind && row.channel = snapshot.channel &&
    row.recipientId = snapshot.recipientId &&
    row.membershipSnapshot = snapshot.membershipSnapshot && row.state = snapshot.state &&
    row.revision = 1 && row.createdAt = snapshot.createdAt && row.updatedAt = snapshot.updatedAt &&
    (match snapshot.channel with
      | .email => decide (row.normalizedEmail = snapshot.normalizedEmail)
      | .telegram => decide (row.destinationId = snapshot.destinationId) &&
          decide (row.telegramChatId = snapshot.telegramChatId)) &&
    (snapshot.state ≠ .pending || row.relay.workKind = some .delivery) &&
    (snapshot.dependsOnOutboxId.isNone && snapshot.dependsOnDeliveryId.isNone ||
      row.dependsOnOutboxId = snapshot.dependsOnOutboxId &&
        row.dependsOnDeliveryId = snapshot.dependsOnDeliveryId) &&
    if snapshot.state = .pending ∨ snapshot.state = .waitingDependency then
      row.content = snapshot.content && row.telegramContent = snapshot.telegramContent
    else row.cancellationReason = snapshot.cancellationReason

end DeliveryRow

/-- What each transition of a claimed delivery writes. -/
def ProcessingTransition.effect (transition : ProcessingTransition) (record : DeliveryRecord)
    (row : DeliveryRow) : DeliveryRow :=
  match transition with
  | .cancel reason now =>
    { row with
      state := .cancelled, cancellationReason := some reason, updatedAt := now
      revision := record.revision + 1, leaseOwner := none, leaseExpiresAt := none
      nextAttemptAt := none, awaitingIntervention := false }
  | .defer request =>
    { row with
      state := .retryableFailed, nextAttemptAt := some request.nextAttemptAt
      updatedAt := request.now, revision := record.revision + 1
      leaseOwner := none, leaseExpiresAt := none }
  | .preflightFailure completion =>
    { row with
      state := completion.nextState, possiblyAccepted := completion.possiblyAccepted
      ambiguousExhausted := completion.ambiguousExhausted
      awaitingIntervention := completion.awaitingIntervention
      updatedAt := completion.completedAt, revision := record.revision + 1
      nextAttemptAt := completion.nextAttemptAt, leaseOwner := none, leaseExpiresAt := none }
  | .finalizeUnknown now =>
    { row with
      state := .unknown, possiblyAccepted := true, updatedAt := now
      revision := record.revision + 1, leaseOwner := none, leaseExpiresAt := none
      nextAttemptAt := none, ambiguousExhausted := false }

namespace DeliveryUpdate

/-- The condition of an update on a row that exists. -/
def rowCondition (update : DeliveryUpdate) (row : DeliveryRow) : Bool :=
  match update with
  | .repairPublication record now =>
    row.state = .pending && row.revision = record.revision &&
      row.tenantId = record.delivery.tenantId && row.outboxId = record.delivery.outboxId &&
      row.deliveryId = record.delivery.deliveryId && row.eventId = record.delivery.eventId &&
      row.relay.leaseExpiresAt.all fun expires => decide (expires ≤ now)
  | .claim record request =>
    row.state = record.delivery.state && row.revision = record.revision &&
      (record.delivery.state ≠ .processing ||
        row.leaseExpiresAt.any fun expires => decide (expires ≤ request.now))
  | .renew record expiresAt =>
    row.ownedBy record && row.leaseExpiresAt.any fun expires => decide (expires < expiresAt)
  | .transition record _ => row.ownedBy record
  | .beginAttempt record request =>
    row.ownedBy record &&
      row.leaseExpiresAt.any (fun expires => decide (request.leaseRequiredUntil ≤ expires)) &&
      row.attemptCount.all fun count => count = record.attemptCount
  | .completeAttempt record completion =>
    row.ownedBy record && row.attemptCount = some record.attemptCount &&
      row.lastAttemptId = some completion.attemptId
  | .releaseRecovery recovery _ _ =>
    row.tenantId = recovery.tenantId && row.outboxId = recovery.outboxId &&
      row.deliveryId = recovery.deliveryId && row.eventId = recovery.eventId &&
      row.recipientId = recovery.recipientId &&
      row.dependsOnOutboxId = recovery.dependsOnOutboxId &&
      row.dependsOnDeliveryId = recovery.dependsOnDeliveryId &&
      row.state = .waitingDependency && row.revision = recovery.revision
  | .feedback current _ _ _ => row.asRead current
  | .relayClaim work lease =>
    row.state = .pending && row.revision = work.revision && row.relay.claimable work lease
  | .markQueued work | .reschedule work _ _ =>
    row.state = .pending && row.revision = work.revision && row.relay.heldBy work
  | .create snapshot _ _ => row.createdAs snapshot
  | .checkTerminal state revision => row.state = state && row.revision = revision
  | .checkFeedback current => row.asRead current
  | .checkOpening opening =>
    row.outboxId = opening.outboxId && row.deliveryId = opening.deliveryId &&
      row.eventId = opening.eventId && row.state = opening.state &&
      row.revision = opening.revision
  | .checkAbsent => false

/-- The effect of an update on a row that exists. -/
def rowEffect (update : DeliveryUpdate) (row : DeliveryRow) : DeliveryRow :=
  match update with
  | .repairPublication record now =>
    { row with
      state := .queued, updatedAt := now, revision := record.revision + 1
      relay := row.relay.withdrawn }
  | .claim record request =>
    { row with
      state := .processing, revision := record.revision + 1, leaseOwner := some request.owner
      leaseEpoch := some (record.leaseEpoch + 1), leaseExpiresAt := some request.expiresAt
      updatedAt := request.now, nextAttemptAt := none, awaitingIntervention := false }
  | .renew _ expiresAt => { row with leaseExpiresAt := some expiresAt }
  | .transition record step => step.effect record row
  | .beginAttempt record request =>
    { row with
      attemptCount := some (record.attemptCount + 1), lastAttemptId := some request.attemptId
      updatedAt := request.startedAt, revision := record.revision + 1 }
  | .completeAttempt record completion =>
    { row with
      state := completion.nextState, revision := record.revision + 1
      updatedAt := completion.completedAt
      possiblyAccepted := completion.possiblyAccepted || record.possiblyAccepted
      ambiguousExhausted := completion.ambiguousExhausted
      awaitingIntervention := completion.awaitingIntervention
      providerMessageId := completion.providerMessageId.or row.providerMessageId
      providerAttemptId :=
        if completion.providerMessageId.isSome then some completion.attemptId
        else row.providerAttemptId
      providerOutcome := completion.providerOutcome.or row.providerOutcome
      nextAttemptAt := completion.nextAttemptAt, leaseOwner := none, leaseExpiresAt := none }
  | .releaseRecovery recovery (.pending index) now =>
    { row with
      state := .pending, revision := recovery.revision + 1, updatedAt := now
      cancellationReason := none, leaseOwner := none, leaseExpiresAt := none
      relay :=
        { row.relay with
          availableAt := some now, workKind := some .delivery, index := some index } }
  | .releaseRecovery recovery .cancelled now =>
    { row with
      state := .cancelled, revision := recovery.revision + 1, updatedAt := now
      cancellationReason := some .openingNotSucceeded, leaseOwner := none
      leaseExpiresAt := none
      relay := { row.relay with availableAt := none, workKind := none, index := none } }
  | .feedback current nextState decision now =>
    let noted := { row with
      state := nextState, revision := current.revision + 1, updatedAt := now
      providerAccepted := decision.metadata.accepted
      providerOutcome := decision.metadata.outcome
      providerMessageId := decision.metadata.messageId
      providerAttemptId := decision.metadata.attemptId }
    if nextState = .processing ∨ nextState = .retryableFailed then noted
    else
      { noted with
        leaseOwner := none, leaseExpiresAt := none, nextAttemptAt := none
        ambiguousExhausted := false, awaitingIntervention := false }
  | .relayClaim work lease => { row with relay := row.relay.claim work lease }
  | .markQueued work =>
    { row with state := .queued, revision := work.revision + 1, relay := row.relay.withdrawn }
  | .reschedule work next index =>
    { row with revision := work.revision + 1, relay := row.relay.reschedule work next index }
  | .create _ availableAt index =>
    -- Every attribute is written only if it is missing.
    { row with
      relay :=
        { row.relay with
          availableAt := row.relay.availableAt.or (index.map fun _ => availableAt)
          workKind := row.relay.workKind.or (index.map fun _ => .delivery)
          index := row.relay.index.or index } }
  | .checkTerminal _ _ | .checkFeedback _ | .checkOpening _ | .checkAbsent => row

/-- An update needs its row. -/
def condition (update : DeliveryUpdate) : Option DeliveryRow → Bool
  | some row => update.rowCondition row
  | none =>
    match update with
    | .create _ _ _ | .checkAbsent => true
    | _ => false

/-- The row after an update. -/
def effect (update : DeliveryUpdate) : Option DeliveryRow → Option DeliveryRow
  | some row => some (update.rowEffect row)
  | none =>
    match update with
    | .create snapshot availableAt index => some (DeliveryRow.ofSnapshot snapshot availableAt index)
    | _ => none

@[simp]
theorem condition_some (update : DeliveryUpdate) (row : DeliveryRow) :
    update.condition (some row) = update.rowCondition row :=
  rfl

@[simp]
theorem effect_some (update : DeliveryUpdate) (row : DeliveryRow) :
    update.effect (some row) = some (update.rowEffect row) :=
  rfl

end DeliveryUpdate

/-- Feedback settles an open outcome only. -/
def nextAttemptOutcome (current : AttemptOutcome) (event : FeedbackEvent) : AttemptOutcome :=
  match current with
  | .started | .retryable | .ambiguous =>
    if event.permanentFailure then .permanentFailed
    else if event.acceptedEvidence && event.completesAttempt then .succeeded
    else current
  | .succeeded | .permanentFailed => current

/-- Updates of attempts. -/
inductive AttemptUpdate where
  | put (row : AttemptRow)
  | complete (completion : AttemptCompletion)
  | completeBesideTerminal (deliveryId : DeliveryId) (completion : AttemptCompletion)
  | feedback (current : AttemptRow) (event : FeedbackEvent) (now : Instant)

/-- What a completion writes to its attempt. -/
def AttemptRow.completed (row : AttemptRow) (completion : AttemptCompletion) : AttemptRow :=
  { row with
    outcome := completion.outcome
    completedAt := some completion.completedAt
    providerMessageId := completion.providerMessageId.or row.providerMessageId
    providerOutcome := completion.providerOutcome.or row.providerOutcome }

namespace AttemptUpdate

/-- A put needs a free key. -/
def condition (update : AttemptUpdate) : Option AttemptRow → Bool
  | none =>
    match update with
    | .put _ => true
    | _ => false
  | some row =>
    match update with
    | .put _ => false
    | .complete _ => row.outcome = .started
    | .completeBesideTerminal deliveryId completion =>
      row.deliveryId = deliveryId && row.attemptId = completion.attemptId &&
        row.outcome = .started
    | .feedback current _ _ =>
      row.deliveryId = current.deliveryId && row.attemptId = current.attemptId &&
        row.outcome = current.outcome && row.providerOutcome = current.providerOutcome &&
        row.providerMessageId = current.providerMessageId

/-- The attempt after an update. -/
def effect (update : AttemptUpdate) : Option AttemptRow → Option AttemptRow
  | none =>
    match update with
    | .put row => some row
    | _ => none
  | some row =>
    match update with
    | .put _ => some row
    | .complete completion | .completeBesideTerminal _ completion =>
      some (row.completed completion)
    | .feedback current event now =>
      let outcome := nextAttemptOutcome current.outcome event
      some { row with
        outcome := outcome
        completedAt :=
          if outcome = current.outcome then row.completedAt else row.completedAt.or (some now)
        providerOutcome :=
          some (reconcileProviderOutcome current.providerOutcome event.providerOutcome)
        providerMessageId := current.providerMessageId.or (some event.providerMessageId)
        providerAccepted := current.providerAccepted || event.acceptedEvidence }

/-- No update removes an attempt. -/
theorem effect_isSome (update : AttemptUpdate) (row : AttemptRow) :
    ∃ row', update.effect (some row) = some row' := by
  cases update <;> exact ⟨_, rfl⟩

end AttemptUpdate

/-- The update expressions on outbox rows. -/
inductive OutboxUpdate where
  | relayClaim (work : Work) (lease : LeaseRequest)
  | reschedule (work : Work) (next : Instant) (index : RelayIndexKey)
  | expand (work : Work) (relayTime : Instant) (page : WorkResult)
      (next : Option (Cursor × RelayIndexKey))

/-- Pending at the revision and cursor of the work. -/
def OutboxRow.unchanged (row : OutboxRow) (work : Work) : Bool :=
  row.expansionStatus = .pending &&
    (if work.revision = 0 then row.expansionRevision.getD 0 = 0
      else row.expansionRevision = some work.revision) &&
    row.expansionCursor = work.cursor

namespace OutboxUpdate

/-- What an update asks of an outbox. -/
def rowCondition (update : OutboxUpdate) (row : OutboxRow) : Bool :=
  match update with
  | .relayClaim work lease => row.unchanged work && row.relay.claimable work lease
  | .reschedule work _ _ | .expand work _ _ _ => row.unchanged work && row.relay.heldBy work

/-- What an update makes of an outbox. -/
def rowEffect (update : OutboxUpdate) (row : OutboxRow) : OutboxRow :=
  match update with
  | .relayClaim work lease => { row with relay := row.relay.claim work lease }
  | .reschedule work next index =>
    { row with
      expansionRevision := some (work.revision + 1)
      relay := row.relay.reschedule work next index }
  | .expand work relayTime page next =>
    let counted := { row with
      expansionStartedAt :=
        row.expansionStartedAt.or (some (work.expansionStartedAt.getD relayTime))
      expansionRevision := some (work.revision + 1)
      recipientsExamined := work.recipientsExamined + page.recipientsExamined
      deliveriesCreated := work.deliveriesCreated + page.deliveriesCreated
      deliveriesCancelled := work.deliveriesCancelled + page.deliveriesCancelled
      recipientsFiltered := work.recipientsFiltered + page.recipientsFiltered }
    match next with
    | none =>
      { counted with
        expansionStatus := .expanded, expansionCursor := none
        relay := { row.relay.withdrawn with workKind := some work.candidate.kind } }
    | some (cursor, index) =>
      { counted with
        expansionCursor := some cursor
        relay := row.relay.reschedule work relayTime index }

/-- An update needs its outbox. -/
def condition (update : OutboxUpdate) (row : Option OutboxRow) : Bool :=
  row.any update.rowCondition

/-- The outbox after an update. -/
def effect (update : OutboxUpdate) (row : Option OutboxRow) : Option OutboxRow :=
  row.map update.rowEffect

end OutboxUpdate

/-! ## Gates, markers and suppressions -/

/-- The condition checks on the rows that allow a send. -/
inductive GateCheck where
  | member (record : DeliveryRecord) (fence : GateFence)
  | emailPreference (record : DeliveryRecord) (fence : GateFence)
  | telegramPreference (record : DeliveryRecord) (fence : GateFence)
  | binding (record : DeliveryRecord) (fence : GateFence)
  | destination (record : DeliveryRecord) (fence : GateFence)
  | emailEvent (record : DeliveryRecord) (fence : GateFence)
  | telegramEvent (record : DeliveryRecord) (fence : GateFence)
  | deliverability (dependency : DeliverabilityDependency)

/-- The row that was read, and the new reason. -/
structure SuppressionPut where
  current : Option DeliverabilityRow
  reason : SuppressionReason

/-- The row still says what was read. -/
def SuppressionPut.condition (suppress : SuppressionPut) : Option DeliverabilityRow → Bool
  | none => suppress.current.isNone
  | some row =>
    suppress.current.any fun current =>
      row.deliverability = current.deliverability &&
        if current.rank.getD 0 = 0 then row.rank = none
        else row.rank = current.rank && row.reason = current.reason

/-- The row of a suppressed address. -/
def SuppressionPut.row (suppress : SuppressionPut) : DeliverabilityRow :=
  { entityType := "email_deliverability"
    deliverability := some .suppressed
    reason := some (.known suppress.reason)
    rank := some suppress.reason.rank }

/-- The condition for suppressing a destination. -/
def suppressDestination (record : DeliveryRecord) (row : TelegramDestinationRow) : Bool :=
  row.entityType = "telegram_destination" && row.destinationId = record.delivery.destinationId &&
    row.recipientId = record.delivery.recipientId && row.chatId = record.delivery.telegramChatId &&
    row.version = record.telegramDestinationVersion &&
    (row.status = "active" || row.status = "suppressed")

/-- The items of transactions. -/
inductive Item where
  | delivery (outboxId : OutboxId) (deliveryId : DeliveryId) (update : DeliveryUpdate)
  | attempt (deliveryId : DeliveryId) (attemptId : String) (update : AttemptUpdate)
  | outbox (tenantId : String) (outboxId : OutboxId) (update : OutboxUpdate)
  | gate (check : GateCheck)
  | destination (record : DeliveryRecord)
  | transport (eventBridgeId : String) (row : TransportRow)
  | semantic (providerMessageId : String) (semanticType : SemanticType) (row : SemanticRow)
  | suppression (identity : String) (suppress : SuppressionPut)

/-- A condition check on one row. -/
def checkItem (key : Key) (condition : Row key → Bool) : TableItem Row :=
  ⟨key, fun row => row.any condition, id⟩

/-- A put that requires the key to be free. -/
def putItem (key : Key) (row : Row key) : TableItem Row :=
  ⟨key, Option.isNone, fun _ => some row⟩

/-- A check as an item. -/
def GateCheck.toTableItem : GateCheck → TableItem Row
  | .member record fence =>
    checkItem (.member record.delivery.tenantId record.delivery.recipientId)
      fun (row : MemberRow) =>
        row.entityType = "tenant_member" && row.tenantId = record.delivery.tenantId &&
          row.recipientId = record.delivery.recipientId && row.status = "active" &&
          row.version = fence.membershipVersion
  | .emailPreference record fence =>
    checkItem (.preference record.delivery.tenantId record.delivery.recipientId)
      fun (row : PreferenceRow) =>
        row.entityType = "notification_preference" &&
          row.tenantId = record.delivery.tenantId &&
          row.recipientId = record.delivery.recipientId &&
          row.version = fence.preferenceVersion && row.emailEnabled &&
          row.emailAddress = fence.preferenceEmailAddress && row.emailVerified &&
          row.minimumSeverity = fence.preferenceMinimumSeverity
  | .telegramPreference record fence =>
    checkItem (.preference record.delivery.tenantId record.delivery.recipientId)
      fun (row : PreferenceRow) =>
        row.entityType = "notification_preference" &&
          row.tenantId = record.delivery.tenantId &&
          row.recipientId = record.delivery.recipientId &&
          row.version = fence.preferenceVersion && row.telegramEnabled &&
          row.minimumSeverity = fence.preferenceMinimumSeverity
  | .binding record fence =>
    checkItem (.telegramBinding record.delivery.tenantId record.delivery.recipientId)
      fun (row : TelegramBindingRow) =>
        row.entityType = "telegram_binding" && row.tenantId = record.delivery.tenantId &&
          row.recipientId = record.delivery.recipientId &&
          row.destinationId = fence.telegramDestinationId && row.status = "verified" &&
          row.version = fence.telegramBindingVersion
  | .destination record fence =>
    checkItem (.telegramDestination fence.telegramDestinationId)
      fun (row : TelegramDestinationRow) =>
        row.entityType = "telegram_destination" &&
          row.recipientId = record.delivery.recipientId &&
          row.destinationId = fence.telegramDestinationId &&
          row.chatId = fence.telegramChatId && row.status = "active" &&
          row.version = fence.telegramDestinationVersion
  | .emailEvent record fence =>
    checkItem (.alertEvent record.delivery.tenantId record.delivery.eventId)
      fun (row : AlertEventRow) =>
        row.entityType = "alert_event" && row.tenantId = record.delivery.tenantId &&
          row.eventId = record.delivery.eventId && row.ruleId = record.delivery.ruleId &&
          row.severity = fence.eventSeverity
  | .telegramEvent record fence =>
    checkItem (.alertEvent record.delivery.tenantId record.delivery.eventId)
      fun (row : AlertEventRow) =>
        row.entityType = "alert_event" && row.tenantId = record.delivery.tenantId &&
          row.eventId = record.delivery.eventId && row.ruleId = record.delivery.ruleId &&
          row.severity = fence.eventSeverity && row.status = fence.eventStatus
  | .deliverability dependency =>
    match dependency.state with
    | some state =>
      checkItem (.deliverability dependency.identity) fun (row : DeliverabilityRow) =>
        row.deliverability = some state
    | none => ⟨.deliverability dependency.identity, Option.isNone, id⟩

/-- Condition and effect of an item. -/
def Item.toTableItem : Item → TableItem Row
  | .delivery outboxId deliveryId update =>
    ⟨.delivery outboxId deliveryId, update.condition, update.effect⟩
  | .attempt deliveryId attemptId update =>
    ⟨.attempt deliveryId attemptId, update.condition, update.effect⟩
  | .outbox tenantId outboxId update =>
    ⟨.outbox tenantId outboxId, update.condition, update.effect⟩
  | .gate check => check.toTableItem
  | .destination record =>
    ⟨.telegramDestination record.delivery.destinationId,
      fun row => row.any (suppressDestination record),
      fun row => row.map fun (stored : TelegramDestinationRow) =>
        { stored with status := "suppressed", version := stored.version + 1 }⟩
  | .transport eventBridgeId row => putItem (.transport eventBridgeId) row
  | .semantic providerMessageId semanticType row =>
    putItem (.semantic providerMessageId semanticType) row
  | .suppression identity suppress =>
    ⟨.deliverability identity, suppress.condition, fun _ => some suppress.row⟩

end LimnoPulse.Notifications
