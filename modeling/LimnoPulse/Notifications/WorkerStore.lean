import LimnoPulse.Notifications.Operations

/-!
# The worker's store

Claiming a delivery, moving a claimed one, and recording an attempt and its
completion, as programs over single requests to the table.

Main results:

- Definition `acquire`: reading a delivery and claiming it if it is due.
- Definition `completeAttempt`: the completion of an attempt with its three ways
  to try again.
-/

namespace LimnoPulse.Notifications

open CivilTime StoreProgram

variable (P : Platform) (record : DeliveryRecord)

/-- A lost race, an ended delivery, or work not ready yet. -/
inductive StoreError where
  | conditional
  | concurrentTerminal
  | retryAt (instant : Instant)
  | other
deriving DecidableEq

/-- The calls for a delivery. -/
def maxProviderCalls : Nat := 5

/-- `getConsistent`. -/
def getConsistent (key : Key) : Prog (Except StoreError (Option (Row key))) := do
  match ← getItem key with
  | .row value => pure (.ok value)
  | .unavailable => pure (.error .other)

/-- `decodeDelivery`: the record of a valid row in its place. -/
def decodeDelivery (outboxId : OutboxId) (deliveryId : DeliveryId) (row : DeliveryRow) :
    Option DeliveryRecord :=
  if row.outboxId = outboxId && row.deliveryId = deliveryId && decide (1 ≤ row.revision) &&
      decide (row.attemptCount.getD 0 ≤ maxProviderCalls) && row.toDeliverySnapshot.valid P then
    some
      { delivery := row.toDeliverySnapshot
        revision := row.revision
        attemptCount := row.attemptCount.getD 0
        lastAttemptId := row.lastAttemptId
        leaseOwner := row.leaseOwner
        leaseEpoch := row.leaseEpoch.getD 0
        leaseExpiresAt := row.leaseExpiresAt
        nextAttemptAt := row.nextAttemptAt
        providerOutcome := row.providerOutcome
        providerMessageId := row.providerMessageId
        providerAttemptId := row.providerAttemptId
        possiblyAccepted := row.possiblyAccepted
        ambiguousExhausted := row.ambiguousExhausted
        awaitingIntervention := row.awaitingIntervention
        awaitingDlq := row.awaitingDlq }
  else none

/-- `loadAttemptOutcome`: it must be there. -/
def loadAttemptOutcome (deliveryId : DeliveryId) (attemptId : String) :
    Prog (Except StoreError AttemptOutcome) :=
  if !validateIdentityField attemptId then pure (.error .other)
  else
    (getConsistent (.attempt deliveryId attemptId)).andThen fun
      | none => pure (.error .other)
      | some (attempt : AttemptRow) =>
        if attempt.deliveryId = deliveryId ∧ attempt.attemptId = attemptId then
          pure (.ok attempt.outcome)
        else pure (.error .other)

/-- `Refresh`: the claimed delivery, and whether it has ended. -/
def refresh : Prog (Except StoreError (DeliveryRecord × Bool)) :=
  (getConsistent (.delivery record.delivery.outboxId record.delivery.deliveryId)).andThen fun
    | none => pure (.error .other)
    | some (row : DeliveryRow) =>
      match decodeDelivery P record.delivery.outboxId record.delivery.deliveryId row with
      | none => pure (.error .other)
      | some refreshed =>
        if refreshed.delivery.state.terminal then pure (.ok (refreshed, true))
        else if refreshed.delivery.state ≠ .processing ∨ refreshed.revision ≠ record.revision ∨
            refreshed.leaseOwner ≠ record.leaseOwner ∨
            refreshed.leaseEpoch ≠ record.leaseEpoch then
          pure (.error .other)
        else pure (.ok (refreshed, false))

/-! ## Claiming -/

/-- What a worker gets. -/
inductive AcquireResult where
  | claimed (record : DeliveryRecord)
  | terminal
  | deferred (retryAfter : Int)
  | awaitDlq
deriving DecidableEq

/-- The job names the delivery. -/
def DeliveryRecord.matchesJob (job : JobEnvelope) : Bool :=
  record.delivery.tenantId = job.tenantId && record.delivery.outboxId = job.outboxId &&
    record.delivery.deliveryId = job.deliveryId && record.delivery.eventId = job.eventId &&
    record.delivery.kind = job.kind && record.delivery.channel = job.channel

/-- An update, answered with the new record. -/
def updateRecord (update : DeliveryUpdate) :
    Prog (Except StoreError (DeliveryRow × DeliveryRecord)) := do
  match ← updateDelivery record.delivery.outboxId record.delivery.deliveryId update with
  | .updated row =>
    match decodeDelivery P record.delivery.outboxId record.delivery.deliveryId row with
    | some updated => pure (.ok (row, updated))
    | none => pure (.error .other)
  | .conditionalCheckFailed => pure (.error .conditional)
  | .unavailable => pure (.error .other)

/-- `repairPublication`: a message is there, so it is queued. -/
def repairPublication (now : Instant) : Prog (Except StoreError (DeliveryRow × DeliveryRecord)) :=
  if validateTransition P record.delivery .queued then
    updateRecord P record (.repairPublication record now)
  else pure (.error .other)

/-- `claim`. -/
def claim (request : ClaimRequest) : Prog (Except StoreError (DeliveryRow × DeliveryRecord)) :=
  if validateTransition P record.delivery .processing then
    updateRecord P record (.claim record request)
  else pure (.error .other)

/-- A lost race is a reason to come back in a second. -/
def deferConditional (result : Except StoreError AcquireResult) : Except StoreError AcquireResult :=
  match result with
  | .error .conditional => .ok (.deferred second)
  | _ => result

/-- The claim at the end of `Acquire`. -/
def acquireClaim (request : ClaimRequest) : Prog (Except StoreError AcquireResult) := do
  let result ← (claim P record request).andThen fun (_, claimed) =>
    pure (.ok (.claimed { claimed with startedAttemptId := record.startedAttemptId }))
  pure (deferConditional result)

/-- `Acquire` of a delivery not marked as queued. -/
def acquirePending (request : ClaimRequest) : Prog (Except StoreError AcquireResult) := do
  match ← repairPublication P record request.now with
  | .ok (_, queued) => acquireClaim P queued request
  | .error failure => pure (deferConditional (.error failure))

/-- `Acquire` of an expired claim that allows another attempt. -/
def acquireExpired (request : ClaimRequest) : Prog (Except StoreError AcquireResult) :=
  match record.lastAttemptId with
  | none => acquireClaim P record request
  | some attemptId =>
    (loadAttemptOutcome record.delivery.deliveryId attemptId).andThen fun
      | .started => acquireClaim P { record with startedAttemptId := some attemptId } request
      | .retryable | .ambiguous => acquireClaim P record request
      | .succeeded | .permanentFailed => pure (.ok .awaitDlq)

/-- Wait until an instant that has not come yet. -/
def unlessBefore (now : Instant) (until_ : Option Instant)
    (next : Prog (Except StoreError AcquireResult)) : Prog (Except StoreError AcquireResult) :=
  match until_ with
  | some instant =>
    if now < instant then pure (.ok (.deferred (instant - now))) else next
  | none => next

/-- `Acquire`. -/
def acquire (job : JobEnvelope) (request : ClaimRequest) : Prog (Except StoreError AcquireResult) :=
  if !job.valid || request.owner = "" || decide (request.expiresAt ≤ request.now) then
    pure (.error .other)
  else
    (getConsistent (.delivery job.outboxId job.deliveryId)).andThen fun
      | none => pure (.ok .awaitDlq)
      | some (row : DeliveryRow) =>
        match decodeDelivery P job.outboxId job.deliveryId row with
        | none => pure (.ok .awaitDlq)
        | some record =>
          if !record.matchesJob job || record.awaitingDlq then pure (.ok .awaitDlq)
          else
            match record.delivery.state with
            | .succeeded | .permanentFailed | .cancelled | .unknown => pure (.ok .terminal)
            | .pending =>
              if request.sqsMessageId = "" then pure (.ok .awaitDlq)
              else
                unlessBefore request.now row.relay.leaseExpiresAt
                  (acquirePending P record request)
            | .retryableFailed =>
              unlessBefore request.now record.nextAttemptAt (acquireClaim P record request)
            | .processing =>
              if record.leaseExpiresAt = none then pure (.ok .awaitDlq)
              else
                unlessBefore request.now record.leaseExpiresAt
                  (acquireExpired P record request)
            | .queued => acquireClaim P record request
            | .waitingDependency => pure (.ok .awaitDlq)

/-- What an opening's state means for its recovery. -/
inductive OpeningEnd where
  | succeeded
  | notSucceeded
deriving DecidableEq

/-- The waiting recovery of an ended opening, or the check that there is none, which fences a
fan-out. -/
def recoveryOperation (opening : DeliverySnapshot) (ending : OpeningEnd) (now : Instant) :
    Prog (Except StoreError (Option Item)) :=
  match newDeliveryId opening.eventId .recovery opening.channel opening.recipientId with
  | none => pure (.error .other)
  | some deliveryId =>
    let outboxId : OutboxId := ⟨opening.eventId, opening.channel, .recovery⟩
    (getConsistent (.delivery outboxId deliveryId)).andThen fun
      | none => pure (.ok (some (.delivery outboxId deliveryId .checkAbsent)))
      | some (recovery : DeliveryRow) =>
        if recovery.state ≠ .waitingDependency then pure (.ok none)
        else if recovery.channel = .email ∧ recovery.tenantId = opening.tenantId ∧
            recovery.outboxId = outboxId ∧ recovery.deliveryId = deliveryId ∧
            recovery.eventId = opening.eventId ∧ recovery.kind = .recovery ∧
            recovery.channel = opening.channel ∧ recovery.recipientId = opening.recipientId ∧
            recovery.dependsOnOutboxId = some opening.outboxId ∧
            recovery.dependsOnDeliveryId = some opening.deliveryId ∧ 1 ≤ recovery.revision then
          match ending with
          | .notSucceeded =>
            pure (.ok (some (.delivery outboxId deliveryId
              (.releaseRecovery recovery .cancelled now))))
          | .succeeded =>
            match buildRelayIndexKey .delivery recovery.tenantId (.inr recovery.deliveryId)
                now with
            | some index =>
              pure (.ok (some (.delivery outboxId deliveryId
                (.releaseRecovery recovery (.pending index) now))))
            | none => pure (.error .other)
        else pure (.error .other)

/-- `recoveryDependencyOperation` of the worker. -/
def recoveryDependencyOperation (nextOpeningState : DeliveryState) (now : Instant) :
    Prog (Except StoreError (Option Item)) :=
  if record.delivery.kind ≠ .opening then pure (.ok none)
  else
    match nextOpeningState with
    | .succeeded => recoveryOperation record.delivery .succeeded now
    | .permanentFailed | .cancelled => recoveryOperation record.delivery .notSucceeded now
    | _ => pure (.ok none)

/-! ## Transitions of a claimed delivery -/

/-- The item of an update of the record's delivery. -/
def DeliveryRecord.item (update : DeliveryUpdate) : Item :=
  .delivery record.delivery.outboxId record.delivery.deliveryId update

/-- `transitionProcessing`. -/
def transitionProcessing (step : ProcessingTransition) : Prog (Except StoreError Unit) := do
  match ← updateDelivery record.delivery.outboxId record.delivery.deliveryId
      (.transition record step) with
  | .updated _ => pure (.ok ())
  | .conditionalCheckFailed => pure (.error .conditional)
  | .unavailable => pure (.error .other)

/-- Whether a transaction went through. -/
def transactItems (items : List Item) : Prog (Except StoreError Unit) := do
  match ← transactWriteItems items with
  | .committed => pure (.ok ())
  | .cancelled _ | .unavailable => pure (.error .other)

/-- `transitionTerminalOpening`. -/
def transitionTerminalOpening (nextState : DeliveryState) (now : Instant)
    (step : ProcessingTransition) : Prog (Except StoreError Unit) :=
  (recoveryDependencyOperation record nextState now).andThen fun
    | none => transitionProcessing record step
    | some recovery => transactItems [record.item (.transition record step), recovery]

/-- `Cancel`. -/
def cancel (reason : CancellationReason) (now : Instant) : Prog (Except StoreError Unit) :=
  if validateTransition P record.delivery .cancelled then
    transitionTerminalOpening record .cancelled now (.cancel reason now)
  else pure (.error .other)

/-- `Defer`. -/
def defer (request : DeferRequest) : Prog (Except StoreError Unit) :=
  if decide (request.nextAttemptAt < request.now) || request.errorCategory = "" ||
      !validateTransition P record.delivery .retryableFailed then
    pure (.error .other)
  else transitionProcessing record (.defer request)

/-- The checks of `CompletePreflightFailure`. -/
def PreflightFailureCompletion.valid (completion : PreflightFailureCompletion)
    (record : DeliveryRecord) : Bool :=
  completion.errorCategory ≠ "" && validateTransition P record.delivery completion.nextState &&
    (!record.possiblyAccepted || completion.possiblyAccepted) &&
    match completion.nextState with
    | .permanentFailed =>
      completion.nextAttemptAt.isNone && !completion.possiblyAccepted &&
        !completion.ambiguousExhausted && !completion.awaitingIntervention
    | .retryableFailed =>
      completion.nextAttemptAt.any (fun next => decide (completion.completedAt ≤ next)) &&
        (completion.ambiguousExhausted || completion.awaitingIntervention)
    | _ => false

/-- The write of `CompletePreflightFailure`. -/
def preflightTransition (completion : PreflightFailureCompletion) : Prog (Except StoreError Unit) :=
  if completion.nextState = .permanentFailed then
    transitionTerminalOpening record completion.nextState completion.completedAt
      (.preflightFailure completion)
  else transitionProcessing record (.preflightFailure completion)

/-- `CompletePreflightFailure`. -/
def completePreflightFailure (completion : PreflightFailureCompletion) :
    Prog (Except StoreError Unit) :=
  if completion.valid P record then do
    match ← preflightTransition record completion with
    | .ok () => pure (.ok ())
    | .error _ =>
      match ← refresh P record with
      | .ok (_, true) => pure (.error .concurrentTerminal)
      | _ => pure (.error .other)
  else pure (.error .other)

/-- `FinalizeUnknown`. -/
def finalizeUnknown (now : Instant) : Prog (Except StoreError Unit) :=
  if record.ambiguousExhausted && record.possiblyAccepted &&
      validateTransition P record.delivery .unknown then
    transitionProcessing record (.finalizeUnknown now)
  else pure (.error .other)

/-- `Renew`. -/
def renew (expiresAt : Instant) : Prog (Except StoreError Unit) :=
  if record.delivery.state = .processing then do
    match ← updateDelivery record.delivery.outboxId record.delivery.deliveryId
        (.renew record expiresAt) with
    | .updated _ => pure (.ok ())
    | .conditionalCheckFailed => pure (.error .conditional)
    | .unavailable => pure (.error .other)
  else pure (.error .other)

/-! ## Attempts -/

/-- A severity of alerts. -/
def isGateSeverity (value : String) : Bool := value = "warning" || value = "critical"

/-- A status that is told by Telegram. -/
def isTelegramEventStatus (value : String) : Bool :=
  value = "open" || value = "acknowledged" || value = "resolved"

/-- `IsComplete`. -/
def GateFence.isComplete (fence : GateFence) : Bool :=
  decide (1 ≤ fence.membershipVersion) && decide (1 ≤ fence.preferenceVersion) &&
    isGateSeverity fence.preferenceMinimumSeverity && isGateSeverity fence.eventSeverity &&
    match fence.channel with
    | .telegram =>
      validateIdentityField fence.telegramDestinationId && decide (0 < fence.telegramChatId) &&
        decide (0 < fence.telegramBindingVersion) &&
        decide (0 < fence.telegramDestinationVersion) && isTelegramEventStatus fence.eventStatus &&
        fence.preferenceEmailAddress = "" && fence.deliverabilityDependencies.isEmpty
    | .email =>
      validateIdentityField fence.preferenceEmailAddress &&
        decide (1 ≤ fence.deliverabilityDependencies.length) &&
        decide (fence.deliverabilityDependencies.length ≤ 2) &&
        decide (fence.deliverabilityDependencies.map DeliverabilityDependency.identity).Nodup &&
        fence.deliverabilityDependencies.all fun dependency =>
          dependency.state ≠ some .suppressed

/-- `gateFenceConditions`: the gates have not changed. -/
def gateFenceConditions (fence : GateFence) : List Item :=
  match record.delivery.channel with
  | .telegram =>
    [.gate (.member record fence), .gate (.telegramPreference record fence),
      .gate (.binding record fence), .gate (.destination record fence),
      .gate (.telegramEvent record fence)]
  | .email =>
    [.gate (.member record fence), .gate (.emailPreference record fence),
      .gate (.emailEvent record fence)] ++
      fence.deliverabilityDependencies.map fun dependency => .gate (.deliverability dependency)

/-- The attempt that `BeginAttempt` records. -/
def startedAttempt (request : BeginAttemptRequest) : AttemptRow :=
  { tenantId := record.delivery.tenantId
    outboxId := record.delivery.outboxId
    deliveryId := record.delivery.deliveryId
    attemptId := request.attemptId
    eventId := record.delivery.eventId
    kind := record.delivery.kind
    channel := record.delivery.channel
    outcome := .started
    startedAt := request.startedAt }

/-- The items that start an attempt. -/
def beginAttemptItems (request : BeginAttemptRequest) : List Item :=
  [record.item (.beginAttempt record request),
    .attempt record.delivery.deliveryId request.attemptId (.put (startedAttempt record request))] ++
    gateFenceConditions record request.gateFence

/-- The record after its attempt was started. -/
def DeliveryRecord.begun (request : BeginAttemptRequest) : DeliveryRecord :=
  { record with
    revision := record.revision + 1
    attemptCount := record.attemptCount + 1
    lastAttemptId := some request.attemptId
    telegramDestinationVersion :=
      if record.delivery.channel = .telegram then request.gateFence.telegramDestinationVersion
      else record.telegramDestinationVersion
    delivery := { record.delivery with updatedAt := request.startedAt } }

/-- `BeginAttempt`. -/
def beginAttempt (request : BeginAttemptRequest) : Prog (Except StoreError DeliveryRecord) :=
  if record.delivery.state = .processing && validateIdentityField request.attemptId &&
      decide (request.startedAt < request.leaseRequiredUntil) &&
      decide (record.attemptCount < maxProviderCalls) && request.gateFence.isComplete then
    (transactItems (beginAttemptItems record request)).andThen fun _ =>
      pure (.ok (record.begun request))
  else pure (.error .other)

/-- `validateCompletion`. -/
def validateCompletion (completion : AttemptCompletion) : Bool :=
  (match completion.outcome with
    | .succeeded =>
      decide (completion.nextState = .succeeded) && completion.providerMessageId.isSome &&
        decide (completion.providerOutcome = some .accepted) &&
        decide (completion.errorCategory = "")
    | .permanentFailed =>
      (decide (completion.nextState = .permanentFailed) ||
        decide (completion.nextState = .retryableFailed) && completion.possiblyAccepted &&
          completion.ambiguousExhausted && completion.nextAttemptAt.isSome) &&
        decide (completion.errorCategory ≠ "")
    | .retryable =>
      (decide (completion.nextState = .retryableFailed) ||
        decide (completion.nextState = .permanentFailed)) &&
        decide (completion.errorCategory ≠ "")
    | .ambiguous =>
      (decide (completion.nextState = .retryableFailed) && completion.nextAttemptAt.isSome ||
        decide (completion.nextState = .unknown) && completion.ambiguousExhausted &&
          completion.nextAttemptAt.isNone) && completion.possiblyAccepted
    | .started => false) &&
    (completion.nextState ≠ .retryableFailed || completion.nextAttemptAt.isSome)

/-- The checks of `completeAttempt` before it starts. -/
def AttemptCompletion.valid (completion : AttemptCompletion) (record : DeliveryRecord) : Bool :=
  completion.attemptId ≠ "" && record.lastAttemptId = some completion.attemptId &&
    validateTransition P record.delivery completion.nextState && validateCompletion completion &&
    (!completion.suppressTelegramDestination ||
      record.delivery.channel = .telegram && record.delivery.destinationId ≠ "" &&
        decide (0 < record.delivery.telegramChatId) && completion.outcome = .permanentFailed &&
        completion.nextState = .permanentFailed &&
        completion.errorCategory = SendErrorCategory.text .telegramDestinationUnavailable)

/-- The transaction of a completion. -/
def completeAttemptItems (completion : AttemptCompletion) (recovery : Option Item) : List Item :=
  [.attempt record.delivery.deliveryId completion.attemptId (.complete completion),
    record.item (.completeAttempt record completion)] ++ recovery.toList ++
    if completion.suppressTelegramDestination then [.destination record] else []

/-- `telegramSuppressionFenceLost`: only the suppression failed. -/
def telegramSuppressionFenceLost (reply : TransactReply) (suppressionIndex : Option Nat) : Bool :=
  match reply, suppressionIndex with
  | .cancelled reasons, some index =>
    reasons = List.replicate index CancellationCode.none ++ [.conditionalCheckFailed]
  | _, _ => false

/-- `loadAttemptForTerminalCompletion`. -/
def loadAttemptForTerminalCompletion (deliveryId : DeliveryId) (completion : AttemptCompletion) :
    Prog (Except StoreError AttemptRow) :=
  (getConsistent (.attempt deliveryId completion.attemptId)).andThen fun
    | none => pure (.error .other)
    | some (attempt : AttemptRow) =>
      if attempt.deliveryId ≠ deliveryId ∨ attempt.attemptId ≠ completion.attemptId ∨
          (completion.providerMessageId.isSome ∧ attempt.providerMessageId.isSome ∧
            completion.providerMessageId ≠ attempt.providerMessageId) ∨
          (attempt.outcome = .started ↔ attempt.completedAt.isSome) then
        pure (.error .other)
      else pure (.ok attempt)

/-- `completeAttemptBesideKnownTerminal`: only the attempt is completed. -/
def completeAttemptBesideKnownTerminal (completion : AttemptCompletion)
    (refreshed : DeliveryRecord) : Prog (Except StoreError Unit) :=
  if !validateIdentityField completion.attemptId then pure (.error .other)
  else
    (loadAttemptForTerminalCompletion record.delivery.deliveryId completion).andThen fun attempt =>
      if attempt.outcome ≠ .started then pure (.ok ())
      else do
        match ← transactWriteItems
            [record.item (.checkTerminal refreshed.delivery.state refreshed.revision),
              .attempt record.delivery.deliveryId completion.attemptId
                (.completeBesideTerminal record.delivery.deliveryId completion)] with
        | .committed => pure (.ok ())
        | _ =>
          (loadAttemptForTerminalCompletion record.delivery.deliveryId completion).andThen
            fun current =>
              if current.outcome ≠ .started then pure (.ok ()) else pure (.error .other)

/-- `completeAttemptBesideTerminal`: whether the delivery was terminal. -/
def completeAttemptBesideTerminal (completion : AttemptCompletion) :
    Prog (Except StoreError Bool) :=
  (refresh P record).andThen fun (refreshed, terminal) =>
    if terminal then
      (completeAttemptBesideKnownTerminal record completion refreshed).andThen fun _ =>
        pure (.ok true)
    else pure (.ok false)

/-- What `refreshDelayedFeedbackCompletion` finds. -/
inductive DelayedFeedback where
  | notApplicable
  | terminal (refreshed : DeliveryRecord)
  | current (refreshed : DeliveryRecord) (mergeable : Bool)

/-- `refreshDelayedFeedbackCompletion`: after a reported delay the acceptance can still be recorded.
-/
def refreshDelayedFeedbackCompletion (completion : AttemptCompletion) :
    Prog (Except StoreError DelayedFeedback) :=
  if completion.outcome ≠ .succeeded ∨ completion.nextState ≠ .succeeded ∨
      completion.providerOutcome ≠ some .accepted ∨ completion.providerMessageId = none then
    pure (.ok .notApplicable)
  else
    (getConsistent (.delivery record.delivery.outboxId record.delivery.deliveryId)).andThen fun
      | none => pure (.error .other)
      | some (row : DeliveryRow) =>
        match decodeDelivery P record.delivery.outboxId record.delivery.deliveryId row with
        | none => pure (.error .other)
        | some refreshed =>
          if refreshed.delivery.state.terminal then pure (.ok (.terminal refreshed))
          else
            pure (.ok (.current refreshed
              (refreshed.delivery.state = .processing &&
                decide (record.revision < refreshed.revision) &&
                refreshed.leaseOwner = record.leaseOwner &&
                refreshed.leaseEpoch = record.leaseEpoch &&
                refreshed.attemptCount = record.attemptCount &&
                refreshed.lastAttemptId = some completion.attemptId &&
                refreshed.providerOutcome = some .delayed &&
                refreshed.providerAttemptId = some completion.attemptId &&
                refreshed.providerMessageId = completion.providerMessageId)))

/-- `recoveryFenceRetryableRecord`: only the recovery can have changed. -/
def recoveryFenceRetryableRecord (completion : AttemptCompletion) (refreshed : DeliveryRecord)
    (terminal : Bool) : Bool :=
  record.delivery.kind = .opening && !terminal &&
    (completion.nextState = .succeeded || completion.nextState = .permanentFailed ||
      completion.nextState = .cancelled) &&
    refreshed.delivery.state = .processing && refreshed.revision = record.revision &&
    refreshed.leaseOwner = record.leaseOwner && refreshed.leaseEpoch = record.leaseEpoch &&
    refreshed.attemptCount = record.attemptCount &&
    refreshed.lastAttemptId = some completion.attemptId

/-- `recoveryFenceRetryable`. -/
def recoveryFenceRetryable (completion : AttemptCompletion) : Prog Bool := do
  match ← refresh P record with
  | .ok (refreshed, terminal) =>
    pure (recoveryFenceRetryableRecord record completion refreshed terminal)
  | .error _ => pure false

/-- A completion that can be tried again. -/
abbrev Completer := DeliveryRecord → AttemptCompletion → Prog (Except StoreError Unit)

/-- The last resort: the delivery may have ended. -/
def completeBeside : Completer := fun record completion =>
  (completeAttemptBesideTerminal P record completion).andThen fun terminal =>
    pure (.error (if terminal then .concurrentTerminal else .other))

/-- Without a merge, a changed recovery fence is worth another try. -/
def completeAttemptConflicted (isRecoveryFenceConflict : Bool) (retried : Completer) :
    Completer := fun record completion => do
  if isRecoveryFenceConflict then
    if ← recoveryFenceRetryable P record completion then retried record completion
    else completeBeside P record completion
  else completeBeside P record completion

/-- `completeAttempt` after a failed transaction. -/
def completeAttemptFailed (allowDelayedFeedbackMerge isRecoveryFenceConflict : Bool)
    (merged retried : Completer) : Completer := fun record completion =>
  if allowDelayedFeedbackMerge then
    (refreshDelayedFeedbackCompletion P record completion).andThen fun
      | .terminal refreshed =>
        (completeAttemptBesideKnownTerminal record completion refreshed).andThen fun _ =>
          pure (.error .concurrentTerminal)
      | .current refreshed mergeable =>
        if mergeable then merged refreshed completion
        else if isRecoveryFenceConflict &&
            recoveryFenceRetryableRecord record completion refreshed false then
          retried record completion
        else completeAttemptConflicted P isRecoveryFenceConflict retried record completion
      | .notApplicable =>
        completeAttemptConflicted P isRecoveryFenceConflict retried record completion
  else completeAttemptConflicted P isRecoveryFenceConflict retried record completion

/-- The recovery operation is an absence check. -/
def isAbsenceCheck : Option Item → Bool
  | some (.delivery _ _ .checkAbsent) => true
  | _ => false

/-- The transaction was cancelled. -/
def isTransactionCanceled : TransactReply → Bool
  | .cancelled _ => true
  | _ => false

/-- One try of `completeAttempt`, given what to do about a stale suppression, a merge and a changed
fence. -/
def completeAttemptOnce (allowDelayedFeedbackMerge allowRecoveryFenceRetry : Bool)
    (withoutSuppression merged retried : Completer) : Completer := fun record completion =>
  if !completion.valid P record then pure (.error .other)
  else
    (recoveryDependencyOperation record completion.nextState completion.completedAt).andThen
      fun recovery =>
        if completion.suppressTelegramDestination && decide (record.telegramDestinationVersion < 1)
        then pure (.error .other)
        else do
          match ← transactWriteItems (completeAttemptItems record completion recovery) with
          | .committed => pure (.ok ())
          | reply =>
            if telegramSuppressionFenceLost reply
                (if completion.suppressTelegramDestination then some (2 + recovery.toList.length)
                  else none) then
              withoutSuppression record completion
            else
              completeAttemptFailed P allowDelayedFeedbackMerge
                (allowRecoveryFenceRetry && isAbsenceCheck recovery && isTransactionCanceled reply)
                merged retried record completion

/-- No further try. -/
def noRetry : Completer := fun _ _ => pure (.error .other)

/-- `completeAttempt`; a stale suppression is dropped once. -/
def completeAttemptWith (allowDelayedFeedbackMerge allowRecoveryFenceRetry : Bool)
    (merged retried : Completer) : Completer :=
  completeAttemptOnce P allowDelayedFeedbackMerge allowRecoveryFenceRetry
    (fun record completion =>
      completeAttemptOnce P allowDelayedFeedbackMerge allowRecoveryFenceRetry noRetry merged retried
        record { completion with suppressTelegramDestination := false })
    merged retried

/-- After a merge a changed fence allows another try. -/
def completeMerged : Completer :=
  completeAttemptWith P false true noRetry (completeAttemptWith P false false noRetry noRetry)

/-- `CompleteAttempt`. -/
def completeAttempt : Completer :=
  completeAttemptWith P true true (completeMerged P)
    (completeAttemptWith P true false (completeMerged P) noRetry)

end LimnoPulse.Notifications
