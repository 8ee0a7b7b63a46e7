import LimnoPulse.Notifications.Processor

/-!
# Provider feedback

A feedback event of the provider is reconciled with its attempt, its delivery, the
recovery that waits for the delivery and the deliverability of the address, in one
transaction that two markers keep from being applied twice.

Main results:

- Definition `reconcile`: at most three tries of `reconcileOnce`.
- Theorem `reconcileTransaction_items`: what a reconciliation writes.
-/

namespace LimnoPulse.Notifications

open CivilTime StoreProgram

/-- How a reconciliation ends. -/
inductive ReconcileResult where
  | applied (suppressed : Bool)
  | duplicate
  | awaitDlq
deriving DecidableEq

/-- The marker expires. -/
def validTransportDedupe (row : TransportRow) : Bool := decide (0 < row.expiresAt)

/-- The marker is of this event. -/
def validSemanticDedupe (row : SemanticRow) (event : FeedbackEvent) : Bool :=
  row.deliveryId = event.deliveryId && row.attemptId = event.attemptId

/-- Transport markers are kept for a week. -/
def defaultTransportRetention : Int := 7 * 24 * 60 * minute

/-- `transportPut`. -/
def transportPut (retention : Int) (event : FeedbackEvent) (now : Instant) : Item :=
  .transport event.eventBridgeId
    ⟨(now + orDefault retention defaultTransportRetention) / second⟩

/-- `semanticPut`. -/
def semanticPut (event : FeedbackEvent) : Item :=
  .semantic event.providerMessageId event.semanticType ⟨event.deliveryId, event.attemptId⟩

/-- The checks of `decodeAttempt`. -/
def attemptAssociated (row : AttemptRow) (event : FeedbackEvent) : Bool :=
  row.deliveryId = event.deliveryId && row.attemptId = event.attemptId && row.tenantId ≠ "" &&
    row.eventId ≠ "" && row.channel = .email &&
    (if row.outcome = .started then row.completedAt.isNone
      else row.completedAt.any fun completed => decide (row.startedAt ≤ completed)) &&
    row.providerMessageId.all fun messageId => messageId = event.providerMessageId

/-- An attempt id that can own a delivery. -/
def ownershipValid (attemptId : Option String) : Bool :=
  attemptId.all fun id => !id.toList.contains (Char.ofNat 0)

/-- The checks of `decodeDelivery` of the feedback store. -/
def deliveryAssociated (row : DeliveryRow) (event : FeedbackEvent) (attempt : AttemptRow) : Bool :=
  row.outboxId = attempt.outboxId && row.deliveryId = event.deliveryId &&
    row.tenantId = attempt.tenantId && row.eventId ≠ "" && row.recipientId ≠ "" &&
    validateIdentityField row.normalizedEmail && decide (1 ≤ row.revision) &&
    row.eventId = attempt.eventId && row.kind = attempt.kind && row.channel = .email &&
    row.channel = attempt.channel && ownershipValid row.lastAttemptId &&
    ownershipValid row.providerAttemptId

/-- `decodeSuppression` accepts the row. -/
def suppressionValid (row : DeliverabilityRow) : Bool :=
  match row.deliverability with
  | none => false
  | some .unknown | some .deliverable => row.reason.isNone && row.rank.getD 0 = 0
  | some .suppressed =>
    (row.entityType = "" || row.entityType = "email_deliverability") &&
      match row.reason with
      | some (.known reason) => row.rank.getD 0 = reason.rank
      | _ => false

/-- The provider metadata of a delivery row. -/
def DeliveryRow.providerMetadata (row : DeliveryRow) : ProviderMetadata :=
  ⟨row.providerOutcome, row.providerMessageId, row.providerAttemptId, row.providerAccepted⟩

/-- `reconcileProviderMetadata`, with the owning attempt. -/
def reconcileProviderMetadata (outcome : Option ProviderOutcome) (messageId : Option String)
    (accepted : Bool) (event : FeedbackEvent) : ProviderMetadata :=
  ⟨some (reconcileProviderOutcome outcome event.providerOutcome),
    messageId.or (some event.providerMessageId), some event.attemptId,
    accepted || event.acceptedEvidence⟩

/-- Without an owner, the message id is another's. -/
def DeliveryRow.legacyMessageDiffers (row : DeliveryRow) (event : FeedbackEvent) : Bool :=
  row.providerAttemptId.isNone &&
    row.providerMessageId.any fun messageId => messageId ≠ event.providerMessageId

/-- The delivery was accepted under another attempt. -/
def DeliveryRow.acceptedElsewhere (row : DeliveryRow) (event : FeedbackEvent) : Bool :=
  row.providerAccepted &&
    (row.providerAttemptId.any (fun attemptId => attemptId ≠ event.attemptId) ||
      row.legacyMessageDiffers event)

/-- The event's attempt owns the metadata or is the latest, or nobody owns them. -/
def DeliveryRow.ownsAggregate (row : DeliveryRow) (event : FeedbackEvent) : Bool :=
  row.providerAttemptId = some event.attemptId || row.lastAttemptId = some event.attemptId ||
    (row.providerAttemptId.isNone &&
      (row.lastAttemptId.isNone || row.lastAttemptId = some event.attemptId) &&
      row.providerMessageId.all fun messageId => messageId = event.providerMessageId) ||
    (event.acceptedEvidence && event.completesAttempt && row.providerAttemptId.isNone &&
      row.providerMessageId.isNone && row.providerOutcome.isNone)

/-- The latest attempt replaces another's metadata. -/
def reconcileDeliveryProviderMetadata (row : DeliveryRow) (event : FeedbackEvent) :
    DeliveryProviderDecision :=
  if row.ownsAggregate event then
    let replaces := row.lastAttemptId = some event.attemptId &&
      (row.providerAttemptId.any (fun attemptId => attemptId ≠ event.attemptId) ||
        row.legacyMessageDiffers event)
    { metadata :=
        reconcileProviderMetadata (if replaces then none else row.providerOutcome)
          (if replaces then none else row.providerMessageId) row.providerAccepted event
      ownsAggregate := true
      acceptedByAnotherAttempt := row.acceptedElsewhere event }
  else
    { metadata := row.providerMetadata
      ownsAggregate := false
      acceptedByAnotherAttempt := row.acceptedElsewhere event }

/-- A rejection does not undo another attempt's acceptance. -/
def reconciledDeliveryState (state : DeliveryState) (event : FeedbackEvent)
    (decision : DeliveryProviderDecision) : Option DeliveryState :=
  reconcileDeliveryStateFromProvider state
    (if event.permanentFailure && decision.acceptedByAnotherAttempt then .accepted
      else event.providerOutcome)

/-- `recoveryDependencyOperation` of the feedback store. -/
def feedbackRecoveryOperation (attempt : AttemptRow) (opening : DeliveryRow)
    (decision : DeliveryProviderDecision) (nextState : DeliveryState) (now : Instant) :
    Prog (Except StoreError (Option Item)) :=
  if attempt.kind ≠ .opening ∨ decision.ownsAggregate = false then pure (.ok none)
  else
    match opening.state with
    | .pending | .queued | .processing | .retryableFailed | .unknown =>
      match nextState with
      | .permanentFailed => recoveryOperation opening.toDeliverySnapshot .notSucceeded now
      | .succeeded => recoveryOperation opening.toDeliverySnapshot .succeeded now
      | _ => pure (.ok none)
    | _ => pure (.ok none)

/-- What a reconciliation has read and decided. -/
structure Reconciliation where
  attempt : AttemptRow
  delivery : DeliveryRow
  decision : DeliveryProviderDecision
  nextState : DeliveryState
  (recovery suppression : Option Item)

/-- An update by the owner of the metadata, or a check. -/
def Reconciliation.deliveryItem (plan : Reconciliation) (event : FeedbackEvent) (now : Instant) :
    Item :=
  .delivery plan.attempt.outboxId event.deliveryId
    (if plan.decision.ownsAggregate then
      .feedback plan.delivery plan.nextState plan.decision now
    else .checkFeedback plan.delivery)

/-- `reconcileTransaction`. -/
def reconcileTransaction (retention : Int) (event : FeedbackEvent) (now : Instant)
    (plan : Reconciliation) : List Item :=
  [transportPut retention event now, semanticPut event,
    .attempt event.deliveryId event.attemptId (.feedback plan.attempt event now),
    plan.deliveryItem event now] ++ plan.recovery.toList ++ plan.suppression.toList

/-- The items of a reconciliation. -/
theorem reconcileTransaction_items {retention : Int} {event : FeedbackEvent} {now : Instant}
    {plan : Reconciliation} {item : Item} :
    item ∈ reconcileTransaction retention event now plan ↔
      item = transportPut retention event now ∨ item = semanticPut event ∨
        item = .attempt event.deliveryId event.attemptId (.feedback plan.attempt event now) ∨
        item = plan.deliveryItem event now ∨ plan.recovery = some item ∨
        plan.suppression = some item := by
  simp [reconcileTransaction]

/-! ## Reconciling -/

/-- Read a row; without it the event goes to the dead letters. -/
def readOrAwait {key : Key} (next : Row key → Prog (Except StoreError (Option ReconcileResult))) :
    Prog (Except StoreError (Option ReconcileResult)) :=
  (getConsistent key).andThen fun
    | none => pure (.ok (some .awaitDlq))
    | some row => next row

/-- `persistTransportDuplicate`. -/
def persistTransportDuplicate (retention : Int) (event : FeedbackEvent) (now : Instant) :
    Prog (Except StoreError Unit) := do
  match ← transactWriteItems [transportPut retention event now] with
  | .committed => pure (.ok ())
  | .unavailable => pure (.error .other)
  | .cancelled _ =>
    (getConsistent (.transport event.eventBridgeId)).andThen fun
      | some (marker : TransportRow) =>
        if validTransportDedupe marker then pure (.ok ()) else pure (.error .other)
      | none => pure (.error .other)

/-- `dedupeNowExists`. -/
def dedupeNowExists (event : FeedbackEvent) : Prog (Except StoreError Bool) :=
  (getConsistent (.transport event.eventBridgeId)).andThen fun
    | some (marker : TransportRow) =>
      if validTransportDedupe marker then pure (.ok true) else pure (.error .other)
    | none =>
      (getConsistent (.semantic event.providerMessageId event.semanticType)).andThen fun
        | none => pure (.ok false)
        | some (marker : SemanticRow) =>
          if validSemanticDedupe marker event then pure (.ok true) else pure (.error .other)

/-- Commit; if cancelled, try again unless applied. -/
def commitReconciliation (retention : Int) (event : FeedbackEvent) (now : Instant)
    (plan : Reconciliation) : Prog (Except StoreError (Option ReconcileResult)) := do
  match ← transactWriteItems (reconcileTransaction retention event now plan) with
  | .committed => pure (.ok (some (.applied event.suppressionReason.isSome)))
  | .unavailable => pure (.error .other)
  | .cancelled _ =>
    (dedupeNowExists event).andThen fun duplicate =>
      pure (.ok (if duplicate then some .duplicate else none))

/-- The suppression, if it outranks the stored one. -/
def readSuppression (P : Platform) (event : FeedbackEvent) (delivery : DeliveryRow)
    (next : Option Item → Prog (Except StoreError (Option ReconcileResult))) :
    Prog (Except StoreError (Option ReconcileResult)) :=
  match event.suppressionReason with
  | none => next none
  | some reason =>
    match deliverabilityIdentity P delivery.normalizedEmail with
    | none => pure (.ok (some .awaitDlq))
    | some identity =>
      (getConsistent (.deliverability identity)).andThen fun
        | none => next (some (.suppression identity ⟨none, reason⟩))
        | some (row : DeliverabilityRow) =>
          if suppressionValid row then
            next (if row.rank.getD 0 < reason.rank then
              some (.suppression identity ⟨some row, reason⟩) else none)
          else pure (.ok (some .awaitDlq))

/-- The second half of `reconcileOnce`. -/
def reconcileAttempt (P : Platform) (retention : Int) (event : FeedbackEvent) (now : Instant)
    (attempt : AttemptRow) : Prog (Except StoreError (Option ReconcileResult)) :=
  readOrAwait fun (delivery : Row (.delivery attempt.outboxId event.deliveryId)) =>
    if deliveryAssociated delivery event attempt then
      let decision := reconcileDeliveryProviderMetadata delivery event
      match reconciledDeliveryState delivery.state event decision with
      | none => pure (.ok (some .awaitDlq))
      | some nextState => do
        match ← feedbackRecoveryOperation attempt delivery decision nextState now with
        | .error _ => pure (.ok (some .awaitDlq))
        | .ok recovery =>
          readSuppression P event delivery fun suppression =>
            commitReconciliation retention event now
              ⟨attempt, delivery, decision, nextState, recovery, suppression⟩
    else pure (.ok (some .awaitDlq))

/-- `reconcileOnce`: no result is a reason to try again. -/
def reconcileOnce (P : Platform) (retention : Int) (event : FeedbackEvent) (now : Instant) :
    Prog (Except StoreError (Option ReconcileResult)) :=
  (getConsistent (.transport event.eventBridgeId)).andThen fun
    | some (marker : TransportRow) =>
      pure (.ok (some (if validTransportDedupe marker then .duplicate else .awaitDlq)))
    | none =>
      (getConsistent (.semantic event.providerMessageId event.semanticType)).andThen fun
        | some (marker : SemanticRow) =>
          if validSemanticDedupe marker event then
            (persistTransportDuplicate retention event now).andThen fun _ =>
              pure (.ok (some .duplicate))
          else pure (.ok (some .awaitDlq))
        | none =>
          readOrAwait fun (attempt : Row (.attempt event.deliveryId event.attemptId)) =>
            if attemptAssociated attempt event then
              reconcileAttempt P retention event now attempt
            else pure (.ok (some .awaitDlq))

/-- A lost race is tried again twice. -/
def maxReconcileAttempts : Nat := 3

/-- The loop of `Reconcile`, with the tries that are left. -/
def reconcileTries (P : Platform) (retention : Int) (event : FeedbackEvent) (now : Instant) :
    Nat → Prog (Except StoreError ReconcileResult)
  | 0 => pure (.error .other)
  | tries + 1 =>
    (reconcileOnce P retention event now).andThen fun
      | some result => pure (.ok result)
      | none => reconcileTries P retention event now tries

/-- `Reconcile`. -/
def reconcile (P : Platform) (retention : Int) (event : FeedbackEvent) (now : Instant) :
    Prog (Except StoreError ReconcileResult) :=
  if event.valid then reconcileTries P retention event now maxReconcileAttempts
  else pure (.ok .awaitDlq)

end LimnoPulse.Notifications
