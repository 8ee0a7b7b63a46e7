import LimnoPulse.Library.Table
import LimnoPulse.Notifications.Model

/-!
# Rows of the notification table

The rows under their keys, and the records and requests about them.  Attributes that are
only ever written, or the same in all rows of a kind, are left out.  An empty text
attribute is a missing one.
-/

namespace LimnoPulse.Notifications

open CivilTime StoreProgram

/-! ## Rows -/

/-- How the relay finds and leases an item. -/
structure RelayFields where
  availableAt : Option Instant := none
  workKind : Option WorkKind := none
  index : Option RelayIndexKey := none
  leaseOwner : Option String := none
  leaseEpoch : Option Nat := none
  leaseExpiresAt : Option Instant := none
deriving DecidableEq

/-- A stored delivery. -/
structure DeliveryRow extends DeliverySnapshot where
  revision : Nat
  attemptCount : Option Nat := none
  lastAttemptId : Option String := none
  leaseOwner : Option String := none
  leaseEpoch : Option Nat := none
  leaseExpiresAt : Option Instant := none
  nextAttemptAt : Option Instant := none
  providerOutcome : Option ProviderOutcome := none
  providerMessageId : Option String := none
  providerAttemptId : Option String := none
  providerAccepted : Bool := false
  possiblyAccepted : Bool := false
  ambiguousExhausted : Bool := false
  awaitingIntervention : Bool := false
  awaitingDlq : Bool := false
  relay : RelayFields := {}
deriving DecidableEq

/-- A stored attempt. -/
structure AttemptRow where
  tenantId : String
  outboxId : OutboxId
  deliveryId : DeliveryId
  (attemptId eventId : String)
  kind : NotificationKind
  channel : Channel
  outcome : AttemptOutcome
  startedAt : Instant
  completedAt : Option Instant := none
  providerOutcome : Option ProviderOutcome := none
  providerMessageId : Option String := none
  providerAccepted : Bool := false

/-- Whether an outbox was expanded. -/
inductive ExpansionStatus where
  | pending
  | expanded
deriving DecidableEq

/-- The sort key at which a page ended. -/
inductive Cursor where
  | member (recipientId : String)
  | delivery (deliveryId : DeliveryId)
deriving DecidableEq

/-- The evaluation behind an alert. -/
structure EvaluationSnapshot where
  (windowStart windowEnd evaluatedAt : Instant)
  value : Option Rat

/-- An outbox of the evaluator. -/
structure OutboxRow where
  (tenantId eventId ruleId : String)
  kind : NotificationKind
  channel : Channel
  expansionStatus : ExpansionStatus := .pending
  expansionRevision : Option Nat := none
  expansionCursor : Option Cursor := none
  expansionStartedAt : Option Instant := none
  recipientsExamined : Nat := 0
  deliveriesCreated : Nat := 0
  deliveriesCancelled : Nat := 0
  recipientsFiltered : Nat := 0
  relay : RelayFields := {}
  evaluation : Option EvaluationSnapshot := none

/-- An outbox is named by event, channel and kind. -/
def OutboxRow.outboxId (row : OutboxRow) : OutboxId := ⟨row.eventId, row.channel, row.kind⟩

/-- A recovery depends on its opening. -/
def OutboxRow.dependsOnOutboxId (row : OutboxRow) : Option OutboxId :=
  match row.kind with
  | .opening => none
  | .recovery => some ⟨row.eventId, row.channel, .opening⟩

/-- The membership of a user in a tenant. -/
structure MemberRow where
  (entityType tenantId recipientId role status : String)
  version : Int
  createdAt : Option Instant

/-- What a recipient wants. -/
structure PreferenceRow where
  (entityType tenantId recipientId : String)
  version : Int
  emailEnabled : Bool
  emailAddress : String
  (emailVerified telegramEnabled : Bool)
  minimumSeverity : String

/-- A recipient's destination. -/
structure TelegramBindingRow where
  (entityType tenantId recipientId destinationId status : String)
  version : Int

/-- A Telegram chat of a recipient. -/
structure TelegramDestinationRow where
  (entityType destinationId recipientId : String)
  chatId : Int
  status : String
  version : Int

/-- An alert event; a time that does not parse is missing. -/
structure AlertEventRow where
  (entityType tenantId eventId ruleId ruleName severity status pondId deviceId metric : String)
  operator : String
  threshold : Rat
  (windowStart windowEnd lastEvaluatedAt : Option Instant)
  lastEvaluationValue : Option Rat

/-- A suppression reason, perhaps of another writer. -/
inductive StoredReason where
  | known (reason : SuppressionReason)
  | unrecognized (text : String)
deriving DecidableEq

/-- The deliverability of an address. -/
structure DeliverabilityRow where
  entityType : String := ""
  deliverability : Option EmailDeliverability
  reason : Option StoredReason := none
  rank : Option Int := none

/-- The marker of an EventBridge event; it expires. -/
structure TransportRow where
  expiresAt : Int

/-- The marker of an applied event; it does not expire. -/
structure SemanticRow where
  deliveryId : DeliveryId
  attemptId : String

/-- The keys of rows. -/
inductive Key where
  | delivery (outboxId : OutboxId) (deliveryId : DeliveryId)
  | attempt (deliveryId : DeliveryId) (attemptId : String)
  | outbox (tenantId : String) (outboxId : OutboxId)
  | member (tenantId recipientId : String)
  | preference (tenantId recipientId : String)
  | telegramBinding (tenantId recipientId : String)
  | telegramDestination (destinationId : String)
  | alertEvent (tenantId eventId : String)
  | deliverability (identity : String)
  | transport (eventBridgeId : String)
  | semantic (providerMessageId : String) (semanticType : SemanticType)
deriving DecidableEq

/-- The row of a key. -/
@[reducible]
def Row : Key → Type
  | .delivery _ _ => DeliveryRow
  | .attempt _ _ => AttemptRow
  | .outbox _ _ => OutboxRow
  | .member _ _ => MemberRow
  | .preference _ _ => PreferenceRow
  | .telegramBinding _ _ => TelegramBindingRow
  | .telegramDestination _ => TelegramDestinationRow
  | .alertEvent _ _ => AlertEventRow
  | .deliverability _ => DeliverabilityRow
  | .transport _ => TransportRow
  | .semantic _ _ => SemanticRow

/-! ## Records and requests -/

/-- What a worker knows about a delivery. -/
structure DeliveryRecord where
  delivery : DeliverySnapshot
  (revision attemptCount : Nat)
  lastAttemptId : Option String
  startedAttemptId : Option String := none
  leaseOwner : Option String
  leaseEpoch : Nat
  (leaseExpiresAt nextAttemptAt : Option Instant)
  providerOutcome : Option ProviderOutcome
  (providerMessageId providerAttemptId : Option String)
  (possiblyAccepted ambiguousExhausted awaitingIntervention awaitingDlq : Bool)
  telegramDestinationVersion : Int := 0
deriving DecidableEq

/-- A worker's claim. -/
structure ClaimRequest where
  (owner sqsMessageId : String)
  (now expiresAt : Instant)

/-- When to try again. -/
structure DeferRequest where
  (now nextAttemptAt : Instant)
  errorCategory : String

/-- What was read about an address. -/
structure DeliverabilityDependency where
  identity : String
  state : Option EmailDeliverability

/-- Every value that allowed the recipient gate. -/
structure GateFence where
  channel : Channel := .email
  (membershipVersion preferenceVersion : Int)
  preferenceEmailAddress : String := ""
  (preferenceMinimumSeverity eventSeverity : String)
  eventStatus : String := ""
  deliverabilityDependencies : List DeliverabilityDependency := []
  telegramDestinationId : String := ""
  telegramChatId : Int := 0
  telegramBindingVersion : Int := 0
  telegramDestinationVersion : Int := 0

/-- An attempt to start. -/
structure BeginAttemptRequest where
  attemptId : String
  (startedAt leaseRequiredUntil : Instant)
  gateFence : GateFence

/-- How an attempt ended. -/
structure AttemptCompletion where
  attemptId : String
  completedAt : Instant
  outcome : AttemptOutcome
  errorCategory : String := ""
  providerMessageId : Option String := none
  providerOutcome : Option ProviderOutcome := none
  nextState : DeliveryState
  nextAttemptAt : Option Instant := none
  possiblyAccepted : Bool := false
  ambiguousExhausted : Bool := false
  awaitingIntervention : Bool := false
  suppressTelegramDestination : Bool := false

/-- A failure before the call. -/
structure PreflightFailureCompletion where
  completedAt : Instant
  errorCategory : String
  nextState : DeliveryState
  nextAttemptAt : Option Instant
  (possiblyAccepted ambiguousExhausted awaitingIntervention : Bool)

/-- The provider metadata a delivery carries. -/
structure ProviderMetadata where
  outcome : Option ProviderOutcome
  (messageId attemptId : Option String)
  accepted : Bool

/-- What feedback makes of a delivery. -/
structure DeliveryProviderDecision where
  metadata : ProviderMetadata
  (ownsAggregate acceptedByAnotherAttempt : Bool)

/-- An outbox to expand or a delivery to publish. -/
inductive Target where
  | outbox (tenantId : String) (outboxId : OutboxId)
  | delivery (outboxId : OutboxId) (deliveryId : DeliveryId)
deriving DecidableEq

/-- An entry of the relay index, by kind and time. -/
structure Candidate where
  target : Target
  index : RelayIndexKey
deriving DecidableEq

/-- What is to be done. -/
def Candidate.kind (candidate : Candidate) : WorkKind := candidate.index.workKind

/-- When it is due. -/
def Candidate.availableAt (candidate : Candidate) : Instant := candidate.index.scheduledAt

/-- Relay work that is pending, as it was reloaded. -/
structure Work where
  candidate : Candidate
  tenantId : String
  itemId : OutboxId ⊕ DeliveryId
  outboxId : OutboxId
  deliveryId : Option DeliveryId
  (eventId ruleId : String)
  dependsOnOutboxId : Option OutboxId
  notificationKind : NotificationKind
  channel : Channel
  revision : Nat
  cursor : Option Cursor
  expansionStartedAt : Option Instant
  (recipientsExamined deliveriesCreated deliveriesCancelled recipientsFiltered : Nat)
  leaseOwner : Option String
  leaseEpoch : Nat
  evaluation : Option EvaluationSnapshot

/-- A claim of the relay. -/
structure LeaseRequest where
  owner : String
  (now expiresAt dueThrough : Instant)

/-- What a page adds to the counters. -/
structure WorkResult where
  deliveriesCreated : Nat := 0
  deliveriesCancelled : Nat := 0
  recipientsExamined : Nat := 0
  recipientsFiltered : Nat := 0
  filteredBySeverity : Nat := 0

end LimnoPulse.Notifications
