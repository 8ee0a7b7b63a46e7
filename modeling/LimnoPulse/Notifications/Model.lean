import LimnoPulse.Library.CivilTime

/-!
# The notification domain

Deliveries, attempts and provider outcomes with the transitions between them, and
the identifiers of outboxes and deliveries.  An identifier that is a digest in the
source is modelled by the content it is the digest of.  A time that may be unset is an
optional instant: no clock reads the zero time.  Text processing is a parameter.

Main results:

- Theorem `DeliverySnapshot.valid_iff`: what of the validity of a delivery
  depends on its state.
- Theorem `reconcileProviderOutcome_rank`: reconciliation never lowers the rank
  of a provider outcome.
-/

namespace LimnoPulse.Notifications

open CivilTime

/-- An instant as the notification services write it. -/
def fixedUTCTimestamp (value : Instant) : String := nanosecondText value

/-! ## Enumerations -/

/-- What the relay works on. -/
inductive WorkKind where
  | intent
  | dependency
  | delivery
deriving DecidableEq

/-- What a notification is about. -/
inductive NotificationKind where
  | opening
  | recovery
deriving DecidableEq

/-- How a notification is sent. -/
inductive Channel where
  | email
  | telegram
deriving DecidableEq

/-- Whether an address takes email. -/
inductive EmailDeliverability where
  | unknown
  | deliverable
  | suppressed
deriving DecidableEq

/-- The states of a delivery. -/
inductive DeliveryState where
  | pending
  | waitingDependency
  | queued
  | processing
  | retryableFailed
  | succeeded
  | permanentFailed
  | cancelled
  | unknown
deriving DecidableEq

/-- How an attempt ends. -/
inductive AttemptOutcome where
  | started
  | succeeded
  | retryable
  | ambiguous
  | permanentFailed
deriving DecidableEq

/-- What the provider says. -/
inductive ProviderOutcome where
  | accepted
  | deliveredToMailServer
  | delayed
  | softBounced
  | hardBounced
  | complained
  | rejected
deriving DecidableEq

/-- Why a delivery is cancelled. -/
inductive CancellationReason where
  | cancelled
  | emailSuppressed
  | recipientMembershipInactive
  | openingNotSucceeded
  | telegramDestinationSuppressed
  | openingUnconfirmed
deriving DecidableEq

/-- The rank of an outcome. -/
def providerOutcomeRank : ProviderOutcome → Nat
  | .accepted => 1
  | .delayed => 2
  | .softBounced => 3
  | .deliveredToMailServer => 4
  | .rejected => 5
  | .hardBounced => 6
  | .complained => 7

/-- The outcome of higher rank; the current one wins a tie. -/
def reconcileProviderOutcome (current : Option ProviderOutcome) (incoming : ProviderOutcome) :
    ProviderOutcome :=
  match current with
  | none => incoming
  | some outcome =>
    if providerOutcomeRank incoming > providerOutcomeRank outcome then incoming else outcome

/-- The rank of an outcome that may be missing. -/
def optionalRank (outcome : Option ProviderOutcome) : Nat :=
  outcome.elim 0 providerOutcomeRank

/-- Ranks never fall. -/
theorem reconcileProviderOutcome_rank (current : Option ProviderOutcome)
    (incoming : ProviderOutcome) :
    optionalRank current ≤ providerOutcomeRank (reconcileProviderOutcome current incoming) := by
  cases current with
  | none => exact Nat.zero_le _
  | some =>
    simp only [optionalRank, Option.elim_some, reconcileProviderOutcome]
    split <;> omega

/-- The states a worker treats as final. -/
def DeliveryState.terminal : DeliveryState → Bool
  | .succeeded | .permanentFailed | .cancelled | .unknown => true
  | _ => false

/-- The edges of the state machine. -/
def deliveryTransitions : DeliveryState → List DeliveryState
  | .waitingDependency => [.pending, .cancelled]
  | .pending => [.queued, .cancelled]
  | .queued => [.processing, .cancelled]
  | .processing => [.retryableFailed, .succeeded, .permanentFailed, .cancelled, .unknown]
  | .retryableFailed => [.processing, .cancelled]
  | _ => []

/-- `ApplyTransition`: no change, or a listed transition. -/
def transitionAllowed (state next : DeliveryState) : Bool :=
  state = next || (deliveryTransitions state).contains next

/-- In any order; what is cancelled or rejected stays so. -/
def reconcileDeliveryStateFromProvider (current : DeliveryState) (incoming : ProviderOutcome) :
    Option DeliveryState :=
  match current with
  | .cancelled | .permanentFailed => some current
  | .processing | .retryableFailed | .succeeded | .unknown =>
    if incoming = .rejected then some .permanentFailed
    else if incoming = .delayed then some current
    else some .succeeded
  | _ => none

/-- `validateIdentityField`: it can be part of a key. -/
def validateIdentityField (value : String) : Bool :=
  value ≠ "" && !value.toList.contains (Char.ofNat 0)

/-- The digest of event, channel and kind. -/
structure OutboxId where
  eventId : String
  channel : Channel
  kind : NotificationKind
deriving DecidableEq

/-- The digest of event, kind, channel and recipient. -/
structure DeliveryId where
  eventId : String
  kind : NotificationKind
  channel : Channel
  recipientId : String
deriving DecidableEq

/-- `NewDeliveryID`. -/
def newDeliveryId (eventId : String) (kind : NotificationKind) (channel : Channel)
    (recipientId : String) : Option DeliveryId :=
  if validateIdentityField eventId && validateIdentityField recipientId then
    some ⟨eventId, kind, channel, recipientId⟩
  else none

/-- The relay index key of an item. -/
structure RelayIndexKey where
  workKind : WorkKind
  tenantId : String
  itemId : OutboxId ⊕ DeliveryId
  scheduledAt : Instant
deriving DecidableEq

/-- `BuildRelayIndexKey`. -/
def buildRelayIndexKey (workKind : WorkKind) (tenantId : String) (itemId : OutboxId ⊕ DeliveryId)
    (scheduledAt : Instant) : Option RelayIndexKey :=
  if validateIdentityField tenantId then some ⟨workKind, tenantId, itemId, scheduledAt⟩ else none

/-! ## Content -/

/-- The templates. -/
inductive TemplateId where
  | alertOpeningV1
  | alertRecoveryV1
  | telegramAlertOpeningV1
  | telegramAlertRecoveryV1
deriving DecidableEq

/-- The version of a template. -/
def TemplateId.version : TemplateId → Int
  | .alertOpeningV1 | .alertRecoveryV1 | .telegramAlertOpeningV1 | .telegramAlertRecoveryV1 => 1

/-- The one supported locale. -/
inductive Locale where
  | ptBR
deriving DecidableEq

/-- A rendered email. -/
structure RenderedContent where
  templateId : TemplateId
  templateVersion : Int
  locale : Locale
  (subject text html contentHash : String)
deriving DecidableEq

/-- A rendered Telegram text. -/
structure TelegramRenderedContent where
  templateId : TemplateId
  templateVersion : Int
  locale : Locale
  (bodyText contentHash : String)
deriving DecidableEq

/-- What a template is filled with. -/
structure EmailTemplateData where
  (ruleName severity tenantId pondId deviceId metric unit operator : String)
  threshold : Rat
  observedValue : Option Rat
  evaluationWindow : Int
  (windowStart windowEnd evaluatedAt : Instant)
  eventId : String
deriving DecidableEq

/-- The longest Telegram text. -/
def maxTelegramBodyRunes : Nat := 3800

/-- Rendering, checks on emails, digests, case mapping, and the order of delivery digests. -/
structure Platform where
  render : TemplateId → Locale → EmailTemplateData → Option RenderedContent
  renderTelegram : NotificationKind → EmailTemplateData → Option TelegramRenderedContent
  normalizeLegacyRuleName : String → String
  validateRenderedEmail : String → String → String → Bool
  renderedContentHash : TemplateId → Int → Locale → String → String → String → String
  telegramRenderedContentHash : TemplateId → Int → Locale → String → String
  toLower : String → String
  equalFold : String → String → Bool
  deliverySortKey : DeliveryId → String

/-- `RestoreRenderedContent` accepts the content. -/
def RenderedContent.valid (P : Platform) (content : RenderedContent) : Bool :=
  content.templateVersion = content.templateId.version &&
    (content.subject ≠ "" && content.text ≠ "" && content.html ≠ "") &&
    P.validateRenderedEmail content.subject content.text content.html &&
    content.contentHash = P.renderedContentHash content.templateId content.templateVersion
      content.locale content.subject content.text content.html

/-- `RestoreTelegramRenderedContent` accepts the content. -/
def TelegramRenderedContent.valid (P : Platform) (content : TelegramRenderedContent) : Bool :=
  (content.templateId = .telegramAlertOpeningV1 || content.templateId = .telegramAlertRecoveryV1) &&
    content.templateVersion = content.templateId.version && content.bodyText ≠ "" &&
    decide (content.bodyText.length ≤ maxTelegramBodyRunes) &&
    content.contentHash = P.telegramRenderedContentHash content.templateId content.templateVersion
      content.locale content.bodyText

/-! ## Deliveries -/

/-- A membership as it was read. -/
structure MembershipSnapshot where
  (role status : String)
  version : Int
deriving DecidableEq

/-- A role, a status and a version of at least 1. -/
def MembershipSnapshot.valid (snapshot : MembershipSnapshot) : Bool :=
  validateIdentityField snapshot.role && validateIdentityField snapshot.status &&
    decide (1 ≤ snapshot.version)

/-- What never changes about a delivery. -/
structure DeliveryIdentity where
  tenantId : String
  outboxId : OutboxId
  deliveryId : DeliveryId
  (eventId ruleId : String)
  kind : NotificationKind
  channel : Channel
  dependsOnOutboxId : Option OutboxId
  dependsOnDeliveryId : Option DeliveryId
  (recipientId normalizedEmail destinationId : String)
  telegramChatId : Int
  membershipSnapshot : MembershipSnapshot
  content : Option RenderedContent
  telegramContent : Option TelegramRenderedContent
  createdAt : Instant
deriving DecidableEq

/-- A delivery with its state. -/
structure DeliverySnapshot extends DeliveryIdentity where
  state : DeliveryState
  cancellationReason : Option CancellationReason
  updatedAt : Instant
deriving DecidableEq

/-- `validateOpeningRelationship`: only recoveries name an opening. -/
def validateOpeningRelationship {α : Type} (kind : NotificationKind) (value : Option α) : Bool :=
  match kind with
  | .opening => value.isNone
  | .recovery => value.isSome

/-- The destination is of the channel alone. -/
def DeliveryIdentity.destinationValid (identity : DeliveryIdentity) : Bool :=
  match identity.channel with
  | .email =>
    validateIdentityField identity.normalizedEmail && identity.destinationId = "" &&
      identity.telegramChatId = 0 && identity.telegramContent.isNone
  | .telegram =>
    validateIdentityField identity.destinationId && decide (0 < identity.telegramChatId) &&
      identity.normalizedEmail = "" && identity.content.isNone

/-- The content is valid and of the kind's template. -/
def DeliveryIdentity.contentValid (P : Platform) (identity : DeliveryIdentity) : Bool :=
  identity.content.all (fun content => content.valid P &&
      content.templateId =
        match identity.kind with
        | .opening => TemplateId.alertOpeningV1
        | .recovery => TemplateId.alertRecoveryV1) &&
    identity.telegramContent.all (fun content => content.valid P &&
      content.templateId =
        match identity.kind with
        | .opening => TemplateId.telegramAlertOpeningV1
        | .recovery => TemplateId.telegramAlertRecoveryV1)

/-- There is content for the channel. -/
def DeliveryIdentity.hasContent (identity : DeliveryIdentity) : Bool :=
  match identity.channel with
  | .email => identity.content.isSome
  | .telegram => identity.telegramContent.isSome

/-- `Delivery.Validate`, for what never changes. -/
def DeliveryIdentity.valid (P : Platform) (identity : DeliveryIdentity) : Bool :=
  validateIdentityField identity.tenantId && validateIdentityField identity.eventId &&
    validateIdentityField identity.ruleId && validateIdentityField identity.recipientId &&
    identity.destinationValid &&
    validateOpeningRelationship identity.kind identity.dependsOnOutboxId &&
    validateOpeningRelationship identity.kind identity.dependsOnDeliveryId &&
    identity.membershipSnapshot.valid &&
    identity.deliveryId =
      ⟨identity.eventId, identity.kind, identity.channel, identity.recipientId⟩ &&
    identity.contentValid P

/-- `RestoreDelivery` accepts the snapshot. -/
def DeliverySnapshot.valid (P : Platform) (snapshot : DeliverySnapshot) : Bool :=
  snapshot.toDeliveryIdentity.valid P &&
    (snapshot.state ≠ .waitingDependency || snapshot.kind = .recovery) &&
    decide (snapshot.createdAt ≤ snapshot.updatedAt) &&
    if snapshot.state = .cancelled then snapshot.cancellationReason.isSome
    else snapshot.cancellationReason.isNone && snapshot.hasContent

/-- Identity, content and state. -/
theorem DeliverySnapshot.valid_iff {P : Platform} {snapshot : DeliverySnapshot} :
    snapshot.valid P = true ↔ snapshot.toDeliveryIdentity.valid P = true ∧
      (snapshot.state = .waitingDependency → snapshot.kind = .recovery) ∧
      snapshot.createdAt ≤ snapshot.updatedAt ∧
      (snapshot.state = .cancelled → snapshot.cancellationReason.isSome = true) ∧
      (snapshot.state ≠ .cancelled → snapshot.cancellationReason = none ∧
        snapshot.hasContent = true) := by
  unfold DeliverySnapshot.valid
  split
  next hstate => simp [hstate, and_assoc]
  next hstate => simp [hstate, and_assoc, Decidable.imp_iff_not_or]

/-- A delivery, which can only be built valid. -/
structure Delivery (P : Platform) where
  snapshot : DeliverySnapshot
  valid : snapshot.valid P = true

/-- `newDelivery`, for the three starting states. -/
def newDelivery (P : Platform) (identity : DeliveryIdentity) (state : DeliveryState)
    (cancellationReason : Option CancellationReason) (updatedAt : Instant) :
    Option (Delivery P) :=
  if h : DeliverySnapshot.valid P ⟨identity, state, cancellationReason, updatedAt⟩ = true then
    some ⟨_, h⟩
  else none

/-- `validateTransition`: a valid delivery may move. -/
def validateTransition (P : Platform) (snapshot : DeliverySnapshot) (next : DeliveryState) : Bool :=
  snapshot.valid P && transitionAllowed snapshot.state next

/-- The message of a delivery. -/
structure JobEnvelope where
  tenantId : String
  outboxId : OutboxId
  deliveryId : DeliveryId
  eventId : String
  kind : NotificationKind
  channel : Channel
deriving DecidableEq

/-- Tenant and event can be part of keys. -/
def JobEnvelope.valid (job : JobEnvelope) : Bool :=
  validateIdentityField job.tenantId && validateIdentityField job.eventId

/-- `NewDeliveryJob`. -/
def newDeliveryJob (tenantId : String) (outboxId : OutboxId) (deliveryId : DeliveryId)
    (eventId : String) (kind : NotificationKind) (channel : Channel) : Option JobEnvelope :=
  let job : JobEnvelope := ⟨tenantId, outboxId, deliveryId, eventId, kind, channel⟩
  if job.valid then some job else none

/-! ## Provider feedback -/

/-- The types of feedback. -/
inductive SemanticType where
  | send
  | delivery
  | deliveryDelay
  | softBounce
  | hardBounce
  | complaint
  | reject
deriving DecidableEq

/-- Why an address is suppressed. -/
inductive SuppressionReason where
  | hardBounce
  | complaint
  | recipientReject
deriving DecidableEq

/-- The rank of a reason. -/
def SuppressionReason.rank : SuppressionReason → Nat
  | .recipientReject => 1
  | .hardBounce => 2
  | .complaint => 3

/-- What a type of feedback means. -/
structure SemanticDescriptor where
  providerOutcome : ProviderOutcome
  suppressionReason : Option SuppressionReason := none
  permanentFailure : Bool := false
  acceptedEvidence : Bool := false
  completesAttempt : Bool := false
deriving DecidableEq

/-- The meaning of each type. -/
def describeSemantic : SemanticType → SemanticDescriptor
  | .send =>
    { providerOutcome := .accepted, acceptedEvidence := true, completesAttempt := true }
  | .delivery =>
    { providerOutcome := .deliveredToMailServer, acceptedEvidence := true,
      completesAttempt := true }
  | .deliveryDelay => { providerOutcome := .delayed, acceptedEvidence := true }
  | .softBounce =>
    { providerOutcome := .softBounced, acceptedEvidence := true, completesAttempt := true }
  | .hardBounce =>
    { providerOutcome := .hardBounced, suppressionReason := some .hardBounce,
      acceptedEvidence := true, completesAttempt := true }
  | .complaint =>
    { providerOutcome := .complained, suppressionReason := some .complaint,
      acceptedEvidence := true, completesAttempt := true }
  | .reject =>
    { providerOutcome := .rejected, permanentFailure := true, completesAttempt := true }

/-- A feedback event of the provider about one attempt. -/
structure FeedbackEvent where
  (eventBridgeId providerMessageId : String)
  deliveryId : DeliveryId
  attemptId : String
  semanticType : SemanticType
  providerOutcome : ProviderOutcome
  suppressionReason : Option SuppressionReason
  (permanentFailure acceptedEvidence : Bool)
deriving DecidableEq

/-- The flags of the type; only a rejection may add a suppression. -/
def FeedbackEvent.validateSemantics (event : FeedbackEvent) : Bool :=
  let descriptor := describeSemantic event.semanticType
  event.providerOutcome = descriptor.providerOutcome &&
    event.acceptedEvidence = descriptor.acceptedEvidence &&
    event.permanentFailure = descriptor.permanentFailure &&
    if event.semanticType = .reject then
      event.suppressionReason = none || event.suppressionReason = some .recipientReject
    else event.suppressionReason = descriptor.suppressionReason

/-- The validators of an event. -/
def FeedbackEvent.valid (event : FeedbackEvent) : Bool :=
  validateIdentityField event.eventBridgeId && validateIdentityField event.providerMessageId &&
    validateIdentityField event.attemptId && event.validateSemantics

/-- The event ends an attempt. -/
def FeedbackEvent.completesAttempt (event : FeedbackEvent) : Bool :=
  (describeSemantic event.semanticType).completesAttempt

end LimnoPulse.Notifications
