import Mathlib.Algebra.Group.Nat.Defs
import Mathlib.Data.Int.Basic

/-!
# The ingestion domain

Observations, the queue envelope, ingress receipts and the failure table of the
worker.  A payload never carries tenant, site, asset or deployment authority.

Main results:

- Theorem `decideReceiptReplay_eq_admitRequest_iff`: the replay table admits exactly
  without a live receipt.
- Theorem `messageAction_eq_delete_iff`: the two categories that delete a message.
-/

namespace LimnoPulse.Ingestion

/-- Microseconds since the Unix epoch. -/
abbrev Time := Int

/-- 2262-01-01, the exclusive end of the window. -/
def maxTelemetryTime : Time := 9214646400 * 1000000

/-- The window `[1970-01-01, 2262-01-01)`. -/
def isTelemetryTime (t : Time) : Bool := decide (0 ≤ t) && decide (t < maxTelemetryTime)

/-- A lowercase hexadecimal digit. -/
def isLowerHex (c : Char) : Bool := c.isDigit || ('a' ≤ c && c ≤ 'f')

/-- A lowercase tag and 32 hexadecimal digits. -/
def isCanonicalId (value tag : String) : Bool :=
  match value.toList.splitAt (tag.length + 1) with
  | (head, suffix) =>
    head == (tag ++ "_").toList && suffix.length == 32 && suffix.all isLowerHex

/-! ## Observations -/

/-- A reading as sent: an integer of any size or a double. -/
inductive SourceValue where
  | int (value : Int)
  | float (value : Float)

/-- The versions that pin how an observation is normalized. -/
structure NormalizationVersions where
  catalogVersion : String := "metric-catalog@1"
  unitMappingVersion : String := "unit-mapping@1"
  qualityPolicyVersion : String := "quality-policy@1"
deriving DecidableEq

/-- An observation; the component may be the default. -/
structure IngestSourceObservation where
  componentId : Option String
  metricKey : String
  value : SourceValue
  sourceUnit : String
  observedAt : Time
  sequence : Option Nat
  sourceEventId : Option String
  sourceMetadata : List (String × String)

/-- An observation whose component is known. -/
structure SourceObservation where
  (componentId metricKey : String)
  value : SourceValue
  sourceUnit : String
  observedAt : Time
  sequence : Option Nat
  sourceEventId : Option String
  sourceMetadata : List (String × String)

/-- The request observation with its component filled in. -/
def IngestSourceObservation.withComponent (item : IngestSourceObservation) (componentId : String) :
    SourceObservation where
  componentId := componentId
  metricKey := item.metricKey
  value := item.value
  sourceUnit := item.sourceUnit
  observedAt := item.observedAt
  sequence := item.sequence
  sourceEventId := item.sourceEventId
  sourceMetadata := item.sourceMetadata

/-- How many observations a request may have. -/
def maxIngestObservations : Nat := 1000

/-- A parsed request body. -/
structure IngestObservationBatch where
  externalDeviceId : String
  observations : List IngestSourceObservation
  nonempty : observations ≠ []
  bounded : observations.length ≤ maxIngestObservations

/-- Who a request was authenticated as. -/
structure AuthenticatedSource where
  (tenantId integrationAccountId providerKey ingestCredentialId : String)
deriving DecidableEq

/-! ## The queue envelope -/

/-- Where observations come from. -/
inductive SourceType where
  | legacyMqtt
  | https
  | mqtt
  | vendorWebhook
  | vendorPoll
  | edge
deriving DecidableEq

/-- Visible ASCII, 1 to 64 characters. -/
def isConnectorVersion (value : String) : Bool :=
  decide (1 ≤ value.length) && decide (value.length ≤ 64) &&
    value.toList.all fun c => '!' ≤ c && c ≤ '~'

/-- The fields of an envelope before they are validated. -/
structure EnvelopeFields where
  ingressId : String
  replayOf : Option String := none
  (tenantId integrationAccountId providerKey externalIdentityHash deviceIntegrationId : String)
  deviceId : String
  sourceType : SourceType
  connectorVersion : Option String
  receivedAt : Time
  replay : Bool := false
  mappingVersions : NormalizationVersions
  observations : List SourceObservation

/-- The checks that validated rows do not already pass. -/
def EnvelopeFields.valid (fields : EnvelopeFields) : Bool :=
  isCanonicalId fields.ingressId "ing" &&
    fields.replayOf.all (isCanonicalId · "ing") &&
    isCanonicalId fields.deviceIntegrationId "di" &&
    fields.connectorVersion.all isConnectorVersion &&
    isTelemetryTime fields.receivedAt &&
    !fields.observations.isEmpty &&
    decide (fields.observations.length ≤ maxIngestObservations) &&
    (fields.replayOf.isNone || fields.replay)

/-- The queue message `telemetry-ingress@1`. -/
structure IngressEnvelope extends EnvelopeFields where
  valid : toEnvelopeFields.valid = true

/-- Validation of an envelope; a violation raises. -/
def IngressEnvelope.modelValidate (fields : EnvelopeFields) : Option IngressEnvelope :=
  if valid : fields.valid = true then some ⟨fields, valid⟩ else none

/-- Validation changes no field. -/
theorem IngressEnvelope.modelValidate_eq_some {fields : EnvelopeFields} {envelope : IngressEnvelope}
    (h : IngressEnvelope.modelValidate fields = some envelope) :
    envelope.toEnvelopeFields = fields := by
  unfold IngressEnvelope.modelValidate at h
  split at h
  · cases h
    rfl
  · contradiction

/-- What every retry of a request repeats. -/
structure EnvelopeIdentity where
  ingressId : String
  receivedAt : Time
  mappingVersions : NormalizationVersions
deriving DecidableEq

/-- The identity of an envelope. -/
def EnvelopeFields.identity (fields : EnvelopeFields) : EnvelopeIdentity :=
  ⟨fields.ingressId, fields.receivedAt, fields.mappingVersions⟩

/-! ## Receipts -/

/-- Whether the message of a receipt was sent. -/
inductive IngressReceiptState where
  | pending
  | enqueued
deriving DecidableEq

/-- 24 hours in microseconds. -/
def receiptTtlUs : Int := 86400000000

/-- Epoch seconds of the end of the 24 hours, rounded up. -/
def receiptExpiresAt (createdAtUs : Int) : Int := -(-(createdAtUs + receiptTtlUs) / 1000000)

/-- The receipt of one idempotent request. -/
structure IngressReceipt where
  (integrationAccountId tenantId keySha256 requestSha256 ingressId : String)
  receivedAt : Time
  mappingVersions : NormalizationVersions
  state : IngressReceiptState
  createdAt : Time
  (createdAtUs expiresAt : Int)
  exact : createdAtUs = createdAt
  expires : expiresAt = receiptExpiresAt createdAtUs
deriving DecidableEq

/-- A receipt after its message was enqueued. -/
def IngressReceipt.enqueued (receipt : IngressReceipt) : IngressReceipt :=
  { receipt with state := .enqueued }

/-- The key of a receipt row. -/
abbrev ReceiptKey := String × String

/-- The key of a receipt. -/
def IngressReceipt.key (receipt : IngressReceipt) : ReceiptKey :=
  (receipt.integrationAccountId, receipt.keySha256)

/-- The identity its message carries. -/
def IngressReceipt.identity (receipt : IngressReceipt) : EnvelopeIdentity :=
  ⟨receipt.ingressId, receipt.receivedAt, receipt.mappingVersions⟩

/-- A pending receipt created at the time of reception. -/
def newIngressReceipt (integrationAccountId tenantId keySha256 requestSha256 ingressId : String)
    (receivedAt : Time) (mappingVersions : NormalizationVersions) (createdAt : Time) :
    IngressReceipt where
  integrationAccountId := integrationAccountId
  tenantId := tenantId
  keySha256 := keySha256
  requestSha256 := requestSha256
  ingressId := ingressId
  receivedAt := receivedAt
  mappingVersions := mappingVersions
  state := .pending
  createdAt := createdAt
  createdAtUs := createdAt
  expiresAt := receiptExpiresAt createdAt
  exact := rfl
  expires := rfl

/-- Receipts created by then are dead. -/
def ingressReceiptCutoffUs (now : Time) : Int := now - receiptTtlUs

/-- The receipt is younger than 24 hours. -/
def isIngressReceiptLive (receipt : IngressReceipt) (now : Time) : Bool :=
  decide (receipt.createdAtUs > ingressReceiptCutoffUs now)

/-- What a request does about a receipt. -/
inductive IngressReceiptAction where
  | admitRequest
  | replay
  | resume
  | conflict
deriving DecidableEq

/-- The receipt replay table. -/
def decideReceiptReplay (receipt : Option IngressReceipt) (requestSha256 : String) (now : Time) :
    IngressReceiptAction :=
  match receipt with
  | none => .admitRequest
  | some receipt =>
    if !isIngressReceiptLive receipt now then .admitRequest
    else if receipt.requestSha256 ≠ requestSha256 then .conflict
    else if receipt.state = .enqueued then .replay
    else .resume

/-- A request is admitted exactly without a live receipt. -/
theorem decideReceiptReplay_eq_admitRequest_iff {receipt : Option IngressReceipt}
    {requestSha256 : String} {now : Time} :
    decideReceiptReplay receipt requestSha256 now = .admitRequest ↔
      ∀ row, receipt = some row → isIngressReceiptLive row now = false := by
  cases receipt with
  | none => simp [decideReceiptReplay]
  | some row =>
    by_cases hlive : isIngressReceiptLive row now = true
    · simp only [decideReceiptReplay, hlive]
      split
      · simp_all
      · split
        · simp [hlive]
        · split <;> simp [hlive]
    · simp [decideReceiptReplay, hlive]

/-- Only the same request resumes or replays. -/
theorem decideReceiptReplay_same {row : IngressReceipt} {requestSha256 : String} {now : Time} :
    (decideReceiptReplay (some row) requestSha256 now = .resume →
      row.requestSha256 = requestSha256) ∧
    (decideReceiptReplay (some row) requestSha256 now = .replay →
      row.requestSha256 = requestSha256 ∧ row.state = .enqueued) := by
  simp only [decideReceiptReplay]
  grind

/-- How the processing of a message ends. -/
inductive IngressFailureCategory where
  | envelopeInvalid
  | fenced
  | fencedUnverified
  | deferred
  | unexpected
  | storeUnavailable
  | writeRetryable
  | writePermanent
  | contractViolation
  | processed
deriving DecidableEq

/-- What is reported of a message. -/
inductive IngressMessageOutcome where
  | processed
  | fenced
  | retry
  | permanent
deriving DecidableEq

/-- What becomes of a message. -/
inductive IngressMessageAction where
  | delete
  | permanent
  | backoff
deriving DecidableEq

/-- The frozen failure table of the worker. -/
def ingressFailureTable :
    IngressFailureCategory → IngressMessageOutcome × IngressMessageAction
  | .envelopeInvalid => (.permanent, .permanent)
  | .fenced => (.fenced, .delete)
  | .fencedUnverified => (.permanent, .permanent)
  | .deferred => (.retry, .backoff)
  | .unexpected => (.retry, .backoff)
  | .storeUnavailable => (.retry, .backoff)
  | .writeRetryable => (.retry, .backoff)
  | .writePermanent => (.permanent, .permanent)
  | .contractViolation => (.permanent, .permanent)
  | .processed => (.processed, .delete)

/-- Processed and fenced messages are deleted. -/
theorem messageAction_eq_delete_iff {category : IngressFailureCategory} :
    (ingressFailureTable category).2 = .delete ↔ category = .processed ∨ category = .fenced := by
  cases category <;> simp [ingressFailureTable]

end LimnoPulse.Ingestion
