import LimnoPulse.Ingestion.TrustedMapping

/-!
# HTTPS ingress admission

The receipt rows, the ingress queue and the admission of a parsed batch.  Every await
is one operation that can fail before or after it took effect.  A request reads the
wall clock once; its reading and the identifier it draws are arguments of the call.

Main results:

- Theorem `claimOutcome_row`: a claim that was answered leaves a row behind,
  its own or the one it lost against.
- Theorem `sendOutcome_acknowledged`: an acknowledged message is on the queue.
-/

namespace LimnoPulse.Ingestion

open StoreProgram

variable {row : Option IngressReceipt} {receipt : IngressReceipt} {envelope : IngressEnvelope}

/-! ## Rows and operations -/

/-- A message, the key of its request, and whether it was acknowledged. -/
structure SentMessage where
  sender : ReceiptKey
  envelope : IngressEnvelope
  acknowledged : Bool

/-- Receipts, the claims of each key, the messages and the mapping rows. -/
structure AdmissionStore where
  receipts : ReceiptKey → Option IngressReceipt
  claims : ReceiptKey → List IngressReceipt
  sent : List SentMessage
  mapping : MappingRows

namespace AdmissionStore

/-- Put a claim. -/
def putReceipt (s : AdmissionStore) (receipt : IngressReceipt) : AdmissionStore :=
  { s with
    receipts := Function.update s.receipts receipt.key (some receipt)
    claims := Function.update s.claims receipt.key (receipt :: s.claims receipt.key) }

/-- Put or delete a row. -/
def setReceipt (s : AdmissionStore) (key : ReceiptKey) (receipt : Option IngressReceipt) :
    AdmissionStore :=
  { s with receipts := Function.update s.receipts key receipt }

/-- Send a message. -/
def push (s : AdmissionStore) (message : SentMessage) : AdmissionStore :=
  { s with sent := message :: s.sent }

/-- The first receipt that was committed for a key. -/
def firstReceipt (s : AdmissionStore) (key : ReceiptKey) : Option IngressReceipt :=
  (s.claims key).getLast?

/-- A conditional put: no row, or one created by the cutoff. -/
def claim (receipt : IngressReceipt) (cutoffUs : Int) (s : AdmissionStore) : Option AdmissionStore :=
  if (s.receipts receipt.key).all (fun row => decide (row.createdAtUs ≤ cutoffUs)) then
    some (s.putReceipt receipt)
  else none

/-- A conditional update: the row is one's own and pending. -/
def mark (key : ReceiptKey) (ingressId : String) (s : AdmissionStore) : Option AdmissionStore :=
  match s.receipts key with
  | some row =>
    if row.ingressId = ingressId ∧ row.state = .pending then
      some (s.setReceipt key (some row.enqueued))
    else none
  | none => none

/-- Time-to-live deletion after the expiry. -/
def expire (key : ReceiptKey) (at_ : Int) (s : AdmissionStore) : AdmissionStore :=
  if (s.receipts key).any (fun row => decide (row.expiresAt ≤ at_)) then s.setReceipt key none else s

end AdmissionStore

/-- One await, a time-to-live deletion, or another mapping row. -/
inductive AdmissionOp where
  | getReceipt (key : ReceiptKey)
  | mapping (op : MappingOp)
  | allows (tenantId integrationAccountId : String) (count : Nat)
  | claim (receipt : IngressReceipt) (cutoffUs : Int)
  | send (sender : ReceiptKey) (envelope : IngressEnvelope)
  | mark (key : ReceiptKey) (ingressId : String)
  | expire (key : ReceiptKey) (at_ : Int)
  | writeMapping (rows : MappingRows)

/-- What a caller learns; a lost claim may carry the row. -/
inductive ClaimReply where
  | committed
  | lost (old : Option IngressReceipt)
  | unavailable
deriving DecidableEq

/-- What an operation is answered. -/
@[reducible]
def AdmissionReply : AdmissionOp → Type
  | .getReceipt _ => ReadReply IngressReceipt
  | .mapping op => MappingReply op
  | .allows _ _ _ => Option Bool
  | .claim _ _ => ClaimReply
  | .send _ _ => Bool
  | .mark _ _ => WriteReply
  | .expire _ _ => Unit
  | .writeMapping _ => Unit

/-- The fault, whether the client repeated the request, whether a failed condition returns the row,
and the verdict of the entitlement check. -/
structure Outcome where
  fault : Fault := .none
  repeated : Bool := false
  oldItem : Bool := true
  allowed : Bool := true
deriving DecidableEq

/-- The row that comes with a failed condition. -/
def Outcome.oldRow (outcome : Outcome) (row : Option IngressReceipt) : Option IngressReceipt :=
  if outcome.oldItem then row else none

variable {outcome : Outcome}

/-- A row that is shown is the stored one. -/
theorem Outcome.oldRow_eq_some
    {old : IngressReceipt} (h : outcome.oldRow row = some old) : row = some old := by
  unfold Outcome.oldRow at h
  split at h
  · exact h
  · contradiction

/-- A claim; a repeated one may lose against itself. -/
def claimOutcome (receipt : IngressReceipt) (cutoffUs : Int) (outcome : Outcome)
    (s : AdmissionStore) : ClaimReply × AdmissionStore :=
  match outcome.fault, s.claim receipt cutoffUs with
  | .requestLost, _ => (.unavailable, s)
  | .answerLost, some t => (.unavailable, t)
  | .answerLost, none => (.unavailable, s)
  | .none, none => (.lost (outcome.oldRow (s.receipts receipt.key)), s)
  | .none, some t =>
    if outcome.repeated then (.lost (outcome.oldRow (t.receipts receipt.key)), t)
    else (.committed, t)

/-- Whether a send is acknowledged, and the queue. -/
def sendOutcome (sender : ReceiptKey) (envelope : IngressEnvelope) (outcome : Outcome)
    (s : AdmissionStore) : Bool × AdmissionStore :=
  match outcome.fault with
  | .requestLost => (false, s)
  | .answerLost => (false, s.push ⟨sender, envelope, false⟩)
  | .none =>
    let t := if outcome.repeated then s.push ⟨sender, envelope, false⟩ else s
    (true, t.push ⟨sender, envelope, true⟩)

/-- One operation. -/
def admissionExec : (op : AdmissionOp) → Outcome → AdmissionStore →
    Option (AdmissionReply op × AdmissionStore)
  | .getReceipt key, outcome, s => some (answer outcome.fault (s.receipts key), s)
  | .mapping op, outcome, s => some (s.mapping.answer outcome.fault op, s)
  | .allows _ _ _, outcome, s =>
    some (if outcome.fault = .none then some outcome.allowed else none, s)
  | .claim receipt cutoffUs, outcome, s => some (claimOutcome receipt cutoffUs outcome s)
  | .send sender envelope, outcome, s => some (sendOutcome sender envelope outcome s)
  | .mark key ingressId, outcome, s =>
    some (attempt outcome.fault (AdmissionStore.mark key ingressId) s)
  | .expire key at_, _, s => some ((), s.expire key at_)
  | .writeMapping rows, _, s => some ((), { s with mapping := rows })

variable {s t : AdmissionStore}

/-- An answered claim leaves its row or the one it lost against. -/
theorem claimOutcome_row {cutoffUs : Int} {reply : ClaimReply}
    (h : claimOutcome receipt cutoffUs outcome s = (reply, t)) (hreply : reply ≠ .unavailable) :
    ∃ row, t.receipts receipt.key = some row ∧ (reply = .committed → row = receipt) ∧
      ∀ old, reply = .lost (some old) → row = old := by
  have hput : ∀ u, s.claim receipt cutoffUs = some u → u.receipts receipt.key = some receipt := by
    intro u hclaim
    unfold AdmissionStore.claim at hclaim
    split at hclaim
    · cases hclaim
      simp [AdmissionStore.putReceipt]
    · contradiction
  unfold claimOutcome at h
  split at h
  · cases h
    exact absurd rfl hreply
  · cases h
    exact absurd rfl hreply
  · cases h
    exact absurd rfl hreply
  · next hclaim =>
    -- The condition failed, so a row is stored.
    cases h
    rcases hrow : s.receipts receipt.key with _ | row
    · simp [AdmissionStore.claim, hrow] at hclaim
    · refine ⟨row, rfl, by simp, fun old hold => ?_⟩
      exact Option.some.inj (Outcome.oldRow_eq_some (ClaimReply.lost.inj hold))
  · next u _ hclaim =>
    have hrow := hput u hclaim
    split at h
    · cases h
      refine ⟨receipt, hrow, fun _ => rfl, fun old hold => ?_⟩
      have hold := Outcome.oldRow_eq_some (ClaimReply.lost.inj hold)
      rw [hrow] at hold
      exact Option.some.inj hold
    · cases h
      exact ⟨receipt, hrow, fun _ => rfl, by simp⟩

/-- An acknowledged message is on the queue. -/
theorem sendOutcome_acknowledged {sender : ReceiptKey}
    (h : sendOutcome sender envelope outcome s = (true, t)) :
    (⟨sender, envelope, true⟩ : SentMessage) ∈ t.sent := by
  unfold sendOutcome at h
  split at h
  · cases h
  · cases h
  · cases h
    exact List.mem_cons_self

/-- An answered lookup returns the stored row. -/
theorem getReceipt_row {key : ReceiptKey}
    (h : admissionExec (.getReceipt key) outcome s = some (.row row, t)) :
    t.receipts key = row := by
  obtain ⟨hreply, rfl⟩ := Prod.mk.inj (Option.some.inj h)
  exact answer_eq_row hreply

/-- The await whose failure is answered with 503. -/
inductive AdmitStep where
  | receiptLookup
  | admission
  | entitlementCheck
  | receiptClaim
  | queueSend
deriving DecidableEq

/-- How an admission can fail. -/
inductive AdmitFailure where
  | conflict
  | denied (denial : IngressDenial)
  | tooLarge
  | invalidEnvelope
  | unavailable (step : AdmitStep)
  | claimLostTwice
deriving DecidableEq

/-- The answer to an accepted request. -/
structure IngestAccepted where
  ingressId : String
  acceptedObservations : Nat
  replayed : Bool
deriving DecidableEq

/-! ## The service -/

/-- Hashes and the wire form of envelopes. -/
structure Encoding extends MappingDigests where
  idempotencyKeyHash : String → String
  ingestRequestSha256 : IngestObservationBatch → Option String → String
  envelopeJson : IngressEnvelope → String

/-- Programs over receipts and queue. -/
abbrev AdmissionProgram (α : Type) := Program AdmissionOp AdmissionReply α

/-- Read a receipt. -/
def getIngressReceipt (key : ReceiptKey) : AdmissionProgram (ReadReply IngressReceipt) :=
  Program.perform (AdmissionOp.getReceipt key)

/-- Send a claim. -/
def performClaim (receipt : IngressReceipt) (cutoffUs : Int) : AdmissionProgram ClaimReply :=
  Program.perform (AdmissionOp.claim receipt cutoffUs)

/-- Send a message. -/
def performSend (sender : ReceiptKey) (envelope : IngressEnvelope) : AdmissionProgram Bool :=
  Program.perform (AdmissionOp.send sender envelope)

/-- Mark a receipt as sent. -/
def markIngressReceiptEnqueued (key : ReceiptKey) (ingressId : String) :
    AdmissionProgram WriteReply :=
  Program.perform (AdmissionOp.mark key ingressId)

/-- Ask for the entitlement. -/
def entitlementAllows (tenantId integrationAccountId : String) (count : Nat) :
    AdmissionProgram (Option Bool) :=
  Program.perform (AdmissionOp.allows tenantId integrationAccountId count)

/-- The mapping reads as operations. -/
def trustedAdmit (digests : MappingDigests) (source : AuthenticatedSource)
    (batch : IngestObservationBatch) :
    AdmissionProgram (Option (Except IngressDenial IngressAdmission)) :=
  (TrustedMapping.admitBatch digests source batch).embed AdmissionOp.mapping fun _ reply => reply

/-- Claim; the result is the receipt that holds the key. -/
def claimIngressReceipt (receipt : IngressReceipt) (now : Time) :
    AdmissionProgram (Option IngressReceipt) := do
  match ← performClaim receipt (ingressReceiptCutoffUs now) with
  | .committed => pure (some receipt)
  | .unavailable => pure none
  | .lost (some winner) => pure (some winner)
  | .lost none =>
    match ← getIngressReceipt receipt.key with
    | .unavailable => pure none
    | .row winner => pure winner

/-- The largest message. -/
def maxIngressMessageBytes : Nat := 262144

/-- The bytes of the schema attribute. -/
def ingressSchemaAttributeBytes : Nat := 31

/-- The size that is checked. -/
def ingressMessageBytes (encoding : Encoding) (envelope : IngressEnvelope) : Nat :=
  (encoding.envelopeJson envelope).utf8ByteSize + ingressSchemaAttributeBytes

/-- The envelope with the identity of a receipt. -/
def envelopeFields (admission : IngressAdmission) (connectorVersion : Option String)
    (receipt : IngressReceipt) : EnvelopeFields where
  ingressId := receipt.ingressId
  tenantId := admission.source.tenantId
  integrationAccountId := admission.source.integrationAccountId
  providerKey := admission.deviceIntegration.providerKey
  externalIdentityHash := admission.deviceIntegration.externalIdentityHash
  deviceIntegrationId := admission.deviceIntegration.deviceIntegrationId
  deviceId := admission.deviceIntegration.deviceId
  sourceType := .https
  connectorVersion := connectorVersion
  receivedAt := receipt.receivedAt
  mappingVersions := receipt.mappingVersions
  observations := admission.observations

/-- The envelope, if it is valid and fits. -/
def guardedEnvelope (encoding : Encoding) (admission : IngressAdmission)
    (connectorVersion : Option String) (receipt : IngressReceipt) :
    Except AdmitFailure IngressEnvelope :=
  match IngressEnvelope.modelValidate (envelopeFields admission connectorVersion receipt) with
  | none => .error .invalidEnvelope
  | some envelope =>
    if maxIngressMessageBytes < ingressMessageBytes encoding envelope then .error .tooLarge
    else .ok envelope

/-- The fields of a guarded envelope. -/
theorem guardedEnvelope_fields {encoding : Encoding} {admission : IngressAdmission}
    {connectorVersion : Option String}
    (h : guardedEnvelope encoding admission connectorVersion receipt = .ok envelope) :
    envelope.toEnvelopeFields = envelopeFields admission connectorVersion receipt := by
  unfold guardedEnvelope at h
  split at h
  · cases h
  next found hfound =>
    split at h
    · cases h
    · cases h
      exact IngressEnvelope.modelValidate_eq_some hfound

/-- A request with its clock reading and identifier. -/
structure AdmitArguments where
  source : AuthenticatedSource
  batch : IngestObservationBatch
  idempotencyKey : String
  connectorVersion : Option String
  now : Time
  ingressId : String

namespace AdmitArguments

variable (encoding : Encoding) (arguments : AdmitArguments)

/-- The digest of the key. -/
def keySha256 : String := encoding.idempotencyKeyHash arguments.idempotencyKey

/-- The digest of the request. -/
def requestSha256 : String :=
  encoding.ingestRequestSha256 arguments.batch arguments.connectorVersion

/-- The receipt row of the request. -/
def receiptKey : ReceiptKey :=
  (arguments.source.integrationAccountId, arguments.keySha256 encoding)

/-- The receipt the request would claim with. -/
def claim : IngressReceipt :=
  newIngressReceipt arguments.source.integrationAccountId arguments.source.tenantId
    (arguments.keySha256 encoding) (arguments.requestSha256 encoding) arguments.ingressId
    arguments.now {} arguments.now

end AdmitArguments

namespace IngressService

/-- What an admission returns. -/
abbrev AdmitResult := Except AdmitFailure IngestAccepted

variable (encoding : Encoding) (arguments : AdmitArguments)

/-- Send, mark and accept; a failed mark is ignored. -/
def send (envelope : IngressEnvelope) (replayed : Bool) : AdmissionProgram AdmitResult := do
  if ← performSend (arguments.receiptKey encoding) envelope then
    let _ ← markIngressReceiptEnqueued
      (envelope.integrationAccountId, arguments.keySha256 encoding) envelope.ingressId
    pure (.ok ⟨envelope.ingressId, arguments.batch.observations.length, replayed⟩)
  else
    pure (.error (.unavailable .queueSend))

/-- Send the message of a pending receipt. -/
def resume (admission : IngressAdmission) (receipt : IngressReceipt) :
    AdmissionProgram AdmitResult :=
  match guardedEnvelope encoding admission arguments.connectorVersion receipt with
  | .error failure => pure (.error failure)
  | .ok envelope => send encoding arguments envelope true

/-- Answer a request whose message is already on the queue. -/
def replayed (receipt : IngressReceipt) : AdmitResult :=
  .ok ⟨receipt.ingressId, arguments.batch.observations.length, true⟩

/-- The bounded claim loop. -/
def claimLoop (admission : IngressAdmission) (envelope : IngressEnvelope) :
    Nat → AdmissionProgram AdmitResult
  | 0 => pure (.error .claimLostTwice)
  | attempts + 1 => do
    match ← claimIngressReceipt (arguments.claim encoding) arguments.now with
    | none => pure (.error (.unavailable .receiptClaim))
    | some winner =>
      if winner.ingressId = arguments.ingressId then
        send encoding arguments envelope false
      else
        match decideReceiptReplay (some winner) (arguments.requestSha256 encoding)
            arguments.now with
        | .conflict => pure (.error .conflict)
        | .replay => pure (replayed arguments winner)
        | .resume => resume encoding arguments admission winner
        | .admitRequest => claimLoop admission envelope attempts

/-- How often a claim is tried. -/
def claimAttempts : Nat := 2

/-- Trusted admission and the entitlement check. -/
def admission : AdmissionProgram (Except AdmitFailure IngressAdmission) := do
  match ← trustedAdmit encoding.toMappingDigests arguments.source arguments.batch with
  | none => pure (.error (.unavailable .admission))
  | some (.error denial) => pure (.error (.denied denial))
  | some (.ok admission) =>
    match ← entitlementAllows arguments.source.tenantId arguments.source.integrationAccountId
        arguments.batch.observations.length with
    | none => pure (.error (.unavailable .entitlementCheck))
    | some false => pure (.error (.denied ⟨.entitlementDenied, none⟩))
    | some true => pure (.ok admission)

/-- After a lookup that decided nothing. -/
def admitNew (receipt : Option IngressReceipt) (action : IngressReceiptAction) :
    AdmissionProgram AdmitResult := do
  match ← admission encoding arguments with
  | .error failure => pure (.error failure)
  | .ok admission =>
    match action, receipt with
    | .resume, some receipt => resume encoding arguments admission receipt
    | _, _ =>
      -- The size guard runs before the claim.
      match guardedEnvelope encoding admission arguments.connectorVersion
          (arguments.claim encoding) with
      | .error failure => pure (.error failure)
      | .ok envelope => claimLoop encoding arguments admission envelope claimAttempts

/-- Admit a parsed batch. -/
def admitBatch : AdmissionProgram AdmitResult := do
  match ← getIngressReceipt (arguments.receiptKey encoding) with
  | .unavailable => pure (.error (.unavailable .receiptLookup))
  | .row receipt =>
    match decideReceiptReplay receipt (arguments.requestSha256 encoding) arguments.now, receipt with
    | .conflict, _ => pure (.error .conflict)
    | .replay, some receipt => pure (replayed arguments receipt)
    | action, receipt => admitNew encoding arguments receipt action

end IngressService

/-- Admissions, deletions and changes of mapping rows. -/
inductive AdmissionCall where
  | admission (arguments : AdmitArguments)
  | expire (key : ReceiptKey) (at_ : Int)
  | writeMapping (rows : MappingRows)

/-- The result of an admission; `none` for the environment. -/
abbrev AdmissionResult := Option IngressService.AdmitResult

/-- The program of a call. -/
def AdmissionCall.body (encoding : Encoding) : AdmissionCall → AdmissionProgram AdmissionResult
  | .admission arguments => do
    let result ← IngressService.admitBatch encoding arguments
    pure (some result)
  | .expire key at_ => do
    let _ ← (Program.perform (AdmissionOp.expire key at_) : AdmissionProgram Unit)
    pure none
  | .writeMapping rows => do
    let _ ← (Program.perform (AdmissionOp.writeMapping rows) : AdmissionProgram Unit)
    pure none

/-- Admissions and their environment. -/
def admissionMachine (encoding : Encoding) :
    Machine AdmissionStore Outcome AdmissionCall AdmissionResult AdmissionOp AdmissionReply where
  exec := admissionExec
  body := AdmissionCall.body encoding
  admits _ _ := true

end LimnoPulse.Ingestion
