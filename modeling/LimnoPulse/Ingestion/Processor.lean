import LimnoPulse.Deployments.Calls
import LimnoPulse.Ingestion.IngestState

/-!
# The ingest worker's message processor

One queued envelope becomes one decision: parse, fence, normalize, write the
accepted observations, persist the quarantine rows, raise the marks, and only
then delete.  Every await can fail before or after it took effect.  Metrics are left
out: they are written only, and a failing metric never decides.

Main results:

- Theorem `RetryPolicy.decision_eq_delete_iff`: the two categories that delete a message.
-/

namespace LimnoPulse.Ingestion

open StoreProgram

/-! ## Rows and operations -/

/-- What the legacy dual-write reads of an asset. -/
structure AssetRow where
  legacyPondId : Option String
deriving DecidableEq

/-- The rows that decide how an envelope is processed. -/
structure ReferenceRows where
  mapping : MappingRows
  deployments : Deployments.Store
  assets : String × String → Option AssetRow

/-- The reference rows with all versions of the assets, the lines and points taken, the quarantine
rows with all keys ever created, and the marks. -/
structure TelemetryStore where
  references : ReferenceRows
  assetVersions : List (String × String → Option AssetRow)
  written : List ObservationLine
  legacyWritten : List LegacyPoint
  quarantine : RowKey → Option QuarantineFields
  persisted : List RowKey
  marks : MarkTable

/-- The conditional put of a quarantine row. -/
def TelemetryStore.putRow (row : QuarantineFields) (s : TelemetryStore) : Option TelemetryStore :=
  if (s.quarantine row.rowKey).isNone then
    some { s with
      quarantine := Function.update s.quarantine row.rowKey (some row)
      persisted := row.rowKey :: s.persisted }
  else none

/-- Raise a mark. -/
def TelemetryStore.advance (request : Advance) (s : TelemetryStore) : Option TelemetryStore :=
  (s.marks.advance request).map fun marks => { s with marks := marks }

/-- What a failed await raised, write errors apart. -/
inductive Raised where
  | store
  | value
  | other
deriving DecidableEq

/-- One await, or a change by another service. -/
inductive TelemetryOp where
  | mapping (op : MappingOp)
  | deployment (op : Deployments.Op)
  | asset (tenantId assetId : String)
  | writeLines (lines : List ObservationLine)
  | writeLegacy (points : List LegacyPoint)
  | putRow (row : QuarantineFields)
  | getComponentState (componentId : String)
  | advance (request : Advance)
  | raised
  | writeReferences (rows : ReferenceRows)
  | changeRow (key : RowKey) (change : QuarantineFields → Option QuarantineFields)

/-- Taken, or a failure that is worth a retry or not. -/
inductive LineReply where
  | taken
  | failed (retryable : Bool)
deriving DecidableEq

/-- What an operation is answered. -/
@[reducible]
def TelemetryReply : TelemetryOp → Type
  | .mapping op => MappingReply op
  | .deployment op => Deployments.Reply op
  | .asset _ _ => ReadReply AssetRow
  | .writeLines _ => LineReply
  | .writeLegacy _ => LineReply
  | .putRow _ => WriteReply
  | .getComponentState _ => ReadReply (String × ComponentIngestState)
  | .advance _ => WriteReply
  | .raised => Raised
  | .writeReferences _ => Unit
  | .changeRow _ _ => Unit

/-- The fault, what a failed await raised, whether a failed write is worth a retry and which of its
lines were taken. -/
structure TelemetryOutcome where
  fault : Fault := .none
  raised : Raised := .store
  retryable : Bool := true
  taken : Nat → Bool := fun _ => false

/-- Lines, all of which are taken if answered. -/
def takeLines {α : Type} (outcome : TelemetryOutcome) (lines stored : List α) :
    LineReply × List α :=
  match outcome.fault with
  | .none => (.taken, lines ++ stored)
  | .requestLost => (.failed outcome.retryable, stored)
  | .answerLost =>
    (.failed outcome.retryable,
      (lines.zipIdx.filter fun (_, i) => outcome.taken i).map Prod.fst ++ stored)

/-- One operation. -/
def telemetryExec : (op : TelemetryOp) → TelemetryOutcome → TelemetryStore →
    Option (TelemetryReply op × TelemetryStore)
  | .mapping op, outcome, s => some (s.references.mapping.answer outcome.fault op, s)
  | .deployment op, outcome, s =>
    (Deployments.exec op outcome.fault s.references.deployments).map fun (reply, deployments) =>
      (reply, { s with references := { s.references with deployments := deployments } })
  | .asset tenantId assetId, outcome, s =>
    some (answer outcome.fault (s.references.assets (tenantId, assetId)), s)
  | .writeLines lines, outcome, s =>
    let (reply, written) := takeLines outcome lines s.written
    some (reply, { s with written := written })
  | .writeLegacy points, outcome, s =>
    let (reply, written) := takeLines outcome points s.legacyWritten
    some (reply, { s with legacyWritten := written })
  | .putRow row, outcome, s => some (attempt outcome.fault (TelemetryStore.putRow row) s)
  | .getComponentState componentId, outcome, s =>
    some (answer outcome.fault (s.marks.componentState componentId), s)
  | .advance request, outcome, s =>
    some (attempt outcome.fault (TelemetryStore.advance request) s)
  | .raised, outcome, s => some (outcome.raised, s)
  | .writeReferences rows, _, s =>
    some ((), { s with references := rows, assetVersions := rows.assets :: s.assetVersions })
  | .changeRow key change, _, s =>
    some ((), { s with
      quarantine := Function.update s.quarantine key ((s.quarantine key).bind change) })

/-- Tables and switches, with the source's defaults. -/
structure ProcessorConfig where
  encoding : TelemetryEncoding
  catalogs : String → Option (List MetricDefinition) := metricCatalogs
  unitMappings : String → Option UnitTable := LimnoPulse.Ingestion.unitMappings
  policies : String → Option QualityPolicy := qualityPolicies
  defaultVersions : NormalizationVersions := {}
  (v2WriteEnabled legacyDualWriteEnabled : Bool)
  maxLinesPerRequest : Nat := 5000
  positive : 0 < maxLinesPerRequest := by decide

/-- The largest batch. -/
def maxObservationsPerBatch : Nat := 1000

/-- A telemetry write error, or another exception. -/
inductive Failure where
  | write (retryable : Bool)
  | raised (kind : Raised)
deriving DecidableEq

/-- Programs of the worker. -/
abbrev TelemetryProgram (α : Type) := Program TelemetryOp TelemetryReply α

/-- The exception of a failed await. -/
def raise {α : Type} : TelemetryProgram (Except Failure α) := do
  let kind ← (Program.perform TelemetryOp.raised : TelemetryProgram Raised)
  pure (.error (.raised kind))

/-! ## Normalization -/

/-- The lookups of one call. -/
structure LookupCache where
  components : List (String × Option DeviceComponent) := []
  deployments : List ((String × Time) × Option Deployments.Deployment) := []

/-- The mapping rows as operations of the worker. -/
def liftMapping {α : Type} (p : MappingProgram α) : TelemetryProgram α :=
  p.embed TelemetryOp.mapping fun _ reply => reply

/-- A lookup of deployments. -/
def liftDeployment {α : Type} (p : Deployments.DeploymentProgram α) : TelemetryProgram α :=
  p.embed TelemetryOp.deployment fun _ reply => reply

/-- A component, through the cache. -/
def lookupComponent (tenantId : String) (cache : LookupCache) (componentId : String) :
    TelemetryProgram (Except Failure (Option DeviceComponent × LookupCache)) :=
  match cache.components.lookup componentId with
  | some component => pure (.ok (component, cache))
  | none => do
    match ← liftMapping (getComponent tenantId componentId) with
    | none => raise
    | some component =>
      pure (.ok (component,
        { cache with components := (componentId, component) :: cache.components }))

/-- A deployment, through the cache. -/
def lookupDeployment (tenantId : String) (cache : LookupCache) (componentId : String)
    (observedAt : Time) :
    TelemetryProgram (Except Failure (Option Deployments.Deployment × LookupCache)) :=
  match cache.deployments.lookup (componentId, observedAt) with
  | some deployment => pure (.ok (deployment, cache))
  | none => do
    match ← liftDeployment (Deployments.getDeploymentAt tenantId componentId observedAt) with
    | .error .storeError => raise
    | .error _ => pure (.error (.raised .value))  -- a stored row that does not validate
    | .ok deployment =>
      pure (.ok (deployment,
        { cache with deployments := ((componentId, observedAt), deployment) :: cache.deployments }))

section Normalizer

variable (config : ProcessorConfig) (context : TrustedSourceContext) (versions : NormalizationVersions)

/-- Ownership, capability, metric and unit. -/
def measure (component : Option DeviceComponent) (source : SourceObservation) :
    Except Quarantine (DeviceComponent × MetricDefinition × Float) :=
  match component.filter fun component =>
      component.tenantId = context.tenantId && component.deviceId = context.deviceId with
  | none =>
    .error ⟨.componentNotOwned, "component is not owned by the trusted tenant and device"⟩
  | some component =>
    let declared := (component.probeProfile.map (·.measurementMetricKeys)).getD []
    if component.kind = .actuator then
      .error ⟨.componentNotMeasuring, "actuator components do not measure"⟩
    else if declared ≠ [] ∧ source.metricKey ∉ declared then
      .error ⟨.componentNotMeasuring, "metric is not declared by the component's probe profile"⟩
    else
      match (config.catalogs versions.catalogVersion).bind (metricDefinition · source.metricKey),
          config.unitMappings versions.unitMappingVersion with
      | some metric, some table =>
        (convertToCanonical metric source.value source.sourceUnit table).map fun value =>
          (component, metric, value)
      | _, _ => .error ⟨.metricUnknown, "metric is not in " ++ versions.catalogVersion⟩

/-- The deployment at event time, without a fallback. -/
def placed (deployment : Option Deployments.Deployment) (source : SourceObservation) :
    Except Quarantine Deployments.Deployment :=
  match deployment.filter fun deployment =>
      deployment.tenantId = context.tenantId && deployment.componentId = source.componentId with
  | none => .error ⟨.deploymentUnresolved, "no deployment contains observed_at"⟩
  | some deployment => .ok deployment

/-- The canonical observation before it is validated. -/
def canonicalFields (policy : QualityPolicy) (source : SourceObservation)
    (component : DeviceComponent) (metric : MetricDefinition) (value : Float)
    (deployment : Deployments.Deployment) (ingestedAt : Time) : CanonicalFields :=
  let quality := classifyQuality metric value source.observedAt context.receivedAt context.replay policy
  { eventId := config.encoding.observationEventId context.tenantId source.componentId
      metric.metricKey source.observedAt
    sourceEventId := source.sourceEventId
    source := ⟨context.integrationId, context.integrationType, context.sourceType,
      context.connectorVersion, context.receivedAt⟩
    resolved := ⟨context.tenantId, deployment.siteId, deployment.assetId, deployment.deploymentId,
      context.deviceId, source.componentId, component.probeProfile.map (·.probeProfileId)⟩
    observation := ⟨metric.metricKey, value, metric.valueType, source.sourceUnit,
      metric.canonicalUnit, source.observedAt, source.sequence⟩
    delivery := ⟨ingestedAt, quality.flags.contains .delayed, quality.flags.contains .replay⟩
    quality := quality
    mapping := versions
    sourceMetadata := source.sourceMetadata }

/-- The longest detail. -/
def maxQuarantineDetailLength : Nat := 256

/-- The record of an observation that is set aside. -/
def quarantineRecord (source : SourceObservation) (quarantine : Quarantine) :
    QuarantinedObservation :=
  let (excerpt, truncated) := config.encoding.boundedExcerpt source
  { reason := quarantine.reason
    tenantId := context.tenantId
    deviceId := context.deviceId
    componentId := some source.componentId
    metricKey := some source.metricKey
    observedAt := some source.observedAt
    receivedAt := context.receivedAt
    sourceEventId := source.sourceEventId
    detail := String.ofList (quarantine.detail.toList.take maxQuarantineDetailLength)
    sourceExcerptJson := excerpt
    truncated := truncated }

/-- What becomes of one observation. -/
inductive Verdict where
  | accepted (observation : CanonicalObservation)
  | quarantined (observation : QuarantinedObservation)

variable (policy : QualityPolicy) (ingestedAt : Time)

/-- Component, metric, unit, then the deployment. -/
def normalizeOne (source : SourceObservation) (cache : LookupCache) :
    TelemetryProgram (Except Failure (Verdict × LookupCache)) :=
  (lookupComponent context.tenantId cache source.componentId).andThen fun (component, cache) =>
    match measure config context versions component source with
    | .error quarantine =>
      pure (.ok (.quarantined (quarantineRecord config context source quarantine), cache))
    | .ok (component, metric, value) =>
      (lookupDeployment context.tenantId cache source.componentId source.observedAt).andThen
        fun (deployment, cache) =>
          match placed context deployment source with
          | .error quarantine =>
            pure (.ok (.quarantined (quarantineRecord config context source quarantine), cache))
          | .ok deployment =>
            match CanonicalObservation.modelValidate (canonicalFields config context versions
                policy source component metric value deployment ingestedAt) with
            | none => pure (.error (.raised .value))
            | some observation => pure (.ok (.accepted observation, cache))

/-- What was accepted and set aside. -/
structure NormalizationResult where
  accepted : List CanonicalObservation := []
  quarantined : List QuarantinedObservation := []

/-- Append a verdict to the result. -/
def NormalizationResult.add (result : NormalizationResult) : Verdict → NormalizationResult
  | .accepted observation => { result with accepted := result.accepted ++ [observation] }
  | .quarantined observation => { result with quarantined := result.quarantined ++ [observation] }

/-- The loop over the observations of a batch. -/
def normalizeLoop : List SourceObservation → LookupCache → NormalizationResult →
    TelemetryProgram (Except Failure NormalizationResult)
  | [], _, result => pure (.ok result)
  | source :: rest, cache, result =>
    (normalizeOne config context versions policy ingestedAt source cache).andThen
      fun (verdict, cache) => normalizeLoop rest cache (result.add verdict)

end Normalizer

/-- A batch under its versions; unknown versions and too many observations raise. -/
def normalize (config : ProcessorConfig) (context : TrustedSourceContext) (ingestedAt : Time)
    (observations : List SourceObservation) :
    TelemetryProgram (Except Failure NormalizationResult) :=
  let versions := context.mappingVersions.getD config.defaultVersions
  if maxObservationsPerBatch < observations.length then pure (.error (.raised .value))
  else
    match config.catalogs versions.catalogVersion, config.unitMappings versions.unitMappingVersion,
        config.policies versions.qualityPolicyVersion with
    | some _, some _, some policy =>
      normalizeLoop config context versions policy ingestedAt observations {} {}
    | _, _, _ => pure (.error (.raised .value))

/-! ## Writes -/

/-- Consecutive requests of at most `size` lines. -/
def chunksOf {α : Type} (size : Nat) : Nat → List α → List (List α)
  | 0, _ => []
  | _ + 1, [] => []
  | fuel + 1, x :: xs => (x :: xs).take size :: chunksOf size fuel ((x :: xs).drop size)

/-- Chunks carry everything. -/
theorem chunksOf_flatten {α : Type} {size : Nat} (hsize : 0 < size) :
    ∀ (fuel : Nat) (xs : List α), xs.length ≤ fuel → (chunksOf size fuel xs).flatten = xs
  | 0, xs, h => by
    rw [List.length_eq_zero_iff.mp (Nat.le_zero.mp h)]
    rfl
  | _ + 1, [], _ => rfl
  | fuel + 1, x :: xs, h => by
    have hdrop : ((x :: xs).drop size).length ≤ fuel := by
      rw [List.length_drop, List.length_cons]
      rw [List.length_cons] at h
      omega
    rw [chunksOf, List.flatten_cons, chunksOf_flatten hsize fuel _ hdrop, List.take_append_drop]

/-- Requests in order, up to the first failure. -/
def writeAll {α : Type} (send : List α → TelemetryProgram LineReply) :
    List (List α) → TelemetryProgram (Except Failure Unit)
  | [] => pure (.ok ())
  | chunk :: chunks => do
    match ← send chunk with
    | .failed retryable => pure (.error (.write retryable))
    | .taken => writeAll send chunks

/-- Send canonical lines. -/
def sendLines (lines : List ObservationLine) : TelemetryProgram LineReply :=
  Program.perform (TelemetryOp.writeLines lines)

/-- Send legacy points. -/
def sendLegacy (points : List LegacyPoint) : TelemetryProgram LineReply :=
  Program.perform (TelemetryOp.writeLegacy points)

section Writes

variable (config : ProcessorConfig)

/-- Canonical points; what cannot be encoded is a permanent error. -/
def writeObservations (observations : List CanonicalObservation) :
    TelemetryProgram (Except Failure Unit) :=
  match observations.mapM encodeObservationLine with
  | none => pure (.error (.write false))
  | some lines => writeAll sendLines (chunksOf config.maxLinesPerRequest lines.length lines)

/-- The legacy pond of each asset that was found. -/
abbrev PondTable := List ((String × String) × String)

/-- Resolve each asset of a legacy default component once. -/
def resolvePonds : List CanonicalObservation → List (String × String) → PondTable →
    TelemetryProgram (Except Failure PondTable)
  | [], _, ponds => pure (.ok ponds)
  | o :: rest, resolved, ponds =>
    let key := (o.resolved.tenantId, o.resolved.assetId)
    if o.resolved.componentId ≠ config.encoding.defaultComponentIdForLegacyDevice
        o.resolved.tenantId o.resolved.deviceId then resolvePonds rest resolved ponds
    else if key ∈ resolved then resolvePonds rest resolved ponds
    else do
      match ← (Program.perform (TelemetryOp.asset key.1 key.2) :
          TelemetryProgram (ReadReply AssetRow)) with
      | .unavailable => pure (.error (.write true))
      | .row asset =>
        match asset.bind (·.legacyPondId) with
        | none => resolvePonds rest (key :: resolved) ponds
        | some pond => resolvePonds rest (key :: resolved) (ponds ++ [(key, pond)])

/-- Legacy points of each tenant, with its ponds. -/
def legacyPoints (ponds : PondTable) (observations : List CanonicalObservation) :
    List LegacyPoint :=
  ((observations.map (·.resolved.tenantId)).dedup.mergeSort).flatMap fun tenantId =>
    buildLegacyPoints config.encoding.defaultComponentIdForLegacyDevice
      (fun assetId => ponds.lookup (tenantId, assetId))
      (observations.filter (·.resolved.tenantId = tenantId))

/-- Write legacy points in requests. -/
def writeLegacyPoints (points : List LegacyPoint) : TelemetryProgram (Except Failure Unit) :=
  writeAll sendLegacy (chunksOf config.maxLinesPerRequest points.length points)

/-- Canonical points first, then legacy points. -/
def writeService (observations : List CanonicalObservation) :
    TelemetryProgram (Except Failure Unit) :=
  if maxObservationsPerBatch < observations.length then pure (.error (.write false))
  else
    (if config.v2WriteEnabled then writeObservations config observations
      else pure (.ok ())).andThen fun _ =>
        if config.legacyDualWriteEnabled then
          (resolvePonds config observations [] []).andThen fun ponds =>
            writeLegacyPoints config (legacyPoints config ponds observations)
        else pure (.ok ())

/-- Normalize, then write the accepted observations. -/
def ingest (context : TrustedSourceContext) (ingestedAt : Time)
    (observations : List SourceObservation) :
    TelemetryProgram (Except Failure NormalizationResult) :=
  (normalize config context ingestedAt observations).andThen fun result =>
    (writeService config result.accepted).andThen fun _ => pure (.ok result)

end Writes

/-- Create rows one by one, or find them there. -/
def putQuarantineEntries : List QuarantineFields → TelemetryProgram (Except Failure Unit)
  | [] => pure (.ok ())
  | row :: rows => do
    match ← (Program.perform (TelemetryOp.putRow row) : TelemetryProgram WriteReply) with
    | .unavailable => raise
    | .committed | .conflict => putQuarantineEntries rows

/-- Raise marks one by one; a refused update is a success. -/
def applyIngestMarks : List Advance → TelemetryProgram (Except Failure Unit)
  | [] => pure (.ok ())
  | request :: requests => do
    match ← (Program.perform (TelemetryOp.advance request) : TelemetryProgram WriteReply) with
    | .unavailable => raise
    | .committed | .conflict => applyIngestMarks requests

/-- The states of some components of a tenant. -/
def getComponentStates (tenantId : String) :
    List String → TelemetryProgram (Except Failure (List (String × ComponentIngestState)))
  | [] => pure (.ok [])
  | componentId :: rest => do
    match ← (Program.perform (TelemetryOp.getComponentState componentId) :
        TelemetryProgram (ReadReply (String × ComponentIngestState))) with
    | .unavailable => raise
    | .row row =>
      (getComponentStates tenantId rest).andThen fun states =>
        match row.filter (·.1 = tenantId) with
        | none => pure (.ok states)
        | some (_, state) => pure (.ok ((componentId, state) :: states))

/-- The sequence pairs of each component. -/
def sequencePairs (accepted : List CanonicalObservation) : List (String × List (Time × Nat)) :=
  (accepted.foldl (fun pairs o =>
    match o.observation.sequence with
    | none => pairs
    | some sequence =>
      upsert o.resolved.componentId
        (fun members => members.getD [] ++ [(o.observation.observedAt, sequence)]) pairs)
    []).mergeSort fun a b => decide (a.1 ≤ b.1)

/-- The sequence events, before the marks. -/
def classifySequences (envelope : IngressEnvelope) (accepted : List CanonicalObservation) :
    TelemetryProgram (Except Failure (List SequenceEvent)) :=
  let pairs := sequencePairs accepted
  (getComponentStates envelope.tenantId (pairs.map Prod.fst)).andThen fun states =>
    pure (.ok (pairs.flatMap fun (componentId, members) =>
      classifyComponentSequence (states.lookup componentId) members))

/-- Classify on the first receive, then mark, unless it is a replay. -/
def recordOutcome (envelope : IngressEnvelope) (result : NormalizationResult) (receiveCount : Nat)
    (marksAt : Time) : TelemetryProgram (Except Failure (List SequenceEvent)) :=
  if envelope.replay then pure (.ok [])
  else
    (if receiveCount = 1 then classifySequences envelope result.accepted
      else pure (.ok [])).andThen fun events =>
        (applyIngestMarks (outcomeMarks envelope result.accepted result.quarantined
          marksAt).advances).andThen fun _ => pure (.ok events)

/-- Mark a fence. -/
def recordFence (envelope : IngressEnvelope) (fence : IngressFence) :
    TelemetryProgram (Except Failure Unit) :=
  applyIngestMarks (fenceMarks envelope fence).advances

/-! ## The processor -/

/-- The times of observations, quarantine rows and marks. -/
structure ProcessClock where
  (ingestedAt rowsAt marksAt : Time)
deriving DecidableEq

/-- A message with its receive count. -/
structure IngressQueueMessage where
  body : String
  receiveCount : Nat
deriving DecidableEq

/-- Rows that do not validate raise outside the pipeline. -/
def orRaise {α : Type} : Option α → TelemetryProgram (Except Failure α)
  | none => pure (.error (.raised .value))
  | some value => pure (.ok value)

section Process

variable (config : ProcessorConfig) (envelope : IngressEnvelope) (clock : ProcessClock)

/-- A verified fence writes rows and marks, a forged one nothing. -/
def processFence (fence : IngressFence) :
    TelemetryProgram (Except Failure IngressFailureCategory) :=
  if !fence.accountVerified then pure (.ok .fencedUnverified)
  else
    (orRaise (fencedRows config.encoding envelope fence clock.rowsAt)).andThen fun rows =>
      (putQuarantineEntries rows).andThen fun _ =>
        (recordFence envelope fence).andThen fun _ => pure (.ok .fenced)

/-- A value error of the pipeline is a contract violation. -/
def categoryOf (inPipeline : Bool) : Failure → IngressFailureCategory
  | .write true => .writeRetryable
  | .write false => .writePermanent
  | .raised .store => .storeUnavailable
  | .raised .value => if inPipeline then .contractViolation else .unexpected
  | .raised .other => .unexpected

/-- Persist the quarantine rows and raise the marks. -/
def processResult (result : NormalizationResult) (receiveCount : Nat) :
    TelemetryProgram (Except Failure IngressFailureCategory) :=
  (orRaise (outcomeRows config.encoding envelope result.quarantined clock.rowsAt)).andThen fun rows =>
    (putQuarantineEntries rows).andThen fun _ =>
      (recordOutcome envelope result receiveCount clock.marksAt).andThen fun _ =>
        pure (.ok .processed)

/-- The category of a result or a failure. -/
def categorized (inPipeline : Bool) : Except Failure IngressFailureCategory → IngressFailureCategory
  | .ok category => category
  | .error failure => categoryOf inPipeline failure

/-- Run the pipeline, then persist what it set aside. -/
def processIngest (context : TrustedSourceContext) (receiveCount : Nat) :
    TelemetryProgram IngressFailureCategory := do
  match ← ingest config context clock.ingestedAt envelope.observations with
  | .error failure => pure (categoryOf true failure)
  | .ok result =>
    let outcome ← processResult config envelope clock result receiveCount
    pure (categorized false outcome)

/-- Resolve again and take the branch of the fence. -/
def processEnvelope (receiveCount : Nat) : TelemetryProgram IngressFailureCategory := do
  match ← liftMapping (TrustedMapping.fence envelope) with
  | none =>
    let outcome ← (raise : TelemetryProgram (Except Failure IngressFailureCategory))
    pure (categorized false outcome)
  | some (.defer _) => pure .deferred
  | some (.fence fence) =>
    let outcome ← processFence config envelope clock fence
    pure (categorized false outcome)
  | some (.trusted context) => processIngest config envelope clock context receiveCount

end Process

/-- The category of a message. -/
def categorize (config : ProcessorConfig) (message : IngressQueueMessage) (clock : ProcessClock) :
    TelemetryProgram IngressFailureCategory :=
  match config.encoding.envelopeOfJson message.body with
  | none => pure .envelopeInvalid
  | some envelope => processEnvelope config envelope clock message.receiveCount

/-- What is done; a new visibility has its seconds. -/
inductive ProcessAction where
  | delete
  | visibility (seconds : Nat)
deriving DecidableEq

/-- What is done with a message, and why. -/
structure ProcessDecision where
  action : ProcessAction
  category : IngressFailureCategory
deriving DecidableEq

/-- Backoff by receive count, and for permanent failures. -/
structure RetryPolicy where
  backoff : Nat → Nat
  permanentVisibility : Nat := 60

/-- The decision of a category. -/
def RetryPolicy.decision (retry : RetryPolicy) (category : IngressFailureCategory)
    (receiveCount : Nat) : ProcessDecision :=
  match (ingressFailureTable category).2 with
  | .delete => ⟨.delete, category⟩
  | .permanent => ⟨.visibility retry.permanentVisibility, category⟩
  | .backoff => ⟨.visibility (retry.backoff receiveCount), category⟩

/-- Processed and fenced messages are deleted. -/
theorem RetryPolicy.decision_eq_delete_iff {retry : RetryPolicy} {category : IngressFailureCategory}
    {receiveCount : Nat} :
    (retry.decision category receiveCount).action = .delete ↔
      category = .processed ∨ category = .fenced := by
  rw [← messageAction_eq_delete_iff, RetryPolicy.decision]
  split <;> simp_all

/-- Process one message. -/
def process (config : ProcessorConfig) (retry : RetryPolicy) (message : IngressQueueMessage)
    (clock : ProcessClock) : TelemetryProgram ProcessDecision := do
  let category ← categorize config message clock
  pure (retry.decision category message.receiveCount)

/-- Processing a message, and changes by other services. -/
inductive TelemetryCall where
  | process (message : IngressQueueMessage) (retry : RetryPolicy) (clock : ProcessClock)
  | writeReferences (rows : ReferenceRows)
  | changeRow (key : RowKey) (change : QuarantineFields → Option QuarantineFields)

/-- The decision of a processor; `none` for other services. -/
abbrev TelemetryResult := Option ProcessDecision

/-- The program of a call. -/
def TelemetryCall.body (config : ProcessorConfig) : TelemetryCall → TelemetryProgram TelemetryResult
  | .process message retry clock => do
    let decision ← LimnoPulse.Ingestion.process config retry message clock
    pure (some decision)
  | .writeReferences rows => do
    let _ ← (Program.perform (TelemetryOp.writeReferences rows) : TelemetryProgram Unit)
    pure none
  | .changeRow key change => do
    let _ ← (Program.perform (TelemetryOp.changeRow key change) : TelemetryProgram Unit)
    pure none

/-- Workers and other services. -/
def telemetryMachine (config : ProcessorConfig) :
    Machine TelemetryStore TelemetryOutcome TelemetryCall TelemetryResult TelemetryOp
      TelemetryReply where
  exec := telemetryExec
  body := TelemetryCall.body config
  admits _ _ := true

end LimnoPulse.Ingestion
