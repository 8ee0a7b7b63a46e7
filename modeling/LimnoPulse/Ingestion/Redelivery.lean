import LimnoPulse.Deployments.Integrity
import LimnoPulse.Ingestion.AdmissionRuns
import LimnoPulse.Ingestion.Conservation

/-!
# Redelivered messages

A message that was not deleted is processed again.  As long as the reference rows
are the same, whatever fails and whenever processing stops, the points and rows it
stores are a beginning of one list that depends on the body and those rows only.

Main results:

- Theorem `process_planned`: processing stores a beginning of its plan, and a
  deleted message all of it.
- Theorem `telemetry_conserved`: conservation and redelivery together.
-/

namespace LimnoPulse.Ingestion

open StoreProgram

variable {α β : Type} {cache : LookupCache} {P : α → Prop} {p : TelemetryProgram (Except Failure α)}

/-- The stores and processes of a run. -/
abbrev TelemetryWorld :=
  World TelemetryStore TelemetryCall TelemetryResult TelemetryOp TelemetryReply

/-- Series and timestamp of a point, or a row's key. -/
inductive StoredIdentity where
  | point (identity : PointIdentity)
  | row (key : RowKey)
deriving DecidableEq

/-- What an operation stores. -/
def TelemetryOp.stores : TelemetryOp → List StoredIdentity
  | .writeLines lines => lines.map fun line => .point line.identity
  | .putRow row => [.row row.rowKey]
  | _ => []

/-- Replies from these rows, whichever reads fail. -/
def MappingRows.Possible (rows : MappingRows) (op : MappingOp) (reply : MappingReply op) : Prop :=
  ∃ fault, reply = rows.answer fault op

/-- The replies of stores with the given reference rows. -/
def Consistent (rows : ReferenceRows) (op : TelemetryOp) (reply : TelemetryReply op) : Prop :=
  ∃ outcome s t, s.references = rows ∧ telemetryExec op outcome s = some (reply, t)

/-! ## What the reference rows decide -/

section Decided

variable (rows : ReferenceRows)

/-- The stored component. -/
def componentOf (tenantId componentId : String) : Option DeviceComponent :=
  (rows.mapping.components componentId).filter (·.tenantId = tenantId)

/-- The stored deployment. -/
def deploymentOf (tenantId componentId : String) (observedAt : Time) :
    Except Deployments.DeploymentError (Option Deployments.Deployment) :=
  Deployments.deploymentAtOf tenantId observedAt
    (Deployments.queryLatest (rows.deployments.histories componentId) (some observedAt))

/-- The stored integration. -/
def integrationOf (providerKey externalIdentityHash : String) : Option DeviceIntegration :=
  (rows.mapping.externalIdentities (providerKey, externalIdentityHash)).bind fun lookup =>
    (rows.mapping.deviceIntegrations (lookup.tenantId, lookup.deviceIntegrationId)).bind
      (resolvedIntegration providerKey externalIdentityHash lookup)

/-- The stored account. -/
def accountOf (tenantId integrationAccountId : String) : Option IntegrationAccount :=
  (rows.mapping.integrationAccounts (tenantId, integrationAccountId)).filter (·.tenantId = tenantId)

/-- The stored device. -/
def deviceOf (tenantId deviceId : String) : Option DeviceV2 :=
  (rows.mapping.devices (tenantId, deviceId)).filter (·.tenantId = tenantId)

/-- The fence of an envelope. -/
def fenceOf (envelope : IngressEnvelope) : Option FenceResult :=
  let integration := integrationOf rows envelope.providerKey envelope.externalIdentityHash
  let account := accountOf rows envelope.tenantId envelope.integrationAccountId
  match integration.filter (matchesEnvelope · envelope) with
  | none => TrustedMapping.fenceResult envelope integration account none
  | some row =>
    TrustedMapping.fenceResult envelope integration account
      (deviceOf rows row.tenantId row.deviceId)

/-- The point of an accepted observation. -/
def pointOf (context : TrustedSourceContext) (source : SourceObservation)
    (component : DeviceComponent) (metric : MetricDefinition) (deployment : Deployments.Deployment) :
    PointIdentity where
  assetId := deployment.assetId
  componentId := source.componentId
  deploymentId := deployment.deploymentId
  deviceId := context.deviceId
  metricKey := metric.metricKey
  probeId := component.probeProfile.map (·.probeProfileId)
  siteId := deployment.siteId
  tenantId := context.tenantId
  timestampNs := source.observedAt * 1000

/-- The point of an observation, or its row. -/
def plannedIdentity (config : ProcessorConfig) (context : TrustedSourceContext)
    (versions : NormalizationVersions) (source : SourceObservation) :
    Except String PointIdentity :=
  let text := (config.encoding.boundedExcerpt source).1
  match measure config context versions (componentOf rows context.tenantId source.componentId)
      source with
  | .error _ => .error text
  | .ok (component, metric, _) =>
    match deploymentOf rows context.tenantId source.componentId source.observedAt with
    | .error _ => .error text
    | .ok deployment =>
      match placed context deployment source with
      | .error _ => .error text
      | .ok deployment => .ok (pointOf context source component metric deployment)

end Decided

/-- The points among some identities. -/
def plannedPoints (identities : List (Except String PointIdentity)) : List PointIdentity :=
  identities.filterMap fun
    | .ok identity => some identity
    | .error _ => none

/-- The texts among some identities. -/
def plannedTexts (identities : List (Except String PointIdentity)) : List String :=
  identities.filterMap fun
    | .ok _ => none
    | .error text => some text

/-- The points and rows of a trusted message. -/
def trustedPlan (config : ProcessorConfig) (rows : ReferenceRows) (envelope : IngressEnvelope)
    (context : TrustedSourceContext) : List StoredIdentity :=
  let identities := envelope.observations.map
    (plannedIdentity rows config context (context.mappingVersions.getD config.defaultVersions))
  (plannedPoints identities).map .point ++
    (envelope.rowKeys (plannedTexts identities)).map .row

/-- All that processing a message body stores. -/
def plannedStores (config : ProcessorConfig) (rows : ReferenceRows) (body : String) :
    List StoredIdentity :=
  match config.encoding.envelopeOfJson body with
  | none => []
  | some envelope =>
    match fenceOf rows envelope with
    | some (.trusted context) => trustedPlan config rows envelope context
    | some (.fence fence) =>
      if fence.accountVerified then (fencedKeys config.encoding envelope).map .row else []
    | _ => []

/-! ## Reads -/

variable {rows : ReferenceRows}

/-- The program follows a plan, by the reference rows. -/
abbrev Follows {α : Type} (rows : ReferenceRows) (post : α → List StoredIdentity → Prop)
    (p : TelemetryProgram α) (plan : List StoredIdentity) : Prop :=
  p.Planned (Consistent rows) TelemetryOp.stores post plan

/-- An operation that writes no line, point or row. -/
def TelemetryOp.IsPlain : TelemetryOp → Prop
  | .writeLines _ | .writeLegacy _ | .putRow _ => False
  | _ => True

/-- A plain operation stores nothing. -/
theorem TelemetryOp.IsPlain.stores {op : TelemetryOp} (h : op.IsPlain) : op.stores = [] := by
  cases op with
  | writeLines | putRow => exact h.elim
  | _ => rfl

/-- Plain operations, and the result of a success. -/
abbrev ReadsOk {α : Type} (rows : ReferenceRows) (P : α → Prop)
    (p : TelemetryProgram (Except Failure α)) : Prop :=
  (Program.StageLogic.within (Consistent rows) TelemetryOp.IsPlain Failure).Holds P p

/-- A success. -/
theorem ReadsOk.ok (rows : ReferenceRows) {value : α} (h : P value) :
    ReadsOk rows P (Program.done (.ok value)) :=
  (Program.StageLogic.within _ _ _).ok h

theorem ReadsOk.error (rows : ReferenceRows) (failure : Failure) :
    ReadsOk rows P (Program.done (.error failure)) :=
  (Program.StageLogic.within _ _ _).error failure

/-- Plain operations leave a plan alone. -/
theorem ReadsOk.follows (h : ReadsOk rows P p) (plan : List StoredIdentity) :
    Follows rows (fun result rest => rest = plan ∧ ∀ value, result = .ok value → P value) p plan :=
  Program.Within.planned (fun _ => TelemetryOp.IsPlain.stores) h

theorem raise_reads (P : α → Prop) : ReadsOk rows P raise :=
  ⟨trivial, fun _ _ => ReadsOk.error rows _⟩

/-- A mapping read is possible. -/
theorem consistent_mapping {op : MappingOp} {reply : MappingReply op}
    (h : Consistent rows (.mapping op) reply) : rows.mapping.Possible op reply := by
  obtain ⟨outcome, s, t, rfl, hexec⟩ := h
  simp only [telemetryExec, Option.some.injEq, Prod.mk.injEq] at hexec
  exact ⟨outcome.fault, hexec.1.symm⟩

/-- A history read is of the rows. -/
theorem consistent_queryHistory {componentId : String} {upper : Option Int}
    {reply : ReadReply Deployments.DeploymentRow}
    (h : Consistent rows (.deployment (.queryHistory componentId upper)) reply) :
    ∃ fault, reply = answer fault
      (Deployments.queryLatest (rows.deployments.histories componentId) upper) := by
  obtain ⟨outcome, s, t, rfl, hexec⟩ := h
  simp only [telemetryExec, Deployments.exec, Option.map_some, Option.some.injEq,
    Prod.mk.injEq] at hexec
  exact ⟨outcome.fault, hexec.1.symm⟩

/-- The lookups of a call agree with the reference rows. -/
structure CacheAgrees (rows : ReferenceRows) (tenantId : String) (cache : LookupCache) : Prop where
  components : ∀ componentId component, cache.components.lookup componentId = some component →
    component = componentOf rows tenantId componentId
  deployments : ∀ componentId observedAt deployment,
    cache.deployments.lookup (componentId, observedAt) = some deployment →
    deploymentOf rows tenantId componentId observedAt = .ok deployment

/-- The component of the rows. -/
theorem lookupComponent_reads {tenantId : String} (hcache : CacheAgrees rows tenantId cache)
    (componentId : String) :
    ReadsOk rows (fun (component, cache') => component = componentOf rows tenantId componentId ∧
      CacheAgrees rows tenantId cache') (lookupComponent tenantId cache componentId) := by
  unfold lookupComponent
  split
  · next component hlookup => exact ReadsOk.ok rows ⟨hcache.components _ _ hlookup, hcache⟩
  · refine ⟨trivial, fun reply hreply => ?_⟩
    obtain ⟨fault, hfault⟩ := consistent_mapping hreply
    match reply with
    | .unavailable => exact raise_reads _
    | .row component =>
      have hrow := answer_eq_row hfault.symm
      subst hrow
      refine ReadsOk.ok rows ⟨rfl, fun other component hother => ?_, hcache.deployments⟩
      rw [List.lookup_cons] at hother
      split at hother
      · next hsame =>
        cases hother
        rw [eq_of_beq hsame]
        rfl
      · exact hcache.components _ _ hother

/-- The deployment of the rows. -/
theorem lookupDeployment_reads {tenantId : String} (hcache : CacheAgrees rows tenantId cache)
    (componentId : String) (observedAt : Time) :
    ReadsOk rows (fun (deployment, cache') =>
      deploymentOf rows tenantId componentId observedAt = .ok deployment ∧
        CacheAgrees rows tenantId cache') (lookupDeployment tenantId cache componentId observedAt) := by
  unfold lookupDeployment
  split
  · next deployment hlookup => exact ReadsOk.ok rows ⟨hcache.deployments _ _ _ hlookup, hcache⟩
  · refine ⟨trivial, fun reply hreply => ?_⟩
    obtain ⟨fault, hfault⟩ := consistent_queryHistory hreply
    match reply with
    | .unavailable => exact raise_reads _
    | .row latest =>
      have hrow := answer_eq_row hfault.symm
      subst hrow
      change ReadsOk rows _ (Program.bind (Program.done (deploymentOf rows tenantId componentId
        observedAt)) _)
      rcases hfound : deploymentOf rows tenantId componentId observedAt with failure | deployment
      · cases failure with
        | storeError => exact raise_reads _
        | notFound message | conflict message | invalid message => exact ReadsOk.error rows _
      · refine ReadsOk.ok rows ⟨rfl, hcache.components, fun other at_ found hother => ?_⟩
        rw [List.lookup_cons] at hother
        split at hother
        · next hsame =>
          cases hother
          cases eq_of_beq hsame
          exact hfound
        · exact hcache.deployments _ _ _ hother

/-- The identity a verdict is stored under. -/
def Verdict.identity : Verdict → Except String PointIdentity
  | .accepted o => .ok o.pointIdentity
  | .quarantined q => .error q.sourceExcerptJson

/-- Lookups show the rows. -/
theorem looksUp_reads (tenantId : String) :
    LooksUp (fun componentId component => component = componentOf rows tenantId componentId)
      (fun componentId observedAt deployment =>
        deploymentOf rows tenantId componentId observedAt = .ok deployment)
      (.within (Consistent rows) TelemetryOp.IsPlain Failure) tenantId (CacheAgrees rows tenantId) where
  empty := ⟨by simp, by simp⟩
  component _ componentId hcache := lookupComponent_reads hcache componentId
  deployment _ componentId observedAt hcache := lookupDeployment_reads hcache componentId observedAt

/-- A verdict on lookups of the reference rows. -/
abbrev JudgedBy (rows : ReferenceRows) (config : ProcessorConfig) (context : TrustedSourceContext)
    (policy : QualityPolicy) (ingestedAt : Time) : SourceObservation → Verdict → Prop :=
  Judged config context (context.mappingVersions.getD config.defaultVersions) policy ingestedAt
    (fun componentId component => component = componentOf rows context.tenantId componentId)
    fun componentId observedAt deployment =>
      deploymentOf rows context.tenantId componentId observedAt = .ok deployment

section Normalization

variable {config : ProcessorConfig} {context : TrustedSourceContext} {policy : QualityPolicy}
  {ingestedAt : Time}

/-- A verdict has its planned identity. -/
theorem JudgedBy.identity {source : SourceObservation} {verdict : Verdict}
    (h : JudgedBy rows config context policy ingestedAt source verdict) :
    verdict.identity = plannedIdentity rows config context
      (context.mappingVersions.getD config.defaultVersions) source := by
  cases h with
  | unmeasured hcomp hmeas =>
    subst hcomp
    simp only [plannedIdentity, hmeas]
    rfl
  | unplaced hcomp hmeas hdep hplaced =>
    subst hcomp
    simp only [plannedIdentity, hmeas, hdep, hplaced]
    rfl
  | accepted hcomp hmeas hdep hplaced hfields =>
    subst hcomp
    simp only [plannedIdentity, hmeas, hdep, hplaced, Verdict.identity, hfields]
    rfl

/-- The points and texts of a result. -/
structure ResultFollows (result : NormalizationResult)
    (identities : List (Except String PointIdentity)) : Prop where
  points : result.accepted.map (·.pointIdentity) = plannedPoints identities
  texts : result.quarantined.map (·.sourceExcerptJson) = plannedTexts identities

theorem ResultFollows.collect {identity : SourceObservation → Except String PointIdentity}
    {sources : List SourceObservation} {verdicts : List Verdict}
    (h : List.Forall₂ (fun source verdict => verdict.identity = identity source) sources verdicts) :
    ResultFollows (collect verdicts) (sources.map identity) := by
  have hall : sources.map identity = verdicts.map Verdict.identity := by
    induction h with
    | nil => rfl
    | cons hverdict _ ih => rw [List.map_cons, List.map_cons, ih, hverdict]
  rw [hall]
  clear h hall
  induction verdicts with
  | nil => exact ⟨rfl, rfl⟩
  | cons verdict verdicts ih =>
    obtain ⟨hpoints, htexts⟩ := ih
    cases verdict with
    | accepted o => exact ⟨congrArg (o.pointIdentity :: ·) hpoints, htexts⟩
    | quarantined q => exact ⟨hpoints, congrArg (q.sourceExcerptJson :: ·) htexts⟩

/-- Normalization follows the plan. -/
theorem normalize_reads (sources : List SourceObservation) :
    ReadsOk rows (fun result => ResultFollows result (sources.map (plannedIdentity rows config context
        (context.mappingVersions.getD config.defaultVersions))))
      (normalize config context ingestedAt sources) := by
  refine (Program.StageLogic.within _ _ _).mono ?_ (normalize_judged (looksUp_reads _) sources)
  rintro result ⟨policy, verdicts, rfl, hverdicts⟩
  exact ResultFollows.collect (hverdicts.imp fun _ _ => JudgedBy.identity)

end Normalization

/-- A success stores `stored`, a failure a beginning of it. -/
def Stores {α : Type} (rows : ReferenceRows) (stored : List StoredIdentity)
    (p : TelemetryProgram (Except Failure α)) : Prop :=
  ∀ later, Follows rows (fun result rest => ∀ value, result = .ok value → rest = later) p
    (stored ++ later)

/-- A stage that stores nothing. -/
theorem Stores.nil_of_performs (h : p.Performs fun op => op.stores = []) : Stores rows [] p := by
  intro later
  exact Program.Planned.mono (fun _ _ hrest _ _ => hrest) (Program.Planned.of_performs h)

theorem Stores.andThen {stored stored' : List StoredIdentity}
    {f : α → TelemetryProgram (Except Failure β)}
    (hp : Stores rows stored p) (hf : ∀ value, Stores rows stored' (f value)) :
    Stores rows (stored ++ stored') (p.andThen f) := by
  intro later
  rw [List.append_assoc]
  refine Program.Planned.andThen (hp (stored' ++ later)) ?_ ?_
  · rintro failure rest - _ ⟨⟩
  · intro value rest hrest
    rw [hrest value rfl]
    exact hf value later

/-- Chunks are stored in order. -/
theorem writeAll_stores :
    ∀ chunks : List (List ObservationLine),
      Stores rows (chunks.flatten.map fun line => .point line.identity)
        (writeAll sendLines chunks) := by
  intro chunks
  induction chunks with
  | nil =>
    intro later _ _
    rfl
  | cons chunk chunks ih =>
    intro later
    refine ⟨chunks.flatten.map (fun line => .point line.identity) ++ later, ?_, ?_⟩
    · simp [TelemetryOp.stores]
    · intro reply _
      match reply with
      | .failed retryable => rintro _ ⟨⟩
      | .taken => exact ih later

/-- The identity of a line. -/
theorem encodeObservationLine_identity {o : CanonicalObservation} {line : ObservationLine}
    (h : encodeObservationLine o = some line) : line.identity = o.pointIdentity := by
  unfold encodeObservationLine at h
  split at h
  · cases h
    rfl
  · contradiction

/-- The identities of lines. -/
theorem map_identity_of_mapM :
    ∀ {observations : List CanonicalObservation} {lines : List ObservationLine},
      observations.mapM encodeObservationLine = some lines →
      lines.map (·.identity) = observations.map (·.pointIdentity)
  | [], _, h => by
    cases h
    rfl
  | o :: observations, lines, h => by
    simp only [List.mapM_cons, Option.bind_eq_bind, Option.bind_eq_some_iff, Option.pure_def,
      Option.some.injEq] at h
    obtain ⟨line, hline, rest, hrest, rfl⟩ := h
    rw [List.map_cons, List.map_cons, encodeObservationLine_identity hline,
      map_identity_of_mapM hrest]

/-- Points are stored in order. -/
theorem writeObservations_stores (config : ProcessorConfig)
    (observations : List CanonicalObservation) :
    Stores rows ((observations.map (·.pointIdentity)).map .point)
      (writeObservations config observations) := by
  unfold writeObservations
  split
  · rintro later _ ⟨⟩
  · next lines hlines =>
    have hstores : Stores rows _ _ :=
      writeAll_stores (chunksOf config.maxLinesPerRequest lines.length lines)
    rw [chunksOf_flatten config.positive _ lines (Nat.le_refl _)] at hstores
    rw [← map_identity_of_mapM hlines, List.map_map]
    exact hstores

/-! ## Stages that store nothing of their own -/

/-- A program of plain operations. -/
abbrev Plain {α : Type} (p : TelemetryProgram α) : Prop := p.Performs TelemetryOp.IsPlain

/-- An exception stores nothing. -/
theorem raise_plain : Plain (raise : TelemetryProgram (Except Failure α)) :=
  ⟨trivial, fun _ => trivial⟩

/-- Lookups of ponds store nothing. -/
theorem resolvePonds_plain (config : ProcessorConfig) :
    ∀ (observations : List CanonicalObservation) (resolved : List (String × String))
      (ponds : PondTable), Plain (resolvePonds config observations resolved ponds) := by
  intro observations
  induction observations with
  | nil => exact fun _ _ => trivial
  | cons o observations ih =>
    intro resolved ponds
    simp only [resolvePonds, Program.perform_bind]
    split
    · exact ih _ _
    · split
      · exact ih _ _
      · refine ⟨trivial, fun reply => ?_⟩
        cases reply with
        | unavailable => trivial
        | row asset =>
          dsimp only
          split <;> exact ih _ _

/-- Requests perform what each of them performs. -/
theorem writeAll_performs {R : TelemetryOp → Prop} {send : List α → TelemetryProgram LineReply}
    {chunks : List (List α)} (h : ∀ chunk ∈ chunks, (send chunk).Performs R) :
    (writeAll send chunks).Performs R := by
  induction chunks with
  | nil => trivial
  | cons chunk chunks ih =>
    obtain ⟨hchunk, hchunks⟩ := List.forall_mem_cons.mp h
    refine Program.Performs.bind (fun reply => ?_) hchunk
    match reply with
    | .failed retryable => trivial
    | .taken => exact ih hchunks

theorem applyIngestMarks_plain (requests : List Advance) : Plain (applyIngestMarks requests) := by
  induction requests with
  | nil => trivial
  | cons request requests ih =>
    refine ⟨trivial, fun reply => ?_⟩
    match reply with
    | .unavailable => exact raise_plain
    | .committed | .conflict => exact ih

theorem getComponentStates_plain (tenantId : String) (componentIds : List String) :
    Plain (getComponentStates tenantId componentIds) := by
  induction componentIds with
  | nil => trivial
  | cons componentId rest ih =>
    refine ⟨trivial, fun reply => ?_⟩
    match reply with
    | .unavailable => exact raise_plain
    | .row row =>
      refine Program.Performs.andThen ih fun states => ?_
      split <;> trivial

theorem recordOutcome_plain (envelope : IngressEnvelope) (result : NormalizationResult)
    (receiveCount : Nat) (marksAt : Time) :
    Plain (recordOutcome envelope result receiveCount marksAt) := by
  unfold recordOutcome
  split
  · trivial
  · refine Program.Performs.andThen ?_ fun events =>
      Program.Performs.andThen (applyIngestMarks_plain _) fun _ => trivial
    split
    · exact Program.Performs.andThen (getComponentStates_plain _ _) fun _ => trivial
    · trivial

/-- The points that are written. -/
theorem writeService_stores {config : ProcessorConfig} (hv2 : config.v2WriteEnabled = true)
    (observations : List CanonicalObservation) :
    Stores rows ((observations.map (·.pointIdentity)).map .point)
      (writeService config observations) := by
  unfold writeService
  split
  · rintro later _ ⟨⟩
  · rw [← List.append_nil ((observations.map (·.pointIdentity)).map StoredIdentity.point)]
    refine Stores.andThen (writeObservations_stores config observations) fun _ => ?_
    split
    · have hponds := (resolvePonds_plain config observations [] []).mono fun _ => TelemetryOp.IsPlain.stores
      exact Stores.nil_of_performs (Program.Performs.andThen hponds
        fun ponds => writeAll_performs fun _ _ => ⟨rfl, fun _ => trivial⟩)
    · exact Stores.nil_of_performs trivial

/-- Rows are stored in order. -/
theorem putQuarantineEntries_stores :
    ∀ entries : List QuarantineFields,
      Stores rows ((entries.map (·.rowKey)).map .row) (putQuarantineEntries entries) := by
  intro entries
  induction entries with
  | nil =>
    intro later _ _
    rfl
  | cons entry entries ih =>
    intro later
    refine ⟨(entries.map (·.rowKey)).map .row ++ later, by simp [TelemetryOp.stores], ?_⟩
    intro reply _
    match reply with
    | .unavailable =>
      refine Program.Planned.call rfl ?_
      rintro kind _ _ ⟨⟩
    | .committed | .conflict => exact ih later

/-- Who deletes has nothing left to store. -/
def Finished (category : IngressFailureCategory) (rest : List StoredIdentity) : Prop :=
  category = .processed ∨ category = .fenced → rest = []

/-- A failure asks for nothing. -/
theorem Finished.of_failure (inPipeline : Bool) (failure : Failure) (rest : List StoredIdentity) :
    Finished (categoryOf inPipeline failure) rest := by
  cases failure with
  | write retryable => cases retryable <;> simp [Finished, categoryOf]
  | raised kind => cases kind <;> cases inPipeline <;> simp [Finished, categoryOf]

/-- A stage that stores a plan ends with nothing left. -/
theorem categorized_follows {stored : List StoredIdentity}
    {p : TelemetryProgram (Except Failure IngressFailureCategory)} (hp : Stores rows stored p) :
    Follows rows Finished (p >>= fun outcome => pure (categorized false outcome)) stored := by
  have hplan := hp []
  rw [List.append_nil] at hplan
  refine Program.Planned.bind hplan ?_
  intro outcome rest hrest
  cases outcome with
  | ok category => exact fun _ => hrest category rfl
  | error failure => exact Finished.of_failure false failure rest

section Process

variable {config : ProcessorConfig} {envelope : IngressEnvelope} {clock : ProcessClock}

/-- Validation, then rows, then stages that store nothing. -/
theorem rows_stores {found : Option (List QuarantineFields)} {keys : List RowKey}
    (hkeys : ∀ entries, found = some entries → entries.map (·.rowKey) = keys)
    {f : TelemetryProgram (Except Failure α)} (hf : Plain f) :
    Stores rows (keys.map .row)
      ((orRaise found).andThen fun entries => (putQuarantineEntries entries).andThen fun _ => f) := by
  cases found with
  | none => rintro later _ ⟨⟩
  | some entries =>
    have hstores : Stores rows _ _ :=
      Stores.andThen (putQuarantineEntries_stores entries) fun _ =>
        Stores.nil_of_performs (hf.mono fun _ => TelemetryOp.IsPlain.stores)
    rw [List.append_nil, hkeys entries rfl] at hstores
    exact hstores

/-- The rows of a fence. -/
theorem processFence_stores (fence : IngressFence) :
    Stores rows
      (if fence.accountVerified then (fencedKeys config.encoding envelope).map .row else [])
      (processFence config envelope clock fence) := by
  unfold processFence
  cases hverified : fence.accountVerified with
  | false => exact Stores.nil_of_performs trivial
  | true =>
    exact rows_stores (fun _ hrows => fencedRows_spec hrows)
      (Program.Performs.andThen (applyIngestMarks_plain _) fun _ => trivial)

/-- A trusted message follows its plan. -/
theorem processIngest_follows (hv2 : config.v2WriteEnabled = true) (context : TrustedSourceContext)
    (receiveCount : Nat) :
    Follows rows Finished (processIngest config envelope clock context receiveCount)
      (trustedPlan config rows envelope context) := by
  -- After normalization the points and then the rows of the plan are left.
  have hingest : Follows rows (fun outcome rest => ∀ result, outcome = .ok result →
        ResultFollows result (envelope.observations.map (plannedIdentity rows config context
          (context.mappingVersions.getD config.defaultVersions))) ∧
        rest = (envelope.rowKeys (plannedTexts (envelope.observations.map
          (plannedIdentity rows config context
            (context.mappingVersions.getD config.defaultVersions))))).map .row)
      (ingest config context clock.ingestedAt envelope.observations)
      (trustedPlan config rows envelope context) := by
    refine Program.Planned.andThen ((normalize_reads envelope.observations).follows _) ?_ ?_
    · rintro failure rest - _ ⟨⟩
    · rintro result rest ⟨rfl, hres⟩
      have hfollows := hres result rfl
      have hwrites : Stores rows _ _ := writeService_stores hv2 result.accepted
      have hstores := hwrites
        ((envelope.rowKeys (plannedTexts (envelope.observations.map
          (plannedIdentity rows config context
            (context.mappingVersions.getD config.defaultVersions))))).map .row)
      rw [hfollows.points] at hstores
      refine Program.Planned.andThen hstores ?_ ?_
      · rintro failure rest - _ ⟨⟩
      · rintro _ rest hrest _ ⟨⟩
        exact ⟨hfollows, hrest () rfl⟩
  refine Program.Planned.bind hingest ?_
  intro outcome rest hout
  match outcome with
  | .error failure => exact Finished.of_failure true failure rest
  | .ok result =>
    obtain ⟨hfollows, rfl⟩ := hout result rfl
    refine categorized_follows (rows_stores (fun entries hentries => ?_)
      (Program.Performs.andThen (recordOutcome_plain _ _ _ _) fun _ => trivial))
    rw [outcomeRows_spec hentries, hfollows.texts]

end Process

/-! ### Fences -/

/-- The result of mapping reads that all answer. -/
def MappingReads {α : Type} (rows : ReferenceRows) (P : α → Prop)
    (p : MappingProgram (Option α)) : Prop :=
  p.Within rows.mapping.Possible (fun _ => True) fun result => ∀ value, result = some value → P value

/-- A row that was found. -/
theorem MappingReads.some {value : α} (h : P value) :
    MappingReads rows P (Program.done (some value)) := by
  rintro _ ⟨⟩
  exact h

theorem MappingReads.none : MappingReads rows P (Program.done none) := by
  rintro _ ⟨⟩

/-- One read after another. -/
theorem MappingReads.bind {Q : β → Prop} {p : MappingProgram (Option α)}
    {f : Option α → MappingProgram (Option β)} (hp : MappingReads rows P p)
    (hnone : MappingReads rows Q (f .none))
    (hsome : ∀ value, P value → MappingReads rows Q (f (.some value))) :
    MappingReads rows Q (p >>= f) := by
  refine Program.Within.bind hp ?_
  intro result hres
  cases result with
  | none => exact hnone
  | some value => exact hsome value (hres value rfl)

/-- A read, and what it says when it answers. -/
theorem MappingReads.read {op : MappingOp} {next : MappingReply op → MappingProgram (Option α)}
    (hlost : MappingReads rows P (next (rows.mapping.answer .requestLost op)))
    (hunknown : MappingReads rows P (next (rows.mapping.answer .answerLost op)))
    (h : MappingReads rows P (next (rows.mapping.answer .none op))) :
    MappingReads rows P (.call op next) := by
  refine ⟨trivial, ?_⟩
  rintro _ ⟨fault, rfl⟩
  cases fault with
  | none => exact h
  | requestLost => exact hlost
  | answerLost => exact hunknown

/-- The integration of the rows. -/
theorem resolveExternalIdentity_reads (providerKey externalIdentityHash : String) :
    MappingReads rows (fun integration => integration =
        integrationOf rows providerKey externalIdentityHash)
      (resolveExternalIdentity providerKey externalIdentityHash) := by
  refine MappingReads.read MappingReads.none MappingReads.none ?_
  simp only [MappingRows.answer, answer, integrationOf]
  cases rows.mapping.externalIdentities (providerKey, externalIdentityHash) with
  | none => exact MappingReads.some rfl
  | some lookup =>
    refine MappingReads.read MappingReads.none MappingReads.none ?_
    simp only [MappingRows.answer, answer, Option.bind_some]
    cases rows.mapping.deviceIntegrations (lookup.tenantId, lookup.deviceIntegrationId) with
    | none | some integration => exact MappingReads.some rfl

/-- The account of the rows. -/
theorem getIntegrationAccount_reads (tenantId integrationAccountId : String) :
    MappingReads rows (fun account => account = accountOf rows tenantId integrationAccountId)
      (getIntegrationAccount tenantId integrationAccountId) :=
  MappingReads.read MappingReads.none MappingReads.none (MappingReads.some rfl)

/-- The device of the rows. -/
theorem getDevice_reads (tenantId deviceId : String) :
    MappingReads rows (fun device => device = deviceOf rows tenantId deviceId)
      (getDevice tenantId deviceId) :=
  MappingReads.read MappingReads.none MappingReads.none (MappingReads.some rfl)

/-- The fence of the rows. -/
theorem fence_reads (envelope : IngressEnvelope) :
    MappingReads rows (fun result => fenceOf rows envelope = some result)
      (TrustedMapping.fence envelope) := by
  refine MappingReads.bind (resolveExternalIdentity_reads _ _) MappingReads.none ?_
  rintro _ rfl
  refine MappingReads.bind (getIntegrationAccount_reads _ _) MappingReads.none ?_
  rintro _ rfl
  dsimp only
  split
  · next hfilter =>
    intro value hvalue
    simp only [fenceOf, hfilter, hvalue]
  · next row hfilter =>
    refine MappingReads.bind (getDevice_reads _ _) MappingReads.none ?_
    rintro _ rfl value hvalue
    simp only [fenceOf, hfilter, hvalue]

/-- The fence, read by a worker. -/
theorem liftFence_reads (envelope : IngressEnvelope) :
    (liftMapping (TrustedMapping.fence envelope)).Within (Consistent rows) TelemetryOp.IsPlain
      fun result => ∀ value, result = some value → fenceOf rows envelope = some value :=
  Program.Within.embed (fun _ _ => trivial) (fun _ _ => consistent_mapping) (fence_reads envelope)

section Process

variable {config : ProcessorConfig}

/-- Any envelope follows its plan. -/
theorem processEnvelope_follows (hv2 : config.v2WriteEnabled = true) {body : String}
    {envelope : IngressEnvelope} (hparsed : config.encoding.envelopeOfJson body = some envelope)
    (clock : ProcessClock) (receiveCount : Nat) :
    Follows rows Finished (processEnvelope config envelope clock receiveCount)
      (plannedStores config rows body) := by
  refine Program.Planned.bind
    (Program.Within.planned (fun _ => TelemetryOp.IsPlain.stores) (liftFence_reads envelope)) ?_
  rintro result rest ⟨rfl, hres⟩
  match result with
  | none =>
    refine Program.Planned.bind ((raise_reads fun _ => False).follows _) ?_
    rintro outcome rest ⟨-, hout⟩
    cases outcome with
    | ok category => exact (hout category rfl).elim
    | error failure => exact Finished.of_failure false failure rest
  | some (.defer reason) => rintro (h | h) <;> cases h
  | some (.fence fence) =>
    have hplan : plannedStores config rows body =
        if fence.accountVerified then (fencedKeys config.encoding envelope).map .row else [] := by
      simp only [plannedStores, hparsed, hres _ rfl]
    rw [hplan]
    exact categorized_follows (processFence_stores fence)
  | some (.trusted context) =>
    have hplan : plannedStores config rows body = trustedPlan config rows envelope context := by
      simp only [plannedStores, hparsed, hres _ rfl]
    rw [hplan]
    exact processIngest_follows hv2 context receiveCount

/-- A beginning of the plan is stored, and all of it before deletion. -/
theorem process_planned (hv2 : config.v2WriteEnabled = true) (retry : RetryPolicy)
    (message : IngressQueueMessage) (clock : ProcessClock) :
    Follows rows (fun decision rest => decision.action = .delete → rest = [])
      (process config retry message clock) (plannedStores config rows message.body) := by
  unfold process categorize
  split
  · intro hdelete
    rcases RetryPolicy.decision_eq_delete_iff.mp hdelete with h | h <;> cases h
  · next envelope hparsed =>
    refine Program.Planned.bind
      (processEnvelope_follows hv2 hparsed clock message.receiveCount) ?_
    intro category rest hfinished hdelete
    exact hfinished (RetryPolicy.decision_eq_delete_iff.mp hdelete)

end Process

/-! ## A fenced message -/

namespace SampleFence

/-- A reading. -/
def observation : SourceObservation where
  componentId := SampleAdmission.componentId
  metricKey := "water.dissolved_oxygen"
  value := .int 7
  sourceUnit := "mg/L"
  observedAt := 0
  sequence := none
  sourceEventId := none
  sourceMetadata := []

/-- An envelope of one observation, or its replay. -/
def envelope (replay : Bool) : IngressEnvelope where
  ingressId := SampleAdmission.secondId
  replayOf := if replay then some SampleAdmission.firstId else none
  tenantId := "t"
  integrationAccountId := "ia"
  providerKey := "https_direct"
  externalIdentityHash := SampleAdmission.digest "0a1b2c3d"
  deviceIntegrationId := SampleAdmission.deviceIntegrationId
  deviceId := "dev"
  sourceType := .https
  connectorVersion := none
  receivedAt := 0
  replay := replay
  mappingVersions := {}
  observations := [observation]
  valid := by cases replay <;> decide

/-- Symbolic texts; the compact text is not the dump. -/
def encoding : TelemetryEncoding where
  accountScopedIdentityHash _ _ externalDeviceId := SampleAdmission.digest externalDeviceId
  defaultComponentIdForLegacyDevice _ _ := SampleAdmission.componentId
  envelopeOfJson body := some (envelope (body == "replay"))
  envelopeJson _ := "envelope"
  observationJson _ := "compact"
  payloadExcerpt _ := "compact"
  boundedExcerpt _ := ("full", false)
  observationOfJson _ := none
  observationEventId _ _ _ _ := "event"

/-- A processor. -/
def config : ProcessorConfig where
  encoding := encoding
  v2WriteEnabled := true
  legacyDualWriteEnabled := false

/-- The account is revoked after admission. -/
def store : TelemetryStore where
  references := {
    mapping := { SampleAdmission.mapping with
      integrationAccounts := fun _ => some ⟨"t", "ia", "https_direct", .revoked⟩ }
    deployments := Deployments.TwoDeployments.store
    assets := fun _ => none }
  assetVersions := [fun _ => none]
  written := []
  legacyWritten := []
  quarantine := fun _ => none
  persisted := []
  marks := ⟨fun _ => none, fun _ => none⟩

/-- A minute of backoff. -/
def retry : RetryPolicy := { backoff := fun _ => 60 }

/-- Three times of the clock. -/
def clock : ProcessClock := ⟨1, 1, 1⟩

/-- One message, processed without faults. -/
def schedule (message : IngressQueueMessage) (awaits : Nat) :
    List (Action TelemetryOutcome TelemetryCall) :=
  .start (.process message retry clock) :: List.replicate awaits (.step 0 {})

/-- The decisions of the finished processes. -/
def decisions (w : TelemetryWorld) : List (IngressQueueMessage × ProcessDecision) :=
  w.processes.filterMap fun
    | (.process message _ _, .done (some decision)) => some (message, decision)
    | _ => none

/-- A decision is of a call that ended. -/
theorem exists_process {w : TelemetryWorld} {message : IngressQueueMessage}
    {decision : ProcessDecision} (h : (message, decision) ∈ decisions w) :
    ∃ retry clock, (TelemetryCall.process message retry clock, Program.done (some decision)) ∈
      w.processes := by
  obtain ⟨⟨call, program⟩, hmem, hdecis⟩ := List.mem_filterMap.mp h
  split at hdecis
  · next retry clock _ heq =>
    cases hdecis
    cases heq
    exact ⟨retry, clock, hmem⟩
  · cases hdecis

/-- The rows are all logged. -/
theorem store_logsComplete : LogsComplete store := ⟨by simp [store], List.mem_cons_self⟩

end SampleFence

open SampleFence

/-- With canonical writes enabled.  In every run, if a message was deleted then each
of its observations, by position and in order, was taken by every enabled writer or
has its row persisted; or the message had a verified fence, a row for each observation
and the summary row are persisted, and the connector is marked unless the message is
a replay.  Whatever fails in processing a message, and wherever it stops, the points
and rows stored so far are a beginning of a list that the body and the reference
rows determine, and all of it if the message is deleted. -/
theorem telemetry_conserved (config : ProcessorConfig) (hv2 : config.v2WriteEnabled = true) :
    (∀ s, LogsComplete s → ∀ schedule w,
      (telemetryMachine config).run (Machine.initial s) schedule = some w →
      ∀ message retry clock decision,
        (TelemetryCall.process message retry clock, Program.done (some decision)) ∈ w.processes →
        decision.action = .delete → Deleted config message w.store) ∧
    ∀ rows message retry clock ops rest,
      Program.Trace (Consistent rows) (process config retry message clock) ops rest →
      ops.flatMap TelemetryOp.stores <+: plannedStores config rows message.body ∧
      ∀ decision, rest = .done decision → decision.action = .delete →
        ops.flatMap TelemetryOp.stores = plannedStores config rows message.body := by
  constructor
  · intro s hs schedule w hrun message retry clock decision hprocess hdelete
    exact deleted_of_run config hs hrun hprocess hdelete
  · intro rows message retry clock ops rest htrace
    obtain ⟨left, hplan, hrest⟩ :=
      Program.Planned.trace htrace (process_planned hv2 retry message clock)
    refine ⟨⟨left, hplan.symm⟩, ?_⟩
    rintro decision rfl hdelete
    have hleft : left = [] := hrest hdelete
    rw [hplan, hleft, List.append_nil]

/-- A message of a revoked account is deleted with its rows and mark. -/
theorem telemetry_conserved_of_revoked_account :
    config.v2WriteEnabled = true ∧ ∃ w,
      (telemetryMachine config).run (Machine.initial store)
        (schedule ⟨"message", 1⟩ 7) = some w ∧
      w.store.persisted.length = 2 ∧ Deleted config ⟨"message", 1⟩ w.store := by
  have hfinal : ((telemetryMachine config).run (Machine.initial store)
      (schedule ⟨"message", 1⟩ 7)).map (fun w =>
        (decisions w, w.store.persisted.length)) =
      some ([(⟨"message", 1⟩, ⟨.delete, .fenced⟩)], 2) := by decide +kernel
  obtain ⟨w, hrun, hw⟩ := Option.map_eq_some_iff.mp hfinal
  obtain ⟨hdecisions, hpersisted⟩ := Prod.mk.inj hw
  obtain ⟨retry, clock, hprocess⟩ := exists_process (hdecisions ▸ List.mem_cons_self)
  exact ⟨rfl, w, hrun, hpersisted, (telemetry_conserved config rfl).1 _
    store_logsComplete _ w hrun _ retry clock _ hprocess rfl⟩

/-- A replay with a verified fence is deleted, and the connector has no mark; nor was its
observation written or set aside by the pipeline. -/
theorem fenced_replay_unmarked : ∃ w,
    config.v2WriteEnabled = true ∧ LogsComplete store ∧
      (telemetryMachine config).run (Machine.initial store)
        (schedule ⟨"replay", 1⟩ 6) = some w ∧
      (⟨"replay", 1⟩, ⟨.delete, .fenced⟩) ∈ decisions w ∧
      w.store.marks.marks (.connector "ia", .lastFencedAt) = none ∧
      (∀ verdicts, ¬ ConservedBy config (envelope true) verdicts w.store) ∧
      ∀ fence, ¬ (fenceAdvance (envelope true) fence).Done w.store := by
  have hfinal : ((telemetryMachine config).run (Machine.initial store)
      (schedule ⟨"replay", 1⟩ 6)).map (fun w =>
        (decisions w, (w.store.marks.marks (.connector "ia", .lastFencedAt)).isNone,
          w.store.persisted.contains ((envelope true).rowKey 0 "full"),
          w.store.written.isEmpty)) =
      some ([(⟨"replay", 1⟩, ⟨.delete, .fenced⟩)], true, false, true) := by
    decide +kernel
  obtain ⟨w, hrun, hw⟩ := Option.map_eq_some_iff.mp hfinal
  simp only [Prod.mk.injEq, Option.isNone_iff_eq_none, List.isEmpty_iff] at hw
  obtain ⟨hdecisions, hmark, hpersisted, hwritten⟩ := hw
  refine ⟨w, rfl, store_logsComplete, hrun, hdecisions ▸ List.mem_cons_self, hmark, ?_, ?_⟩
  · intro verdicts hconserved
    obtain ⟨_, _, _, _, hjudged⟩ := hconserved.judged
    obtain ⟨verdict, _, hverdict, hnil, rfl⟩ := List.forall₂_cons_left_iff.mp hjudged
    cases hnil
    cases hverdict with
    | accepted =>
      obtain ⟨line, -, hline⟩ := hconserved.written.1 rfl _ List.mem_cons_self
      rw [hwritten] at hline
      cases hline
    | unmeasured | unplaced =>
      have hkey : (envelope true).rowKey 0 "full" ∈ w.store.persisted :=
        hconserved.persisted _ List.mem_cons_self
      rw [← List.contains_iff_mem, hpersisted] at hkey
      cases hkey
  · rintro fence ⟨mark, hstored, -⟩
    cases hmark.symm.trans hstored

end LimnoPulse.Ingestion
