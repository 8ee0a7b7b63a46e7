import LimnoPulse.Ingestion.TrustedMapping

/-!
# Canonical telemetry

The metric catalog, unit conversion and quality classification of a normalized
observation, its resolved ownership, and the series and timestamp under which it is
stored.  Every table is versioned and handed to the normalizer.

Main results:

- Structure `CanonicalObservation` carries the checks of the domain model.
- Theorem `CanonicalObservation.modelValidate_eq_some`: validation changes no field.
-/

namespace LimnoPulse.Ingestion

/-! ## Metrics and units -/

/-- The type of a metric. -/
inductive MetricValueType where
  | float
  | integer
deriving DecidableEq

/-- A metric with its unit and plausible range. -/
structure MetricDefinition where
  (metricKey canonicalUnit : String)
  valueType : MetricValueType
  (plausibleMin plausibleMax : Float)
  legacyField : Option String

/-- The seven metrics of `metric-catalog@1`. -/
def metricCatalog1 : List MetricDefinition :=
  [⟨"water.temperature", "degC", .float, -5, 60, some "temp_c"⟩,
    ⟨"water.ph", "pH", .float, 0, 14, some "ph"⟩,
    ⟨"water.dissolved_oxygen", "mg/L", .float, 0, 50, some "do_mg_l"⟩,
    ⟨"water.turbidity", "NTU", .float, 0, 4000, some "turbidity_ntu"⟩,
    ⟨"water.salinity", "ppt", .float, 0, 70, some "salinity_ppt"⟩,
    ⟨"device.battery_voltage", "V", .float, 0, 60, some "battery_v"⟩,
    ⟨"device.rssi", "dBm", .integer, -150, 0, some "rssi"⟩]

/-- The catalogs by version. -/
def metricCatalogs : String → Option (List MetricDefinition)
  | "metric-catalog@1" => some metricCatalog1
  | _ => none

/-- The metric of a catalog. -/
def metricDefinition (catalog : List MetricDefinition) (metricKey : String) :
    Option MetricDefinition :=
  catalog.find? (·.metricKey = metricKey)

/-- A conversion into the canonical unit. -/
abbrev UnitConverter := SourceValue → Float

/-- Converters by metric and source unit. -/
abbrev UnitTable := String → String → Option UnitConverter

/-- The double of a value. -/
def SourceValue.toFloat : SourceValue → Float
  | .int value => Float.ofInt value
  | .float value => value

/-- Correctly rounded division by nine, beyond `2^53` by quotient and remainder. -/
def ninth (value : Int) : Float :=
  if value.natAbs < 2 ^ 53 then Float.ofInt value / 9
  else Float.ofInt (value / 9) + Float.ofInt (value % 9) / 9

/-- Fahrenheit to Celsius. -/
def fahrenheitToCelsius : UnitConverter
  | .int value => ninth ((value - 32) * 5)
  | .float value =>
    let scaled := (value - 32) * 5
    -- The literal order overflows for the largest doubles only.
    if scaled.isInf then (value - 32) / 9 * 5 else scaled / 9

/-- Kelvin to Celsius. -/
def kelvinToCelsius (value : SourceValue) : Float := value.toFloat - 273.15

/-- Thousandths to the unit. -/
def milliToUnit (value : SourceValue) : Float := value.toFloat / 1000

/-- The table `unit-mapping@1`; units are case-sensitive. -/
def unitMapping1 : UnitTable
  | "water.temperature", "degC" => some SourceValue.toFloat
  | "water.temperature", "degF" => some fahrenheitToCelsius
  | "water.temperature", "K" => some kelvinToCelsius
  | "water.ph", "pH" => some SourceValue.toFloat
  | "water.dissolved_oxygen", "mg/L" => some SourceValue.toFloat
  | "water.dissolved_oxygen", "ppm" => some SourceValue.toFloat
  | "water.dissolved_oxygen", "ug/L" => some milliToUnit
  | "water.turbidity", "NTU" => some SourceValue.toFloat
  | "water.salinity", "ppt" => some SourceValue.toFloat
  | "water.salinity", "g/kg" => some SourceValue.toFloat
  | "device.battery_voltage", "V" => some SourceValue.toFloat
  | "device.battery_voltage", "mV" => some milliToUnit
  | "device.rssi", "dBm" => some SourceValue.toFloat
  | _, _ => none

/-- The unit tables by version. -/
def unitMappings : String → Option UnitTable
  | "unit-mapping@1" => some unitMapping1
  | _ => none

/-- Why an observation is set aside. -/
inductive QuarantineReason where
  | metricUnknown
  | unitUnsupported
  | valueInvalid
  | observedAtInvalid
  | componentNotOwned
  | componentNotMeasuring
  | deploymentUnresolved
deriving DecidableEq

/-- The text of a reason. -/
def QuarantineReason.text : QuarantineReason → String
  | .metricUnknown => "metric_unknown"
  | .unitUnsupported => "unit_unsupported"
  | .valueInvalid => "value_invalid"
  | .observedAtInvalid => "observed_at_invalid"
  | .componentNotOwned => "component_not_owned"
  | .componentNotMeasuring => "component_not_measuring"
  | .deploymentUnresolved => "deployment_unresolved"

/-- Why one observation is set aside. -/
structure Quarantine where
  reason : QuarantineReason
  detail : String
deriving DecidableEq

/-- The quoted form of a printable text. -/
def pythonRepr (text : String) : String :=
  let escaped := text.toList.flatMap fun c => if c = '\\' then ['\\', '\\'] else [c]
  if '\'' ∈ text.toList ∧ '"' ∉ text.toList then
    "\"" ++ String.ofList escaped ++ "\""
  else
    "'" ++ String.ofList (escaped.flatMap fun c => if c = '\'' then ['\\', '\''] else [c]) ++ "'"

/-- Integers up to here are doubles. -/
def maxExactInteger : Nat := 2 ^ 53

/-- A finite double without a fraction. -/
def isIntegral (value : Float) : Bool := value.isFinite && value.floor == value

/-- The canonical value; `unit_unsupported` comes first. -/
def convertToCanonical (metric : MetricDefinition) (value : SourceValue) (sourceUnit : String)
    (table : UnitTable) : Except Quarantine Float :=
  match table metric.metricKey sourceUnit with
  | none =>
    .error ⟨.unitUnsupported, "unit " ++ pythonRepr (String.ofList (sourceUnit.toList.take 16)) ++
      " is not accepted for " ++ String.ofList (metric.metricKey.toList.take 64)⟩
  | some converter =>
    match value with
    | .float number =>
      if !number.isFinite then .error ⟨.valueInvalid, "value must be finite"⟩
      else checked (converter value)
    | .int number =>
      if maxExactInteger ≤ number.natAbs then
        .error ⟨.valueInvalid, "integer magnitude must be below 2**53"⟩
      else checked (converter value)
where
  checked (canonical : Float) : Except Quarantine Float :=
    if !canonical.isFinite then .error ⟨.valueInvalid, "canonical value must be finite"⟩
    else if metric.valueType = .integer ∧
        (!isIntegral canonical || canonical.abs ≥ 9007199254740992) then
      .error ⟨.valueInvalid, "integer metric value must be integral with magnitude below 2**53"⟩
    else .ok canonical

/-- The quality of a value. -/
inductive QualityState where
  | valid
  | outOfRange
deriving DecidableEq

/-- The flags in the order of their texts. -/
inductive QualityFlag where
  | clockSkewFuture
  | clockSkewPastExtreme
  | delayed
  | replay
deriving DecidableEq

/-- What decided the quality. -/
inductive QualityProvenance where
  | schemaValidation
  | unitMapping
  | plausibleRange
  | clockSkew
  | timeliness
  | replay
deriving DecidableEq

/-- Thresholds in microseconds. -/
structure QualityPolicy where
  (delayThreshold futureSkewThreshold pastExtremeSkewThreshold : Int)
deriving DecidableEq

/-- The policies by version. -/
def qualityPolicies : String → Option QualityPolicy
  | "quality-policy@1" => some ⟨300000000, 300000000, 2592000000000⟩
  | _ => none

/-- The quality of an observation. -/
structure ObservationQuality where
  state : QualityState
  flags : List QualityFlag
  provenance : List QualityProvenance
deriving DecidableEq

/-- The quality of a canonical value; no clock is read. -/
def classifyQuality (metric : MetricDefinition) (canonicalValue : Float) (observedAt receivedAt : Time)
    (replay : Bool) (policy : QualityPolicy) : ObservationQuality :=
  let inRange := metric.plausibleMin ≤ canonicalValue ∧ canonicalValue ≤ metric.plausibleMax
  let delay := receivedAt - observedAt
  let future := decide (-delay > policy.futureSkewThreshold)
  let past := decide (delay > policy.pastExtremeSkewThreshold)
  let late := decide (delay > policy.delayThreshold)
  { state := if inRange then .valid else .outOfRange
    flags := (if future then [.clockSkewFuture] else []) ++
      (if past then [.clockSkewPastExtreme] else []) ++
      (if late then [.delayed] else []) ++ (if replay then [.replay] else [])
    provenance := [.schemaValidation, .unitMapping] ++
      (if inRange then [] else [.plausibleRange]) ++
      (if future || past then [.clockSkew] else []) ++
      (if late then [.timeliness] else []) ++ (if replay then [.replay] else []) }

/-! ## Canonical observations -/

/-- Where an observation came from. -/
structure ObservationSource where
  integrationId : Option String
  integrationType : String
  sourceType : SourceType
  connectorVersion : Option String
  receivedAt : Time
deriving DecidableEq

/-- Whom an observation belongs to. -/
structure ObservationResolution where
  (tenantId siteId assetId deploymentId deviceId componentId : String)
  probeId : Option String
deriving DecidableEq

/-- What was measured. -/
structure ObservationMeasurement where
  metricKey : String
  value : Float
  valueType : MetricValueType
  (sourceUnit canonicalUnit : String)
  observedAt : Time
  sequence : Option Nat

/-- How an observation arrived. -/
structure ObservationDelivery where
  ingestedAt : Time
  (delayed replay : Bool)
deriving DecidableEq

/-- The fields before they are validated. -/
structure CanonicalFields where
  eventId : String
  sourceEventId : Option String
  source : ObservationSource
  resolved : ObservationResolution
  observation : ObservationMeasurement
  delivery : ObservationDelivery
  quality : ObservationQuality
  mapping : NormalizationVersions
  sourceMetadata : List (String × String)

/-- What rows and observations do not already pass: canonical identifiers and a telemetry time. -/
def CanonicalFields.valid (fields : CanonicalFields) : Bool :=
  fields.source.integrationId.all (isCanonicalId · "di") &&
    isCanonicalId fields.resolved.siteId "site" &&
    isCanonicalId fields.resolved.assetId "ast" &&
    isCanonicalId fields.resolved.deploymentId "dep" &&
    isCanonicalId fields.resolved.componentId "cmp" &&
    fields.resolved.probeId.all (isCanonicalId · "prb") &&
    isTelemetryTime fields.source.receivedAt && isTelemetryTime fields.observation.observedAt &&
    isTelemetryTime fields.delivery.ingestedAt

/-- A validated observation. -/
structure CanonicalObservation extends CanonicalFields where
  valid : toCanonicalFields.valid = true

/-- Validation; a violation raises. -/
def CanonicalObservation.modelValidate (fields : CanonicalFields) : Option CanonicalObservation :=
  if valid : fields.valid = true then some ⟨fields, valid⟩ else none

/-- Validation changes no field. -/
theorem CanonicalObservation.modelValidate_eq_some {fields : CanonicalFields}
    {o : CanonicalObservation} (h : CanonicalObservation.modelValidate fields = some o) :
    o.toCanonicalFields = fields := by
  unfold CanonicalObservation.modelValidate at h
  split at h
  · cases h
    rfl
  · contradiction

/-- Series and timestamp of `observation_numeric`. -/
structure PointIdentity where
  (assetId componentId deploymentId deviceId metricKey : String)
  probeId : Option String
  (siteId tenantId : String)
  timestampNs : Int
deriving DecidableEq

/-- The series and timestamp of an observation. -/
def CanonicalFields.pointIdentity (fields : CanonicalFields) : PointIdentity where
  assetId := fields.resolved.assetId
  componentId := fields.resolved.componentId
  deploymentId := fields.resolved.deploymentId
  deviceId := fields.resolved.deviceId
  metricKey := fields.observation.metricKey
  probeId := fields.resolved.probeId
  siteId := fields.resolved.siteId
  tenantId := fields.resolved.tenantId
  timestampNs := fields.observation.observedAt * 1000

/-- A line of `observation_numeric` with all fields. -/
structure ObservationLine where
  identity : PointIdentity
  fields : CanonicalFields

/-- The tags of the current catalog. -/
def validateObservationTags (o : CanonicalObservation) : Bool :=
  (metricDefinition metricCatalog1 o.observation.metricKey).isSome

/-- The line of an observation, if its tags pass. -/
def encodeObservationLine (o : CanonicalObservation) : Option ObservationLine :=
  if validateObservationTags o then some ⟨o.pointIdentity, o.toCanonicalFields⟩ else none

/-! ## Legacy points -/

/-- One `water_quality` point. -/
structure LegacyPoint where
  (tenantId pondId deviceId : String)
  observedAt : Time
  fields : List (String × SourceValue)

/-- Legacy fields of integers. -/
def legacyIntegerFields : List String := ["rssi", "seq"]

/-- A double that is a signed 64-bit integer. -/
def encodableInteger (value : Float) : Bool :=
  isIntegral value && value ≥ -9223372036854775808 && value < 9223372036854775808

/-- A double as a legacy integer. -/
def legacyInteger (value : Float) : Int := value.toInt64.toInt

section Legacy

variable (defaultComponentId : String → String → String) (pondByAsset : String → Option String)

/-- The legacy field of an eligible observation. -/
def legacyField (o : CanonicalObservation) : Option String :=
  if o.resolved.componentId ≠ defaultComponentId o.resolved.tenantId o.resolved.deviceId then none
  else if (pondByAsset o.resolved.assetId).isNone then none
  else
    match (metricDefinition metricCatalog1 o.observation.metricKey).bind (·.legacyField) with
    | none => none
    | some field =>
      if field ∈ legacyIntegerFields ∧ !encodableInteger o.observation.value then none
      else some field

/-- Ingestion time, then event identifier. -/
def rankLe (a b : CanonicalObservation) : Bool :=
  decide (a.delivery.ingestedAt < b.delivery.ingestedAt) ||
    (a.delivery.ingestedAt = b.delivery.ingestedAt && decide (a.eventId ≤ b.eventId))

/-- Replace the value of a key, or append it. -/
def upsert {κ β : Type} [DecidableEq κ] (key : κ) (change : Option β → β) :
    List (κ × β) → List (κ × β)
  | [] => [(key, change none)]
  | (k, value) :: rest =>
    if k = key then (k, change (some value)) :: rest else (k, value) :: upsert key change rest

/-- The key of a legacy point. -/
abbrev LegacyGroup := String × String × String × Time

/-- The eligible observations of each point, in order. -/
def legacyGroups (observations : List CanonicalObservation) :
    List (LegacyGroup × List (String × CanonicalObservation)) :=
  observations.foldl (fun groups o =>
    match legacyField defaultComponentId pondByAsset o, pondByAsset o.resolved.assetId with
    | some field, some pond =>
      upsert (o.resolved.tenantId, pond, o.resolved.deviceId, o.observation.observedAt)
        (fun members => members.getD [] ++ [(field, o)]) groups
    | _, _ => groups) []

/-- The observation that is written for each field. -/
def legacyWinners (members : List (String × CanonicalObservation)) :
    List (String × CanonicalObservation) :=
  members.foldl (fun winners (field, o) =>
    upsert field (fun current =>
      match current with
      | some best => if rankLe best o then o else best
      | none => o) winners) []

/-- The sequence of the highest-ranked member that has one. -/
def legacySequence (members : List (String × CanonicalObservation)) : Option Nat :=
  (members.foldl (fun (best : Option (CanonicalObservation × Nat)) (_, o) =>
    match o.observation.sequence, best with
    | some sequence, some (current, held) =>
      if rankLe current o then some (o, sequence) else some (current, held)
    | some sequence, none => some (o, sequence)
    | none, best => best) none).map Prod.snd

/-- The legacy point of a group. -/
def legacyPoint (group : LegacyGroup) (members : List (String × CanonicalObservation)) :
    LegacyPoint :=
  let values := (legacyWinners members).map fun (field, o) =>
    (field, if field ∈ legacyIntegerFields then SourceValue.int (legacyInteger o.observation.value)
      else SourceValue.float o.observation.value)
  let fields := match legacySequence members with
    | some sequence => upsert "seq" (fun _ => SourceValue.int sequence) values
    | none => values
  ⟨group.1, group.2.1, group.2.2.1, group.2.2.2, fields.mergeSort fun a b => decide (a.1 ≤ b.1)⟩

/-- The order of legacy points. -/
def legacyPointLe (a b : LegacyPoint) : Bool :=
  if a.tenantId ≠ b.tenantId then decide (a.tenantId < b.tenantId)
  else if a.pondId ≠ b.pondId then decide (a.pondId < b.pondId)
  else if a.deviceId ≠ b.deviceId then decide (a.deviceId < b.deviceId)
  else decide (a.observedAt ≤ b.observedAt)

/-- The legacy points of observations. -/
def buildLegacyPoints (observations : List CanonicalObservation) : List LegacyPoint :=
  ((legacyGroups defaultComponentId pondByAsset observations).map fun (group, members) =>
    legacyPoint group members).mergeSort legacyPointLe

end Legacy

end LimnoPulse.Ingestion
