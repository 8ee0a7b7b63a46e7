import LimnoPulse.Ingestion.ObservationJson

/-!
# The wire form of an envelope

The compact JSON text of a queue message and its validation.  Nulls and defaults are
left out at two levels: of the envelope and of each observation.  The versions are
always written in full, and the time of reception always has six digits.

Main results:

- Theorem `lookup_payload`: what validation finds under the keys of a payload.
- Theorem `envelope_roundTrip`: every valid envelope is read back from its text.
-/

namespace LimnoPulse.Ingestion

open CivilTime JsonText

/-! ## Constraints -/

/-- `[A-Za-z0-9][A-Za-z0-9._:-]{0,127}`. -/
def isSafeId (value : String) : Bool :=
  match value.toList with
  | [] => false
  | c :: cs =>
    c.isAlphanum && decide (cs.length ≤ 127) &&
      cs.all fun c => c.isAlphanum || c = '.' || c = '_' || c = ':' || c = '-'

/-- A canonical id, or a safe one unlike it. -/
def isDeviceId (value : String) : Bool :=
  if value.toList.take 4 = ['d', 'e', 'v', '_'] then isCanonicalId value "dev" else isSafeId value

/-- The text of a SHA-256 digest. -/
def isSha256Hex (value : String) : Bool := value.length == 64 && value.toList.all isLowerHex

/-- Characters of provider keys. -/
def isProviderChar (c : Char) : Bool := c.isLower || c.isDigit || c = '_'

/-- `[a-z][a-z0-9_]*(?:\.[a-z0-9_]+)*`. -/
def isProviderKey (value : String) : Bool :=
  match value.toList.splitOn '.' with
  | [] => false
  | first :: rest =>
    first.head?.any Char.isLower && first.all isProviderChar &&
      rest.all fun part => !part.isEmpty && part.all isProviderChar

/-- The text of a version. -/
def isVersionTag (texts : PythonText) (value : String) : Bool :=
  decide (1 ≤ value.length) && value.toList.all texts.isPrintable

/-- All three versions are valid. -/
def NormalizationVersions.valid (texts : PythonText) (versions : NormalizationVersions) : Bool :=
  isVersionTag texts versions.catalogVersion && isVersionTag texts versions.unitMappingVersion &&
    isVersionTag texts versions.qualityPolicyVersion

/-- All constraints of the model `IngressEnvelope`. -/
def EnvelopeFields.constrained (texts : PythonText) (fields : EnvelopeFields) : Bool :=
  fields.valid && isSafeId fields.tenantId && isSafeId fields.integrationAccountId &&
    isProviderKey fields.providerKey && isSha256Hex fields.externalIdentityHash &&
    isDeviceId fields.deviceId && fields.mappingVersions.valid texts &&
    fields.observations.all (·.valid texts)

/-- The schema of envelopes. -/
def ingressEnvelopeSchema : String := "telemetry-ingress@1"

/-- The text of a source type. -/
def SourceType.text : SourceType → String
  | .legacyMqtt => "legacy_mqtt"
  | .https => "https"
  | .mqtt => "mqtt"
  | .vendorWebhook => "vendor_webhook"
  | .vendorPoll => "vendor_poll"
  | .edge => "edge"

/-- The versions in full. -/
def NormalizationVersions.modelDump (versions : NormalizationVersions) : JsonFields :=
  [("catalog_version", .string versions.catalogVersion),
    ("unit_mapping_version", .string versions.unitMappingVersion),
    ("quality_policy_version", .string versions.qualityPolicyVersion)]

/-- The payload of `to_json`, in model order. -/
def EnvelopeFields.payload (fields : EnvelopeFields) : JsonFields :=
  [("schema", .string ingressEnvelopeSchema), ("ingress_id", .string fields.ingressId)] ++
  (optionalField true "replay_of" (fields.replayOf.map .string) ++
  ([("tenant_id", .string fields.tenantId),
    ("integration_account_id", .string fields.integrationAccountId),
    ("provider_key", .string fields.providerKey),
    ("external_identity_hash", .string fields.externalIdentityHash),
    ("device_integration_id", .string fields.deviceIntegrationId),
    ("device_id", .string fields.deviceId), ("source_type", .string fields.sourceType.text)] ++
  (optionalField true "connector_version" (fields.connectorVersion.map .string) ++
  ([("received_at", .string (formatUtcTimestamp fields.receivedAt))] ++
  (optionalField true "replay" (if fields.replay then some (.bool true) else none) ++
  [("mapping_versions", .object fields.mappingVersions.modelDump),
    ("observations", .array (fields.observations.map fun o => .object (o.modelDump true)))])))))

/-- The text of an envelope. -/
def IngressEnvelope.toJson (texts : PythonText) (envelope : IngressEnvelope) : String :=
  print texts.floats .compact (.object envelope.payload)

/-! ## Reading -/

/-- Read a source type. -/
def sourceTypeOf (text : String) : Option SourceType :=
  [SourceType.legacyMqtt, .https, .mqtt, .vendorWebhook, .vendorPoll, .edge].find? (·.text = text)

/-- A field with a default text. -/
def textOrDefault (default : String) : Option (Value Float) → Option String
  | none => some default
  | value => textOf value

/-- The fields of versions. -/
def versionKeys : List String := ["catalog_version", "unit_mapping_version", "quality_policy_version"]

/-- Read versions. -/
def versionsOf : Option (Value Float) → Option NormalizationVersions
  | some (.object fields) =>
    if fields.all fun entry => entry.1 ∈ versionKeys then do
      let defaults : NormalizationVersions := {}
      let catalogVersion ← textOrDefault defaults.catalogVersion (field fields "catalog_version")
      let unitMappingVersion ←
        textOrDefault defaults.unitMappingVersion (field fields "unit_mapping_version")
      let qualityPolicyVersion ←
        textOrDefault defaults.qualityPolicyVersion (field fields "quality_policy_version")
      some { catalogVersion, unitMappingVersion, qualityPolicyVersion }
    else none
  | _ => none

/-- Read observations. -/
def observationsOf (texts : PythonText) : Option (Value Float) → Option (List SourceObservation)
  | some (.array items) =>
    items.mapM fun
      | .object fields => SourceObservation.modelValidate texts fields
      | _ => none
  | _ => none

/-- Read a flag; it is false by default. -/
def flagOf : Option (Value Float) → Option Bool
  | none => some false
  | some (.bool replay) => some replay
  | _ => none

/-- The fields of an envelope. -/
def envelopeKeys : List String :=
  ["ingress_id", "replay_of", "tenant_id", "integration_account_id", "provider_key",
    "external_identity_hash", "device_integration_id", "device_id", "source_type",
    "connector_version", "received_at", "replay", "mapping_versions", "observations"]

/-- The schema goes by its alias or by its name. -/
def schemaKey (fields : JsonFields) : String :=
  if (field fields "schema").isSome then "schema" else "schema_"

namespace IngressEnvelope

/-- Read the fields. -/
def ofFields (texts : PythonText) (fields : JsonFields) : Option IngressEnvelope :=
  if fields.all fun entry => entry.1 ∈ schemaKey fields :: envelopeKeys then do
    let schema ← textOf (field fields (schemaKey fields))
    let ingressId ← textOf (field fields "ingress_id")
    let replayOf ← optionalTextOf (field fields "replay_of")
    let tenantId ← textOf (field fields "tenant_id")
    let integrationAccountId ← textOf (field fields "integration_account_id")
    let providerKey ← textOf (field fields "provider_key")
    let externalIdentityHash ← textOf (field fields "external_identity_hash")
    let deviceIntegrationId ← textOf (field fields "device_integration_id")
    let deviceId ← textOf (field fields "device_id")
    let sourceType ← (textOf (field fields "source_type")).bind sourceTypeOf
    let connectorVersion ← optionalTextOf (field fields "connector_version")
    let receivedAt ← (textOf (field fields "received_at")).bind readTelemetryTime
    let replay ← flagOf (field fields "replay")
    let mappingVersions ← versionsOf (field fields "mapping_versions")
    let observations ← observationsOf texts (field fields "observations")
    let envelope : EnvelopeFields :=
      { ingressId, replayOf, tenantId, integrationAccountId, providerKey,
        externalIdentityHash, deviceIntegrationId, deviceId, sourceType, connectorVersion, receivedAt,
        replay, mappingVersions, observations }
    if schema = ingressEnvelopeSchema ∧ envelope.constrained texts = true then modelValidate envelope
    else none
  else none

/-- Read an envelope. -/
def modelValidateJson (texts : PythonText) (text : String) : Option IngressEnvelope :=
  (parse texts.floats text).bind fun
    | .object fields => ofFields texts fields
    | _ => none

end IngressEnvelope

/-! ## Reading a payload back -/

/-- The keys of a payload. -/
theorem keys_payload (fields : EnvelopeFields) :
    (fields.payload.map Prod.fst).Sublist ("schema" :: envelopeKeys) := by
  have hopt : ∀ (key : String) (value : Option (Value Float)),
      ((optionalField true key value).map Prod.fst).Sublist [key] := by
    intro key value
    cases value with
    | some => exact List.Sublist.refl _
    | none => exact List.nil_sublist _
  simp only [EnvelopeFields.payload, List.map_append]
  refine (List.Sublist.refl ["schema", "ingress_id"]).append ((hopt _ _).append
    ((List.Sublist.refl ["tenant_id", "integration_account_id", "provider_key",
      "external_identity_hash", "device_integration_id", "device_id", "source_type"]).append
    ((hopt _ _).append ((List.Sublist.refl ["received_at"]).append
    ((hopt _ _).append (List.Sublist.refl ["mapping_versions", "observations"]))))))

/-- Each key is found once. -/
theorem field_payload (fields : EnvelopeFields) (key : String) :
    field fields.payload key = fields.payload.lookup key := by
  have hkeys : (fields.payload.map Prod.fst).Nodup := (keys_payload fields).nodup (by decide)
  exact (Json.lookup_perm (List.reverse_perm _).symm hkeys key).symm

/-- What is found under the key. -/
theorem lookup_optionalField_self (key : String) (value : Option (Value Float)) {rest : JsonFields}
    (hrest : rest.lookup key = none) :
    (optionalField true key value ++ rest).lookup key = value := by
  cases value with
  | some => simp [optionalField]
  | none => simpa [optionalField] using hrest

/-- What validation finds under the keys of a payload. -/
theorem lookup_payload (fields : EnvelopeFields) :
    fields.payload.lookup "schema" = some (.string ingressEnvelopeSchema) ∧
      fields.payload.lookup "ingress_id" = some (.string fields.ingressId) ∧
      fields.payload.lookup "replay_of" = fields.replayOf.map .string ∧
      fields.payload.lookup "tenant_id" = some (.string fields.tenantId) ∧
      fields.payload.lookup "integration_account_id" = some (.string fields.integrationAccountId) ∧
      fields.payload.lookup "provider_key" = some (.string fields.providerKey) ∧
      fields.payload.lookup "external_identity_hash" = some (.string fields.externalIdentityHash) ∧
      fields.payload.lookup "device_integration_id" = some (.string fields.deviceIntegrationId) ∧
      fields.payload.lookup "device_id" = some (.string fields.deviceId) ∧
      fields.payload.lookup "source_type" = some (.string fields.sourceType.text) ∧
      fields.payload.lookup "connector_version" = fields.connectorVersion.map .string ∧
      fields.payload.lookup "received_at" = some (.string (formatUtcTimestamp fields.receivedAt)) ∧
      fields.payload.lookup "replay" = (if fields.replay then some (.bool true) else none) ∧
      fields.payload.lookup "mapping_versions" = some (.object fields.mappingVersions.modelDump) ∧
      fields.payload.lookup "observations" =
        some (.array (fields.observations.map fun o => .object (o.modelDump true))) := by
  have hother : ∀ {name key : String}, name ≠ key → ∀ (value : Option (Value Float)) rest,
      (optionalField true key value ++ rest).lookup name = rest.lookup name :=
    fun h value rest => lookup_optionalField_of_ne h value rest
  refine ⟨rfl, rfl, ?_, ?_, ?_, ?_, ?_, ?_, ?_, ?_, ?_, ?_, ?_, ?_, ?_⟩
  all_goals simp only [EnvelopeFields.payload, List.cons_append, List.nil_append, Json.lookup_cons,
    String.reduceEq, if_true, if_false, hother, ne_eq, not_false_eq_true]
  -- What is left are the optional fields under their own keys.
  all_goals refine lookup_optionalField_self _ _ ?_
  all_goals simp only [Json.lookup_cons, String.reduceEq, if_false, hother, ne_eq, not_false_eq_true,
    List.lookup_nil]

/-- A source type is read back. -/
theorem sourceTypeOf_text (sourceType : SourceType) : sourceTypeOf sourceType.text = some sourceType := by
  cases sourceType <;> decide

/-- Versions are read back. -/
theorem versionsOf_modelDump (versions : NormalizationVersions) :
    versionsOf (some (.object versions.modelDump)) = some versions := by
  simp [versionsOf, NormalizationVersions.modelDump, versionKeys, field, Json.lookup_cons, textOrDefault,
    textOf]

/-- Observations are read back. -/
theorem observationsOf_modelDump {texts : PythonText} {observations : List SourceObservation}
    (h : ∀ o ∈ observations, o.valid texts = true) :
    observationsOf texts (some (.array (observations.map fun o => .object (o.modelDump true)))) =
      some observations := by
  rw [observationsOf]
  induction observations with
  | nil => rfl
  | cons o observations ih =>
    obtain ⟨ho, hrest⟩ := List.forall_mem_cons.mp h
    rw [List.map_cons, List.mapM_cons, ih hrest]
    simp only [SourceObservation.modelValidate_modelDump (List.Perm.refl _) ho]
    rfl

theorem flagOf_replay (replay : Bool) :
    flagOf (if replay then some (.bool true) else none) = some replay := by
  cases replay <;> rfl

theorem optionalTextOf_map (text : Option String) : optionalTextOf (text.map .string) = some text := by
  cases text <;> rfl

/-- A payload is read back. -/
theorem ofFields_payload {texts : PythonText} {envelope : IngressEnvelope}
    (hvalid : envelope.constrained texts = true) :
    IngressEnvelope.ofFields texts envelope.payload = some envelope := by
  obtain ⟨hschema, hingress, hreplayOf, htenant, hacct, hprov, hhash, hinteg, hdevice,
    hsource, hconnector, hreceived, hreplay, hversions, hobservations⟩ :=
    lookup_payload envelope.toEnvelopeFields
  have hconstrained := hvalid
  simp only [EnvelopeFields.constrained, Bool.and_eq_true, List.all_eq_true] at hvalid
  obtain ⟨⟨⟨⟨⟨⟨⟨hchecked, -⟩, -⟩, -⟩, -⟩, -⟩, -⟩, hobs⟩ := hvalid
  have htime : isTelemetryTime envelope.receivedAt = true := by
    simp only [EnvelopeFields.valid, Bool.and_eq_true] at hchecked
    exact hchecked.1.1.1.2
  have hkey : schemaKey envelope.payload = "schema" := by
    rw [schemaKey, field_payload, hschema]
    rfl
  have hkeys : envelope.payload.all (fun entry => entry.1 ∈ "schema" :: envelopeKeys) = true := by
    rw [List.all_eq_true]
    intro entry hentry
    exact decide_eq_true ((keys_payload _).subset (List.mem_map_of_mem hentry))
  have hmodel : IngressEnvelope.modelValidate envelope.toEnvelopeFields = some envelope := dif_pos _
  simp only [IngressEnvelope.ofFields, hkeys, if_true, field_payload, hkey, hschema, hingress, hreplayOf,
    htenant, hacct, hprov, hhash, hinteg, hdevice, hsource, hconnector, hreceived, hreplay,
    hversions, hobservations, textOf, optionalTextOf_map, sourceTypeOf_text, flagOf_replay,
    readTelemetryTime_formatUtc htime, versionsOf_modelDump, observationsOf_modelDump hobs,
    Option.bind_eq_bind, Option.bind_some, hconstrained, and_self, hmodel]

/-- The floats of items. -/
theorem mem_itemFloats {φ : Type} {x : φ} {items : List (Value φ)} :
    x ∈ itemFloats items ↔ ∃ item ∈ items, x ∈ floatsOf item := by
  induction items with
  | nil => simp [itemFloats]
  | cons item items ih => simp [itemFloats, ih]

/-- The doubles of a payload are those of its observations. -/
theorem mem_floats_payload {fields : EnvelopeFields} {x : Float} (hx : x ∈ fieldFloats fields.payload) :
    ∃ o ∈ fields.observations, o.value = .float x := by
  have hreplayOf := fieldFloats_optionalField true "replay_of" (fields.replayOf.map .string)
    (by simp [floatsOf])
  have hconnector := fieldFloats_optionalField true "connector_version"
    (fields.connectorVersion.map .string) (by simp [floatsOf])
  have hreplay := fieldFloats_optionalField true "replay"
    (if fields.replay then some (.bool true) else none) (by cases fields.replay <;> simp [floatsOf])
  simp only [EnvelopeFields.payload, NormalizationVersions.modelDump, fieldFloats_append, fieldFloats,
    floatsOf, hreplayOf, hconnector, hreplay, List.nil_append, List.append_nil, mem_itemFloats,
    List.mem_map] at hx
  obtain ⟨item, ⟨o, ho, rfl⟩, hx⟩ := hx
  rw [floatsOf] at hx
  have hx := SourceObservation.mem_floats_dumpWith hx
  refine ⟨o, ho, ?_⟩
  cases hvalue : o.value with
  | int => simp [hvalue, SourceValue.json, floatsOf] at hx
  | float =>
    rw [hvalue, SourceValue.json, floatsOf, List.mem_singleton] at hx
    rw [hx]

/-- A valid envelope whose doubles are printed without loss is read back from its text. -/
theorem envelope_roundTrip (texts : PythonText) (envelope : IngressEnvelope)
    (hvalid : envelope.constrained texts = true) (hexact : ∀ o ∈ envelope.observations, o.Exact texts) :
    IngressEnvelope.modelValidateJson texts (envelope.toJson texts) = some envelope := by
  have hfloats : ∀ x ∈ floatsOf (.object envelope.payload), texts.floats.Exact x := by
    intro x hx
    rw [floatsOf] at hx
    obtain ⟨o, ho, hvalue⟩ := mem_floats_payload hx
    exact hexact o ho x hvalue
  rw [IngressEnvelope.modelValidateJson, IngressEnvelope.toJson, parse_print .compact _ hfloats,
    Option.bind_some]
  exact ofFields_payload hvalid

namespace SampleTexts

/-- Texts in which no double occurs. -/
def texts : PythonText := ⟨⟨fun _ => [], fun _ => none⟩, fun c => decide (32 ≤ c.toNat)⟩

/-- A reading. -/
def observation : SourceObservation where
  componentId := "cmp_0000000000000000000000000000000a"
  metricKey := "water.dissolved_oxygen"
  value := .int (-7)
  sourceUnit := "mg/L"
  observedAt := 1234567
  sequence := some 3
  sourceEventId := none
  sourceMetadata := [("firmware_version", "1.0 \"beta\"")]

/-- A message with one reading. -/
def envelope : IngressEnvelope where
  ingressId := "ing_00000000000000000000000000000002"
  tenantId := "t"
  integrationAccountId := "ia"
  providerKey := "https_direct"
  externalIdentityHash := "0123456789abcdef0123456789abcdef0123456789abcdef0123456789abcdef"
  deviceIntegrationId := "di_00000000000000000000000000000003"
  deviceId := "pond-probe"
  sourceType := .https
  connectorVersion := some "2.1"
  receivedAt := 5000000
  mappingVersions := {}
  observations := [observation]
  valid := by decide

end SampleTexts

/-- An envelope without a replay, with one integer. -/
theorem envelope_roundTrip_of_sample :
    SampleTexts.envelope.constrained SampleTexts.texts = true ∧
      IngressEnvelope.modelValidateJson SampleTexts.texts
        (SampleTexts.envelope.toJson SampleTexts.texts) = some SampleTexts.envelope := by
  have hvalid : SampleTexts.envelope.constrained SampleTexts.texts = true := by decide +kernel
  refine ⟨hvalid, envelope_roundTrip SampleTexts.texts SampleTexts.envelope hvalid ?_⟩
  intro o ho x hx
  obtain rfl := List.mem_singleton.mp ho
  cases hx

end LimnoPulse.Ingestion
