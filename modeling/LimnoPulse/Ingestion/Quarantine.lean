import LimnoPulse.Ingestion.Telemetry
import Mathlib.Data.List.Nodup

/-!
# Quarantine rows

One quarantine row for each observation that is set aside and one summary row for a
fenced message.  A row's identifier is derived from the message, the text of the
observation and how often that text came before; it is kept symbolic.

Main results:

- Theorem `ordinalsFrom_nodup`: the rows of one message have different identifiers.
- Theorem `fencedRows_spec`: the rows of a fenced message.
-/

namespace LimnoPulse.Ingestion

open StoreProgram

variable {envelope : IngressEnvelope} {now : Time} {ordinal : Int} {p : Int × String}
  {fence : IngressFence}

/-- Wire forms and content-derived identifiers. -/
structure TelemetryEncoding extends MappingDigests where
  /-- `IngressEnvelope.model_validate_json`. -/
  envelopeOfJson : String → Option IngressEnvelope
  /-- `IngressEnvelope.to_json`. -/
  envelopeJson : IngressEnvelope → String
  /-- The compact text of an observation, without nulls and defaults. -/
  observationJson : SourceObservation → String
  /-- `bounded_excerpt` of the same payload. -/
  payloadExcerpt : SourceObservation → String
  /-- `bounded_excerpt` of the full dump, and whether it was cut. -/
  boundedExcerpt : SourceObservation → String × Bool
  /-- `SourceObservation.model_validate_json`. -/
  observationOfJson : String → Option SourceObservation
  observationEventId : String → String → String → Time → String

/-- The largest excerpt. -/
def maxEnvelopeExcerptBytes : Nat := 2048

/-- The longest prefix within a number of UTF-8 bytes. -/
def takeBytes : Nat → List Char → List Char
  | _, [] => []
  | limit, c :: cs => if c.utf8Size ≤ limit then c :: takeBytes (limit - c.utf8Size) cs else []

/-- The text, cut to the bound. -/
def boundedPrefix (text : String) : String × Bool :=
  if text.utf8ByteSize ≤ maxEnvelopeExcerptBytes then (text, false)
  else (String.ofList (takeBytes maxEnvelopeExcerptBytes text.toList), true)

/-- The text of a fenced observation, and whether it was cut. -/
def observationExcerpt (encoding : TelemetryEncoding) (observation : SourceObservation) :
    String × Bool :=
  let text := encoding.observationJson observation
  if text.utf8ByteSize ≤ maxEnvelopeExcerptBytes then (text, false)
  else (encoding.payloadExcerpt observation, true)

/-! ## Rows -/

/-- An observation that was set aside. -/
structure QuarantinedObservation where
  reason : QuarantineReason
  (tenantId deviceId : String)
  (componentId metricKey : Option String)
  observedAt : Option Time
  receivedAt : Time
  sourceEventId : Option String
  (detail sourceExcerptJson : String)
  truncated : Bool
deriving DecidableEq

/-- What a row is about. -/
inductive QuarantineEntryKind where
  | observation
  | fencedObservation
  | fencedMessage
deriving DecidableEq

/-- `open` in the source. -/
inductive QuarantineEntryStatus where
  | opened
  | replayed
  | dismissed
deriving DecidableEq

/-- A content-derived identifier. -/
structure QuarantineId where
  ingressId : String
  ordinal : Int
  excerptJson : String
deriving DecidableEq

/-- `quarantine_entry_id`. -/
def quarantineEntryId (ingressId : String) (ordinal : Int) (excerptJson : String) : QuarantineId :=
  ⟨ingressId, ordinal, excerptJson⟩

/-- 14 days in microseconds. -/
def quarantineTtl : Time := 1209600000000

/-- The fields of a row before they are validated. -/
structure QuarantineFields where
  tenantId : String
  quarantineId : QuarantineId
  kind : QuarantineEntryKind
  (reason ingressId : String)
  replayOf : Option String
  (integrationAccountId providerKey externalIdentityHash : String)
  sourceType : SourceType
  connectorVersion : Option String
  (deviceIntegrationId deviceId : String)
  receivedAt : Time
  mappingVersions : NormalizationVersions
  observation : Option QuarantinedObservation
  (sourceObservationJson envelopeExcerptJson : Option String)
  (truncated replayable : Bool)
  status : QuarantineEntryStatus
  replayedIngressId : Option String
  (createdAt updatedAt : Time)
  version : Nat
  expiresAt : Time
deriving DecidableEq

/-- The text of the row is a complete observation. -/
def isReplayable (encoding : TelemetryEncoding) (kind : QuarantineEntryKind)
    (sourceJson : Option String) (truncated : Bool) : Bool :=
  decide (kind ≠ .fencedMessage) && !truncated &&
    sourceJson.any fun text => (encoding.observationOfJson text).isSome

/-- The text fits the bound. -/
def utf8Bounded (text : Option String) : Bool :=
  text.all fun text => decide (text.utf8ByteSize ≤ maxEnvelopeExcerptBytes)

/-- The validators of a row. -/
def QuarantineFields.valid (encoding : TelemetryEncoding) (fields : QuarantineFields) : Bool :=
  decide (fields.status = .replayed ↔ fields.replayedIngressId.isSome = true) &&
    decide (fields.kind = .observation ↔ fields.observation.isSome = true) &&
    decide (fields.kind = .fencedMessage ↔ fields.envelopeExcerptJson.isSome = true) &&
    !(fields.kind = .fencedMessage && fields.sourceObservationJson.any (· ≠ "")) &&
    utf8Bounded fields.sourceObservationJson && utf8Bounded fields.envelopeExcerptJson &&
    decide (fields.expiresAt = fields.createdAt + quarantineTtl) &&
    decide (fields.createdAt ≤ fields.updatedAt) &&
    fields.replayedIngressId.all (isCanonicalId · "ing") &&
    fields.replayable ==
      isReplayable encoding fields.kind fields.sourceObservationJson fields.truncated

/-- Tenant, time of reception and identifier. -/
abbrev RowKey := String × Time × QuarantineId

/-- The key of a row. -/
def QuarantineFields.rowKey (fields : QuarantineFields) : RowKey :=
  (fields.tenantId, fields.receivedAt, fields.quarantineId)

/-- The row key of an envelope's text. -/
def IngressEnvelope.rowKey (envelope : IngressEnvelope) (ordinal : Int) (excerptJson : String) :
    RowKey :=
  (envelope.tenantId, envelope.receivedAt,
    quarantineEntryId envelope.ingressId ordinal excerptJson)

/-- What distinguishes the rows of one message. -/
structure RowContent where
  kind : QuarantineEntryKind
  (reason excerpt : String)
  truncated : Bool
  observation : Option QuarantinedObservation := none
  sourceJson : Option String := none
  envelopeJson : Option String := none
deriving DecidableEq

/-- One row of a message. -/
def quarantineFields (encoding : TelemetryEncoding) (envelope : IngressEnvelope) (now : Time)
    (ordinal : Int) (content : RowContent) : QuarantineFields where
  tenantId := envelope.tenantId
  quarantineId := quarantineEntryId envelope.ingressId ordinal content.excerpt
  kind := content.kind
  reason := content.reason
  ingressId := envelope.ingressId
  replayOf := envelope.replayOf
  integrationAccountId := envelope.integrationAccountId
  providerKey := envelope.providerKey
  externalIdentityHash := envelope.externalIdentityHash
  sourceType := envelope.sourceType
  connectorVersion := envelope.connectorVersion
  deviceIntegrationId := envelope.deviceIntegrationId
  deviceId := envelope.deviceId
  receivedAt := envelope.receivedAt
  mappingVersions := envelope.mappingVersions
  observation := content.observation
  sourceObservationJson := content.sourceJson
  envelopeExcerptJson := content.envelopeJson
  truncated := content.truncated
  replayable := isReplayable encoding content.kind content.sourceJson content.truncated
  status := .opened
  replayedIngressId := none
  createdAt := now
  updatedAt := now
  version := 1
  expiresAt := now + quarantineTtl

/-- A validated row; a violation raises. -/
def addRow (encoding : TelemetryEncoding) (envelope : IngressEnvelope) (now : Time) (ordinal : Int)
    (content : RowContent) : Option QuarantineFields :=
  let fields := quarantineFields encoding envelope now ordinal content
  if fields.valid encoding then some fields else none

variable {encoding : TelemetryEncoding}

variable {content : RowContent} {row : QuarantineFields}

/-- The key of a row that was built. -/
theorem addRow_rowKey (h : addRow encoding envelope now ordinal content = some row) :
    row.rowKey = envelope.rowKey ordinal content.excerpt := by
  simp only [addRow] at h
  split at h
  · cases h
    rfl
  · contradiction

/-- A new row is open, in its first version. -/
theorem addRow_open (h : addRow encoding envelope now ordinal content = some row) :
    row.status = .opened ∧ row.version = 1 := by
  simp only [addRow] at h
  split at h
  · cases h
    exact ⟨rfl, rfl⟩
  · contradiction

/-! ## Ordinals -/

/-- Each text with the number of times it came before. -/
def ordinalsFrom (seen : List String) : List String → List (Int × String)
  | [] => []
  | text :: texts => ((seen.count text : Int), text) :: ordinalsFrom (text :: seen) texts

/-- The ordinals of a text go on from how often it was seen. -/
theorem mem_ordinalsFrom : ∀ {texts seen : List String},
    p ∈ ordinalsFrom seen texts ↔
      (seen.count p.2 : Int) ≤ p.1 ∧ p.1 < seen.count p.2 + texts.count p.2
  | [], seen => by
    simp only [ordinalsFrom, List.not_mem_nil, List.count_nil, false_iff]
    omega
  | text :: texts, seen => by
    rw [ordinalsFrom, List.mem_cons, mem_ordinalsFrom, Prod.ext_iff]
    by_cases htext : p.2 = text
    · simp only [htext, and_true, List.count_cons_self]
      omega
    · have hne : text ≠ p.2 := fun h => htext h.symm
      simp only [htext, and_false, false_or, List.count_cons_of_ne hne]

/-- No text gets an ordinal twice. -/
theorem ordinalsFrom_nodup : ∀ (texts seen : List String), (ordinalsFrom seen texts).Nodup
  | [], _ => List.nodup_nil
  | text :: texts, seen => by
    refine List.nodup_cons.mpr ⟨fun hmem => ?_, ordinalsFrom_nodup texts (text :: seen)⟩
    have hle := (mem_ordinalsFrom.mp hmem).1
    simp only [List.count_cons_self] at hle
    omega

/-- Ordinals count from zero. -/
theorem ordinalsFrom_nonneg {texts seen : List String}
    (h : p ∈ ordinalsFrom seen texts) : 0 ≤ p.1 := by
  have hle := (mem_ordinalsFrom.mp h).1
  omega

/-- Rows in order, numbered by their texts. -/
def addRows (encoding : TelemetryEncoding) (envelope : IngressEnvelope) (now : Time)
    (contents : List RowContent) : Option (List QuarantineFields) :=
  (contents.zip (ordinalsFrom [] (contents.map (·.excerpt)))).mapM fun (content, ordinal, _) =>
    addRow encoding envelope now ordinal content

/-- The keys of the rows of some texts. -/
def IngressEnvelope.rowKeys (envelope : IngressEnvelope) (texts : List String) : List RowKey :=
  (ordinalsFrom [] texts).map fun (ordinal, text) => envelope.rowKey ordinal text

/-- The keys differ. -/
theorem rowKeys_nodup (envelope : IngressEnvelope) (texts : List String) :
    (envelope.rowKeys texts).Nodup := by
  refine List.Nodup.map ?_ (ordinalsFrom_nodup texts [])
  rintro ⟨ordinal, text⟩ ⟨ordinal', text'⟩ hkey
  simp only [IngressEnvelope.rowKey, quarantineEntryId, Prod.mk.injEq,
    QuarantineId.mk.injEq] at hkey
  rw [hkey.2.2.2.1, hkey.2.2.2.2]

/-- One key for each text. -/
theorem rowKeys_length (envelope : IngressEnvelope) (texts : List String) :
    (envelope.rowKeys texts).length = texts.length := by
  have hordinals : ∀ (texts seen : List String), (ordinalsFrom seen texts).length = texts.length := by
    intro texts
    induction texts with
    | nil => intro seen; rfl
    | cons text texts ih => intro seen; simp [ordinalsFrom, ih]
  simp [IngressEnvelope.rowKeys, hordinals]

variable {contents : List RowContent} {rows : List QuarantineFields}

/-- Rows have the keys of their texts. -/
theorem addRows_rowKeys (h : addRows encoding envelope now contents = some rows) :
    rows.map (·.rowKey) = envelope.rowKeys (contents.map (·.excerpt)) := by
  unfold addRows at h
  unfold IngressEnvelope.rowKeys
  generalize [] = seen at h ⊢
  induction contents generalizing seen rows with
  | nil =>
    cases h
    rfl
  | cons content contents ih =>
    simp only [List.map_cons, ordinalsFrom, List.zip_cons_cons, List.mapM_cons,
      Option.bind_eq_bind, Option.bind_eq_some_iff, Option.pure_def, Option.some.injEq] at h
    obtain ⟨row, hrow, rest, hrest, rfl⟩ := h
    rw [List.map_cons, ih _ hrest, addRow_rowKey hrow]
    rfl

/-- The rows of a list of contents, one by one. -/
theorem addRows_forall₂ (h : addRows encoding envelope now contents = some rows) :
    List.Forall₂ (fun content row => ∃ ordinal,
      row = quarantineFields encoding envelope now ordinal content) contents rows := by
  unfold addRows at h
  generalize [] = seen at h
  induction contents generalizing seen rows with
  | nil =>
    cases h
    exact .nil
  | cons content contents ih =>
    simp only [List.map_cons, ordinalsFrom, List.zip_cons_cons, List.mapM_cons,
      Option.bind_eq_bind, Option.bind_eq_some_iff, Option.pure_def, Option.some.injEq] at h
    obtain ⟨row, hrow, rest, hrest, rfl⟩ := h
    refine .cons ⟨(seen.count content.excerpt : Int), ?_⟩ (ih _ hrest)
    simp only [addRow] at hrow
    split at hrow
    · exact (Option.some.inj hrow).symm
    · contradiction

/-! ## The rows of a message -/

/-- A quarantined observation of a processed message. -/
def outcomeContent (item : QuarantinedObservation) : RowContent where
  kind := .observation
  reason := item.reason.text
  excerpt := item.sourceExcerptJson
  truncated := item.truncated
  observation := some item
  sourceJson := some item.sourceExcerptJson

/-- The rows of a processed message. -/
def outcomeRows (encoding : TelemetryEncoding) (envelope : IngressEnvelope)
    (quarantined : List QuarantinedObservation) (now : Time) : Option (List QuarantineFields) :=
  addRows encoding envelope now (quarantined.map outcomeContent)

/-- The reason of every row of a fenced message. -/
def fencedReason (fence : IngressFence) : String := "fenced_" ++ fence.reason.text

/-- An observation of a fenced message. -/
def fencedContent (encoding : TelemetryEncoding) (fence : IngressFence)
    (observation : SourceObservation) : RowContent :=
  let (sourceJson, truncated) := observationExcerpt encoding observation
  { kind := .fencedObservation
    reason := fencedReason fence
    excerpt := sourceJson
    truncated := truncated
    sourceJson := some sourceJson }

/-- The summary of a fenced message. -/
def summaryContent (encoding : TelemetryEncoding) (envelope : IngressEnvelope)
    (fence : IngressFence) : RowContent :=
  let (excerpt, truncated) := boundedPrefix (encoding.envelopeJson envelope)
  { kind := .fencedMessage
    reason := fencedReason fence
    excerpt := excerpt
    truncated := truncated
    envelopeJson := some excerpt }

/-- A row for each observation, and a summary of ordinal -1. -/
def fencedRows (encoding : TelemetryEncoding) (envelope : IngressEnvelope) (fence : IngressFence)
    (now : Time) : Option (List QuarantineFields) :=
  (addRows encoding envelope now (envelope.observations.map (fencedContent encoding fence))).bind
    fun rows =>
      (addRow encoding envelope now (-1) (summaryContent encoding envelope fence)).map
        fun summary => rows ++ [summary]

/-- The texts of a fenced message's observations. -/
def fencedTexts (encoding : TelemetryEncoding) (envelope : IngressEnvelope) : List String :=
  envelope.observations.map fun observation => (observationExcerpt encoding observation).1

/-- The row key of the summary. -/
def summaryKey (encoding : TelemetryEncoding) (envelope : IngressEnvelope) : RowKey :=
  envelope.rowKey (-1) (boundedPrefix (encoding.envelopeJson envelope)).1

/-- The keys of the observations, then the summary. -/
def fencedKeys (encoding : TelemetryEncoding) (envelope : IngressEnvelope) : List RowKey :=
  envelope.rowKeys (fencedTexts encoding envelope) ++ [summaryKey encoding envelope]

variable {quarantined : List QuarantinedObservation}

/-- The keys of a processed message's rows. -/
theorem outcomeRows_spec (h : outcomeRows encoding envelope quarantined now = some rows) :
    rows.map (·.rowKey) = envelope.rowKeys (quarantined.map (·.sourceExcerptJson)) := by
  rw [addRows_rowKeys h, List.map_map]
  rfl

/-- The keys of a fenced message's rows. -/
theorem fencedRows_spec (h : fencedRows encoding envelope fence now = some rows) :
    rows.map (·.rowKey) = fencedKeys encoding envelope := by
  obtain ⟨observed, hobs, h⟩ := Option.bind_eq_some_iff.mp h
  obtain ⟨summary, hsummary, rfl⟩ := Option.map_eq_some_iff.mp h
  rw [List.map_append, addRows_rowKeys hobs, List.map_map, List.map_singleton,
    addRow_rowKey hsummary]
  rfl

/-- New rows are open. -/
theorem addRows_open (h : addRows encoding envelope now contents = some rows)
    (row : QuarantineFields) (hrow : row ∈ rows) : row.status = .opened ∧ row.version = 1 := by
  obtain ⟨_, -, hadd⟩ := exists_of_mem_mapM h row hrow
  exact addRow_open hadd

theorem outcomeRows_open
    (h : outcomeRows encoding envelope quarantined now = some rows) (row : QuarantineFields)
    (hrow : row ∈ rows) : row.status = .opened ∧ row.version = 1 :=
  addRows_open h row hrow

theorem fencedRows_open
    (h : fencedRows encoding envelope fence now = some rows) (row : QuarantineFields)
    (hrow : row ∈ rows) : row.status = .opened ∧ row.version = 1 := by
  obtain ⟨observed, hobs, h⟩ := Option.bind_eq_some_iff.mp h
  obtain ⟨summary, hsummary, rfl⟩ := Option.map_eq_some_iff.mp h
  rcases List.mem_append.mp hrow with hrow | hrow
  · exact addRows_open hobs row hrow
  · obtain rfl := List.mem_singleton.mp hrow
    exact addRow_open hsummary

/-- The keys differ. -/
theorem fencedKeys_nodup (encoding : TelemetryEncoding) (envelope : IngressEnvelope) :
    (fencedKeys encoding envelope).Nodup := by
  refine List.nodup_append.mpr ⟨rowKeys_nodup _ _, List.nodup_singleton _, ?_⟩
  intro key hkey summary hsummary
  rw [List.mem_singleton] at hsummary
  subst hsummary
  rintro rfl
  -- The ordinals of observations are not negative.
  obtain ⟨⟨ordinal, text⟩, hmem, heq⟩ := List.mem_map.mp hkey
  have hnonneg := ordinalsFrom_nonneg hmem
  simp only [summaryKey, IngressEnvelope.rowKey, quarantineEntryId, Prod.mk.injEq,
    QuarantineId.mk.injEq] at heq
  have hordinal : ordinal = -1 := heq.2.2.2.1
  simp only [hordinal] at hnonneg
  omega

/-- One key for each observation, and one more. -/
theorem fencedKeys_length (encoding : TelemetryEncoding) (envelope : IngressEnvelope) :
    (fencedKeys encoding envelope).length = envelope.observations.length + 1 := by
  simp [fencedKeys, rowKeys_length, fencedTexts]

end LimnoPulse.Ingestion
