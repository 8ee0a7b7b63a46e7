import LimnoPulse.Library.Json
import LimnoPulse.Library.Timestamp
import LimnoPulse.Alerts.Cooldown

/-!
# The stored document of an incident state

The evaluator stores the incident state of a rule as a JSON document; the API overwrites
some of its fields.  A document is modelled by the JSON value its text denotes, with exact
numbers and timestamps as texts.

Main results:

- Theorem `decode_encodeStateJSON`: what the evaluator stores is what it loads.
- Theorem `incident_documents_agree`: the API leaves the state that the evaluator itself
  would have left.
-/

namespace LimnoPulse.Alerts

open CivilTime Evaluator

variable {document : Json}

/-- The magnitudes of a measurement that can be stored. -/
def persistable (value : Rat) : Bool :=
  value = 0 || (decide (1 / 10 ^ 100 ≤ |value|) && decide (|value| ≤ 10 ^ 25))

/-- An absent value, or one that can be stored. -/
structure Measurement where
  value : Option Rat
  persistable : value.all Alerts.persistable = true
deriving DecidableEq

/-- `Measured`: a value that cannot be stored is absent. -/
def measured (value : Rat) : Measurement :=
  if h : Alerts.persistable value then ⟨some value, h⟩ else ⟨none, rfl⟩

/-- The zero time. -/
def zeroTime : Instant := -62135596800 * second

/-- `alertevaluator.State` with its texts and times. -/
structure StateRecord where
  mode : String := ""
  confirmedSlots : Int := 0
  pendingSince : Instant := zeroTime
  lastBreachSlot : Instant := zeroTime
  lastEvaluatedSlot : Instant := zeroTime
  lastQuality : String := ""
  lastValue : Measurement := ⟨none, rfl⟩
  activeEventId : String := ""
  activeStatus : String := ""
  activeOpenedAt : Instant := zeroTime
  openingOutboxes : Option Json.TextMap := none
  cooldownUntil : Instant := zeroTime
  lastNotifiedEventId : String := ""
  suppressionSourceEventId : String := ""
deriving DecidableEq

/-! ### The record of a state -/

/-- The text of a mode. -/
def Evaluator.Mode.text : Mode → String
  | .unset => ""
  | .healthy => "healthy"
  | .pending => "pending"
  | .active => "active"

/-- The text of a quality. -/
def Evaluator.Quality.text : Quality → String
  | .sufficient => "sufficient"
  | .insufficientData => "insufficient_data"
  | .staleData => "stale_data"
  | .queryError => "query_error"

/-- The text of a status. -/
def Evaluator.EventStatus.text : EventStatus → String
  | .opened => "open"
  | .acknowledged => "acknowledged"
  | .suppressed => "suppressed"
  | .resolved => "resolved"

/-- The text of a channel. -/
def AlertChannel.text : AlertChannel → String
  | .email => "email"
  | .telegram => "telegram"

/-- The text of a kind. -/
def Evaluator.OutboxKind.text : OutboxKind → String
  | .opening => "opening"
  | .recovery => "recovery"

/-- `sha256Hex`. -/
def sha256Hex (text : String) : String :=
  String.ofList ((Sha256.digest text.toUTF8.toList).flatMap fun byte =>
    [Nat.digitChar (byte.toNat / 16), Nat.digitChar (byte.toNat % 16)])

/-- `EventID`: the text of an event identifier. -/
def Evaluator.EventId.text (id : EventId) : String :=
  "alert_" ++ sha256Hex (id.tenantId ++ "\x00" ++ id.ruleId ++ "\x00" ++ toString id.version ++ "\x00" ++
    toString id.evaluationRevision ++ "\x00" ++ nanosecondText id.slot)

/-- `OutboxID`: the text of an outbox identifier. -/
def Evaluator.OutboxId.text (id : OutboxId) : String :=
  "outbox_" ++ sha256Hex (id.eventId.text ++ "\x00" ++ id.channel.text ++ "\x00" ++ id.kind.text)

/-- The record of a state: what is missing is zero. -/
def Evaluator.State.record (state : State) : StateRecord where
  mode := state.mode.text
  confirmedSlots := state.confirmedSlots
  pendingSince := state.pendingSince.getD zeroTime
  lastBreachSlot := state.lastBreachSlot.getD zeroTime
  lastEvaluatedSlot := state.lastEvaluatedSlot.getD zeroTime
  lastQuality := (state.lastQuality.map Quality.text).getD ""
  lastValue := (state.lastValue.map measured).getD ⟨none, rfl⟩
  activeEventId := (state.activeEventId.map EventId.text).getD ""
  activeStatus := (state.activeStatus.map EventStatus.text).getD ""
  activeOpenedAt := state.activeOpenedAt.getD zeroTime
  openingOutboxes := state.openingOutboxes.map fun outboxes =>
    .ofList (outboxes.sorted.map fun (channel, id) => (channel.text, id.text))
  cooldownUntil := state.cooldownUntil.getD zeroTime
  lastNotifiedEventId := (state.lastNotifiedEventId.map EventId.text).getD ""
  suppressionSourceEventId := (state.suppressionSourceEventId.map EventId.text).getD ""

/-- The version in which a missing value is null. -/
def stateSchemaVersion : Int := 2

/-- A value, or null. -/
def measurementJson (measurement : Measurement) : Json :=
  match measurement.value with
  | some value => .number value
  | none => .null

/-- The opening outboxes. -/
def outboxesJson : Option Json.TextMap → Json
  | none => .null
  | some outboxes => .object outboxes.fields

/-- The timestamps of years with four digits. -/
structure RecordTimes where
  (pendingSince lastBreachSlot lastEvaluatedSlot activeOpenedAt cooldownUntil : String)

/-- The timestamps, if there are any. -/
def StateRecord.times (state : StateRecord) : Option RecordTimes := do
  some
    { pendingSince := ← formatTimestamp state.pendingSince
      lastBreachSlot := ← formatTimestamp state.lastBreachSlot
      lastEvaluatedSlot := ← formatTimestamp state.lastEvaluatedSlot
      activeOpenedAt := ← formatTimestamp state.activeOpenedAt
      cooldownUntil := ← formatTimestamp state.cooldownUntil }

/-- The fields in the order of the struct. -/
def StateRecord.fields (state : StateRecord) (times : RecordTimes) : Json.Fields :=
  [("SchemaVersion", .number stateSchemaVersion),
    ("Mode", .string state.mode),
    ("ConfirmedSlots", .number state.confirmedSlots),
    ("PendingSince", .string times.pendingSince),
    ("LastBreachSlot", .string times.lastBreachSlot),
    ("LastEvaluatedSlot", .string times.lastEvaluatedSlot),
    ("LastQuality", .string state.lastQuality),
    ("LastValue", measurementJson state.lastValue),
    ("ActiveEventID", .string state.activeEventId),
    ("ActiveStatus", .string state.activeStatus),
    ("ActiveOpenedAt", .string times.activeOpenedAt),
    ("OpeningOutboxes", outboxesJson state.openingOutboxes),
    ("CooldownUntil", .string times.cooldownUntil),
    ("LastNotifiedEventID", .string state.lastNotifiedEventId),
    ("SuppressionSourceEventID", .string state.suppressionSourceEventId)]

/-- `encodeStateJSON` fails for a time without text. -/
def encodeStateJSON (state : StateRecord) : Option Json :=
  state.times.map fun times => .object (state.fields times)

/-! ## Decoding -/

/-- Why a document is refused. -/
inductive DecodeError where
  | malformed
  | unsupportedStateSchema (version : Int)
deriving DecidableEq

/-- A number field: missing and null leave the zero value. -/
def intField : Option Json → Except DecodeError Int
  | none | some .null => .ok 0
  | some (.number value) => if value.den = 1 then .ok value.num else .error .malformed
  | _ => .error .malformed

/-- Read a text. -/
def textField : Option Json → Except DecodeError String
  | none | some .null => .ok ""
  | some (.string value) => .ok value
  | _ => .error .malformed

/-- Read a time. -/
def timeField : Option Json → Except DecodeError Instant
  | none | some .null => .ok zeroTime
  | some (.string value) =>
    match parseTimestamp value with
    | some t => .ok t
    | none => .error .malformed
  | _ => .error .malformed

/-- Read a value. -/
def measurementField : Option Json → Except DecodeError Measurement
  | none | some .null => .ok ⟨none, rfl⟩
  | some (.number value) => .ok (measured value)
  | _ => .error .malformed

/-- An entry of the map; null is the empty text. -/
def outboxEntry (entry : String × Json) : Except DecodeError (String × String) := do
  let text ← textField (some entry.2)
  .ok (entry.1, text)

/-- Read opening outboxes. -/
def outboxesField : Option Json → Except DecodeError (Option Json.TextMap)
  | none | some .null => .ok none
  | some (.object fields) => do
    let entries ← fields.mapM outboxEntry
    .ok (some (.ofList entries))
  | _ => .error .malformed

/-- `legacyLastValue`: a zero was a missing value. -/
def legacyLastValue (state : StateRecord) : Measurement :=
  match state.lastValue.value with
  | some value => if value = 0 ∧ state.lastQuality ≠ "sufficient" then ⟨none, rfl⟩ else state.lastValue
  | none => ⟨none, rfl⟩

/-- Read all fields. -/
def decodeFields (field : String → Option Json) : Except DecodeError (Int × StateRecord) := do
  let version ← intField (field "SchemaVersion")
  let state : StateRecord :=
    { mode := ← textField (field "Mode")
      confirmedSlots := ← intField (field "ConfirmedSlots")
      pendingSince := ← timeField (field "PendingSince")
      lastBreachSlot := ← timeField (field "LastBreachSlot")
      lastEvaluatedSlot := ← timeField (field "LastEvaluatedSlot")
      lastQuality := ← textField (field "LastQuality")
      lastValue := ← measurementField (field "LastValue")
      activeEventId := ← textField (field "ActiveEventID")
      activeStatus := ← textField (field "ActiveStatus")
      activeOpenedAt := ← timeField (field "ActiveOpenedAt")
      openingOutboxes := ← outboxesField (field "OpeningOutboxes")
      cooldownUntil := ← timeField (field "CooldownUntil")
      lastNotifiedEventId := ← textField (field "LastNotifiedEventID")
      suppressionSourceEventId := ← textField (field "SuppressionSourceEventID") }
  .ok (version, state)

/-- The state of a document of a known version. -/
def versioned (version : Int) (state : StateRecord) : Except DecodeError StateRecord :=
  if version = stateSchemaVersion then .ok state
  else if version = 0 ∨ version = 1 then .ok { state with lastValue := legacyLastValue state }
  else .error (.unsupportedStateSchema version)

/-- `decodeStateJSON`. -/
def decodeStateJSON : Json → Except DecodeError StateRecord
  | .object fields => do
    let (version, state) ← decodeFields fun name => fields.lookup name
    versioned version state
  | .null => versioned 0 {}
  | _ => .error .malformed

/-- The text of the zero time. -/
def zeroTimeText : String := "0001-01-01T00:00:00Z"

/-- What drops a confirmation. -/
def pendingChanges : Json.Fields :=
  [("Mode", .string "healthy"), ("ConfirmedSlots", .number 0), ("PendingSince", .string zeroTimeText),
    ("LastBreachSlot", .string zeroTimeText)]

/-- What ends the active incident. -/
def incidentChanges : Json.Fields :=
  pendingChanges ++
    [("ActiveEventID", .string ""), ("ActiveStatus", .string ""),
      ("ActiveOpenedAt", .string zeroTimeText), ("OpeningOutboxes", .null),
      ("SuppressionSourceEventID", .string "")]

/-- `resolved_evaluator_state` on the document. -/
def resolvedEvaluatorDocument (document : Json) (eventId : String) : Option Json :=
  match document with
  | .object fields =>
    if Json.isText "active" (fields.lookup "Mode") &&
        Json.isText eventId (fields.lookup "ActiveEventID") then
      some (Json.object (Json.update fields incidentChanges)).sortKeys
    else none
  | _ => none

/-- `reset_pending_evaluator_state` on the document. -/
def resetPendingEvaluatorDocument (document : Json) : Option Json :=
  match document with
  | .object fields =>
    if Json.isText "pending" (fields.lookup "Mode") then
      some (Json.object (Json.update fields pendingChanges)).sortKeys
    else none
  | _ => none

/-! ## Each field is read back -/

/-- A time is read back. -/
theorem timeField_of_format {t : Instant} {text : String} (h : formatTimestamp t = some text) :
    timeField (some (.string text)) = .ok t := by
  simp only [timeField, parse_format h]

theorem intField_number (n : Int) : intField (some (.number n)) = .ok n := by
  simp [intField]

/-- A finite value is stored. -/
theorem measured_of_persistable {value : Rat} (h : Alerts.persistable value = true) :
    measured value = ⟨some value, h⟩ :=
  dif_pos h

/-- A value is read back. -/
theorem measurementField_measurementJson (measurement : Measurement) :
    measurementField (some (measurementJson measurement)) = .ok measurement := by
  obtain ⟨_ | value, h⟩ := measurement
  · rfl
  · exact congrArg Except.ok (measured_of_persistable h)

theorem mapM_outboxEntry : ∀ entries : List (String × String),
    (entries.map fun entry => (entry.1, Json.string entry.2)).mapM outboxEntry = .ok entries
  | [] => rfl
  | entry :: rest => by
    rw [List.map_cons, List.mapM_cons, mapM_outboxEntry rest]
    rfl

theorem outboxesField_outboxesJson (outboxes : Option Json.TextMap) :
    outboxesField (some (outboxesJson outboxes)) = .ok outboxes := by
  cases outboxes with
  | none => rfl
  | some map =>
    have hread : map.fields.mapM outboxEntry = .ok map.entries := mapM_outboxEntry map.entries
    simp only [outboxesJson, outboxesField, hread]
    exact congrArg (fun map => Except.ok (some map)) map.ofList_entries

/-- The text of no time. -/
theorem formatTimestamp_zeroTime : formatTimestamp zeroTime = some zeroTimeText := by
  decide +kernel

/-- A value has no keys. -/
@[simp]
theorem sortKeys_measurementJson (measurement : Measurement) :
    (measurementJson measurement).sortKeys = measurementJson measurement := by
  unfold measurementJson
  split <;> rw [Json.sortKeys]

/-- Outboxes are sorted. -/
@[simp]
theorem sortKeys_outboxesJson (outboxes : Option Json.TextMap) :
    (outboxesJson outboxes).sortKeys = outboxesJson outboxes := by
  cases outboxes with
  | none => rw [outboxesJson, Json.sortKeys]
  | some => rw [outboxesJson, Json.sortKeys_object, Json.TextMap.sortFields_fields]

variable {state : StateRecord}

variable {times : RecordTimes}

/-- The texts are those of the record's times. -/
theorem StateRecord.times_eq_some (h : state.times = some times) :
    formatTimestamp state.pendingSince = some times.pendingSince ∧
      formatTimestamp state.lastBreachSlot = some times.lastBreachSlot ∧
      formatTimestamp state.lastEvaluatedSlot = some times.lastEvaluatedSlot ∧
      formatTimestamp state.activeOpenedAt = some times.activeOpenedAt ∧
      formatTimestamp state.cooldownUntil = some times.cooldownUntil := by
  simp only [StateRecord.times, Option.bind_eq_bind, Option.bind_eq_some_iff] at h
  obtain ⟨_, h₁, _, h₂, _, h₃, _, h₄, _, h₅, heq⟩ := h
  cases heq
  exact ⟨h₁, h₂, h₃, h₄, h₅⟩

/-- The fields of a record are read as that record. -/
theorem decodeFields_of_lookup {field : String → Option Json} (htimes : state.times = some times)
    (hfield : ∀ name, field name = (state.fields times).lookup name) :
    decodeFields field = .ok (stateSchemaVersion, state) := by
  obtain ⟨h₁, h₂, h₃, h₄, h₅⟩ := StateRecord.times_eq_some htimes
  have hlookup : field = fun name => (state.fields times).lookup name := funext hfield
  subst hlookup
  simp only [decodeFields, StateRecord.fields, Json.lookup_cons, String.reduceEq, if_true, if_false,
    timeField_of_format h₁, timeField_of_format h₂, timeField_of_format h₃, timeField_of_format h₄,
    timeField_of_format h₅, intField_number, measurementField_measurementJson,
    outboxesField_outboxesJson, textField]
  rfl

/-- What the evaluator stores is what it loads. -/
theorem decode_encodeStateJSON (h : encodeStateJSON state = some document) :
    decodeStateJSON document = .ok state := by
  obtain ⟨times, htimes, rfl⟩ := Option.map_eq_some_iff.mp h
  simp only [decodeStateJSON, decodeFields_of_lookup htimes fun _ => rfl]
  rfl

/-- Fields may be written in the order of keys. -/
theorem decode_sortKeys (htimes : state.times = some times) :
    decodeStateJSON (Json.object (state.fields times)).sortKeys = .ok state := by
  have hkeys : ((state.fields times).map Prod.fst).Nodup := by
    simp [StateRecord.fields]
  have hvalues : (state.fields times).map (fun field => (field.1, field.2.sortKeys)) =
      state.fields times := by
    simp [StateRecord.fields, Json.sortKeys]
  have hlookup : ∀ name, (Json.sortFields (state.fields times)).lookup name =
      (state.fields times).lookup name := by
    intro name
    rw [Json.lookup_sortFields hkeys, ← Json.lookup_map, hvalues]
  rw [Json.sortKeys_object]
  simp only [decodeStateJSON, decodeFields_of_lookup htimes hlookup]
  rfl

/-! ## The changes of the API on the record -/

/-- The record without its confirmation. -/
def StateRecord.resetPending (state : StateRecord) : StateRecord :=
  { state with
    mode := "healthy"
    confirmedSlots := 0
    pendingSince := zeroTime
    lastBreachSlot := zeroTime }

/-- The record without its incident. -/
def StateRecord.resolved (state : StateRecord) : StateRecord :=
  { state.resetPending with
    activeEventId := ""
    activeStatus := ""
    activeOpenedAt := zeroTime
    openingOutboxes := none
    suppressionSourceEventId := "" }

/-- What dropping writes. -/
theorem update_pendingChanges (state : StateRecord) (times : RecordTimes) :
    Json.update (state.fields times) pendingChanges =
      state.resetPending.fields
        { times with pendingSince := zeroTimeText, lastBreachSlot := zeroTimeText } := by
  simp [Json.update, Json.setField, pendingChanges, StateRecord.fields, StateRecord.resetPending]

/-- What resolving writes. -/
theorem update_incidentChanges (state : StateRecord) (times : RecordTimes) :
    Json.update (state.fields times) incidentChanges =
      state.resolved.fields
        { times with
          pendingSince := zeroTimeText, lastBreachSlot := zeroTimeText, activeOpenedAt := zeroTimeText } := by
  simp [Json.update, Json.setField, incidentChanges, pendingChanges, StateRecord.fields,
    StateRecord.resolved, StateRecord.resetPending, outboxesJson]

/-- The times after dropping. -/
theorem resetPending_times (h : state.times = some times) :
    state.resetPending.times =
      some { times with pendingSince := zeroTimeText, lastBreachSlot := zeroTimeText } := by
  obtain ⟨-, -, h₃, h₄, h₅⟩ := StateRecord.times_eq_some h
  simp [StateRecord.times, StateRecord.resetPending, formatTimestamp_zeroTime, h₃, h₄, h₅]

/-- The times after resolving. -/
theorem resolved_times (h : state.times = some times) :
    state.resolved.times =
      some { times with
        pendingSince := zeroTimeText, lastBreachSlot := zeroTimeText, activeOpenedAt := zeroTimeText } := by
  obtain ⟨-, -, h₃, -, h₅⟩ := StateRecord.times_eq_some h
  simp [StateRecord.times, StateRecord.resolved, StateRecord.resetPending, formatTimestamp_zeroTime, h₃, h₅]

/-- Resolving in the document resolves in the record. -/
theorem resolvedEvaluatorDocument_spec {eventId : String}
    (h : encodeStateJSON state = some document) (hmode : state.mode = "active")
    (hevent : state.activeEventId = eventId) :
    ∃ changed, resolvedEvaluatorDocument document eventId = some changed ∧
      decodeStateJSON changed = .ok state.resolved := by
  obtain ⟨times, htimes, rfl⟩ := Option.map_eq_some_iff.mp h
  refine ⟨_, ?_, decode_sortKeys (resolved_times htimes)⟩
  rw [← update_incidentChanges]
  simp [resolvedEvaluatorDocument, StateRecord.fields, Json.lookup_cons, Json.isText, hmode, hevent]

/-- Dropping in the document drops in the record. -/
theorem resetPendingEvaluatorDocument_spec (h : encodeStateJSON state = some document)
    (hmode : state.mode = "pending") :
    ∃ changed, resetPendingEvaluatorDocument document = some changed ∧
      decodeStateJSON changed = .ok state.resetPending := by
  obtain ⟨times, htimes, rfl⟩ := Option.map_eq_some_iff.mp h
  refine ⟨_, ?_, decode_sortKeys (resetPending_times htimes)⟩
  rw [← update_pendingChanges]
  simp [resetPendingEvaluatorDocument, StateRecord.fields, Json.lookup_cons, Json.isText, hmode]

/-- The states that evaluations and the API leave. -/
inductive Reachable : State → Prop where
  | initial : Reachable {}
  | decide (rule : Evaluator.Rule) (state : State) (raw : Evaluation) (cadence : Int)
      (h : Reachable state) : Reachable (rule.decide state raw cadence).next
  | resolved (row row' : StateRow) (eventId : EventId) (now : Instant) (h : Reachable row.state)
      (hrow : resolvedEvaluatorState row eventId now = some row') : Reachable row'.state
  | reset (row row' : StateRow) (now : Instant) (h : Reachable row.state)
      (hrow : resetPendingEvaluatorState row now = some row') : Reachable row'.state

/-- An active incident has no confirmation in progress. -/
def Evaluator.State.Settled (state : State) : Prop :=
  state.mode = .active → state.confirmedSlots = 0 ∧ state.pendingSince = none

/-- A new incident is settled. -/
theorem Evaluator.Rule.openIncident_settled (rule : Evaluator.Rule) (state : State)
    (evaluation : Evaluation) : (rule.openIncident state evaluation).next.Settled := by
  unfold Rule.openIncident
  simp only
  split <;> exact fun _ => ⟨rfl, rfl⟩

/-- Decisions leave settled states. -/
theorem Evaluator.Rule.Decides.settled {rule : Evaluator.Rule} {current : State} {slot : Instant}
    {decision : Decision} (h : rule.Decides current slot decision) (hcur : current.Settled) :
    decision.next.Settled := by
  cases h with
  | kept next _ _ hmode hact =>
    intro hnext
    have hbefore := hmode.mp hnext
    have hsame := hact hbefore
    exact ⟨hsame.1.trans (hcur hbefore).1, hsame.2.trans (hcur hbefore).2⟩
  | recovered => exact fun hnext => nomatch hnext
  | opened pending evaluation => exact rule.openIncident_settled pending evaluation

theorem Reachable.settled {state : State} (h : Reachable state) : state.Settled := by
  induction h with
  | initial => exact fun hmode => nomatch hmode
  | decide rule state raw cadence _ ih => exact (rule.decide_decides state raw cadence).settled ih
  | resolved row row' eventId now _ hrow =>
    obtain ⟨-, -, hmode, -⟩ := resolvedEvaluatorState_eq_some hrow
    exact fun hact => by simp [hmode] at hact
  | reset row row' now _ hrow =>
    obtain ⟨-, hmode, -⟩ := resetPendingEvaluatorState_eq_some hrow
    exact fun hact => by simp [hmode] at hact

/-- Recovery from a settled state is the API's resolution. -/
theorem Evaluator.State.Settled.recoverIncident_record {state : State} (h : state.Settled)
    (hmode : state.mode = .active) : (recoverIncident state).next.record = state.record.resolved := by
  obtain ⟨hslots, hpend⟩ := h hmode
  simp [recoverIncident, State.record, StateRecord.resolved, StateRecord.resetPending, Mode.text, hslots,
    hpend]

/-- On the document of a reachable state, resolving the active incident leaves the evaluator's
recovered state, with the last evaluation as it was, and dropping a confirmation leaves its reset
state.  The document of any record is read back as that record. -/
theorem incident_documents_agree :
    (∀ (state : State) (eventId : String) (document : Json), Reachable state → state.mode = .active →
      state.record.activeEventId = eventId → encodeStateJSON state.record = some document →
      ∃ changed, resolvedEvaluatorDocument document eventId = some changed ∧
        decodeStateJSON changed = .ok (recoverIncident state).next.record ∧
        (recoverIncident state).next.lastEvaluatedSlot = state.lastEvaluatedSlot ∧
        (recoverIncident state).next.lastQuality = state.lastQuality ∧
        (recoverIncident state).next.lastValue = state.lastValue) ∧
    (∀ (state : State) (document : Json), Reachable state → state.mode = .pending →
      encodeStateJSON state.record = some document →
      ∃ changed, resetPendingEvaluatorDocument document = some changed ∧
        decodeStateJSON changed = .ok state.resetPending.record) ∧
    (∀ (state : StateRecord) (document : Json), encodeStateJSON state = some document →
      decodeStateJSON document = .ok state) := by
  refine ⟨?_, ?_, fun _ _ h => decode_encodeStateJSON h⟩
  · intro state eventId document hreachable hmode hevent hencode
    have hactive : state.record.mode = "active" := congrArg Mode.text hmode
    obtain ⟨changed, hchanged, hdecode⟩ := resolvedEvaluatorDocument_spec hencode hactive hevent
    refine ⟨changed, hchanged, ?_, rfl, rfl, rfl⟩
    rw [hdecode, hreachable.settled.recoverIncident_record hmode]
  · intro state document _ hmode hencode
    have hpending : state.record.mode = "pending" := congrArg Mode.text hmode
    exact resetPendingEvaluatorDocument_spec hencode hpending

namespace OneSlotRule

/-- A rule that a single breach confirms. -/
def rule : Evaluator.Rule :=
  { tenantId := "tenant", ruleId := "rule", version := 1, evaluationRevision := 1, duration := minute,
    cooldown := minute, channels := [.email] }

/-- A breach. -/
def breach : Evaluation :=
  { slot := 5 * minute, quality := .sufficient, breached := true, value := some (3 / 2),
    missedSlots := 0 }

/-- The state it leaves. -/
def opened : State := (rule.decide {} breach minute).next

end OneSlotRule

theorem incident_documents_agree_opened :
    ∃ document changed, encodeStateJSON OneSlotRule.opened.record = some document ∧
      resolvedEvaluatorDocument document OneSlotRule.opened.record.activeEventId = some changed ∧
      decodeStateJSON changed = .ok (recoverIncident OneSlotRule.opened).next.record := by
  have hreachable : Reachable OneSlotRule.opened := .decide _ _ _ _ .initial
  have hmode : OneSlotRule.opened.mode = .active := by decide +kernel
  have hencode : (encodeStateJSON OneSlotRule.opened.record).isSome = true := by decide +kernel
  obtain ⟨document, hdocument⟩ := Option.isSome_iff_exists.mp hencode
  obtain ⟨changed, hchanged, hdecode, -⟩ :=
    incident_documents_agree.1 _ _ document hreachable hmode rfl hdocument
  exact ⟨document, changed, hdocument, hchanged, hdecode⟩

end LimnoPulse.Alerts
