import LimnoPulse.Library.Program
import LimnoPulse.Library.Transaction
import LimnoPulse.Alerts.StateMachine
import LimnoPulse.Notifications.Model

/-!
# The alert tables

The rows that the API and the evaluator share, and the store that holds them.
A rule row keeps its past values because the API reads it with eventual
consistency; every other row read here is read consistently.

Main results:

- Structure `Store` carries the fact that a rule row lies under its own
  key.
- Theorem `Store.rule_putRule`: the
  current value of every rule row after a write.
-/

namespace LimnoPulse.Alerts

open CivilTime StoreProgram Evaluator
open Function (update update_eq_self update_of_ne update_self)

/-! ## Rows -/

/-- A rule with schedule, lease and last evaluation. -/
structure RuleRow where
  rule : AlertRule
  evaluationBucket : Option Nat := none
  nextEvaluationAt : Option Instant := none
  gsi1pk : Option String := none
  gsi1sk : Option String := none
  leaseOwner : Option String := none
  leaseExpiresAt : Option Instant := none
  leaseEpoch : Option Nat := none
  lastEvaluatedSlot : Option Instant := none
  lastEvaluationQuality : Option Quality := none
  lastEvaluationValue : Option Rat := none

/-- The schedule attributes as one `SET`. -/
def RuleRow.setSchedule (row : RuleRow) (schedule : EvaluationSchedule) : RuleRow :=
  { row with
    evaluationBucket := some schedule.evaluationBucket
    nextEvaluationAt := some schedule.nextEvaluationAt
    gsi1pk := some schedule.gsi1pk
    gsi1sk := some schedule.gsi1sk }

/-- Remove the current lease; its epoch stays. -/
def RuleRow.removeLease (row : RuleRow) : RuleRow :=
  { row with leaseOwner := none, leaseExpiresAt := none }

/-- Remove every field in `EVALUATION_SCHEDULE_FIELDS`. -/
def RuleRow.removeSchedule (row : RuleRow) : RuleRow :=
  { row with
    evaluationBucket := none
    nextEvaluationAt := none
    gsi1pk := none
    gsi1sk := none
    leaseOwner := none
    leaseExpiresAt := none
    leaseEpoch := none }

/-- The row a new rule is stored as. -/
def ruleToItem (rule : AlertRule) : RuleRow :=
  if rule.enabled && rule.status = .active then
    RuleRow.setSchedule { rule := rule }
      (alertEvaluationSchedule rule.tenantId rule.ruleId rule.createdAt)
  else { rule := rule }

/-- The stored incident state of a rule. -/
structure StateRow where
  (tenantId ruleId : String)
  stateRevision : Nat
  state : State
  updatedAt : Instant
deriving DecidableEq

/-- The storage key of an event. -/
structure EventKey where
  tenantId : String
  eventId : EventId
deriving DecidableEq

/-- The sort key of the active-event index. -/
structure ActiveIndexSortKey where
  openedAt : Instant
  eventId : EventId

/-- The row of an incident. -/
structure EventRow where
  eventId : EventId
  (tenantId ruleId : String)
  (ruleVersion evaluationRevision : Nat)
  (ruleName pondId : String)
  deviceId : Option String
  metric : AlertMetric
  operator : AlertOperator
  threshold : Rat
  aggregation : AlertAggregation
  severity : AlertSeverity
  status : EventStatus
  (openedAt createdAt updatedAt : Instant)
  version : Nat
  (confirmedOpenWindowEnd windowStart windowEnd lastEvaluatedAt : Instant)
  lastEvaluationQuality : Quality
  lastEvaluationValue : Option Rat
  suppressionSourceEventId : Option EventId
  gsi3pk : Option String
  gsi3sk : Option ActiveIndexSortKey
  acknowledgedAt : Option Instant := none
  acknowledgedBy : Option String := none
  resolvedAt : Option Instant := none
  resolvedBy : Option String := none
  resolutionReason : Option String := none

/-- The active events of a tenant. -/
def activeIndexPartition (tenantId : String) : String :=
  "TENANT#" ++ tenantId ++ "#ACTIVE_ALERT_EVENTS"

/-- What a transition row records. -/
structure TransitionRow where
  (ruleId transition : String)
  reason : Option String
  actorType : String
  actorId : Option String

/-- The key of a transition; it ends in the evaluator's name for it or a random identifier of the
API. -/
structure TransitionKey where
  event : EventKey
  createdAt : Instant
  discriminator : String
deriving DecidableEq

/-- What the relay does with a row. -/
inductive RelayWorkKind where
  | intent
  | dependency

/-- The relay index key of an outbox row. -/
structure RelayIndexKey where
  workKind : RelayWorkKind
  tenantId : String
  outboxId : OutboxId
  scheduledAt : Instant

/-- `BuildRelayIndexKey` of a valid identifier. -/
def buildRelayIndexKey (workKind : RelayWorkKind) (tenantId : String) (outboxId : OutboxId)
    (scheduledAt : Instant) : Option RelayIndexKey :=
  if Notifications.validateIdentityField tenantId then some ⟨workKind, tenantId, outboxId, scheduledAt⟩
  else none

/-- The relay attributes of a row to expand. -/
structure RelayAttributes where
  relaySchemaVersion : Nat
  availableAt : Instant
  relayWorkKind : RelayWorkKind
  relayIndex : RelayIndexKey

/-- Whether the relay expands a row. -/
inductive ExpansionStatus where
  | pending (relay : RelayAttributes)
  | deferredUnsupportedChannel

/-- The row of a notification to send. -/
structure OutboxRow where
  outboxId : OutboxId
  eventId : Option EventId
  (tenantId ruleId : String)
  channel : AlertChannel
  kind : OutboxKind
  status : OutboxStatus
  dependsOnOutboxId : Option OutboxId
  (createdAt evaluationWindowStart evaluationWindowEnd evaluatedAt : Instant)
  evaluationValue : Option Rat
  expansionStatus : ExpansionStatus

/-- The receipt of a replacement. -/
structure IdempotencyRow where
  requestHash : String
  (replaced replacement : AlertRule)
  (createdAt expiresAt : Instant)

/-! ## The store -/

/-- The alert tables; rules lie under their own keys. -/
structure Store where
  rules : RuleKey → Versions RuleRow
  keyed : ∀ key row, row ∈ rules key → row.rule.key = key
  states : RuleKey → Option StateRow
  events : EventKey → Option EventRow
  transitions : TransitionKey → Option TransitionRow
  outboxes : String × OutboxId → Option OutboxRow
  receipts : String × String → Versions IdempotencyRow

namespace Store

/-- The tables without a row. -/
def empty : Store where
  rules := fun _ => []
  keyed := by simp
  states := fun _ => none
  events := fun _ => none
  transitions := fun _ => none
  outboxes := fun _ => none
  receipts := fun _ => []

/-- The value of a rule row that a condition sees. -/
def rule (s : Store) (key : RuleKey) : Option RuleRow := (s.rules key).current

/-- The active incident of a rule, as its state row has it. -/
def incident (s : Store) (key : RuleKey) : Option EventId :=
  (s.states key).bind fun row => row.state.incident

/-- Store one more value of a rule row. -/
def putRule (s : Store) (row : RuleRow) : Store :=
  { s with
    rules := update s.rules row.rule.key (row :: s.rules row.rule.key)
    keyed := by
      intro key other hother
      by_cases hkey : key = row.rule.key
      · subst hkey
        rw [update_self, List.mem_cons] at hother
        rcases hother with rfl | hold
        · rfl
        · exact s.keyed _ _ hold
      · rw [update_of_ne hkey] at hother
        exact s.keyed _ _ hother }

/-- Change a rule row in place, if it exists. -/
def modifyRule (s : Store) (key : RuleKey) (change : RuleRow → RuleRow) : Store :=
  match s.rule key with
  | some row => s.putRule (change row)
  | none => s

/-- Write a state. -/
def putState (s : Store) (key : RuleKey) (row : StateRow) : Store :=
  { s with states := update s.states key (some row) }

/-- Write an event. -/
def putEvent (s : Store) (key : EventKey) (row : EventRow) : Store :=
  { s with events := update s.events key (some row) }

/-- Change an event. -/
def modifyEvent (s : Store) (key : EventKey) (change : EventRow → EventRow) : Store :=
  match s.events key with
  | some row => s.putEvent key (change row)
  | none => s

/-- Write a transition. -/
def putTransition (s : Store) (key : TransitionKey) (row : TransitionRow) : Store :=
  { s with transitions := update s.transitions key (some row) }

/-- Write an outbox row. -/
def putOutbox (s : Store) (key : String × OutboxId) (row : OutboxRow) : Store :=
  { s with outboxes := update s.outboxes key (some row) }

/-- Write a receipt. -/
def putReceipt (s : Store) (key : String × String) (row : IdempotencyRow) : Store :=
  { s with receipts := update s.receipts key (row :: s.receipts key) }

/-- A rule row is under its key. -/
theorem rule_key {s : Store} {key : RuleKey} {row : RuleRow} (h : s.rule key = some row) :
    row.rule.key = key :=
  s.keyed key row (Versions.mem_of_current h)

/-- Only rule rows matter. -/
theorem rule_congr {s t : Store} (h : t.rules = s.rules) : t.rule = s.rule := by
  funext key
  rw [rule, rule, h]

/-! ### What a write leaves alone -/

section

variable (s : Store) (key : RuleKey) (event : EventKey) (transition : TransitionKey)
  (receipt : String × String) (rule : RuleRow) (state : StateRow) (incident : EventRow)
  (transitionRow : TransitionRow) (receiptRow : IdempotencyRow)

@[simp] theorem putRule_states : (s.putRule rule).states = s.states := rfl
@[simp] theorem putRule_events : (s.putRule rule).events = s.events := rfl
@[simp] theorem putState_rules : (s.putState key state).rules = s.rules := rfl
@[simp] theorem putState_events : (s.putState key state).events = s.events := rfl
@[simp] theorem putState_states :
    (s.putState key state).states = update s.states key (some state) := rfl
@[simp] theorem putEvent_rules : (s.putEvent event incident).rules = s.rules := rfl
@[simp] theorem putEvent_states : (s.putEvent event incident).states = s.states := rfl
@[simp] theorem putEvent_events :
    (s.putEvent event incident).events = update s.events event (some incident) := rfl
@[simp] theorem putTransition_states :
    (s.putTransition transition transitionRow).states = s.states := rfl
@[simp] theorem putTransition_events :
    (s.putTransition transition transitionRow).events = s.events := rfl
@[simp] theorem putReceipt_rules : (s.putReceipt receipt receiptRow).rules = s.rules := rfl
@[simp] theorem putReceipt_states : (s.putReceipt receipt receiptRow).states = s.states := rfl
@[simp] theorem putReceipt_events : (s.putReceipt receipt receiptRow).events = s.events := rfl

end

/-- A rule change leaves the other tables. -/
@[simp]
theorem modifyRule_same (s : Store) (key : RuleKey) (change : RuleRow → RuleRow) :
    (s.modifyRule key change).states = s.states ∧ (s.modifyRule key change).events = s.events ∧
      (s.modifyRule key change).receipts = s.receipts ∧
      (s.modifyRule key change).outboxes = s.outboxes ∧
      (s.modifyRule key change).transitions = s.transitions := by
  unfold modifyRule
  split <;> exact ⟨rfl, rfl, rfl, rfl, rfl⟩

@[simp]
theorem modifyEvent_same (s : Store) (key : EventKey) (change : EventRow → EventRow) :
    (s.modifyEvent key change).rules = s.rules ∧ (s.modifyEvent key change).states = s.states ∧
      (s.modifyEvent key change).receipts = s.receipts ∧
      (s.modifyEvent key change).outboxes = s.outboxes ∧
      (s.modifyEvent key change).transitions = s.transitions := by
  unfold modifyEvent
  split <;> exact ⟨rfl, rfl, rfl, rfl, rfl⟩

/-- The events after a change. -/
theorem modifyEvent_events (s : Store) (key : EventKey) (change : EventRow → EventRow) :
    (s.modifyEvent key change).events = update s.events key ((s.events key).map change) := by
  unfold modifyEvent
  split
  next row hrow => rw [putEvent_events, hrow, Option.map_some]
  next hnone => rw [hnone, Option.map_none, ← hnone, update_eq_self]

/-- The histories after a write. -/
theorem putRule_rules (s : Store) (row : RuleRow) (key : RuleKey) :
    (s.putRule row).rules key = if key = row.rule.key then row :: s.rules key else s.rules key := by
  by_cases hkey : key = row.rule.key
  · subst hkey
    simp [putRule]
  · simp [putRule, hkey]

/-- The rules after a write. -/
theorem rule_putRule (s : Store) (row : RuleRow) (key : RuleKey) :
    (s.putRule row).rule key = if key = row.rule.key then some row else s.rule key := by
  unfold rule
  rw [putRule_rules]
  split <;> rfl

/-- Histories keep their rows. -/
theorem mem_putRule_rules {s : Store} {new row : RuleRow} {key : RuleKey} (h : row ∈ s.rules key) :
    row ∈ (s.putRule new).rules key := by
  rw [putRule_rules]
  split
  · exact List.mem_cons_of_mem _ h
  · exact h

end Store

end LimnoPulse.Alerts
