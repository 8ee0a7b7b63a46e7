import LimnoPulse.Library.CivilTime
import LimnoPulse.Library.Sha256

/-!
# Alert rules and their evaluation schedule

The alert rule of the API domain, the partial update a PATCH carries, and the
schedule attributes that place a rule in the due index of the evaluator.

Main results:

- Theorem `AlertRule.semantics_apply_of_not_semanticChange`: an update that
  is no semantic change leaves every evaluation field as it was.
-/

namespace LimnoPulse.Alerts

open CivilTime

/-! ## The domain of a rule -/

/-- What is measured. -/
inductive AlertMetric where
  | tempC
  | ph
  | doMgL
  | turbidityNtu
  | salinityPpt
  | batteryV
  | rssi
deriving DecidableEq

/-- How it is compared. -/
inductive AlertOperator where
  | lessThan
  | lessThanOrEqual
  | greaterThan
  | greaterThanOrEqual
deriving DecidableEq

/-- How a window is summarised. -/
inductive AlertAggregation where
  | min
  | max
  | mean
  | last
deriving DecidableEq

/-- How severe an alert is. -/
inductive AlertSeverity where
  | warning
  | critical
deriving DecidableEq

/-- How users are told. -/
inductive AlertChannel where
  | email
  | telegram
deriving DecidableEq

/-- The unit letter of a duration. -/
inductive DurationUnit where
  | s
  | m
  | h
deriving DecidableEq

/-- The seconds of a unit. -/
def DurationUnit.seconds : DurationUnit → Nat
  | .s => 1
  | .m => 60
  | .h => 3600

/-- A positive amount without leading zeros and a unit letter, from a minute to a day. -/
structure AlertDuration where
  amount : Nat
  unit : DurationUnit
  bounds : 60 ≤ amount * unit.seconds ∧ amount * unit.seconds ≤ 86400
deriving DecidableEq

/-- The length of a duration. -/
def AlertDuration.nanoseconds (d : AlertDuration) : Int :=
  (d.amount * d.unit.seconds : Nat) * second

/-- The channels of a rule: at least one, none twice. -/
structure AlertChannels where
  channels : List AlertChannel
  nonempty : channels ≠ []
  unique : channels.Nodup
deriving DecidableEq

/-- The pause between two notifications: a minute to a day. -/
structure CooldownSeconds where
  seconds : Nat
  bounds : 60 ≤ seconds ∧ seconds ≤ 86400
deriving DecidableEq

/-- Whether a rule was replaced. -/
inductive RuleStatus where
  | active
  | replaced
deriving DecidableEq

/-- An alert rule; a finite threshold is a rational. -/
structure AlertRule where
  (tenantId ruleId pondId : String)
  deviceId : Option String
  metric : AlertMetric
  name : String
  operator : AlertOperator
  threshold : Rat
  aggregation : AlertAggregation
  (window duration : AlertDuration)
  severity : AlertSeverity
  channels : AlertChannels
  cooldownSeconds : CooldownSeconds
  enabled : Bool
  (replacesRuleId replacedByRuleId : Option String)
  evaluationRevision : Nat
  (createdAt updatedAt : Instant)
  (version schemaVersion : Nat)
  status : RuleStatus
deriving DecidableEq

/-- The storage key of a rule. -/
structure RuleKey where
  (tenantId ruleId : String)
deriving DecidableEq

/-- An enabled rule, for the runs below. -/
def sampleRule : AlertRule :=
  { tenantId := "t"
    ruleId := "r"
    pondId := "p"
    deviceId := none
    metric := .tempC
    name := "warm"
    operator := .greaterThan
    threshold := 30
    aggregation := .mean
    window := ⟨5, .m, by decide⟩
    duration := ⟨5, .m, by decide⟩
    severity := .warning
    channels := ⟨[.email], by decide, by decide⟩
    cooldownSeconds := ⟨300, by decide⟩
    enabled := true
    replacesRuleId := none
    replacedByRuleId := none
    evaluationRevision := 1
    createdAt := 0
    updatedAt := 0
    version := 1
    schemaVersion := 1
    status := .active }

/-- The key of a rule. -/
def AlertRule.key (rule : AlertRule) : RuleKey := ⟨rule.tenantId, rule.ruleId⟩

/-! ## Partial updates -/

/-- The mutable fields of a PATCH, if present. -/
structure AlertRuleUpdates where
  name : Option String := none
  operator : Option AlertOperator := none
  threshold : Option Rat := none
  aggregation : Option AlertAggregation := none
  window : Option AlertDuration := none
  duration : Option AlertDuration := none
  severity : Option AlertSeverity := none
  channels : Option AlertChannels := none
  cooldownSeconds : Option CooldownSeconds := none
  enabled : Option Bool := none
deriving DecidableEq

/-- The fields in `EVALUATION_SEMANTIC_FIELDS`. -/
structure EvaluationSemantics where
  operator : AlertOperator
  threshold : Rat
  aggregation : AlertAggregation
  (window duration : AlertDuration)
  enabled : Bool
deriving DecidableEq

/-- The fields of its meaning. -/
def AlertRule.semantics (rule : AlertRule) : EvaluationSemantics :=
  { operator := rule.operator
    threshold := rule.threshold
    aggregation := rule.aggregation
    window := rule.window
    duration := rule.duration
    enabled := rule.enabled }

/-- The update names the field with another value. -/
def differs {α : Type} [DecidableEq α] (update : Option α) (old : α) : Bool :=
  match update with
  | none => false
  | some new => new ≠ old

/-- Some evaluation field gets another value. -/
def semanticChange (existing : AlertRule) (updates : AlertRuleUpdates) : Bool :=
  differs updates.operator existing.operator
    || differs updates.threshold existing.threshold
    || differs updates.aggregation existing.aggregation
    || differs updates.window existing.window
    || differs updates.duration existing.duration
    || differs updates.enabled existing.enabled

/-- Overwrite the fields the update names. -/
def AlertRule.apply (rule : AlertRule) (updates : AlertRuleUpdates) : AlertRule :=
  { rule with
    name := updates.name.getD rule.name
    operator := updates.operator.getD rule.operator
    threshold := updates.threshold.getD rule.threshold
    aggregation := updates.aggregation.getD rule.aggregation
    window := updates.window.getD rule.window
    duration := updates.duration.getD rule.duration
    severity := updates.severity.getD rule.severity
    channels := updates.channels.getD rule.channels
    cooldownSeconds := updates.cooldownSeconds.getD rule.cooldownSeconds
    enabled := updates.enabled.getD rule.enabled }

/-- An update to the same value. -/
theorem getD_of_not_differs {α : Type} [DecidableEq α] {update : Option α} {old : α}
    (h : differs update old = false) : update.getD old = old := by
  cases update with
  | none => rfl
  | some => simpa [differs] using h

/-- An update without a semantic change keeps the meaning. -/
theorem AlertRule.semantics_apply_of_not_semanticChange {rule : AlertRule}
    {updates : AlertRuleUpdates} (h : semanticChange rule updates = false) :
    (rule.apply updates).semantics = rule.semantics := by
  simp only [semanticChange, Bool.or_eq_false_iff] at h
  obtain ⟨⟨⟨⟨⟨hoperator, hthreshold⟩, haggregation⟩, hwindow⟩, hduration⟩, henabled⟩ := h
  simp only [AlertRule.semantics, AlertRule.apply, getD_of_not_differs hoperator,
    getD_of_not_differs hthreshold, getD_of_not_differs haggregation,
    getD_of_not_differs hwindow, getD_of_not_differs hduration, getD_of_not_differs henabled]

/-- Evaluation fields depend on evaluation fields only. -/
theorem AlertRule.semantics_apply_congr {rule other : AlertRule} (updates : AlertRuleUpdates)
    (h : rule.semantics = other.semantics) :
    (rule.apply updates).semantics = (other.apply updates).semantics := by
  simp only [AlertRule.semantics, EvaluationSemantics.mk.injEq] at h
  obtain ⟨hoperator, hthreshold, haggregation, hwindow, hduration, henabled⟩ := h
  simp only [AlertRule.semantics, AlertRule.apply, hoperator, hthreshold, haggregation, hwindow,
    hduration, henabled]

/-! ## The evaluation schedule -/

/-- The partitions of the due index. -/
def evaluationBucketCount : Nat := 64

/-- The partition: eight digest bytes, reduced. -/
def evaluationBucket (tenantId ruleId : String) : Nat :=
  let digest := Sha256.digest (tenantId ++ "\x00" ++ ruleId).toUTF8.toList
  (digest.take 8).foldl (fun n b => 256 * n + b.toNat) 0 % evaluationBucketCount

/-- The evaluation cadence in seconds. -/
def evaluationCadence : Int := 60

/-- The default allowed lateness in seconds. -/
def defaultAllowedLateness : Int := 15

/-- The first slot from an instant, in whole seconds. -/
def nextCompleteSlot (value : Instant) : Instant :=
  let shifted := value.tdiv second + defaultAllowedLateness
  let boundary := (shifted + evaluationCadence - 1) / evaluationCadence * evaluationCadence
  (boundary - defaultAllowedLateness) * second

/-- The key text: microseconds and three zeros. -/
def fixedUtcTimestamp (value : Instant) : String :=
  nanosecondText (1000 * (value / 1000))

/-- The attributes that place a rule in the due index. -/
structure EvaluationSchedule where
  evaluationBucket : Nat
  nextEvaluationAt : Instant
  (gsi1pk gsi1sk : String)
deriving DecidableEq

/-- The due-index partition of a bucket. -/
def evaluationPartition (bucket : Nat) : String :=
  "ALERT_EVALUATION#V1#BUCKET#" ++ padded 2 bucket

/-- `alert_evaluation_schedule`. -/
def alertEvaluationSchedule (tenantId ruleId : String) (scheduledAt : Instant) :
    EvaluationSchedule :=
  let bucket := evaluationBucket tenantId ruleId
  let dueAt := nextCompleteSlot scheduledAt
  { evaluationBucket := bucket
    nextEvaluationAt := dueAt
    gsi1pk := evaluationPartition bucket
    gsi1sk := fixedUtcTimestamp dueAt ++ ("#TENANT#" ++ tenantId ++ "#RULE#" ++ ruleId) }

/-- Slots are whole microseconds. -/
theorem nextCompleteSlot_dvd (value : Instant) : (1000 : Int) ∣ nextCompleteSlot value := by
  have hsecond : (1000 : Int) ∣ second := by decide
  exact Int.dvd_trans hsecond (Int.dvd_mul_left _ _)

/-- Both languages print such an instant alike. -/
theorem fixedUtcTimestamp_of_dvd {value : Instant} (h : (1000 : Int) ∣ value) :
    fixedUtcTimestamp value = nanosecondText value := by
  rw [fixedUtcTimestamp, Int.mul_ediv_cancel' h]

end LimnoPulse.Alerts
