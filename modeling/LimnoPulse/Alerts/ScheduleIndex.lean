import LimnoPulse.Alerts.TransactionEffects
import Mathlib.Data.Prod.Lex
import Mathlib.Order.WithBot

/-!
# The due index of the alert rules

The evaluator finds the rules to evaluate through a sparse index on `GSI1PK` and
`GSI1SK`: an enabled active rule carries its schedule attributes, no other rule the
index keys.  An update decides about the schedule from the rule it read first, while its
transaction checks no more than the stored version and status.

Main results:

- Theorem `UpdateRule.change_indexConsistent_iff`: when an update keeps a
  row consistent.
- Theorem `scheduleIndexed_always_iff`: the index is consistent throughout
  a run exactly when every committing update saw the stored flag.
- Theorem `commit_fenced`: the commits of a rule carry growing leases.
-/

namespace LimnoPulse.Alerts

open CivilTime StoreProgram Evaluator

variable {request : UpdateRule} {s t : Store}

/-! ## Consistent rows -/

/-- All schedule attributes are there, and the key starts with the due time. -/
def RuleRow.Scheduled (row : RuleRow) : Prop :=
  row.evaluationBucket.isSome ∧ row.gsi1pk.isSome ∧
    ∃ due rest, row.nextEvaluationAt = some due ∧ row.gsi1sk = some (nanosecondText due ++ rest)

/-- The row carries no index key. -/
def RuleRow.Unindexed (row : RuleRow) : Prop := row.gsi1pk = none ∧ row.gsi1sk = none

/-- Enabled active rules are scheduled, others unindexed. -/
def RuleRow.IndexConsistent (row : RuleRow) : Prop :=
  if row.rule.enabled = true ∧ row.rule.status = .active then row.Scheduled else row.Unindexed

/-- Every stored rule row is consistent with the due index. -/
def ScheduleIndexed (s : Store) : Prop :=
  ∀ key row, s.rule key = some row → row.IndexConsistent

/-- Scheduled rows are indexed. -/
theorem RuleRow.Scheduled.not_unindexed {row : RuleRow} (h : row.Scheduled) : ¬ row.Unindexed := by
  rintro ⟨hpartition, -⟩
  have hsome := h.2.1
  simp [hpartition] at hsome

/-- A schedule that was set. -/
theorem RuleRow.scheduled_setSchedule (row : RuleRow) (tenantId ruleId : String) (now : Instant) :
    (row.setSchedule (alertEvaluationSchedule tenantId ruleId now)).Scheduled := by
  refine ⟨rfl, rfl, nextCompleteSlot now, "#TENANT#" ++ tenantId ++ "#RULE#" ++ ruleId, rfl, ?_⟩
  rw [← fixedUtcTimestamp_of_dvd (nextCompleteSlot_dvd now)]
  rfl

/-- New rules are consistent. -/
theorem indexConsistent_ruleToItem (rule : AlertRule) : (ruleToItem rule).IndexConsistent := by
  unfold RuleRow.IndexConsistent
  rw [ruleToItem_rule]
  unfold ruleToItem
  by_cases h : rule.enabled = true ∧ rule.status = .active
  · simp only [h, and_self, if_true, decide_true, Bool.and_self]
    exact RuleRow.scheduled_setSchedule _ _ _ _
  · have hflag : ¬ (rule.enabled && decide (rule.status = .active)) = true := by simpa using h
    rw [if_neg h, if_neg hflag]
    exact ⟨rfl, rfl⟩

/-- A lease keeps consistency. -/
theorem RuleRow.IndexConsistent.lease {row : RuleRow} (h : row.IndexConsistent)
    (lease : LeaseRequest) : (row.lease lease).IndexConsistent :=
  h

theorem RuleRow.IndexConsistent.advance {row : RuleRow} (h : row.IndexConsistent)
    (henabled : row.rule.enabled = true) (hstat : row.rule.status = .active)
    (request : CommitRequest) : (request.advance row).IndexConsistent := by
  have hscheduled : row.Scheduled := by simpa [IndexConsistent, henabled, hstat] using h
  have hrule : (request.advance row).rule = row.rule := rfl
  rw [IndexConsistent, hrule, if_pos ⟨henabled, hstat⟩]
  exact ⟨hscheduled.1, hscheduled.2.1, request.nextDue, _, rfl, rfl⟩

theorem ReplaceRule.change_indexConsistent (request : ReplaceRule) (row : RuleRow) :
    (request.change row).IndexConsistent := by
  rw [RuleRow.IndexConsistent, if_neg (by simp [ReplaceRule.change, RuleRow.removeSchedule])]
  exact ⟨rfl, rfl⟩

/-- The update changes the schedule without naming the flag, or names the flag and leaves the
schedule. -/
def UpdateRule.restsOnFlag (request : UpdateRule) : Bool :=
  request.semanticChange != request.updates.enabled.isSome

/-- The flag by which the schedule is treated. -/
def UpdateRule.scheduleFlag (request : UpdateRule) (row : RuleRow) : Bool :=
  if request.semanticChange then request.updates.enabled.getD request.existing.enabled
  else row.rule.enabled

/-- The row is scheduled as the flag says. -/
theorem UpdateRule.change_scheduled (request : UpdateRule) {row : RuleRow}
    (hrow : row.IndexConsistent) (hstat : row.rule.status = .active) :
    if request.scheduleFlag row = true then (request.change row).Scheduled
    else (request.change row).Unindexed := by
  have hupdated : request.updated.enabled =
      request.updates.enabled.getD request.existing.enabled := rfl
  unfold UpdateRule.scheduleFlag
  by_cases hsem : request.semanticChange = true
  · by_cases henabled : request.updated.enabled = true
    · have hchange : request.change row = ((request.merge row).setSchedule
          (alertEvaluationSchedule request.tenantId request.ruleId request.now)).removeLease := by
        simp [UpdateRule.change, hsem, henabled]
      rw [if_pos hsem, ← hupdated, if_pos henabled, hchange]
      exact RuleRow.scheduled_setSchedule (request.merge row) _ _ _
    · have hchange : request.change row = (request.merge row).removeSchedule := by
        simp [UpdateRule.change, hsem, henabled]
      rw [if_pos hsem, ← hupdated, if_neg henabled, hchange]
      exact ⟨rfl, rfl⟩
  · have hchange : request.change row = request.merge row := by
      simp [UpdateRule.change, hsem]
    rw [if_neg hsem, hchange]
    simp only [RuleRow.IndexConsistent, hstat, and_true] at hrow
    exact hrow

/-- The flag is part of the meaning. -/
theorem UpdateRule.enabled_of_not_semanticChange
    (h : request.semanticChange = false) {flag : Bool} (hflag : request.updates.enabled = some flag) :
    flag = request.existing.enabled := by
  simp only [UpdateRule.semanticChange, Alerts.semanticChange, Bool.or_eq_false_iff] at h
  simpa [differs, hflag] using h.2

/-- This is the stored flag exactly when the read was right where it matters. -/
theorem UpdateRule.scheduleFlag_eq_iff (request : UpdateRule) (row : RuleRow) :
    request.scheduleFlag row = request.updates.enabled.getD row.rule.enabled ↔
      (request.restsOnFlag = true → request.existing.enabled = row.rule.enabled) := by
  unfold UpdateRule.scheduleFlag UpdateRule.restsOnFlag
  rcases hsem : request.semanticChange with _ | _ <;>
    rcases hflag : request.updates.enabled with _ | flag
  · simp
  · rw [enabled_of_not_semanticChange hsem hflag]
    simp [eq_comm]
  · simp
  · simp

/-- An update keeps a row consistent exactly when it read the stored flag where it matters. -/
theorem UpdateRule.change_indexConsistent_iff {row : RuleRow}
    (hrow : row.IndexConsistent) (hstat : row.rule.status = .active) :
    (request.change row).IndexConsistent ↔
      (request.restsOnFlag = true → request.existing.enabled = row.rule.enabled) := by
  rw [← UpdateRule.scheduleFlag_eq_iff]
  have hstored : (request.change row).rule.enabled = request.updates.enabled.getD row.rule.enabled := by
    rw [UpdateRule.change_rule]
    rfl
  have hact : (request.change row).rule.status = .active := by
    rw [UpdateRule.change_rule]
    exact hstat
  have hscheduled := request.change_scheduled hrow hstat
  simp only [RuleRow.IndexConsistent, hact, and_true, hstored]
  generalize request.updates.enabled.getD row.rule.enabled = stored
  cases hflag : request.scheduleFlag row <;> cases stored <;>
    simp only [hflag, if_true, Bool.false_eq_true, if_false] at hscheduled <;>
    simp [hscheduled]
  · exact fun h => h.not_unindexed hscheduled
  · exact hscheduled.not_unindexed

/-- Only rules matter. -/
theorem scheduleIndexed_congr (h : t.rules = s.rules) : ScheduleIndexed t ↔ ScheduleIndexed s := by
  rw [ScheduleIndexed, ScheduleIndexed, Store.rule_congr h]

/-- A write keeps the index exactly when its row is consistent. -/
theorem scheduleIndexed_putRule (hs : ScheduleIndexed s) (row : RuleRow) :
    ScheduleIndexed (s.putRule row) ↔ row.IndexConsistent := by
  constructor
  · intro h
    exact h row.rule.key row (by rw [Store.rule_putRule, if_pos rfl])
  · intro hrow key other hother
    rw [Store.rule_putRule] at hother
    split at hother
    · cases hother
      exact hrow
    · exact hs key other hother

/-- A committing update read the stored flag, if it rests on it. -/
def ReadsStoredFlag (op : Op) (choice : Choice) (s : Store) : Prop :=
  ∀ request row, op = .transact (.updateRule request) → choice.fault ≠ .requestLost →
    (Transaction.updateRule request).write s ≠ none → s.rule request.key = some row →
    request.restsOnFlag = true → request.existing.enabled = row.rule.enabled

/-- A transaction keeps the index exactly when it read the stored flag. -/
theorem Transaction.write_scheduleIndexed_iff {transaction : Transaction} {choice : Choice}
    (hs : ScheduleIndexed s) (hfault : choice.fault ≠ .requestLost)
    (h : transaction.write s = some t) :
    ScheduleIndexed t ↔ ReadsStoredFlag (.transact transaction) choice s := by
  have hother : (∀ request, transaction ≠ .updateRule request) →
      ReadsStoredFlag (.transact transaction) choice s := by
    intro hkind request row hop
    exact absurd (Op.transact.inj hop) (hkind request)
  cases transaction with
  | createRule rule =>
    obtain ⟨-, rfl⟩ := createRule_write_rules h
    rw [scheduleIndexed_putRule hs]
    exact iff_of_true (indexConsistent_ruleToItem rule) (hother (by simp))
  | updateRule request =>
    obtain ⟨row, hrow, -, hstat, hrules⟩ := UpdateRule.write_rules h
    rw [scheduleIndexed_congr hrules, scheduleIndexed_putRule hs,
      UpdateRule.change_indexConsistent_iff (hs _ _ hrow) hstat]
    constructor
    · rintro hread _ other ⟨⟩ - - hother'
      rw [hrow] at hother'
      cases hother'
      exact hread
    · intro hread
      exact hread request row rfl hfault (by simp [h]) hrow
  | replaceRule request =>
    obtain ⟨row, -, -, -, -, hrules⟩ := ReplaceRule.write_rules h
    have hchanged : ScheduleIndexed (s.putRule (request.change row)) :=
      (scheduleIndexed_putRule hs _).mpr (request.change_indexConsistent row)
    rw [scheduleIndexed_congr hrules, scheduleIndexed_putRule hchanged]
    exact iff_of_true (indexConsistent_ruleToItem _) (hother (by simp))
  | acknowledgeEvent request | resolveEvent request stateOperation =>
    rw [scheduleIndexed_congr (Transaction.write_rules_eq h (by simp))]
    exact iff_of_true hs (hother (by simp))
  | commit request =>
    obtain ⟨row, hrow, -, -, henabled, hstat, hrules⟩ := CommitRequest.write_rules h
    rw [scheduleIndexed_congr hrules, scheduleIndexed_putRule hs]
    exact iff_of_true ((hs _ _ hrow).advance henabled hstat request) (hother (by simp))

/-- An operation keeps the index exactly under the condition. -/
theorem exec_scheduleIndexed_iff (op : Op) (choice : Choice) (s : Store) (reply : Reply op)
    (t : Store) (hs : ScheduleIndexed s) (h : exec op choice s = some (reply, t)) :
    ScheduleIndexed t ↔ ReadsStoredFlag op choice s := by
  rcases exec_cases h with ⟨rfl, hnone⟩ | ⟨key, lease, rfl, hclaim⟩ | ⟨transaction, rfl, hfault, hwrite⟩
  · refine iff_of_true hs ?_
    intro request row hop hfault hwrite
    rcases hnone _ hop with hlost | hrefused
    · exact absurd hlost hfault
    · exact absurd hrefused hwrite
  · obtain ⟨row, hrow, -, rfl⟩ := claimLease_eq_some hclaim
    rw [scheduleIndexed_putRule hs]
    refine iff_of_true ((hs _ _ hrow).lease lease) ?_
    intro request other hop
    cases hop
  · exact Transaction.write_scheduleIndexed_iff hs hfault hwrite

/-- The rows of a partition up to a key. -/
def Store.ListedAsDue (s : Store) (partition bound : String) (key : RuleKey) : Prop :=
  ∃ row sk, s.rule key = some row ∧ row.gsi1pk = some partition ∧ row.gsi1sk = some sk ∧ sk ≤ bound

/-- Enabled active rules are listed once the key reaches them. -/
def EnabledRulesVisible (s : Store) : Prop :=
  ∀ key row, s.rule key = some row → row.rule.enabled = true → row.rule.status = .active →
    ∃ partition sk, ∀ bound, sk ≤ bound → s.ListedAsDue partition bound key

/-- Indexed rules are visible. -/
theorem ScheduleIndexed.visible (h : ScheduleIndexed s) : EnabledRulesVisible s := by
  intro key row hrow henabled hstat
  have hconsistent := h key row hrow
  rw [RuleRow.IndexConsistent, if_pos ⟨henabled, hstat⟩] at hconsistent
  obtain ⟨-, hpartition, due, rest, -, hsk⟩ := hconsistent
  obtain ⟨partition, hpk⟩ := Option.isSome_iff_exists.mp hpartition
  exact ⟨partition, _, fun bound hbound => ⟨row, _, hrow, hpk, hsk, hbound⟩⟩

/-- In every run from a consistent store, the due index stays consistent, and lists every enabled
active rule, exactly as long as the committing updates read the stored enabled flag. -/
theorem scheduleIndexed_always_iff (s : Store) (hs : ScheduleIndexed s)
    (schedule : List (Action Choice Call)) (w : World Store Call Result Op Reply)
    (hrun : machine.run (Machine.initial s) schedule = some w) :
    machine.Always (fun t => ScheduleIndexed t ∧ EnabledRulesVisible t) (Machine.initial s) schedule ↔
      machine.Guarded ReadsStoredFlag (Machine.initial s) schedule := by
  have hboth : (fun t => ScheduleIndexed t ∧ EnabledRulesVisible t) = ScheduleIndexed := by
    funext t
    exact propext ⟨And.left, fun h => ⟨h, h.visible⟩⟩
  rw [hboth]
  exact Machine.always_iff_guarded exec_scheduleIndexed_iff schedule _ w hs hrun

/-! ### A lost schedule

Two updates read version 1 of an enabled rule.  The first disables the rule; the
second, sent for version 2, asks for an enabled rule and sees no change to make. -/

namespace LostSchedule

/-- The row of the enabled rule, due at the epoch. -/
def row : RuleRow :=
  { rule := sampleRule
    evaluationBucket := some 0
    nextEvaluationAt := some 0
    gsi1pk := some (evaluationPartition 0)
    gsi1sk := some (nanosecondText 0 ++ "#TENANT#t#RULE#r") }

/-- One rule. -/
def store : Store := Store.empty.putRule row

/-- An update of the enabled flag. -/
def setEnabled (flag : Bool) (expectedVersion : Nat) : Call :=
  .updateRule
    { tenantId := "t"
      ruleId := "r"
      expectedVersion := expectedVersion
      updates := { enabled := some flag }
      audit := ⟨"admin", "transition"⟩
      now := 60 * second }

/-- Both updates read, the first commits, then the second. -/
def schedule : List (Action Choice Call) :=
  [.start (setEnabled false 1), .start (setEnabled true 2), .step 0 {}, .step 1 {},
    .step 0 {}, .step 0 {}, .step 1 {}]

/-- The first update alone. -/
def disable : List (Action Choice Call) :=
  [.start (setEnabled false 1), .step 0 {}, .step 0 {}, .step 0 {}]

/-- It is indexed. -/
theorem scheduleIndexed_store : ScheduleIndexed store := by
  have hempty : ScheduleIndexed Store.empty := by
    intro key other hother
    cases hother
  refine (scheduleIndexed_putRule hempty row).mpr ?_
  rw [RuleRow.IndexConsistent, if_pos ⟨rfl, rfl⟩]
  exact ⟨rfl, rfl, 0, _, rfl, rfl⟩

end LostSchedule

/-- An enabled active rule ends outside the due index. -/
theorem scheduleIndexed_lost_by_stale_update :
    ScheduleIndexed LostSchedule.store ∧
      ∃ w row, machine.run (Machine.initial LostSchedule.store) LostSchedule.schedule = some w ∧
        w.store.rule ⟨"t", "r"⟩ = some row ∧ row.rule.enabled = true ∧
        row.rule.status = .active ∧ row.gsi1pk = none ∧ row.gsi1sk = none ∧
        ¬ ScheduleIndexed w.store := by
  refine ⟨LostSchedule.scheduleIndexed_store, _, _, rfl, rfl, rfl, rfl, rfl, rfl, ?_⟩
  intro h
  have hrow := h ⟨"t", "r"⟩ _ rfl
  rw [RuleRow.IndexConsistent, if_pos ⟨rfl, rfl⟩] at hrow
  exact hrow.not_unindexed ⟨rfl, rfl⟩

/-- The equivalence at the run of one update that disables the rule. -/
theorem scheduleIndexed_always_iff_disable :
    machine.Always (fun t => ScheduleIndexed t ∧ EnabledRulesVisible t)
        (Machine.initial LostSchedule.store) LostSchedule.disable ↔
      machine.Guarded ReadsStoredFlag (Machine.initial LostSchedule.store) LostSchedule.disable :=
  scheduleIndexed_always_iff LostSchedule.store LostSchedule.scheduleIndexed_store _ _ rfl

/-! ## Leases as fences

Claims count on from an epoch, and an update that removes it raises the version. -/

variable {row new : RuleRow} {key : RuleKey}

/-- A version, a lease epoch, and whether it was given back. -/
abbrev Fence := ℕ ×ₗ ℕ ×ₗ Bool

/-- Version and lease of a row. -/
def RuleRow.fence (row : RuleRow) : Fence :=
  toLex (row.rule.version, toLex (row.leaseEpoch.getD 0, row.leaseOwner.isNone))

/-- The held lease that a commit asks for. -/
def Work.fence (work : Work) : Fence :=
  toLex (work.rule.version, toLex (work.leaseEpoch, false))

namespace Store

/-- The fence of a rule. -/
def fence (s : Store) (key : RuleKey) : WithBot Fence :=
  (s.rule key).elim ⊥ fun row => row.fence

/-- Only rules matter. -/
theorem fence_congr (h : t.rules = s.rules) : t.fence = s.fence := by
  funext key
  rw [fence, rule_congr h, fence]

/-- The fence of its row. -/
theorem fence_of_rule (h : s.rule key = some row) : s.fence key = row.fence := by
  simp [fence, h]

/-- The fence after a write. -/
theorem fence_putRule : (s.putRule row).fence = Function.update s.fence row.rule.key row.fence := by
  funext key
  rw [fence, rule_putRule, Function.update_apply]
  split <;> rfl

/-- A change with a greater fence. -/
theorem fence_le_change (hrow : s.rule key = some row) (hkey : new.rule.key = row.rule.key)
    (hle : row.fence ≤ new.fence) : s.fence ≤ (s.putRule new).fence := by
  rw [fence_putRule, le_update_self_iff, hkey, rule_key hrow, fence_of_rule hrow]
  exact WithBot.coe_le_coe.mpr hle

end Store

/-- No operation lowers a fence. -/
theorem exec_fence_le {op : Op} {choice : Choice} {reply : Reply op}
    (h : exec op choice s = some (reply, t)) : s.fence ≤ t.fence := by
  rcases exec_cases h with ⟨rfl, -⟩ | ⟨key, lease, rfl, hclaim⟩ | ⟨transaction, rfl, -, hwrite⟩
  · exact le_rfl
  · obtain ⟨row, hrow, -, rfl⟩ := claimLease_eq_some hclaim
    refine Store.fence_le_change hrow rfl ?_
    simp [RuleRow.fence, RuleRow.lease, Prod.Lex.toLex_le_toLex]
  cases transaction with
  | createRule rule =>
    obtain ⟨hnone, rfl⟩ := createRule_write_rules hwrite
    rw [Store.fence_putRule, le_update_self_iff]
    simp [Store.fence, hnone]
  | updateRule request =>
    obtain ⟨row, hrow, hver, -, hrules⟩ := UpdateRule.write_rules hwrite
    rw [Store.fence_congr hrules]
    refine Store.fence_le_change hrow ?_ (Prod.Lex.toLex_le_toLex.mpr (.inl (hver.trans_lt ?_))) <;>
      rw [UpdateRule.change_rule]
    · rfl
    · exact Nat.lt_succ_self _
  | replaceRule request =>
    obtain ⟨row, hrow, hver, -, hnone, hrules⟩ := ReplaceRule.write_rules hwrite
    rw [Store.fence_congr hrules, Store.fence_putRule, le_update_iff]
    refine ⟨by simp [Store.fence, hnone], fun key _ => Store.fence_le_change hrow ?_ ?_ key⟩
    · rfl
    · exact Prod.Lex.toLex_le_toLex.mpr (.inl (hver.trans_lt (Nat.lt_succ_self _)))
  | acknowledgeEvent request | resolveEvent request stateOperation =>
    rw [Store.fence_congr (Transaction.write_rules_eq hwrite (by simp))]
  | commit request =>
    obtain ⟨row, hrow, -, -, -, -, hrules⟩ := CommitRequest.write_rules hwrite
    rw [Store.fence_congr hrules]
    refine Store.fence_le_change hrow rfl ?_
    simp [RuleRow.fence, CommitRequest.advance, RuleRow.removeLease, Prod.Lex.toLex_le_toLex]

/-- A commit carries a lease that no earlier fence of its rule is above, and leaves one above it: a
lease commits once at most, and not after a newer claim or an update. -/
theorem commit_fenced {w w' : World Store Call Result Op Reply} {request : CommitRequest}
    (as : List (Action Choice Call)) (hrun : machine.run w as = some w')
    (hcommit : (Transaction.commit request).write w'.store = some t) :
    w.store.fence request.work.key ≤ request.work.fence ∧
      request.work.fence < t.fence request.work.key := by
  have hle : w.store.fence ≤ w'.store.fence :=
    machine.run_keeps (I := fun u => w.store.fence ≤ u.fence)
      (fun _ _ _ _ _ hs h => hs.trans (exec_fence_le h)) le_rfl hrun
  obtain ⟨-, -, hrule, -, -, hrules, -⟩ := CommitRequest.write_cases hcommit
  obtain ⟨row, hrow, hcond⟩ := (Option.any_eq_true _ _).mp hrule
  simp only [Bool.and_eq_true, decide_eq_true_eq] at hcond
  obtain ⟨⟨⟨⟨⟨hver, -⟩, howner⟩, hepoch⟩, -⟩, -⟩ := hcond
  have hheld : row.fence = request.work.fence := by
    simp [RuleRow.fence, Work.fence, hver, howner, hepoch]
  have hback : t.rule request.work.key = some (request.advance row) := by
    rw [Store.rule_congr hrules, Store.modifyRule, hrow, Store.rule_putRule]
    exact if_pos (Store.rule_key hrow).symm
  rw [← hheld, Store.fence_of_rule hback, WithBot.coe_lt_coe, ← Store.fence_of_rule hrow]
  refine ⟨hle _, ?_⟩
  simp [RuleRow.fence, CommitRequest.advance, RuleRow.removeLease, Prod.Lex.toLex_lt_toLex, howner]

open LostSchedule

/-- An evaluation. -/
def LostSchedule.candidate : CandidateArguments :=
  ⟨⟨"t", "r"⟩, ⟨"worker", 0, minute, 0⟩, 0, none, false⟩

theorem commit_fenced_of_claim : ∃ w request t,
    machine.run (Machine.initial store) [.start (.processCandidate candidate), .step 0 {}] = some w ∧
      (Transaction.commit request).write w.store = some t ∧
      request.work.fence < t.fence request.work.key :=
  ⟨_, commitRequest candidate ⟨⟨"t", "r"⟩, sampleRule, 0, "worker", 1⟩ {}, _, rfl, rfl,
    (commit_fenced (w := Machine.initial store)
      [.start (.processCandidate candidate), .step 0 {}] rfl rfl).2⟩

end LimnoPulse.Alerts
