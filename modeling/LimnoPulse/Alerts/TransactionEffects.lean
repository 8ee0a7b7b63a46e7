import LimnoPulse.Alerts.Calls

/-!
# What a committed transaction does to the rows

Inversion lemmas for the transactions of the alert tables: which conditions held in
the store a committed transaction found, and what the rows are afterwards.

Main results:

- Theorems `UpdateRule.write_rules`, `ReplaceRule.write_rules` and
  `CommitRequest.write_rules`: the rule row found and the row written.
- Theorem `incidentEnd_of_conditions`: how a change of a rule's meaning ends its incident.
- Theorem `CommitRequest.write_events`: what a commit does to the event rows.
-/

namespace LimnoPulse.Alerts

open CivilTime StoreProgram Evaluator
open Function (update)

variable {item : StateRow} {now : Instant} {eventId : EventId} {rule : AlertRule}
  {stateItem : Option StateRow} {s t u : Store} {key : RuleKey} {request : CommitRequest}
  {transaction : Transaction} {new : StateRow} {audit : Administrator} {reason : String}

/-- A reset of a pending state. -/
theorem resetPendingEvaluatorState_eq_some (h : resetPendingEvaluatorState item now = some new) :
    item.state.mode = .pending ∧ new.state.mode = .healthy ∧
      new.stateRevision = item.stateRevision + 1 := by
  unfold resetPendingEvaluatorState at h
  split at h
  next => contradiction
  next hpend =>
    cases h
    exact ⟨not_not.mp hpend, rfl, rfl⟩

/-- A resolution of an active state. -/
theorem resolvedEvaluatorState_eq_some (h : resolvedEvaluatorState item eventId now = some new) :
    item.state.mode = .active ∧ item.state.activeEventId = some eventId ∧
      new.state.mode = .healthy ∧ new.stateRevision = item.stateRevision + 1 := by
  unfold resolvedEvaluatorState at h
  split at h
  next => contradiction
  next hact =>
    cases h
    simp only [ne_eq, Bool.or_eq_true, decide_eq_true_eq, not_or, not_not] at hact
    exact ⟨hact.1, hact.2, rfl, rfl⟩

/-- The event is not the active one. -/
theorem resolvedEvaluatorState_eq_none (h : resolvedEvaluatorState item eventId now = none)
    (hact : item.state.mode = .active) : item.state.activeEventId ≠ some eventId := by
  intro hinc
  simp [resolvedEvaluatorState, hact, hinc] at h

/-- Drop a confirmation, require an idle state, or resolve the incident. -/
theorem administrativeResolutionOperations_cases (rule : AlertRule) (item : StateRow)
    (audit : Administrator) (now : Instant) (reason : String) :
    (∃ new, resetPendingEvaluatorState item now = some new ∧
      administrativeResolutionOperations rule (some item) audit now reason =
        [statePut rule.key new item.stateRevision]) ∨
    (item.state.mode ≠ .pending ∧ (item.state.mode = .active → item.state.activeEventId = none) ∧
      administrativeResolutionOperations rule (some item) audit now reason =
        [stateSnapshotCondition rule.key (some item.stateRevision)]) ∨
    (∃ eventId new, resolvedEvaluatorState item eventId now = some new ∧
      administrativeResolutionOperations rule (some item) audit now reason =
        [administrativeEventUpdate ⟨rule.tenantId, eventId⟩ rule.evaluationRevision audit.actorId
            reason now,
          statePut rule.key new item.stateRevision,
          transitionPut ⟨⟨rule.tenantId, eventId⟩, now, audit.transitionId⟩
            ⟨rule.ruleId, "resolved", some reason, "user", some audit.actorId⟩]) := by
  simp only [administrativeResolutionOperations]
  by_cases hpend : item.state.mode = .pending
  · rcases hreset : resetPendingEvaluatorState item now with _ | new
    · simp [resetPendingEvaluatorState, hpend] at hreset
    · rw [if_pos hpend]
      exact .inl ⟨new, rfl, rfl⟩
  · rw [if_neg hpend]
    rcases hinc : item.state.activeEventId with _ | eventId
    · exact .inr (.inl ⟨hpend, fun _ => rfl, rfl⟩)
    · rcases hresolved : resolvedEvaluatorState item eventId now with _ | new
      · refine .inr (.inl ⟨hpend, ?_, by simp only [hresolved]⟩)
        intro hact
        exact absurd hinc (resolvedEvaluatorState_eq_none hresolved hact)
      · exact .inr (.inr ⟨eventId, new, hresolved, by simp only [hresolved]⟩)

/-! ## The tables that a transaction writes -/

/-- What an item can write. -/
inductive Written where
  | rules
  | states
  | events
  | suppressions
  | outboxes
  | receipts
deriving DecidableEq

/-- The tables of a transaction. -/
@[simp]
def Transaction.tables : Transaction → List Written
  | .createRule _ => [.rules]
  | .updateRule _ => [.rules, .states, .events]
  | .replaceRule _ => [.rules, .states, .events, .receipts]
  | .acknowledgeEvent _ => [.events]
  | .resolveEvent _ _ => [.states, .events]
  | .commit _ => [.rules, .states, .events, .suppressions, .outboxes]

/-- An item changes a row of one of the tables. -/
inductive ItemEffect (tables : List Written) : WriteItem Store → Prop where
  | unchanged {condition : Store → Bool} : ItemEffect tables ⟨condition, fun u => u⟩
  | putRule {condition : Store → Bool} (h : .rules ∈ tables) (row : RuleRow) :
      ItemEffect tables ⟨condition, fun u => u.putRule row⟩
  | modifyRule {condition : Store → Bool} (h : .rules ∈ tables) (key : RuleKey)
      (change : RuleRow → RuleRow) : ItemEffect tables ⟨condition, fun u => u.modifyRule key change⟩
  | putState {condition : Store → Bool} (h : .states ∈ tables) (key : RuleKey) (row : StateRow) :
      ItemEffect tables ⟨condition, fun u => u.putState key row⟩
  | putEvent {condition : Store → Bool} (h : .events ∈ tables) (key : EventKey) (row : EventRow) :
      ItemEffect tables ⟨condition, fun u => u.putEvent key row⟩
  | modifyEvent {condition : Store → Bool} (h : .events ∈ tables) (key : EventKey)
      (change : EventRow → EventRow) : ItemEffect tables ⟨condition, fun u => u.modifyEvent key change⟩
  | putTransition (key : TransitionKey) (row : TransitionRow)
      (h : row.transition = "suppressed" → .suppressions ∈ tables) :
      ItemEffect tables (transitionPut key row)
  | putOutbox {condition : Store → Bool} (h : .outboxes ∈ tables) (key : String × OutboxId)
      (row : OutboxRow) : ItemEffect tables ⟨condition, fun u => u.putOutbox key row⟩
  | putReceipt {condition : Store → Bool} (h : .receipts ∈ tables) (key : String × String)
      (row : IdempotencyRow) : ItemEffect tables ⟨condition, fun u => u.putReceipt key row⟩

section ItemEffect

variable {tables : List Written} {writeItem : WriteItem Store} {items : List (WriteItem Store)}

section

variable (h : ItemEffect tables writeItem)
include h

/-- Other items keep rules. -/
theorem ItemEffect.rules_eq (hnot : .rules ∉ tables) (u : Store) :
    (writeItem.effect u).rules = u.rules := by
  cases h with
  | putRule h | modifyRule h => exact absurd h hnot
  | modifyEvent => exact (u.modifyEvent_same _ _).1
  | _ => rfl

/-- Other items keep states. -/
theorem ItemEffect.states_eq (hnot : .states ∉ tables) (u : Store) :
    (writeItem.effect u).states = u.states := by
  cases h with
  | putState h => exact absurd h hnot
  | modifyRule => exact (u.modifyRule_same _ _).1
  | modifyEvent => exact (u.modifyEvent_same _ _).2.1
  | _ => rfl

/-- Other items keep events. -/
theorem ItemEffect.events_eq (hnot : .events ∉ tables) (u : Store) :
    (writeItem.effect u).events = u.events := by
  cases h with
  | putEvent h | modifyEvent h => exact absurd h hnot
  | modifyRule => exact (u.modifyRule_same _ _).2.1
  | _ => rfl

theorem ItemEffect.mono {tables' : List Written}
    (hsub : tables ⊆ tables') : ItemEffect tables' writeItem := by
  cases h with
  | unchanged => exact .unchanged
  | putRule h => exact .putRule (hsub h) _
  | modifyRule h => exact .modifyRule (hsub h) _ _
  | putState h => exact .putState (hsub h) _ _
  | putEvent h => exact .putEvent (hsub h) _ _
  | modifyEvent h => exact .modifyEvent (hsub h) _ _
  | putTransition key row h => exact .putTransition key row fun hname => hsub (h hname)
  | putOutbox h => exact .putOutbox (hsub h) _ _
  | putReceipt h => exact .putReceipt (hsub h) _ _

end

/-- The end of an incident writes states and events. -/
theorem administrativeResolutionOperations_effects :
    ∀ item ∈ administrativeResolutionOperations rule stateItem audit now reason,
      ItemEffect [.states, .events] item := by
  intro item hitem
  cases stateItem with
  | none =>
    cases List.mem_singleton.mp hitem
    exact .unchanged
  | some stateRow =>
    rcases administrativeResolutionOperations_cases rule stateRow audit now reason with
      ⟨new, -, hitems⟩ | ⟨-, -, hitems⟩ | ⟨eventId, new, -, hitems⟩
    all_goals
      rw [hitems] at hitem
      simp only [List.mem_cons, List.not_mem_nil, or_false] at hitem
    · subst hitem
      exact .putState (by decide) _ _
    · subst hitem
      exact .unchanged
    · rcases hitem with rfl | rfl | rfl
      · exact .modifyEvent (by decide) _ _
      · exact .putState (by decide) _ _
      · exact .putTransition _ _ (by simp)

/-- Event items write events and suppressions. -/
theorem CommitRequest.eventItems_effects (h : request.eventItems = some items)
    (hevents : .events ∈ tables)
    (hsupp : request.decision.transition = .suppressed → .suppressions ∈ tables) :
    ∀ item ∈ items, ItemEffect tables item := by
  have hput : ∀ item, request.eventPut = some item → ItemEffect tables item := by
    intro item hitem
    simp only [eventPut, Option.bind_eq_bind, Option.bind_eq_some_iff, Option.pure_def,
      Option.some.injEq] at hitem
    obtain ⟨value, -, eventId, -, status, -, rfl⟩ := hitem
    exact .putEvent hevents _ _
  intro item hmem
  unfold eventItems at h
  split at h <;>
    simp only [Option.bind_eq_bind, Option.bind_eq_some_iff, Option.pure_def,
      Option.some.injEq] at h
  case h_1 =>
    obtain ⟨eventId, -, event, hevent, rfl⟩ := h
    rcases List.mem_cons.mp hmem with rfl | hmem
    · exact hput _ hevent
    · cases List.mem_singleton.mp hmem
      exact .putTransition _ _ (by simp)
  case h_2 htrans =>
    obtain ⟨eventId, -, event, hevent, rfl⟩ := h
    rcases List.mem_cons.mp hmem with rfl | hmem
    · exact hput _ hevent
    · cases List.mem_singleton.mp hmem
      exact .putTransition _ _ fun _ => hsupp htrans
  case h_3 =>
    obtain ⟨eventId, -, event, hevent, rfl⟩ := h
    obtain ⟨value, -, rfl⟩ := Option.map_eq_some_iff.mp hevent
    rcases List.mem_cons.mp hmem with rfl | hmem
    · exact .modifyEvent hevents _ _
    · cases List.mem_singleton.mp hmem
      exact .putTransition _ _ (by simp)
  case h_4 =>
    split at h
    · simp only [Option.bind_eq_some_iff, Option.some.injEq] at h
      obtain ⟨eventId, -, rfl⟩ := h
      cases List.mem_singleton.mp hmem
      exact .modifyEvent hevents _ _
    · cases h
      cases hmem

/-- An outbox put writes outboxes. -/
theorem CommitRequest.outboxPut_effect {outbox : OutboxDecision} (houts : .outboxes ∈ tables)
    (h : request.outboxPut outbox = some writeItem) : ItemEffect tables writeItem := by
  obtain ⟨status, -, rfl⟩ := Option.map_eq_some_iff.mp h
  exact .putOutbox houts _ _

/-- A transaction writes nothing but its tables. -/
theorem Transaction.items_effects (hitems : transaction.items = some items) :
    ∀ item ∈ items, ItemEffect transaction.tables item := by
  intro item hitem
  cases transaction with
  | createRule =>
    cases hitems
    cases List.mem_singleton.mp hitem
    exact .putRule (by simp) _
  | updateRule =>
    cases hitems
    rcases List.mem_cons.mp hitem with rfl | hitem
    · exact .modifyRule (by simp) _ _
    · split at hitem
      · exact (administrativeResolutionOperations_effects item hitem).mono (by simp)
      · cases hitem
  | replaceRule =>
    cases hitems
    simp only [ReplaceRule.items, List.cons_append, List.mem_cons, List.mem_append,
      List.not_mem_nil, or_false] at hitem
    rcases hitem with rfl | hitem | rfl | rfl
    · exact .modifyRule (by simp) _ _
    · exact (administrativeResolutionOperations_effects item hitem).mono (by simp)
    · exact .putRule (by simp) _
    · exact .putReceipt (by simp) _ _
  | acknowledgeEvent =>
    cases hitems
    simp only [EventChange.acknowledgeItems, List.mem_cons, List.not_mem_nil, or_false] at hitem
    rcases hitem with rfl | rfl
    · exact .modifyEvent (by simp) _ _
    · exact .putTransition _ _ (by simp)
  | resolveEvent =>
    cases hitems
    simp only [EventChange.resolveItems, List.cons_append, List.mem_cons, List.mem_append,
      List.mem_map, List.not_mem_nil, or_false] at hitem
    rcases hitem with rfl | ⟨⟨row, revision⟩, -, rfl⟩ | rfl
    · exact .modifyEvent (by simp) _ _
    · exact .putState (by simp) _ _
    · exact .putTransition _ _ (by simp)
  | commit =>
    simp only [Transaction.items, CommitRequest.items, Option.bind_eq_bind,
      Option.bind_eq_some_iff, Option.pure_def, Option.some.injEq] at hitems
    obtain ⟨eventItems, hevents, outboxItems, houts, rfl⟩ := hitems
    simp only [List.cons_append, List.mem_cons, List.mem_append] at hitem
    rcases hitem with rfl | rfl | hitem | hitem
    · exact .modifyRule (by simp) _ _
    · exact .putState (by simp) _ _
    · exact CommitRequest.eventItems_effects hevents (by simp) (fun _ => by simp) item hitem
    · obtain ⟨outbox, -, hput⟩ := exists_of_mem_mapM houts item hitem
      exact CommitRequest.outboxPut_effect (by simp) hput

end ItemEffect

/-- What a transaction did, and the conditions it found. -/
theorem Transaction.write_eq_some (h : transaction.write s = some t) :
    ∃ items, transaction.items = some items ∧ (∀ item ∈ items, item.condition s = true) ∧
      t = items.foldl (fun u item => item.effect u) s := by
  obtain ⟨items, hitems, hwrite⟩ := Option.bind_eq_some_iff.mp h
  exact ⟨items, hitems, transactWrite_eq_some_iff.mp hwrite⟩

/-- Other transactions keep rules. -/
theorem Transaction.write_rules_eq (h : transaction.write s = some t)
    (hnot : .rules ∉ transaction.tables) : t.rules = s.rules := by
  obtain ⟨items, hitems, -, rfl⟩ := Transaction.write_eq_some h
  exact foldl_effect_frame Store.rules items s fun item hitem =>
    (Transaction.items_effects hitems item hitem).rules_eq hnot

/-- The row a conditioned update finds. -/
theorem conditionedRuleUpdate_condition {version : Nat} {change : RuleRow → RuleRow}
    (h : (conditionedRuleUpdate key version change).condition s = true) :
    ∃ row, s.rule key = some row ∧ row.rule.version = version ∧ row.rule.status = .active := by
  obtain ⟨row, hrow, hcond⟩ := (Option.any_eq_true _ _).mp h
  simp only [Bool.and_eq_true, decide_eq_true_eq] at hcond
  exact ⟨row, hrow, hcond⟩

/-- The rule of a new row. -/
@[simp]
theorem ruleToItem_rule (rule : AlertRule) : (ruleToItem rule).rule = rule := by
  unfold ruleToItem
  split <;> rfl

/-- A creation found no rule. -/
theorem createRule_write_rules (h : (Transaction.createRule rule).write s = some t) :
    s.rule rule.key = none ∧ t = s.putRule (ruleToItem rule) := by
  obtain ⟨items, hitems, hconds, rfl⟩ := Transaction.write_eq_some h
  cases hitems
  have habsent := hconds _ List.mem_cons_self
  exact ⟨by simpa [conditionedRulePut] using habsent, rfl⟩

/-- The rule row a claim found. -/
theorem claimLease_eq_some {lease : LeaseRequest} (h : claimLease key lease s = some t) :
    ∃ row, s.rule key = some row ∧ claimable lease row = true ∧ t = s.putRule (row.lease lease) := by
  unfold claimLease at h
  split at h
  next hclaim =>
    obtain ⟨row, hrow, hclaimable⟩ := (Option.any_eq_true _ _).mp hclaim
    refine ⟨row, hrow, hclaimable, ?_⟩
    cases h
    simp [Store.modifyRule, hrow]
  next => contradiction

/-- An update found the expected version. -/
theorem UpdateRule.write_rules {request : UpdateRule}
    (h : (Transaction.updateRule request).write s = some t) :
    ∃ row, s.rule request.key = some row ∧ row.rule.version = request.expectedVersion ∧
      row.rule.status = .active ∧ t.rules = (s.putRule (request.change row)).rules := by
  obtain ⟨items, hitems, hconds, rfl⟩ := Transaction.write_eq_some h
  cases hitems
  obtain ⟨row, hrow, hver, hstat⟩ := conditionedRuleUpdate_condition (hconds _ List.mem_cons_self)
  refine ⟨row, hrow, hver, hstat, ?_⟩
  have hput : s.modifyRule request.key request.change = s.putRule (request.change row) := by
    simp [Store.modifyRule, hrow]
  rw [UpdateRule.items, List.foldl_cons, ← hput]
  apply foldl_effect_frame Store.rules
  intro item hitem
  split at hitem
  · exact (administrativeResolutionOperations_effects item hitem).rules_eq (by decide)
  · simp at hitem

theorem ReplaceRule.write_rules {request : ReplaceRule}
    (h : (Transaction.replaceRule request).write s = some t) :
    ∃ row, s.rule request.key = some row ∧ row.rule.version = request.expectedVersion ∧
      row.rule.status = .active ∧ s.rule request.successor.key = none ∧
      t.rules = ((s.putRule (request.change row)).putRule (ruleToItem request.successor)).rules := by
  obtain ⟨items, hitems, hconds, rfl⟩ := Transaction.write_eq_some h
  cases hitems
  obtain ⟨row, hrow, hver, hstat⟩ := conditionedRuleUpdate_condition (hconds _ List.mem_cons_self)
  have habsent : s.rule request.successor.key = none := by
    have := hconds (conditionedRulePut request.successor) (by simp [ReplaceRule.items])
    simpa [conditionedRulePut] using this
  refine ⟨row, hrow, hver, hstat, habsent, ?_⟩
  have hput : s.modifyRule request.key request.change = s.putRule (request.change row) := by
    simp [Store.modifyRule, hrow]
  rw [ReplaceRule.items, List.cons_append, List.foldl_cons, List.foldl_append]
  have hadministrative := foldl_effect_frame Store.rules
    (administrativeResolutionOperations request.existing request.stateItem request.audit
      request.now "rule_replaced") (s.modifyRule request.key request.change) fun item hitem =>
    (administrativeResolutionOperations_effects item hitem).rules_eq (by decide)
  rw [hput] at hadministrative
  funext key
  simp only [List.foldl_cons, List.foldl_nil, ReplaceRule.idempotencyPut, conditionedRulePut,
    conditionedRuleUpdate, Store.putReceipt_rules, Store.putRule_rules, hput, hadministrative]

namespace CommitRequest

/-- The rule and state rows of a commit, and its event items. -/
theorem write_cases (h : (Transaction.commit request).write s = some t) :
    ∃ eventItems, request.eventItems = some eventItems ∧
      request.ruleScheduleUpdate.condition s = true ∧ request.statePut.condition s = true ∧
      (∀ item ∈ eventItems, item.condition s = true) ∧
      t.rules = (s.modifyRule request.work.key request.advance).rules ∧
      t.states = update s.states request.stateKey (some request.nextStateRow) ∧
      ∃ u : Store, u.events = s.events ∧
        t.events = (eventItems.foldl (fun v item => item.effect v) u).events := by
  obtain ⟨items, hitems, hconds, rfl⟩ := Transaction.write_eq_some h
  simp only [Transaction.items, CommitRequest.items, Option.bind_eq_bind,
    Option.bind_eq_some_iff, Option.pure_def, Option.some.injEq] at hitems
  obtain ⟨eventItems, hevents, outboxItems, houts, rfl⟩ := hitems
  have hevent : ∀ item ∈ eventItems, ItemEffect [.events, .suppressions] item :=
    eventItems_effects hevents (by decide) fun _ => by decide
  have houtbox : ∀ item ∈ outboxItems, ItemEffect [.outboxes] item := by
    intro item hitem
    obtain ⟨outbox, -, hput⟩ := exists_of_mem_mapM houts item hitem
    exact outboxPut_effect (by decide) hput
  simp only [List.cons_append, List.foldl_cons, List.foldl_append]
  refine ⟨eventItems, hevents, hconds _ (by simp), hconds _ (by simp),
    fun item hitem => hconds item (by simp [hitem]), ?_, ?_,
    request.statePut.effect (request.ruleScheduleUpdate.effect s), ?_, ?_⟩
  · rw [foldl_effect_frame Store.rules outboxItems _ fun item h => (houtbox item h).rules_eq (by decide),
      foldl_effect_frame Store.rules eventItems _ fun item h => (hevent item h).rules_eq (by decide)]
    rfl
  · rw [foldl_effect_frame Store.states outboxItems _ fun item h => (houtbox item h).states_eq (by decide),
      foldl_effect_frame Store.states eventItems _ fun item h => (hevent item h).states_eq (by decide)]
    simp [statePut, ruleScheduleUpdate]
  · simp [statePut, ruleScheduleUpdate]
  · rw [foldl_effect_frame Store.events outboxItems _ fun item h => (houtbox item h).events_eq (by decide)]

/-- The rule row a commit found and what it wrote over it. -/
theorem write_rules (h : (Transaction.commit request).write s = some t) :
    ∃ row, s.rule request.work.key = some row ∧ row.rule.version = request.work.rule.version ∧
      row.rule.evaluationRevision = request.work.rule.evaluationRevision ∧
      row.rule.enabled = true ∧ row.rule.status = .active ∧
      t.rules = (s.putRule (request.advance row)).rules := by
  obtain ⟨eventItems, -, hrule, -, -, hrules, -⟩ := write_cases h
  obtain ⟨row, hrow, hcond⟩ := (Option.any_eq_true _ _).mp hrule
  simp only [Bool.and_eq_true, decide_eq_true_eq] at hcond
  obtain ⟨⟨⟨⟨⟨hver, hrev⟩, -⟩, -⟩, henabled⟩, hstat⟩ := hcond
  refine ⟨row, hrow, hver, hrev, henabled, hstat, ?_⟩
  rw [hrules]
  simp [Store.modifyRule, hrow]

end CommitRequest

/-- Still the same incident of the same rule. -/
def EventRow.SameIncident (new old : EventRow) : Prop :=
  new.eventId = old.eventId ∧ new.tenantId = old.tenantId ∧ new.ruleId = old.ruleId ∧
    new.evaluationRevision = old.evaluationRevision

/-- The keys of a row in the active-event index. -/
def EventRow.indexKeys (row : EventRow) : Option String × Option ActiveIndexSortKey :=
  (row.gsi3pk, row.gsi3sk)

/-- There was no state, a pending one was reset, there was no incident, or it was resolved. -/
inductive IncidentEnd (key : RuleKey) (revision : Nat) (stateItem : Option StateRow) (s t : Store) :
    Prop where
  | absent (hitem : stateItem = none) (hstate : s.states key = none)
      (hstates : t.states = s.states) (hevents : t.events = s.events)
  | reset (item old new : StateRow) (hitem : stateItem = some item)
      (hpending : item.state.mode = .pending) (hstate : s.states key = some old)
      (hrevision : old.stateRevision = item.stateRevision) (hmode : new.state.mode = .healthy)
      (hnext : new.stateRevision = item.stateRevision + 1)
      (hstates : t.states = update s.states key (some new))
      (hevents : t.events = s.events)
  | idle (item old : StateRow) (hitem : stateItem = some item)
      (hpending : item.state.mode ≠ .pending)
      (hidle : item.state.mode = .active → item.state.activeEventId = none)
      (hstate : s.states key = some old) (hrevision : old.stateRevision = item.stateRevision)
      (hstates : t.states = s.states) (hevents : t.events = s.events)
  | resolved (item old new : StateRow) (eventId : EventId) (event ended : EventRow)
      (hitem : stateItem = some item) (hactive : item.state.mode = .active)
      (hincident : item.state.activeEventId = some eventId) (hstate : s.states key = some old)
      (hrevision : old.stateRevision = item.stateRevision) (hmode : new.state.mode = .healthy)
      (hnext : new.stateRevision = item.stateRevision + 1)
      (hevent : s.events ⟨key.tenantId, eventId⟩ = some event)
      (hunresolved : event.status.unresolved = true) (hfence : event.evaluationRevision = revision)
      (hsame : ended.SameIncident event) (hended : ended.status = .resolved)
      (hstates : t.states = update s.states key (some new))
      (hevents : t.events = update s.events ⟨key.tenantId, eventId⟩ (some ended))
      (hindex : ended.indexKeys = (none, none))

/-- The items that end an incident, among other writes. -/
theorem incidentEnd_of_conditions
    (hconds : ∀ item ∈ administrativeResolutionOperations rule stateItem audit now reason,
      item.condition s = true) (hstates : u.states = s.states) (hevents : u.events = s.events) :
    let after := (administrativeResolutionOperations rule stateItem audit now reason).foldl
      (fun t item => item.effect t) u
    t.states = after.states → t.events = after.events →
      IncidentEnd rule.key rule.evaluationRevision stateItem s t := by
  intro after hstates' hevents'
  cases stateItem with
  | none =>
    have habsent := hconds _ List.mem_cons_self
    exact .absent rfl (by simpa [stateSnapshotCondition] using habsent) (hstates'.trans hstates)
      (hevents'.trans hevents)
  | some item =>
    rcases administrativeResolutionOperations_cases rule item audit now reason with
      ⟨new, hreset, hitems⟩ | ⟨hpend, hidle, hitems⟩ | ⟨eventId, new, hresolved, hitems⟩
    all_goals
      rw [hitems] at hconds
      simp only [after, hitems] at hstates' hevents'
    · obtain ⟨hpend, hmode, hnext⟩ := resetPendingEvaluatorState_eq_some hreset
      obtain ⟨old, hstate, hrev⟩ := (Option.any_eq_true _ _).mp (hconds _ List.mem_cons_self)
      exact .reset item old new rfl hpend hstate (by simpa using hrev) hmode hnext
        (by simp [hstates', statePut, hstates]) (by simp [hevents', statePut, hevents])
    · obtain ⟨old, hstate, hrev⟩ := (Option.any_eq_true _ _).mp (hconds _ List.mem_cons_self)
      exact .idle item old rfl hpend hidle hstate (by simpa using hrev)
        (hstates'.trans hstates) (hevents'.trans hevents)
    · obtain ⟨hact, hinc, hmode, hnext⟩ := resolvedEvaluatorState_eq_some hresolved
      obtain ⟨event, hevent, hfence⟩ := (Option.any_eq_true _ _).mp (hconds _ List.mem_cons_self)
      obtain ⟨old, hstate, hrev⟩ := (Option.any_eq_true _ _).mp
        (hconds (statePut rule.key new item.stateRevision) (by simp))
      simp only [Bool.and_eq_true, decide_eq_true_eq] at hfence
      refine .resolved item old new eventId event
        (event.administrativelyResolved audit.actorId reason now) rfl hact hinc hstate
        (by simpa using hrev) hmode hnext hevent hfence.1 hfence.2 ⟨rfl, rfl, rfl, rfl⟩ rfl
        ?_ ?_ rfl
      · simp [hstates', statePut, transitionPut, administrativeEventUpdate, hstates]
      · simp [hevents', statePut, transitionPut, administrativeEventUpdate, Store.modifyEvent_events,
          hevents, AlertRule.key, hevent]

/-! ## What each transaction does to states and events -/

/-- An update of the meaning ends the incident. -/
theorem UpdateRule.write_incident {request : UpdateRule}
    (h : (Transaction.updateRule request).write s = some t) :
    if request.semanticChange then
      IncidentEnd request.existing.key request.existing.evaluationRevision request.stateItem s t
    else t.states = s.states ∧ t.events = s.events := by
  obtain ⟨items, hitems, hconds, rfl⟩ := Transaction.write_eq_some h
  cases hitems
  unfold UpdateRule.items
  by_cases hsem : request.semanticChange = true
  · simp only [hsem, if_true, List.foldl_cons]
    refine incidentEnd_of_conditions ?_ (Store.modifyRule_same _ _ _).1
      (Store.modifyRule_same _ _ _).2.1 rfl rfl
    intro item hitem
    exact hconds item (by simp [UpdateRule.items, hsem, hitem])
  · simp only [hsem, List.foldl_cons]
    exact ⟨(Store.modifyRule_same _ _ _).1, (Store.modifyRule_same _ _ _).2.1⟩

theorem ReplaceRule.write_incident {request : ReplaceRule}
    (h : (Transaction.replaceRule request).write s = some t) :
    IncidentEnd request.existing.key request.existing.evaluationRevision request.stateItem s t := by
  obtain ⟨items, hitems, hconds, rfl⟩ := Transaction.write_eq_some h
  cases hitems
  rw [ReplaceRule.items, List.cons_append, List.foldl_cons, List.foldl_append]
  -- The two puts that follow concern rule and receipt rows.
  exact incidentEnd_of_conditions
    (fun item hitem => hconds item (by simp [ReplaceRule.items, hitem]))
    (Store.modifyRule_same _ _ _).1 (Store.modifyRule_same _ _ _).2.1 rfl rfl

namespace CommitRequest

/-- What a commit did to the event rows. -/
inductive EventEffect (request : CommitRequest) (s t : Store) : Prop where
  | opened (eventId : EventId) (status : EventStatus) (value : Rat)
      (htransition : request.decision.transition = .opened ∨
        request.decision.transition = .suppressed)
      (hid : request.decision.eventId = some eventId)
      (hstatus : request.decision.next.activeStatus = some status)
      (habsent : s.events (request.eventKey eventId) = none)
      (hevents : t.events = update s.events (request.eventKey eventId)
        (some (request.eventRow eventId status value)))
  | recovered (eventId : EventId) (event new : EventRow)
      (htransition : request.decision.transition = .recovered)
      (hid : request.decision.resolvedEventId = some eventId)
      (hevent : s.events (request.eventKey eventId) = some event)
      (hunresolved : event.status.unresolved = true)
      (hsame : new.SameIncident event) (hresolved : new.status = .resolved)
      (hevents : t.events = update s.events (request.eventKey eventId) (some new))
      (hindex : new.indexKeys = (none, none))
  | refreshed (eventId : EventId) (event new : EventRow)
      (htransition : request.decision.transition = .none)
      (hmode : request.decision.next.mode = .active)
      (hid : request.decision.next.activeEventId = some eventId)
      (hevent : s.events (request.eventKey eventId) = some event)
      (hsame : new.SameIncident event) (hstatus : new.status = event.status)
      (hevents : t.events = update s.events (request.eventKey eventId) (some new))
      (hindex : new.indexKeys = event.indexKeys)
  | unchanged (htransition : request.decision.transition = .none)
      (hmode : request.decision.next.mode ≠ .active) (hevents : t.events = s.events)

/-- An update of an unresolved event. -/
theorem activeEventUpdate_spec {change : EventRow → EventRow} (hevents : u.events = s.events)
    (hcond : (request.activeEventUpdate eventId change).condition s = true) :
    ∃ event, s.events (request.eventKey eventId) = some event ∧ event.status.unresolved = true ∧
      ((request.activeEventUpdate eventId change).effect u).events =
        update s.events (request.eventKey eventId) (some (change event)) := by
  obtain ⟨event, hevent, hunres⟩ := (Option.any_eq_true _ _).mp hcond
  refine ⟨event, hevent, hunres, ?_⟩
  simp only [activeEventUpdate]
  rw [Store.modifyEvent_events, hevents, hevent, Option.map_some]

/-- An event put found none. -/
theorem eventPut_spec {item : WriteItem Store} (h : request.eventPut = some item)
    (hevents : u.events = s.events) (hcond : item.condition s = true) :
    ∃ eventId status value, request.decision.eventId = some eventId ∧
      request.decision.next.activeStatus = some status ∧
      s.events (request.eventKey eventId) = none ∧
      (item.effect u).events = update s.events (request.eventKey eventId)
        (some (request.eventRow eventId status value)) := by
  simp only [eventPut, Option.bind_eq_bind, Option.bind_eq_some_iff, Option.pure_def,
    Option.some.injEq] at h
  obtain ⟨value, -, eventId, hid, status, hstat, rfl⟩ := h
  refine ⟨eventId, status, value, hid, hstat, ?_, ?_⟩
  · simpa using hcond
  · simp [hevents]

/-- The events of a commit. -/
theorem write_events (h : (Transaction.commit request).write s = some t) :
    request.EventEffect s t := by
  obtain ⟨eventItems, hitems, -, -, hconds, -, -, u, hu, hevents⟩ := write_cases h
  unfold CommitRequest.eventItems at hitems
  split at hitems <;>
    simp only [Option.bind_eq_bind, Option.bind_eq_some_iff, Option.pure_def,
      Option.some.injEq] at hitems
  case h_1 htrans | h_2 htrans =>
    obtain ⟨_, -, event, hput, rfl⟩ := hitems
    obtain ⟨eventId, status, value, hid, hstat, habsent, heff⟩ :=
      eventPut_spec hput hu (hconds _ List.mem_cons_self)
    exact .opened eventId status value (by simp [htrans]) hid hstat habsent (hevents.trans heff)
  case h_3 htrans =>
    obtain ⟨eventId, hid, item, hupdate, rfl⟩ := hitems
    obtain ⟨value, -, rfl⟩ := Option.map_eq_some_iff.mp hupdate
    obtain ⟨event, hevent, hunres, heff⟩ := activeEventUpdate_spec hu (hconds _ List.mem_cons_self)
    exact .recovered eventId event (request.recovered value event) htrans hid hevent hunres
      ⟨rfl, rfl, rfl, rfl⟩ rfl (hevents.trans heff) rfl
  case h_4 htrans =>
    split at hitems
    next hmode =>
      simp only [Option.bind_eq_some_iff, Option.some.injEq] at hitems
      obtain ⟨eventId, hid, rfl⟩ := hitems
      obtain ⟨event, hevent, -, heff⟩ := activeEventUpdate_spec hu (hconds _ List.mem_cons_self)
      exact .refreshed eventId event (request.refreshed event) htrans hmode hid hevent
        ⟨rfl, rfl, rfl, rfl⟩ rfl (hevents.trans heff) rfl
    next hmode =>
      cases hitems
      exact .unchanged htrans hmode (hevents.trans hu)

/-- The incident state a commit found. -/
theorem write_states (h : (Transaction.commit request).write s = some t) :
    ((request.previousState.revision = 0 ∧ s.states request.stateKey = none) ∨
      ∃ old, request.previousState.revision ≠ 0 ∧ s.states request.stateKey = some old ∧
        old.stateRevision = request.previousState.revision) ∧
      t.states = update s.states request.stateKey (some request.nextStateRow) := by
  obtain ⟨-, -, -, hstate, -, -, hstates, -⟩ := write_cases h
  refine ⟨?_, hstates⟩
  simp only [statePut] at hstate
  split at hstate
  next hzero => exact .inl ⟨hzero, by simpa using hstate⟩
  next hzero =>
    obtain ⟨old, hold, hrev⟩ := (Option.any_eq_true _ _).mp hstate
    exact .inr ⟨old, hzero, hold, by simpa using hrev⟩

end CommitRequest

namespace EventChange

/-- An acknowledgement of an open event. -/
theorem acknowledge_write {request : EventChange}
    (h : (Transaction.acknowledgeEvent request).write s = some t) :
    ∃ event new, s.events request.key = some event ∧ event.status = .opened ∧
      new.SameIncident event ∧ new.status = .acknowledged ∧ t.states = s.states ∧
      t.events = update s.events request.key (some new) ∧
      new.indexKeys = event.indexKeys := by
  obtain ⟨items, hitems, hconds, rfl⟩ := Transaction.write_eq_some h
  cases hitems
  obtain ⟨event, hevent, hcond⟩ := (Option.any_eq_true _ _).mp (hconds _ List.mem_cons_self)
  simp only [List.mem_singleton, Bool.and_eq_true, decide_eq_true_eq] at hcond
  refine ⟨event, request.acknowledged event, hevent, hcond.2, ⟨rfl, rfl, rfl, rfl⟩, rfl, ?_, ?_,
    rfl⟩
  · exact (Store.modifyEvent_same _ _ _).2.1
  · simp only [acknowledgeItems, List.foldl_cons, List.foldl_nil, transition, transitionPut,
      eventUpdate, Store.putTransition_events, Store.modifyEvent_events, hevent, Option.map_some]

/-- A resolution of an unresolved event, and its state put. -/
theorem resolve_write {request : EventChange} {stateOperation : Option (StateRow × Nat)}
    (h : (Transaction.resolveEvent request stateOperation).write s = some t) :
    ∃ event new, s.events request.key = some event ∧ event.status.unresolved = true ∧
      new.SameIncident event ∧ new.status = .resolved ∧ new.indexKeys = (none, none) ∧
      t.events = update s.events request.key (some new) ∧
      match stateOperation with
      | none => t.states = s.states
      | some (row, revision) =>
        (∃ old, s.states ⟨request.event.tenantId, request.event.ruleId⟩ = some old ∧
          old.stateRevision = revision) ∧
        t.states = update s.states ⟨request.event.tenantId, request.event.ruleId⟩
          (some row) := by
  obtain ⟨items, hitems, hconds, rfl⟩ := Transaction.write_eq_some h
  cases hitems
  obtain ⟨event, hevent, hcond⟩ := (Option.any_eq_true _ _).mp (hconds _ List.mem_cons_self)
  have hunres : event.status.unresolved = true := by
    simp only [Bool.and_eq_true, decide_eq_true_eq] at hcond
    cases hstat : event.status <;> simp_all [EventStatus.unresolved]
  refine ⟨event, request.resolved event, hevent, hunres, ⟨rfl, rfl, rfl, rfl⟩, rfl, rfl, ?_⟩
  cases stateOperation with
  | none =>
    constructor
    · simp [resolveItems, transition, transitionPut, eventUpdate, Store.modifyEvent_events, hevent]
    · simp [resolveItems, transition, transitionPut, eventUpdate]
  | some operation =>
    obtain ⟨row, revision⟩ := operation
    obtain ⟨old, hold, hrev⟩ := (Option.any_eq_true _ _).mp (hconds
      (statePut ⟨request.event.tenantId, request.event.ruleId⟩ row revision)
      (by simp [resolveItems]))
    refine ⟨?_, ⟨old, hold, by simpa using hrev⟩, ?_⟩
    · simp [resolveItems, statePut, transition, transitionPut, eventUpdate,
        Store.modifyEvent_events, hevent]
    · simp [resolveItems, statePut, transition, transitionPut, eventUpdate]

end EventChange

end LimnoPulse.Alerts
