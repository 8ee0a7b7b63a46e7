import LimnoPulse.Alerts.TransactionEffects

/-!
# Where the data of a transaction come from

A call reads rows first and sends its transaction later, when the rows may have
changed.  It still knows that rule rows keep their past values, that an old state
revision is gone for good, and that a resolved event stays resolved.

Main results:

- Structure `Later`: how the store may change while a call waits.
- Definition `Transaction.Justified`: what the sender of a transaction knows.
- Theorem `body_safe`: every call sends justified transactions only.
-/

namespace LimnoPulse.Alerts

open CivilTime StoreProgram Evaluator

variable {s t : Store} {key : RuleKey} {item : StateRow} {event : EventRow} {choice : Choice}
  {transaction : Transaction} {now : Instant} {α : Type}

/-- Rules keep their values, revisions grow, events keep identity and resolution. -/
structure Later (s t : Store) : Prop where
  rules : ∀ key row, row ∈ s.rules key → row ∈ t.rules key
  states : ∀ key row, s.states key = some row →
    ∃ new, t.states key = some new ∧ (new = row ∨ row.stateRevision < new.stateRevision)
  events : ∀ key row, s.events key = some row →
    ∃ new, t.events key = some new ∧ new.SameIncident row ∧
      (row.status = .resolved → new.status = .resolved)

theorem EventRow.SameIncident.refl (row : EventRow) : row.SameIncident row := ⟨rfl, rfl, rfl, rfl⟩

theorem EventRow.SameIncident.trans {a b c : EventRow} (hab : a.SameIncident b)
    (hbc : b.SameIncident c) : a.SameIncident c :=
  ⟨hab.1.trans hbc.1, hab.2.1.trans hbc.2.1, hab.2.2.1.trans hbc.2.2.1, hab.2.2.2.trans hbc.2.2.2⟩

theorem Later.refl (s : Store) : Later s s where
  rules _ _ hrow := hrow
  states _ row hrow := ⟨row, hrow, .inl rfl⟩
  events _ row hrow := ⟨row, hrow, .refl row, id⟩

/-- Events lie under their keys; unresolved ones are the active ones of the states. -/
structure Incidents (s : Store) : Prop where
  keyed : ∀ key row, s.events key = some row → key = ⟨row.tenantId, row.eventId⟩
  active : ∀ key row, s.events key = some row → row.status.unresolved = true →
    s.incident ⟨row.tenantId, row.ruleId⟩ = some row.eventId
  unresolved : ∀ key eventId, s.incident key = some eventId →
    ∃ row, s.events ⟨key.tenantId, eventId⟩ = some row ∧ row.ruleId = key.ruleId ∧
      row.status.unresolved = true

/-- Resolved or not. -/
theorem EventStatus.eq_resolved_of_not_unresolved {status : EventStatus}
    (h : ¬ status.unresolved = true) : status = .resolved := by
  cases status with
  | resolved => rfl
  | opened | acknowledged | suppressed => exact absurd rfl h

/-! ## What the sender of a transaction knows -/

/-- The rule was stored under its key at some time. -/
def SeenRule (s : Store) (key : RuleKey) (rule : AlertRule) : Prop :=
  ∃ row ∈ s.rules key, row.rule = rule

/-- The state row is stored, or its revision is history. -/
def SeenState (s : Store) (key : RuleKey) (item : StateRow) : Prop :=
  ∃ row, s.states key = some row ∧ (row = item ∨ item.stateRevision < row.stateRevision)

/-- A row of the same incident is stored. -/
def SeenEvent (s : Store) (key : EventKey) (event : EventRow) : Prop :=
  ∃ row, s.events key = some row ∧ row.SameIncident event

/-- A rule stays seen. -/
theorem SeenRule.later {rule : AlertRule} (h : SeenRule s key rule) (hlater : Later s t) :
    SeenRule t key rule := by
  obtain ⟨row, hrow, rfl⟩ := h
  exact ⟨row, hlater.rules key row hrow, rfl⟩

theorem SeenState.later (h : SeenState s key item) (hlater : Later s t) : SeenState t key item := by
  obtain ⟨row, hrow, hitem⟩ := h
  obtain ⟨new, hnew, hstep⟩ := hlater.states key row hrow
  refine ⟨new, hnew, ?_⟩
  rcases hstep with rfl | hlt
  · exact hitem
  · rcases hitem with rfl | hlt'
    · exact .inr hlt
    · exact .inr (by omega)

theorem Later.trans {u : Store} (hst : Later s t) (htu : Later t u) : Later s u where
  rules key row hrow := htu.rules key row (hst.rules key row hrow)
  states key row hrow := SeenState.later (hst.states key row hrow) htu
  events key row hrow := by
    obtain ⟨mid, hmid, hsame, hresolved⟩ := hst.events key row hrow
    obtain ⟨new, hnew, hsame', hresolved'⟩ := htu.events key mid hmid
    exact ⟨new, hnew, hsame'.trans hsame, fun h => hresolved' (hresolved h)⟩

/-- The revision that was read names the row. -/
theorem SeenState.eq_of_revision {row : StateRow} (h : SeenState s key item)
    (hrow : s.states key = some row) (hrev : row.stateRevision = item.stateRevision) :
    row = item := by
  obtain ⟨stored, hstored, hitem⟩ := h
  rw [hrow] at hstored
  cases hstored
  rcases hitem with rfl | hlt
  · rfl
  · omega

theorem SeenEvent.later {key : EventKey} (h : SeenEvent s key event) (hlater : Later s t) :
    SeenEvent t key event := by
  obtain ⟨row, hrow, hsame⟩ := h
  obtain ⟨new, hnew, hsame', -⟩ := hlater.events key row hrow
  exact ⟨new, hnew, hsame'.trans hsame⟩

/-- A commit was computed from a state that was read, if any. -/
structure CommitRequest.Computed (request : CommitRequest) (s : Store) : Prop where
  key : request.work.rule.key = request.work.key
  computed : ∃ arguments item, request = commitRequest arguments request.work (versionedState item) ∧
    ∀ row, item = some row → SeenState s request.stateKey row

/-- What the sender knows about the rows it has read. -/
def Transaction.Justified (s : Store) : Transaction → Prop
  | .createRule _ => True
  | .updateRule request =>
    SeenRule s request.key request.existing ∧
      ∀ item, request.stateItem = some item → SeenState s request.existing.key item
  | .replaceRule request =>
    SeenRule s request.key request.existing ∧
      ∀ item, request.stateItem = some item → SeenState s request.existing.key item
  | .acknowledgeEvent _ => True
  | .resolveEvent request stateOperation =>
    SeenEvent s request.key request.event ∧
      match stateOperation with
      | none => ∃ row, s.events request.key = some row ∧ row.status = .resolved
      | some (resolved, revision) =>
        ∃ item, SeenState s ⟨request.event.tenantId, request.event.ruleId⟩ item ∧
          resolvedEvaluatorState item request.event.eventId request.now = some resolved ∧
          revision = item.stateRevision
  | .commit request => request.Computed s

/-- Only transactions need a justification. -/
def Op.Justified (s : Store) (op : Op) : Prop :=
  ∀ transaction, op = .transact transaction → transaction.Justified s

/-- An operation with a justified transaction. -/
theorem Op.justified_transact (h : transaction.Justified s) :
    (Op.transact transaction).Justified s := by
  rintro _ ⟨⟩
  exact h

/-! ## What the replies tell -/

/-- A rule that was read. -/
theorem seenRule_of_getRule {rule : AlertRule}
    (h : exec (.getRule key) choice s = some (.row (some rule), t)) : SeenRule t key rule := by
  obtain ⟨hreply, rfl⟩ := Prod.mk.inj (Option.some.inj h)
  obtain ⟨row, hrow, hrule⟩ := Option.map_eq_some_iff.mp (answer_eq_row hreply)
  exact ⟨row, Versions.mem_of_stale hrow, hrule⟩

/-- The stored state is read. -/
theorem states_of_getState {item : Option StateRow}
    (h : exec (.getState key) choice s = some (.row item, t)) : t.states key = item := by
  obtain ⟨hreply, rfl⟩ := Prod.mk.inj (Option.some.inj h)
  exact answer_eq_row hreply

/-- A state that was read. -/
theorem seenState_of_getState (h : exec (.getState key) choice s = some (.row (some item), t)) :
    SeenState t key item :=
  ⟨item, states_of_getState h, .inl rfl⟩

/-- The stored event is read. -/
theorem events_of_getEvent {key : EventKey} {event : Option EventRow}
    (h : exec (.getEvent key) choice s = some (.row event, t)) : t.events key = event := by
  obtain ⟨hreply, rfl⟩ := Prod.mk.inj (Option.some.inj h)
  exact answer_eq_row hreply

/-- A claim is of its rule. -/
theorem key_of_claim {lease : LeaseRequest} {row : RuleRow}
    (h : exec (.claim key lease) choice s = some (.claimed row, t)) : row.rule.key = key := by
  obtain ⟨hreply, rfl⟩ := Prod.mk.inj (Option.some.inj h)
  unfold claimReply at hreply
  split at hreply
  · split at hreply
    · cases hreply
      exact Store.rule_key ‹_›
    · cases hreply
  · cases hreply
  · cases hreply

/-- Without a state write the event is resolved. -/
theorem resolved_of_resolvedStatePut_eq_none (hs : Incidents s) {key : EventKey} {row : EventRow}
    (hrow : s.events key = some row) (hsame : row.SameIncident event)
    (hnone : resolvedStatePut event (s.states ⟨event.tenantId, event.ruleId⟩) now = none) :
    row.status = .resolved := by
  apply EventStatus.eq_resolved_of_not_unresolved
  intro hunres
  obtain ⟨hid, htenant, hrule, -⟩ := hsame
  have hinc := hs.active key row hrow hunres
  rw [htenant, hrule] at hinc
  obtain ⟨state, hstate, hact⟩ := Option.bind_eq_some_iff.mp hinc
  obtain ⟨hmode, hevent⟩ := State.incident_eq_some.mp hact
  simp [resolvedStatePut, hstate, resolvedEvaluatorState, hmode, hevent, hid] at hnone

/-- A state put of the active event. -/
theorem resolvedStatePut_eq_some {item : Option StateRow} {resolved : StateRow}
    {revision : Nat} (h : resolvedStatePut event item now = some (resolved, revision)) :
    ∃ row, item = some row ∧ resolvedEvaluatorState row event.eventId now = some resolved ∧
      revision = row.stateRevision := by
  obtain ⟨row, hitem, hrow⟩ := Option.bind_eq_some_iff.mp h
  obtain ⟨new, hnew, hpair⟩ := Option.map_eq_some_iff.mp hrow
  cases hpair
  exact ⟨row, hitem, hnew, rfl⟩

/-- The work of a row. -/
theorem workFromItem_eq_some {row : RuleRow} {work : Work} (h : workFromItem key row = some work) :
    work.key = key ∧ work.rule = row.rule := by
  unfold workFromItem at h
  split at h
  · contradiction
  · split at h
    · contradiction
    · obtain ⟨due, -, rfl⟩ := Option.map_eq_some_iff.mp h
      exact ⟨rfl, rfl⟩

/-! ## Every call justifies its transactions -/

section Safety

variable {guard : Op → Choice → Store → Prop} {I : Store → Prop} {guarantee : Store → Store → Prop}

/-- Justified operations keep the invariant. -/
abbrev KeptByJustified (guard : Op → Choice → Store → Prop) (I : Store → Prop)
    (guarantee : Store → Store → Prop) : Prop :=
  Kept exec guard (fun op s => op.Justified s) I Later guarantee

/-- Safety against changes that `Later` allows. -/
abbrev SafeAlertCall (guard : Op → Choice → Store → Prop) (I : Store → Prop)
    (guarantee : Store → Store → Prop) {α : Type} (p : AlertProgram α) (s : Store) : Prop :=
  SafeCall exec guard I Later guarantee p s

variable (hkept : KeptByJustified guard I guarantee)
include hkept

/-- An operation that is no transaction. -/
theorem SafeAlertCall.read {op : Op} {next : Reply op → AlertProgram α}
    (hop : ∀ transaction, op ≠ .transact transaction)
    (hnext : ∀ t choice reply u, Later s t → I t → exec op choice t = some (reply, u) → I u →
      Later s u → SafeAlertCall guard I guarantee (next reply) u) :
    SafeAlertCall guard I guarantee (Program.call op next) s :=
  SafeCall.call hkept (fun _ _ _ transaction htransact => absurd htransact (hop transaction)) hnext

/-- A justified transaction as the last operation. -/
theorem SafeAlertCall.transacts {result : WriteReply → α}
    (h : ∀ t, Later s t → transaction.Justified t) :
    SafeAlertCall guard I guarantee
      (Program.call (.transact transaction) fun reply => Program.done (result reply)) s :=
  SafeCall.call hkept (fun t hlater _ => Op.justified_transact (h t hlater))
    fun _ _ _ _ _ _ _ _ _ => SafeCall.done _ _

/-- Updates are justified. -/
theorem updateRule_safe (arguments : UpdateRuleArguments) (s : Store) :
    SafeAlertCall guard I guarantee (updateRule arguments) s := by
  simp only [updateRule, getRule, getState, transact, Program.perform_bind]
  refine SafeAlertCall.read hkept (by simp) ?_
  intro _ choice reply s₁ _ _ hread _ _
  match reply with
  | .unavailable | .row none => exact SafeCall.done _ _
  | .row (some existing) =>
    have hseen := seenRule_of_getRule hread
    dsimp only
    split
    · refine SafeAlertCall.read hkept (by simp) ?_
      intro _ choice reply s₂ _ _ hstate _ hlater
      match reply with
      | .unavailable => exact SafeCall.done _ _
      | .row stateItem =>
        refine SafeAlertCall.transacts hkept ?_
        intro t hlater'
        refine ⟨hseen.later (hlater.trans hlater'), ?_⟩
        rintro item rfl
        exact (seenState_of_getState hstate).later hlater'
    · refine SafeAlertCall.transacts hkept ?_
      intro t hlater
      refine ⟨hseen.later hlater, ?_⟩
      rintro item ⟨⟩

/-- A replay writes nothing. -/
theorem replayAfterFailure_safe (arguments : ReplaceRuleArguments) (failure : ApiError) (s : Store) :
    SafeAlertCall guard I guarantee (replayAfterFailure arguments failure) s := by
  simp only [replayAfterFailure, getReceipt, Program.perform_bind]
  refine SafeAlertCall.read hkept (by simp) ?_
  intro _ choice reply s₁ _ _ _ _ _
  match reply with
  | .unavailable => exact SafeCall.done _ _
  | .row item =>
    dsimp only
    split <;> exact SafeCall.done _ _

/-- Replacements are justified. -/
theorem replaceRule_safe (arguments : ReplaceRuleArguments) (s : Store) :
    SafeAlertCall guard I guarantee (replaceRule arguments) s := by
  simp only [replaceRule, getReceipt, getRule, getState, transact, Program.perform_bind]
  refine SafeAlertCall.read hkept (by simp) ?_
  intro _ choice reply s₁ _ _ _ _ _
  match reply with
  | .unavailable => exact SafeCall.done _ _
  | .row item =>
    dsimp only
    split
    · exact SafeCall.done _ _
    · exact SafeCall.done _ _
    · refine SafeAlertCall.read hkept (by simp) ?_
      intro _ choice reply s₂ _ _ hread _ _
      match reply with
      | .unavailable | .row none => exact SafeCall.done _ _
      | .row (some existing) =>
        have hseen := seenRule_of_getRule hread
        refine SafeAlertCall.read hkept (by simp) ?_
        intro _ choice reply s₃ _ _ hstate _ hlater
        match reply with
        | .unavailable => exact replayAfterFailure_safe hkept _ _ _
        | .row stateItem =>
          refine SafeCall.call hkept ?_ ?_
          · intro t hlater' _
            refine Op.justified_transact ⟨hseen.later (hlater.trans hlater'), ?_⟩
            rintro item rfl
            exact (seenState_of_getState hstate).later hlater'
          · intro _ _ reply _ _ _ _ _ _
            match reply with
            | .committed => exact SafeCall.done _ _
            | .conflict | .unavailable => exact replayAfterFailure_safe hkept _ _ _

theorem acknowledgeEvent_safe (arguments : EventChangeArguments) (s : Store) :
    SafeAlertCall guard I guarantee (acknowledgeEvent arguments) s := by
  simp only [acknowledgeEvent, getEvent, transact, Program.perform_bind]
  refine SafeAlertCall.read hkept (by simp) ?_
  intro _ choice reply s₁ _ _ _ _ _
  match reply with
  | .unavailable | .row none => exact SafeCall.done _ _
  | .row (some existing) =>
    dsimp only
    split
    · exact SafeCall.done _ _
    · exact SafeAlertCall.transacts hkept fun _ _ => trivial

theorem resolveEvent_safe (hincs : ∀ s, I s → Incidents s) (arguments : EventChangeArguments)
    (s : Store) :
    SafeAlertCall guard I guarantee (resolveEvent arguments) s := by
  simp only [resolveEvent, getEvent, getState, transact, Program.perform_bind]
  refine SafeAlertCall.read hkept (by simp) ?_
  intro _ choice reply s₁ _ _ hread _ _
  match reply with
  | .unavailable | .row none => exact SafeCall.done _ _
  | .row (some existing) =>
    have hseen : SeenEvent s₁ arguments.key existing :=
      ⟨existing, events_of_getEvent hread, .refl existing⟩
    dsimp only
    split
    · exact SafeCall.done _ _
    · refine SafeAlertCall.read hkept (by simp) ?_
      intro _ choice reply s₂ _ _ hstate hs₂ hlater
      match reply with
      | .unavailable => exact SafeCall.done _ _
      | .row item =>
        have hitem := states_of_getState hstate
        refine SafeAlertCall.transacts hkept ?_
        intro t hlater'
        refine ⟨hseen.later (hlater.trans hlater'), ?_⟩
        rcases hput : resolvedStatePut existing item arguments.now with _ | ⟨resolved, revision⟩
        · obtain ⟨row, hrow, hsame⟩ := hseen.later hlater
          subst hitem
          have hresolved := resolved_of_resolvedStatePut_eq_none (hincs s₂ hs₂) hrow hsame hput
          obtain ⟨new, hnew, -, hstays⟩ := hlater'.events _ _ hrow
          exact ⟨new, hnew, hstays hresolved⟩
        · obtain ⟨row, rfl, hresolved, hrev⟩ := resolvedStatePut_eq_some hput
          exact ⟨row, (seenState_of_getState hstate).later hlater', hresolved, hrev⟩

theorem processCandidate_safe (arguments : CandidateArguments) (s : Store) :
    SafeAlertCall guard I guarantee (processCandidate arguments) s := by
  simp only [processCandidate, claim, getState, transact, Program.perform_bind]
  refine SafeAlertCall.read hkept (by simp) ?_
  intro _ choice reply s₁ _ _ hclaim _ _
  match reply with
  | .conflict | .unavailable => exact SafeCall.done _ _
  | .claimed row =>
    have hkey := key_of_claim hclaim
    dsimp only
    split
    · exact SafeCall.done _ _
    · next work hwork =>
      obtain ⟨hworkKey, hworkRule⟩ := workFromItem_eq_some hwork
      refine SafeAlertCall.read hkept (by simp) ?_
      intro _ choice reply s₂ _ _ hstate _ _
      match reply with
      | .unavailable => exact SafeCall.done _ _
      | .row item =>
        dsimp only
        split
        · exact SafeCall.done _ _
        · refine SafeCall.call hkept ?_ ?_
          · intro t hlater _
            refine Op.justified_transact ⟨?_, arguments, item, rfl, ?_⟩
            · show work.rule.key = work.key
              rw [hworkKey, hworkRule, hkey]
            · rintro stateRow rfl
              exact (seenState_of_getState hstate).later hlater
          · intro _ _ reply _ _ _ _ _ _
            match reply with
            | .committed | .conflict | .unavailable => exact SafeCall.done _ _

/-- Every call sends justified transactions only. -/
theorem body_safe (hincs : ∀ s, I s → Incidents s) (call : Call) (s : Store) :
    SafeAlertCall guard I guarantee call.body s := by
  cases call with
  | createRule =>
    exact SafeAlertCall.transacts hkept fun _ _ => trivial
  | updateRule arguments =>
    exact SafeCall.map _ (updateRule_safe hkept arguments s)
  | replaceRule arguments =>
    exact SafeCall.map _ (replaceRule_safe hkept arguments s)
  | acknowledgeEvent arguments =>
    exact SafeCall.map _ (acknowledgeEvent_safe hkept arguments s)
  | resolveEvent arguments =>
    exact SafeCall.map _ (resolveEvent_safe hkept hincs arguments s)
  | processCandidate arguments =>
    exact SafeCall.map _ (processCandidate_safe hkept arguments s)

/-- The contract of an invariant that is kept. -/
theorem contract_of_kept (hincs : ∀ s, I s → Incidents s) (hrefl : ∀ s, guarantee s s) :
    Contract machine guard I Later guarantee (fun _ _ _ => True) :=
  Kept.contract hkept Later.refl hrefl (body_safe hkept hincs)

end Safety

end LimnoPulse.Alerts
