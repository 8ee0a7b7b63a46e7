import LimnoPulse.Notifications.Knowledge

/-!
# What justified operations keep

Justified operations leave deliveries where they belong and fitting their attempts.
Most of them move a delivery alone.  The four that write an attempt write its delivery,
or check it, in the same transaction.

Main results:

- Theorem `Base.exec_step`: everything a justified operation can do to a delivery.
- Theorem `DeliveryStep.fits`: a delivery fits its attempts after every step.
- Theorem `Base.exec`: justified operations keep the invariant of the discipline.
-/

namespace LimnoPulse.Notifications

open CivilTime StoreProgram

variable {P : Platform}
variable {record : DeliveryRecord} {update : DeliveryUpdate} {items : List Item}
  {event : FeedbackEvent} {deliveryId : DeliveryId} {attemptId : String} {s : Store}
  {request : BeginAttemptRequest} {outboxId : OutboxId} {plan : Reconciliation} {now : Instant}
  {completion : AttemptCompletion}

/-- The operation started an attempt of the record. -/
structure Started (op : Op) (s t : Store) (record : DeliveryRecord) (request : BeginAttemptRequest) :
    Prop where
  items : op.items = beginAttemptItems record request
  committed : Committed op.items s t
  known : Known record s
  count : record.attemptCount < maxProviderCalls

section Exec

variable {op : Op} {outcome : Outcome} {s t : Store} {reply : Reply op}

/-- No attempt row is removed. -/
theorem exec_attempt_isSome (h : exec P op outcome s = some (reply, t))
    (hrow : (s.attempt deliveryId attemptId).isSome = true) :
    (t.attempt deliveryId attemptId).isSome = true := by
  rcases exec_attempt h deliveryId attemptId with hsame | ⟨update, -, -, -, heff⟩
  · rw [hsame, hrow]
  · obtain ⟨row, hrow⟩ := Option.isSome_iff_exists.mp hrow
    rw [heff, hrow]
    cases update <;> rfl

/-- A new attempt was put by its starting operation. -/
theorem exec_attempt_new (hjustified : Justified P s op) (h : exec P op outcome s = some (reply, t))
    {row : AttemptRow} (hnone : s.attempt deliveryId attemptId = none)
    (hrow : t.attempt deliveryId attemptId = some row) :
    ∃ record request, Started op s t record request ∧ deliveryId = record.delivery.deliveryId ∧
      attemptId = request.attemptId ∧ row = startedAttempt record request := by
  rcases exec_attempt h deliveryId attemptId with hsame | ⟨update, hmem, hcommit, -, heff⟩
  · rw [hsame, hnone] at hrow
    cases hrow
  · rw [hnone, hrow] at heff
    have hgrounds := hjustified.attemptGrounds hmem
    cases update <;> cases heff
    obtain ⟨record, request, hitems, hknown, hcount, hdeliv, hatt, rfl⟩ := hgrounds
    exact ⟨record, request, ⟨hitems, hcommit, hknown, hcount⟩, hdeliv, hatt, rfl⟩

/-- What starting an attempt does to its row. -/
theorem Started.attempt (h : Started op s t record request) :
    s.attempt record.delivery.deliveryId request.attemptId = none ∧
      t.attempt record.delivery.deliveryId request.attemptId =
        some (startedAttempt record request) := by
  have hmem : Item.attempt record.delivery.deliveryId request.attemptId
      (.put (startedAttempt record request)) ∈ op.items := by
    rw [h.items]
    simp [beginAttemptItems]
  obtain ⟨hcond, heff⟩ := h.committed.mem_attempt hmem
  cases hrow : s.attempt record.delivery.deliveryId request.attemptId with
  | none =>
    rw [hrow] at heff
    exact ⟨rfl, heff⟩
  | some =>
    rw [hrow] at hcond
    cases hcond

/-- What starting an attempt does to its delivery. -/
theorem Started.delivery (h : Started op s t record request) :
    ∃ row, s.delivery record.delivery.outboxId record.delivery.deliveryId = some row ∧
      record.Tells row ∧
      t.delivery record.delivery.outboxId record.delivery.deliveryId =
        some ((DeliveryUpdate.beginAttempt record request).rowEffect row) := by
  have hmem : record.item (.beginAttempt record request) ∈ op.items := by
    rw [h.items]
    simp [beginAttemptItems]
  obtain ⟨hcond, heff⟩ := h.committed.mem_delivery hmem
  cases hrow : s.delivery record.delivery.outboxId record.delivery.deliveryId with
  | none =>
    rw [hrow] at hcond
    cases hcond
  | some row =>
    rw [hrow] at hcond heff
    refine ⟨row, rfl, ?_, heff⟩
    rw [DeliveryUpdate.condition_some, DeliveryUpdate.rowCondition, Bool.and_eq_true,
      Bool.and_eq_true] at hcond
    exact h.known.tells_owned ⟨rfl, rfl⟩ hrow hcond.1.1

/-- An operation writes at most one attempt of a delivery. -/
theorem exec_attempts_cases (hjustified : Justified P s op)
    (h : exec P op outcome s = some (reply, t)) (deliveryId : DeliveryId) :
    (t.attempt deliveryId = s.attempt deliveryId ∧ ∀ attemptId update,
        Item.attempt deliveryId attemptId update ∈ op.items → ¬ Committed op.items s t) ∨
      ∃ attemptId update new, Item.attempt deliveryId attemptId update ∈ op.items ∧
        Committed op.items s t ∧ update.condition (s.attempt deliveryId attemptId) = true ∧
        update.effect (s.attempt deliveryId attemptId) = some new ∧
        Attempts.Replaced (s.attempt deliveryId) (t.attempt deliveryId) attemptId new := by
  by_cases hwritten : ∃ attemptId update, Item.attempt deliveryId attemptId update ∈ op.items ∧
      Committed op.items s t
  · obtain ⟨attemptId, update, hmem, hcommit⟩ := hwritten
    obtain ⟨hcond, heff⟩ := hcommit.mem_attempt hmem
    obtain ⟨new, hnew⟩ : ∃ new, update.effect (s.attempt deliveryId attemptId) = some new := by
      cases hrow : s.attempt deliveryId attemptId with
      | some row => exact update.effect_isSome row
      | none =>
        rw [hrow] at hcond
        cases update <;> cases hcond
        exact ⟨_, rfl⟩
    refine .inr ⟨attemptId, update, new, hmem, hcommit, hcond, hnew, heff.trans hnew, ?_⟩
    intro other hne
    rcases exec_attempt h deliveryId other with hsame | ⟨update', hmem', -⟩
    · exact hsame
    · obtain ⟨only, honly, -⟩ := hjustified.attempts
      cases (honly hmem).symm.trans (honly hmem')
      exact absurd rfl hne
  · refine .inl ⟨funext fun attemptId => ?_, fun _ _ hmem hcommit => hwritten ⟨_, _, hmem, hcommit⟩⟩
    rcases exec_attempt h deliveryId attemptId with hsame | ⟨update, hmem, hcommit, -⟩
    · exact hsame
    · exact absurd ⟨attemptId, update, hmem, hcommit⟩ hwritten

end Exec

/-- The updates that come with their attempt. -/
def DeliveryUpdate.withAttempt : DeliveryUpdate → Bool
  | .beginAttempt _ _ | .completeAttempt _ _ | .feedback _ _ _ _ => true
  | _ => false

/-- The others say the same about attempts. -/
theorem DeliveryUpdate.rowEffect_attempts (h : update.withAttempt = false) (row : DeliveryRow) :
    (update.rowEffect row).lastAttemptId = row.lastAttemptId ∧
      (update.rowEffect row).providerAttemptId = row.providerAttemptId ∧
      (update.rowEffect row).providerMessageId = row.providerMessageId := by
  cases update with
  | beginAttempt record request | completeAttempt record completion
  | feedback current nextState decision now => cases h
  | transition record step => cases step <;> exact ⟨rfl, rfl, rfl⟩
  | releaseRecovery recovery release => cases release <;> exact ⟨rfl, rfl, rfl⟩
  | _ => exact ⟨rfl, rfl, rfl⟩

/-- What was sent does not return to where it was not. -/
theorem stateEdge_unsent {state next : DeliveryState} (h : stateEdge state next = true)
    (hunsent : next.unsent = true) : state.unsent = true := by
  revert h hunsent
  cases state <;> cases next <;> decide

variable {attempt : AttemptRow}

/-- A settled record says so of its row. -/
theorem DeliveryRecord.Settled.row {row : DeliveryRow} (h : record.Settled s)
    (htells : record.Tells row) (hlast : row.lastAttemptId = some attemptId)
    (hatt : s.attempt record.delivery.deliveryId attemptId = some attempt) :
    attempt.outcome ≠ .started := by
  obtain ⟨attempt', hatt', hended⟩ := h attemptId (htells.lastAttemptId ▸ hlast)
  cases hatt.symm.trans hatt'
  exact hended

variable {row : DeliveryRow}

/-- A delivery that moves alone fits the attempts it has. -/
theorem DeliveryUpdate.Grounds.fits (h : update.Grounds P s items outboxId deliveryId)
    (hrow : s.delivery outboxId deliveryId = some row) (hcond : update.rowCondition row = true)
    (hfits : row.Fits (s.attempt deliveryId)) (halone : update.withAttempt = false) :
    (update.rowEffect row).Fits (s.attempt deliveryId) := by
  obtain ⟨hlast, hatt, hmsg⟩ := update.rowEffect_attempts halone row
  have hid : (update.rowEffect row).deliveryId = row.deliveryId :=
    congrArg (fun identity : DeliveryIdentity => identity.deliveryId) (update.rowEffect_identity row)
  refine hfits.move hid hlast hatt hmsg
    (stateEdge_unsent (h.wellFormed.edge hcond)) ?_
  intro hdeferred
  rw [DeliveryUpdate.rowEffect_state] at hdeferred
  -- Only a worker defers a delivery, and its last attempt has ended.
  cases update with
  | transition =>
    obtain ⟨hat, hknown, -, hsettled, -⟩ := h
    have htells := hknown.tells_owned hat hrow hcond
    obtain ⟨rfl, rfl⟩ := hat
    exact .inr fun hlast' hatt' => hsettled.row htells hlast' hatt'
  | releaseRecovery recovery release => cases release <;> cases hdeferred
  | beginAttempt record request | completeAttempt record completion
  | feedback current nextState decision now => cases halone
  | repairPublication record now | claim record request | markQueued work => cases hdeferred
  | _ => exact .inl hdeferred

/-! ## Attempts with their deliveries -/

/-- A known delivery is in the outbox of its identifier. -/
theorem Known.outboxId_eq (h : Known record s) (hbase : Base P s) :
    record.delivery.outboxId = record.delivery.deliveryId.outboxId := by
  obtain ⟨row, hrow, -⟩ := h.exists_row
  exact hbase.outboxId_eq hrow

/-- What feedback makes of the attempt that it has read. -/
theorem Reconciliation.Justified.reported {attempt' : AttemptRow} (h : plan.Justified P s event)
    (hcond : (AttemptUpdate.feedback plan.attempt event now).condition (some attempt) = true)
    (heff : (AttemptUpdate.feedback plan.attempt event now).effect (some attempt) =
      some attempt') : DeliveryRow.Fits.Reported event attempt attempt' := by
  simp only [AttemptUpdate.condition, Bool.and_eq_true, decide_eq_true_eq] at hcond
  obtain ⟨⟨⟨⟨-, -⟩, hout⟩, hprov⟩, hmsg⟩ := hcond
  have hassociated : ∀ messageId, plan.attempt.providerMessageId = some messageId →
      messageId = event.providerMessageId := by
    intro messageId hid
    have hatt := h.attempt
    simp only [attemptAssociated, hid, Bool.and_eq_true, Option.all_some, decide_eq_true_eq]
      at hatt
    exact hatt.2
  cases heff
  refine ⟨rfl, rfl, congrArg (nextAttemptOutcome · event) hout.symm, ?_, ?_, ?_⟩
  · rw [hprov]
  · rw [hmsg]
    exact hassociated
  · cases hid : plan.attempt.providerMessageId with
    | none => rfl
    | some messageId => rw [hassociated messageId hid]; rfl

/-- A reconciliation finds again what it decided on. -/
theorem Reconciliation.Justified.current (h : plan.Justified P s event)
    (hrow : s.delivery plan.attempt.outboxId event.deliveryId = some row)
    (hread : row.asRead plan.delivery = true) : row.core = plan.delivery.core := by
  obtain ⟨current, hcur, hle⟩ := h.seen
  cases hrow.symm.trans hcur
  exact hle.core (DeliveryRow.asRead_revision hread)

/-- Leases do not matter to feedback. -/
theorem reconcileDeliveryProviderMetadata_core {row' : DeliveryRow}
    (h : row.core = row'.core) (event : FeedbackEvent) :
    reconcileDeliveryProviderMetadata row event = reconcileDeliveryProviderMetadata row' event := by
  change reconcileDeliveryProviderMetadata row.core event =
    reconcileDeliveryProviderMetadata row'.core event
  rw [h]

/-- Who owns the metadata. -/
theorem reconcileDeliveryProviderMetadata_owns (row : DeliveryRow) (event : FeedbackEvent) :
    (reconcileDeliveryProviderMetadata row event).ownsAggregate = row.ownsAggregate event := by
  unfold reconcileDeliveryProviderMetadata
  split
  next h => exact h.symm
  next h => exact (Bool.not_eq_true _ ▸ h).symm

/-- The delivery stays or moves alone, or goes with an attempt. -/
inductive DeliveryStep (P : Platform) (s t : Store) (items : List Item) (outboxId : OutboxId)
    (deliveryId : DeliveryId) (row row' : DeliveryRow) : Prop
  | kept (hattempts : t.attempt deliveryId = s.attempt deliveryId) (hrow' : row' = row)
  | moved (update : DeliveryUpdate) (hattempts : t.attempt deliveryId = s.attempt deliveryId)
      (hmem : Item.delivery outboxId deliveryId update ∈ items)
      (hgrounds : update.Grounds P s items outboxId deliveryId)
      (hcondition : update.rowCondition row = true) (halone : update.withAttempt = false)
      (hrow' : row' = update.rowEffect row)
  | begun (record : DeliveryRecord) (request : BeginAttemptRequest) (htells : record.Tells row)
      (hmem : Item.delivery outboxId deliveryId (.beginAttempt record request) ∈ items)
      (hsettled : record.Settled s) (hid : record.delivery.deliveryId = deliveryId)
      (hstate : row.state = .processing) (hvalid : validateIdentityField request.attemptId = true)
      (hnone : s.attempt deliveryId request.attemptId = none)
      (hrow' : row' = (DeliveryUpdate.beginAttempt record request).rowEffect row)
      (hreplaced : Attempts.Replaced (s.attempt deliveryId) (t.attempt deliveryId)
        request.attemptId (startedAttempt record request))
  | completed (record : DeliveryRecord) (completion : AttemptCompletion) (attempt : AttemptRow)
      (hmem : Item.delivery outboxId deliveryId (.completeAttempt record completion) ∈ items)
      (hvalid : validateCompletion completion = true) (hstate : row.state = .processing)
      (hlast : row.lastAttemptId = some completion.attemptId)
      (hattempt : s.attempt deliveryId completion.attemptId = some attempt)
      (hstarted : attempt.outcome = .started)
      (hcompatible : completion.Compatible row.providerAttemptId row.providerMessageId)
      (hrow' : row' = (DeliveryUpdate.completeAttempt record completion).rowEffect row)
      (hreplaced : Attempts.Replaced (s.attempt deliveryId) (t.attempt deliveryId)
        completion.attemptId (attempt.completed completion))
  | completedBeside (completion : AttemptCompletion) (attempt : AttemptRow)
      (hvalid : validateCompletion completion = true) (hterminal : row.state.terminal = true)
      (hattempt : s.attempt deliveryId completion.attemptId = some attempt)
      (hstarted : attempt.outcome = .started)
      (hcompatible : completion.Compatible row.providerAttemptId row.providerMessageId)
      (hrow' : row' = row)
      (hreplaced : Attempts.Replaced (s.attempt deliveryId) (t.attempt deliveryId)
        completion.attemptId (attempt.completed completion))
  | reported (event : FeedbackEvent) (attempt attempt' : AttemptRow) (current : DeliveryRow)
      (nextState : DeliveryState) (now : Instant) (hvalid : event.valid = true)
      (hmem : Item.delivery outboxId deliveryId (.feedback current nextState
        (reconcileDeliveryProviderMetadata row event) now) ∈ items)
      (hattempt : s.attempt deliveryId event.attemptId = some attempt)
      (hreported : DeliveryRow.Fits.Reported event attempt attempt')
      (howns : row.ownsAggregate event = true)
      (hnext : reconciledDeliveryState row.state event
        (reconcileDeliveryProviderMetadata row event) = some nextState)
      (hrow' : row' = (DeliveryUpdate.feedback current nextState
        (reconcileDeliveryProviderMetadata row event) now).rowEffect row)
      (hreplaced : Attempts.Replaced (s.attempt deliveryId) (t.attempt deliveryId)
        event.attemptId attempt')
  | reportedBeside (event : FeedbackEvent) (attempt attempt' : AttemptRow)
      (hvalid : event.valid = true) (hattempt : s.attempt deliveryId event.attemptId = some attempt)
      (hreported : DeliveryRow.Fits.Reported event attempt attempt')
      (howns : row.ownsAggregate event = false) (hrow' : row' = row)
      (hreplaced : Attempts.Replaced (s.attempt deliveryId) (t.attempt deliveryId)
        event.attemptId attempt')

section Steps

variable {op : Op} {outcome : Outcome} {s t : Store} {reply : Reply op} {outboxId : OutboxId}
  {deliveryId : DeliveryId} {row row' : DeliveryRow} {attemptId : String} {attempt : AttemptRow}

/-- Delivery and attempt are written in one transaction. -/
theorem Justified.alone (hjustified : Justified P s op) (hbase : Base P s)
    (hmem : Item.delivery outboxId deliveryId update ∈ op.items)
    (hnot : ∀ attemptId update, Item.attempt deliveryId attemptId update ∉ op.items) :
    update.withAttempt = false := by
  have hgrounds := hjustified.grounds hbase hmem
  cases update with
  | beginAttempt record request =>
    obtain ⟨⟨-, rfl⟩, -, -, -, -, hitems⟩ := hgrounds
    refine absurd ?_ (hnot request.attemptId (.put (startedAttempt record request)))
    rw [hitems]
    simp [beginAttemptItems]
  | completeAttempt record completion =>
    obtain ⟨⟨-, rfl⟩, -, -, -, -, ⟨recovery, hitems⟩, -⟩ := hgrounds
    refine absurd ?_ (hnot completion.attemptId (.complete completion))
    rw [hitems]
    exact List.mem_cons_self
  | feedback current nextState decision now =>
    obtain ⟨retention, event, plan, -, -, hitems, -, rfl, -⟩ := hgrounds
    refine absurd ?_ (hnot event.attemptId (.feedback plan.attempt event now))
    rw [hitems]
    exact reconcileTransaction_items.mpr (.inr (.inr (.inl rfl)))
  | _ => rfl

section Committed

variable (hbase : Base P s) (hjustified : Justified P s op) (hcommit : Committed op.items s t)
  (hrow : s.delivery outboxId deliveryId = some row)
  (hrow' : t.delivery outboxId deliveryId = some row')

include hcommit hrow hrow' in
/-- The update of a delivery in a committed transaction. -/
theorem Committed.update_row (hmem : Item.delivery outboxId deliveryId update ∈ op.items) :
    update.rowCondition row = true ∧ row' = update.rowEffect row := by
  obtain ⟨hcond, heff⟩ := hcommit.mem_delivery hmem
  rw [hrow] at hcond heff
  exact ⟨hcond, Option.some.inj (hrow'.symm.trans heff)⟩

include hbase hjustified hcommit hrow hrow'

theorem Base.step_put (hmem : Item.attempt deliveryId attemptId (.put attempt) ∈ op.items)
    (hnone : s.attempt deliveryId attemptId = none)
    (hrepl : Attempts.Replaced (s.attempt deliveryId) (t.attempt deliveryId) attemptId attempt) :
    DeliveryStep P s t op.items outboxId deliveryId row row' := by
  obtain ⟨record, request, hitems, hknown, -, rfl, rfl, rfl⟩ := hjustified.attemptGrounds hmem
  cases (hbase.outboxId_eq hrow).trans (hknown.outboxId_eq hbase).symm
  have hdeliv : record.item (.beginAttempt record request) ∈ op.items := by
    rw [hitems]
    exact List.mem_cons_self
  obtain ⟨-, -, -, hvalid, hsettled, -⟩ := hjustified.grounds hbase hdeliv
  obtain ⟨hcond, heff⟩ := hcommit.update_row hrow hrow' hdeliv
  simp only [DeliveryUpdate.rowCondition, Bool.and_eq_true] at hcond
  exact .begun record request (hknown.tells_owned ⟨rfl, rfl⟩ hrow hcond.1.1) hdeliv hsettled
    rfl (DeliveryRow.ownedBy_state hcond.1.1) hvalid hnone heff hrepl

theorem Base.step_complete
    (hmem : Item.attempt deliveryId attemptId (.complete completion) ∈ op.items)
    (hatt : s.attempt deliveryId attemptId = some attempt) (hstart : attempt.outcome = .started)
    (hrepl : Attempts.Replaced (s.attempt deliveryId) (t.attempt deliveryId) attemptId
      (attempt.completed completion)) :
    DeliveryStep P s t op.items outboxId deliveryId row row' := by
  obtain ⟨record, recovery, hitems, hknown, rfl, rfl, hvalid⟩ := hjustified.attemptGrounds hmem
  cases (hbase.outboxId_eq hrow).trans (hknown.outboxId_eq hbase).symm
  have hdeliv : record.item (.completeAttempt record completion) ∈ op.items := by
    rw [hitems]
    simp [completeAttemptItems]
  obtain ⟨-, -, -, -, hcompat, -⟩ := hjustified.grounds hbase hdeliv
  obtain ⟨hcond, heff⟩ := hcommit.update_row hrow hrow' hdeliv
  simp only [DeliveryUpdate.rowCondition, Bool.and_eq_true, decide_eq_true_eq] at hcond
  have htells := hknown.tells_owned ⟨rfl, rfl⟩ hrow hcond.1.1
  rw [← htells.providerAttemptId, ← htells.providerMessageId] at hcompat
  exact .completed record completion attempt hdeliv hvalid
    (DeliveryRow.ownedBy_state hcond.1.1) hcond.2 hatt hstart hcompat heff
    hrepl

theorem Base.step_completeBeside {checked : DeliveryId}
    (hmem : Item.attempt deliveryId attemptId (.completeBesideTerminal checked completion) ∈
      op.items)
    (hatt : s.attempt deliveryId attemptId = some attempt) (hstart : attempt.outcome = .started)
    (hrepl : Attempts.Replaced (s.attempt deliveryId) (t.attempt deliveryId) attemptId
      (attempt.completed completion)) :
    DeliveryStep P s t op.items outboxId deliveryId row row' := by
  obtain ⟨refreshed, hknown, rfl, rfl, hvalid, hdeliv, hcompat⟩ := hjustified.attemptGrounds hmem
  cases (hbase.outboxId_eq hrow).trans (hknown.outboxId_eq hbase).symm
  have hterm : refreshed.delivery.state.terminal = true := hjustified.grounds hbase hdeliv
  obtain ⟨hcond, heff⟩ := hcommit.update_row hrow hrow' hdeliv
  simp only [DeliveryUpdate.rowCondition, Bool.and_eq_true, decide_eq_true_eq] at hcond
  have htells := hknown.tells hrow hcond.2
  rcases hcompat with hcompat | ⟨later, hlater, hlt⟩
  · rw [← htells.providerAttemptId, ← htells.providerMessageId] at hcompat
    exact .completedBeside completion attempt hvalid (hcond.1 ▸ hterm) hatt hstart
      hcompat heff hrepl
  · cases hrow.symm.trans hlater
    exact absurd hcond.2 (Nat.ne_of_gt hlt)

theorem Base.step_feedback {current new : AttemptRow}
    (hmem : Item.attempt deliveryId attemptId (.feedback current event now) ∈ op.items)
    (hatt : s.attempt deliveryId attemptId = some attempt)
    (hcond : (AttemptUpdate.feedback current event now).condition (some attempt) = true)
    (heff : (AttemptUpdate.feedback current event now).effect (some attempt) = some new)
    (hrepl : Attempts.Replaced (s.attempt deliveryId) (t.attempt deliveryId) attemptId new) :
    DeliveryStep P s t op.items outboxId deliveryId row row' := by
  obtain ⟨retention, plan, hitems, hplan, rfl, rfl, rfl⟩ := hjustified.attemptGrounds hmem
  obtain ⟨seen, hseen, -⟩ := hplan.seen
  cases (hbase.outboxId_eq hrow).trans (hbase.outboxId_eq hseen).symm
  have hrep := hplan.reported hcond heff
  have hdeliv : plan.deliveryItem event now ∈ op.items := by
    rw [hitems]
    exact reconcileTransaction_items.mpr (.inr (.inr (.inr (.inl rfl))))
  unfold Reconciliation.deliveryItem at hdeliv
  obtain ⟨hread, hafter⟩ := hcommit.update_row hrow hrow' hdeliv
  have hread' : row.asRead plan.delivery = true := by
    revert hread
    cases plan.decision.ownsAggregate <;> exact id
  -- The row is the one that was read, so the decision is about it.
  have hdecis : plan.decision = reconcileDeliveryProviderMetadata row event :=
    hplan.decision.trans (reconcileDeliveryProviderMetadata_core
      (hplan.current hrow hread').symm event)
  have howns : plan.decision.ownsAggregate = row.ownsAggregate event := by
    rw [hdecis, reconcileDeliveryProviderMetadata_owns]
  cases howner : row.ownsAggregate event with
  | true =>
    have hnext := hplan.nextState
    rw [← DeliveryRow.asRead_state hread', hdecis] at hnext
    rw [howns, howner, if_pos rfl, hdecis] at hdeliv
    rw [howns, howner, hdecis] at hafter
    exact .reported event attempt new plan.delivery plan.nextState now hplan.event_valid hdeliv
      hatt hrep howner hnext hafter hrepl
  | false =>
    rw [howns, howner] at hafter
    exact .reportedBeside event attempt new hplan.event_valid hatt hrep howner hafter
      hrepl

end Committed

/-- What a justified operation can do to a delivery and its attempts. -/
theorem Base.exec_step (hbase : Base P s) (hjustified : Justified P s op)
    (h : exec P op outcome s = some (reply, t)) (hrow : s.delivery outboxId deliveryId = some row)
    (hrow' : t.delivery outboxId deliveryId = some row') :
    DeliveryStep P s t op.items outboxId deliveryId row row' := by
  rcases exec_attempts_cases hjustified h deliveryId with
    ⟨hsame, hnot⟩ | ⟨attemptId, update, new, hmem, hcommit, hcond, heff, hrepl⟩
  · rcases exec_delivery h hrow with hkept | ⟨update, hmem, hcommit, hcond, heff⟩
    · exact .kept hsame (Option.some.inj (hrow'.symm.trans hkept))
    · exact .moved update hsame hmem (hjustified.grounds hbase hmem) hcond
        (hjustified.alone hbase hmem fun attemptId update hitem =>
          hnot attemptId update hitem hcommit)
        (Option.some.inj (hrow'.symm.trans heff))
  · cases hatt : s.attempt deliveryId attemptId with
    | none =>
      rw [hatt] at hcond heff
      cases update <;> cases hcond
      cases heff
      exact hbase.step_put hjustified hcommit hrow hrow' hmem hatt hrepl
    | some =>
      rw [hatt] at hcond heff
      cases update with
      | put => cases hcond
      | complete =>
        cases heff
        simp only [AttemptUpdate.condition, decide_eq_true_eq] at hcond
        exact hbase.step_complete hjustified hcommit hrow hrow' hmem hatt hcond
          hrepl
      | completeBesideTerminal =>
        cases heff
        simp only [AttemptUpdate.condition, Bool.and_eq_true, decide_eq_true_eq] at hcond
        exact hbase.step_completeBeside hjustified hcommit hrow hrow' hmem hatt
          hcond.2 hrepl
      | feedback =>
        exact hbase.step_feedback hjustified hcommit hrow hrow' hmem hatt hcond heff
          hrepl

/-- A delivery fits its attempts after every step. -/
theorem DeliveryStep.fits (h : DeliveryStep P s t items outboxId deliveryId row row')
    (hrow : s.delivery outboxId deliveryId = some row) (hid : row.deliveryId = deliveryId)
    (hfits : row.Fits (s.attempt deliveryId)) : row'.Fits (t.attempt deliveryId) := by
  cases h with
  | kept hattempts hrow' =>
    rw [hattempts, hrow']
    exact hfits
  | moved update hattempts hmem hgrounds hcond halone hrow' =>
    rw [hattempts, hrow']
    exact hgrounds.fits hrow hcond hfits halone
  | begun record request htells hmem hsettled hrecord hstate hvalid hnone hrow' hrepl =>
    rw [hrow']
    refine hfits.beginAttempt hstate (hrecord.trans hid.symm) hvalid hnone hrepl ?_
    exact fun hlast hatt => hsettled.row htells hlast (hrecord ▸ hatt)
  | completed record completion attempt hmem hvalid hstate hlast hatt hstart hcompat hrow'
      hrepl =>
      rw [hrow']
      refine hfits.complete hlast hatt (validateCompletion_outcome hvalid) ?_ hrepl
      obtain ⟨hnext, -⟩ := validateCompletion_nextState hvalid
      revert hnext
      cases completion.nextState <;> decide
  | completedBeside completion attempt hvalid hterm hatt hstart hcompat hrow'
      hrepl =>
      rw [hrow']
      exact hfits.completeBeside hatt (validateCompletion_outcome hvalid) hcompat hrepl
  | reported event attempt attempt' current nextState now hvalid hmem hatt hrep howns hnext
      hrow' hrepl =>
      rw [hrow']
      exact hfits.feedback hatt hrep howns hnext hrepl
  | reportedBeside event attempt attempt' hvalid hatt hrep howns hrow' hrepl =>
    rw [hrow']
    exact hfits.feedbackBeside hatt hrep howns hrepl

/-- A delivery with an attempt existed before. -/
theorem Base.delivery_of_attempt (hbase : Base P s) (hjustified : Justified P s op)
    (h : exec P op outcome s = some (reply, t))
    (hatt : t.attempt deliveryId attemptId = some attempt) :
    ∃ row, s.delivery deliveryId.outboxId deliveryId = some row := by
  cases hrow : s.attempt deliveryId attemptId with
  | some => exact hbase.attempted hrow
  | none =>
    obtain ⟨record, request, hstart, rfl, -, -⟩ := exec_attempt_new hjustified h hrow hatt
    obtain ⟨delivery, hdeliv, -⟩ := hstart.delivery
    have houtbox := hbase.outboxId_eq hdeliv
    exact ⟨delivery, houtbox ▸ hdeliv⟩

end Steps

/-- A new delivery is valid, unclaimed, and indexed if pending. -/
theorem PageItem.created {P : Platform}
    {snapshot : DeliverySnapshot} {availableAt : Instant} {index : Option RelayIndexKey}
    (h : PageItem P items (.delivery outboxId deliveryId (.create snapshot availableAt index))) :
    snapshot.valid P = true ∧ snapshot.toDeliveryIdentity.Placed P outboxId deliveryId ∧
      (snapshot.state = .pending ∧ index.isSome = true ∨ snapshot.state = .cancelled ∨
        snapshot.state = .waitingDependency) := by
  have hident : ∀ {snapshot : DeliverySnapshot}, snapshot.valid P = true → _ :=
    fun hvalid => (DeliverySnapshot.valid_iff.mp hvalid).1
  cases h with
  | pending availableAt index hvalid hplace hstate =>
    exact ⟨hvalid, ⟨rfl, rfl, hident hvalid, hplace⟩, .inl ⟨hstate, rfl⟩⟩
  | cancelled availableAt hvalid hplace hstate =>
    exact ⟨hvalid, ⟨rfl, rfl, hident hvalid, hplace⟩, .inr (.inl hstate)⟩
  | waiting availableAt opening hvalid hplace hstate =>
    exact ⟨hvalid, ⟨rfl, rfl, hident hvalid, hplace⟩, .inr (.inr hstate)⟩

/-- Justified operations keep deliveries in their place. -/
theorem Base.exec {op : Op} {outcome : Outcome} {t : Store} {reply : Reply op}
    (hbase : Base P s) (hjustified : Justified P s op)
    (h : exec P op outcome s = some (reply, t)) : Base P t := by
  have hevolves : Evolves s t := exec_evolves (hjustified.wellFormed hbase) h
  -- A delivery that exists keeps its identity; a new one comes from a page.
  have hcases : ∀ {outboxId deliveryId row}, t.delivery outboxId deliveryId = some row →
      (∃ old, s.delivery outboxId deliveryId = some old ∧ old.Le row) ∨
        s.delivery outboxId deliveryId = none ∧
          row.toDeliveryIdentity.Placed P outboxId deliveryId ∧
          ∃ snapshot availableAt index,
            row = DeliveryRow.ofSnapshot snapshot availableAt index := by
    intro outboxId deliveryId row hrow
    cases hold : s.delivery outboxId deliveryId with
    | some old =>
      obtain ⟨row', hrow', hle⟩ := hevolves.delivery hold
      rw [hrow] at hrow'
      cases hrow'
      exact .inl ⟨old, rfl, hle⟩
    | none =>
      obtain ⟨snapshot, availableAt, index, hmem, -, rfl⟩ := exec_delivery_new h hold hrow
      exact .inr ⟨rfl, (PageItem.created (hjustified.grounds hbase hmem)).2.1, _, _, _, rfl⟩
  refine ⟨?_, ?_, ?_, ?_⟩
  · intro outboxId deliveryId row hrow
    rcases hcases hrow with ⟨old, hold, hle⟩ | ⟨-, hplaced, -⟩
    · rw [hle.identity]
      exact hbase.placed hold
    · exact hplaced
  · intro outboxId deliveryId row hrow
    rcases hcases hrow with ⟨old, hold, hle⟩ | ⟨-, -, snapshot, availableAt, index, rfl⟩
    · exact Nat.le_trans (hbase.revision hold) hle.revision
    · exact Nat.le_refl 1
  · intro outboxId deliveryId row hrow
    rcases hcases hrow with ⟨old, hold, -⟩ | ⟨hnone, hplaced, snapshot, availableAt, index, rfl⟩
    · exact (hbase.exec_step hjustified h hold hrow).fits hold (hbase.placed hold).delivery
        (hbase.fits hold)
    · refine DeliveryRow.Fits.ofSnapshot snapshot availableAt index fun attemptId => ?_
      cases hatt : t.attempt deliveryId attemptId with
      | none => rfl
      | some =>
        obtain ⟨row, hrow'⟩ := hbase.delivery_of_attempt hjustified h hatt
        have hid := DeliveryIdentity.deliveryId_of_valid hplaced.valid
        rw [hplaced.delivery] at hid
        have houtbox : outboxId = deliveryId.outboxId := by
          rw [hplaced.canonical, hid]
          rfl
        rw [← houtbox, hnone] at hrow'
        cases hrow'
  · intro deliveryId attemptId attempt hatt
    obtain ⟨row, hrow⟩ := hbase.delivery_of_attempt hjustified h hatt
    obtain ⟨row', hrow', -⟩ := hevolves.delivery hrow
    exact ⟨row', hrow'⟩

/-- Who writes what in the notification system. -/
def discipline (P : Platform) : Discipline (notificationMachine P) where
  justified op s := Justified P s op
  invariant := Base P
  rely := Evolves
  refl := Evolves.refl
  trans := Evolves.trans

/-- The invariant is kept. -/
theorem discipline_keeps (P : Platform) (guard : Op → Outcome → Store → Prop) :
    (discipline P).Keeps guard := by
  intro op choice s reply t hbase hjustified _ h
  exact ⟨hbase.exec hjustified h, exec_evolves (hjustified.wellFormed hbase) h⟩

end LimnoPulse.Notifications
