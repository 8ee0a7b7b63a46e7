import LimnoPulse.Notifications.RelaySoundness

/-!
# The life of a delivery

Relay, workers and feedback write the state of a delivery under conditions of their
own.  Together they move it along the edges of the state machine, count its revision
and its lease epoch up, and never forget that a message may have been accepted.

Main results:

- Theorem `delivery_lifecycle`: states, revisions and lease epochs along runs.
- Theorem `possibly_accepted_never_failed`: only a rejection by the provider fails
  a delivery that may have been accepted.
-/

namespace LimnoPulse.Notifications

open CivilTime StoreProgram

variable {P : Platform}
variable {update : DeliveryUpdate} {s : Store} {outboxId : OutboxId} {deliveryId : DeliveryId}
  {row : DeliveryRow} {items : List Item} {op : Op} {outcome : Outcome} {t : Store}
  {reply : Reply op} {event : FeedbackEvent}

/-- The lease epoch, zero without one. -/
def DeliveryRow.epoch (row : DeliveryRow) : Nat := row.leaseEpoch.getD 0

/-- How a delivery changes in one operation. -/
structure DeliveryRow.Advances (before after : DeliveryRow) : Prop where
  edge : after.state ≠ before.state →
    (deliveryTransitions before.state).contains after.state = true ∨
      feedbackEdge before.state after.state = true
  kept : before.state = .cancelled ∨ before.state = .permanentFailed →
    after.state = before.state
  revision : after.state ≠ before.state → before.revision < after.revision
  epoch : before.epoch ≤ after.epoch

theorem DeliveryRow.Advances.refl (row : DeliveryRow) : row.Advances row where
  edge h := absurd rfl h
  kept _ := rfl
  revision h := absurd rfl h
  epoch := Nat.le_refl _

/-- Only a claim writes the lease epoch. -/
theorem DeliveryUpdate.rowEffect_epoch (h : ∀ record request, update ≠ .claim record request)
    (row : DeliveryRow) : (update.rowEffect row).leaseEpoch = row.leaseEpoch := by
  fun_cases rowEffect update row with
  | case2 record request => exact absurd rfl (h record request)
  | case4 record step => cases step <;> rfl
  | _ => rfl

/-- A claim that commits counts the epoch of the row up. -/
theorem claim_epoch {record : DeliveryRecord} {request : ClaimRequest}
    (hat : record.At outboxId deliveryId) (hknown : Known record s)
    (hrow : s.delivery outboxId deliveryId = some row)
    (hcond : (DeliveryUpdate.claim record request).rowCondition row = true) :
    ((DeliveryUpdate.claim record request).rowEffect row).epoch = row.epoch + 1 := by
  obtain ⟨rfl, rfl⟩ := hat
  simp only [DeliveryUpdate.rowCondition, Bool.and_eq_true, decide_eq_true_eq] at hcond
  have htells := hknown.tells hrow hcond.1.2
  change record.leaseEpoch + 1 = row.leaseEpoch.getD 0 + 1
  rw [htells.leaseEpoch]

/-- A grounded update advances its delivery. -/
theorem DeliveryUpdate.Grounds.advances (h : update.Grounds P s items outboxId deliveryId)
    (hrow : s.delivery outboxId deliveryId = some row) (hcond : update.rowCondition row = true) :
    row.Advances (update.rowEffect row) where
  edge := by
    intro hne
    have hedge := h.wellFormed.edge hcond
    simp only [stateEdge, Bool.or_eq_true, decide_eq_true_eq] at hedge
    rcases hedge with (hsame | hlisted) | hfeedback
    · exact absurd hsame hne
    · exact .inl hlisted
    · exact .inr hfeedback
  kept := by
    intro hstate
    have hedge := h.wellFormed.edge hcond
    revert hedge
    rcases hstate with hstate | hstate <;> rw [hstate] <;>
      cases (update.rowEffect row).state <;> decide
  revision := by
    intro hne
    rcases rowEffect_revision hcond with hnext | ⟨-, hcore⟩
    · omega
    · exact absurd (congrArg (fun r : DeliveryRow => r.state) hcore) hne
  epoch := by
    by_cases hclaim : ∃ record request, update = .claim record request
    · obtain ⟨record, request, rfl⟩ := hclaim
      rw [claim_epoch h.1 h.2.1 hrow hcond]
      exact Nat.le_succ _
    · rw [DeliveryRow.epoch, DeliveryRow.epoch,
        rowEffect_epoch (fun record request heq => hclaim ⟨record, request, heq⟩)]

/-! ## Runs -/

/-- Every delivery stays, and advances. -/
def DeliveriesAdvance (s t : Store) : Prop :=
  ∀ outboxId deliveryId row, s.delivery outboxId deliveryId = some row →
    ∃ row', t.delivery outboxId deliveryId = some row' ∧ row.Advances row'

/-- A claim in effect counts the epoch up. -/
def ClaimsCountUp (P : Platform) (op : Op) (outcome : Outcome) (s : Store) : Prop :=
  ∀ outboxId deliveryId record request reply t,
    op = .updateDelivery outboxId deliveryId (.claim record request) →
    exec P op outcome s = some (reply, t) → t ≠ s →
    ∃ row row', s.delivery outboxId deliveryId = some row ∧
      t.delivery outboxId deliveryId = some row' ∧ row.epoch < row'.epoch

/-- Operations move deliveries on. -/
theorem exec_advances (hbase : Base P s)
    (hjust : Justified P s op) (h : exec P op outcome s = some (reply, t)) :
    DeliveriesAdvance s t := by
  intro outboxId deliveryId row hrow
  rcases exec_delivery h hrow with hsame | ⟨update, hmem, -, hcond, heff⟩
  · exact ⟨row, hsame, .refl row⟩
  · exact ⟨_, heff, (hjust.grounds hbase hmem).advances hrow hcond⟩

/-- Claims count leases up. -/
theorem claims_count_up (hbase : Base P s) (hjust : Justified P s op) :
    ClaimsCountUp P op outcome s := by
  rintro outboxId deliveryId record request reply t rfl h hne
  have hmem : Item.delivery outboxId deliveryId (.claim record request) ∈
      Op.items (.updateDelivery outboxId deliveryId (.claim record request)) := List.mem_cons_self
  have hgrounds := hjust.grounds hbase hmem
  rcases update_committed (Option.some.inj h) with ⟨hsame, -⟩ | ⟨hcommit, -⟩
  · exact absurd hsame hne
  · obtain ⟨hcond, heff⟩ := hcommit.mem_delivery List.mem_cons_self
    cases hrow : s.delivery outboxId deliveryId with
    | none =>
      rw [hrow] at hcond
      cases hcond
    | some row =>
      rw [hrow] at hcond heff
      refine ⟨row, _, rfl, heff, ?_⟩
      rw [claim_epoch hgrounds.1 hgrounds.2.1 hrow hcond]
      exact Nat.lt_succ_self _

/-- Over every run, deliveries move along the edges of the state machine or of provider feedback,
cancelled and failed ones stay so, revisions grow with every change of the state, and lease epochs
never fall and grow with every claim. -/
theorem delivery_lifecycle {s : Store} {as : List (Action Outcome Call)}
    {w : World Store Call CallResult Op Reply} (hbase : Base P s)
    (hrun : (notificationMachine P).run (Machine.initial s) as = some w) :
    (notificationMachine P).EveryStep DeliveriesAdvance (Machine.initial s) as ∧
      (notificationMachine P).Guarded (ClaimsCountUp P) (Machine.initial s) as := by
  obtain ⟨hguarded, -, -⟩ := run_disciplined hbase hrun
  refine ⟨hguarded.everyStep ?_ ?_ hrun, hguarded.mono ?_⟩
  · exact fun s _ _ row hrow => ⟨row, hrow, .refl row⟩
  · exact fun _ _ _ _ _ h hexec => exec_advances h.1 h.2 hexec
  · exact fun _ _ _ h => claims_count_up h.1 h.2

open OneRecipient

/-- A delivery that is sent at the first try. -/
theorem delivery_lifecycle_of_sent : ∃ w,
    machine.run initial sent = some w ∧ (deliveryOf .opening w).map (·.state) = some .succeeded ∧
      machine.EveryStep DeliveriesAdvance initial sent ∧
      machine.Guarded (ClaimsCountUp platform) initial
        sent := by
  have hfinal : (machine.run initial sent).map (fun w =>
      (deliveryOf .opening w).map (·.state)) = some (some .succeeded) := by
    decide +kernel
  obtain ⟨w, hrun, hstate⟩ := Option.map_eq_some_iff.mp hfinal
  exact ⟨w, hrun, hstate, delivery_lifecycle store_fresh.base hrun⟩

/-- From any reachable store on, deliveries stay, keep their identity and do not leave a terminal
state, and a row that was read is current while its revision is stored. -/
theorem revisions_name_contents {as bs : List (Action Outcome Call)}
    {u w : World Store Call CallResult Op Reply} (hbase : Base P s)
    (hrun : (notificationMachine P).run (Machine.initial s) as = some u)
    (hrest : (notificationMachine P).run u bs = some w) : Evolves u.store w.store := by
  have hall := (Machine.run_append hrun).trans hrest
  obtain ⟨hguarded, -, -⟩ := run_disciplined hbase hall
  have hsteps := hguarded.everyStep (R := Evolves) .refl
    (fun _ _ _ _ _ h hexec => exec_evolves (h.2.wellFormed h.1) hexec) hall
  exact ((hsteps.of_append hrun).always (fun _ _ h hs => hs.trans h) (.refl _)).last hrest

theorem revisions_name_contents_of_sent : ∃ u w, machine.run initial (sent.take 9) = some u ∧
    machine.run u (sent.drop 9) = some w ∧ Evolves u.store w.store := by
  have hall : ((machine.run initial (sent.take 9)).bind (machine.run · (sent.drop 9))).isSome := by
    decide +kernel
  obtain ⟨w, hw⟩ := Option.isSome_iff_exists.mp hall
  obtain ⟨u, hrun, hrest⟩ := Option.bind_eq_some_iff.mp hw
  exact ⟨u, w, hrun, hrest, revisions_name_contents store_fresh.base hrun hrest⟩

/-! ## Messages that may have been accepted -/

/-- No update forgets a possible acceptance. -/
theorem DeliveryUpdate.Grounds.possiblyAccepted (h : update.Grounds P s items outboxId deliveryId)
    (hrow : s.delivery outboxId deliveryId = some row) (hcond : update.rowCondition row = true)
    (hacc : row.possiblyAccepted = true) : (update.rowEffect row).possiblyAccepted = true := by
  cases update with
  | transition record step =>
    obtain ⟨hat, hknown, hallowed, -⟩ := h
    have htells := hknown.tells_owned hat hrow hcond
    cases step with
    | preflightFailure => exact hallowed.2 (htells.possiblyAccepted hacc)
    | finalizeUnknown => rfl
    | _ => exact hacc
  | completeAttempt =>
    obtain ⟨hat, hknown, -⟩ := h
    simp only [rowCondition, Bool.and_eq_true] at hcond
    have htells := hknown.tells_owned hat hrow hcond.1.1
    simp only [rowEffect, htells.possiblyAccepted hacc, Bool.or_true]
  | releaseRecovery recovery release => cases release <;> exact hacc
  | feedback =>
    simp only [rowEffect]
    split <;> exact hacc
  | _ => exact hacc

/-- Only a rejection fails a delivery. -/
theorem reconcileDeliveryStateFromProvider_failed {state : DeliveryState}
    {outcome : ProviderOutcome}
    (h : reconcileDeliveryStateFromProvider state outcome = some .permanentFailed)
    (hstate : state ≠ .permanentFailed) : outcome = .rejected := by
  revert h hstate
  cases state <;> cases outcome <;> decide

/-- Only a rejection has the outcome of one. -/
theorem FeedbackEvent.semanticType_of_rejected (hvalid : event.valid = true)
    (h : event.providerOutcome = .rejected) : event.semanticType = .reject := by
  simp only [valid, validateSemantics, Bool.and_eq_true, decide_eq_true_eq] at hvalid
  have hout := hvalid.2.1.1.1
  rw [h] at hout
  revert hout
  cases event.semanticType <;> decide

/-- A plan fails a delivery only for a rejection. -/
theorem Reconciliation.Justified.reject_of_failed {plan : Reconciliation}
    (h : plan.Justified P s event) (hnext : plan.nextState = .permanentFailed)
    (hstate : plan.delivery.state ≠ .permanentFailed) : event.semanticType = .reject := by
  have hstate' := h.nextState
  rw [hnext] at hstate'
  have hout := reconcileDeliveryStateFromProvider_failed hstate' hstate
  split at hout
  · cases hout
  · exact FeedbackEvent.semanticType_of_rejected h.event_valid hout

/-- Only a rejection fails what may have been accepted. -/
theorem DeliveryUpdate.Grounds.reject_of_failed (h : update.Grounds P s items outboxId deliveryId)
    (hrow : s.delivery outboxId deliveryId = some row) (hcond : update.rowCondition row = true)
    (hacc : row.possiblyAccepted = true) (hstate : row.state ≠ .permanentFailed)
    (hfailed : (update.rowEffect row).state = .permanentFailed) :
    ∃ retention event now plan, items = reconcileTransaction retention event now plan ∧
      event.semanticType = .reject := by
  rw [rowEffect_state] at hfailed
  cases update with
  | transition record step =>
    obtain ⟨hat, hknown, hallowed, -⟩ := h
    have htells := hknown.tells_owned hat hrow hcond
    cases step with
    | preflightFailure completion =>
      change completion.nextState = .permanentFailed at hfailed
      rcases hallowed.1 with ⟨-, hnot⟩ | hretry
      · rw [htells.possiblyAccepted hacc] at hnot
        cases hnot
      · rw [hretry] at hfailed
        cases hfailed
    | _ => cases hfailed
  | completeAttempt =>
    obtain ⟨hat, hknown, -, hnot, -⟩ := h
    simp only [rowCondition, Bool.and_eq_true] at hcond
    have htells := hknown.tells_owned hat hrow hcond.1.1
    have hnot := hnot hfailed
    rw [htells.possiblyAccepted hacc] at hnot
    cases hnot
  | releaseRecovery recovery release => cases release <;> cases hfailed
  | feedback current nextState decision now =>
    obtain ⟨retention, event, plan, hplan, -, hitems, -, -, rfl, rfl, -⟩ := h
    refine ⟨retention, event, now, plan, hitems, hplan.reject_of_failed hfailed ?_⟩
    rw [← DeliveryRow.asRead_state hcond]
    exact hstate
  | repairPublication record now | claim record request | markQueued work => cases hfailed
  | _ => exact absurd hfailed hstate

/-- A delivery that may have been accepted stays one. -/
def AcceptanceRemembered (s t : Store) : Prop :=
  ∀ outboxId deliveryId row, s.delivery outboxId deliveryId = some row →
    row.possiblyAccepted = true →
    ∃ row', t.delivery outboxId deliveryId = some row' ∧ row'.possiblyAccepted = true

/-- Only the feedback of a rejection fails what may be accepted. -/
def FailsOnlyOnReject (P : Platform) (op : Op) (outcome : Outcome) (s : Store) : Prop :=
  ∀ reply t outboxId deliveryId row row', exec P op outcome s = some (reply, t) →
    s.delivery outboxId deliveryId = some row → row.possiblyAccepted = true →
    row.state ≠ .permanentFailed → t.delivery outboxId deliveryId = some row' →
    row'.state = .permanentFailed →
    ∃ retention event now plan, op = .transact (reconcileTransaction retention event now plan) ∧
      event.semanticType = .reject

/-- Acceptance is remembered. -/
theorem exec_acceptanceRemembered (hbase : Base P s)
    (hjust : Justified P s op) (h : exec P op outcome s = some (reply, t)) :
    AcceptanceRemembered s t := by
  intro outboxId deliveryId row hrow hacc
  rcases exec_delivery h hrow with hsame | ⟨update, hmem, -, hcond, heff⟩
  · exact ⟨row, hsame, hacc⟩
  · exact ⟨_, heff, (hjust.grounds hbase hmem).possiblyAccepted hrow hcond hacc⟩

/-- Only rejections fail it. -/
theorem exec_failsOnlyOnReject (hbase : Base P s) (hjust : Justified P s op) :
    FailsOnlyOnReject P op outcome s := by
  intro reply t outboxId deliveryId row row' h hrow hacc hstate hrow' hfailed
  rcases exec_delivery h hrow with hsame | ⟨update, hmem, -, hcond, heff⟩
  · rw [hsame] at hrow'
    cases hrow'
    exact absurd hfailed hstate
  · rw [heff] at hrow'
    cases hrow'
    obtain ⟨retention, event, now, plan, hitems, hreject⟩ :=
      (hjust.grounds hbase hmem).reject_of_failed hrow hcond hacc hstate hfailed
    refine ⟨retention, event, now, plan, ?_, hreject⟩
    -- Only a transaction has as many items.
    cases op with
    | transact => exact congrArg Op.transact hitems
    | updateDelivery => simp [Op.items, reconcileTransaction] at hitems
    | updateOutbox => cases List.mem_singleton.mp hmem
    | _ => cases hmem

/-- Over every run, a delivery that may have been accepted stays one, and no operation
of a worker fails it: only the feedback of a rejection does. -/
theorem possibly_accepted_never_failed {s : Store} {as : List (Action Outcome Call)}
    {w : World Store Call CallResult Op Reply} (hbase : Base P s)
    (hrun : (notificationMachine P).run (Machine.initial s) as = some w) :
    (notificationMachine P).EveryStep AcceptanceRemembered (Machine.initial s) as ∧
      (notificationMachine P).Guarded (FailsOnlyOnReject P) (Machine.initial s) as := by
  obtain ⟨hguarded, -, -⟩ := run_disciplined hbase hrun
  refine ⟨hguarded.everyStep ?_ ?_ hrun, hguarded.mono ?_⟩
  · exact fun s _ _ row hrow haccepted => ⟨row, hrow, haccepted⟩
  · exact fun _ _ _ _ _ h hexec => exec_acceptanceRemembered h.1 h.2 hexec
  · exact fun _ _ _ h => exec_failsOnlyOnReject h.1 h.2

/-- A delivery in doubt whose second attempt the provider refused. -/
theorem possibly_accepted_never_failed_of_refused : ∃ w,
    machine.run initial refused = some w ∧
      (deliveryOf .opening w).map (fun row => (row.state, row.possiblyAccepted)) =
        some (.retryableFailed, true) ∧
      machine.EveryStep AcceptanceRemembered initial
        refused ∧
      machine.Guarded (FailsOnlyOnReject platform) initial
        refused := by
  have hfinal : (machine.run initial refused).map (fun w =>
      (deliveryOf .opening w).map fun row => (row.state, row.possiblyAccepted)) =
      some (some (.retryableFailed, true)) := by
    decide +kernel
  obtain ⟨w, hrun, hstate⟩ := Option.map_eq_some_iff.mp hfinal
  exact ⟨w, hrun, hstate, possibly_accepted_never_failed store_fresh.base hrun⟩

end LimnoPulse.Notifications
