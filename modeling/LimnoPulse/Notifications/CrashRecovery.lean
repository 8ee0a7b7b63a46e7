import LimnoPulse.Notifications.Attempts

/-!
# Claims that a crash leaves behind

A worker that crashes leaves a delivery claimed until its lease expires.  Then the next
worker takes it over, unless it finds a last attempt after which no other may follow.

Main results:

- Theorem `crashed_claims_recovered`: an expired claim is taken over, if no delivery was
  claimed after an attempt that failed for good and clocks run after creations.
- Theorem `crashed_claim_stranded`: a run in which a claim is not taken over.
-/

namespace LimnoPulse.Notifications

open CivilTime StoreProgram

variable {P : Platform}
variable {op : Op} {outboxId : OutboxId} {deliveryId : DeliveryId} {update : DeliveryUpdate}
  {completion : AttemptCompletion} {items : List Item} {s : Store} {row : DeliveryRow}
  {record : DeliveryRecord} {request : ClaimRequest} {attemptId : String} {attempt : AttemptRow}
  {state next : DeliveryState} {t : Store}

/-- The time an update writes, if it writes one. -/
def DeliveryUpdate.time : DeliveryUpdate → Option Instant
  | .repairPublication _ now | .releaseRecovery _ _ now | .feedback _ _ _ now => some now
  | .claim _ request => some request.now
  | .transition _ (.cancel _ now) | .transition _ (.finalizeUnknown now) => some now
  | .transition _ (.defer request) => some request.now
  | .transition _ (.preflightFailure completion) => some completion.completedAt
  | .beginAttempt _ request => some request.startedAt
  | .completeAttempt _ completion => some completion.completedAt
  | _ => none

/-- No claim after an attempt that failed for good. -/
def Op.claimsRetryable (op : Op) (s : Store) : Bool :=
  op.items.all fun
    | .delivery outboxId deliveryId (.claim _ _) =>
      (s.delivery outboxId deliveryId).all fun row => row.lastAttemptId.all fun attemptId =>
        (s.attempt deliveryId attemptId).all fun attempt => attempt.outcome ≠ .permanentFailed
    | _ => true

/-- No delivery is written at a time before its creation. -/
def Op.clocksForward (op : Op) (s : Store) : Bool :=
  op.items.all fun
    | .delivery outboxId deliveryId update =>
      (s.delivery outboxId deliveryId).all fun row =>
        update.time.all fun time => decide (row.createdAt ≤ time)
    | _ => true

/-- Updates come after creation. -/
theorem Op.clocksForward_time (h : op.clocksForward s = true)
    (hmem : Item.delivery outboxId deliveryId update ∈ op.items)
    (hrow : s.delivery outboxId deliveryId = some row) {time : Instant}
    (htime : update.time = some time) : row.createdAt ≤ time := by
  have hitem := List.all_eq_true.mp h _ hmem
  simpa [hrow, htime] using hitem

/-- Claims follow no final failure. -/
theorem Op.claimsRetryable_outcome (h : op.claimsRetryable s = true)
    (hmem : Item.delivery outboxId deliveryId (.claim record request) ∈ op.items)
    (hrow : s.delivery outboxId deliveryId = some row) (hlast : row.lastAttemptId = some attemptId)
    (hatt : s.attempt deliveryId attemptId = some attempt) :
    attempt.outcome ≠ .permanentFailed := by
  have hitem := List.all_eq_true.mp h _ hmem
  simpa [hrow, hlast, hatt] using hitem

/-- When a row was updated. -/
theorem DeliveryUpdate.rowEffect_updatedAt (update : DeliveryUpdate) (row : DeliveryRow) :
    (update.rowEffect row).updatedAt = update.time.getD row.updatedAt := by
  fun_cases rowEffect update row with
  | case4 record step => cases step <;> rfl
  | _ => rfl

/-- A delivery that is cancelled gets a reason or has one. -/
theorem DeliveryUpdate.Grounds.cancelled
    (h : update.Grounds P s items outboxId deliveryId) (hcond : update.rowCondition row = true)
    (hcanc : (update.rowEffect row).state = .cancelled) :
    (update.rowEffect row).cancellationReason.isSome = true ∨
      row.state = .cancelled ∧
        (update.rowEffect row).cancellationReason = row.cancellationReason := by
  rw [rowEffect_state] at hcanc
  cases update with
  | transition record step =>
    cases step with
    | cancel => exact .inl rfl
    | preflightFailure completion =>
      change completion.nextState = .cancelled at hcanc
      rcases h.2.2.1.1 with ⟨hfailed, -⟩ | hretry
      · rw [hfailed] at hcanc
        cases hcanc
      · rw [hretry] at hcanc
        cases hcanc
    | defer request | finalizeUnknown now => cases hcanc
  | completeAttempt =>
    exact absurd hcanc (validateCompletion_nextState h.2.2.1).2.2
  | releaseRecovery recovery release =>
    cases release with
    | pending => cases hcanc
    | cancelled => exact .inl rfl
  | feedback current nextState =>
    obtain ⟨outcome, hnext⟩ := h.wellFormed
    change nextState = .cancelled at hcanc
    rw [hcanc, ← DeliveryRow.asRead_state hcond] at hnext
    refine .inr ⟨?_, ?_⟩
    · revert hnext
      cases row.state <;> cases outcome <;> decide
    · simp only [rowEffect]
      split <;> rfl
  | repairPublication record now | claim record request | markQueued work => cases hcanc
  | _ => exact .inr ⟨hcanc, rfl⟩

/-- Only a cancellation writes a reason. -/
theorem DeliveryUpdate.rowEffect_cancellationReason
    (h : (update.rowEffect row).state ≠ .cancelled) :
    (update.rowEffect row).cancellationReason = none ∨
      (update.rowEffect row).cancellationReason = row.cancellationReason := by
  cases update with
  | transition record step =>
    cases step with
    | cancel => exact absurd rfl h
    | _ => exact .inr rfl
  | releaseRecovery recovery release =>
    cases release with
    | pending => exact .inl rfl
    | cancelled => exact absurd rfl h
  | feedback =>
    right
    simp only [rowEffect]
    split <;> rfl
  | _ => exact .inr rfl

/-- Cancelled ones stay so. -/
theorem stateEdge_cancelled (h : stateEdge state next = true)
    (hnext : next ≠ .cancelled) : state ≠ .cancelled := by
  revert h hnext
  cases state <;> cases next <;> decide

/-- A delivery stays valid while clocks run after its creation. -/
theorem DeliveryUpdate.Grounds.snapshot_valid
    (h : update.Grounds P s items outboxId deliveryId) (hcond : update.rowCondition row = true)
    (htime : ∀ time, update.time = some time → row.createdAt ≤ time)
    (hvalid : row.toDeliverySnapshot.valid P = true) :
    (update.rowEffect row).toDeliverySnapshot.valid P = true := by
  obtain ⟨hident, hwait, hupdated, hcanc, hlive⟩ := DeliverySnapshot.valid_iff.mp hvalid
  have hsame := update.rowEffect_identity row
  have hedge := h.wellFormed.edge hcond
  have hkind : (update.rowEffect row).kind = row.kind :=
    congrArg (fun identity : DeliveryIdentity => identity.kind) hsame
  have hcreated : (update.rowEffect row).createdAt = row.createdAt :=
    congrArg (fun identity : DeliveryIdentity => identity.createdAt) hsame
  refine DeliverySnapshot.valid_iff.mpr ⟨?_, ?_, ?_, ?_, ?_⟩
  · rw [hsame]
    exact hident
  · intro hwaits
    rw [hkind]
    by_contra hne
    exact stateEdge_settled hedge (fun hstate => hne (hwait hstate)) hwaits
  · rw [hcreated, rowEffect_updatedAt]
    cases hwritten : update.time with
    | none => exact hupdated
    | some time => exact htime time hwritten
  · intro hstate
    rcases h.cancelled hcond hstate with hreason | ⟨hbefore, hreason⟩
    · exact hreason
    · rw [hreason]
      exact hcanc hbefore
  · intro hstate
    obtain ⟨hreason, hcontent⟩ := hlive (stateEdge_cancelled hedge hstate)
    refine ⟨?_, ?_⟩
    · rcases rowEffect_cancellationReason hstate with hnone | hkept
      · exact hnone
      · exact hkept.trans hreason
    · exact (congrArg DeliveryIdentity.hasContent hsame).trans hcontent

/-- A lease does not expire before the creation. -/
def DeliveryRow.LeaseForward (row : DeliveryRow) : Prop :=
  row.state = .processing → ∀ expires, row.leaseExpiresAt = some expires → row.createdAt ≤ expires

/-- Leases end after creation. -/
theorem DeliveryUpdate.Grounds.leaseForward
    (h : update.Grounds P s items outboxId deliveryId) (hcond : update.rowCondition row = true)
    (htime : ∀ time, update.time = some time → row.createdAt ≤ time) (hlease : row.LeaseForward) :
    (update.rowEffect row).LeaseForward := by
  intro hstate expires hexp
  have hcreated : (update.rowEffect row).createdAt = row.createdAt :=
    congrArg (fun identity : DeliveryIdentity => identity.createdAt) (update.rowEffect_identity row)
  rw [hcreated]
  cases update with
  | claim record request =>
    cases hexp
    exact Int.le_of_lt (Int.lt_of_le_of_lt (htime request.now rfl) h.2.2.2)
  | renew =>
    cases hexp
    simp only [rowCondition, Bool.and_eq_true] at hcond
    obtain ⟨howned, hlater⟩ := hcond
    obtain ⟨before, hbefore, hless⟩ := (Option.any_eq_true _ _).mp hlater
    have hcreated' := hlease (DeliveryRow.ownedBy_state howned) before hbefore
    exact Int.le_trans hcreated' (Int.le_of_lt (of_decide_eq_true hless))
  | transition record step =>
    rw [DeliveryUpdate.rowEffect_state] at hstate
    cases step with
    | preflightFailure => cases hexp
    | _ => cases hstate
  | completeAttempt => cases hexp
  | releaseRecovery recovery release => cases release <;> cases hstate
  | feedback current nextState =>
    rw [DeliveryUpdate.rowEffect_state] at hstate
    change nextState = .processing at hstate
    obtain ⟨outcome, hnext⟩ := h.wellFormed
    rw [hstate, ← DeliveryRow.asRead_state hcond] at hnext
    have hbefore : row.state = .processing := by
      revert hnext
      cases row.state <;> cases outcome <;> decide
    simp only [rowEffect, hstate, true_or, if_true] at hexp
    exact hlease hbefore expires hexp
  | repairPublication record now | markQueued work => cases hstate
  | _ => exact hlease hstate expires hexp

/-! ## The last attempt -/

/-- Another attempt may follow: what is not settled has not succeeded last, and what is claimed has
not failed for good. -/
structure DeliveryRow.Resumable (row : DeliveryRow) (attempts : Attempts) : Prop where
  succeeded : ∀ {attemptId attempt}, row.state = .processing ∨ row.state = .retryableFailed →
    row.lastAttemptId = some attemptId → attempts attemptId = some attempt →
    attempt.outcome ≠ .succeeded
  failed : ∀ {attemptId attempt}, row.state = .processing →
    row.lastAttemptId = some attemptId → attempts attemptId = some attempt →
    attempt.outcome ≠ .permanentFailed

namespace DeliveryRow.Resumable

variable {row row' : DeliveryRow} {attempts : Attempts}

/-- Neither claimed nor waiting to be tried again. -/
theorem of_idle (hproc : row.state ≠ .processing) (hretry : row.state ≠ .retryableFailed) :
    row.Resumable attempts where
  succeeded hstate := by
    rcases hstate with hstate | hstate
    · exact absurd hstate hproc
    · exact absurd hstate hretry
  failed hstate := absurd hstate hproc

/-- The delivery stays, or waits to be tried again. -/
theorem move (h : row.Resumable attempts) (hlast : row'.lastAttemptId = row.lastAttemptId)
    (hstate : row'.state = row.state ∨ row.state = .processing ∧ row'.state = .retryableFailed) :
    row'.Resumable attempts where
  succeeded hopen hlast' := by
    refine h.succeeded ?_ (hlast ▸ hlast')
    rcases hstate with hsame | ⟨hbefore, -⟩
    · rw [← hsame]
      exact hopen
    · exact .inl hbefore
  failed hproc hlast' := by
    refine h.failed ?_ (hlast ▸ hlast')
    rcases hstate with hsame | ⟨hbefore, -⟩
    · rw [← hsame]
      exact hproc
    · exact hbefore

/-- The outcome of the last attempt is as it was. -/
theorem congr {attempts' : Attempts} (h : row.Resumable attempts)
    (hlast : ∀ {attemptId attempt}, row.lastAttemptId = some attemptId →
      attempts' attemptId = some attempt →
      ∃ before, attempts attemptId = some before ∧ attempt.outcome = before.outcome) :
    row.Resumable attempts' where
  succeeded hopen hid hatt := by
    obtain ⟨before, hbefore, hsame⟩ := hlast hid hatt
    exact hsame ▸ h.succeeded hopen hid hbefore
  failed hproc hid hatt := by
    obtain ⟨before, hbefore, hsame⟩ := hlast hid hatt
    exact hsame ▸ h.failed hproc hid hbefore

end DeliveryRow.Resumable

/-- A claim keeps this if the last attempt has not failed for good. -/
theorem DeliveryRow.Resumable.claim {attempts : Attempts} (h : row.Resumable attempts)
    (hfits : row.Fits attempts) (hallowed : transitionAllowed row.state .processing = true)
    (hretry : ∀ {attemptId attempt}, row.lastAttemptId = some attemptId →
      attempts attemptId = some attempt → attempt.outcome ≠ .permanentFailed) :
    ((DeliveryUpdate.claim record request).rowEffect row).Resumable attempts where
  succeeded {attemptId attempt} _ hlast hatt := by
    change row.lastAttemptId = some attemptId at hlast
    cases hstate : row.state with
    | queued =>
      -- A queued delivery has not been tried.
      rw [hfits.unsent (by rw [hstate]; rfl)] at hlast
      cases hlast
    | processing => exact h.succeeded (.inl hstate) hlast hatt
    | retryableFailed => exact h.succeeded (.inr hstate) hlast hatt
    | _ =>
      rw [hstate] at hallowed
      cases hallowed
  failed _ hlast hatt := hretry hlast hatt

/-- Unsettling feedback settles no attempt. -/
theorem reconciledDeliveryState_unsettled {event : FeedbackEvent}
    {decision : DeliveryProviderDecision} (hvalid : event.valid = true)
    (h : reconciledDeliveryState state event decision = some next)
    (hunsettled : next = .processing ∨ next = .retryableFailed) :
    state = next ∧ ∀ outcome, nextAttemptOutcome outcome event = outcome := by
  have hout : state = next ∧ event.providerOutcome = .delayed := by
    unfold reconciledDeliveryState at h
    generalize hincoming : (if (event.permanentFailure && decision.acceptedByAnotherAttempt) = true
      then ProviderOutcome.accepted else event.providerOutcome) = incoming at h
    have hdelayed : state = next ∧ incoming = .delayed := by
      revert h
      rcases hunsettled with rfl | rfl <;> cases state <;> cases incoming <;> decide
    refine ⟨hdelayed.1, ?_⟩
    rw [hdelayed.2] at hincoming
    split at hincoming
    · cases hincoming
    · exact hincoming
  refine ⟨hout.1, fun outcome => ?_⟩
  simp only [FeedbackEvent.valid, FeedbackEvent.validateSemantics, Bool.and_eq_true,
    decide_eq_true_eq] at hvalid
  obtain ⟨-, ⟨⟨hevent, hacc⟩, hfailure⟩, -⟩ := hvalid
  rw [hout.2] at hevent
  simp only [nextAttemptOutcome, hfailure, hacc, FeedbackEvent.completesAttempt]
  revert hevent
  cases event.semanticType <;> cases outcome <;> decide

/-- A delivery that moves alone stays resumable. -/
theorem DeliveryUpdate.Grounds.resumable (h : update.Grounds P s op.items outboxId deliveryId)
    (hmem : Item.delivery outboxId deliveryId update ∈ op.items)
    (hrow : s.delivery outboxId deliveryId = some row) (hcond : update.rowCondition row = true)
    (halone : update.withAttempt = false) (hfits : row.Fits (s.attempt deliveryId))
    (hretryable : op.claimsRetryable s = true) (hresumable : row.Resumable (s.attempt deliveryId)) :
    (update.rowEffect row).Resumable (s.attempt deliveryId) := by
  have hlast := (update.rowEffect_attempts halone row).1
  have hstate := update.rowEffect_state row
  cases update with
  | claim =>
    simp only [rowCondition, Bool.and_eq_true, decide_eq_true_eq] at hcond
    exact hresumable.claim hfits (hcond.1.1 ▸ h.2.2.1)
      fun hlast hatt => Op.claimsRetryable_outcome hretryable hmem hrow hlast hatt
  | transition record step =>
    have hproc := DeliveryRow.ownedBy_state hcond
    cases step with
    | preflightFailure =>
      rcases h.2.2.1.1 with ⟨hfailed, -⟩ | hretry
      · refine DeliveryRow.Resumable.of_idle ?_ ?_ <;> rw [hstate] <;>
          simp [target, ProcessingTransition.nextState, hfailed]
      · exact hresumable.move hlast (.inr ⟨hproc, hstate.trans hretry⟩)
    | defer => exact hresumable.move hlast (.inr ⟨hproc, rfl⟩)
    | cancel reason now | finalizeUnknown now => refine DeliveryRow.Resumable.of_idle ?_ ?_ <;> rintro ⟨⟩
  | beginAttempt record request | completeAttempt record completion
  | feedback current nextState decision now => cases halone
  | releaseRecovery recovery release =>
    cases release <;> refine DeliveryRow.Resumable.of_idle ?_ ?_ <;> rintro ⟨⟩
  | repairPublication record now
  | markQueued work => refine DeliveryRow.Resumable.of_idle ?_ ?_ <;> rintro ⟨⟩
  | _ => exact hresumable.move hlast (.inl rfl)

/-- A delivery stays resumable in every step. -/
theorem DeliveryStep.resumable {row' : DeliveryRow}
    (h : DeliveryStep P s t op.items outboxId deliveryId row row')
    (hrow : s.delivery outboxId deliveryId = some row) (hfits : row.Fits (s.attempt deliveryId))
    (hretryable : op.claimsRetryable s = true) (hresumable : row.Resumable (s.attempt deliveryId)) :
    row'.Resumable (t.attempt deliveryId) := by
  cases h with
  | kept hattempts hrow' =>
    rw [hattempts, hrow']
    exact hresumable
  | moved update hattempts hmem hgrounds hcond halone hrow' =>
    rw [hattempts, hrow']
    exact hgrounds.resumable hmem hrow hcond halone hfits hretryable hresumable
  | begun record request htells hmem hsettled hrecord hstate hvalid hnone hrow' hrepl =>
    -- The new attempt is the last one, and it is open.
    subst hrow'
    constructor
    all_goals
      intro attemptId attempt _ hlast hatt
      cases hlast
      cases hrepl.self.symm.trans hatt
      exact nofun
  | completed record completion attempt hmem hvalid hstate hlast hatt hstart hcompat hrow'
      hrepl =>
      subst hrow'
      refine ⟨?_, fun hproc =>
        absurd hproc (validateCompletion_nextState hvalid).2.1⟩
      intro attemptId attempt' hopen hlast' hatt' hsucc
      cases hlast.symm.trans hlast'
      cases hrepl.self.symm.trans hatt'
      obtain ⟨-, hnext, -⟩ :=
        (validateCompletion_cases hvalid).resolve_right fun h => h.1 hsucc
      rcases hopen with hopen | hopen <;> cases hnext.symm.trans hopen
  | completedBeside completion attempt hvalid hterm hatt hstart hcompat hrow'
      hrepl =>
      rw [hrow']
      refine .of_idle ?_ ?_ <;> intro hstate <;> rw [hstate] at hterm <;> cases hterm
  | reported event attempt attempt' current nextState now hvalid hmem hatt hrep howns hnext
      hrow' hrepl =>
      have hstate' : row'.state = nextState := by
        rw [hrow', DeliveryUpdate.rowEffect_state]
        rfl
      have hlast' : row'.lastAttemptId = row.lastAttemptId := by
        rw [hrow']
        simp only [DeliveryUpdate.rowEffect]
        split <;> rfl
      by_cases hunsettled : nextState = .processing ∨ nextState = .retryableFailed
      · obtain ⟨hsame, hkept⟩ := reconciledDeliveryState_unsettled hvalid hnext hunsettled
        -- The attempts keep their outcomes, so the delivery is as resumable as before.
        refine (hresumable.move hlast' (.inl (hstate'.trans hsame.symm))).congr ?_
        intro attemptId found _ hfound
        rcases hrepl.cases hfound with ⟨rfl, rfl⟩ | ⟨-, hfound⟩
        · exact ⟨attempt, hatt, hrep.outcome.trans (hkept _)⟩
        · exact ⟨found, hfound, rfl⟩
      · exact .of_idle (fun hproc => hunsettled (.inl (hstate'.symm.trans hproc)))
          fun hretry => hunsettled (.inr (hstate'.symm.trans hretry))
  | reportedBeside event attempt attempt' hvalid hatt hrep howns hrow' hrepl =>
    -- The last attempt would have been allowed to write the delivery.
    rw [hrow']
    refine hresumable.congr fun {attemptId found} hlast hfound => ⟨found, ?_, rfl⟩
    rw [← hfound]
    refine (hrepl.other ?_).symm
    rintro rfl
    rw [DeliveryRow.Fits.ownsAggregate_of_last hlast] at howns
    cases howns

/-! ## Taking over -/

/-- A valid row is decoded. -/
theorem exists_decodeDelivery (hvalid : row.toDeliverySnapshot.valid P = true)
    (hrev : 1 ≤ row.revision) (hcount : row.attemptCount.getD 0 ≤ maxProviderCalls) :
    ∃ record, decodeDelivery P row.outboxId row.deliveryId row = some record ∧
      record.delivery = row.toDeliverySnapshot ∧ record.revision = row.revision ∧
      record.lastAttemptId = row.lastAttemptId ∧ record.leaseExpiresAt = row.leaseExpiresAt ∧
      record.awaitingDlq = row.awaitingDlq := by
  unfold decodeDelivery
  rw [if_pos (by simp [hrev, hcount, hvalid])]
  exact ⟨_, rfl, rfl, rfl, rfl, rfl, rfl⟩

/-- Alone, an update whose condition holds answers with the new row. -/
theorem updateRecord_alone {updated : DeliveryRecord}
    (hrow : s.delivery record.delivery.outboxId record.delivery.deliveryId = some row)
    (hcond : update.rowCondition row = true)
    (hdec : decodeDelivery P record.delivery.outboxId record.delivery.deliveryId
      (update.rowEffect row) = some updated) :
    ∃ t, (updateRecord P record update).alone (exec P) {} s =
      some (.ok (update.rowEffect row, updated), t) := by
  let item := Item.delivery record.delivery.outboxId record.delivery.deliveryId update
  have hreply : (s.update {} item).1 = .updated (update.rowEffect row) := by
    refine updateRequest_updated ?_ ?_
    · change update.condition (s.delivery _ _) = true
      rw [hrow]
      exact hcond
    · change update.effect (s.delivery _ _) = _
      rw [hrow]
      rfl
  have hupdate : (updateDelivery record.delivery.outboxId record.delivery.deliveryId update).alone
      (exec P) {} s = some (.updated (update.rowEffect row), (s.update {} item).2) :=
    congrArg (fun reply => some (reply, (s.update {} item).2)) hreply
  refine ⟨(s.update {} item).2, (Program.alone_bind hupdate).trans ?_⟩
  simp only [hdec]
  rfl

/-- The claim has expired at the request, and another attempt may follow. -/
structure DeliveryRow.Expired (P : Platform) (s : Store) (row : DeliveryRow)
    (request : ClaimRequest) : Prop where
  stored : s.delivery row.outboxId row.deliveryId = some row
  processing : row.state = .processing
  due : ∃ expires, row.leaseExpiresAt = some expires ∧ expires ≤ request.now
  created : row.createdAt ≤ request.now
  revision : 1 ≤ row.revision
  count : row.attemptCount.getD 0 ≤ maxProviderCalls
  valid : row.toDeliverySnapshot.valid P = true
  fits : row.Fits (s.attempt row.deliveryId)
  resumable : row.Resumable (s.attempt row.deliveryId)

section Takeover

variable {s : Store} {row : DeliveryRow} {request : ClaimRequest} {record : DeliveryRecord}

/-- Without a concurrent writer, the delivery is claimed. -/
theorem acquireClaim_alone (h : row.Expired P s request)
    (hdeliv : record.delivery = row.toDeliverySnapshot) (hrev : record.revision = row.revision) :
    ∃ claimed t, (acquireClaim P record request).alone (exec P) {} s =
      some (.ok (.claimed claimed), t) := by
  obtain ⟨hident, -, -, -, hlive⟩ := DeliverySnapshot.valid_iff.mp h.valid
  obtain ⟨expires, hexp, hdue⟩ := h.due
  have hallowed : validateTransition P record.delivery .processing = true := by
    simp [hdeliv, validateTransition, h.valid, h.processing, transitionAllowed]
  have hcond : (DeliveryUpdate.claim record request).rowCondition row = true := by
    simp [DeliveryUpdate.rowCondition, hdeliv, hrev, hexp, hdue]
  -- The new row is valid again: it was created before it is claimed.
  have hclaimed : ((DeliveryUpdate.claim record request).rowEffect row).toDeliverySnapshot.valid P =
      true := by
    refine DeliverySnapshot.valid_iff.mpr ⟨hident, by rintro ⟨⟩, h.created, by rintro ⟨⟩, fun _ => ?_⟩
    exact hlive (by simp [h.processing])
  obtain ⟨claimed, hdec, -⟩ := exists_decodeDelivery hclaimed (Nat.le_add_left 1 _) h.count
  have hstored : s.delivery record.delivery.outboxId record.delivery.deliveryId = some row := by
    rw [hdeliv]
    exact h.stored
  obtain ⟨t, halone⟩ := updateRecord_alone hstored hcond (by rw [hdeliv]; exact hdec)
  have hclaim : claim P record request = updateRecord P record (.claim record request) :=
    if_pos hallowed
  rw [← hclaim] at halone
  exact ⟨_, t, (Program.alone_bind (Program.alone_andThen halone)).trans rfl⟩

/-- A consistent read without faults. -/
theorem getConsistent_alone {key : Key} {value : Option (Row key)} (h : s.rows.lookup key = value) :
    (getConsistent key).alone (exec P) {} s = some (.ok value, s) := by
  rw [← h]
  rfl

/-- The last attempt is read. -/
theorem loadAttemptOutcome_alone (hfits : row.Fits (s.attempt row.deliveryId))
    (hatt : s.attempt row.deliveryId attemptId = some attempt) :
    (loadAttemptOutcome row.deliveryId attemptId).alone (exec P) {} s =
      some (.ok attempt.outcome, s) := by
  obtain ⟨hdeliv, hid, hvalid⟩ := hfits.named hatt
  unfold loadAttemptOutcome
  rw [if_neg (by simp [hvalid]), Program.alone_andThen (getConsistent_alone hatt)]
  simp only [if_pos (And.intro hdeliv hid)]
  rfl

/-- An expired claim is taken over. -/
theorem acquireExpired_alone (h : row.Expired P s request)
    (hdeliv : record.delivery = row.toDeliverySnapshot) (hrev : record.revision = row.revision)
    (hattempts : record.lastAttemptId = row.lastAttemptId) :
    ∃ claimed t, (acquireExpired P record request).alone (exec P) {} s =
      some (.ok (.claimed claimed), t) := by
  unfold acquireExpired
  rw [hattempts, hdeliv]
  cases hlast : row.lastAttemptId with
  | none => exact acquireClaim_alone h hdeliv hrev
  | some =>
    obtain ⟨attempt, hatt⟩ := Option.isSome_iff_exists.mp (h.fits.last hlast)
    simp only [Program.alone_andThen (loadAttemptOutcome_alone h.fits hatt)]
    cases hout : attempt.outcome with
    | started => exact acquireClaim_alone h rfl hrev
    | retryable | ambiguous => exact acquireClaim_alone h hdeliv hrev
    | succeeded =>
      exact absurd hout (h.resumable.succeeded (.inl h.processing) hlast hatt)
    | permanentFailed => exact absurd hout (h.resumable.failed h.processing hlast hatt)

/-- Alone, the delivery is taken over. -/
theorem acquire_alone (h : row.Expired P s request) (hdlq : row.awaitingDlq = false)
    (howner : request.owner ≠ "") (hlease : request.now < request.expiresAt) :
    ∃ claimed t, (acquire P row.job request).alone (exec P) {} s =
      some (.ok (.claimed claimed), t) := by
  have hread : (getConsistent (.delivery row.job.outboxId row.job.deliveryId)).alone (exec P) {} s =
      some (.ok (some row), s) :=
    getConsistent_alone h.stored
  obtain ⟨record, hdec, hdeliv, hrev, hattempts, hlease', hdlq'⟩ :=
    exists_decodeDelivery h.valid h.revision h.count
  have hjob : row.job.valid = true := by
    have hident := (DeliverySnapshot.valid_iff.mp h.valid).1
    simp only [DeliveryIdentity.valid, Bool.and_eq_true] at hident
    simp [JobEnvelope.valid, DeliveryIdentity.job, hident]
  obtain ⟨expires, hexp, hdue⟩ := h.due
  have hmatch : record.matchesJob row.job = true := by
    simp [DeliveryRecord.matchesJob, hdeliv, DeliveryIdentity.job]
  have hopen : (!record.matchesJob row.job || record.awaitingDlq) = false := by
    rw [hmatch, hdlq', hdlq]
    rfl
  have hstate : record.delivery.state = .processing := by rw [hdeliv, h.processing]
  rw [hexp] at hlease'
  unfold acquire
  rw [if_neg (by simp [hjob, howner, hlease])]
  rw [Program.alone_andThen hread]
  change decodeDelivery P row.job.outboxId row.job.deliveryId row = some record at hdec
  simp only [hdec, hopen, hstate, hlease', unlessBefore, Bool.false_eq_true, if_false, reduceCtorEq,
    Int.not_lt.mpr hdue]
  exact acquireExpired_alone h hdeliv hrev hattempts

end Takeover

/-! ## Runs -/

/-- Deliveries are valid, and claims can be followed by another. -/
structure Recoverable (P : Platform) (s : Store) : Prop where
  valid : ∀ {outboxId deliveryId row}, s.delivery outboxId deliveryId = some row →
    row.toDeliverySnapshot.valid P = true
  lease : ∀ {outboxId deliveryId row}, s.delivery outboxId deliveryId = some row →
    row.LeaseForward
  resumable : ∀ {outboxId deliveryId row}, s.delivery outboxId deliveryId = some row →
    row.Resumable (s.attempt deliveryId)

/-- Nothing to recover. -/
theorem Store.Fresh.recoverable (h : s.Fresh) : Recoverable P s where
  valid hrow := by cases (h.delivery _ _).symm.trans hrow
  lease hrow := by cases (h.delivery _ _).symm.trans hrow
  resumable hrow := by cases (h.delivery _ _).symm.trans hrow

/-- Operations keep claims recoverable. -/
theorem Recoverable.exec {outcome : Outcome} {reply : Reply op}
    (hrecov : Recoverable P s) (hbase : Base P s) (hjust : Justified P s op)
    (hretryable : op.claimsRetryable s = true) (hclocks : op.clocksForward s = true)
    (h : exec P op outcome s = some (reply, t)) : Recoverable P t := by
  have hrows : ∀ {outboxId deliveryId row}, t.delivery outboxId deliveryId = some row →
      row.toDeliverySnapshot.valid P = true ∧ row.LeaseForward ∧
        row.Resumable (t.attempt deliveryId) := by
    intro outboxId deliveryId row hrow
    cases hold : s.delivery outboxId deliveryId with
    | none =>
      obtain ⟨snapshot, availableAt, index, hmem, -, rfl⟩ := exec_delivery_new h hold hrow
      obtain ⟨hvalid, -, hstart⟩ := PageItem.created (hjust.grounds hbase hmem)
      have hproc : snapshot.state ≠ .processing := by
        rcases hstart with ⟨hstate, -⟩ | hstate | hstate <;> simp [hstate]
      have hretry : snapshot.state ≠ .retryableFailed := by
        rcases hstart with ⟨hstate, -⟩ | hstate | hstate <;> simp [hstate]
      exact ⟨hvalid, fun hstate => absurd hstate hproc, .of_idle hproc hretry⟩
    | some old =>
      have hresumable := (hbase.exec_step hjust h hold hrow).resumable hold
        (hbase.fits hold) hretryable (hrecov.resumable hold)
      rcases exec_delivery h hold with hsame | ⟨update, hmem, -, hcond, heff⟩
      · cases hsame.symm.trans hrow
        exact ⟨hrecov.valid hold, hrecov.lease hold, hresumable⟩
      · cases heff.symm.trans hrow
        have hgrounds := hjust.grounds hbase hmem
        have htime : ∀ time, update.time = some time → old.createdAt ≤ time :=
          fun time => op.clocksForward_time hclocks hmem hold
        exact ⟨hgrounds.snapshot_valid hcond htime (hrecov.valid hold),
          hgrounds.leaseForward hcond htime (hrecov.lease hold), hresumable⟩
  exact ⟨fun hrow => (hrows hrow).1, fun hrow => (hrows hrow).2.1, fun hrow => (hrows hrow).2.2⟩

/-- The condition under which claims survive crashes. -/
def Op.Careful (op : Op) (_ : Outcome) (s : Store) : Prop :=
  op.claimsRetryable s = true ∧ op.clocksForward s = true

instance (op : Op) (outcome : Outcome) (s : Store) : Decidable (op.Careful outcome s) :=
  inferInstanceAs (Decidable (_ ∧ _))

/-- Expired claims that do not wait for the dead letters are taken over by the next worker alone. -/
def ExpiredClaimsRecovered (P : Platform) (s : Store) : Prop :=
  ∀ outboxId deliveryId row expires request, s.delivery outboxId deliveryId = some row →
    row.state = .processing → row.awaitingDlq = false → row.leaseExpiresAt = some expires →
    expires ≤ request.now → request.owner ≠ "" → request.now < request.expiresAt →
    ∃ claimed t, (acquire P row.job request).alone (exec P) {} s = some (.ok (.claimed claimed), t)

/-- Recoverable claims are taken over. -/
theorem Recoverable.recovered (hrecov : Recoverable P s) (hbase : Base P s)
    (hcounted : AttemptsCounted s) : ExpiredClaimsRecovered P s := by
  intro outboxId deliveryId row expires request hrow hstate hdlq hexp hdue howner hlease
  have hplaced := hbase.placed hrow
  have hresumable := hrecov.resumable hrow
  have hfits := hbase.fits hrow
  have hstored := hrow
  rw [← hplaced.delivery] at hresumable hfits hstored
  rw [← hplaced.outbox] at hstored
  refine acquire_alone ?_ hdlq howner hlease
  exact
    { stored := hstored
      processing := hstate
      due := ⟨expires, hexp, hdue⟩
      created := Int.le_trans (hrecov.lease hrow hstate expires hexp) hdue
      revision := hbase.revision hrow
      count := hcounted.bound hrow
      valid := hrecov.valid hrow
      fits := hfits
      resumable := hresumable }

/-- In every run in which no delivery is claimed after an attempt that failed for good and no
delivery is written before its creation, claims that have expired are taken over. -/
theorem crashed_claims_recovered {s : Store} {as : List (Action Outcome Call)}
    {w : World Store Call CallResult Op Reply} (hfresh : s.Fresh)
    (hcareful : (notificationMachine P).Guarded Op.Careful (Machine.initial s) as)
    (hrun : (notificationMachine P).run (Machine.initial s) as = some w) :
    ExpiredClaimsRecovered P w.store := by
  obtain ⟨hguarded, hbase, -⟩ := Discipline.run_justified_initial
    (discipline_keeps P Op.Careful) (discipline_governs P) hfresh.base hcareful hrun
  obtain ⟨-, hcounted⟩ := hguarded.kept (I := AttemptsCounted)
    (fun _ _ _ _ _ hcounted h hexec => hcounted.exec h.1 h.2.1 hexec) hfresh.attemptsCounted hrun
  obtain ⟨-, hrecoverable⟩ := hguarded.kept (I := Recoverable P)
    (fun _ _ _ _ _ hrecoverable h hexec =>
      hrecoverable.exec h.1 h.2.1 h.2.2.1 h.2.2.2 hexec) hfresh.recoverable hrun
  exact hrecoverable.recovered hbase hcounted

namespace OneRecipient

/-- A worker crashes after it has claimed the opening. -/
def claimed : List (Action Outcome Call) :=
  published ++ handled 3 3 { now := 3, text := "a1" }

/-- A worker claims the delivery in doubt after a refusal, and crashes. -/
def claimedRefused : List (Action Outcome Call) :=
  refused ++ handled 5 3 { now := 20 * minute, text := "a3" }

/-- A worker that asks for the opening much later. -/
def later : ClaimRequest :=
  { owner := "x", sqsMessageId := "m", now := 30 * minute, expiresAt := 31 * minute }

end OneRecipient

open OneRecipient

/-- The worker that comes after a crash takes the opening over. -/
theorem crashed_claims_recovered_of_claimed : ∃ w,
    machine.run initial claimed = some w ∧
      (deliveryOf .opening w).map (·.state) = some .processing ∧
      machine.Guarded Op.Careful initial claimed ∧
      ExpiredClaimsRecovered platform w.store := by
  have hcareful : machine.Guarded Op.Careful initial
      claimed := by
    decide +kernel
  have hfinal : (machine.run initial claimed).map (fun w =>
      (deliveryOf .opening w).map (·.state)) = some (some .processing) := by
    decide +kernel
  obtain ⟨w, hrun, hstate⟩ := Option.map_eq_some_iff.mp hfinal
  exact ⟨w, hrun, hstate, hcareful, crashed_claims_recovered store_fresh hcareful hrun⟩

/-- A delivery that is claimed after an attempt that failed for good is not taken over. -/
theorem crashed_claim_stranded : ∃ w,
    machine.run initial claimedRefused = some w ∧
      (deliveryOf .opening w).map (fun row =>
        (row.state, row.awaitingDlq, row.leaseExpiresAt)) =
          some (.processing, false, some (21 * minute)) ∧
      ((acquire platform message.job later).alone
        (exec platform) {} w.store).map Prod.fst = some (.ok .awaitDlq) := by
  have hfinal : (machine.run initial claimedRefused).map
      (fun w => ((deliveryOf .opening w).map (fun row =>
        (row.state, row.awaitingDlq, row.leaseExpiresAt)),
        ((acquire platform message.job later).alone (exec platform) {} w.store).map Prod.fst)) =
      some (some (.processing, false, some (21 * minute)), some (.ok .awaitDlq)) := by
    decide +kernel
  obtain ⟨w, hrun, hw⟩ := Option.map_eq_some_iff.mp hfinal
  obtain ⟨hstate, hresult⟩ := Prod.mk.inj hw
  exact ⟨w, hrun, hstate, hresult⟩

end LimnoPulse.Notifications
