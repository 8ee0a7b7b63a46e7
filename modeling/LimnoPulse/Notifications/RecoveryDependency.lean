import LimnoPulse.Notifications.NoLoss

/-!
# Recoveries that wait for their opening

The notice of a recovery is held back while the notice of its opening is under way or in
doubt.  The relay fences the opening when it creates a recovery that waits, and whoever
ends the opening releases the recovery in the same transaction or finds none.

Main results:

- Theorem `DeliveryUpdate.Grounds.fenced`: an opening does not end without a
  fence.
- Theorem `recovery_dependency`: no recovery waits for an opening that has ended.
-/

namespace LimnoPulse.Notifications

open CivilTime StoreProgram

variable {P : Platform}
variable {s t : Store} {items : List Item} {outboxId : OutboxId} {deliveryId : DeliveryId}
  {row : DeliveryRow} {opening : DeliveryIdentity} {ending : OpeningEnd} {next : DeliveryState}
  {update : DeliveryUpdate} {op : Op} {outcome : Outcome}

/-- Where an edge out of the awaited states leads. -/
theorem openingEnd_of_edge {state : DeliveryState} (h : stateEdge state next = true)
    (hawaited : state.awaited = true) (hended : next.awaited = false) :
    ∃ ending, OpeningEnd.of next = some ending := by
  revert h hawaited hended
  cases state <;> cases next <;> simp [OpeningEnd.of] <;> decide

/-- An opening ends with its state. -/
theorem DeliveryIdentity.endedBy_opening {identity : DeliveryIdentity}
    (h : identity.kind = .opening) (next : DeliveryState) :
    identity.endedBy next = OpeningEnd.of next := by
  rw [endedBy, if_pos h]

/-- Who ends an opening fences its recovery. -/
theorem DeliveryUpdate.Grounds.fenced (h : update.Grounds P s items outboxId deliveryId)
    (hrow : s.delivery outboxId deliveryId = some row) (hcond : update.rowCondition row = true)
    (hkind : row.kind = .opening) (hawaited : row.state.awaited = true)
    (hended : (update.rowEffect row).state.awaited = false) :
    ∃ ending, FencedIn s items row.toDeliveryIdentity (some ending) := by
  obtain ⟨ending, hending⟩ := openingEnd_of_edge (h.wellFormed.edge hcond) hawaited hended
  refine ⟨ending, ?_⟩
  rw [← hending, ← DeliveryIdentity.endedBy_opening hkind]
  rw [rowEffect_state] at hended ⊢
  cases update with
  | transition =>
    obtain ⟨⟨rfl, rfl⟩, hknown, -, -, hfence⟩ := h
    obtain ⟨current, hcur, hident⟩ := hknown.exists_row
    rw [hrow] at hcur
    cases hcur
    exact hident ▸ hfence
  | completeAttempt =>
    obtain ⟨⟨rfl, rfl⟩, hknown, -, -, -, -, hfence⟩ := h
    obtain ⟨current, hcur, hident⟩ := hknown.exists_row
    rw [hrow] at hcur
    cases hcur
    exact hident ▸ hfence
  | feedback =>
    obtain ⟨retention, event, plan, hplan, howns, rfl, rfl, rfl, rfl, rfl, -⟩ := h
    obtain ⟨seen, hseen, hle⟩ := hplan.seen
    rw [hrow] at hseen
    cases hseen
    have hfence := hplan.fence howns
    rw [← DeliveryRow.asRead_state hcond, if_pos hawaited, ← hle.identity] at hfence
    refine ⟨plan.recovery, hfence, ?_⟩
    intro item hitem
    exact reconcileTransaction_items.mpr (.inr (.inr (.inr (.inr (.inl hitem)))))
  | releaseRecovery =>
    simp only [rowCondition, Bool.and_eq_true, decide_eq_true_eq] at hcond
    rw [hcond.1.2] at hawaited
    cases hawaited
  | repairPublication record now | claim record request | markQueued work => cases hended
  | _ =>
    rw [show row.state.awaited = false from hended] at hawaited
    cases hawaited

/-- Behind a fence no recovery goes on waiting. -/
theorem FencedIn.not_waiting (h : FencedIn s items opening (some ending))
    (hcommit : Committed items s t) {row' : DeliveryRow}
    (hrow : s.delivery opening.recoveryOutboxId opening.recoveryDeliveryId = some row)
    (hwait : row.state = .waitingDependency)
    (hrow' : t.delivery opening.recoveryOutboxId opening.recoveryDeliveryId = some row') :
    row'.state ≠ .waitingDependency := by
  obtain ⟨recovery, hfence, hitems⟩ := h
  cases hfence with
  | absent =>
    obtain ⟨hcond, -⟩ := hcommit.mem_delivery (hitems _ rfl)
    rw [hrow] at hcond
    cases hcond
  | settled _ hsettled hstate =>
    rw [hrow] at hsettled
    cases hsettled
    exact absurd hwait hstate
  | released recovery index now | cancelled recovery now =>
    obtain ⟨-, heff⟩ := hcommit.mem_delivery (hitems _ rfl)
    rw [hrow, hrow'] at heff
    cases heff
    simp [DeliveryUpdate.rowEffect]

/-- The recovery waits for an email opening that has not ended. -/
structure WaitsWell (s : Store) (row : DeliveryRow) : Prop where
  kind : row.kind = .recovery
  channel : row.channel = .email
  depends : row.dependsOn = some (row.openingOutboxId, row.openingDeliveryId)
  opening : ∃ opening, s.delivery row.openingOutboxId row.openingDeliveryId = some opening ∧
    opening.state.awaited = true

/-- Every recovery that waits does so for a reason. -/
def RecoveriesWait (s : Store) : Prop :=
  ∀ outboxId deliveryId row, s.delivery outboxId deliveryId = some row →
    row.state = .waitingDependency → WaitsWell s row

/-- Nothing waits. -/
theorem Store.Fresh.recoveriesWait (h : s.Fresh) : RecoveriesWait s := by
  intro outboxId deliveryId row hrow
  rw [h.delivery] at hrow
  cases hrow

/-- A recovery lies under the keys its opening looks for. -/
theorem Base.recovery_keys (hbase : Base P s) {opening : DeliveryRow}
    (hrow : s.delivery outboxId deliveryId = some row) (hkind : row.kind = .recovery)
    (hopening : s.delivery row.openingOutboxId row.openingDeliveryId = some opening) :
    opening.kind = .opening ∧ opening.recoveryOutboxId = outboxId ∧
      opening.recoveryDeliveryId = deliveryId := by
  have hplaced := hbase.placed hrow
  have hid := DeliveryIdentity.deliveryId_of_valid hplaced.valid
  have hopeningPlaced := hbase.placed hopening
  have hopeningId := DeliveryIdentity.deliveryId_of_valid hopeningPlaced.valid
  rw [hopeningPlaced.delivery] at hopeningId
  rw [hplaced.delivery, hkind] at hid
  simp only [DeliveryIdentity.openingDeliveryId, DeliveryId.mk.injEq] at hopeningId
  obtain ⟨hevent, hopeningKind, hchan, hrecipient⟩ := hopeningId
  refine ⟨hopeningKind.symm, ?_, ?_⟩
  · rw [hplaced.canonical, hkind, DeliveryIdentity.recoveryOutboxId, hevent, hchan]
  · rw [hid, DeliveryIdentity.recoveryDeliveryId, hevent, hchan, hrecipient]

/-- An opening lies under the keys its recovery names. -/
theorem Base.opening_keys (hbase : Base P s) {before : DeliveryRow}
    (hbefore : s.delivery opening.outboxId opening.deliveryId = some before)
    (hident : before.toDeliveryIdentity = opening) (hkind : opening.kind = .opening)
    (hrow : s.delivery opening.recoveryOutboxId opening.recoveryDeliveryId = some row) :
    opening.outboxId = row.openingOutboxId ∧ opening.deliveryId = row.openingDeliveryId := by
  have hopeningPlaced := hbase.placed hbefore
  rw [hident] at hopeningPlaced
  have hopeningId := DeliveryIdentity.deliveryId_of_valid hopeningPlaced.valid
  have hplaced := hbase.placed hrow
  have hid := DeliveryIdentity.deliveryId_of_valid hplaced.valid
  rw [hplaced.delivery] at hid
  simp only [DeliveryIdentity.recoveryDeliveryId, DeliveryId.mk.injEq] at hid
  obtain ⟨hevent, -, hchan, hrecipient⟩ := hid
  refine ⟨?_, ?_⟩
  · rw [hopeningPlaced.canonical, DeliveryIdentity.openingOutboxId, hevent, hchan, hkind]
  · rw [hopeningId, DeliveryIdentity.openingDeliveryId, hevent, hchan, hrecipient, hkind]

/-- A new recovery waits beside such an opening only. -/
theorem PageItem.waitsWell {snapshot : DeliverySnapshot} {availableAt : Instant}
    {index : Option RelayIndexKey}
    (h : PageItem P items (.delivery outboxId deliveryId (.create snapshot availableAt index)))
    (hcommit : Committed items s t) (hwait : snapshot.state = .waitingDependency) :
    WaitsWell t (DeliveryRow.ofSnapshot snapshot availableAt index) := by
  cases h with
  | pending availableAt index hvalid hplace hstate | cancelled availableAt hvalid hplace hstate =>
    rw [hstate] at hwait
    cases hwait
  | waiting availableAt opening hvalid hplace hstate hchan hdepends hopening hcheck =>
    refine ⟨(DeliverySnapshot.valid_iff.mp hvalid).2.1 hstate, hchan, hdepends, ?_⟩
    obtain ⟨hcond, heff⟩ := hcommit.mem_delivery hcheck
    cases hold : s.delivery snapshot.openingOutboxId snapshot.openingDeliveryId with
    | none =>
      rw [hold] at hcond
      cases hcond
    | some current =>
      rw [hold] at hcond heff
      simp only [DeliveryUpdate.condition_some, DeliveryUpdate.rowCondition, Bool.and_eq_true,
        decide_eq_true_eq] at hcond
      refine ⟨current, heff, ?_⟩
      rw [hcond.1.2]
      exact hopening

/-- Operations end no opening without its recovery. -/
theorem RecoveriesWait.exec {reply : Reply op}
    (hwait : RecoveriesWait s) (hbase : Base P s) (hjust : Justified P s op)
    (h : exec P op outcome s = some (reply, t)) : RecoveriesWait t := by
  have hevolves := exec_evolves (hjust.wellFormed hbase) h
  intro outboxId deliveryId row' hrow' hwaiting'
  cases hrow : s.delivery outboxId deliveryId with
  | none =>
    obtain ⟨snapshot, availableAt, index, hmem, hcommit, rfl⟩ := exec_delivery_new h hrow hrow'
    exact PageItem.waitsWell (hjust.grounds hbase hmem) hcommit hwaiting'
  | some row =>
    obtain ⟨later, hlater, hle⟩ := hevolves.delivery hrow
    rw [hrow'] at hlater
    cases hlater
    have hwaiting : row.state = .waitingDependency := by
      by_contra hne
      exact hle.settled hne hwaiting'
    obtain ⟨hkind, hchan, hdepends, opening, hopening, hawaited⟩ := hwait _ _ _ hrow hwaiting
    -- The identity of the recovery is the one it had.
    have hident := hle.identity
    refine ⟨?_, ?_, ?_, ?_⟩
    · rw [hident]
      exact hkind
    · rw [hident]
      exact hchan
    · rw [hident]
      exact hdepends
    · rw [hident]
      rcases exec_delivery h hopening with hsame | ⟨update, hmem, hcommit, hcond, heff⟩
      · exact ⟨opening, hsame, hawaited⟩
      · refine ⟨_, heff, ?_⟩
        by_contra hended
        obtain ⟨hopeningKind, houtbox, hdeliv⟩ := hbase.recovery_keys hrow hkind hopening
        obtain ⟨ending, hfence⟩ := (hjust.grounds hbase hmem).fenced hopening hcond
          hopeningKind hawaited (Bool.not_eq_true _ ▸ hended)
        rw [← houtbox, ← hdeliv] at hrow hrow'
        exact hfence.not_waiting hcommit hrow hwaiting hrow' hwaiting'

/-- A recovery stops waiting with its opening. -/
def ReleasedWithOpening (s t : Store) : Prop :=
  ∀ outboxId deliveryId row row', s.delivery outboxId deliveryId = some row →
    row.state = .waitingDependency → t.delivery outboxId deliveryId = some row' →
    row'.state ≠ .waitingDependency →
    ∃ openingOutboxId openingDeliveryId opening opening',
      row.dependsOn = some (openingOutboxId, openingDeliveryId) ∧
      s.delivery openingOutboxId openingDeliveryId = some opening ∧
      t.delivery openingOutboxId openingDeliveryId = some opening' ∧
      opening.kind = .opening ∧ opening.state.awaited = true ∧
      (opening'.state = .succeeded ∧ row'.state = .pending ∧ row'.relay.index.isSome = true ∨
        (opening'.state = .permanentFailed ∨ opening'.state = .cancelled) ∧
          row'.state = .cancelled)

/-- Only a release ends the wait of a recovery. -/
theorem DeliveryUpdate.Grounds.release_of_waiting
    (h : update.Grounds P s items outboxId deliveryId) (hcond : update.rowCondition row = true)
    (hwait : row.state = .waitingDependency)
    (hleft : (update.rowEffect row).state ≠ .waitingDependency) :
    ∃ recovery release now, update = .releaseRecovery recovery release now := by
  cases update with
  | releaseRecovery recovery release now => exact ⟨recovery, release, now, rfl⟩
  | repairPublication =>
    simp only [rowCondition, Bool.and_eq_true, decide_eq_true_eq] at hcond
    rw [hcond.1.1.1.1.1.1] at hwait
    cases hwait
  | claim =>
    simp only [rowCondition, Bool.and_eq_true, decide_eq_true_eq] at hcond
    have hallowed := h.2.2.1
    rw [← hcond.1.1, hwait] at hallowed
    cases hallowed
  | transition =>
    rw [DeliveryRow.ownedBy_state hcond] at hwait
    cases hwait
  | completeAttempt =>
    simp only [rowCondition, Bool.and_eq_true] at hcond
    rw [DeliveryRow.ownedBy_state hcond.1.1] at hwait
    cases hwait
  | feedback =>
    obtain ⟨outcome, hnext⟩ := h.wellFormed
    rw [← DeliveryRow.asRead_state hcond, hwait] at hnext
    cases hnext
  | markQueued =>
    simp only [rowCondition, Bool.and_eq_true, decide_eq_true_eq] at hcond
    rw [hcond.1.1] at hwait
    cases hwait
  | _ => exact absurd hwait hleft

/-- The states that end an opening. -/
theorem OpeningEnd.of_eq_some (h : OpeningEnd.of next = some ending) :
    ending = .succeeded ∧ next = .succeeded ∨
      ending = .notSucceeded ∧ (next = .permanentFailed ∨ next = .cancelled) := by
  revert h
  cases next <;> cases ending <;> decide

/-- The state of an ended opening. -/
theorem EndsOpening.state (h : EndsOpening s items opening ending) (hcommit : Committed items s t) :
    ∃ before after, s.delivery opening.outboxId opening.deliveryId = some before ∧
      t.delivery opening.outboxId opening.deliveryId = some after ∧
      before.toDeliveryIdentity = opening ∧ opening.kind = .opening ∧
      OpeningEnd.of after.state = some ending := by
  obtain ⟨⟨before, hbefore, hident⟩, update, next, hmem, htarget, hended⟩ := h
  obtain ⟨-, heff⟩ := hcommit.mem_delivery hmem
  rw [hbefore] at heff
  unfold DeliveryIdentity.endedBy at hended
  split at hended
  next hkind =>
    refine ⟨before, _, hbefore, heff, hident, hkind, ?_⟩
    rw [DeliveryUpdate.rowEffect_state, htarget]
    exact hended
  next => cases hended

/-- Recoveries are released with their opening. -/
theorem exec_releasedWithOpening {reply : Reply op}
    (hwait : RecoveriesWait s) (hbase : Base P s) (hjust : Justified P s op)
    (h : exec P op outcome s = some (reply, t)) : ReleasedWithOpening s t := by
  intro outboxId deliveryId row row' hrow hwaiting hrow' hleft
  obtain ⟨-, -, hdepends, opening, hopening, hawaited⟩ := hwait _ _ _ hrow hwaiting
  rcases exec_delivery h hrow with hsame | ⟨update, hmem, hcommit, hcond, heff⟩
  · rw [hsame] at hrow'
    cases hrow'
    exact absurd hwaiting hleft
  rw [heff] at hrow'
  cases hrow'
  have hgrounds := hjust.grounds hbase hmem
  obtain ⟨recovery, release, now, rfl⟩ := hgrounds.release_of_waiting hcond hwaiting hleft
  obtain ⟨ended, ending, hends, hfence⟩ := hgrounds
  obtain ⟨before, after, hbefore, hafter, hident, hkind, hstate⟩ := hends.state hcommit
  -- The opening that ends is the one the recovery names.
  have hkeys : ended.outboxId = row.openingOutboxId ∧ ended.deliveryId = row.openingDeliveryId := by
    cases hfence <;> exact hbase.opening_keys hbefore hident hkind hrow
  rw [hkeys.1, hkeys.2] at hbefore hafter
  rw [hopening] at hbefore
  cases hbefore
  refine ⟨_, _, opening, after, hdepends, hopening, hafter, ?_, hawaited, ?_⟩
  · rw [hident]
    exact hkind
  · rcases OpeningEnd.of_eq_some hstate with ⟨rfl, hsucc⟩ | ⟨rfl, hended⟩
    · cases hfence
      exact .inl ⟨hsucc, rfl, rfl⟩
    · cases hfence
      exact .inr ⟨hended, rfl⟩

/-- In every store that is reached, a recovery that waits is one by email whose opening
exists and is pending, queued, processing, retryable or unknown.  It stops waiting only
in the transaction that moves its opening: to success, and then it is pending in the
relay index, or to failure or cancellation, and then it is cancelled. -/
theorem recovery_dependency {s : Store} {as : List (Action Outcome Call)}
    {w : World Store Call CallResult Op Reply} (hfresh : s.Fresh)
    (hrun : (notificationMachine P).run (Machine.initial s) as = some w) :
    (∀ outboxId deliveryId row, w.store.delivery outboxId deliveryId = some row →
      row.state = .waitingDependency → WaitsWell w.store row) ∧
    (notificationMachine P).EveryStep ReleasedWithOpening (Machine.initial s) as := by
  obtain ⟨hguarded, -, -⟩ := run_disciplined hfresh.base hrun
  obtain ⟨hwaits, hlast⟩ := hguarded.kept (I := RecoveriesWait)
    (fun _ _ _ _ _ hwait h hexec => hwait.exec h.1 h.2 hexec) hfresh.recoveriesWait hrun
  refine ⟨hlast, hwaits.everyStep ?_ ?_ hrun⟩
  · intro s outboxId deliveryId row row' hrow hwaiting hrow' hleft
    rw [hrow] at hrow'
    cases hrow'
    exact absurd hwaiting hleft
  · intro op choice s reply t h hexec
    exact exec_releasedWithOpening h.1 h.2.1 h.2.2 hexec

open OneRecipient

/-- A recovery that waited is released when its opening is sent. -/
theorem recovery_dependency_of_released : ∃ w,
    machine.run initial released = some w ∧
      (deliveryOf .opening w).map (·.state) = some .succeeded ∧
      (deliveryOf .recovery w).map (·.state) = some .pending ∧
      machine.EveryStep ReleasedWithOpening initial
        released := by
  have hfinal : (machine.run initial released).map (fun w =>
      ((deliveryOf .opening w).map (·.state), (deliveryOf .recovery w).map (·.state))) =
      some (some .succeeded, some .pending) := by
    decide +kernel
  obtain ⟨w, hrun, hw⟩ := Option.map_eq_some_iff.mp hfinal
  obtain ⟨hopening, hrecovery⟩ := Prod.mk.inj hw
  exact ⟨w, hrun, hopening, hrecovery, (recovery_dependency store_fresh hrun).2⟩

end LimnoPulse.Notifications
