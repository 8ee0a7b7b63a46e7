import LimnoPulse.Notifications.Lifecycle

/-!
# No notification is lost

A delivery on its way is either in the index of the relay or carried by a message.
The relay publishes before it marks, workers repair what the relay could not mark,
and a message is deleted only for a delivery that has ended.

Main results:

- Theorem `Tracked.exec`: no operation loses a delivery.
- Theorem `no_notification_lost`: nor does any run, and workers only give up
  messages of ended deliveries.
-/

namespace LimnoPulse.Notifications

open CivilTime StoreProgram

variable {P : Platform}
variable {s : Store} {items : List Item} {outboxId : OutboxId} {deliveryId : DeliveryId}
  {row : DeliveryRow} {state next : DeliveryState} {outcome : Outcome} {update : DeliveryUpdate}
  {position : Nat} {message : QueueMessage} {op : Op} {t : Store}

/-- A worker has been told about a delivery in this state. -/
def DeliveryState.carried : DeliveryState → Bool
  | .queued | .processing | .retryableFailed => true
  | _ => false

/-- Where deliveries on their way are kept. -/
structure Tracked (s : Store) : Prop where
  indexed : ∀ {outboxId deliveryId row}, s.delivery outboxId deliveryId = some row →
    row.state = .pending → row.relay.index.isSome = true
  published : ∀ {outboxId deliveryId row}, s.delivery outboxId deliveryId = some row →
    row.state.carried = true → Published row.job s
  deleted : ∀ {position : Nat} {message : QueueMessage}, s.messages[position]? = some message →
    message.deleted = true → TerminalAt message.job s

/-- Nothing is on its way. -/
theorem Store.Fresh.tracked (h : s.Fresh) : Tracked s where
  indexed hrow := by
    rw [h.delivery] at hrow
    cases hrow
  published hrow := by
    rw [h.delivery] at hrow
    cases hrow
  deleted hmsg := by
    rw [h.messages] at hmsg
    cases hmsg

/-- Feedback makes no delivery pending. -/
theorem reconcileDeliveryStateFromProvider_ne_pending
    {outcome : ProviderOutcome} (h : reconcileDeliveryStateFromProvider state outcome = some next) :
    next ≠ .pending := by
  revert h
  cases state <;> cases outcome <;> cases next <;> decide

/-- A pending delivery is in the relay index. -/
theorem DeliveryUpdate.Grounds.indexed
    (h : update.Grounds P s items outboxId deliveryId) (hcond : update.rowCondition row = true)
    (hindex : row.state = .pending → row.relay.index.isSome = true)
    (hpend : (update.rowEffect row).state = .pending) :
    (update.rowEffect row).relay.index.isSome = true := by
  have hedge := h.wellFormed.edge hcond
  rw [hpend] at hedge
  cases update with
  | repairPublication record now | claim record request | markQueued work => cases hpend
  | transition =>
    rw [DeliveryRow.ownedBy_state hcond] at hedge
    cases hedge
  | completeAttempt =>
    simp only [rowCondition, Bool.and_eq_true] at hcond
    rw [DeliveryRow.ownedBy_state hcond.1.1] at hedge
    cases hedge
  | releaseRecovery recovery release =>
    cases release with
    | pending => rfl
    | cancelled => cases hpend
  | feedback =>
    rw [rowEffect_state] at hpend
    obtain ⟨outcome, hnext⟩ := h.wellFormed
    exact absurd hpend (reconcileDeliveryStateFromProvider_ne_pending hnext)
  | reschedule => rfl
  | create snapshot availableAt index =>
    have hsome := hindex hpend
    simp only [rowEffect]
    cases hrow : row.relay.index with
    | none =>
      rw [hrow] at hsome
      cases hsome
    | some => rfl
  | _ => exact hindex hpend

/-- Where an edge into a carried state comes from. -/
theorem stateEdge_carried (h : stateEdge state next = true) (hcarried : next.carried = true) :
    state.carried = true ∨ state = .pending ∧ next = .queued := by
  revert h hcarried
  cases state <;> cases next <;> decide

/-- A queued delivery has been published. -/
theorem DeliveryUpdate.Grounds.published (h : update.Grounds P s items outboxId deliveryId)
    (hrow : s.delivery outboxId deliveryId = some row) (hcond : update.rowCondition row = true)
    (hpend : row.state = .pending) (hqueued : (update.rowEffect row).state = .queued) :
    Published row.job s := by
  rw [rowEffect_state] at hqueued
  cases update with
  | repairPublication =>
    obtain ⟨⟨rfl, rfl⟩, hknown, hpub⟩ := h
    obtain ⟨current, hcur, hident⟩ := hknown.exists_row
    rw [hrow] at hcur
    cases hcur
    exact hident ▸ hpub
  | markQueued =>
    obtain ⟨old, ⟨current, hcur, hle⟩, hpub⟩ := h
    rw [hrow] at hcur
    cases hcur
    exact hle.identity ▸ hpub
  | transition =>
    rw [DeliveryRow.ownedBy_state hcond] at hpend
    cases hpend
  | completeAttempt =>
    simp only [rowCondition, Bool.and_eq_true] at hcond
    rw [DeliveryRow.ownedBy_state hcond.1.1] at hpend
    cases hpend
  | feedback =>
    obtain ⟨outcome, hnext⟩ := h.wellFormed
    rw [← DeliveryRow.asRead_state hcond, hpend] at hnext
    cases hnext
  | claim => cases hqueued
  | releaseRecovery recovery release => cases release <;> cases hqueued
  | _ => rw [show row.state = .queued from hqueued] at hpend; cases hpend

/-- A mark that leaves the job of a message. -/
theorem modify_deleted {messages : List QueueMessage} {mark : QueueMessage → QueueMessage}
    {other : Nat} (h : (messages.modify other mark)[position]? = some message)
    (hmark : ∀ m : QueueMessage, (mark m).job = m.job) :
    ∃ before : QueueMessage, messages[position]? = some before ∧ before.job = message.job ∧
      (message = before ∨ position = other ∧ message = mark before) := by
  rw [List.getElem?_modify] at h
  obtain ⟨before, hbefore, heq⟩ := Option.map_eq_some_iff.mp h
  refine ⟨before, hbefore, ?_⟩
  by_cases hother : other = position
  · rw [if_pos hother] at heq
    exact ⟨by rw [← heq, hmark], .inr ⟨hother.symm, heq.symm⟩⟩
  · rw [if_neg hother] at heq
    exact ⟨congrArg QueueMessage.job heq, .inl heq.symm⟩

/-- Where a deleted message comes from. -/
theorem exec_deleted {reply : Reply op} (h : exec P op outcome s = some (reply, t))
    (hmsg : t.messages[position]? = some message) (hdeleted : message.deleted = true) :
    ∃ before : QueueMessage, s.messages[position]? = some before ∧ before.job = message.job ∧
      (before.deleted = true ∨ op = .deleteMessage position) := by
  rcases exec_cases h with rfl | hcommit | ⟨job, messageId, -, rfl⟩ | ⟨other, rfl, rfl⟩ |
    ⟨request, -, rfl⟩ | ⟨change, -, rfl⟩
  · exact ⟨message, hmsg, rfl, .inl hdeleted⟩
  · exact ⟨message, hcommit.messages ▸ hmsg, rfl, .inl hdeleted⟩
  · simp only [List.getElem?_append] at hmsg
    split at hmsg
    · exact ⟨message, hmsg, rfl, .inl hdeleted⟩
    · -- A message that has just been published is not deleted.
      rw [List.mem_singleton.mp (List.mem_of_getElem? hmsg)] at hdeleted
      cases hdeleted
  · obtain ⟨before, hbefore, hjob, hsame | ⟨rfl, -⟩⟩ := modify_deleted hmsg (fun _ => rfl)
    · exact ⟨before, hbefore, hjob, .inl (hsame ▸ hdeleted)⟩
    · exact ⟨before, hbefore, hjob, .inr rfl⟩
  · exact ⟨message, hmsg, rfl, .inl hdeleted⟩
  · cases change with
    | moveToDeadLetters =>
      obtain ⟨before, hbefore, hjob, hsame | ⟨-, hmarked⟩⟩ := modify_deleted hmsg (fun _ => rfl)
      · exact ⟨before, hbefore, hjob, .inl (hsame ▸ hdeleted)⟩
      · exact ⟨before, hbefore, hjob, .inl (by rw [hmarked] at hdeleted; exact hdeleted)⟩
    | createOutbox =>
      simp only [Store.edit] at hmsg
      split at hmsg <;> exact ⟨message, hmsg, rfl, .inl hdeleted⟩
    | _ => exact ⟨message, hmsg, rfl, .inl hdeleted⟩

/-- No operation loses a delivery. -/
theorem Tracked.exec {reply : Reply op}
    (htracked : Tracked s) (hbase : Base P s) (hjust : Justified P s op)
    (h : exec P op outcome s = some (reply, t)) : Tracked t := by
  have hevolves := exec_evolves (hjust.wellFormed hbase) h
  refine ⟨?_, ?_, ?_⟩
  · intro outboxId deliveryId row' hrow' hpend
    cases hrow : s.delivery outboxId deliveryId with
    | none =>
      obtain ⟨snapshot, availableAt, index, hmem, -, rfl⟩ := exec_delivery_new h hrow hrow'
      obtain ⟨-, -, ⟨-, hindex⟩ | hstart⟩ := PageItem.created (hjust.grounds hbase hmem)
      · exact hindex
      · rw [show snapshot.state = .pending from hpend] at hstart
        simp at hstart
    | some =>
      rcases exec_delivery h hrow with hsame | ⟨update, hmem, -, hcond, heff⟩
      · rw [hsame] at hrow'
        cases hrow'
        exact htracked.indexed hrow hpend
      · rw [heff] at hrow'
        cases hrow'
        exact (hjust.grounds hbase hmem).indexed hcond (htracked.indexed hrow) hpend
  · intro outboxId deliveryId row' hrow' hcarried
    cases hrow : s.delivery outboxId deliveryId with
    | none =>
      obtain ⟨snapshot, availableAt, index, hmem, -, rfl⟩ := exec_delivery_new h hrow hrow'
      have hcarried : snapshot.state.carried = true := hcarried
      obtain ⟨-, -, ⟨hstart, -⟩ | hstart | hstart⟩ :=
        PageItem.created (hjust.grounds hbase hmem) <;> rw [hstart] at hcarried <;>
        cases hcarried
    | some row =>
      rcases exec_delivery h hrow with hsame | ⟨update, hmem, -, hcond, heff⟩
      · rw [hsame] at hrow'
        cases hrow'
        exact (htracked.published hrow hcarried).mono hevolves
      · rw [heff] at hrow'
        cases hrow'
        have hgrounds := hjust.grounds hbase hmem
        have hpub : Published row.job s := by
          rcases stateEdge_carried (hgrounds.wellFormed.edge hcond) hcarried with
            hbefore | ⟨hpend, hqueued⟩
          · exact htracked.published hrow hbefore
          · exact hgrounds.published hrow hcond hpend hqueued
        rw [DeliveryUpdate.rowEffect_identity]
        exact hpub.mono hevolves
  · intro position message hmsg hdeleted
    obtain ⟨before, hbefore, hjob, hold | rfl⟩ := exec_deleted h hmsg hdeleted
    · exact hjob ▸ (htracked.deleted hbefore hold).mono hevolves
    · cases hjust with
      | harmless hharmless => cases hharmless
      | deleteMessage _ hterm => exact hjob ▸ (hterm before hbefore).mono hevolves

/-- What has not ended is in the relay index or has a message. -/
theorem Tracked.not_lost (htracked : Tracked s) (hbase : Base P s)
    (hrow : s.delivery outboxId deliveryId = some row) (hstate : row.state.terminal = false)
    (hwait : row.state ≠ .waitingDependency) :
    row.state = .pending ∧ row.relay.index.isSome = true ∨
      ∃ message ∈ s.messages, message.job = row.job ∧ message.deleted = false := by
  by_cases hpend : row.state = .pending
  · exact .inl ⟨hpend, htracked.indexed hrow hpend⟩
  · right
    have hcarried : row.state.carried = true := by
      revert hstate hwait hpend
      cases row.state <;> decide
    obtain ⟨position, message, hmsg, hjob⟩ := htracked.published hrow hcarried
    refine ⟨message, List.mem_of_getElem? hmsg, hjob, ?_⟩
    cases hdeleted : message.deleted with
    | false => rfl
    | true =>
      -- The delivery of a deleted message has ended, and it is this one.
      obtain ⟨ended, hended, hterm⟩ := htracked.deleted hmsg hdeleted
      have hplaced := hbase.placed hrow
      rw [hjob] at hended
      change s.delivery row.outboxId row.deliveryId = some ended at hended
      rw [hplaced.outbox, hplaced.delivery, hrow] at hended
      cases hended
      rw [hterm] at hstate
      cases hstate

/-- The worker found that its message can be deleted. -/
def GivesUp (message : QueueMessage) (s : Store) (call : Call) (p : Prog CallResult) : Prop :=
  (∃ position next, p = .call (.deleteMessage position) next ∧
    s.messages[position]? = some message) ∨
  ∃ config position decision, call = .handle config position message ∧
    p = .done (.decided decision) ∧ decision.action = .delete

/-- In every store that is reached, a delivery on its way is pending in the relay index
or carried by a message that is not deleted, and a worker gives up a message only when
its delivery has ended. -/
theorem no_notification_lost {s : Store} {as : List (Action Outcome Call)}
    {w : World Store Call CallResult Op Reply} (hfresh : s.Fresh)
    (hrun : (notificationMachine P).run (Machine.initial s) as = some w) :
    (∀ outboxId deliveryId row, w.store.delivery outboxId deliveryId = some row →
      row.state.terminal = false → row.state ≠ .waitingDependency →
      row.state = .pending ∧ row.relay.index.isSome = true ∨
        ∃ message ∈ w.store.messages, message.job = row.job ∧ message.deleted = false) ∧
    ∀ call p message, (call, p) ∈ w.processes → GivesUp message w.store call p →
      TerminalAt message.job w.store := by
  obtain ⟨hguarded, hbase, hsound⟩ := run_disciplined hfresh.base hrun
  have htracked : Tracked w.store :=
    (hguarded.kept (fun _ _ _ _ _ htracked h hexec => htracked.exec h.1 h.2 hexec)
      hfresh.tracked hrun).2
  refine ⟨?_, ?_⟩
  · exact fun _ _ _ hrow hstate hwaiting => htracked.not_lost hbase hrow hstate hwaiting
  · rintro call p message hp (⟨position, next, rfl, hmessage⟩ | ⟨_, _, decision, rfl, rfl, hdelete⟩)
    · -- The worker could delete the message now, so it is justified now.
      cases (hsound _ hp w.store (Evolves.refl _) hbase).1 with
      | harmless hharmless => cases hharmless
      | deleteMessage _ hterminal => exact hterminal message hmessage
    · exact hsound _ hp hdelete

open OneRecipient

/-- The message of a delivery in doubt is kept. -/
theorem no_notification_lost_in_doubt : ∃ w,
    machine.run initial inDoubt = some w ∧
      ∃ row, deliveryOf .opening w = some row ∧ row.state = .retryableFailed ∧
        ∃ message ∈ w.store.messages, message.job = row.job ∧ message.deleted = false := by
  have hfinal : (machine.run initial inDoubt).map (fun w =>
      (deliveryOf .opening w).map (·.state)) = some (some .retryableFailed) := by
    decide +kernel
  obtain ⟨w, hrun, hw⟩ := Option.map_eq_some_iff.mp hfinal
  obtain ⟨row, hrow, hstate⟩ := Option.map_eq_some_iff.mp hw
  refine ⟨w, hrun, row, hrow, hstate, ?_⟩
  rcases (no_notification_lost store_fresh hrun).1 _ _ row hrow
    (by rw [hstate]; rfl) (by rw [hstate]; decide) with ⟨hpending, -⟩ | hmessage
  · rw [hstate] at hpending
    cases hpending
  · exact hmessage

end LimnoPulse.Notifications
