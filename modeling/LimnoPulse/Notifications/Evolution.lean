import LimnoPulse.Library.Discipline
import LimnoPulse.Notifications.Effects

/-!
# How stores change

What everyone may rely on: deliveries stay and keep their identity, their revision
counts their changes, a terminal state stays terminal, no delivery goes back to waiting,
attempts are never removed or started again, and messages keep their place.

Main results:

- Theorem `DeliveryUpdate.WellFormed.edge`: an update moves a delivery along an
  edge of `deliveryTransitions` or of provider feedback.
- Theorem `exec_evolves`: what every operation keeps of the store.
-/

namespace LimnoPulse.Notifications

open CivilTime StoreProgram

variable {state next : DeliveryState} {row : DeliveryRow} {completion : AttemptCompletion}
  {s : Store} {record : DeliveryRecord} {current : DeliveryRow} {t : Store} {position : Nat}
  {message : QueueMessage} {outboxId : OutboxId} {deliveryId : DeliveryId}

/-- The job of a delivery. -/
def DeliveryIdentity.job (identity : DeliveryIdentity) : JobEnvelope :=
  ⟨identity.tenantId, identity.outboxId, identity.deliveryId, identity.eventId, identity.kind,
    identity.channel⟩

/-- The row without lease expiry and relay attributes. -/
def DeliveryRow.core (row : DeliveryRow) : DeliveryRow :=
  { row with leaseExpiresAt := none, relay := {} }

/-- What stays of a delivery while others work on it. -/
structure DeliveryRow.Le (before after : DeliveryRow) : Prop where
  identity : after.toDeliveryIdentity = before.toDeliveryIdentity
  revision : before.revision ≤ after.revision
  core : after.revision = before.revision → after.core = before.core
  terminal : before.state.terminal = true → after.state.terminal = true
  settled : before.state ≠ .waitingDependency → after.state ≠ .waitingDependency

theorem DeliveryRow.Le.refl (row : DeliveryRow) : row.Le row :=
  ⟨rfl, Nat.le_refl _, fun _ => rfl, id, id⟩

theorem DeliveryRow.Le.trans {a b c : DeliveryRow} (hab : a.Le b) (hbc : b.Le c) : a.Le c where
  identity := hbc.identity.trans hab.identity
  revision := Nat.le_trans hab.revision hbc.revision
  core := by
    intro heq
    have hb : b.revision = a.revision := by
      have h₁ := hab.revision
      have h₂ := hbc.revision
      omega
    have hc : c.revision = b.revision := by omega
    exact (hbc.core hc).trans (hab.core hb)
  terminal h := hbc.terminal (hab.terminal h)
  settled h := hbc.settled (hab.settled h)

/-! ## Updates -/

/-- The edges that feedback adds to `deliveryTransitions`. -/
def feedbackEdge (state next : DeliveryState) : Bool :=
  (state = .processing || state = .retryableFailed || state = .succeeded || state = .unknown) &&
    (next = .succeeded || next = .permanentFailed)

/-- The delivery keeps its state or moves along an edge. -/
def stateEdge (state next : DeliveryState) : Bool :=
  next = state || (deliveryTransitions state).contains next || feedbackEdge state next

/-- Terminal states stay so. -/
theorem stateEdge_terminal (h : stateEdge state next = true) (hterm : state.terminal = true) :
    next.terminal = true := by
  revert h hterm
  cases state <;> cases next <;> decide

/-- Nothing goes back to waiting. -/
theorem stateEdge_settled (h : stateEdge state next = true)
    (hsettled : state ≠ .waitingDependency) :
    next ≠ .waitingDependency := by
  revert h hsettled
  cases state <;> cases next <;> decide

/-- What senders make sure of before they send. -/
def DeliveryUpdate.WellFormed : DeliveryUpdate → Prop
  | .claim record _ => transitionAllowed record.delivery.state .processing = true
  | .transition _ (.preflightFailure completion) =>
    completion.nextState = .permanentFailed ∨ completion.nextState = .retryableFailed
  | .completeAttempt _ completion => validateCompletion completion = true
  | .feedback current nextState _ _ =>
    ∃ outcome, reconcileDeliveryStateFromProvider current.state outcome = some nextState
  | _ => True

/-- What a valid completion says. -/
theorem validateCompletion_cases (h : validateCompletion completion = true) :
    completion.outcome = .succeeded ∧ completion.nextState = .succeeded ∧
        completion.providerOutcome = some .accepted ∨
      completion.outcome ≠ .succeeded ∧ completion.outcome ≠ .started ∧
        completion.nextState ∈ [.permanentFailed, .retryableFailed, .unknown] := by
  obtain ⟨h, -⟩ := Bool.and_eq_true_iff.mp h
  cases hout : completion.outcome <;> rw [hout] at h <;>
    simp only [Bool.and_eq_true, Bool.or_eq_true, decide_eq_true_eq, Bool.false_eq_true] at h
  case succeeded => exact .inl ⟨rfl, h.1.1.1, h.1.2⟩
  case permanentFailed => rcases h.1 with h | ⟨⟨⟨h, -⟩, -⟩, -⟩ <;> simp [h]
  case retryable => rcases h.1 with h | h <;> simp [h]
  case ambiguous => rcases h.1 with ⟨h, -⟩ | ⟨⟨h, -⟩, -⟩ <;> simp [h]

/-- A completion ends its attempt. -/
theorem validateCompletion_outcome
    (h : validateCompletion completion = true) : completion.outcome ≠ .started := by
  rcases validateCompletion_cases h with ⟨hsucc, -⟩ | ⟨-, hended, -⟩
  · simp [hsucc]
  · exact hended

/-- A completion moves a claimed delivery, not to cancelled. -/
theorem validateCompletion_nextState (h : validateCompletion completion = true) :
    (deliveryTransitions .processing).contains completion.nextState = true ∧
      completion.nextState ≠ .processing ∧ completion.nextState ≠ .cancelled := by
  rcases validateCompletion_cases h with ⟨-, hnext, -⟩ | ⟨-, -, hnext⟩
  · rw [hnext]
    decide
  · revert hnext
    cases completion.nextState <;> decide

/-- Feedback follows an edge. -/
theorem reconcileDeliveryStateFromProvider_edge {outcome : ProviderOutcome}
    (h : reconcileDeliveryStateFromProvider state outcome = some next) :
    stateEdge state next = true := by
  revert h
  cases state <;> cases outcome <;> cases next <;> decide

namespace DeliveryRow

/-- A claimed delivery is processing. -/
theorem ownedBy_state (h : row.ownedBy record = true) : row.state = .processing := by
  simp only [ownedBy, Bool.and_eq_true, decide_eq_true_eq] at h
  exact h.1.1.1.1

theorem ownedBy_revision (h : row.ownedBy record = true) : row.revision = record.revision := by
  simp only [ownedBy, Bool.and_eq_true, decide_eq_true_eq] at h
  exact h.1.1.1.2

theorem asRead_state (h : row.asRead current = true) : row.state = current.state := by
  simp only [asRead, Bool.and_eq_true, decide_eq_true_eq] at h
  exact h.1.1.1.1.2

theorem asRead_revision (h : row.asRead current = true) : row.revision = current.revision := by
  simp only [asRead, Bool.and_eq_true, decide_eq_true_eq] at h
  exact h.1.1.1.2

end DeliveryRow

namespace DeliveryUpdate

variable {update : DeliveryUpdate}

/-- No update touches the identity of a delivery. -/
@[simp]
theorem rowEffect_identity (update : DeliveryUpdate) (row : DeliveryRow) :
    (update.rowEffect row).toDeliveryIdentity = row.toDeliveryIdentity := by
  fun_cases rowEffect update row with
  | case4 record step => cases step <;> rfl
  | _ => rfl

/-- The revision counts up, or the core stays. -/
theorem rowEffect_revision (h : update.rowCondition row = true) :
    (update.rowEffect row).revision = row.revision + 1 ∨
      ((update.rowEffect row).revision = row.revision ∧ (update.rowEffect row).core = row.core) := by
  cases update with
  | repairPublication =>
    simp only [rowCondition, Bool.and_eq_true, decide_eq_true_eq] at h
    exact .inl (congrArg (· + 1) h.1.1.1.1.1.2.symm)
  | claim =>
    simp only [rowCondition, Bool.and_eq_true, decide_eq_true_eq] at h
    exact .inl (congrArg (· + 1) h.1.2.symm)
  | transition record step =>
    left
    cases step <;> exact congrArg (· + 1) (DeliveryRow.ownedBy_revision h).symm
  | beginAttempt record request | completeAttempt record completion =>
    simp only [rowCondition, Bool.and_eq_true] at h
    exact .inl (congrArg (· + 1) (DeliveryRow.ownedBy_revision h.1.1).symm)
  | releaseRecovery recovery release =>
    simp only [rowCondition, Bool.and_eq_true, decide_eq_true_eq] at h
    left
    cases release <;> exact congrArg (· + 1) h.2.symm
  | feedback =>
    left
    simp only [rowEffect]
    split <;> exact congrArg (· + 1) (DeliveryRow.asRead_revision h).symm
  | markQueued work | reschedule work next index =>
    simp only [rowCondition, Bool.and_eq_true, decide_eq_true_eq] at h
    exact .inl (congrArg (· + 1) h.1.2.symm)
  | _ => exact .inr ⟨rfl, rfl⟩

/-- An update moves a delivery along an edge. -/
theorem WellFormed.edge (hwell : update.WellFormed) (h : update.rowCondition row = true) :
    stateEdge row.state (update.rowEffect row).state = true := by
  have hstay : ∀ state, stateEdge state state = true := by
    intro state
    cases state <;> decide
  cases update with
  | repairPublication =>
    simp only [rowCondition, Bool.and_eq_true, decide_eq_true_eq] at h
    rw [h.1.1.1.1.1.1]
    exact of_decide_eq_true rfl
  | claim =>
    simp only [rowCondition, Bool.and_eq_true, decide_eq_true_eq] at h
    have hallowed : transitionAllowed row.state .processing = true := h.1.1.symm ▸ hwell
    simp only [rowEffect]
    revert hallowed
    cases row.state <;> decide
  | transition record step =>
    rw [DeliveryRow.ownedBy_state h]
    cases step with
    | preflightFailure =>
      rcases hwell with hstate | hstate <;>
        simp only [rowEffect, ProcessingTransition.effect, hstate] <;> decide
    | _ => exact of_decide_eq_true rfl
  | beginAttempt => exact hstay _
  | completeAttempt =>
    simp only [rowCondition, Bool.and_eq_true] at h
    obtain ⟨hnext, -⟩ := validateCompletion_nextState hwell
    rw [DeliveryRow.ownedBy_state h.1.1]
    simp only [rowEffect, stateEdge, hnext, Bool.or_true, Bool.true_or]
  | releaseRecovery recovery release =>
    simp only [rowCondition, Bool.and_eq_true, decide_eq_true_eq] at h
    rw [h.1.2]
    cases release <;> exact of_decide_eq_true rfl
  | feedback =>
    obtain ⟨outcome, hnext⟩ := hwell
    rw [DeliveryRow.asRead_state h]
    simp only [rowEffect]
    split <;> exact reconcileDeliveryStateFromProvider_edge hnext
  | markQueued =>
    simp only [rowCondition, Bool.and_eq_true, decide_eq_true_eq] at h
    rw [h.1.1]
    exact of_decide_eq_true rfl
  | _ => exact hstay _

/-- What an update keeps. -/
theorem WellFormed.le (hwell : update.WellFormed) (h : update.rowCondition row = true) :
    row.Le (update.rowEffect row) where
  identity := rowEffect_identity update row
  revision := by
    rcases rowEffect_revision h with hnext | ⟨hsame, -⟩ <;> omega
  core := by
    intro heq
    rcases rowEffect_revision h with hnext | ⟨-, hcore⟩
    · omega
    · exact hcore
  terminal := stateEdge_terminal (hwell.edge h)
  settled := stateEdge_settled (hwell.edge h)

end DeliveryUpdate

/-- The same message, perhaps marked. -/
def QueueMessage.Same (before after : QueueMessage) : Prop :=
  after.messageId = before.messageId ∧ after.job = before.job

/-- How a store may change. -/
structure Evolves (s t : Store) : Prop where
  delivery : ∀ {outboxId deliveryId row}, s.delivery outboxId deliveryId = some row →
    ∃ row', t.delivery outboxId deliveryId = some row' ∧ row.Le row'
  attempt : ∀ {deliveryId attemptId row}, s.attempt deliveryId attemptId = some row →
    ∃ row', t.attempt deliveryId attemptId = some row' ∧
      (row.outcome ≠ .started → row'.outcome ≠ .started)
  message : ∀ {position : Nat} {message : QueueMessage}, s.messages[position]? = some message →
    ∃ message', t.messages[position]? = some message' ∧ message.Same message'

theorem Evolves.refl (s : Store) : Evolves s s where
  delivery h := ⟨_, h, DeliveryRow.Le.refl _⟩
  attempt h := ⟨_, h, id⟩
  message h := ⟨_, h, rfl, rfl⟩

theorem Evolves.trans {u : Store} (hst : Evolves s t) (htu : Evolves t u) : Evolves s u where
  delivery h := by
    obtain ⟨row, hrow, hle⟩ := hst.delivery h
    obtain ⟨row', hrow', hle'⟩ := htu.delivery hrow
    exact ⟨row', hrow', hle.trans hle'⟩
  attempt h := by
    obtain ⟨row, hrow, hsettled⟩ := hst.attempt h
    obtain ⟨row', hrow', hsettled'⟩ := htu.attempt hrow
    exact ⟨row', hrow', hsettled' ∘ hsettled⟩
  message h := by
    obtain ⟨message, hmsg, hsame⟩ := hst.message h
    obtain ⟨message', hmsg', hsame'⟩ := htu.message hmsg
    exact ⟨message', hmsg', hsame'.1.trans hsame.1, hsame'.2.trans hsame.2⟩

/-- Messages that are marked keep their place. -/
theorem messages_modify {messages : List QueueMessage} {mark : QueueMessage → QueueMessage}
    (hmark : ∀ message : QueueMessage, message.Same (mark message)) {other : Nat}
    (h : messages[position]? = some message) :
    ∃ message', (messages.modify other mark)[position]? = some message' ∧
      message.Same message' := by
  rw [List.getElem?_modify, h]
  by_cases heq : other = position
  · exact ⟨mark message, by simp [heq], hmark message⟩
  · exact ⟨message, by simp [heq], rfl, rfl⟩

/-- Other services do not touch deliveries. -/
@[simp]
theorem Store.edit_delivery (s : Store) (change : Edit) (outboxId : OutboxId)
    (deliveryId : DeliveryId) : (s.edit change).delivery outboxId deliveryId =
      s.delivery outboxId deliveryId := by
  cases change with
  | createOutbox =>
    simp only [Store.edit]
    split
    · exact Table.lookup_put_of_ne (by simp) _ _
    · rfl
  | moveToDeadLetters => rfl
  | _ => exact Table.lookup_put_of_ne (by simp) _ _

/-- Others write no attempts. -/
@[simp]
theorem Store.edit_attempt (s : Store) (change : Edit) (deliveryId : DeliveryId)
    (attemptId : String) : (s.edit change).attempt deliveryId attemptId =
      s.attempt deliveryId attemptId := by
  cases change with
  | createOutbox =>
    simp only [Store.edit]
    split
    · exact Table.lookup_put_of_ne (by simp) _ _
    · rfl
  | moveToDeadLetters => rfl
  | _ => exact Table.lookup_put_of_ne (by simp) _ _

/-- Others keep messages. -/
theorem Store.edit_message (change : Edit) (h : s.messages[position]? = some message) :
    ∃ message', (s.edit change).messages[position]? = some message' ∧
      message.Same message' ∧ message'.deleted = message.deleted := by
  cases change with
  | createOutbox =>
    simp only [Store.edit]
    split <;> exact ⟨message, h, ⟨rfl, rfl⟩, rfl⟩
  | moveToDeadLetters other =>
    simp only [Store.edit, List.getElem?_modify, h]
    by_cases heq : other = position
    · exact ⟨{ message with deadLettered := true }, by simp [heq], ⟨rfl, rfl⟩, rfl⟩
    · exact ⟨message, by simp [heq], ⟨rfl, rfl⟩, rfl⟩
  | _ => exact ⟨message, h, ⟨rfl, rfl⟩, rfl⟩

section Exec

variable {P : Platform} {op : Op} {outcome : Outcome} {s t : Store} {reply : Reply op}

section

variable (h : exec P op outcome s = some (reply, t))
include h

/-- Such a row changes in committed items only. -/
theorem exec_row {key : Key}
    (hedit : ∀ change, (s.edit change).rows.lookup key = s.rows.lookup key) :
    t.rows.lookup key = s.rows.lookup key ∨ Committed op.items s t := by
  rcases exec_cases h with rfl | hcommit | ⟨job, messageId, -, rfl⟩ | ⟨position, -, rfl⟩ |
    ⟨request, -, rfl⟩ | ⟨change, -, rfl⟩
  · exact .inl rfl
  · exact .inr hcommit
  · exact .inl rfl
  · exact .inl rfl
  · exact .inl rfl
  · exact .inl (hedit change)

/-- What an operation does to a delivery that exists. -/
theorem exec_delivery (hrow : s.delivery outboxId deliveryId = some row) :
    t.delivery outboxId deliveryId = some row ∨
      ∃ update, Item.delivery outboxId deliveryId update ∈ op.items ∧ Committed op.items s t ∧
        update.rowCondition row = true ∧
        t.delivery outboxId deliveryId = some (update.rowEffect row) := by
  rcases exec_row h fun change => s.edit_delivery change outboxId deliveryId with hsame | hcommit
  · exact .inl (hsame.trans hrow)
  · rcases hcommit.delivery outboxId deliveryId with ⟨update, hmem, hcond, heff⟩ | hframe
    · rw [hrow] at hcond heff
      exact .inr ⟨update, hmem, hcommit, hcond, heff⟩
    · exact .inl (hframe.trans hrow)

/-- Where a delivery comes from that does not exist yet. -/
theorem exec_delivery_new (hnone : s.delivery outboxId deliveryId = none)
    (hrow : t.delivery outboxId deliveryId = some row) :
    ∃ snapshot availableAt index,
      Item.delivery outboxId deliveryId (.create snapshot availableAt index) ∈ op.items ∧
        Committed op.items s t ∧ row = DeliveryRow.ofSnapshot snapshot availableAt index := by
  rcases exec_row h fun change => s.edit_delivery change outboxId deliveryId with hsame | hcommit
  · cases hnone.symm.trans (hsame.symm.trans hrow)
  · rcases hcommit.delivery outboxId deliveryId with ⟨update, hmem, -, heff⟩ | hframe
    · rw [hnone, hrow] at heff
      cases update <;> cases heff
      exact ⟨_, _, _, hmem, hcommit, rfl⟩
    · rw [hframe, hnone] at hrow
      cases hrow

/-- What an operation does to an attempt. -/
theorem exec_attempt (deliveryId : DeliveryId) (attemptId : String) :
    t.attempt deliveryId attemptId = s.attempt deliveryId attemptId ∨
      ∃ update, Item.attempt deliveryId attemptId update ∈ op.items ∧ Committed op.items s t ∧
        update.condition (s.attempt deliveryId attemptId) = true ∧
        t.attempt deliveryId attemptId = update.effect (s.attempt deliveryId attemptId) := by
  rcases exec_row h fun change => s.edit_attempt change deliveryId attemptId with hsame | hcommit
  · exact .inl hsame
  · rcases hcommit.attempt deliveryId attemptId with ⟨update, hmem, hcond, heff⟩ | hframe
    · exact .inr ⟨update, hmem, hcommit, hcond, heff⟩
    · exact .inl hframe

end

end Exec

/-- A completion ends its attempt. -/
def AttemptUpdate.WellFormed : AttemptUpdate → Prop
  | .complete completion | .completeBesideTerminal _ completion =>
    validateCompletion completion = true
  | _ => True

/-- No update starts an attempt again that has ended. -/
theorem AttemptUpdate.WellFormed.settled {update : AttemptUpdate} {row row' : AttemptRow}
    (hwell : update.WellFormed) (hcond : update.condition (some row) = true)
    (heff : update.effect (some row) = some row') (hsettled : row.outcome ≠ .started) :
    row'.outcome ≠ .started := by
  cases update with
  | put =>
    cases heff
    exact hsettled
  | complete completion | completeBesideTerminal deliveryId completion =>
    cases heff
    exact validateCompletion_outcome hwell
  | feedback current event =>
    cases heff
    simp only [AttemptUpdate.condition, Bool.and_eq_true, decide_eq_true_eq] at hcond
    change nextAttemptOutcome current.outcome event ≠ .started
    rw [← hcond.1.1.2]
    unfold nextAttemptOutcome
    revert hsettled
    cases row.outcome <;> intro hsettled <;> simp only [ne_eq] <;> repeat' split
    all_goals first | exact absurd rfl hsettled | simp

/-- The updates of deliveries and attempts are well formed. -/
structure Op.WellFormed (op : Op) : Prop where
  delivery : ∀ {outboxId deliveryId update}, Item.delivery outboxId deliveryId update ∈ op.items →
    update.WellFormed
  attempt : ∀ {deliveryId attemptId update}, Item.attempt deliveryId attemptId update ∈ op.items →
    update.WellFormed

/-- Operations keep all this. -/
theorem exec_evolves {P : Platform} {op : Op} {outcome : Outcome} {reply : Reply op}
    (hwell : op.WellFormed) (h : exec P op outcome s = some (reply, t)) : Evolves s t := by
  refine ⟨?_, ?_, ?_⟩
  · intro outboxId deliveryId row hrow
    rcases exec_delivery h hrow with hsame | ⟨update, hmem, -, hcond, heff⟩
    · exact ⟨row, hsame, DeliveryRow.Le.refl row⟩
    · exact ⟨update.rowEffect row, heff, (hwell.delivery hmem).le hcond⟩
  · intro deliveryId attemptId row hrow
    rcases exec_attempt h deliveryId attemptId with hsame | ⟨update, hmem, -, hcond, heff⟩
    · exact ⟨row, hsame.trans hrow, id⟩
    · rw [hrow] at hcond heff
      obtain ⟨row', hrow'⟩ := update.effect_isSome row
      exact ⟨row', heff.trans hrow', (hwell.attempt hmem).settled hcond hrow'⟩
  · intro position message hmsg
    rcases exec_cases h with rfl | hcommit | ⟨job, messageId, -, rfl⟩ | ⟨other, -, rfl⟩ |
      ⟨request, -, rfl⟩ | ⟨change, -, rfl⟩
    · exact ⟨message, hmsg, rfl, rfl⟩
    · exact ⟨message, by rw [hcommit.messages, hmsg], rfl, rfl⟩
    · obtain ⟨hlt, -⟩ := List.getElem?_eq_some_iff.mp hmsg
      exact ⟨message, by rw [List.getElem?_append_left hlt, hmsg], rfl, rfl⟩
    · exact messages_modify (fun _ => by exact ⟨rfl, rfl⟩) hmsg
    · exact ⟨message, hmsg, rfl, rfl⟩
    · obtain ⟨message', hmsg', hsame, -⟩ := Store.edit_message change hmsg
      exact ⟨message', hmsg', hsame⟩

end LimnoPulse.Notifications
