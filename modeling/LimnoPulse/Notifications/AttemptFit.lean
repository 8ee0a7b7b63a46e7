import LimnoPulse.Notifications.Evolution

/-!
# Deliveries and their attempts

An attempt lives in a row beside its delivery, written by different processes.  The two
fit: only the last attempt can be open, an open attempt that the provider has spoken about
is the one whose message the delivery names, and a delivery that waits to be tried again
has no open attempt.

Main results:

- Theorems `DeliveryRow.Fits.beginAttempt`, `DeliveryRow.Fits.complete`,
  `DeliveryRow.Fits.completeBeside` and `DeliveryRow.Fits.feedback`: what starts, ends or
  reports an attempt keeps the fit.
-/

namespace LimnoPulse.Notifications

open CivilTime StoreProgram

variable {attemptId : String} {record : DeliveryRecord} {completion : AttemptCompletion}

/-- The states before the first attempt. -/
def DeliveryState.unsent : DeliveryState → Bool
  | .pending | .waitingDependency | .queued => true
  | _ => false

/-- The attempts of one delivery by their identifiers. -/
abbrev Attempts := String → Option AttemptRow

/-- One attempt has been replaced or added. -/
structure Attempts.Replaced (attempts attempts' : Attempts) (attemptId : String)
    (new : AttemptRow) : Prop where
  self : attempts' attemptId = some new
  other : ∀ {id}, id ≠ attemptId → attempts' id = attempts id

namespace Attempts.Replaced

variable {attempts attempts' : Attempts} {attemptId id : String} {new found : AttemptRow}

/-- The new attempt, or one that was there. -/
theorem cases (h : attempts.Replaced attempts' attemptId new) (hfound : attempts' id = some found) :
    id = attemptId ∧ found = new ∨ id ≠ attemptId ∧ attempts id = some found := by
  by_cases heq : id = attemptId
  · subst heq
    exact .inl ⟨rfl, Option.some.inj (hfound.symm.trans h.self)⟩
  · exact .inr ⟨heq, h.other heq ▸ hfound⟩

/-- No attempt is removed. -/
theorem isSome (h : attempts.Replaced attempts' attemptId new)
    (hsome : (attempts id).isSome = true) : (attempts' id).isSome = true := by
  by_cases heq : id = attemptId
  · rw [heq, h.self]
    rfl
  · rw [h.other heq]
    exact hsome

end Attempts.Replaced

/-- A completion reports a provider outcome only with a success. -/
def AttemptCompletion.Reports (completion : AttemptCompletion) : Prop :=
  completion.providerOutcome = none ∨ completion.outcome = .succeeded

/-- A completion names no other message than the delivery. -/
structure AttemptCompletion.Compatible (completion : AttemptCompletion)
    (providerAttemptId providerMessageId : Option String) : Prop where
  reports : completion.Reports
  message : completion.providerMessageId = none ∨
    providerAttemptId ≠ some completion.attemptId ∨
    providerMessageId = completion.providerMessageId

/-- The delivery and its attempts fit together. -/
structure DeliveryRow.Fits (row : DeliveryRow) (attempts : Attempts) : Prop where
  named : ∀ {attemptId attempt}, attempts attemptId = some attempt →
    attempt.deliveryId = row.deliveryId ∧ attempt.attemptId = attemptId ∧
      validateIdentityField attemptId = true
  last : ∀ {attemptId}, row.lastAttemptId = some attemptId → (attempts attemptId).isSome = true
  unsent : row.state.unsent = true → row.lastAttemptId = none
  deferred : ∀ {attemptId attempt}, row.state = .retryableFailed →
    row.lastAttemptId = some attemptId → attempts attemptId = some attempt →
    attempt.outcome ≠ .started
  started : ∀ {attemptId attempt}, attempts attemptId = some attempt →
    attempt.outcome = .started → row.lastAttemptId = some attemptId ∧
      (attempt.providerMessageId.isSome = true → row.providerAttemptId = some attemptId)
  owner : ∀ {attemptId}, row.providerAttemptId = some attemptId →
    row.providerMessageId.isSome = true ∧ ∃ attempt, attempts attemptId = some attempt ∧
      attempt.providerMessageId = row.providerMessageId
  unowned : row.providerAttemptId = none → row.providerMessageId = none

namespace DeliveryRow.Fits

variable {row row' : DeliveryRow} {attempts attempts' : Attempts}
variable {attempt attempt' : AttemptRow} {event : FeedbackEvent}

/-- A new delivery without attempts. -/
theorem ofSnapshot (snapshot : DeliverySnapshot) (availableAt : Instant)
    (index : Option RelayIndexKey) (hnone : ∀ attemptId, attempts attemptId = none) :
    (DeliveryRow.ofSnapshot snapshot availableAt index).Fits attempts where
  named h := by cases (hnone _).symm.trans h
  last h := by cases h
  unsent _ := rfl
  deferred _ h := by cases h
  started h := by cases (hnone _).symm.trans h
  owner h := by cases h
  unowned _ := rfl

section

variable (h : row.Fits attempts)
include h

/-- A delivery that moves on while its attempts stay. -/
theorem move (hid : row'.deliveryId = row.deliveryId)
    (hlast : row'.lastAttemptId = row.lastAttemptId)
    (hatt : row'.providerAttemptId = row.providerAttemptId)
    (hmsg : row'.providerMessageId = row.providerMessageId)
    (hunsent : row'.state.unsent = true → row.state.unsent = true)
    (hdeferred : row'.state = .retryableFailed → row.state = .retryableFailed ∨
      ∀ {attemptId attempt}, row.lastAttemptId = some attemptId →
        attempts attemptId = some attempt → attempt.outcome ≠ .started) :
    row'.Fits attempts where
  named h' := hid ▸ h.named h'
  last h' := h.last (hlast ▸ h')
  unsent hstate := hlast.trans (h.unsent (hunsent hstate))
  deferred hstate hatt' := by
    rcases hdeferred hstate with hsame | hsettled
    · exact h.deferred hsame (hlast ▸ hatt')
    · exact hsettled (hlast ▸ hatt')
  started h' hstart := by
    rw [hlast, hatt]
    exact h.started h' hstart
  owner h' := by
    rw [hmsg]
    exact h.owner (hatt ▸ h')
  unowned h' := hmsg.trans (h.unowned (hatt ▸ h'))

/-- An attempt is replaced by one with its names. -/
theorem named_replaced {id : String} {found : AttemptRow}
    (hatt : attempts id = some attempt) (hrepl : attempts.Replaced attempts' id attempt')
    (hdeliv : attempt'.deliveryId = attempt.deliveryId)
    (hself : attempt'.attemptId = attempt.attemptId) (hfound : attempts' attemptId = some found) :
    found.deliveryId = row.deliveryId ∧ found.attemptId = attemptId ∧
      validateIdentityField attemptId = true := by
  rcases hrepl.cases hfound with ⟨rfl, rfl⟩ | ⟨-, hbefore⟩
  · rw [hdeliv, hself]
    exact h.named hatt
  · exact h.named hbefore

/-- A new attempt is the last and only open one. -/
theorem beginAttempt {request : BeginAttemptRequest} (hstate : row.state = .processing)
    (hid : record.delivery.deliveryId = row.deliveryId)
    (hvalid : validateIdentityField request.attemptId = true)
    (hnone : attempts request.attemptId = none)
    (hrepl : attempts.Replaced attempts' request.attemptId (startedAttempt record request))
    (hsettled : ∀ {attemptId attempt}, row.lastAttemptId = some attemptId →
      attempts attemptId = some attempt → attempt.outcome ≠ .started) :
    ((DeliveryUpdate.beginAttempt record request).rowEffect row).Fits attempts' where
  named h' := by
    rcases hrepl.cases h' with ⟨rfl, rfl⟩ | ⟨-, h'⟩
    · exact ⟨hid, rfl, hvalid⟩
    · exact h.named h'
  last h' := by
    cases h'
    rw [hrepl.self]
    rfl
  unsent hunsent := by
    change row.state.unsent = true at hunsent
    rw [hstate] at hunsent
    cases hunsent
  deferred hdeferred := by
    change row.state = .retryableFailed at hdeferred
    rw [hstate] at hdeferred
    cases hdeferred
  started h' hstart := by
    rcases hrepl.cases h' with ⟨rfl, rfl⟩ | ⟨-, h'⟩
    · exact ⟨rfl, by rintro ⟨⟩⟩
    · -- The attempt that was last has ended.
      exact absurd hstart (hsettled (h.started h' hstart).1 h')
  owner {attemptId} h' := by
    obtain ⟨hnamed, attempt, hatt, hmsg⟩ := h.owner h'
    refine ⟨hnamed, attempt, ?_, hmsg⟩
    rw [hrepl.other, hatt]
    rintro rfl
    rw [hnone] at hatt
    cases hatt
  unowned := h.unowned

/-- The completion of the last attempt. -/
theorem complete (hlast : row.lastAttemptId = some completion.attemptId)
    (hatt : attempts completion.attemptId = some attempt)
    (hout : completion.outcome ≠ .started) (hnext : completion.nextState.unsent = false)
    (hrepl : attempts.Replaced attempts' completion.attemptId (attempt.completed completion)) :
    ((DeliveryUpdate.completeAttempt record completion).rowEffect row).Fits attempts' where
  named h' := h.named_replaced hatt hrepl rfl rfl h'
  last h' := by
    cases hlast.symm.trans h'
    rw [hrepl.self]
    rfl
  unsent hunsent := by cases hnext.symm.trans hunsent
  deferred {attemptId attempt'} _ h' h'' := by
    cases hlast.symm.trans h'
    cases hrepl.self.symm.trans h''
    exact hout
  started h' hstart := by
    rcases hrepl.cases h' with ⟨-, rfl⟩ | ⟨heq, h'⟩
    · exact absurd hstart hout
    · -- Another open attempt would have been the last one.
      exact absurd (Option.some.inj ((h.started h' hstart).1.symm.trans hlast)) heq
  owner {attemptId} h' := by
    cases hmsg : completion.providerMessageId with
    | some =>
      simp only [DeliveryUpdate.rowEffect, hmsg, Option.isSome_some, if_true] at h' ⊢
      cases h'
      exact ⟨rfl, _, hrepl.self, by simp [AttemptRow.completed, hmsg]⟩
    | none =>
      simp only [DeliveryUpdate.rowEffect, hmsg, Option.isSome_none, Bool.false_eq_true,
        if_false, Option.none_or] at h' ⊢
      obtain ⟨hnamed, owner, howner, hsame⟩ := h.owner h'
      refine ⟨hnamed, ?_⟩
      by_cases heq : attemptId = completion.attemptId
      · subst heq
        cases hatt.symm.trans howner
        exact ⟨_, hrepl.self, by simp [AttemptRow.completed, hmsg, hsame]⟩
      · exact ⟨owner, (hrepl.other heq).trans howner, hsame⟩
  unowned h' := by
    cases hmsg : completion.providerMessageId with
    | some => simp [DeliveryUpdate.rowEffect, hmsg] at h'
    | none =>
      simp only [DeliveryUpdate.rowEffect, hmsg, Option.isSome_none, Bool.false_eq_true,
        if_false, Option.none_or] at h' ⊢
      exact h.unowned h'

/-- A completion beside a settled delivery. -/
theorem completeBeside (hatt : attempts completion.attemptId = some attempt)
    (hout : completion.outcome ≠ .started)
    (hcompat : completion.Compatible row.providerAttemptId row.providerMessageId)
    (hrepl : attempts.Replaced attempts' completion.attemptId (attempt.completed completion)) :
    row.Fits attempts' where
  named h' := h.named_replaced hatt hrepl rfl rfl h'
  last h' := hrepl.isSome (h.last h')
  unsent := h.unsent
  deferred hstate h' h'' := by
    rcases hrepl.cases h'' with ⟨-, rfl⟩ | ⟨-, h''⟩
    · exact hout
    · exact h.deferred hstate h' h''
  started h' hstart := by
    rcases hrepl.cases h' with ⟨-, rfl⟩ | ⟨-, h'⟩
    · exact absurd hstart hout
    · exact h.started h' hstart
  owner {attemptId} h' := by
    obtain ⟨hnamed, owner, howner, hsame⟩ := h.owner h'
    refine ⟨hnamed, ?_⟩
    by_cases heq : attemptId = completion.attemptId
    · subst heq
      cases hatt.symm.trans howner
      refine ⟨_, hrepl.self, ?_⟩
      rcases hcompat.message with hnone | hne | hmsg
      · simp [AttemptRow.completed, hnone, hsame]
      · exact absurd h' hne
      · simp only [AttemptRow.completed, hsame, ← hmsg, Option.or_self]
    · exact ⟨owner, (hrepl.other heq).trans howner, hsame⟩
  unowned := h.unowned

end

/-- What feedback makes of an attempt. -/
structure Reported (event : FeedbackEvent) (attempt attempt' : AttemptRow) : Prop where
  deliveryId : attempt'.deliveryId = attempt.deliveryId
  attemptId : attempt'.attemptId = attempt.attemptId
  outcome : attempt'.outcome = nextAttemptOutcome attempt.outcome event
  providerOutcome : attempt'.providerOutcome =
    some (reconcileProviderOutcome attempt.providerOutcome event.providerOutcome)
  associated : ∀ messageId, attempt.providerMessageId = some messageId →
    messageId = event.providerMessageId
  message : attempt'.providerMessageId = some event.providerMessageId

/-- An attempt that is open after feedback was open before. -/
theorem nextAttemptOutcome_started {outcome : AttemptOutcome}
    (h : nextAttemptOutcome outcome event = .started) : outcome = .started := by
  revert h
  unfold nextAttemptOutcome
  cases outcome <;> simp only <;> repeat' split
  all_goals simp

/-- The latest attempt may write the metadata. -/
theorem ownsAggregate_of_last (h : row.lastAttemptId = some event.attemptId) :
    row.ownsAggregate event = true := by
  simp [DeliveryRow.ownsAggregate, h]

/-- Only the latest attempt replaces another's metadata. -/
theorem ownsAggregate_of_owner (howns : row.ownsAggregate event = true)
    (howner : row.providerAttemptId = some attemptId) (hne : attemptId ≠ event.attemptId) :
    row.lastAttemptId = some event.attemptId := by
  simpa [DeliveryRow.ownsAggregate, howner, hne] using howns

section

variable (h : row.Fits attempts) (hatt : attempts event.attemptId = some attempt)
  (hrep : Reported event attempt attempt')
include h hatt hrep

/-- Feedback that owns the metadata writes its message. -/
theorem metadata_message (howns : row.ownsAggregate event = true) :
    (reconcileDeliveryProviderMetadata row event).metadata.messageId =
        some event.providerMessageId ∧
      (reconcileDeliveryProviderMetadata row event).metadata.attemptId = some event.attemptId := by
  rw [reconcileDeliveryProviderMetadata, if_pos howns]
  refine ⟨?_, rfl⟩
  simp only [reconcileProviderMetadata]
  split
  · rfl
  next hkeeps =>
    cases howner : row.providerAttemptId with
    | none => rw [h.unowned howner, Option.none_or]
    | some attemptId =>
      by_cases heq : attemptId = event.attemptId
      · subst heq
        obtain ⟨-, owner, howner', hsame⟩ := h.owner howner
        cases hatt.symm.trans howner'
        rw [← hsame]
        cases hmsg : attempt.providerMessageId with
        | none => rfl
        | some message => rw [hrep.associated message hmsg, Option.some_or]
      · -- The latest attempt replaces what another one has written.
        have hlast := ownsAggregate_of_owner howns howner heq
        simp [hlast, howner, heq] at hkeeps

/-- Feedback that may write the metadata. -/
theorem feedback {current : DeliveryRow} {nextState : DeliveryState} {outcome : ProviderOutcome}
    {now : Instant} (howns : row.ownsAggregate event = true)
    (hnext : reconcileDeliveryStateFromProvider row.state outcome = some nextState)
    (hrepl : attempts.Replaced attempts' event.attemptId attempt') :
    ((DeliveryUpdate.feedback current nextState (reconcileDeliveryProviderMetadata row event)
      now).rowEffect row).Fits attempts' := by
  obtain ⟨hmsg, howner⟩ := metadata_message h hatt hrep howns
  have hfields : ∀ {new : DeliveryRow}, new = (DeliveryUpdate.feedback current nextState
      (reconcileDeliveryProviderMetadata row event) now).rowEffect row →
      new.deliveryId = row.deliveryId ∧ new.lastAttemptId = row.lastAttemptId ∧
        new.state = nextState ∧ new.providerAttemptId = some event.attemptId ∧
        new.providerMessageId = some event.providerMessageId := by
    rintro new rfl
    simp only [DeliveryUpdate.rowEffect]
    split <;> exact ⟨rfl, rfl, rfl, howner, hmsg⟩
  generalize hnew : (DeliveryUpdate.feedback current nextState
    (reconcileDeliveryProviderMetadata row event) now).rowEffect row = new
  obtain ⟨hid, hlast, hstate, hattemptId, hmessageId⟩ := hfields hnew.symm
  refine ⟨?_, ?_, ?_, ?_, ?_, ?_, ?_⟩
  · intro attemptId found hfound
    rw [hid]
    exact h.named_replaced hatt hrepl hrep.deliveryId hrep.attemptId hfound
  · exact fun hlastId => hrepl.isSome (h.last (hlast ▸ hlastId))
  · -- Feedback brings no delivery back to where it has not been sent.
    intro hunsent
    rw [hstate] at hunsent
    exfalso
    revert hnext hunsent
    cases row.state <;> cases outcome <;> cases nextState <;> decide
  · intro attemptId found hdeferred hlastId hfound hstart
    rw [hstate] at hdeferred
    have hbefore : row.state = .retryableFailed := by
      rw [hdeferred] at hnext
      revert hnext
      cases row.state <;> cases outcome <;> decide
    rcases hrepl.cases hfound with ⟨rfl, rfl⟩ | ⟨-, hfound⟩
    · exact h.deferred hbefore (hlast ▸ hlastId) hatt
        (nextAttemptOutcome_started (hrep.outcome.symm.trans hstart))
    · exact h.deferred hbefore (hlast ▸ hlastId) hfound hstart
  · intro attemptId found hfound hstart
    rw [hlast, hattemptId]
    rcases hrepl.cases hfound with ⟨rfl, rfl⟩ | ⟨heq, hfound⟩
    · exact ⟨(h.started hatt (nextAttemptOutcome_started
        (hrep.outcome.symm.trans hstart))).1, fun _ => rfl⟩
    · obtain ⟨hopen, howned⟩ := h.started hfound hstart
      refine ⟨hopen, fun hspoken => ?_⟩
      -- An open attempt with a message owns the metadata and is the latest one.
      have := ownsAggregate_of_owner howns (howned hspoken) heq
      exact absurd (Option.some.inj (hopen.symm.trans this)) heq
  · intro attemptId howned
    cases hattemptId.symm.trans howned
    exact ⟨by rw [hmessageId]; rfl, attempt', hrepl.self, hrep.message.trans hmessageId.symm⟩
  · intro hnone
    cases hattemptId.symm.trans hnone

/-- Feedback that may not. -/
theorem feedbackBeside (howns : row.ownsAggregate event = false)
    (hrepl : attempts.Replaced attempts' event.attemptId attempt') : row.Fits attempts' where
  named hfound :=
    h.named_replaced hatt hrepl hrep.deliveryId hrep.attemptId hfound
  last hlast := hrepl.isSome (h.last hlast)
  unsent := h.unsent
  deferred hstate hlast hfound := by
    rcases hrepl.cases hfound with ⟨rfl, -⟩ | ⟨-, hfound⟩
    · rw [ownsAggregate_of_last hlast] at howns
      cases howns
    · exact h.deferred hstate hlast hfound
  started hfound hstart := by
    rcases hrepl.cases hfound with ⟨rfl, rfl⟩ | ⟨-, hfound⟩
    · have hopen := (h.started hatt (nextAttemptOutcome_started (hrep.outcome.symm.trans hstart))).1
      rw [ownsAggregate_of_last hopen] at howns
      cases howns
    · exact h.started hfound hstart
  owner {attemptId} howner := by
    obtain ⟨hnamed, owner, howner', hsame⟩ := h.owner howner
    refine ⟨hnamed, owner, ?_, hsame⟩
    rw [hrepl.other, howner']
    rintro rfl
    simp [DeliveryRow.ownsAggregate, howner] at howns
  unowned := h.unowned

end

end DeliveryRow.Fits

end LimnoPulse.Notifications
