import LimnoPulse.Notifications.AttemptFit

/-!
# What a process knows when it writes

A process reads rows, decides, and writes later under a condition.  What it has read
stays true in a weaker form, and together with the condition that is enough.
`Justified` lists every write with what is known when it is sent.

Main results:

- Theorem `Known.tells`: what a record says about a delivery of the same revision.
- Theorem `Justified.grounds` and theorem `Justified.attemptGrounds`: what is
  known about an update of a delivery or an attempt when it is sent.
-/

namespace LimnoPulse.Notifications

open CivilTime StoreProgram

variable {P : Platform} {s t : Store} {deliveryId : DeliveryId} {row : DeliveryRow}
  {record : DeliveryRecord} {opening : DeliveryIdentity} {ending : Option OpeningEnd} {op : Op}
  {items : List Item} {update : DeliveryUpdate} {attemptId : String}

/-- The identity is valid and belongs to the row key. -/
structure DeliveryIdentity.Placed (P : Platform) (identity : DeliveryIdentity)
    (outboxId : OutboxId) (deliveryId : DeliveryId) : Prop where
  outbox : identity.outboxId = outboxId
  delivery : identity.deliveryId = deliveryId
  valid : identity.valid P = true
  canonical : outboxId = ⟨identity.eventId, identity.channel, identity.kind⟩

/-- A valid identity gives the identifier. -/
theorem DeliveryIdentity.deliveryId_of_valid {identity : DeliveryIdentity}
    (h : identity.valid P = true) : identity.deliveryId =
      ⟨identity.eventId, identity.kind, identity.channel, identity.recipientId⟩ := by
  simp only [DeliveryIdentity.valid, Bool.and_eq_true, decide_eq_true_eq] at h
  exact h.1.2

/-- The outbox of a delivery follows from its identifier. -/
def DeliveryId.outboxId (deliveryId : DeliveryId) : OutboxId :=
  ⟨deliveryId.eventId, deliveryId.channel, deliveryId.kind⟩

/-- Deliveries are in their places, and attempts fit them. -/
structure Base (P : Platform) (s : Store) : Prop where
  placed : ∀ {outboxId deliveryId row}, s.delivery outboxId deliveryId = some row →
    row.toDeliveryIdentity.Placed P outboxId deliveryId
  revision : ∀ {outboxId deliveryId row}, s.delivery outboxId deliveryId = some row →
    1 ≤ row.revision
  fits : ∀ {outboxId deliveryId row}, s.delivery outboxId deliveryId = some row →
    row.Fits (s.attempt deliveryId)
  attempted : ∀ {deliveryId attemptId attempt}, s.attempt deliveryId attemptId = some attempt →
    ∃ row, s.delivery deliveryId.outboxId deliveryId = some row

variable {outboxId : OutboxId}

theorem Base.outboxId_eq (hbase : Base P s)
    (h : s.delivery outboxId deliveryId = some row) : outboxId = deliveryId.outboxId := by
  have hplaced := hbase.placed h
  have hid := DeliveryIdentity.deliveryId_of_valid hplaced.valid
  rw [hplaced.delivery] at hid
  rw [hplaced.canonical, hid]
  rfl

/-! ## Knowledge -/

/-- The row was read at some time. -/
def Seen (outboxId : OutboxId) (deliveryId : DeliveryId) (row : DeliveryRow) (s : Store) : Prop :=
  ∃ current, s.delivery outboxId deliveryId = some current ∧ row.Le current

/-- A row that was read. -/
theorem Seen.of_read (h : s.delivery outboxId deliveryId = some row) :
    Seen outboxId deliveryId row s :=
  ⟨row, h, DeliveryRow.Le.refl row⟩

/-- It stays seen. -/
theorem Seen.mono (h : Seen outboxId deliveryId row s) (hst : Evolves s t) :
    Seen outboxId deliveryId row t := by
  obtain ⟨current, hcur, hle⟩ := h
  obtain ⟨later, hlater, hle'⟩ := hst.delivery hcur
  exact ⟨later, hlater, hle.trans hle'⟩

/-- What a record says, cautiously, about its row. -/
structure DeliveryRecord.Tells (record : DeliveryRecord) (row : DeliveryRow) : Prop where
  identity : row.toDeliveryIdentity = record.delivery.toDeliveryIdentity
  state : row.state = record.delivery.state
  revision : row.revision = record.revision
  attemptCount : row.attemptCount.getD 0 = record.attemptCount
  lastAttemptId : row.lastAttemptId = record.lastAttemptId
  leaseEpoch : row.leaseEpoch.getD 0 = record.leaseEpoch
  providerAttemptId : row.providerAttemptId = record.providerAttemptId
  providerMessageId : row.providerMessageId = record.providerMessageId
  possiblyAccepted : row.possiblyAccepted = true → record.possiblyAccepted = true

/-- Only the core matters. -/
theorem DeliveryRecord.Tells.of_core {row' : DeliveryRow} (h : record.Tells row)
    (hcore : row'.core = row.core) : record.Tells row' where
  identity := (congrArg (fun r : DeliveryRow => r.toDeliveryIdentity) hcore).trans h.identity
  state := (congrArg (fun r : DeliveryRow => r.state) hcore).trans h.state
  revision := (congrArg DeliveryRow.revision hcore).trans h.revision
  attemptCount := (congrArg (fun r => r.attemptCount.getD 0) hcore).trans h.attemptCount
  lastAttemptId := (congrArg DeliveryRow.lastAttemptId hcore).trans h.lastAttemptId
  leaseEpoch := (congrArg (fun r => r.leaseEpoch.getD 0) hcore).trans h.leaseEpoch
  providerAttemptId := (congrArg DeliveryRow.providerAttemptId hcore).trans h.providerAttemptId
  providerMessageId := (congrArg DeliveryRow.providerMessageId hcore).trans h.providerMessageId
  possiblyAccepted accepted :=
    h.possiblyAccepted ((congrArg DeliveryRow.possiblyAccepted hcore).symm.trans accepted)

/-- The delivery with this identity exists. -/
def DeliveryIdentity.Stored (identity : DeliveryIdentity) (s : Store) : Prop :=
  ∃ row, s.delivery identity.outboxId identity.deliveryId = some row ∧
    row.toDeliveryIdentity = identity

/-- The record was made from a row that was read. -/
def Known (record : DeliveryRecord) (s : Store) : Prop :=
  ∃ row, Seen record.delivery.outboxId record.delivery.deliveryId row s ∧ record.Tells row

/-- What is known stays known. -/
theorem Known.mono (h : Known record s) (hst : Evolves s t) : Known record t := by
  obtain ⟨row, hseen, htells⟩ := h
  exact ⟨row, hseen.mono hst, htells⟩

/-- The delivery of a record exists. -/
theorem Known.exists_row (h : Known record s) : record.delivery.toDeliveryIdentity.Stored s := by
  obtain ⟨row, ⟨current, hcur, hle⟩, htells⟩ := h
  exact ⟨current, hcur, hle.identity.trans htells.identity⟩

/-- A record is right about its revision. -/
theorem Known.tells (h : Known record s)
    (hrow : s.delivery record.delivery.outboxId record.delivery.deliveryId = some row)
    (hrev : row.revision = record.revision) : record.Tells row := by
  obtain ⟨old, ⟨current, hcur, hle⟩, htells⟩ := h
  rw [hrow] at hcur
  cases hcur
  exact htells.of_core (hle.core (hrev.trans htells.revision.symm))

/-- A known delivery is in its place. -/
theorem Known.placed (h : Known record s) (hbase : Base P s) :
    record.delivery.toDeliveryIdentity.Placed P record.delivery.outboxId
      record.delivery.deliveryId := by
  obtain ⟨row, hrow, hident⟩ := h.exists_row
  have hplaced := hbase.placed hrow
  rwa [hident] at hplaced

/-- The records name the same delivery. -/
def DeliveryRecord.SameKey (a b : DeliveryRecord) : Prop :=
  a.delivery.outboxId = b.delivery.outboxId ∧ a.delivery.deliveryId = b.delivery.deliveryId

/-- The delivery was written since the record was made. -/
def Passed (record : DeliveryRecord) (s : Store) : Prop :=
  ∃ row, s.delivery record.delivery.outboxId record.delivery.deliveryId = some row ∧
    record.revision < row.revision

/-- What is past stays past. -/
theorem Passed.mono (h : Passed record s) (hst : Evolves s t) : Passed record t := by
  obtain ⟨row, hrow, hlt⟩ := h
  obtain ⟨row', hrow', hle⟩ := hst.delivery hrow
  exact ⟨row', hrow', Nat.lt_of_lt_of_le hlt hle.revision⟩

/-- A record is right, or passed. -/
theorem Known.tells_or_passed (h : Known record s) :
    (∃ row, s.delivery record.delivery.outboxId record.delivery.deliveryId = some row ∧
      record.Tells row) ∨ Passed record s := by
  obtain ⟨old, ⟨current, hcur, hle⟩, htells⟩ := id h
  have hrev := hle.revision
  rw [htells.revision] at hrev
  rcases Nat.eq_or_lt_of_le hrev with heq | hlt
  · exact .inl ⟨current, hcur, h.tells hcur heq.symm⟩
  · exact .inr ⟨current, hcur, hlt⟩

/-- The last attempt that the record names has ended. -/
def DeliveryRecord.Settled (record : DeliveryRecord) (s : Store) : Prop :=
  ∀ attemptId, record.lastAttemptId = some attemptId →
    ∃ attempt, s.attempt record.delivery.deliveryId attemptId = some attempt ∧
      attempt.outcome ≠ .started

/-- Settled attempts stay settled. -/
theorem DeliveryRecord.Settled.mono (h : record.Settled s) (hst : Evolves s t) :
    record.Settled t := by
  intro attemptId hlast
  obtain ⟨attempt, hatt, hended⟩ := h attemptId hlast
  obtain ⟨attempt', hatt', hended'⟩ := hst.attempt hatt
  exact ⟨attempt', hatt', hended' hended⟩

/-- A message of the job has been published. -/
def Published (job : JobEnvelope) (s : Store) : Prop :=
  ∃ (position : Nat) (message : QueueMessage), s.messages[position]? = some message ∧
    message.job = job

/-- Published jobs stay published. -/
theorem Published.mono {job : JobEnvelope} (h : Published job s) (hst : Evolves s t) :
    Published job t := by
  obtain ⟨position, message, hmsg, hjob⟩ := h
  obtain ⟨message', hmsg', hsame⟩ := hst.message hmsg
  exact ⟨position, message', hmsg', hsame.2.trans hjob⟩

/-- The delivery of the job is in a terminal state. -/
def TerminalAt (job : JobEnvelope) (s : Store) : Prop :=
  ∃ row, s.delivery job.outboxId job.deliveryId = some row ∧ row.state.terminal = true

/-- Terminal deliveries stay terminal. -/
theorem TerminalAt.mono {job : JobEnvelope} (h : TerminalAt job s) (hst : Evolves s t) :
    TerminalAt job t := by
  obtain ⟨row, hrow, hterm⟩ := h
  obtain ⟨row', hrow', hle⟩ := hst.delivery hrow
  exact ⟨row', hrow', hle.terminal hterm⟩

/-! ## Recovery fences -/

/-- The recovery's outbox. -/
def DeliveryIdentity.recoveryOutboxId (opening : DeliveryIdentity) : OutboxId :=
  ⟨opening.eventId, opening.channel, .recovery⟩

/-- The recovery to an opening. -/
def DeliveryIdentity.recoveryDeliveryId (opening : DeliveryIdentity) : DeliveryId :=
  ⟨opening.eventId, .recovery, opening.channel, opening.recipientId⟩

/-- The opening's outbox. -/
def DeliveryIdentity.openingOutboxId (recovery : DeliveryIdentity) : OutboxId :=
  ⟨recovery.eventId, recovery.channel, .opening⟩

/-- The opening to a recovery. -/
def DeliveryIdentity.openingDeliveryId (recovery : DeliveryIdentity) : DeliveryId :=
  ⟨recovery.eventId, .opening, recovery.channel, recovery.recipientId⟩

/-- The opening a delivery names as its own. -/
def DeliveryIdentity.dependsOn (identity : DeliveryIdentity) : Option (OutboxId × DeliveryId) :=
  identity.dependsOnOutboxId.bind fun outboxId =>
    identity.dependsOnDeliveryId.map fun deliveryId => (outboxId, deliveryId)

/-- What a new state of an opening means for its recovery. -/
def OpeningEnd.of : DeliveryState → Option OpeningEnd
  | .succeeded => some .succeeded
  | .permanentFailed | .cancelled => some .notSucceeded
  | _ => none

/-- What the next state of an opening means for a recovery. -/
def DeliveryIdentity.endedBy (identity : DeliveryIdentity) (next : DeliveryState) :
    Option OpeningEnd :=
  if identity.kind = .opening then OpeningEnd.of next else none

/-- The states in which feedback looks for a recovery. -/
def DeliveryState.awaited : DeliveryState → Bool
  | .pending | .queued | .processing | .retryableFailed | .unknown => true
  | _ => false

/-- The recovery is released, absent, or does not wait. -/
inductive RecoveryFence (s : Store) (opening : DeliveryIdentity) : OpeningEnd → Option Item → Prop
  | absent (ending : OpeningEnd) :
      RecoveryFence s opening ending
        (some (.delivery opening.recoveryOutboxId opening.recoveryDeliveryId .checkAbsent))
  | settled (ending : OpeningEnd) {row : DeliveryRow}
      (hrow : s.delivery opening.recoveryOutboxId opening.recoveryDeliveryId = some row)
      (hstate : row.state ≠ .waitingDependency) : RecoveryFence s opening ending none
  | released (recovery : DeliveryRow) (index : RelayIndexKey) (now : Instant) :
      RecoveryFence s opening .succeeded
        (some (.delivery opening.recoveryOutboxId opening.recoveryDeliveryId
          (.releaseRecovery recovery (.pending index) now)))
  | cancelled (recovery : DeliveryRow) (now : Instant) :
      RecoveryFence s opening .notSucceeded
        (some (.delivery opening.recoveryOutboxId opening.recoveryDeliveryId
          (.releaseRecovery recovery .cancelled now)))

/-- The fence of a transition that may end an opening. -/
def Fenced (s : Store) (opening : DeliveryIdentity) (ending : Option OpeningEnd)
    (item : Option Item) : Prop :=
  match ending with
  | some ending => RecoveryFence s opening ending item
  | none => item = none

/-- Fences stay in place. -/
theorem Fenced.mono {item : Option Item} (h : Fenced s opening ending item) (hst : Evolves s t) :
    Fenced t opening ending item := by
  cases ending with
  | none => exact h
  | some ending =>
    cases h with
    | absent ending => exact .absent ending
    | settled ending hrow hstate =>
      obtain ⟨row', hrow', hle⟩ := hst.delivery hrow
      exact .settled ending hrow' (hle.settled hstate)
    | released recovery index now => exact .released recovery index now
    | cancelled recovery now => exact .cancelled recovery now

/-- The item of a fence is an absence check or a release. -/
theorem Fenced.item {item : Item} (h : Fenced s opening ending (some item)) :
    ∃ update, item = .delivery opening.recoveryOutboxId opening.recoveryDeliveryId update ∧
      (update = .checkAbsent ∨ ∃ recovery release now,
        update = .releaseRecovery recovery release now) := by
  cases ending with
  | none => cases h
  | some ending =>
    cases h with
    | absent => exact ⟨_, rfl, .inl rfl⟩
    | released recovery index now | cancelled recovery now => exact ⟨_, rfl, .inr ⟨_, _, _, rfl⟩⟩

/-! ## Justified operations -/

/-- The state a transition leads to. -/
def ProcessingTransition.nextState : ProcessingTransition → DeliveryState
  | .cancel _ _ => .cancelled
  | .defer _ => .retryableFailed
  | .preflightFailure completion => completion.nextState
  | .finalizeUnknown _ => .unknown

/-- What may be accepted neither fails nor is forgotten. -/
def ProcessingTransition.Allowed (step : ProcessingTransition) (record : DeliveryRecord) : Prop :=
  match step with
  | .preflightFailure completion =>
    (completion.nextState = .permanentFailed ∧ record.possiblyAccepted = false ∨
      completion.nextState = .retryableFailed) ∧
    (record.possiblyAccepted = true → completion.possiblyAccepted = true)
  | _ => True

/-- What a reconciliation knows when it commits. -/
structure Reconciliation.Justified (P : Platform) (s : Store) (event : FeedbackEvent)
    (plan : Reconciliation) : Prop where
  event_valid : event.valid = true
  attempt : attemptAssociated plan.attempt event = true
  delivery : deliveryAssociated plan.delivery event plan.attempt = true
  seen : Seen plan.attempt.outboxId event.deliveryId plan.delivery s
  decision : plan.decision = reconcileDeliveryProviderMetadata plan.delivery event
  nextState : reconciledDeliveryState plan.delivery.state event plan.decision = some plan.nextState
  recovery : plan.recovery = none ∨ plan.decision.ownsAggregate = true
  fence : plan.decision.ownsAggregate = true →
    Fenced s plan.delivery.toDeliveryIdentity
      (if plan.delivery.state.awaited then
        plan.delivery.toDeliveryIdentity.endedBy plan.nextState else none) plan.recovery
  suppression : ∀ item, plan.suppression = some item → ∃ identity suppress,
    item = .suppression identity suppress ∧
      ∀ row, suppress.current = some row → row.rank.getD 0 < suppress.reason.rank

/-- A new delivery, the fence of its opening, or the outbox's progress. -/
inductive PageItem (P : Platform) (items : List Item) : Item → Prop
  | pending {snapshot : DeliverySnapshot} (availableAt : Instant) (index : RelayIndexKey)
      (hvalid : snapshot.valid P = true)
      (hplace : snapshot.outboxId = ⟨snapshot.eventId, snapshot.channel, snapshot.kind⟩)
      (hstate : snapshot.state = .pending) :
      PageItem P items (.delivery snapshot.outboxId snapshot.deliveryId
        (.create snapshot availableAt (some index)))
  | cancelled {snapshot : DeliverySnapshot} (availableAt : Instant)
      (hvalid : snapshot.valid P = true)
      (hplace : snapshot.outboxId = ⟨snapshot.eventId, snapshot.channel, snapshot.kind⟩)
      (hstate : snapshot.state = .cancelled) :
      PageItem P items (.delivery snapshot.outboxId snapshot.deliveryId
        (.create snapshot availableAt none))
  | waiting {snapshot : DeliverySnapshot} (availableAt : Instant) (opening : DeliveryRow)
      (hvalid : snapshot.valid P = true)
      (hplace : snapshot.outboxId = ⟨snapshot.eventId, snapshot.channel, snapshot.kind⟩)
      (hstate : snapshot.state = .waitingDependency) (hchannel : snapshot.channel = .email)
      (hdepends : snapshot.dependsOn = some (snapshot.openingOutboxId, snapshot.openingDeliveryId))
      (hopening : opening.state.awaited = true)
      (hcheck : Item.delivery snapshot.openingOutboxId snapshot.openingDeliveryId
        (.checkOpening opening) ∈ items) :
      PageItem P items (.delivery snapshot.outboxId snapshot.deliveryId
        (.create snapshot availableAt none))
  | check (opening : DeliveryRow) :
      PageItem P items (.delivery opening.outboxId opening.deliveryId (.checkOpening opening))
  | expand (tenantId : String) (outboxId : OutboxId) (work : Work) (relayTime : Instant)
      (page : WorkResult) (next : Option (Cursor × RelayIndexKey)) :
      PageItem P items (.outbox tenantId outboxId (.expand work relayTime page next))

/-- Writes no delivery, attempt or outbox, deletes and sends nothing. -/
def Op.harmless : Op → Bool
  | .updateDelivery _ _ _ | .updateOutbox _ _ _ | .transact _ | .deleteMessage _ | .send _ => false
  | _ => true

/-- Harmless operations have no items. -/
theorem Op.items_of_harmless (h : op.harmless = true) : op.items = [] := by
  cases op <;> first | rfl | cases h

/-- The update leases or schedules an outbox. -/
def OutboxUpdate.leases : OutboxUpdate → Bool
  | .expand _ _ _ _ => false
  | _ => true

/-- The writes, each with what its sender knows. -/
inductive Justified (P : Platform) (s : Store) : Op → Prop
  | harmless {op : Op} (h : op.harmless = true) : Justified P s op
  | send (request : SendRequest) : Justified P s (.send request)
  | deleteMessage (position : Nat)
      (h : ∀ message : QueueMessage, s.messages[position]? = some message →
        TerminalAt message.job s) :
      Justified P s (.deleteMessage position)
  | repairPublication (record : DeliveryRecord) (now : Instant) (hknown : Known record s)
      (hpublished : Published record.delivery.job s) :
      Justified P s (.updateDelivery record.delivery.outboxId record.delivery.deliveryId
        (.repairPublication record now))
  | claim (record : DeliveryRecord) (request : ClaimRequest) (hknown : Known record s)
      (hallowed : transitionAllowed record.delivery.state .processing = true)
      (hexpires : request.now < request.expiresAt) :
      Justified P s (.updateDelivery record.delivery.outboxId record.delivery.deliveryId
        (.claim record request))
  | renew (record : DeliveryRecord) (expiresAt : Instant) :
      Justified P s (.updateDelivery record.delivery.outboxId record.delivery.deliveryId
        (.renew record expiresAt))
  | transition (record : DeliveryRecord) (step : ProcessingTransition) (hknown : Known record s)
      (hsettled : record.Settled s) (hallowed : step.Allowed record)
      (hfence : Fenced s record.delivery.toDeliveryIdentity
        (record.delivery.toDeliveryIdentity.endedBy step.nextState) none) :
      Justified P s (.updateDelivery record.delivery.outboxId record.delivery.deliveryId
        (.transition record step))
  | endOpening (record : DeliveryRecord) (step : ProcessingTransition) (recovery : Item)
      (hknown : Known record s) (hsettled : record.Settled s) (hallowed : step.Allowed record)
      (hfence : Fenced s record.delivery.toDeliveryIdentity
        (record.delivery.toDeliveryIdentity.endedBy step.nextState) (some recovery)) :
      Justified P s (.transact [record.item (.transition record step), recovery])
  | beginAttempt (record : DeliveryRecord) (request : BeginAttemptRequest)
      (hknown : Known record s) (hsettled : record.Settled s)
      (hcount : record.attemptCount < maxProviderCalls)
      (hattempt : validateIdentityField request.attemptId = true) :
      Justified P s (.transact (beginAttemptItems record request))
  | completeAttempt (record : DeliveryRecord) (completion : AttemptCompletion)
      (recovery : Option Item) (hknown : Known record s)
      (hvalid : validateCompletion completion = true)
      (hfailed : completion.nextState = .permanentFailed → record.possiblyAccepted = false)
      (hcompatible : completion.Compatible record.providerAttemptId record.providerMessageId)
      (hfence : Fenced s record.delivery.toDeliveryIdentity
        (record.delivery.toDeliveryIdentity.endedBy completion.nextState) recovery) :
      Justified P s (.transact (completeAttemptItems record completion recovery))
  | completeBeside (record refreshed : DeliveryRecord) (completion : AttemptCompletion)
      (hknown : Known refreshed s) (hkey : refreshed.SameKey record)
      (hstate : refreshed.delivery.state.terminal = true)
      (hvalid : validateCompletion completion = true)
      (hcompatible :
        completion.Compatible refreshed.providerAttemptId refreshed.providerMessageId ∨
          Passed refreshed s) :
      Justified P s (.transact
        [record.item (.checkTerminal refreshed.delivery.state refreshed.revision),
          .attempt record.delivery.deliveryId completion.attemptId
            (.completeBesideTerminal record.delivery.deliveryId completion)])
  | markTransport (retention : Int) (event : FeedbackEvent) (now : Instant) :
      Justified P s (.transact [transportPut retention event now])
  | reconcile (retention : Int) (event : FeedbackEvent) (now : Instant) (plan : Reconciliation)
      (hplan : plan.Justified P s event) :
      Justified P s (.transact (reconcileTransaction retention event now plan))
  | page (items : List Item) (hitems : ∀ item ∈ items, PageItem P items item)
      (hlength : items.length ≤ 100) : Justified P s (.transact items)
  | relayClaim (outboxId : OutboxId) (deliveryId : DeliveryId) (work : Work)
      (lease : LeaseRequest) :
      Justified P s (.updateDelivery outboxId deliveryId (.relayClaim work lease))
  | markQueued (outboxId : OutboxId) (deliveryId : DeliveryId) (work : Work) {row : DeliveryRow}
      (hseen : Seen outboxId deliveryId row s) (hpublished : Published row.job s) :
      Justified P s (.updateDelivery outboxId deliveryId (.markQueued work))
  | reschedule (outboxId : OutboxId) (deliveryId : DeliveryId) (work : Work) (next : Instant)
      (index : RelayIndexKey) :
      Justified P s (.updateDelivery outboxId deliveryId (.reschedule work next index))
  | leaseOutbox (tenantId : String) (outboxId : OutboxId) (update : OutboxUpdate)
      (hleases : update.leases = true) : Justified P s (.updateOutbox tenantId outboxId update)

variable {item : Item}

/-- A fence consists of checks. -/
theorem gateFenceConditions_gate {fence : GateFence}
    (h : item ∈ gateFenceConditions record fence) : ∃ check, item = .gate check := by
  unfold gateFenceConditions at h
  cases hchan : record.delivery.channel with
  | telegram =>
    rw [hchan] at h
    simp only [List.mem_cons, List.not_mem_nil, or_false] at h
    rcases h with rfl | rfl | rfl | rfl | rfl <;> exact ⟨_, rfl⟩
  | email =>
    rw [hchan] at h
    simp only [List.mem_append, List.mem_cons, List.not_mem_nil, or_false, List.mem_map] at h
    rcases h with (rfl | rfl | rfl) | ⟨dependency, -, rfl⟩ <;> exact ⟨_, rfl⟩

/-- The delivery, the attempt and checks. -/
theorem mem_beginAttemptItems {request : BeginAttemptRequest}
    (h : item ∈ beginAttemptItems record request) :
    item = record.item (.beginAttempt record request) ∨
      item = .attempt record.delivery.deliveryId request.attemptId
        (.put (startedAttempt record request)) ∨ ∃ check, item = .gate check := by
  unfold beginAttemptItems at h
  simp only [List.mem_append, List.mem_cons, List.not_mem_nil, or_false] at h
  rcases h with (rfl | rfl) | hgate
  · exact .inl rfl
  · exact .inr (.inl rfl)
  · exact .inr (.inr (gateFenceConditions_gate hgate))

/-- Attempt, delivery, recovery and destination. -/
theorem mem_completeAttemptItems {completion : AttemptCompletion} {recovery : Option Item}
    (h : item ∈ completeAttemptItems record completion recovery) :
    item = .attempt record.delivery.deliveryId completion.attemptId (.complete completion) ∨
      item = record.item (.completeAttempt record completion) ∨ recovery = some item ∨
      item = .destination record := by
  unfold completeAttemptItems at h
  simp only [List.mem_append, List.mem_cons, List.not_mem_nil, or_false, Option.mem_toList] at h
  rcases h with ((rfl | rfl) | hrecov) | hdest
  · exact .inl rfl
  · exact .inr (.inl rfl)
  · exact .inr (.inr (.inl hrecov))
  · split at hdest
    · exact .inr (.inr (.inr (List.mem_singleton.mp hdest)))
    · cases hdest

/-- The recovery item is that of a fence. -/
theorem Reconciliation.Justified.fenced {event : FeedbackEvent} {plan : Reconciliation}
    (h : plan.Justified P s event) (hitem : plan.recovery = some item) :
    plan.decision.ownsAggregate = true ∧
      ∃ ending, plan.delivery.toDeliveryIdentity.endedBy plan.nextState = some ending ∧
        Fenced s plan.delivery.toDeliveryIdentity (some ending) (some item) := by
  rcases h.recovery with hnone | howns
  · rw [hnone] at hitem
    cases hitem
  · refine ⟨howns, ?_⟩
    have hfence := hitem ▸ h.fence howns
    split at hfence
    · cases hending : plan.delivery.toDeliveryIdentity.endedBy plan.nextState with
      | none =>
        rw [hending] at hfence
        cases hfence
      | some ending => exact ⟨ending, rfl, hending ▸ hfence⟩
    · cases hfence

/-! ## Updates of deliveries -/

/-- The state an update writes, if it writes one. -/
def DeliveryUpdate.target : DeliveryUpdate → Option DeliveryState
  | .repairPublication _ _ | .markQueued _ => some .queued
  | .claim _ _ => some .processing
  | .transition _ step => some step.nextState
  | .completeAttempt _ completion => some completion.nextState
  | .releaseRecovery _ (.pending _) _ => some .pending
  | .releaseRecovery _ .cancelled _ => some .cancelled
  | .feedback _ nextState _ _ => some nextState
  | _ => none

/-- The state after an update. -/
theorem DeliveryUpdate.rowEffect_state (update : DeliveryUpdate) (row : DeliveryRow) :
    (update.rowEffect row).state = update.target.getD row.state := by
  fun_cases rowEffect update row with
  | case4 record step => cases step <;> rfl
  | _ => rfl

/-- The record is one of the delivery under this key. -/
def DeliveryRecord.At (record : DeliveryRecord) (outboxId : OutboxId) (deliveryId : DeliveryId) :
    Prop :=
  outboxId = record.delivery.outboxId ∧ deliveryId = record.delivery.deliveryId

/-- A record is right about what it still claims. -/
theorem Known.tells_owned (hknown : Known record s)
    (hat : record.At outboxId deliveryId) (hrow : s.delivery outboxId deliveryId = some row)
    (howned : row.ownedBy record = true) : record.Tells row := by
  obtain ⟨rfl, rfl⟩ := hat
  exact hknown.tells hrow (DeliveryRow.ownedBy_revision howned)

/-- The items bring the fence of an opening's end along. -/
def FencedIn (s : Store) (items : List Item) (opening : DeliveryIdentity)
    (ending : Option OpeningEnd) : Prop :=
  ∃ recovery, Fenced s opening ending recovery ∧ ∀ item, recovery = some item → item ∈ items

/-- One of the items ends the opening. -/
def EndsOpening (s : Store) (items : List Item) (opening : DeliveryIdentity) (ending : OpeningEnd) :
    Prop :=
  opening.Stored s ∧ ∃ update next,
    Item.delivery opening.outboxId opening.deliveryId update ∈ items ∧
      update.target = some next ∧ opening.endedBy next = some ending

/-- What is known when an update is sent. -/
def DeliveryUpdate.Grounds (P : Platform) (s : Store) (items : List Item) (outboxId : OutboxId)
    (deliveryId : DeliveryId) (update : DeliveryUpdate) : Prop :=
  match update with
  | .repairPublication record _ =>
    record.At outboxId deliveryId ∧ Known record s ∧ Published record.delivery.job s
  | .claim record request =>
    record.At outboxId deliveryId ∧ Known record s ∧
      transitionAllowed record.delivery.state .processing = true ∧ request.now < request.expiresAt
  | .transition record step =>
    record.At outboxId deliveryId ∧ Known record s ∧ step.Allowed record ∧ record.Settled s ∧
      FencedIn s items record.delivery.toDeliveryIdentity
        (record.delivery.toDeliveryIdentity.endedBy step.nextState)
  | .beginAttempt record request =>
    record.At outboxId deliveryId ∧ Known record s ∧ record.attemptCount < maxProviderCalls ∧
      validateIdentityField request.attemptId = true ∧ record.Settled s ∧
      items = beginAttemptItems record request
  | .completeAttempt record completion =>
    record.At outboxId deliveryId ∧ Known record s ∧ validateCompletion completion = true ∧
      (completion.nextState = .permanentFailed → record.possiblyAccepted = false) ∧
      completion.Compatible record.providerAttemptId record.providerMessageId ∧
      (∃ recovery, items = completeAttemptItems record completion recovery) ∧
      FencedIn s items record.delivery.toDeliveryIdentity
        (record.delivery.toDeliveryIdentity.endedBy completion.nextState)
  | .releaseRecovery _ _ _ => ∃ opening ending, EndsOpening s items opening ending ∧
      RecoveryFence s opening ending (some (.delivery outboxId deliveryId update))
  | .feedback current nextState decision now => ∃ retention event plan,
      plan.Justified P s event ∧ plan.decision.ownsAggregate = true ∧
        items = reconcileTransaction retention event now plan ∧
        outboxId = plan.attempt.outboxId ∧ deliveryId = event.deliveryId ∧
        current = plan.delivery ∧ nextState = plan.nextState ∧ decision = plan.decision
  | .markQueued _ => ∃ row, Seen outboxId deliveryId row s ∧ Published row.job s
  | .create _ _ _ => PageItem P items (.delivery outboxId deliveryId update)
  | .checkTerminal state _ => state.terminal = true
  | _ => True

/-- A fence is grounded by the end of its opening. -/
theorem Fenced.grounds {ending : OpeningEnd}
    (h : Fenced s opening (some ending) (some (.delivery outboxId deliveryId update)))
    (hends : EndsOpening s items opening ending) :
    update.Grounds P s items outboxId deliveryId := by
  obtain ⟨update', heq, hupdate⟩ := h.item
  cases heq
  rcases hupdate with rfl | ⟨recovery, release, now, rfl⟩
  · trivial
  · exact ⟨opening, ending, hends, h⟩

/-- A fence that comes with an item has an end. -/
theorem Fenced.some_item (h : Fenced s opening ending (some item)) :
    ∃ ended, ending = some ended := by
  cases ending with
  | none => cases h
  | some ended => exact ⟨ended, rfl⟩

/-- The recovery released by a known opening. -/
theorem Known.grounds_recovery (hknown : Known record s) {own : DeliveryUpdate}
    {next : DeliveryState} (hown : record.item own ∈ items) (hnext : own.target = some next)
    (hfence : Fenced s record.delivery.toDeliveryIdentity
      (record.delivery.toDeliveryIdentity.endedBy next)
      (some (.delivery outboxId deliveryId update))) :
    update.Grounds P s items outboxId deliveryId := by
  obtain ⟨ended, hended⟩ := hfence.some_item
  exact (hended ▸ hfence).grounds ⟨hknown.exists_row, own, next, hown, hnext, hended⟩

/-- The updates of a completed attempt. -/
theorem completeAttempt_grounds {completion : AttemptCompletion} {recovery : Option Item}
    (hknown : Known record s) (hvalid : validateCompletion completion = true)
    (hfailed : completion.nextState = .permanentFailed → record.possiblyAccepted = false)
    (hcompat : completion.Compatible record.providerAttemptId record.providerMessageId)
    (hfence : Fenced s record.delivery.toDeliveryIdentity
      (record.delivery.toDeliveryIdentity.endedBy completion.nextState) recovery)
    (hmem : .delivery outboxId deliveryId update ∈ completeAttemptItems record completion recovery) :
    update.Grounds P s (completeAttemptItems record completion recovery) outboxId deliveryId := by
  rcases mem_completeAttemptItems hmem with hitem | hitem | hitem | hitem
  · cases hitem
  · cases hitem
    refine ⟨⟨rfl, rfl⟩, hknown, hvalid, hfailed, hcompat, ⟨recovery, rfl⟩, recovery, hfence, ?_⟩
    rintro item rfl
    simp [completeAttemptItems]
  · have hown : record.item (.completeAttempt record completion) ∈
        completeAttemptItems record completion recovery := by
      simp [completeAttemptItems]
    exact hknown.grounds_recovery hown rfl (hitem ▸ hfence)
  · cases hitem

/-- The updates of a justified reconciliation. -/
theorem Reconciliation.Justified.grounds {plan : Reconciliation} {event : FeedbackEvent}
    (hplan : plan.Justified P s event) (hbase : Base P s) {retention : Int} {now : Instant}
    (hmem : .delivery outboxId deliveryId update ∈ reconcileTransaction retention event now plan) :
    update.Grounds P s (reconcileTransaction retention event now plan) outboxId deliveryId := by
  rcases reconcileTransaction_items.mp hmem with hitem | hitem | hitem | hitem | hitem | hitem
  · cases hitem
  · cases hitem
  · cases hitem
  · unfold Reconciliation.deliveryItem at hitem
    cases hitem
    split
    next howns => exact ⟨retention, event, plan, hplan, howns, rfl, rfl, rfl, rfl, rfl, rfl⟩
    next => trivial
  · obtain ⟨howns, ending, hended, hfence⟩ := hplan.fenced hitem
    obtain ⟨current, hcur, hle⟩ := hplan.seen
    have hplaced := hle.identity ▸ hbase.placed hcur
    rw [← hplaced.outbox, ← hplaced.delivery] at hcur
    refine hfence.grounds ⟨⟨current, hcur, hle.identity⟩,
      .feedback plan.delivery plan.nextState plan.decision now, _, ?_, rfl, hended⟩
    rw [hplaced.outbox, hplaced.delivery]
    refine reconcileTransaction_items.mpr (.inr (.inr (.inr (.inl ?_))))
    rw [Reconciliation.deliveryItem, if_pos howns]
  · obtain ⟨identity, suppress, heq, -⟩ := hplan.suppression _ hitem
    cases heq

/-- Justified updates of deliveries have grounds. -/
theorem Justified.grounds (hbase : Base P s) (h : Justified P s op)
    (hmem : Item.delivery outboxId deliveryId update ∈ op.items) :
    update.Grounds P s op.items outboxId deliveryId := by
  cases h with
  | harmless h =>
    rw [Op.items_of_harmless h] at hmem
    cases hmem
  | send request | deleteMessage position h => cases hmem
  | repairPublication record now hknown hpub =>
    cases List.mem_singleton.mp hmem
    exact ⟨⟨rfl, rfl⟩, hknown, hpub⟩
  | claim record request hknown hallowed hexp =>
    cases List.mem_singleton.mp hmem
    exact ⟨⟨rfl, rfl⟩, hknown, hallowed, hexp⟩
  | renew =>
    cases List.mem_singleton.mp hmem
    trivial
  | transition record step hknown hsettled hallowed hfence =>
    cases List.mem_singleton.mp hmem
    exact ⟨⟨rfl, rfl⟩, hknown, hallowed, hsettled, none, hfence, by rintro _ ⟨⟩⟩
  | endOpening record step recovery hknown hsettled hallowed hfence =>
    rcases List.mem_cons.mp hmem with hitem | hitem
    · cases hitem
      refine ⟨⟨rfl, rfl⟩, hknown, hallowed, hsettled, some recovery, hfence, ?_⟩
      rintro item ⟨⟩
      exact List.mem_cons_of_mem _ List.mem_cons_self
    · cases List.mem_singleton.mp hitem
      exact hknown.grounds_recovery List.mem_cons_self rfl hfence
  | beginAttempt record request hknown hsettled hcount hatt =>
    rcases mem_beginAttemptItems hmem with hitem | hitem | ⟨check, hitem⟩ <;> cases hitem
    exact ⟨⟨rfl, rfl⟩, hknown, hcount, hatt, hsettled, rfl⟩
  | completeAttempt record completion recovery hknown hvalid hfailed hcompat hfence =>
    exact completeAttempt_grounds hknown hvalid hfailed hcompat hfence hmem
  | completeBeside record refreshed completion hknown hkey hstate =>
    rcases List.mem_cons.mp hmem with hitem | hitem
    · cases hitem
      exact hstate
    · cases List.mem_singleton.mp hitem
  | markTransport => cases List.mem_singleton.mp hmem
  | reconcile retention event now plan hplan => exact hplan.grounds hbase hmem
  | page items hitems =>
    have hpage := hitems _ hmem
    cases hpage with
    | check => trivial
    | _ => exact hitems _ hmem
  | relayClaim =>
    cases List.mem_singleton.mp hmem
    trivial
  | markQueued outboxId' deliveryId' work hseen hpub =>
    cases List.mem_singleton.mp hmem
    exact ⟨_, hseen, hpub⟩
  | reschedule =>
    cases List.mem_singleton.mp hmem
    trivial
  | leaseOutbox => cases List.mem_singleton.mp hmem

/-- Grounded updates are well formed. -/
theorem DeliveryUpdate.Grounds.wellFormed
    (h : update.Grounds P s items outboxId deliveryId) : update.WellFormed := by
  cases update with
  | claim => exact h.2.2.1
  | transition record step =>
    cases step with
    | preflightFailure =>
      rcases h.2.2.1.1 with ⟨hstate, -⟩ | hstate
      · exact .inl hstate
      · exact .inr hstate
    | _ => trivial
  | completeAttempt => exact h.2.2.1
  | feedback current nextState =>
    obtain ⟨retention, event, plan, hplan, -, -, -, -, rfl, rfl, -⟩ := h
    exact ⟨_, hplan.nextState⟩
  | _ => trivial

/-- What is known when an attempt is updated. -/
def AttemptUpdate.Grounds (P : Platform) (s : Store) (items : List Item) (deliveryId : DeliveryId)
    (attemptId : String) (update : AttemptUpdate) : Prop :=
  match update with
  | .put row => ∃ record request, items = beginAttemptItems record request ∧ Known record s ∧
      record.attemptCount < maxProviderCalls ∧ deliveryId = record.delivery.deliveryId ∧
      attemptId = request.attemptId ∧ row = startedAttempt record request
  | .complete completion => ∃ record recovery,
      items = completeAttemptItems record completion recovery ∧ Known record s ∧
        deliveryId = record.delivery.deliveryId ∧ attemptId = completion.attemptId ∧
        validateCompletion completion = true
  | .completeBesideTerminal _ completion => ∃ refreshed, Known refreshed s ∧
      deliveryId = refreshed.delivery.deliveryId ∧ attemptId = completion.attemptId ∧
      validateCompletion completion = true ∧
      Item.delivery refreshed.delivery.outboxId refreshed.delivery.deliveryId
        (.checkTerminal refreshed.delivery.state refreshed.revision) ∈ items ∧
      (completion.Compatible refreshed.providerAttemptId refreshed.providerMessageId ∨
        Passed refreshed s)
  | .feedback current event now => ∃ retention plan,
      items = reconcileTransaction retention event now plan ∧ plan.Justified P s event ∧
        deliveryId = event.deliveryId ∧ attemptId = event.attemptId ∧ current = plan.attempt

/-- The item of a recovery is no attempt. -/
theorem Fenced.not_attempt {update : AttemptUpdate} :
    ¬ Fenced s opening ending (some (.attempt deliveryId attemptId update)) := by
  intro h
  obtain ⟨_, heq, -⟩ := h.item
  cases heq

/-- At most one attempt is written, with grounds. -/
theorem Justified.attempts (h : Justified P s op) :
    ∃ only : Option Item, (∀ {deliveryId attemptId update},
        Item.attempt deliveryId attemptId update ∈ op.items →
          only = some (.attempt deliveryId attemptId update)) ∧
      ∀ {deliveryId attemptId update}, only = some (.attempt deliveryId attemptId update) →
        AttemptUpdate.Grounds P s op.items deliveryId attemptId update := by
  cases h with
  | harmless h =>
    refine ⟨none, fun hmem => ?_, nofun⟩
    rw [Op.items_of_harmless h] at hmem
    cases hmem
  | send request | deleteMessage position h => exact ⟨none, nofun, nofun⟩
  | endOpening record step recovery hknown hsettled hallowed hfence =>
    refine ⟨none, fun hmem => ?_, nofun⟩
    rcases List.mem_cons.mp hmem with hitem | hitem
    · cases hitem
    · cases List.mem_singleton.mp hitem
      exact absurd hfence Fenced.not_attempt
  | beginAttempt record request hknown hsettled hcount =>
    refine ⟨some (.attempt record.delivery.deliveryId request.attemptId
      (.put (startedAttempt record request))), fun hmem => ?_, ?_⟩
    · rcases mem_beginAttemptItems hmem with hitem | hitem | ⟨check, hitem⟩ <;> cases hitem
      rfl
    · rintro _ _ _ ⟨⟩
      exact ⟨record, request, rfl, hknown, hcount, rfl, rfl, rfl⟩
  | completeAttempt record completion recovery hknown hvalid hfailed hcompat hfence =>
    refine ⟨some (.attempt record.delivery.deliveryId completion.attemptId
      (.complete completion)), fun hmem => ?_, ?_⟩
    · rcases mem_completeAttemptItems hmem with hitem | hitem | hitem | hitem
      · exact congrArg some hitem.symm
      · cases hitem
      · exact absurd (hitem ▸ hfence) Fenced.not_attempt
      · cases hitem
    · rintro _ _ _ ⟨⟩
      exact ⟨record, recovery, rfl, hknown, rfl, rfl, hvalid⟩
  | completeBeside record refreshed completion hknown hkey hstate hvalid hcompat =>
    refine ⟨some (.attempt record.delivery.deliveryId completion.attemptId
      (.completeBesideTerminal record.delivery.deliveryId completion)), fun hmem => ?_, ?_⟩
    · rcases List.mem_cons.mp hmem with hitem | hitem
      · cases hitem
      · exact congrArg some (List.mem_singleton.mp hitem).symm
    · rintro _ _ _ ⟨⟩
      refine ⟨refreshed, hknown, hkey.2.symm, rfl, hvalid, ?_, hcompat⟩
      rw [hkey.1, hkey.2]
      exact List.mem_cons_self
  | reconcile retention event now plan hplan =>
    refine ⟨some (.attempt event.deliveryId event.attemptId
      (.feedback plan.attempt event now)), fun hmem => ?_, ?_⟩
    · rcases reconcileTransaction_items.mp hmem with
        hitem | hitem | hitem | hitem | hitem | hitem
      · cases hitem
      · cases hitem
      · exact congrArg some hitem.symm
      · cases hitem
      · obtain ⟨-, ending, -, hfence⟩ := hplan.fenced hitem
        exact absurd hfence Fenced.not_attempt
      · obtain ⟨identity, suppress, heq, -⟩ := hplan.suppression _ hitem
        cases heq
    · rintro _ _ _ ⟨⟩
      exact ⟨retention, plan, rfl, hplan, rfl, rfl, rfl⟩
  | page items hitems => exact ⟨none, fun hmem => (nomatch hitems _ hmem), nofun⟩
  | _ => exact ⟨none, fun hmem => (nomatch List.mem_singleton.mp hmem), nofun⟩

/-- Justified updates of attempts have grounds. -/
theorem Justified.attemptGrounds (h : Justified P s op) {update : AttemptUpdate}
    (hmem : Item.attempt deliveryId attemptId update ∈ op.items) :
    update.Grounds P s op.items deliveryId attemptId := by
  obtain ⟨only, honly, hgrounds⟩ := h.attempts
  exact hgrounds (honly hmem)

/-- Grounded completions end their attempts. -/
theorem AttemptUpdate.Grounds.wellFormed {update : AttemptUpdate}
    (h : update.Grounds P s items deliveryId attemptId) : update.WellFormed := by
  cases update with
  | complete =>
    obtain ⟨record, recovery, -, -, -, -, hvalid⟩ := h
    exact hvalid
  | completeBesideTerminal =>
    obtain ⟨refreshed, -, -, -, hvalid, -⟩ := h
    exact hvalid
  | _ => trivial

/-- Justified updates are well formed. -/
theorem Justified.wellFormed (hbase : Base P s) (h : Justified P s op) : op.WellFormed where
  delivery hmem := (h.grounds hbase hmem).wellFormed
  attempt hmem := (h.attemptGrounds hmem).wellFormed

end LimnoPulse.Notifications
