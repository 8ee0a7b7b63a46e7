import LimnoPulse.Notifications.Feedback

/-!
# The relay

The relay turns outboxes into deliveries, one page of recipients after the other, and
publishes pending deliveries.  Its work is found through an index, reloaded and
leased before anything is written.

Main results:

- Definition `expandIntent` and definition `expandDependency`: one page of an
  opening or of a recovery.
- Definition `processCandidate`: what a run does with one entry of the index.
-/

namespace LimnoPulse.Notifications

open CivilTime StoreProgram

variable (P : Platform)

/-! ## Reloading and leasing -/

/-- The item is indexed as the candidate says and due. -/
def RelayFields.due (relay : RelayFields) (candidate : Candidate) (relayTime : Instant) :
    Except StoreError Bool :=
  if relay.index ≠ some candidate.index then .ok false
  else if relay.workKind.any (fun kind => kind ≠ candidate.kind) then .error .other
  else
    match relay.availableAt with
    | none => .error .other
    | some availableAt =>
      .ok (decide (availableAt ≤ relayTime) && availableAt = candidate.availableAt)

/-- Reloaded work gives the index it was found under. -/
def confirmIndex (candidate : Candidate) (work : Work) : Except StoreError (Option Work) :=
  if work.tenantId = "" ∨ work.eventId = "" ∨ work.ruleId = "" then .error .other
  else
    match buildRelayIndexKey candidate.kind work.tenantId work.itemId candidate.availableAt with
    | none => .error .other
    | some index => .ok (if index = candidate.index then some work else none)

/-- `EvaluationSnapshot.Validate`. -/
def EvaluationSnapshot.valid (snapshot : EvaluationSnapshot) : Bool :=
  decide (snapshot.windowStart < snapshot.windowEnd)

/-- The work of an outbox row. -/
def OutboxRow.work (row : OutboxRow) (candidate : Candidate) : Work :=
  { candidate := candidate
    tenantId := row.tenantId
    itemId := .inl row.outboxId
    outboxId := row.outboxId
    deliveryId := none
    eventId := row.eventId
    ruleId := row.ruleId
    dependsOnOutboxId := row.dependsOnOutboxId
    notificationKind := row.kind
    channel := row.channel
    revision := row.expansionRevision.getD 0
    cursor := row.expansionCursor
    expansionStartedAt := row.expansionStartedAt
    recipientsExamined := row.recipientsExamined
    deliveriesCreated := row.deliveriesCreated
    deliveriesCancelled := row.deliveriesCancelled
    recipientsFiltered := row.recipientsFiltered
    leaseOwner := row.relay.leaseOwner
    leaseEpoch := row.relay.leaseEpoch.getD 0
    evaluation := row.evaluation }

/-- The work of a delivery row. -/
def DeliveryRow.work (row : DeliveryRow) (candidate : Candidate) : Work :=
  { candidate := candidate
    tenantId := row.tenantId
    itemId := .inr row.deliveryId
    outboxId := row.outboxId
    deliveryId := some row.deliveryId
    eventId := row.eventId
    ruleId := row.ruleId
    dependsOnOutboxId := row.dependsOnOutboxId
    notificationKind := row.kind
    channel := row.channel
    revision := row.revision
    cursor := none
    expansionStartedAt := none
    recipientsExamined := 0
    deliveriesCreated := 0
    deliveriesCancelled := 0
    recipientsFiltered := 0
    leaseOwner := row.relay.leaseOwner
    leaseEpoch := row.relay.leaseEpoch.getD 0
    evaluation := none }

/-- `Reload`: openings are intents, recoveries dependencies. -/
def reloadOutbox (tenantId : String) (outboxId : OutboxId) (candidate : Candidate)
    (relayTime : Instant) (row : OutboxRow) : Except StoreError (Option Work) :=
  match row.relay.due candidate relayTime with
  | .error failure => .error failure
  | .ok false => .ok none
  | .ok true =>
    if (candidate.kind = .intent ∧ row.kind = .opening ∨
          candidate.kind = .dependency ∧ row.kind = .recovery) ∧
        row.tenantId = tenantId ∧ row.outboxId = outboxId then
      if row.expansionStatus ≠ .pending then .ok none
      else
        match confirmIndex candidate (row.work candidate) with
        | .ok (some work) =>
          if row.evaluation.all EvaluationSnapshot.valid then .ok (some work)
          else .error .other
        | other => other
    else .error .other

/-- `Reload` of a delivery. -/
def reloadDelivery (outboxId : OutboxId) (deliveryId : DeliveryId) (candidate : Candidate)
    (relayTime : Instant) (row : DeliveryRow) : Except StoreError (Option Work) :=
  match row.relay.due candidate relayTime with
  | .error failure => .error failure
  | .ok false => .ok none
  | .ok true =>
    if candidate.kind = .delivery ∧ row.outboxId = outboxId ∧ row.deliveryId = deliveryId then
      if row.state ≠ .pending then .ok none else confirmIndex candidate (row.work candidate)
    else .error .other

/-- `Reload`. -/
def reload (candidate : Candidate) (relayTime : Instant) : Prog (Except StoreError (Option Work)) :=
  match candidate.target with
  | .outbox tenantId outboxId =>
    (getConsistent (.outbox tenantId outboxId)).andThen fun
      | none => pure (.ok none)
      | some (row : OutboxRow) =>
        pure (reloadOutbox tenantId outboxId candidate relayTime row)
  | .delivery outboxId deliveryId =>
    (getConsistent (.delivery outboxId deliveryId)).andThen fun
      | none => pure (.ok none)
      | some (row : DeliveryRow) =>
        pure (reloadDelivery outboxId deliveryId candidate relayTime row)

/-- What `Claim` makes of the item it has leased. -/
def claimedWork (work : Work) (lease : LeaseRequest) (relay : RelayFields) :
    Except StoreError (Option Work) :=
  if relay.leaseEpoch.getD 0 ≤ work.leaseEpoch ∨ relay.workKind ≠ some work.candidate.kind then
    .error .other
  else
    .ok (some { work with leaseEpoch := relay.leaseEpoch.getD 0, leaseOwner := some lease.owner })

/-- `Claim` of the relay. -/
def relayClaim (work : Work) (lease : LeaseRequest) : Prog (Except StoreError (Option Work)) :=
  if isBlank lease.owner || decide (lease.expiresAt ≤ lease.now) then pure (.error .other)
  else
    match work.candidate.target with
    | .outbox tenantId outboxId => do
      match ← updateOutbox tenantId outboxId (.relayClaim work lease) with
      | .updated row => pure (claimedWork work lease row.relay)
      | .conditionalCheckFailed => pure (.ok none)
      | .unavailable => pure (.error .other)
    | .delivery outboxId deliveryId => do
      match ← updateDelivery outboxId deliveryId (.relayClaim work lease) with
      | .updated row => pure (claimedWork work lease row.relay)
      | .conditionalCheckFailed => pure (.ok none)
      | .unavailable => pure (.error .other)

/-- The work is held under a lease. -/
def Work.leased (work : Work) : Bool :=
  work.leaseOwner.any (fun owner => owner ≠ "") && decide (1 ≤ work.leaseEpoch)

/-- Whether an update went through. -/
def updateDone {ρ : Type} : UpdateReply ρ → Except StoreError Unit
  | .updated _ => .ok ()
  | .conditionalCheckFailed => .error .conditional
  | .unavailable => .error .other

/-- `MarkQueued`. -/
def markQueued (work : Work) (messageId : String) : Prog (Except StoreError Unit) :=
  match work.candidate.target with
  | .delivery outboxId deliveryId =>
    if work.candidate.kind = .delivery && work.leased && decide (1 ≤ work.revision) &&
        !isBlank messageId then do
      let reply ← updateDelivery outboxId deliveryId (.markQueued work)
      pure (updateDone reply)
    else pure (.error .other)
  | .outbox _ _ => pure (.error .other)

/-- `Reschedule`. -/
def reschedule (work : Work) (next : Instant) : Prog (Except StoreError Unit) :=
  match buildRelayIndexKey work.candidate.kind work.tenantId work.itemId next with
  | none => pure (.error .other)
  | some index =>
    if work.leased then
      match work.candidate.target with
      | .outbox tenantId outboxId => do
        let reply ← updateOutbox tenantId outboxId (.reschedule work next index)
        pure (updateDone reply)
      | .delivery outboxId deliveryId => do
        let reply ← updateDelivery outboxId deliveryId (.reschedule work next index)
        pure (updateDone reply)
    else pure (.error .other)

/-! ## What a page is made from -/

/-- The unit of a metric. -/
def metricUnit (metric : String) : Option String :=
  [("temp_c", "°C"), ("ph", "pH"), ("do_mg_l", "mg/L"), ("turbidity_ntu", "NTU"),
    ("salinity_ppt", "ppt"), ("battery_v", "V"), ("rssi", "dBm")].lookup metric

/-- `loadEvent`. -/
def loadEvent (work : Work) : Prog (Except StoreError AlertEventRow) :=
  (getConsistent (.alertEvent work.tenantId work.eventId)).andThen fun
    | none => pure (.error .other)
    | some (event : AlertEventRow) =>
      if event.entityType = "alert_event" ∧ event.tenantId = work.tenantId ∧
          event.eventId = work.eventId ∧ event.ruleId = work.ruleId ∧
          (severityRank event.severity).isSome ∧ (metricUnit event.metric).isSome then
        pure (.ok event)
      else pure (.error .other)

/-- Window, time and value that are reported. -/
def reportedEvaluation (event : AlertEventRow) (kind : NotificationKind)
    (windowStart windowEnd : Instant) : Option EvaluationSnapshot → Option EvaluationSnapshot
  | some snapshot => if snapshot.valid then some snapshot else none
  | none =>
    event.lastEvaluatedAt.bind fun lastEvaluatedAt =>
      match kind with
      | .opening =>
        some ⟨windowStart, windowEnd, windowEnd,
          if lastEvaluatedAt = windowEnd then event.lastEvaluationValue else none⟩
      | .recovery =>
        if windowEnd - windowStart ≤ 0 then none
        else
          some ⟨lastEvaluatedAt - (windowEnd - windowStart), lastEvaluatedAt, lastEvaluatedAt,
            event.lastEvaluationValue⟩

/-- `templateDataFor`. -/
def templateDataFor (event : AlertEventRow) (kind : NotificationKind)
    (evaluation : Option EvaluationSnapshot) : Option EmailTemplateData := do
  let unit ← metricUnit event.metric
  let windowStart ← event.windowStart
  let windowEnd ← event.windowEnd
  let reported ← reportedEvaluation event kind windowStart windowEnd evaluation
  pure
    { ruleName := P.normalizeLegacyRuleName event.ruleName
      severity := event.severity
      tenantId := event.tenantId
      pondId := event.pondId
      deviceId := event.deviceId
      metric := event.metric
      unit := unit
      operator := event.operator
      threshold := event.threshold
      observedValue := reported.value
      evaluationWindow := reported.windowEnd - reported.windowStart
      windowStart := reported.windowStart
      windowEnd := reported.windowEnd
      evaluatedAt := reported.evaluatedAt
      eventId := event.eventId }

/-- `loadPreference`. -/
def loadPreference (tenantId recipientId : String) :
    Prog (Except StoreError (Option PreferenceRow)) :=
  (getConsistent (.preference tenantId recipientId)).andThen fun
    | none => pure (.ok none)
    | some (row : PreferenceRow) =>
      if row.entityType = "notification_preference" ∧ row.tenantId = tenantId ∧
          row.recipientId = recipientId ∧
          (row.emailEnabled = true → row.emailVerified = true ∧ row.emailAddress ≠ "" ∧
            isASCII row.emailAddress = true) ∧
          (severityRank row.minimumSeverity).isSome then
        pure (.ok (some row))
      else pure (.error .other)

/-- `loadTelegramDestination`. -/
def loadTelegramDestination (tenantId recipientId : String) :
    Prog (Except StoreError (Option TelegramDestinationRow)) :=
  (getConsistent (.telegramBinding tenantId recipientId)).andThen fun
    | none => pure (.ok none)
    | some (binding : TelegramBindingRow) =>
      if binding.entityType = "telegram_binding" ∧ binding.tenantId = tenantId ∧
          binding.recipientId = recipientId ∧ binding.destinationId ≠ "" ∧
          binding.status = "verified" ∧ 1 ≤ binding.version then
        (getConsistent (.telegramDestination binding.destinationId)).andThen fun
          | none => pure (.ok none)
          | some (row : TelegramDestinationRow) =>
            if row.entityType = "telegram_destination" ∧
                row.destinationId = binding.destinationId ∧ row.recipientId = recipientId ∧
                0 < row.chatId ∧ 1 ≤ row.version ∧
                (row.status = "active" ∨ row.status = "suppressed") then
              pure (.ok (some row))
            else pure (.error .other)
      else pure (.ok none)

/-- What a deliverability row says about sending. -/
def suppressedBy : Option DeliverabilityRow → Except StoreError Bool
  | none => .ok false
  | some row =>
    match row.deliverability with
    | none => .error .other
    | some state => .ok (state = .suppressed)

/-- `addressSuppressed`. -/
def addressSuppressed (address : String) : Prog (Except StoreError Bool) :=
  match deliverabilityIdentity P address, legacyDeliverabilityIdentity address with
  | some identity, some legacy =>
    (getConsistent (.deliverability identity)).andThen fun row =>
      if row.isSome ∨ legacy = identity then pure (suppressedBy row)
      else
        (getConsistent (.deliverability legacy)).andThen fun legacyRow =>
          pure (suppressedBy legacyRow)
  | _, _ => pure (.error .other)

/-! ## Examining recipients -/

/-- What a page does about one recipient. -/
inductive Examined (P : Platform) where
  | filtered (bySeverity : Bool)
  | created (delivery : Delivery P)
  | cancelled (delivery : Delivery P)

namespace Examined

variable {P : Platform}

/-- The delivery of the recipient, if there is one. -/
def delivery : Examined P → Option (Delivery P)
  | .filtered _ => none
  | .created delivery | .cancelled delivery => some delivery

/-- What the recipient adds to the result of the page. -/
def count : Examined P → WorkResult
  | .filtered bySeverity =>
    { recipientsExamined := 1, recipientsFiltered := 1
      filteredBySeverity := if bySeverity then 1 else 0 }
  | .created _ => { recipientsExamined := 1, deliveriesCreated := 1 }
  | .cancelled _ => { recipientsExamined := 1, deliveriesCancelled := 1 }

end Examined

/-- Counts add up. -/
def WorkResult.add (a b : WorkResult) : WorkResult :=
  { deliveriesCreated := a.deliveriesCreated + b.deliveriesCreated
    deliveriesCancelled := a.deliveriesCancelled + b.deliveriesCancelled
    recipientsExamined := a.recipientsExamined + b.recipientsExamined
    recipientsFiltered := a.recipientsFiltered + b.recipientsFiltered
    filteredBySeverity := a.filteredBySeverity + b.filteredBySeverity }

/-- The counters of a page. -/
def countAll {P : Platform} (examined : List (Examined P)) : WorkResult :=
  examined.foldl (fun total e => total.add e.count) {}

/-- Examine the recipients of a page one after the other. -/
def examineAll {α β : Type} (examine : α → Prog (Except StoreError β)) :
    List α → Prog (Except StoreError (List β))
  | [] => pure (.ok [])
  | recipient :: rest =>
    (examine recipient).andThen fun examined =>
      (examineAll examine rest).andThen fun others => pure (.ok (examined :: others))

/-- A delivery that could be built. -/
def built {P : Platform} (wrap : Delivery P → Examined P) :
    Option (Delivery P) → Prog (Except StoreError (Examined P))
  | some delivery => pure (.ok (wrap delivery))
  | none => pure (.error .other)

/-- The time and the page size of an expansion. -/
structure ExpandRequest where
  relayTime : Instant
  pageSize : Nat

/-- `NewPendingDelivery`. -/
def newPendingDelivery (identity : DeliveryIdentity) (now : Instant) : Option (Delivery P) :=
  newDelivery P identity .pending none now

/-- `NewWaitingDependencyDelivery`. -/
def newWaitingDependencyDelivery (identity : DeliveryIdentity) (now : Instant) :
    Option (Delivery P) :=
  if identity.kind = .recovery ∧ identity.dependsOnOutboxId.isSome ∧
      identity.dependsOnDeliveryId.isSome then
    newDelivery P identity .waitingDependency none now
  else none

/-- `NewCancelledDelivery`. -/
def newCancelledDelivery (identity : DeliveryIdentity) (reason : CancellationReason)
    (now : Instant) : Option (Delivery P) :=
  newDelivery P identity .cancelled (some reason) now

/-- The parameters of an opening delivery. -/
def openingIdentity (work : Work) (request : ExpandRequest) (member : MemberRow)
    (deliveryId : DeliveryId) : DeliveryIdentity :=
  { tenantId := work.tenantId
    outboxId := work.outboxId
    deliveryId := deliveryId
    eventId := work.eventId
    ruleId := work.ruleId
    kind := .opening
    channel := work.channel
    dependsOnOutboxId := none
    dependsOnDeliveryId := none
    recipientId := member.recipientId
    normalizedEmail := ""
    destinationId := ""
    telegramChatId := 0
    membershipSnapshot := ⟨member.role, member.status, member.version⟩
    content := none
    telegramContent := none
    createdAt := request.relayTime }

/-- An opening by email. -/
def buildEmailOpening (data : EmailTemplateData) (identity : DeliveryIdentity) (now : Instant)
    (address : String) : Prog (Except StoreError (Examined P)) :=
  let addressed := { identity with normalizedEmail := address }
  (addressSuppressed P address).andThen fun suppressed =>
    if suppressed then
      built .cancelled (newCancelledDelivery P addressed .emailSuppressed now)
    else
      built .created ((P.render .alertOpeningV1 .ptBR data).bind fun content =>
        newPendingDelivery P { addressed with content := some content } now)

/-- A Telegram opening, if there is a destination. -/
def buildTelegramOpening (data : EmailTemplateData) (identity : DeliveryIdentity) (now : Instant) :
    Prog (Except StoreError (Examined P)) :=
  (loadTelegramDestination identity.tenantId identity.recipientId).andThen fun
    | none => pure (.ok (.filtered false))
    | some destination =>
      let addressed := { identity with
        destinationId := destination.destinationId, telegramChatId := destination.chatId }
      if destination.status = "suppressed" then
        built .cancelled (newCancelledDelivery P addressed .telegramDestinationSuppressed now)
      else
        built .created ((P.renderTelegram .opening data).bind fun content =>
          newPendingDelivery P { addressed with telegramContent := some content } now)

/-- The channel is enabled in the preference. -/
def PreferenceRow.enabled (preference : PreferenceRow) : Channel → Bool
  | .email => preference.emailEnabled && preference.emailVerified
  | .telegram => preference.telegramEnabled

/-- One recipient of `ExpandIntent`. -/
def examineMember (work : Work) (request : ExpandRequest) (event : AlertEventRow)
    (data : EmailTemplateData) (member : MemberRow) : Prog (Except StoreError (Examined P)) :=
  if member.status ≠ "active" ∨
      member.createdAt.any (fun createdAt =>
        decide (work.expansionStartedAt.getD request.relayTime < createdAt)) = true then
    pure (.ok (.filtered false))
  else
    (loadPreference work.tenantId member.recipientId).andThen fun
      | none => pure (.ok (.filtered false))
      | some preference =>
        if !preference.enabled work.channel then pure (.ok (.filtered false))
        else
          match severityRank event.severity, severityRank preference.minimumSeverity with
          | some severity, some minimum =>
            if severity < minimum then pure (.ok (.filtered true))
            else
              match newDeliveryId work.eventId .opening work.channel member.recipientId with
              | none => pure (.error .other)
              | some deliveryId =>
                let identity := openingIdentity work request member deliveryId
                match work.channel with
                | .email =>
                  buildEmailOpening P data identity request.relayTime
                    preference.emailAddress
                | .telegram => buildTelegramOpening P data identity request.relayTime
          | _, _ => pure (.error .other)

/-- `isNonterminalDelivery`. -/
def isNonterminalDelivery : DeliveryState → Bool
  | .pending | .queued | .processing | .retryableFailed => true
  | _ => false

/-- The parameters of the recovery of an opening. -/
def recoveryIdentity (work : Work) (request : ExpandRequest) (opening : DeliveryRow)
    (deliveryId : DeliveryId) : DeliveryIdentity :=
  { tenantId := work.tenantId
    outboxId := work.outboxId
    deliveryId := deliveryId
    eventId := work.eventId
    ruleId := work.ruleId
    kind := .recovery
    channel := work.channel
    dependsOnOutboxId := work.dependsOnOutboxId
    dependsOnDeliveryId := some opening.deliveryId
    recipientId := opening.recipientId
    normalizedEmail := opening.normalizedEmail
    destinationId := opening.destinationId
    telegramChatId := opening.telegramChatId
    membershipSnapshot := opening.membershipSnapshot
    content := none
    telegramContent := none
    createdAt := request.relayTime }

/-- The locale of the content the opening was sent with. -/
def DeliveryRow.locale (row : DeliveryRow) : Option Locale :=
  (row.content.map RenderedContent.locale).or (row.telegramContent.map TelegramRenderedContent.locale)

/-- The email of a recovery, in its opening's locale. -/
def withRecoveryContent (data : EmailTemplateData) (opening : DeliveryRow)
    (identity : DeliveryIdentity) : Option DeliveryIdentity := do
  let locale ← opening.locale
  let content ← P.render .alertRecoveryV1 locale data
  pure { identity with content := some content }

/-- `currentMembershipActive`. -/
def currentMembershipActive (tenantId recipientId : String) : Prog (Except StoreError Bool) :=
  (getConsistent (.member tenantId recipientId)).andThen fun
    | none => pure (.ok false)
    | some (member : MemberRow) =>
      if member.entityType = "tenant_member" ∧ member.tenantId = tenantId ∧
          member.recipientId = recipientId ∧ member.role ≠ "" ∧ 1 ≤ member.version then
        pure (.ok (member.status = "active"))
      else pure (.error .other)

/-- The recovery of an opening that was sent by email. -/
def buildEmailRecovery (data : EmailTemplateData) (opening : DeliveryRow)
    (identity : DeliveryIdentity) (now : Instant) : Prog (Except StoreError (Examined P)) :=
  (addressSuppressed P opening.normalizedEmail).andThen fun suppressed =>
    if suppressed then
      built .cancelled (newCancelledDelivery P identity .emailSuppressed now)
    else
      built .created ((withRecoveryContent P data opening identity).bind fun filled =>
        newPendingDelivery P filled now)

/-- The recovery of an opening that was sent by Telegram. -/
def buildTelegramRecovery (data : EmailTemplateData) (opening : DeliveryRow)
    (identity : DeliveryIdentity) (now : Instant) : Prog (Except StoreError (Examined P)) :=
  (loadTelegramDestination identity.tenantId opening.recipientId).andThen fun destination =>
    if destination.any (fun current => current.destinationId = opening.destinationId &&
        current.chatId = opening.telegramChatId && current.status = "active") then
      built .created (opening.locale.bind fun _ => (P.renderTelegram .recovery data).bind
        fun content => newPendingDelivery P { identity with telegramContent := some content } now)
    else built .cancelled (newCancelledDelivery P identity .telegramDestinationSuppressed now)

/-- The recovery of an opening that succeeded. -/
def buildRecovery (data : EmailTemplateData) (opening : DeliveryRow) (identity : DeliveryIdentity)
    (now : Instant) : Prog (Except StoreError (Examined P)) :=
  (currentMembershipActive identity.tenantId opening.recipientId).andThen fun active =>
    if active then
      match identity.channel with
      | .email => buildEmailRecovery P data opening identity now
      | .telegram => buildTelegramRecovery P data opening identity now
    else built .cancelled (newCancelledDelivery P identity .recipientMembershipInactive now)

/-- The opening must stay as it is until the page commits, unless it ended without success or is a
Telegram opening in doubt. -/
def fencesOpening (channel : Channel) (state : DeliveryState) : Bool :=
  state = .succeeded || isNonterminalDelivery state || (channel = .email && state = .unknown)

/-- `ExpandDependency` for one recipient: a recovery waits for an email opening under way or in
doubt. -/
def examineOpening (work : Work) (request : ExpandRequest) (data : EmailTemplateData)
    (opening : DeliveryRow) : Prog (Except StoreError (Examined P)) :=
  match newDeliveryId work.eventId .recovery work.channel opening.recipientId with
  | none => pure (.error .other)
  | some deliveryId =>
    let identity := recoveryIdentity work request opening deliveryId
    if opening.state = .unknown ∨ isNonterminalDelivery opening.state = true then
      match work.channel with
      | .telegram =>
        built .cancelled
          (newCancelledDelivery P identity .openingUnconfirmed request.relayTime)
      | .email =>
        built .created ((withRecoveryContent P data opening identity).bind fun filled =>
          newWaitingDependencyDelivery P filled request.relayTime)
    else if opening.state ≠ .succeeded then
      built .cancelled (newCancelledDelivery P identity .openingNotSucceeded request.relayTime)
    else buildRecovery P data opening identity request.relayTime

/-! ## Committing a page -/

/-- `deliveryMutation`: pending ones enter the index. -/
def deliveryMutation {P : Platform} (delivery : Delivery P) (availableAt : Instant) :
    Option Item :=
  let snapshot := delivery.snapshot
  let item := fun index =>
    Item.delivery snapshot.outboxId snapshot.deliveryId (.create snapshot availableAt index)
  if snapshot.state = .pending then
    (buildRelayIndexKey .delivery snapshot.tenantId (.inr snapshot.deliveryId) availableAt).map
      fun index => item (some index)
  else some (item none)

/-- `outboxMutation`. -/
def outboxMutation (work : Work) (request : ExpandRequest) (result : WorkResult)
    (nextCursor : Option Cursor) : Option Item :=
  match work.candidate.target with
  | .delivery _ _ => none
  | .outbox tenantId outboxId =>
    match nextCursor with
    | none =>
      some (.outbox tenantId outboxId (.expand work request.relayTime result none))
    | some cursor =>
      (buildRelayIndexKey work.candidate.kind work.tenantId work.itemId request.relayTime).map
        fun index => .outbox tenantId outboxId
          (.expand work request.relayTime result (some (cursor, index)))

/-- `commitFanoutPage`. -/
def commitFanoutPage {P : Platform} (work : Work) (request : ExpandRequest)
    (deliveries : List (Delivery P)) (dependencyChecks : List Item)
    (result : WorkResult) (nextCursor : Option Cursor) : Prog (Except StoreError Unit) :=
  match deliveries.mapM fun delivery => deliveryMutation delivery request.relayTime with
  | none => pure (.error .other)
  | some mutations =>
    if 100 ≤ (mutations ++ dependencyChecks).length then pure (.error .other)
    else
      match outboxMutation work request result nextCursor with
      | none => pure (.error .other)
      | some outbox => transactItems (mutations ++ dependencyChecks ++ [outbox])

/-- The checks of a membership row in `queryMemberships`. -/
def memberWellFormed (work : Work) (recipientId : String) (row : MemberRow) : Bool :=
  row.entityType = "tenant_member" && row.tenantId = work.tenantId &&
    row.recipientId = recipientId && row.recipientId ≠ "" && row.role ≠ "" && row.status ≠ "" &&
    decide (1 ≤ row.version) && row.createdAt.isSome

/-- The checks of an opening in `queryOpeningDeliveries`. -/
def openingWellFormed (work : Work) (deliveryId : DeliveryId) (row : DeliveryRow) : Bool :=
  row.tenantId = work.tenantId && some row.outboxId = work.dependsOnOutboxId &&
    row.eventId = work.eventId && row.ruleId = work.ruleId && row.kind = .opening &&
    row.channel = work.channel && row.deliveryId = deliveryId && row.recipientId ≠ "" &&
    decide (1 ≤ row.revision) &&
    match work.channel with
    | .email => row.normalizedEmail ≠ ""
    | .telegram => row.destinationId ≠ "" && decide (0 < row.telegramChatId)

/-- Leased work of the right kind, with a page that fits. -/
def expansionAdmitted (work : Work) (request : ExpandRequest) (kind : WorkKind)
    (notificationKind : NotificationKind) : Bool :=
  work.candidate.kind = kind && work.notificationKind = notificationKind && work.leased &&
    decide (1 ≤ request.pageSize) && decide (request.pageSize ≤ 99)

/-- `ExpandIntent`. -/
def expandIntent (work : Work) (request : ExpandRequest) : Prog (Except StoreError WorkResult) :=
  if expansionAdmitted work request .intent .opening then
    (loadEvent work).andThen fun event =>
      match templateDataFor P event work.notificationKind work.evaluation with
      | none => pure (.error .other)
      | some data => do
        match ← queryMembers work.tenantId work.cursor request.pageSize with
        | .unavailable => pure (.error .other)
        | .page members nextCursor =>
          if members.all fun member => memberWellFormed work member.1 member.2 then
            (examineAll (examineMember P work request event data)
              (members.map Prod.snd)).andThen fun examined =>
              (commitFanoutPage work request (examined.filterMap Examined.delivery) []
                (countAll examined) nextCursor).andThen fun _ =>
                pure (.ok (countAll examined))
          else pure (.error .other)
  else pure (.error .other)

/-- `requireExpandedOpening`: recoveries wait for that. -/
def requireExpandedOpening (work : Work) (openingId : OutboxId) (relayTime : Instant) :
    Prog (Except StoreError Unit) :=
  (getConsistent (.outbox work.tenantId openingId)).andThen fun
    | none => pure (.error .other)
    | some (opening : OutboxRow) =>
      if opening.tenantId = work.tenantId ∧ opening.outboxId = openingId ∧
          opening.eventId = work.eventId ∧ opening.kind = .opening ∧
          opening.channel = work.channel then
        if opening.expansionStatus = .expanded then pure (.ok ())
        else
          pure (.error (.retryAt
            (match opening.relay.availableAt with
              | some availableAt =>
                if relayTime < availableAt then availableAt else relayTime + minute
              | none => relayTime + minute)))
      else pure (.error .other)

/-- Each opening may need a fence beside its recovery. -/
def maxDependencyPage : Nat := 49

/-- The fences of a page of openings. -/
def openingChecks (channel : Channel) (openings : List DeliveryRow) : List Item :=
  (openings.filter fun opening => fencesOpening channel opening.state).map fun opening =>
    .delivery opening.outboxId opening.deliveryId (.checkOpening opening)

/-- `ExpandDependency`. -/
def expandDependency (work : Work) (request : ExpandRequest) :
    Prog (Except StoreError WorkResult) :=
  match work.dependsOnOutboxId with
  | none => pure (.error .other)
  | some openingId =>
    if expansionAdmitted work request .dependency .recovery then
      (requireExpandedOpening work openingId request.relayTime).andThen fun _ => do
        match ← queryDeliveries openingId work.cursor (min request.pageSize maxDependencyPage) with
        | .unavailable => pure (.error .other)
        | .page openings nextCursor =>
          if openings.all fun opening => openingWellFormed work opening.1 opening.2 then
            (loadEvent work).andThen fun event =>
              match templateDataFor P event work.notificationKind work.evaluation with
              | none => pure (.error .other)
              | some data =>
                (examineAll (examineOpening P work request data)
                  (openings.map Prod.snd)).andThen fun examined =>
                  (commitFanoutPage work request (examined.filterMap Examined.delivery)
                    (openingChecks work.channel (openings.map Prod.snd))
                    (countAll examined) nextCursor).andThen fun _ =>
                    pure (.ok (countAll examined))
          else pure (.error .other)
    else pure (.error .other)

/-- The settings of a run. -/
structure RelayConfig where
  owner : String
  (relayTime softDeadline : Instant)
  leaseTTL : Int
  fanoutPageSize : Nat
  telegramDeliveryEnabled : Bool

/-- What a run counts about one candidate. -/
structure CandidateResult where
  processed : Bool := false
  skipped : Bool := false
  withError : Bool := false
  published : Bool := false
  deadline : Bool := false
  category : String := ""
  fanout : WorkResult := {}

/-- `retryResult`. -/
def retryResult (work : Work) (relayTime : Instant) (cause : StoreError) (category : String) :
    Prog CandidateResult := do
  let (next, expectedWait) := match cause with
    | .retryAt instant => (instant, true)
    | _ => (relayTime + minute, false)
  match ← reschedule work next with
  | .error _ => pure { withError := true, category := "reschedule" }
  | .ok () =>
    if expectedWait then pure { processed := true }
    else pure { withError := true, category := category }

/-- The end of an expansion. -/
def expansionResult (work : Work) (relayTime : Instant) (category : String) :
    Except StoreError WorkResult → Prog CandidateResult
  | .ok fanout => pure { processed := true, fanout := fanout }
  | .error cause => retryResult work relayTime cause category

/-- Publish first, then mark as queued. -/
def publishDelivery (work : Work) (relayTime : Instant) : Prog CandidateResult :=
  match work.deliveryId with
  | none => retryResult work relayTime .other "job"
  | some deliveryId =>
    match newDeliveryJob work.tenantId work.outboxId deliveryId work.eventId work.notificationKind
        work.channel with
    | none => retryResult work relayTime .other "job"
    | some job => do
      match ← publish job with
      | none => retryResult work relayTime .other "sqs"
      | some messageId =>
        match ← markQueued work messageId with
        | .ok () => pure { processed := true, published := true }
        | .error _ =>
          pure { withError := true, published := true, category := "publication_commit" }

/-- Expand or publish leased work. -/
def processWork (config : RelayConfig) (work : Work) : Prog CandidateResult :=
  match work.candidate.kind with
  | .intent => do
    let result ← expandIntent P work ⟨config.relayTime, config.fanoutPageSize⟩
    expansionResult work config.relayTime "intent" result
  | .dependency => do
    let result ← expandDependency P work ⟨config.relayTime, config.fanoutPageSize⟩
    expansionResult work config.relayTime "dependency" result
  | .delivery => publishDelivery work config.relayTime

/-- `processCandidate`. -/
def processCandidate (config : RelayConfig) (candidate : Candidate) : Prog CandidateResult := do
  let begun ← clockNow
  if config.softDeadline ≤ begun then pure { deadline := true }
  else
    match ← reload candidate config.relayTime with
    | .error _ => pure { withError := true, category := "reload" }
    | .ok none => pure { skipped := true }
    | .ok (some work) =>
      if work.channel = .telegram && !config.telegramDeliveryEnabled then
        pure { skipped := true }
      else do
        let now ← clockNow
        if config.softDeadline ≤ now then pure { deadline := true }
        else
          match ← relayClaim work ⟨config.owner, now, now + config.leaseTTL, config.relayTime⟩ with
          | .error _ => pure { withError := true, category := "claim" }
          | .ok none => pure { skipped := true }
          | .ok (some claimed) => processWork P config claimed

end LimnoPulse.Notifications
