import LimnoPulse.Notifications.WorkerStore

/-!
# The recipient gates

What a worker reads before it starts an attempt: whether the recipient may still be
written to.  Each gate reads one row, in the order of the source, and what allowed
the send is kept as a fence.

Main results:

- Definition `checkEmailGates`: the gates of the email worker.
- Definition `checkTelegramGates`: the gates of the Telegram worker.
-/

namespace LimnoPulse.Notifications

open CivilTime StoreProgram

/-- The answer of the gates; a denial may have no reason. -/
inductive GateResult where
  | allowed (fence : GateFence)
  | denied (reason : Option CancellationReason)

/-- A malformed row, or a send that is not allowed. -/
inductive GateStop where
  | malformed
  | denied (reason : CancellationReason)

/-- Read a row and go on if its gate passes. -/
def readGate {α : Type} (key : Key) (gate : Option (Row key) → Except GateStop α)
    (next : α → Prog (Except StoreError GateResult)) : Prog (Except StoreError GateResult) :=
  (getConsistent key).andThen fun row =>
    match gate row with
    | .error .malformed => pure (.error .other)
    | .error (.denied reason) => pure (.ok (.denied (some reason)))
    | .ok value => next value

/-- The order of severities. -/
def severityRank (value : String) : Option Nat :=
  if value = "warning" then some 1 else if value = "critical" then some 2 else none

/-- All characters are ASCII. -/
def isASCII (value : String) : Bool := value.toList.all fun char => decide (char.toNat ≤ 127)

/-- `DeliverabilityStorageKey` ignores case. -/
def deliverabilityIdentity (P : Platform) (email : String) : Option String :=
  if validateIdentityField email then some (P.toLower email) else none

/-- `LegacyDeliverabilityStorageKey`. -/
def legacyDeliverabilityIdentity (email : String) : Option String :=
  if validateIdentityField email then some email else none

/-- The membership is active; its version is kept. -/
def emailMemberGate (delivery : DeliverySnapshot) : Option MemberRow → Except GateStop Int
  | none => .error (.denied .recipientMembershipInactive)
  | some row =>
    if row.entityType ≠ "tenant_member" ∨ row.tenantId ≠ delivery.tenantId ∨
        row.recipientId ≠ delivery.recipientId ∨ row.role = "" ∨ row.version < 1 ∨
        row.status = "" then
      .error .malformed
    else if row.status ≠ "active" then .error (.denied .recipientMembershipInactive)
    else .ok row.version

/-- Email is enabled for the address of the delivery. -/
def emailPreferenceGate (P : Platform) (delivery : DeliverySnapshot) :
    Option PreferenceRow → Except GateStop (PreferenceRow × Nat)
  | none => .error (.denied .cancelled)
  | some row =>
    if row.entityType ≠ "notification_preference" ∨ row.tenantId ≠ delivery.tenantId ∨
        row.recipientId ≠ delivery.recipientId ∨ row.version < 1 ∨ row.emailAddress = "" ∨
        isASCII row.emailAddress = false then
      .error .malformed
    else
      match severityRank row.minimumSeverity with
      | none => .error .malformed
      | some minimum =>
        if row.emailEnabled && row.emailVerified &&
            P.equalFold row.emailAddress delivery.normalizedEmail then
          .ok (row, minimum)
        else .error (.denied .cancelled)

/-- The event is the delivery's. -/
def eventMatches (delivery : DeliverySnapshot) (row : AlertEventRow) : Bool :=
  row.entityType = "alert_event" && row.tenantId = delivery.tenantId &&
    row.eventId = delivery.eventId && row.ruleId = delivery.ruleId

/-- The event is severe enough. -/
def emailEventGate (delivery : DeliverySnapshot) (minimum : Nat) :
    Option AlertEventRow → Except GateStop String
  | none => .error .malformed
  | some row =>
    if eventMatches delivery row then
      match severityRank row.severity with
      | none => .error .malformed
      | some severity =>
        if severity < minimum then .error (.denied .cancelled) else .ok row.severity
    else .error .malformed

/-- An address that is not known to be suppressed. -/
def deliverabilityGate (identity : String) :
    Option DeliverabilityRow → Except GateStop DeliverabilityDependency
  | none => .ok ⟨identity, none⟩
  | some row =>
    match row.deliverability with
    | none => .error .malformed
    | some .suppressed => .error (.denied .emailSuppressed)
    | some state => .ok ⟨identity, some state⟩

/-- `currentDeliverability`: the own or an older identity. -/
def readDeliverability (P : Platform) (email : String)
    (next : List DeliverabilityDependency → Prog (Except StoreError GateResult)) :
    Prog (Except StoreError GateResult) :=
  match deliverabilityIdentity P email, legacyDeliverabilityIdentity email with
  | some identity, some legacy =>
    readGate (.deliverability identity) (deliverabilityGate identity) fun dependency =>
      if dependency.state.isSome ∨ legacy = identity then next [dependency]
      else
        readGate (.deliverability legacy) (deliverabilityGate legacy) fun legacyDependency =>
          next [dependency, legacyDependency]
  | _, _ => pure (.error .other)

/-- `CheckGates` of the email worker. -/
def checkEmailGates (P : Platform) (record : DeliveryRecord) : Prog (Except StoreError GateResult) :=
  let delivery := record.delivery
  readGate (.member delivery.tenantId delivery.recipientId) (emailMemberGate delivery)
    fun membershipVersion =>
  readGate (.preference delivery.tenantId delivery.recipientId) (emailPreferenceGate P delivery)
    fun (preference, minimum) =>
  readGate (.alertEvent delivery.tenantId delivery.eventId) (emailEventGate delivery minimum)
    fun eventSeverity =>
  readDeliverability P delivery.normalizedEmail fun dependencies =>
    let fence : GateFence :=
      { membershipVersion := membershipVersion
        preferenceVersion := preference.version
        preferenceEmailAddress := preference.emailAddress
        preferenceMinimumSeverity := preference.minimumSeverity
        eventSeverity := eventSeverity
        deliverabilityDependencies := dependencies }
    if fence.isComplete then pure (.ok (.allowed fence)) else pure (.error .other)

/-! ## Telegram -/

/-- The membership is active. -/
def telegramMemberGate (delivery : DeliverySnapshot) : Option MemberRow → Except GateStop Int
  | none => .error (.denied .recipientMembershipInactive)
  | some row =>
    if row.entityType ≠ "tenant_member" ∨ row.tenantId ≠ delivery.tenantId ∨
        row.recipientId ≠ delivery.recipientId ∨ row.version < 1 then
      .error .malformed
    else if row.status ≠ "active" then .error (.denied .recipientMembershipInactive)
    else .ok row.version

/-- The recipient wants Telegram. -/
def telegramPreferenceGate (delivery : DeliverySnapshot) :
    Option PreferenceRow → Except GateStop PreferenceRow
  | none => .error (.denied .cancelled)
  | some row =>
    if row.entityType ≠ "notification_preference" ∨ row.tenantId ≠ delivery.tenantId ∨
        row.recipientId ≠ delivery.recipientId ∨ row.version < 1 then
      .error .malformed
    else if row.telegramEnabled then .ok row
    else .error (.denied .cancelled)

/-- The destination is bound. -/
def bindingGate (delivery : DeliverySnapshot) : Option TelegramBindingRow → Except GateStop Int
  | none => .error (.denied .cancelled)
  | some row =>
    if row.entityType ≠ "telegram_binding" ∨ row.tenantId ≠ delivery.tenantId ∨
        row.recipientId ≠ delivery.recipientId ∨ row.version < 1 then
      .error .malformed
    else if row.status ≠ "verified" ∨ row.destinationId ≠ delivery.destinationId then
      .error (.denied .cancelled)
    else .ok row.version

/-- The chat can be written to. -/
def destinationGate (delivery : DeliverySnapshot) :
    Option TelegramDestinationRow → Except GateStop TelegramDestinationRow
  | none => .error (.denied .telegramDestinationSuppressed)
  | some row =>
    if row.entityType ≠ "telegram_destination" ∨ row.destinationId ≠ delivery.destinationId ∨
        row.recipientId ≠ delivery.recipientId ∨ row.chatId ≠ delivery.telegramChatId ∨
        row.version < 1 then
      .error .malformed
    else if row.status ≠ "active" then .error (.denied .telegramDestinationSuppressed)
    else .ok row

/-- The event still permits a notification of the kind. -/
def validEventState (kind : NotificationKind) (status : String) : Bool :=
  match kind with
  | .opening => status = "open" || status = "acknowledged"
  | .recovery => status = "resolved"

/-- The alert is still worth a text. -/
def telegramEventGate (delivery : DeliverySnapshot) (preference : PreferenceRow) :
    Option AlertEventRow → Except GateStop AlertEventRow
  | none => .error .malformed
  | some row =>
    if eventMatches delivery row then
      match severityRank preference.minimumSeverity, severityRank row.severity with
      | some minimum, some severity =>
        if severity < minimum then .error (.denied .cancelled)
        else if validEventState delivery.kind row.status then .ok row
        else .error (.denied .cancelled)
      | _, _ => .error .malformed
    else .error .malformed

/-- `CheckGates` of the Telegram worker. -/
def checkTelegramGates (record : DeliveryRecord) : Prog (Except StoreError GateResult) :=
  let delivery := record.delivery
  if delivery.channel ≠ .telegram ∨ delivery.destinationId = "" ∨ delivery.telegramChatId ≤ 0 then
    pure (.error .other)
  else
    readGate (.member delivery.tenantId delivery.recipientId) (telegramMemberGate delivery)
      fun membershipVersion =>
    readGate (.preference delivery.tenantId delivery.recipientId) (telegramPreferenceGate delivery)
      fun preference =>
    readGate (.telegramBinding delivery.tenantId delivery.recipientId) (bindingGate delivery)
      fun bindingVersion =>
    readGate (.telegramDestination delivery.destinationId) (destinationGate delivery)
      fun destination =>
    readGate (.alertEvent delivery.tenantId delivery.eventId)
      (telegramEventGate delivery preference) fun event =>
        pure (.ok (.allowed
          { channel := .telegram
            membershipVersion := membershipVersion
            preferenceVersion := preference.version
            preferenceMinimumSeverity := preference.minimumSeverity
            eventSeverity := event.severity
            eventStatus := event.status
            telegramDestinationId := destination.destinationId
            telegramChatId := destination.chatId
            telegramBindingVersion := bindingVersion
            telegramDestinationVersion := destination.version }))

/-- The gates of the worker of a channel. -/
def checkGates (P : Platform) (worker : Channel) (record : DeliveryRecord) :
    Prog (Except StoreError GateResult) :=
  match worker with
  | .email => checkEmailGates P record
  | .telegram => checkTelegramGates record

end LimnoPulse.Notifications
