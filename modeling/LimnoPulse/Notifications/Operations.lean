import LimnoPulse.Library.Program
import LimnoPulse.Notifications.Updates
import Mathlib.Data.List.Sort
import Mathlib.Data.String.Basic

/-!
# Operations of the notification system

What a worker, the feedback consumer and the relay ask of the world in one step:
requests to the table and the queue, and everything the environment answers at will
(the clock, random identifiers, the provider).  The store keeps logs of provider
calls and of applied feedback that no program reads.

Main results:

- Definition `exec`: the effect of one operation.
-/

namespace LimnoPulse.Notifications

open CivilTime StoreProgram

/-! ## The provider -/

/-- Why a call failed. -/
inductive SendErrorCategory where
  | permanentRecipient
  | providerCallLimitExhausted
  | retryableThrottling
  | retryableQuota
  | retryableService
  | retryableUnknown
  | ambiguousTimeout
  | ambiguousConnectionReset
  | fatalAccountSuspended
  | fatalFromIdentity
  | fatalConfigurationSet
  | fatalCredentials
  | telegramRateLimited
  | telegramDestinationUnavailable
  | telegramCredentials
  | telegramAmbiguous
  | unrecognized (text : String)
deriving DecidableEq

/-- The text of a category. -/
def SendErrorCategory.text : SendErrorCategory → String
  | .permanentRecipient => "permanent_bad_recipient"
  | .providerCallLimitExhausted => "provider_call_limit_exhausted"
  | .retryableThrottling => "retryable_throttling"
  | .retryableQuota => "retryable_daily_quota"
  | .retryableService => "retryable_service_unavailable"
  | .retryableUnknown => "retryable_unknown"
  | .ambiguousTimeout => "ambiguous_timeout"
  | .ambiguousConnectionReset => "ambiguous_connection_reset"
  | .fatalAccountSuspended => "fatal_account_suspended"
  | .fatalFromIdentity => "fatal_from_identity"
  | .fatalConfigurationSet => "fatal_configuration_set"
  | .fatalCredentials => "fatal_credentials"
  | .telegramRateLimited => "telegram_rate_limited"
  | .telegramDestinationUnavailable => "telegram_destination_unavailable"
  | .telegramCredentials => "telegram_invalid_credentials"
  | .telegramAmbiguous => "telegram_ambiguous_send"
  | .unrecognized text => text

/-- What to do about a failed call. -/
inductive SendDisposition where
  | retryable
  | permanent
  | ambiguous
  | fatal
  | invalid
deriving DecidableEq

/-- The disposition of each category. -/
def SendErrorCategory.disposition : SendErrorCategory → SendDisposition
  | .permanentRecipient | .providerCallLimitExhausted | .telegramDestinationUnavailable =>
    .permanent
  | .ambiguousTimeout | .ambiguousConnectionReset | .telegramAmbiguous => .ambiguous
  | .fatalAccountSuspended | .fatalFromIdentity | .fatalConfigurationSet | .fatalCredentials
  | .telegramCredentials => .fatal
  | .retryableThrottling | .retryableQuota | .retryableService | .retryableUnknown
  | .telegramRateLimited => .retryable
  | .unrecognized _ => .invalid

/-- A failed call. -/
structure SendError where
  category : SendErrorCategory
  retryAfter : Int := 0
  noAutomaticRetry : Bool := false

/-- A call of the provider. -/
structure SendRequest where
  delivery : DeliverySnapshot
  attemptId : String
  attemptNumber : Nat

/-- An error of the sender: of its own type or another one. -/
inductive SenderFailure where
  | typed (error : SendError)
  | other

/-- A provider message id, which may be empty, or an error. -/
inductive SendResult where
  | accepted (providerMessageId : String)
  | failed (failure : SenderFailure)

/-- How waiting for the limiter ends. -/
inductive WaitResult where
  | acquired
  | cancelled
  | rateLimited (retryAfter : Int) (unavailable : Bool)

/-- A message with its job, perhaps in the dead-letter queue. -/
structure QueueMessage where
  messageId : String
  job : JobEnvelope
  deleted : Bool := false
  deadLettered : Bool := false

/-- Rows, messages and logs. -/
structure Store where
  rows : Table Row
  messages : List QueueMessage := []
  sends : List (DeliveryId × String) := []
  applied : List (String × SemanticType) := []

namespace Store

/-- A stored delivery. -/
def delivery (s : Store) (outboxId : OutboxId) (deliveryId : DeliveryId) : Option DeliveryRow :=
  s.rows.lookup (.delivery outboxId deliveryId)

/-- A stored attempt. -/
def attempt (s : Store) (deliveryId : DeliveryId) (attemptId : String) : Option AttemptRow :=
  s.rows.lookup (.attempt deliveryId attemptId)

/-- A stored outbox. -/
def outbox (s : Store) (tenantId : String) (outboxId : OutboxId) : Option OutboxRow :=
  s.rows.lookup (.outbox tenantId outboxId)

/-- The recipients in the order of a query. -/
def memberIds (s : Store) (tenantId : String) : List String :=
  (s.rows.keys.filterMap fun
    | .member tenant recipientId => if tenant = tenantId then some recipientId else none
    | _ => none).insertionSort (· ≤ ·)

/-- The deliveries of an outbox, in the order of a query. -/
def deliveryIds (P : Platform) (s : Store) (outboxId : OutboxId) : List DeliveryId :=
  (s.rows.keys.filterMap fun
    | .delivery outbox deliveryId => if outbox = outboxId then some deliveryId else none
    | _ => none).insertionSort fun a b => P.deliverySortKey a ≤ P.deliverySortKey b

end Store

/-! ## Operations -/

/-- Another service writes rows, adds an outbox, drops a marker or moves a message to the dead
letters. -/
inductive Edit where
  | member (tenantId recipientId : String) (row : Option MemberRow)
  | preference (tenantId recipientId : String) (row : Option PreferenceRow)
  | telegramBinding (tenantId recipientId : String) (row : Option TelegramBindingRow)
  | telegramDestination (destinationId : String) (row : Option TelegramDestinationRow)
  | alertEvent (tenantId eventId : String) (row : Option AlertEventRow)
  | deliverability (identity : String) (row : Option DeliverabilityRow)
  | createOutbox (row : OutboxRow)
  | expireTransport (eventBridgeId : String)
  | moveToDeadLetters (position : Nat)

/-- One await of any process. -/
inductive Op where
  | get (key : Key)
  | queryMembers (tenantId : String) (cursor : Option Cursor) (limit : Nat)
  | queryDeliveries (outboxId : OutboxId) (cursor : Option Cursor) (limit : Nat)
  | updateDelivery (outboxId : OutboxId) (deliveryId : DeliveryId) (update : DeliveryUpdate)
  | updateOutbox (tenantId : String) (outboxId : OutboxId) (update : OutboxUpdate)
  | transact (items : List Item)
  | publish (job : JobEnvelope)
  | deleteMessage (position : Nat)
  | now
  | newAttemptId
  | jitterFraction
  | contextErr
  | stopGuard
  | preflight (request : SendRequest)
  | waitForLimiter
  | send (request : SendRequest)
  | edit (change : Edit)

/-- A page, and where the next one may start. -/
inductive QueryReply (α : Type) where
  | page (items : List α) (next : Option Cursor)
  | unavailable

/-- What an operation is answered. -/
@[reducible]
def Reply : Op → Type
  | .get key => ReadReply (Row key)
  | .queryMembers _ _ _ => QueryReply (String × MemberRow)
  | .queryDeliveries _ _ _ => QueryReply (DeliveryId × DeliveryRow)
  | .updateDelivery _ _ _ => UpdateReply DeliveryRow
  | .updateOutbox _ _ _ => UpdateReply OutboxRow
  | .transact _ => TransactReply
  | .publish _ => Option String
  | .deleteMessage _ => Bool
  | .now => Instant
  | .newAttemptId => String
  | .jitterFraction => Int
  | .contextErr => Bool
  | .stopGuard => Bool
  | .preflight _ => Option SenderFailure
  | .waitForLimiter => WaitResult
  | .send _ => SendResult
  | .edit _ => Unit

/-- `unicode.IsSpace`. -/
def isSpace (char : Char) : Bool :=
  [0x20, 0x85, 0xA0, 0x1680, 0x2028, 0x2029, 0x202F, 0x205F, 0x3000].contains char.toNat ||
    decide (0x09 ≤ char.toNat ∧ char.toNat ≤ 0x0D) ||
    decide (0x2000 ≤ char.toNat ∧ char.toNat ≤ 0x200A)

/-- `strings.TrimSpace` leaves nothing. -/
def isBlank (value : String) : Bool := value.toList.all isSpace

/-- What the environment decides about one operation. -/
structure Outcome where
  fault : Fault := .none
  contended : Bool := false
  now : Instant := 0
  text : String := ""
  fraction : Int := 0
  flag : Bool := false
  cut : Nat := 0
  preflight : Option SenderFailure := none
  wait : WaitResult := .acquired
  send : SendResult := .failed .other

/-- At most the limit after the cursor, and a place to continue when items are left or the limit was
filled. -/
def takePage {α : Type} (limit : Nat) (outcome : Outcome) (ids : List α) : List α × Bool :=
  let page := ids.take (if outcome.cut = 0 then limit else min limit outcome.cut)
  (page, decide (page.length < ids.length) || outcome.flag && decide (page.length = limit))

/-- The items of a page, and the cursor of its last one. -/
def pageReply {α ρ : Type} (limit : Nat) (outcome : Outcome) (ids : List α)
    (row : α → Option ρ) (cursor : α → Cursor) : QueryReply (α × ρ) :=
  match outcome.fault with
  | .none =>
    let (page, more) := takePage limit outcome ids
    .page (page.filterMap fun id => (row id).map fun value => (id, value))
      (if more then page.getLast?.map cursor else none)
  | .requestLost | .answerLost => .unavailable

/-- What a commit adds to the log of applied feedback. -/
def Store.log (s : Store) (items : List Item) : Store :=
  { s with
    applied := s.applied ++ items.filterMap fun
      | .semantic providerMessageId semanticType _ => some (providerMessageId, semanticType)
      | _ => none }

/-- Send a transaction; a commit is logged even if its answer is lost. -/
def Store.transact (s : Store) (outcome : Outcome) (items : List Item) : TransactReply × Store :=
  let request := transactRequest outcome.fault outcome.contended (items.map Item.toTableItem) s.rows
  let committed := outcome.fault ≠ .requestLost && !outcome.contended &&
    (Table.transact (items.map Item.toTableItem) s.rows).isSome
  (request.1, if committed then { s.log items with rows := request.2 } else s)

/-- Send an update, logged like a transaction. -/
def Store.update (s : Store) (outcome : Outcome) (item : Item) :
    UpdateReply (Row item.toTableItem.key) × Store :=
  let request := updateRequest outcome.fault item.toTableItem s.rows
  let committed := outcome.fault ≠ .requestLost && item.toTableItem.holds s.rows
  (request.1, if committed then { s.log [item] with rows := request.2 } else s)

/-- A new outbox, as the evaluator writes it. -/
def OutboxRow.fresh (row : OutboxRow) : Bool :=
  row.expansionStatus = .pending && row.expansionRevision.getD 0 = 0 &&
    row.expansionCursor = none && row.expansionStartedAt = none && row.recipientsExamined = 0 &&
    row.deliveriesCreated = 0 && row.deliveriesCancelled = 0 && row.recipientsFiltered = 0

/-- A change by another service. -/
def Store.edit (s : Store) : Edit → Store
  | .member tenantId recipientId row =>
    { s with rows := s.rows.put (.member tenantId recipientId) row }
  | .preference tenantId recipientId row =>
    { s with rows := s.rows.put (.preference tenantId recipientId) row }
  | .telegramBinding tenantId recipientId row =>
    { s with rows := s.rows.put (.telegramBinding tenantId recipientId) row }
  | .telegramDestination destinationId row =>
    { s with rows := s.rows.put (.telegramDestination destinationId) row }
  | .alertEvent tenantId eventId row =>
    { s with rows := s.rows.put (.alertEvent tenantId eventId) row }
  | .deliverability identity row =>
    { s with rows := s.rows.put (.deliverability identity) row }
  | .createOutbox row =>
    if (s.outbox row.tenantId row.outboxId).isNone && row.fresh then
      { s with rows := s.rows.put (.outbox row.tenantId row.outboxId) (some row) }
    else s
  | .expireTransport eventBridgeId =>
    { s with rows := s.rows.put (.transport eventBridgeId) none }
  | .moveToDeadLetters position =>
    { s with messages := s.messages.modify position fun m => { m with deadLettered := true } }

/-- One operation. -/
def exec (P : Platform) : (op : Op) → Outcome → Store → Option (Reply op × Store)
  | .get key, outcome, s => some (answer outcome.fault (s.rows.lookup key), s)
  | .queryMembers tenantId cursor limit, outcome, s =>
    let after := match cursor with
      | some (.member last) => (s.memberIds tenantId).filter fun id => decide (last < id)
      | _ => s.memberIds tenantId
    some (pageReply limit outcome after (fun id => s.rows.lookup (.member tenantId id))
      Cursor.member, s)
  | .queryDeliveries outboxId cursor limit, outcome, s =>
    let after := match cursor with
      | some (.delivery last) => (s.deliveryIds P outboxId).filter fun id =>
        decide (P.deliverySortKey last < P.deliverySortKey id)
      | _ => s.deliveryIds P outboxId
    some (pageReply limit outcome after (fun id => s.delivery outboxId id) Cursor.delivery, s)
  | .updateDelivery outboxId deliveryId update, outcome, s =>
    some (s.update outcome (.delivery outboxId deliveryId update))
  | .updateOutbox tenantId outboxId update, outcome, s =>
    some (s.update outcome (.outbox tenantId outboxId update))
  | .transact items, outcome, s => some (s.transact outcome items)
  | .publish job, outcome, s =>
    let sent := { s with messages := s.messages ++ [{ messageId := outcome.text, job := job }] }
    match outcome.fault with
    | .none => some (if isBlank outcome.text then none else some outcome.text, sent)
    | .requestLost => some (none, s)
    | .answerLost => some (none, sent)
  | .deleteMessage position, outcome, s =>
    let deleted :=
      { s with messages := s.messages.modify position fun m => { m with deleted := true } }
    match outcome.fault with
    | .none => some (true, deleted)
    | .requestLost => some (false, s)
    | .answerLost => some (false, deleted)
  | .now, outcome, s => some (outcome.now, s)
  | .newAttemptId, outcome, s => some (outcome.text, s)
  | .jitterFraction, outcome, s => some (outcome.fraction, s)
  | .contextErr, outcome, s => some (outcome.flag, s)
  | .stopGuard, outcome, s => some (outcome.flag, s)
  | .preflight _, outcome, s => some (outcome.preflight, s)
  | .waitForLimiter, outcome, s => some (outcome.wait, s)
  | .send request, outcome, s =>
    some (outcome.send,
      { s with sends := s.sends ++ [(request.delivery.deliveryId, request.attemptId)] })
  | .edit change, _, s => some ((), s.edit change)

/-! ## Requests -/

/-- Programs of the system. -/
abbrev Prog := Program Op Reply

/-- Read a row. -/
def getItem (key : Key) : Prog (ReadReply (Row key)) := Program.perform (Op.get key)

/-- List members. -/
def queryMembers (tenantId : String) (cursor : Option Cursor) (limit : Nat) :
    Prog (QueryReply (String × MemberRow)) :=
  Program.perform (Op.queryMembers tenantId cursor limit)

/-- List deliveries. -/
def queryDeliveries (outboxId : OutboxId) (cursor : Option Cursor) (limit : Nat) :
    Prog (QueryReply (DeliveryId × DeliveryRow)) :=
  Program.perform (Op.queryDeliveries outboxId cursor limit)

/-- Update a delivery. -/
def updateDelivery (outboxId : OutboxId) (deliveryId : DeliveryId) (update : DeliveryUpdate) :
    Prog (UpdateReply DeliveryRow) :=
  Program.perform (Op.updateDelivery outboxId deliveryId update)

/-- Update an outbox. -/
def updateOutbox (tenantId : String) (outboxId : OutboxId) (update : OutboxUpdate) :
    Prog (UpdateReply OutboxRow) :=
  Program.perform (Op.updateOutbox tenantId outboxId update)

/-- Send a transaction. -/
def transactWriteItems (items : List Item) : Prog TransactReply :=
  Program.perform (Op.transact items)

/-- Publish a job. -/
def publish (job : JobEnvelope) : Prog (Option String) := Program.perform (Op.publish job)

/-- Delete a message. -/
def deleteMessage (position : Nat) : Prog Bool := Program.perform (Op.deleteMessage position)

/-- The time. -/
def clockNow : Prog Instant := Program.perform Op.now

/-- A new identifier. -/
def newAttemptId : Prog String := Program.perform Op.newAttemptId

/-- A random fraction in units of 2⁻⁵³. -/
def jitterFraction : Prog Int := Program.perform Op.jitterFraction

/-- Whether the context has ended. -/
def contextErr : Prog Bool := Program.perform Op.contextErr

/-- Whether the worker stops. -/
def stopGuard : Prog Bool := Program.perform Op.stopGuard

/-- Check before the call. -/
def preflight (request : SendRequest) : Prog (Option SenderFailure) :=
  Program.perform (Op.preflight request)

/-- Wait for a token. -/
def waitForLimiter : Prog WaitResult := Program.perform Op.waitForLimiter

/-- Call the provider. -/
def send (request : SendRequest) : Prog SendResult := Program.perform (Op.send request)

end LimnoPulse.Notifications
