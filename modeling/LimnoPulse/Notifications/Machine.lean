import LimnoPulse.Notifications.Relay

/-!
# The notification system

Every process of the notification system over one store: workers of both channels,
the renewal of leases, the feedback consumer, the relay, and the services that write
the rows these read.

Main results:

- Definition `notificationMachine`: the calls and their programs.
-/

namespace LimnoPulse.Notifications

open CivilTime StoreProgram

/-- A worker handles a published message; leases may be renewed at any time. -/
inductive Call where
  | handle (config : ProcessorConfig) (position : Nat) (message : QueueMessage)
  | renew (record : DeliveryRecord) (expiresAt : Instant)
  | reconcile (retention : Int) (event : FeedbackEvent)
  | relay (config : RelayConfig) (candidate : Candidate)
  | edit (change : Edit)

/-- How a call ends. -/
inductive CallResult where
  | decided (decision : Decision)
  | renewed (result : Except StoreError Unit)
  | reconciled (result : Except StoreError ReconcileResult)
  | relayed (result : CandidateResult)
  | edited

/-- The runner deletes a message if the processor says so. -/
def handleMessage (P : Platform) (config : ProcessorConfig) (position : Nat)
    (message : QueueMessage) : Prog CallResult := do
  let decision ← handle P config message
  if decision.action = .delete then
    let _ ← deleteMessage position
    pure (.decided decision)
  else pure (.decided decision)

/-- The feedback consumer reads the clock once. -/
def reconcileNow (P : Platform) (retention : Int) (event : FeedbackEvent) : Prog CallResult := do
  let now ← clockNow
  let result ← reconcile P retention event now
  pure (.reconciled result)

/-- The program of a call. -/
def callBody (P : Platform) : Call → Prog CallResult
  | .handle config position message => handleMessage P config position message
  | .renew record expiresAt => do
    let result ← renew record expiresAt
    pure (.renewed result)
  | .reconcile retention event => reconcileNow P retention event
  | .relay config candidate => do
    let result ← processCandidate P config candidate
    pure (.relayed result)
  | .edit change => .call (.edit change) fun _ => .done .edited

/-- Published messages are handled by workers of their channel. -/
def callAdmitted (call : Call) (s : Store) : Bool :=
  match call with
  | .handle config position message =>
    config.channel = message.job.channel &&
      s.messages[position]?.any fun published =>
        published.messageId = message.messageId && published.job = message.job
  | _ => true

/-- All processes over one store. -/
def notificationMachine (P : Platform) : Machine Store Outcome Call CallResult Op Reply where
  exec := exec P
  body := callBody P
  admits := callAdmitted

/-- Only the rows of other services are stored. -/
structure Store.Fresh (s : Store) : Prop where
  delivery : ∀ outboxId deliveryId, s.delivery outboxId deliveryId = none
  attempt : ∀ deliveryId attemptId, s.attempt deliveryId attemptId = none
  outbox : ∀ tenantId outboxId, s.outbox tenantId outboxId = none
  semantic : ∀ messageId semanticType, s.rows.lookup (.semantic messageId semanticType) = none
  messages : s.messages = []
  sends : s.sends = []
  applied : s.applied = []

/-! ## A system with one recipient

The smallest system in which every program has something to do: one member who
receives emails about one alert. -/

namespace OneRecipient

/-- Text processing that leaves every text as it is. -/
def platform : Platform where
  render template locale _ := some ⟨template, template.version, locale, "s", "t", "h", "c"⟩
  renderTelegram kind _ :=
    some ⟨match kind with
      | .opening => .telegramAlertOpeningV1
      | .recovery => .telegramAlertRecoveryV1, 1, .ptBR, "b", "c"⟩
  normalizeLegacyRuleName := id
  validateRenderedEmail _ _ _ := true
  renderedContentHash _ _ _ _ _ _ := "c"
  telegramRenderedContentHash _ _ _ _ := "c"
  toLower := id
  equalFold a b := a == b
  deliverySortKey deliveryId := deliveryId.recipientId

/-- An active member. -/
def member : MemberRow :=
  { entityType := "tenant_member", tenantId := "t", recipientId := "u", role := "viewer"
    status := "active", version := 1, createdAt := some 0 }

/-- Who wants email. -/
def preference : PreferenceRow :=
  { entityType := "notification_preference", tenantId := "t", recipientId := "u", version := 1
    emailEnabled := true, emailAddress := "a", emailVerified := true, telegramEnabled := false
    minimumSeverity := "warning" }

/-- An open alert. -/
def event : AlertEventRow :=
  { entityType := "alert_event", tenantId := "t", eventId := "e", ruleId := "r", ruleName := "n"
    severity := "warning", status := "open", pondId := "p", deviceId := "d", metric := "ph"
    operator := "gt", threshold := 1, windowStart := some 0, windowEnd := some 1
    lastEvaluatedAt := some 1, lastEvaluationValue := none }

/-- A member with a preference, and an alert. -/
def store : Store :=
  { rows := (((∅ : Table Row).put (.member "t" "u") (some member)).put (.preference "t" "u")
      (some preference)).put (.alertEvent "t" "e") (some event) }

/-- The outboxes of the event. -/
def outboxId (kind : NotificationKind) : OutboxId := ⟨"e", .email, kind⟩

/-- The deliveries of the event. -/
def deliveryId (kind : NotificationKind) : DeliveryId := ⟨"e", kind, .email, "u"⟩

/-- The outbox of a notification, available at time 1. -/
def outbox (kind : NotificationKind) (workKind : WorkKind) : OutboxRow :=
  { tenantId := "t", eventId := "e", ruleId := "r", kind := kind, channel := .email
    relay :=
      { availableAt := some 1, workKind := some workKind
        index := some ⟨workKind, "t", .inl (outboxId kind), 1⟩ } }

/-- The message of the opening. -/
def message : QueueMessage :=
  { messageId := "m"
    job := ⟨"t", outboxId .opening, deliveryId .opening, "e", .opening, .email⟩ }

/-- A call with one outcome for some operations. -/
def performed (process : Nat) (call : Call) (count : Nat) (outcome : Outcome) :
    List (Action Outcome Call) :=
  .start call :: List.replicate count (.step process outcome)

/-- The relay works on one entry of its index. -/
def relayed (process : Nat) (target : Target) (index : RelayIndexKey) (count : Nat) :
    List (Action Outcome Call) :=
  performed process (.relay ⟨"relay", 2, 10, 10, 1, true⟩ ⟨target, index⟩) count
    { now := 2, text := "m" }

/-- A worker handles the message of the opening. -/
def handled (process count : Nat) (outcome : Outcome) : List (Action Outcome Call) :=
  performed process (.handle { channel := .email, owner := "w" } 0 message) count outcome

/-- The opening is expanded and published. -/
def published : List (Action Outcome Call) :=
  performed 0 (.edit (.createOutbox (outbox .opening .intent))) 1 {} ++
    relayed 1 (.outbox "t" (outboxId .opening))
      ⟨.intent, "t", .inl (outboxId .opening), 1⟩ 9 ++
    relayed 2 (.delivery (outboxId .opening) (deliveryId .opening))
      ⟨.delivery, "t", .inr (deliveryId .opening), 2⟩ 6

/-- A worker sends the opening, and the message is deleted. -/
def sent : List (Action Outcome Call) :=
  published ++ handled 3 26 { now := 3, text := "a1", send := .accepted "p1" }

/-- The provider does not answer the first attempt in time. -/
def inDoubt : List (Action Outcome Call) :=
  published ++
    handled 3 25 { now := 3, text := "a1", send := .failed (.typed { category := .ambiguousTimeout }) }

/-- Three minutes later the provider refuses the recipient. -/
def refused : List (Action Outcome Call) :=
  inDoubt ++ handled 4 26
    { now := 3 * minute, text := "a2", send := .failed (.typed { category := .permanentRecipient }) }

/-- The alert is resolved early, so its recovery waits. -/
def waiting : List (Action Outcome Call) :=
  published ++ performed 3 (.edit (.createOutbox (outbox .recovery .dependency))) 1 {} ++
    relayed 4 (.outbox "t" (outboxId .recovery))
      ⟨.dependency, "t", .inl (outboxId .recovery), 1⟩ 8

/-- The opening is sent at last. -/
def released : List (Action Outcome Call) :=
  waiting ++ handled 5 26 { now := 3, text := "a1", send := .accepted "p1" }

/-- The machine of the sample. -/
abbrev machine : Machine Store Outcome Call CallResult Op Reply := notificationMachine platform

/-- The world before any call. -/
abbrev initial : World Store Call CallResult Op Reply := Machine.initial store

/-- The delivery of a kind in the store of a world. -/
def deliveryOf (kind : NotificationKind) (w : World Store Call CallResult Op Reply) :
    Option DeliveryRow :=
  w.store.delivery (outboxId kind) (deliveryId kind)

/-- Nothing was done. -/
theorem store_fresh : store.Fresh where
  delivery _ _ := rfl
  attempt _ _ := rfl
  outbox _ _ := rfl
  semantic _ _ := rfl
  messages := rfl
  sends := rfl
  applied := rfl

end OneRecipient

end LimnoPulse.Notifications
