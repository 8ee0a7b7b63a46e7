import LimnoPulse.Notifications.Gates

/-!
# The worker's processor

One delivered message from the claim to the decision about the message: finishing an
interrupted attempt, settling an exhausted one, the gates, the provider call and its
completion.

Main results:

- Definition `handle`: what a worker does with a message.
-/

namespace LimnoPulse.Notifications

open CivilTime StoreProgram

/-! ## Retry delays -/

/-- The first delay. -/
def retryBase : Int := 30 * second

/-- The longest delay. -/
def retryMaximum : Int := 15 * minute

/-- How long doubt is waited out. -/
def ambiguousGrace : Int := 2 * minute

/-- The loop of `RetryCap`, by doublings left. -/
def retryCapLoop : Nat → Int → Int
  | 0, cap => cap
  | doublings + 1, cap =>
    if cap < retryMaximum then
      if cap > retryMaximum / 2 then retryMaximum else retryCapLoop doublings (cap * 2)
    else cap

/-- `RetryCap`. -/
def retryCap (retryIndex : Nat) : Int :=
  if retryIndex < 1 then 0 else min retryMaximum (retryCapLoop (retryIndex - 1) retryBase)

/-- The units of a fraction in one. -/
def fractionUnits : Nat := 2 ^ 53

/-- Round to 53 significant bits, ties to even. -/
def roundToDouble (value : Nat) : Nat :=
  let shift := Nat.log2 value + 1 - 53
  let quotient := value / 2 ^ shift
  let rest := value % 2 ^ shift
  let rounded :=
    if 2 * rest > 2 ^ shift ∨ (2 * rest = 2 ^ shift ∧ shift ≠ 0 ∧ quotient % 2 = 1) then
      quotient + 1
    else quotient
  rounded * 2 ^ shift

/-- `FullJitter`, for a fraction in units of 2⁻⁵³. -/
def fullJitter (retryIndex : Nat) (fraction : Int) : Int :=
  let clipped := min (max fraction 0) (fractionUnits - 1)
  (roundToDouble ((retryCap retryIndex).toNat * clipped.toNat) / fractionUnits : Nat)

/-- `RetryDelay`. -/
def retryDelay (retryIndex : Nat) (ambiguous : Bool) (fraction : Int) : Int :=
  fullJitter retryIndex fraction + if ambiguous then ambiguousGrace else 0

/-- `normalizedVisibility`: seconds up to twelve hours. -/
def normalizedVisibility (delay : Int) : Int :=
  if delay ≤ 0 then second
  else min ((delay + second - 1) / second) (12 * 60 * 60) * second

/-- What to do with a message. -/
inductive DecisionAction where
  | delete
  | changeVisibility
  | fatal
deriving DecidableEq

/-- An action, its delay and why. -/
structure Decision where
  action : DecisionAction
  visibility : Int := 0
  errorCategory : String := ""

/-- Come back later. -/
def Decision.retry (visibility : Int) (errorCategory : String := "") : Decision :=
  ⟨.changeVisibility, visibility, errorCategory⟩

/-- The queue of a worker, and its times. -/
structure ProcessorConfig where
  channel : Channel
  owner : String
  processingLease : Int := 0
  providerTimeout : Int := 0
  invalidVisibility : Int := 0

variable (P : Platform) (config : ProcessorConfig) (record : DeliveryRecord)

/-- How long writes may take. -/
def durableMutationTimeout : Int := 5 * second

/-- A time that has a default. -/
def orDefault (value default : Int) : Int := if value ≤ 0 then default else value

/-- What follows a failure. -/
structure DefinitiveFailurePlan where
  nextState : DeliveryState
  nextAttemptAt : Option Instant := none
  possiblyAccepted : Bool := false
  ambiguousExhausted : Bool := false
  awaitingIntervention : Bool := false
  action : DecisionAction
  visibility : Int := 0

/-- A possible acceptance waits for feedback instead of failing. -/
def planDefinitiveFailure (category : SendErrorCategory) (now : Instant) (fraction : Int) :
    Option DefinitiveFailurePlan :=
  match category.disposition with
  | .permanent =>
    if record.possiblyAccepted then
      let delay := retryDelay record.attemptCount true fraction
      some
        { nextState := .retryableFailed
          nextAttemptAt := some (now + delay)
          possiblyAccepted := true
          ambiguousExhausted := true
          action := .changeVisibility
          visibility := normalizedVisibility delay }
    else some { nextState := .permanentFailed, action := .delete }
  | .fatal =>
    some
      { nextState := .retryableFailed
        nextAttemptAt := some (now + 15 * minute)
        possiblyAccepted := record.possiblyAccepted
        awaitingIntervention := true
        action := .fatal
        visibility := 15 * minute }
  | _ => none

/-- `planDefinitiveFailure`, which draws a fraction if it needs one. -/
def planFailure (category : SendErrorCategory) (now : Instant) :
    Prog (Option DefinitiveFailurePlan) := do
  if category.disposition = .permanent ∧ record.possiblyAccepted then
    let fraction ← jitterFraction
    pure (planDefinitiveFailure record category now fraction)
  else pure (planDefinitiveFailure record category now 0)

/-! ## Steps of the processor -/

/-- `deferClaim`. -/
def deferClaim (now : Instant) (category : String) (delay : Int) : Prog Decision := do
  match ← defer P record { now := now, nextAttemptAt := now + delay, errorCategory := category } with
  | .ok () => pure (.retry (normalizedVisibility delay) category)
  | .error _ => pure (.retry (normalizedVisibility delay) "defer_failure")

/-- `deferClaim` at the present time, for a minute. -/
def deferNow (category : String) : Prog Decision := do
  let now ← clockNow
  deferClaim P record now category minute

/-- The decision when a completion is not persisted. -/
def Decision.afterFailure (decision : Decision) (failure : StoreError) (category : String) :
    Decision :=
  match failure with
  | .concurrentTerminal => if decision.action = .fatal then decision else { action := .delete }
  | _ =>
    if decision.action = .fatal then
      { decision with errorCategory := "fatal_persistence_failure" }
    else .retry minute category

/-- A decision once its completion has been sent. -/
def Decision.completed (decision : Decision) (category : String) :
    Except StoreError Unit → Decision
  | .ok () => decision
  | .error failed => decision.afterFailure failed category

/-- The category of an error of the sender. -/
def SenderFailure.error : SenderFailure → SendError
  | .typed error => error
  | .other => { category := .retryableUnknown }

/-- A failed preflight; one that is not definitive counts as a configuration error. -/
def handlePreflightFailure (now : Instant) (failure : SenderFailure) : Prog Decision := do
  let category :=
    match failure.error.category.disposition with
    | .permanent | .fatal => failure.error.category
    | _ => .fatalConfigurationSet
  match ← planFailure record category now with
  | none => deferClaim P record now "invalid_sender_preflight" minute
  | some plan =>
    let result ← completePreflightFailure P record
      { completedAt := now
        errorCategory := category.text
        nextState := plan.nextState
        nextAttemptAt := plan.nextAttemptAt
        possiblyAccepted := plan.possiblyAccepted
        ambiguousExhausted := plan.ambiguousExhausted
        awaitingIntervention := plan.awaitingIntervention }
    pure (Decision.completed ⟨plan.action, plan.visibility, category.text⟩
      "preflight_completion_failure" result)

/-- Nobody knows whether the provider took the message. -/
def interruptedCompletion (attemptId : String) (now : Instant) (delay : Int) : AttemptCompletion :=
  match record.delivery.channel with
  | .telegram =>
    { attemptId := attemptId
      completedAt := now
      outcome := .ambiguous
      errorCategory := SendErrorCategory.text .telegramAmbiguous
      nextState := .unknown
      possiblyAccepted := true
      ambiguousExhausted := true }
  | .email =>
    { attemptId := attemptId
      completedAt := now
      outcome := .ambiguous
      errorCategory := SendErrorCategory.text .ambiguousConnectionReset
      nextState := .retryableFailed
      nextAttemptAt := some (now + delay)
      possiblyAccepted := true
      ambiguousExhausted := decide (maxProviderCalls ≤ record.attemptCount) }

/-- The delay after an interruption; none for Telegram. -/
def interruptedDelay : Prog Int :=
  match record.delivery.channel with
  | .telegram => pure 0
  | .email => do
    let fraction ← jitterFraction
    pure (retryDelay record.attemptCount true fraction)

/-- After an interrupted attempt. -/
def interruptedDecision (channel : Channel) (delay : Int) : Except StoreError Unit → Decision
  | .ok () =>
    match channel with
    | .telegram => ⟨.delete, 0, SendErrorCategory.text .telegramAmbiguous⟩
    | .email =>
      .retry (normalizedVisibility delay) (SendErrorCategory.text .ambiguousConnectionReset)
  | .error .concurrentTerminal => { action := .delete }
  | .error _ => .retry minute "interrupted_attempt_recovery_failure"

/-- `completeInterrupted`. -/
def completeInterrupted (attemptId : String) (now : Instant) : Prog Decision := do
  let delay ← interruptedDelay record
  let result ← completeAttempt P record (interruptedCompletion record attemptId now delay)
  pure (interruptedDecision record.delivery.channel delay result)

/-- After a failed call; an unknown disposition is retried. -/
def failedCompletion (attemptId : String) (now : Instant) (error : SendError) (fraction : Int) :
    AttemptCompletion × Decision :=
  match error.category.disposition with
  | .permanent | .fatal =>
    match planDefinitiveFailure record error.category now fraction with
    | some plan =>
      ({ attemptId := attemptId
         completedAt := now
         outcome := if error.category.disposition = .permanent then .permanentFailed
           else .retryable
         errorCategory := error.category.text
         nextState := plan.nextState
         nextAttemptAt := plan.nextAttemptAt
         possiblyAccepted := plan.possiblyAccepted
         ambiguousExhausted := plan.ambiguousExhausted
         awaitingIntervention := plan.awaitingIntervention
         suppressTelegramDestination :=
           error.category = .telegramDestinationUnavailable &&
             record.delivery.channel = .telegram },
        ⟨plan.action, plan.visibility,
          if plan.action = .delete then "" else error.category.text⟩)
    | none =>
      -- Both dispositions have a plan; a completion without one is refused.
      ({ attemptId := attemptId, completedAt := now, outcome := .started
         nextState := .processing }, .retry 0)
  | .ambiguous =>
    if error.noAutomaticRetry then
      ({ attemptId := attemptId
         completedAt := now
         outcome := .ambiguous
         errorCategory := error.category.text
         nextState := .unknown
         possiblyAccepted := true
         ambiguousExhausted := true }, { action := .delete })
    else
      let delay := retryDelay record.attemptCount true fraction
      ({ attemptId := attemptId
         completedAt := now
         outcome := .ambiguous
         errorCategory := error.category.text
         nextState := .retryableFailed
         nextAttemptAt := some (now + delay)
         possiblyAccepted := true
         ambiguousExhausted := decide (maxProviderCalls ≤ record.attemptCount) },
        .retry (normalizedVisibility delay) error.category.text)
  | .retryable | .invalid =>
    if maxProviderCalls ≤ record.attemptCount then
      if record.possiblyAccepted then
        let delay := retryDelay record.attemptCount true fraction
        ({ attemptId := attemptId
           completedAt := now
           outcome := .retryable
           errorCategory := error.category.text
           nextState := .retryableFailed
           nextAttemptAt := some (now + delay)
           possiblyAccepted := true
           ambiguousExhausted := true },
          .retry (normalizedVisibility delay) error.category.text)
      else
        ({ attemptId := attemptId
           completedAt := now
           outcome := .retryable
           errorCategory := error.category.text
           nextState := .permanentFailed }, { action := .delete })
    else
      let delay := max (retryDelay record.attemptCount false fraction) error.retryAfter
      ({ attemptId := attemptId
         completedAt := now
         outcome := .retryable
         errorCategory := error.category.text
         nextState := .retryableFailed
         nextAttemptAt := some (now + delay) },
        .retry (normalizedVisibility delay) error.category.text)

/-- The branches of `finishAttempt` that draw a fraction. -/
def drawsFraction (error : SendError) : Bool :=
  match error.category.disposition with
  | .permanent => record.possiblyAccepted
  | .fatal => false
  | .ambiguous => !error.noAutomaticRetry
  | .retryable | .invalid =>
    decide (record.attemptCount < maxProviderCalls) || record.possiblyAccepted

/-- Missing message ids and unknown categories are retried. -/
def SendResult.outcome : SendResult → Except SendError String
  | .accepted providerMessageId =>
    if providerMessageId = "" then .error { category := .retryableUnknown }
    else .ok providerMessageId
  | .failed failure =>
    if failure.error.category.disposition = .invalid then
      .error { category := .retryableUnknown }
    else .error failure.error

/-- The completion of an accepted message. -/
def acceptedCompletion (attemptId : String) (now : Instant) (providerMessageId : String) :
    AttemptCompletion :=
  { attemptId := attemptId
    completedAt := now
    outcome := .succeeded
    providerMessageId := some providerMessageId
    providerOutcome := some .accepted
    nextState := .succeeded }

/-- Persist a completion and decide about the message. -/
def persistCompletion (planned : AttemptCompletion × Decision) : Prog Decision := do
  let result ← completeAttempt P record planned.1
  pure (planned.2.completed "attempt_completion_failure" result)

/-- `finishAttempt`. -/
def finishAttempt (attemptId : String) (now : Instant) (result : SendResult) : Prog Decision := do
  match result.outcome with
  | .error error =>
    if drawsFraction record error then
      let fraction ← jitterFraction
      persistCompletion P record (failedCompletion record attemptId now error fraction)
    else persistCompletion P record (failedCompletion record attemptId now error 0)
  | .ok providerMessageId =>
    persistCompletion P record
      (acceptedCompletion attemptId now providerMessageId, { action := .delete })

/-- Record the attempt, then call the provider. -/
def attemptSend (request : SendRequest) (fence : GateFence) : Prog Decision := do
  let startedAt ← clockNow
  match ← beginAttempt record
      { attemptId := request.attemptId
        startedAt := startedAt
        leaseRequiredUntil := startedAt +
          (orDefault config.providerTimeout (15 * second) + 2 * durableMutationTimeout)
        gateFence := fence } with
  | .error _ => pure (.retry minute "attempt_start_failure")
  | .ok begun =>
    let result ← send request
    let completedAt ← clockNow
    finishAttempt P begun request.attemptId completedAt result

/-- Cancel a delivery the gates do not let pass. -/
def handleDenied (reason : Option CancellationReason) : Prog Decision :=
  match reason with
  | none => deferNow P record "invalid_gate"
  | some reason => do
    let now ← clockNow
    match ← cancel P record reason now with
    | .ok () => pure { action := .delete }
    | .error _ => pure (.retry minute "cancellation_failure")

/-- Stop renewing the lease, and go on if that worked. -/
def stopped (next : Prog Decision) : Prog Decision := do
  if ← stopGuard then deferNow P record "lease_renewal_failed" else next

/-- The second check of the gates, and the attempt. -/
def handleAdmitted (request : SendRequest) : Prog Decision := do
  if ← contextErr then deferNow P record "lease_renewal_failed"
  else
    match ← checkGates P config.channel record with
    | .error _ => deferNow P record "gate_lookup_failure"
    | .ok (.denied reason) => stopped P record (handleDenied P record reason)
    | .ok (.allowed fence) =>
      if fence.isComplete then do
        if ← contextErr then deferNow P record "lease_renewal_failed"
        else
          stopped P record do
            if ← contextErr then deferNow P record "worker_context_cancelled"
            else attemptSend P config record request fence
      else stopped P record (deferNow P record "invalid_gate")

/-- The wait for a token of the rate limiter. -/
def handleLimited (request : SendRequest) : Prog Decision := do
  match ← waitForLimiter with
  | .acquired => handleAdmitted P config record request
  | .cancelled => deferNow P record "limiter_cancelled"
  | .rateLimited retryAfter unavailable =>
    let now ← clockNow
    deferClaim P record now
      (if unavailable then "limiter_unavailable" else "limiter_rate_limited")
      (if 0 < retryAfter then retryAfter else minute)

/-- The first check of the gates and the preflight. -/
def handleSendable : Prog Decision := do
  if ← contextErr then deferNow P record "lease_renewal_failed"
  else
    match ← checkGates P config.channel record with
    | .error _ => deferNow P record "gate_lookup_failure"
    | .ok (.denied reason) => handleDenied P record reason
    | .ok (.allowed _) =>
      let attemptId ← newAttemptId
      let request : SendRequest := ⟨record.delivery, attemptId, record.attemptCount + 1⟩
      match ← preflight request with
      | some failure =>
        stopped P record do
          let now ← clockNow
          handlePreflightFailure P record now failure
      | none => handleLimited P config record request

/-- Settle what may have been accepted last. -/
def handleExhausted : Prog Decision := do
  let now ← clockNow
  match ← finalizeUnknown P record now with
  | .ok () => pure { action := .delete }
  | .error _ => pure (.retry minute "unknown_transition_failure")

/-- A delayed message is not sent again. -/
def DeliveryRecord.noteDelayed : DeliveryRecord :=
  if record.providerOutcome = some .delayed then
    { record with possiblyAccepted := true, ambiguousExhausted := true }
  else record

/-- A claimed delivery and its attempts. -/
def handleRefreshed : Prog Decision := do
  if record.ambiguousExhausted then handleExhausted P record
  else if maxProviderCalls ≤ record.attemptCount then
    let now ← clockNow
    handlePreflightFailure P record now (.typed { category := .providerCallLimitExhausted })
  else handleSendable P config record

/-- The claimed record is one the processor can work on. -/
def DeliveryRecord.wellClaimed : Bool :=
  record.delivery.valid P && record.delivery.state = .processing && decide (1 ≤ record.revision) &&
    record.leaseOwner.any (fun owner => owner ≠ "") && decide (1 ≤ record.leaseEpoch)

/-- `Handle` after a claim. -/
def handleClaimed (claimTime : Instant) : Prog Decision := do
  if !record.wellClaimed P then
    pure (.retry (orDefault config.invalidVisibility minute) "malformed_delivery")
  else
    match record.startedAttemptId with
    | some attemptId => completeInterrupted P record attemptId claimTime
    | none =>
      if record.possiblyAccepted || record.ambiguousExhausted ||
          record.providerOutcome = some .delayed then
        match ← refresh P record with
        | .error _ => deferNow P record "reconciliation_failure"
        | .ok (_, true) => pure { action := .delete }
        | .ok (refreshed, false) => handleRefreshed P config refreshed.noteDelayed
      else handleRefreshed P config record

/-- `Handle`: what a worker does with a message. -/
def handle (message : QueueMessage) : Prog Decision := do
  let claimTime ← clockNow
  match ← acquire P message.job
      { owner := config.owner
        sqsMessageId := message.messageId
        now := claimTime
        expiresAt := claimTime + orDefault config.processingLease minute } with
  | .error _ => pure (.retry minute "claim_failure")
  | .ok .terminal => pure { action := .delete }
  | .ok (.deferred retryAfter) => pure (.retry (normalizedVisibility retryAfter))
  | .ok .awaitDlq => pure (.retry (orDefault config.invalidVisibility minute) "awaiting_dlq")
  | .ok (.claimed record) => handleClaimed P config record claimTime

end LimnoPulse.Notifications
