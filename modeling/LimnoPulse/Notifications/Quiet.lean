import LimnoPulse.Notifications.FeedbackCalls
import LimnoPulse.Notifications.RecoveryDependency

/-!
# Programs that start no attempt

Only one place of the system starts attempts and calls the provider.  Everything else
is quiet, whatever the replies it gets.

Main results:

- Theorem `completeAttempt_quiet` and theorem `acquire_channel`: the worker's
  store is quiet.
- Theorem `reconcile_quiet` and theorem `processCandidate_quiet`: so are
  feedback and relay.
-/

namespace LimnoPulse.Notifications

open CivilTime StoreProgram

variable {P : Platform} {α β : Type}
variable {op : Op} {p : Prog α} {retried merged : Completer} {merge : Bool}
  {deliveryId : DeliveryId} {record refreshed : DeliveryRecord} {now relayTime : Instant}
  {completion : AttemptCompletion} {work : Work} {attemptId category : String} {Q : α → Prop}
  {request : ExpandRequest} {key : Key} {fence : Bool} {event : FeedbackEvent}
  {candidate : Candidate}

/-- Neither starts an attempt nor calls the provider. -/
def Op.quiet : Op → Bool
  | .send _ => false
  | .transact (.delivery _ _ (.beginAttempt _ _) :: _) => false
  | _ => true

/-- The program performs quiet operations only. -/
def Quiet (p : Prog α) : Prop := p.Performs fun op => op.quiet = true

/-- Harmless operations are quiet. -/
theorem Op.quiet_of_harmless (h : op.harmless = true) : op.quiet = true := by
  cases op <;> first | rfl | cases h

/-- Harmless programs are quiet. -/
theorem Harmless.quiet (h : Harmless p) : Quiet p :=
  Program.Performs.mono (fun _ => Op.quiet_of_harmless) h

theorem Quiet.bind {f : α → Prog β} (hp : Quiet p) (hf : ∀ value, Quiet (f value)) :
    Quiet (p >>= f) :=
  Program.Performs.bind hf hp

/-- The second after a success. -/
theorem Quiet.andThen {p : Prog (Except StoreError α)} {f : α → Prog (Except StoreError β)}
    (hp : Quiet p) (hf : ∀ value, Quiet (f value)) : Quiet (p.andThen f) :=
  Program.Performs.andThen hp hf

/-- A quiet step first. -/
theorem quiet_perform (hop : op.quiet = true) {f : Reply op → Prog α}
    (hf : ∀ reply, Quiet (f reply)) : Quiet (Program.perform op >>= f) :=
  ⟨hop, hf⟩

/-- Read a row and go on with it. -/
theorem quiet_read {f : Option (Row key) → Prog (Except StoreError β)}
    (hf : ∀ row, Quiet (f row)) : Quiet ((getConsistent key).andThen f) :=
  Quiet.andThen (getConsistent_harmless key).quiet hf

/-- Programs that are quiet, and what they succeed with. -/
def quietly : Program.StageLogic Op Reply StoreError :=
  .within (fun _ _ => True) (fun op => op.quiet = true) StoreError

/-- A quiet program holds quietly. -/
theorem Quiet.returns {p : Prog (Except StoreError α)} (h : Quiet p) :
    quietly.Holds (fun _ => True) p :=
  Program.Performs.within h (Program.ReturnsOk.trivial p)

/-- Reads are quiet. -/
theorem reads_quiet {p : Prog (Except StoreError α)} (h : reads.Holds Q p) : Quiet p :=
  Harmless.quiet h.performs.1

/-- A quiet step first. -/
theorem quietly_perform (hop : op.quiet = true)
    {f : Reply op → Prog (Except StoreError α)} (hf : ∀ reply, quietly.Holds Q (f reply)) :
    quietly.Holds Q (Program.perform op >>= f) :=
  ⟨hop, fun reply _ => hf reply⟩

/-- Read a row and go on with it. -/
theorem quietly_read {f : Option (Row key) → Prog (Except StoreError α)}
    (hf : ∀ row, quietly.Holds Q (f row)) : quietly.Holds Q ((getConsistent key).andThen f) :=
  quietly.andThen (getConsistent_harmless key).quiet.returns fun row _ => hf row

/-! ## Claiming -/

/-- The record is one of the delivery with this identifier. -/
def DeliveryRecord.Names (record : DeliveryRecord) (deliveryId : DeliveryId) : Prop :=
  record.delivery.deliveryId = deliveryId ∧ record.delivery.channel = deliveryId.channel

/-- A record names its delivery. -/
theorem decodeDelivery_names {outboxId : OutboxId} {row : DeliveryRow}
    (h : decodeDelivery P outboxId deliveryId row = some record) : record.Names deliveryId := by
  unfold decodeDelivery at h
  split at h
  next hvalid =>
    cases h
    simp only [Bool.and_eq_true, decide_eq_true_eq] at hvalid
    obtain ⟨⟨⟨⟨-, hid⟩, -⟩, -⟩, hsnapshot⟩ := hvalid
    refine ⟨hid, ?_⟩
    have hident := DeliveryIdentity.deliveryId_of_valid (DeliverySnapshot.valid_iff.mp hsnapshot).1
    rw [← hid, hident]
  next => cases h

/-- A claim is one of the delivery with this identifier. -/
def AcquireResult.Names (deliveryId : DeliveryId) : AcquireResult → Prop
  | .claimed record => record.Names deliveryId
  | _ => True

/-- An updated record names the delivery. -/
theorem updateRecord_names (record : DeliveryRecord) (update : DeliveryUpdate) :
    quietly.Holds (fun updated => updated.2.Names record.delivery.deliveryId)
      (updateRecord P record update) := by
  refine quietly_perform rfl fun reply => ?_
  cases reply with
  | updated =>
    simp only
    split
    next updated hdec => exact quietly.ok (decodeDelivery_names hdec)
    next => exact quietly.error _
  | conditionalCheckFailed | unavailable => exact quietly.error _

section

variable (record : DeliveryRecord) (request : ClaimRequest)

/-- A claimed record names it. -/
theorem acquireClaim_names :
    quietly.Holds (AcquireResult.Names record.delivery.deliveryId) (acquireClaim P record request) := by
  have hclaim : quietly.Holds (fun updated => updated.2.Names record.delivery.deliveryId)
      (claim P record request) := by
    unfold claim
    split
    · exact updateRecord_names _ _
    · exact quietly.error _
  have hclaimed : quietly.Holds (AcquireResult.Names record.delivery.deliveryId)
      ((claim P record request).andThen fun updated =>
        pure (.ok (.claimed { updated.2 with startedAttemptId := record.startedAttemptId }))) :=
    quietly.andThen hclaim fun _ hnames => quietly.ok hnames
  refine Program.Within.bind hclaimed fun result hres => ?_
  cases result with
  | ok =>
    rintro _ ⟨⟩
    exact hres _ rfl
  | error failure =>
    cases failure <;> rintro _ ⟨⟩
    trivial

/-- A pending one names it. -/
theorem acquirePending_names :
    quietly.Holds (AcquireResult.Names record.delivery.deliveryId) (acquirePending P record request) := by
  have hrepair : quietly.Holds (fun updated => updated.2.Names record.delivery.deliveryId)
      (repairPublication P record request.now) := by
    unfold repairPublication
    split
    · exact updateRecord_names _ _
    · exact quietly.error _
  refine Program.Within.bind hrepair fun result hres => ?_
  cases result with
  | ok queued => exact (hres queued rfl).1 ▸ acquireClaim_names queued.2 request
  | error failure =>
    cases failure <;> rintro _ ⟨⟩
    trivial

/-- One taken over names it. -/
theorem acquireExpired_names :
    quietly.Holds (AcquireResult.Names record.delivery.deliveryId) (acquireExpired P record request) := by
  unfold acquireExpired
  split
  · exact acquireClaim_names _ _
  next attemptId hlast =>
  have hload : Quiet (loadAttemptOutcome record.delivery.deliveryId attemptId) := by
    unfold loadAttemptOutcome
    split
    · trivial
    · refine quiet_read fun row => ?_
      cases row with
      | none => trivial
      | some =>
        simp only
        split <;> trivial
  refine quietly.andThen hload.returns fun outcome _ => ?_
  cases outcome with
  | started => exact acquireClaim_names { record with startedAttemptId := some _ } request
  | retryable | ambiguous => exact acquireClaim_names _ _
  | succeeded | permanentFailed => exact quietly.ok trivial

end

theorem unlessBefore_names {now : Instant} {limit : Option Instant}
    {next : Prog (Except StoreError AcquireResult)}
    (hnext : quietly.Holds (AcquireResult.Names deliveryId) next) :
    quietly.Holds (AcquireResult.Names deliveryId) (unlessBefore now limit next) := by
  unfold unlessBefore
  split
  · split
    · exact quietly.ok trivial
    · exact hnext
  · exact hnext

/-- A worker gets its channel. -/
theorem acquire_channel (job : JobEnvelope) (request : ClaimRequest) :
    quietly.Holds (fun result => ∀ record, result = .claimed record →
      record.delivery.channel = job.channel) (acquire P job request) := by
  unfold acquire
  split
  · exact quietly.error _
  refine quietly_read fun row => ?_
  cases row with
  | none => exact quietly.ok (by rintro _ ⟨⟩)
  | some =>
    simp only
    split
    · exact quietly.ok (by rintro _ ⟨⟩)
    next record hdec =>
      split
      · exact quietly.ok (by rintro _ ⟨⟩)
      next hmatch =>
        simp only [DeliveryRecord.matchesJob, Bool.or_eq_true, Bool.not_eq_true', not_or,
          Bool.not_eq_false, Bool.and_eq_true, decide_eq_true_eq] at hmatch
        have hchan := hmatch.1.2
        have hnames := decodeDelivery_names hdec
        -- What the claim names, its channel follows.
        have hfollows : ∀ {p : Prog (Except StoreError AcquireResult)},
            quietly.Holds (AcquireResult.Names record.delivery.deliveryId) p →
            quietly.Holds (fun result => ∀ record, result = .claimed record →
              record.delivery.channel = job.channel) p := by
          refine quietly.mono ?_
          rintro _ hres claimed rfl
          rw [hres.2, hnames.1, ← hnames.2, hchan]
        refine hfollows ?_
        split
        all_goals
          first
            | exact quietly.ok trivial
            | exact acquireClaim_names _ _
            | exact unlessBefore_names (acquireClaim_names _ _)
            | (split
               · exact quietly.ok trivial
               · first
                   | exact unlessBefore_names (acquirePending_names _ _)
                   | exact unlessBefore_names (acquireExpired_names _ _))

/-- A refresh keeps the channel. -/
theorem refresh_channel (record : DeliveryRecord) :
    quietly.Holds (fun refreshed => record.Names record.delivery.deliveryId →
      refreshed.1.delivery.channel = record.delivery.channel) (refresh P record) := by
  refine quietly_read fun row => ?_
  cases row with
  | none => exact quietly.error _
  | some =>
    simp only
    split
    · exact quietly.error _
    next refreshed hdec =>
      have hnames := decodeDelivery_names hdec
      have hchan : record.Names record.delivery.deliveryId →
          refreshed.delivery.channel = record.delivery.channel :=
        fun hrecord => by rw [hnames.2, hrecord.1, hrecord.2]
      split
      · exact quietly.ok hchan
      · split
        · exact quietly.error _
        · exact quietly.ok hchan

theorem refresh_quiet : Quiet (refresh P record) :=
  (refresh_channel record).performs.1

/-! ## Transitions of a claimed delivery -/

/-- Moves are quiet. -/
theorem transitionProcessing_quiet {step : ProcessingTransition} :
    Quiet (transitionProcessing record step) := by
  refine quiet_perform rfl fun reply => ?_
  cases reply <;> trivial

theorem transactItems_quiet {items : List Item} (h : (Op.transact items).quiet = true) :
    Quiet (transactItems items) := by
  refine quiet_perform h fun reply => ?_
  cases reply <;> trivial

/-- Recoveries are quiet. -/
theorem recoveryOperation_quiet {opening : DeliverySnapshot} {ending : OpeningEnd} :
    Quiet (recoveryOperation opening ending now) := by
  unfold recoveryOperation
  split
  · trivial
  · refine quiet_read fun row => ?_
    cases row with
    | none => trivial
    | some =>
      simp only
      split
      · trivial
      · split
        · cases ending with
          | notSucceeded => trivial
          | succeeded =>
            simp only
            split <;> trivial
        · trivial

theorem recoveryDependencyOperation_quiet {next : DeliveryState} :
    Quiet (recoveryDependencyOperation record next now) := by
  unfold recoveryDependencyOperation
  split
  · trivial
  · split <;> first | exact recoveryOperation_quiet | trivial

/-- Ends of openings are quiet. -/
theorem transitionTerminalOpening_quiet {next : DeliveryState} {step : ProcessingTransition} :
    Quiet (transitionTerminalOpening record next now step) := by
  refine Quiet.andThen (recoveryDependencyOperation_quiet) fun recovery => ?_
  cases recovery with
  | none => exact transitionProcessing_quiet
  | some => exact transactItems_quiet rfl

/-- Cancelling is quiet. -/
theorem cancel_quiet {reason : CancellationReason} : Quiet (cancel P record reason now) := by
  unfold cancel
  split
  · exact transitionTerminalOpening_quiet
  · trivial

/-- Deferring is quiet. -/
theorem defer_quiet {request : DeferRequest} : Quiet (defer P record request) := by
  unfold defer
  split
  · trivial
  · exact transitionProcessing_quiet

/-- Failures before the call are quiet. -/
theorem completePreflightFailure_quiet {completion : PreflightFailureCompletion} :
    Quiet (completePreflightFailure P record completion) := by
  unfold completePreflightFailure
  split
  · refine Quiet.bind ?_ fun result => ?_
    · unfold preflightTransition
      split
      · exact transitionTerminalOpening_quiet
      · exact transitionProcessing_quiet
    · cases result with
      | ok => trivial
      | error failure =>
        refine Quiet.bind (refresh_quiet) fun refreshed => ?_
        cases refreshed with
        | error => trivial
        | ok refreshed =>
          obtain ⟨refreshed, terminal⟩ := refreshed
          cases terminal <;> trivial
  · trivial

/-- Giving up is quiet. -/
theorem finalizeUnknown_quiet : Quiet (finalizeUnknown P record now) := by
  unfold finalizeUnknown
  split
  · exact transitionProcessing_quiet
  · trivial

/-- Renewing is quiet. -/
theorem renew_quiet {expiresAt : Instant} : Quiet (renew record expiresAt) := by
  unfold renew
  split
  · refine quiet_perform rfl fun reply => ?_
    cases reply <;> trivial
  · trivial

/-! ## Completions -/

theorem loadAttemptForTerminalCompletion_quiet {deliveryId : DeliveryId} :
    Quiet (loadAttemptForTerminalCompletion deliveryId completion) := by
  refine quiet_read fun row => ?_
  cases row with
  | none => trivial
  | some =>
    simp only
    split <;> trivial

theorem completeAttemptBesideKnownTerminal_quiet :
    Quiet (completeAttemptBesideKnownTerminal record completion refreshed) := by
  unfold completeAttemptBesideKnownTerminal
  split
  · trivial
  · refine Quiet.andThen (loadAttemptForTerminalCompletion_quiet) fun attempt => ?_
    split
    · trivial
    · have hagain : Quiet ((loadAttemptForTerminalCompletion record.delivery.deliveryId
          completion).andThen fun current =>
            if current.outcome ≠ .started then pure (.ok ()) else pure (.error .other)) := by
        refine Quiet.andThen (loadAttemptForTerminalCompletion_quiet) fun current => ?_
        split <;> trivial
      refine quiet_perform rfl fun reply => ?_
      cases reply with
      | committed => trivial
      | cancelled reasons | unavailable => exact hagain

/-- Completing alone is quiet. -/
theorem completeBeside_quiet : Quiet (completeBeside P record completion) := by
  have hterm : Quiet (completeAttemptBesideTerminal P record completion) := by
    refine Quiet.andThen (refresh_quiet) fun (refreshed, terminal) => ?_
    cases terminal with
    | true => exact Quiet.andThen (completeAttemptBesideKnownTerminal_quiet) fun _ => trivial
    | false => trivial
  exact Quiet.andThen hterm fun _ => trivial

/-- A completer that is always quiet. -/
def QuietCompleter (completer : Completer) : Prop :=
  ∀ record completion, Quiet (completer record completion)

/-- Conflicts are quiet. -/
theorem completeAttemptConflicted_quiet {conflict : Bool} (hretried : QuietCompleter retried) :
    QuietCompleter (completeAttemptConflicted P conflict retried) := by
  intro record completion
  unfold completeAttemptConflicted
  split
  · refine Quiet.bind (Quiet.bind (refresh_quiet) fun refreshed => ?_) fun retryable => ?_
    · cases refreshed <;> trivial
    · split
      · exact hretried record completion
      · exact completeBeside_quiet
  · exact completeBeside_quiet

theorem refreshDelayedFeedbackCompletion_quiet :
    Quiet (refreshDelayedFeedbackCompletion P record completion) := by
  unfold refreshDelayedFeedbackCompletion
  split
  · trivial
  · refine quiet_read fun row => ?_
    cases row with
    | none => trivial
    | some =>
      simp only
      split
      · trivial
      · split <;> trivial

/-- Failures are quiet. -/
theorem completeAttemptFailed_quiet {conflict : Bool} (hmerged : QuietCompleter merged)
    (hretried : QuietCompleter retried) :
    QuietCompleter (completeAttemptFailed P merge conflict merged retried) := by
  intro record completion
  unfold completeAttemptFailed
  split
  · refine Quiet.andThen (refreshDelayedFeedbackCompletion_quiet) fun found => ?_
    cases found with
    | notApplicable => exact completeAttemptConflicted_quiet hretried record completion
    | terminal =>
      exact Quiet.andThen (completeAttemptBesideKnownTerminal_quiet) fun _ => trivial
    | current refreshed =>
      simp only
      split
      · exact hmerged refreshed completion
      · split
        · exact hretried record completion
        · exact completeAttemptConflicted_quiet hretried record completion
  · exact completeAttemptConflicted_quiet hretried record completion

/-- One try is quiet. -/
theorem completeAttemptOnce_quiet {withoutSuppression : Completer}
    (hwithout : QuietCompleter withoutSuppression) (hmerged : QuietCompleter merged)
    (hretried : QuietCompleter retried) :
    QuietCompleter (completeAttemptOnce P merge fence withoutSuppression merged retried) := by
  intro record completion
  unfold completeAttemptOnce
  split
  · trivial
  refine Quiet.andThen (recoveryDependencyOperation_quiet) fun recovery => ?_
  split
  · trivial
  refine quiet_perform rfl fun reply => ?_
  generalize (if completion.suppressTelegramDestination then
    some (2 + recovery.toList.length) else none) = index
  cases reply with
  | committed => trivial
  | cancelled reasons | unavailable =>
    simp only
    split
    · exact hwithout record completion
    · exact completeAttemptFailed_quiet hmerged hretried record completion

theorem noRetry_quiet : QuietCompleter noRetry := fun _ _ => trivial

theorem completeAttemptWith_quiet (hmerged : QuietCompleter merged)
    (hretried : QuietCompleter retried) :
    QuietCompleter (completeAttemptWith P merge fence merged retried) :=
  completeAttemptOnce_quiet
    (fun record _ => completeAttemptOnce_quiet noRetry_quiet hmerged hretried record _)
    hmerged hretried

/-- Completing is quiet. -/
theorem completeAttempt_quiet : QuietCompleter (completeAttempt P) := by
  have hmerged : QuietCompleter (completeMerged P) :=
    completeAttemptWith_quiet noRetry_quiet (completeAttemptWith_quiet noRetry_quiet noRetry_quiet)
  exact completeAttemptWith_quiet hmerged (completeAttemptWith_quiet hmerged noRetry_quiet)

/-! ## The processor, apart from attempts -/

/-- Deferring a claim is quiet. -/
theorem deferClaim_quiet {delay : Int} : Quiet (deferClaim P record now category delay) := by
  refine Quiet.bind (defer_quiet) fun result => ?_
  cases result <;> trivial

theorem deferNow_quiet : Quiet (deferNow P record category) :=
  quiet_perform rfl fun _ => deferClaim_quiet

/-- Planning is quiet. -/
theorem planFailure_quiet {category : SendErrorCategory} :
    Quiet (planFailure record category now) := by
  unfold planFailure
  split
  · exact quiet_perform rfl fun _ => trivial
  · trivial

/-- Refusals are quiet. -/
theorem handlePreflightFailure_quiet {failure : SenderFailure} :
    Quiet (handlePreflightFailure P record now failure) := by
  refine Quiet.bind (planFailure_quiet) fun plan => ?_
  cases plan with
  | none => exact deferClaim_quiet
  | some => exact Quiet.bind (completePreflightFailure_quiet) fun _ => trivial

/-- Interruptions are quiet. -/
theorem completeInterrupted_quiet : Quiet (completeInterrupted P record attemptId now) := by
  refine Quiet.bind ?_ fun delay => Quiet.bind (completeAttempt_quiet _ _) fun _ => trivial
  unfold interruptedDelay
  split
  · trivial
  · exact quiet_perform rfl fun _ => trivial

theorem persistCompletion_quiet {planned : AttemptCompletion × Decision} :
    Quiet (persistCompletion P record planned) :=
  Quiet.bind (completeAttempt_quiet _ _) fun _ => trivial

/-- Results are quiet. -/
theorem finishAttempt_quiet {result : SendResult} : Quiet (finishAttempt P record attemptId now result) := by
  unfold finishAttempt
  split
  · split
    · exact quiet_perform rfl fun _ => persistCompletion_quiet
    · exact persistCompletion_quiet
  · exact persistCompletion_quiet

/-- Denials are quiet. -/
theorem handleDenied_quiet {reason : Option CancellationReason} :
    Quiet (handleDenied P record reason) := by
  cases reason with
  | none => exact deferNow_quiet
  | some =>
    refine quiet_perform rfl fun now => Quiet.bind (cancel_quiet) fun result => ?_
    cases result <;> trivial

/-- Settling is quiet. -/
theorem handleExhausted_quiet : Quiet (handleExhausted P record) := by
  refine quiet_perform rfl fun now => Quiet.bind (finalizeUnknown_quiet) fun result => ?_
  cases result <;> trivial

/-! ## The one way to the provider -/

/-- A property that quiet steps do not affect. -/
structure Spine (Φ : Prog Decision → Prop) : Prop where
  quiet : ∀ {p : Prog Decision}, Quiet p → Φ p
  bind : ∀ {α : Type} {p : Prog α} {f : α → Prog Decision} {Q : α → Prop}, Quiet p →
    p.Returns Q → (∀ value, Q value → Φ (f value)) → Φ (p >>= f)

namespace Spine

variable {Φ : Prog Decision → Prop}
variable {config : ProcessorConfig}

/-- A quiet step whose result says nothing. -/
theorem step (h : Spine Φ) {f : α → Prog Decision} (hp : Quiet p) (hf : ∀ value, Φ (f value)) :
    Φ (p >>= f) :=
  h.bind hp (Program.Returns.trivial p) fun value _ => hf value

/-- An answer of the environment. -/
theorem ask (h : Spine Φ) (hop : op.quiet = true) {f : Reply op → Prog Decision}
    (hf : ∀ reply, Φ (f reply)) : Φ (Program.perform op >>= f) :=
  h.step ⟨hop, fun _ => trivial⟩ hf

theorem stopped (h : Spine Φ) {next : Prog Decision} (hnext : Φ next) :
    Φ (stopped P record next) := by
  refine h.ask rfl fun stop => ?_
  split
  · exact h.quiet (deferNow_quiet)
  · exact hnext

/-- The last steps before an attempt. -/
theorem fenced (h : Spine Φ) {fence : GateFence} {next : Prog Decision}
    (hnext : fence.isComplete = true → Φ next) :
    Φ (if fence.isComplete then do
        if ← contextErr then deferNow P record "lease_renewal_failed"
        else
          Notifications.stopped P record do
            if ← contextErr then deferNow P record "worker_context_cancelled"
            else next
      else Notifications.stopped P record (deferNow P record "invalid_gate")) := by
  split
  next hcomplete =>
    refine h.ask rfl fun failed => ?_
    split
    · exact h.quiet (deferNow_quiet)
    refine h.stopped (h.ask rfl fun failed => ?_)
    split
    · exact h.quiet (deferNow_quiet)
    · exact hnext hcomplete
  next => exact h.stopped (h.quiet (deferNow_quiet))

section

variable (h : Spine Φ)
  (hadm : ∀ request : SendRequest, request.delivery = record.delivery → Φ (handleAdmitted P config record request))
include h hadm

/-- From the gates on. -/
theorem handleSendable : Φ (handleSendable P config record) := by
  refine h.ask rfl fun failed => ?_
  split
  · exact h.quiet (deferNow_quiet)
  refine h.step (checkGates_harmless _ _).quiet fun gates => ?_
  cases gates with
  | error => exact h.quiet (deferNow_quiet)
  | ok gates =>
    cases gates with
    | denied => exact h.quiet (handleDenied_quiet)
    | allowed =>
      refine h.ask rfl fun attemptId => h.ask rfl fun checked => ?_
      cases checked with
      | some =>
        exact h.stopped
          (h.quiet (quiet_perform rfl fun _ => handlePreflightFailure_quiet))
      | none =>
        refine h.ask rfl fun wait => ?_
        cases wait with
        | acquired => exact hadm _ rfl
        | cancelled => exact h.quiet (deferNow_quiet)
        | rateLimited =>
          exact h.quiet (quiet_perform rfl fun _ => deferClaim_quiet)

/-- From the refresh on. -/
theorem handleRefreshed : Φ (handleRefreshed P config record) := by
  unfold Notifications.handleRefreshed
  split
  · exact h.quiet (handleExhausted_quiet)
  · split
    · exact h.quiet (quiet_perform rfl fun _ => handlePreflightFailure_quiet)
    · exact h.handleSendable hadm

end

/-- A worker is quiet up to its attempt. -/
theorem handle (h : Spine Φ) {message : QueueMessage}
    (hadm : ∀ (record : DeliveryRecord) (request : SendRequest),
      request.delivery = record.delivery → record.delivery.channel = message.job.channel →
      Φ (handleAdmitted P config record request)) : Φ (handle P config message) := by
  refine h.ask rfl fun claimTime => ?_
  refine h.bind (acquire_channel _ _).performs.1 (acquire_channel _ _).performs.2 fun result hres => ?_
  cases result with
  | error => exact h.quiet trivial
  | ok result =>
    cases result with
    | claimed record =>
      have hchan := hres _ rfl record rfl
      change Φ (handleClaimed P config record claimTime)
      unfold handleClaimed
      split
      · exact h.quiet trivial
      next hclaimed =>
        simp only [DeliveryRecord.wellClaimed, Bool.not_eq_true', Bool.not_eq_false,
          Bool.and_eq_true] at hclaimed
        have hid := DeliveryIdentity.deliveryId_of_valid
          (DeliverySnapshot.valid_iff.mp hclaimed.1.1.1.1).1
        have hnames : record.Names record.delivery.deliveryId := ⟨rfl, by rw [hid]⟩
        split
        · exact h.quiet (completeInterrupted_quiet)
        · split
          · refine h.bind (refresh_quiet) (refresh_channel _).performs.2 fun refreshed hrefreshed => ?_
            cases refreshed with
            | error => exact h.quiet (deferNow_quiet)
            | ok refreshed =>
              have hsame := hrefreshed _ rfl hnames
              obtain ⟨refreshed, terminal⟩ := refreshed
              cases terminal with
              | true => exact h.quiet trivial
              | false =>
                refine h.handleRefreshed fun request hreq => ?_
                refine hadm _ request hreq ?_
                rw [DeliveryRecord.noteDelayed_delivery]
                exact hsame.trans hchan
          · exact h.handleRefreshed fun request hreq => hadm _ request hreq hchan
    | _ => exact h.quiet trivial

end Spine

/-- Feedback is quiet. -/
theorem FeedbackOp.quiet (h : FeedbackOp event op) : op.quiet = true := by
  cases h <;> rfl

/-- Reconciling is quiet. -/
theorem reconcile_quiet {retention : Int} : Quiet (reconcile P retention event now) :=
  Program.Performs.mono (fun _ => FeedbackOp.quiet) (reconcile_cautious retention now).performs

/-! ## The relay -/

/-- Reloading is quiet. -/
theorem reload_quiet : Quiet (reload candidate relayTime) := by
  unfold reload
  split
  all_goals
    refine quiet_read fun row => ?_
    cases row <;> trivial

/-- Relay claims are quiet. -/
theorem relayClaim_quiet {lease : LeaseRequest} : Quiet (relayClaim work lease) := by
  unfold relayClaim
  split
  · trivial
  · split
    all_goals
      refine quiet_perform rfl fun reply => ?_
      cases reply <;> trivial

theorem retryResult_quiet {cause : StoreError} : Quiet (retryResult work relayTime cause category) := by
  have hreschedule : ∀ next, Quiet (reschedule work next) := by
    intro next
    unfold reschedule
    split
    · trivial
    · split
      · split <;> exact quiet_perform rfl fun _ => trivial
      · trivial
  refine Quiet.bind (hreschedule _) fun result => ?_
  cases result with
  | error => trivial
  | ok =>
    simp only
    split <;> trivial

/-- A page of new deliveries and fences is quiet. -/
theorem commitFanoutPage_quiet {work : Work}
    {deliveries : List (Delivery P)} {checks : List Item}
    {result : WorkResult} {next : Option Cursor}
    (hchecks : ∀ item ∈ checks, ∃ opening : DeliveryRow,
      item = .delivery opening.outboxId opening.deliveryId (.checkOpening opening)) :
    Quiet (commitFanoutPage work request deliveries checks result next) := by
  unfold commitFanoutPage
  split
  · trivial
  next mutations hmutations =>
    split
    · trivial
    split
    · trivial
    next outbox houtbox =>
      refine transactItems_quiet ?_
      obtain ⟨tenantId, outboxId, after, -, rfl⟩ := outboxMutation_item houtbox
      -- Only the first item tells.
      cases mutations with
      | cons =>
        obtain ⟨delivery, -, hfirst⟩ :=
          exists_of_forall₂ (mapM_forall₂ hmutations) List.mem_cons_self
        unfold deliveryMutation at hfirst
        simp only at hfirst
        split at hfirst
        · obtain ⟨index, -, rfl⟩ := Option.map_eq_some_iff.mp hfirst
          rfl
        · cases hfirst
          rfl
      | nil =>
        cases checks with
        | nil => rfl
        | cons first =>
          obtain ⟨opening, rfl⟩ := hchecks first List.mem_cons_self
          rfl

/-- Pages of openings are quiet. -/
theorem expandIntent_quiet : Quiet (expandIntent P work request) := by
  unfold expandIntent
  split
  next hadm =>
    refine Quiet.andThen (loadEvent_harmless work).quiet fun event => ?_
    split
    · trivial
    · refine quiet_perform rfl fun reply => ?_
      cases reply with
      | unavailable => trivial
      | page =>
        change Quiet (if _ then _ else _)
        split
        · refine Quiet.andThen (reads_quiet (examineAll_reads
            (examineMember_reads (expansionAdmitted_kind hadm)) _)) fun examined => ?_
          exact Quiet.andThen (commitFanoutPage_quiet fun _ h => nomatch h) fun _ => trivial
        · trivial
  next => trivial

/-- Pages of recoveries are quiet. -/
theorem expandDependency_quiet : Quiet (expandDependency P work request) := by
  unfold expandDependency
  split
  · trivial
  · split
    next hadm =>
      refine Quiet.andThen (requireExpandedOpening_harmless _ _ _).quiet fun _ => ?_
      refine quiet_perform rfl fun reply => ?_
      cases reply with
      | unavailable => trivial
      | page =>
        change Quiet (if _ then _ else _)
        split
        · refine Quiet.andThen (loadEvent_harmless work).quiet fun event => ?_
          split
          · trivial
          · refine Quiet.andThen (reads_quiet (examineAll_reads
              (examineOpening_reads (expansionAdmitted_kind hadm)) _)) fun examined => ?_
            refine Quiet.andThen (commitFanoutPage_quiet ?_) fun _ => trivial
            intro item hitem
            obtain ⟨opening, -, rfl⟩ := List.mem_map.mp hitem
            exact ⟨opening, rfl⟩
        · trivial
    next => trivial

/-- Publishing is quiet. -/
theorem publishDelivery_quiet : Quiet (publishDelivery work relayTime) := by
  unfold publishDelivery
  split
  · exact retryResult_quiet
  · split
    · exact retryResult_quiet
    · refine quiet_perform rfl fun reply => ?_
      cases reply with
      | none => exact retryResult_quiet
      | some =>
        refine Quiet.bind ?_ fun result => ?_
        · unfold markQueued
          split
          · split
            · exact quiet_perform rfl fun _ => trivial
            · trivial
          · trivial
        · cases result <;> trivial

/-- The relay is quiet. -/
theorem processCandidate_quiet {config : RelayConfig} :
    Quiet (processCandidate P config candidate) := by
  have hend : ∀ work category (result : Except StoreError WorkResult),
      Quiet (expansionResult work config.relayTime category result) := by
    intro work category result
    cases result with
    | ok => trivial
    | error => exact retryResult_quiet
  have hwork : ∀ work, Quiet (processWork P config work) := by
    intro work
    unfold processWork
    split
    · exact Quiet.bind (expandIntent_quiet) fun _ => hend _ _ _
    · exact Quiet.bind (expandDependency_quiet) fun _ => hend _ _ _
    · exact publishDelivery_quiet
  refine quiet_perform rfl fun begun => ?_
  split
  · trivial
  refine Quiet.bind (reload_quiet) fun found => ?_
  cases found with
  | error => trivial
  | ok found =>
    cases found with
    | none => trivial
    | some =>
      change Quiet (if _ then _ else _)
      split
      · trivial
      refine quiet_perform rfl fun now => ?_
      split
      · trivial
      refine Quiet.bind (relayClaim_quiet) fun claimed => ?_
      cases claimed with
      | error => trivial
      | ok claimed =>
        cases claimed with
        | none => trivial
        | some claimed => exact hwork claimed

end LimnoPulse.Notifications
