import LimnoPulse.Notifications.StoreSoundness

/-!
# The processor keeps the discipline

Main results:

- Theorem `handle_sound`: every write of a worker is justified, and a worker that
  decides to delete a message leaves its delivery in a terminal state.
-/

namespace LimnoPulse.Notifications

open CivilTime StoreProgram Discipline

variable {P : Platform} {α : Type}
variable {record : DeliveryRecord} {category attemptId : String} {s : Store} {now : Instant}
  {config : ProcessorConfig} {request : SendRequest}

/-- The program asks and reads only. -/
abbrev Harmless (p : Prog α) : Prop := p.Performs fun op => op.harmless = true

theorem getConsistent_harmless (key : Key) : Harmless (getConsistent key) := by
  refine ⟨rfl, ?_⟩
  intro reply
  cases reply <;> trivial

theorem readGate_harmless {key : Key} {gate : Option (Row key) → Except GateStop α}
    {next : α → Prog (Except StoreError GateResult)} (hnext : ∀ value, Harmless (next value)) :
    Harmless (readGate key gate next) := by
  refine Program.Performs.andThen (getConsistent_harmless key) ?_
  intro row
  split
  · trivial
  · trivial
  · exact hnext _

theorem readDeliverability_harmless {email : String}
    {next : List DeliverabilityDependency → Prog (Except StoreError GateResult)}
    (hnext : ∀ dependencies, Harmless (next dependencies)) :
    Harmless (readDeliverability P email next) := by
  unfold readDeliverability
  split
  · refine readGate_harmless fun dependency => ?_
    split
    · exact hnext _
    · exact readGate_harmless fun _ => hnext _
  · trivial

theorem checkGates_harmless (channel : Channel) (record : DeliveryRecord) :
    Harmless (checkGates P channel record) := by
  cases channel with
  | email =>
    refine readGate_harmless fun _ => readGate_harmless fun _ => readGate_harmless fun _ =>
      readDeliverability_harmless fun _ => ?_
    simp only
    split <;> trivial
  | telegram =>
    simp only [checkGates, checkTelegramGates]
    split
    · trivial
    · exact readGate_harmless fun _ => readGate_harmless fun _ => readGate_harmless fun _ =>
        readGate_harmless fun _ => readGate_harmless fun _ => trivial

/-- Who deletes leaves the delivery terminal. -/
def DecisionPost (record : DeliveryRecord) (decision : Decision) (s : Store) : Prop :=
  decision.action = .delete → record.Terminal s

/-- A retry says nothing. -/
theorem DecisionPost.retry (record : DeliveryRecord) (visibility : Int) (category : String)
    (s : Store) : DecisionPost record (.retry visibility category) s := by
  intro h
  cases h

/-- A decision that stands for a completion. -/
theorem DecisionPost.of_completion {next : DeliveryState} {decision : Decision}
    {result : Except StoreError Unit} (hdelete : decision.action = .delete → next.terminal = true)
    (hpost : CompletionPost record next result s) :
    DecisionPost record (decision.completed category result) s := by
  cases result with
  | ok => exact fun h => hpost.1 rfl (hdelete h)
  | error failed =>
    intro haction
    cases failed with
    | concurrentTerminal => exact hpost.2 rfl
    | conditional | retryAt | other =>
      simp only [Decision.completed, Decision.afterFailure] at haction
      split at haction
      next hfatal => exact absurd (hfatal.symm.trans haction) (by decide)
      next => cases haction

/-- Where the record is known and idle, the program is justified and decides rightly. -/
def Decides (P : Platform) (record : DeliveryRecord) (p : Prog Decision) : Prop :=
  ∀ ⦃s⦄, Idle record s → (discipline P).Sound (DecisionPost record) p s

/-- A harmless step first. -/
theorem Decides.perform {op : Op} (hop : op.harmless = true) {f : Reply op → Prog Decision}
    (h : ∀ reply, Decides P record (f reply)) : Decides P record (Program.perform op >>= f) :=
  fun _ hidle => sound_perform hop fun reply _ hu => h reply (hidle.mono hu)

/-- A claim is deferred. -/
theorem deferClaim_sound {delay : Int} :
    Decides P record (deferClaim P record now category delay) := by
  intro s hidle
  refine Sound.bind ?_ (defer_sound hidle)
  intro result t _ _
  cases result with
  | ok value | error failure => exact DecisionPost.retry _ _ _ _

theorem deferNow_sound : Decides P record (deferNow P record category) :=
  .perform rfl fun _ => deferClaim_sound

/-- A plan deletes only when the delivery fails for good. -/
theorem planDefinitiveFailure_some {category : SendErrorCategory} {fraction : Int}
    {plan : DefinitiveFailurePlan}
    (h : planDefinitiveFailure record category now fraction = some plan) :
    (plan.action = .delete → plan.nextState.terminal = true) ∧
      (plan.nextState = .permanentFailed → record.possiblyAccepted = false) := by
  unfold planDefinitiveFailure at h
  cases hdisposition : category.disposition <;> rw [hdisposition] at h <;> simp only at h
  · cases h
  · split at h
    · cases h
      exact ⟨by simp, by simp⟩
    next hacc =>
      cases h
      exact ⟨fun _ => rfl, fun _ => by simpa using hacc⟩
  · cases h
  · cases h
    exact ⟨by simp, by simp⟩
  · cases h

/-- A plan is right. -/
theorem planFailure_sound {category : SendErrorCategory} (s : Store) :
    (discipline P).Sound (fun plan _ => ∀ value, plan = some value →
        value.action = .delete → value.nextState.terminal = true)
      (planFailure record category now) s := by
  unfold planFailure
  split
  · exact sound_perform rfl fun _ _ _ value hvalue => (planDefinitiveFailure_some hvalue).1
  · exact fun value hvalue => (planDefinitiveFailure_some hvalue).1

/-- A failure before the call. -/
theorem handlePreflightFailure_sound {failure : SenderFailure} :
    Decides P record (handlePreflightFailure P record now failure) := by
  intro s hidle
  refine Sound.bind ?_ (planFailure_sound s)
  intro plan t ht hplan
  cases plan with
  | none => exact deferClaim_sound (hidle.mono ht)
  | some plan =>
    refine Sound.bind ?_ (completePreflightFailure_sound (hidle.mono ht))
    intro result u _ hres
    refine DecisionPost.of_completion ?_ hres
    exact hplan plan rfl

/-- Only Telegram deletes after an interruption, in doubt. -/
theorem interruptedDecision_post {delay : Int} {result : Except StoreError Unit}
    (h : CompletionPost record (interruptedCompletion record attemptId now delay).nextState
      result s) :
    DecisionPost record (interruptedDecision record.delivery.channel delay result) s := by
  cases result with
  | ok =>
    cases hchan : record.delivery.channel with
    | telegram =>
      refine fun _ => h.1 rfl ?_
      simp [interruptedCompletion, hchan, DeliveryState.terminal]
    | email => exact DecisionPost.retry _ _ _ _
  | error failure =>
    cases failure with
    | concurrentTerminal => exact fun _ => h.2 rfl
    | conditional | retryAt | other => exact DecisionPost.retry _ _ _ _

theorem completeInterrupted_sound (hknown : Known record s) :
    (discipline P).Sound (DecisionPost record) (completeInterrupted P record attemptId now) s := by
  have hdelay : (discipline P).Sound (fun _ _ => True) (interruptedDelay record) s := by
    unfold interruptedDelay
    split
    · trivial
    · exact sound_perform rfl fun _ _ _ => trivial
  refine Sound.bind ?_ hdelay
  intro delay t ht _
  have hnotFailed : (interruptedCompletion record attemptId now delay).nextState ≠
      .permanentFailed := by
    unfold interruptedCompletion
    cases record.delivery.channel <;> simp
  refine Sound.bind ?_
    (completeAttempt_sound record _ t (hknown.mono ht) (fun h => absurd h hnotFailed) ⟨.inl ?_, .inl ?_⟩)
  · intro result u _ hres
    exact interruptedDecision_post hres
  all_goals
    unfold interruptedCompletion
    cases record.delivery.channel <;> rfl

section

variable (record : DeliveryRecord) (attemptId : String) (now : Instant) (error : SendError)
  (fraction : Int)

/-- A failed call deletes only when the delivery has ended. -/
theorem failedCompletion_spec :
    ((failedCompletion record attemptId now error fraction).2.action = .delete →
      (failedCompletion record attemptId now error fraction).1.nextState.terminal = true) ∧
    ((failedCompletion record attemptId now error fraction).1.nextState = .permanentFailed →
      record.possiblyAccepted = false) := by
  have hdefinitive : ∀ plan, planDefinitiveFailure record error.category now fraction = some plan →
      (plan.action = .delete → plan.nextState.terminal = true) ∧
        (plan.nextState = .permanentFailed → record.possiblyAccepted = false) :=
    fun plan h => planDefinitiveFailure_some h
  unfold failedCompletion
  cases hdisposition : error.category.disposition with
  | permanent | fatal =>
    simp only
    split
    next plan hplan => exact hdefinitive plan hplan
    next => exact ⟨by simp [Decision.retry], by simp⟩
  | ambiguous =>
    simp only
    split
    · exact ⟨fun _ => rfl, by simp⟩
    · exact ⟨by simp [Decision.retry], by simp⟩
  | retryable | invalid =>
    simp only
    split
    · split
      · exact ⟨by simp [Decision.retry], by simp⟩
      next hacc => exact ⟨fun _ => rfl, fun _ => by simpa using hacc⟩
    · exact ⟨by simp [Decision.retry], by simp⟩

/-- A failed call contradicts no row. -/
theorem failedCompletion_compatible :
    (failedCompletion record attemptId now error fraction).1.Compatible record.providerAttemptId
      record.providerMessageId := by
  unfold failedCompletion
  repeat' split
  all_goals exact ⟨.inl rfl, .inl rfl⟩

end

/-- A completion is persisted. -/
theorem persistCompletion_sound {planned : AttemptCompletion × Decision} (hknown : Known record s)
    (hdelete : planned.2.action = .delete → planned.1.nextState.terminal = true)
    (hfailed : planned.1.nextState = .permanentFailed → record.possiblyAccepted = false)
    (hcompat : planned.1.Compatible record.providerAttemptId record.providerMessageId) :
    (discipline P).Sound (DecisionPost record) (persistCompletion P record planned) s := by
  refine Sound.bind ?_ (completeAttempt_sound record planned.1 s hknown hfailed hcompat)
  intro result t _ hres
  exact DecisionPost.of_completion hdelete hres

/-- An attempt is finished. -/
theorem finishAttempt_sound {result : SendResult} (hknown : Known record s)
    (hnew : record.providerAttemptId ≠ some attemptId) :
    (discipline P).Sound (DecisionPost record) (finishAttempt P record attemptId now result) s := by
  unfold finishAttempt
  split
  next error hout =>
    split
    · refine sound_perform rfl fun fraction u hu => ?_
      obtain ⟨hdelete, hfailed⟩ := failedCompletion_spec record attemptId now error fraction
      exact persistCompletion_sound (hknown.mono hu) hdelete hfailed
        (failedCompletion_compatible record attemptId now error fraction)
    · obtain ⟨hdelete, hfailed⟩ := failedCompletion_spec record attemptId now error 0
      exact persistCompletion_sound hknown hdelete hfailed
        (failedCompletion_compatible record attemptId now error 0)
  next providerMessageId hout =>
    exact persistCompletion_sound hknown (fun _ => rfl) (by simp [acceptedCompletion])
      ⟨.inr rfl, .inr (.inl hnew)⟩

/-- An attempt is made. -/
theorem attemptSend_sound {fence : GateFence} :
    Decides P record (attemptSend P config record request fence) := by
  refine .perform rfl fun startedAt s hidle => ?_
  refine Sound.bind ?_ (beginAttempt_sound hidle)
  intro result u hu hres
  cases result with
  | error => exact DecisionPost.retry _ _ _ _
  | ok begun =>
    obtain ⟨rfl, hbegun, hnew⟩ := hres begun rfl
    refine Sound.call (fun _ _ _ => .send request) ?_
    intro _ _ sent v _ _ _ _ hv
    refine sound_perform rfl fun completedAt w hw => ?_
    -- The begun record names the same delivery.
    exact finishAttempt_sound ((hbegun.mono hv).mono hw) hnew

/-! ## Handling a message -/

/-- The gates deny. -/
theorem handleDenied_sound {reason : Option CancellationReason} :
    Decides P record (handleDenied P record reason) := by
  cases reason with
  | none => exact deferNow_sound
  | some =>
    refine .perform rfl fun now s hidle => ?_
    refine Sound.bind ?_ (cancel_sound hidle)
    intro result u _ hres
    cases result with
    | ok value => exact fun _ => hres value rfl
    | error => exact DecisionPost.retry _ _ _ _

/-- The worker stops. -/
theorem stopped_sound {next : Prog Decision} (hnext : Decides P record next) :
    Decides P record (stopped P record next) := by
  refine .perform rfl fun failed => ?_
  split
  · exact deferNow_sound
  · exact hnext

/-- Go on with what the gates say. -/
theorem Decides.gates {channel : Channel} {f : Except StoreError GateResult → Prog Decision}
    (hf : ∀ gates, Decides P record (f gates)) :
    Decides P record (checkGates P channel record >>= f) := by
  intro s hidle
  refine Sound.bind ?_ (sound_of_harmless (checkGates_harmless channel record) s)
  intro gates t ht _
  exact hf gates (hidle.mono ht)

theorem handleAdmitted_sound : Decides P record (handleAdmitted P config record request) := by
  refine .perform rfl fun ended => ?_
  split
  · exact deferNow_sound
  refine .gates fun gates => ?_
  split
  · exact deferNow_sound
  · exact stopped_sound handleDenied_sound
  · split
    · refine .perform rfl fun ended' => ?_
      split
      · exact deferNow_sound
      refine stopped_sound (.perform rfl fun cancelled => ?_)
      split
      · exact deferNow_sound
      · exact attemptSend_sound
    · exact stopped_sound deferNow_sound

theorem handleLimited_sound : Decides P record (handleLimited P config record request) := by
  refine .perform rfl fun wait => ?_
  split
  · exact handleAdmitted_sound
  · exact deferNow_sound
  · exact .perform rfl fun now => deferClaim_sound

theorem handleSendable_sound : Decides P record (handleSendable P config record) := by
  refine .perform rfl fun ended => ?_
  split
  · exact deferNow_sound
  refine .gates fun gates => ?_
  split
  · exact deferNow_sound
  · exact handleDenied_sound
  · refine .perform rfl fun attemptId => ?_
    refine .perform rfl fun failure => ?_
    split
    · exact stopped_sound (.perform rfl fun now => handlePreflightFailure_sound)
    · exact handleLimited_sound

/-- No attempts are left. -/
theorem handleExhausted_sound : Decides P record (handleExhausted P record) := by
  refine .perform rfl fun now s hidle => ?_
  refine Sound.bind ?_ (finalizeUnknown_sound hidle)
  intro result u _ hres
  cases result with
  | ok value => exact fun _ => hres value rfl
  | error => exact DecisionPost.retry _ _ _ _

theorem handleRefreshed_sound : Decides P record (handleRefreshed P config record) := by
  unfold handleRefreshed
  split
  · exact handleExhausted_sound
  split
  · exact .perform rfl fun now => handlePreflightFailure_sound
  · exact handleSendable_sound

theorem DeliveryRecord.noteDelayed_delivery (record : DeliveryRecord) :
    record.noteDelayed.delivery = record.delivery := by
  unfold DeliveryRecord.noteDelayed
  split <;> rfl

theorem DeliveryRecord.noteDelayed_lastAttemptId (record : DeliveryRecord) :
    record.noteDelayed.lastAttemptId = record.lastAttemptId := by
  unfold DeliveryRecord.noteDelayed
  split <;> rfl

/-- Noting a delay is only more cautious. -/
theorem Idle.noteDelayed (h : Idle record s) : Idle record.noteDelayed s where
  known := by
    unfold DeliveryRecord.noteDelayed
    split
    · obtain ⟨row, hseen, htells⟩ := h.known
      exact ⟨row, hseen, { htells with possiblyAccepted := fun _ => rfl }⟩
    · exact h.known
  settled := by
    intro attemptId hlast
    rw [record.noteDelayed_lastAttemptId] at hlast
    rw [record.noteDelayed_delivery]
    exact h.settled attemptId hlast

theorem handleClaimed_sound {claimTime : Instant} (hknown : Known record s)
    (hsettled : record.startedAttemptId = none → record.Settled s) :
    (discipline P).Sound (DecisionPost record) (handleClaimed P config record claimTime) s := by
  unfold handleClaimed
  split
  · exact DecisionPost.retry _ _ _ _
  split
  · exact completeInterrupted_sound hknown
  next hnone =>
  have hidle : Idle record s := ⟨hknown, hsettled hnone⟩
  split
  · refine Sound.bind ?_ (refresh_sound record s).soundOk
    intro result t ht hres
    cases result with
    | error => exact deferNow_sound (hidle.mono ht)
    | ok refreshed =>
      obtain ⟨refreshed, terminal⟩ := refreshed
      obtain ⟨hrefreshed, hkey, hterm, hlast⟩ := hres _ rfl
      cases terminal with
      | true => exact fun _ => (hterm rfl).2
      | false =>
        have hidle' : Idle refreshed t :=
          ⟨hrefreshed, (hidle.mono ht).settled.of_same hkey (hlast rfl (hknown.mono ht))⟩
        refine Sound.mono ?_ (handleRefreshed_sound hidle'.noteDelayed)
        intro decision u _ hpost hdelete
        refine (hpost hdelete).of_sameKey ?_
        rw [DeliveryRecord.SameKey, DeliveryRecord.noteDelayed_delivery]
        exact hkey
  · exact handleRefreshed_sound hidle

/-- Writes are justified, and only messages of terminal deliveries deleted. -/
theorem handle_sound {message : QueueMessage} (hpub : Published message.job s) :
    (discipline P).Sound (fun decision t => decision.action = .delete → TerminalAt message.job t)
      (handle P config message) s := by
  refine sound_perform rfl fun claimTime t ht => ?_
  refine Sound.bind ?_ (acquire_sound (hpub.mono ht))
  intro result u _ hres
  cases result with
  | error => exact fun h => by cases h
  | ok acquired =>
    have hestablished := hres acquired rfl
    cases acquired with
    | terminal => exact fun _ => hestablished
    | deferred retryAfter | awaitDlq => exact fun h => by cases h
    | claimed =>
      obtain ⟨hknown, hanswers, hsettled⟩ := hestablished
      refine Sound.mono ?_ (handleClaimed_sound hknown hsettled)
      intro decision v _ hpost hdelete
      obtain ⟨row, hrow, hterm⟩ := hpost hdelete
      exact ⟨row, by rw [← hanswers.outboxId, ← hanswers.deliveryId]; exact hrow, hterm⟩

end LimnoPulse.Notifications
