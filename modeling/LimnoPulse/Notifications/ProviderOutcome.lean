import LimnoPulse.Notifications.RelaySoundness

/-!
# What attempts remember of the provider

Feedback merges the outcomes of an attempt by rank.  A worker's completion writes the
outcome it was answered with, whatever feedback has written since the call.

Main results:

- Theorem `provider_outcome_progress`: an attempt keeps its message, and its outcome
  loses rank only when a worker completes an attempt that feedback has called delayed.
- Theorem `provider_outcome_rank_falls`: a run in which that happens.
-/

namespace LimnoPulse.Notifications

open CivilTime StoreProgram

variable {P : Platform} {attempt : AttemptRow} {event : FeedbackEvent}

/-! ## One update -/

/-- An open attempt is accepted after it was called delayed. -/
def AttemptRow.AcceptedLate (before after : AttemptRow) : Prop :=
  before.outcome = .started ∧ before.providerOutcome = some .delayed ∧
    after.outcome = .succeeded ∧ after.providerOutcome = some .accepted

/-- What stays of an attempt. -/
structure AttemptRow.Progresses (before after : AttemptRow) : Prop where
  message : ∀ messageId, before.providerMessageId = some messageId →
    after.providerMessageId = some messageId
  rank : optionalRank before.providerOutcome ≤ optionalRank after.providerOutcome ∨
    before.AcceptedLate after

theorem AttemptRow.Progresses.refl (row : AttemptRow) : row.Progresses row :=
  ⟨fun _ h => h, .inl (Nat.le_refl _)⟩

/-- Feedback leaves an attempt open only as delayed. -/
def AttemptRow.Unreported (row : AttemptRow) : Prop :=
  row.outcome = .started → row.providerOutcome = none ∨ row.providerOutcome = some .delayed

/-- A completion raises the rank, unless called delayed. -/
theorem AttemptRow.progresses_completed {row : DeliveryRow} {attempts : Attempts}
    {completion : AttemptCompletion} (hfits : row.Fits attempts)
    (hatt : attempts completion.attemptId = some attempt) (hstart : attempt.outcome = .started)
    (hunreported : attempt.Unreported)
    (hcompat : completion.Compatible row.providerAttemptId row.providerMessageId)
    (hvalid : validateCompletion completion = true) :
    attempt.Progresses (attempt.completed completion) where
  message := by
    intro messageId hmsg
    -- The delivery names the message of an open attempt.
    have howner := (hfits.started hatt hstart).2 (by rw [hmsg]; rfl)
    obtain ⟨-, owner, howner', hsame⟩ := hfits.owner howner
    cases hatt.symm.trans howner'
    rcases hcompat.message with hnone | hne | heq
    · simp [AttemptRow.completed, hnone, hmsg]
    · exact absurd howner hne
    · simp [AttemptRow.completed, ← heq, ← hsame, hmsg]
  rank := by
    rcases hcompat.reports with hnone | hsucc
    · left
      simp [AttemptRow.completed, hnone]
    · obtain ⟨-, -, hacc⟩ := (validateCompletion_cases hvalid).resolve_right fun h => h.1 hsucc
      rcases hunreported hstart with hnone | hdelayed
      · left
        simp [AttemptRow.completed, hnone, optionalRank]
      · right
        exact ⟨hstart, hdelayed, hsucc, by simp [AttemptRow.completed, hacc]⟩

/-- Feedback keeps the message and never lowers the rank. -/
theorem AttemptRow.progresses_reported {attempt' : AttemptRow}
    (h : DeliveryRow.Fits.Reported event attempt attempt') : attempt.Progresses attempt' where
  message messageId hmsg := by
    rw [h.message, h.associated messageId hmsg]
  rank := by
    left
    rw [h.providerOutcome]
    exact reconcileProviderOutcome_rank attempt.providerOutcome event.providerOutcome

/-- An event that leaves an attempt open calls it delayed. -/
theorem FeedbackEvent.delayed_of_open (hvalid : event.valid = true)
    (hopen : nextAttemptOutcome .started event = .started) : event.providerOutcome = .delayed := by
  simp only [FeedbackEvent.valid, FeedbackEvent.validateSemantics, Bool.and_eq_true,
    decide_eq_true_eq] at hvalid
  obtain ⟨-, ⟨⟨hevent, hacc⟩, hfailure⟩, -⟩ := hvalid
  rw [hevent]
  simp only [nextAttemptOutcome, hfailure, hacc, FeedbackEvent.completesAttempt] at hopen
  revert hopen
  cases event.semanticType <;> decide

/-- What is open after feedback was called delayed. -/
theorem AttemptRow.unreported_reported {attempt' : AttemptRow}
    (hvalid : event.valid = true) (h : DeliveryRow.Fits.Reported event attempt attempt')
    (hunreported : attempt.Unreported) : attempt'.Unreported := by
  intro hopen
  rw [h.outcome] at hopen
  have hstart := DeliveryRow.Fits.nextAttemptOutcome_started hopen
  rw [hstart] at hopen
  right
  rw [h.providerOutcome, FeedbackEvent.delayed_of_open hvalid hopen]
  rcases hunreported hstart with hnone | hagain
  · rw [hnone]
    rfl
  · rw [hagain]
    rfl

/-- Every attempt stays and progresses. -/
def AttemptsProgress (s t : Store) : Prop :=
  ∀ deliveryId attemptId attempt, s.attempt deliveryId attemptId = some attempt →
    ∃ attempt', t.attempt deliveryId attemptId = some attempt' ∧ attempt.Progresses attempt'

/-- Feedback has reported no open attempt but as delayed. -/
def OpenUnreported (s : Store) : Prop :=
  ∀ {deliveryId attemptId attempt}, s.attempt deliveryId attemptId = some attempt →
    attempt.Unreported

section Exec

variable {op : Op} {outcome : Outcome} {s t : Store} {reply : Reply op}

/-- What a step does to an attempt. -/
theorem DeliveryStep.progresses {items : List Item} {outboxId : OutboxId} {deliveryId : DeliveryId}
    {row row' : DeliveryRow} {attemptId : String}
    (h : DeliveryStep P s t items outboxId deliveryId row row')
    (hfits : row.Fits (s.attempt deliveryId))
    (hatt : s.attempt deliveryId attemptId = some attempt) (hopen : attempt.Unreported) :
    ∃ attempt', t.attempt deliveryId attemptId = some attempt' ∧ attempt.Progresses attempt' ∧
      attempt'.Unreported := by
  -- The other attempts of the delivery stay as they are.
  have hstays : t.attempt deliveryId attemptId = s.attempt deliveryId attemptId →
      ∃ attempt', t.attempt deliveryId attemptId = some attempt' ∧ attempt.Progresses attempt' ∧
        attempt'.Unreported :=
    fun hsame => ⟨attempt, hsame.trans hatt, .refl attempt, hopen⟩
  have hreplaces : ∀ {id new}, Attempts.Replaced (s.attempt deliveryId) (t.attempt deliveryId) id new →
      (attemptId = id → attempt.Progresses new ∧ new.Unreported) →
      ∃ attempt', t.attempt deliveryId attemptId = some attempt' ∧ attempt.Progresses attempt' ∧
        attempt'.Unreported := by
    intro id new hrepl hnew
    by_cases heq : attemptId = id
    · exact ⟨new, heq ▸ hrepl.self, hnew heq⟩
    · exact hstays (hrepl.other heq)
  cases h with
  | kept hattempts | moved update hattempts => exact hstays (congrFun hattempts attemptId)
  | begun record request htells hmem hsettled hid hstate hvalid hnone hrow' hrepl =>
    refine hstays (hrepl.other ?_)
    rintro rfl
    cases hnone.symm.trans hatt
  | completed _ completion written _ hvalid _ _ hwritten hstart hcompat _ hrepl
  | completedBeside completion written hvalid _ hwritten hstart hcompat _ hrepl =>
    refine hreplaces hrepl ?_
    rintro rfl
    cases hatt.symm.trans hwritten
    exact ⟨AttemptRow.progresses_completed hfits hatt hstart hopen hcompat hvalid,
      fun hagain => absurd hagain (validateCompletion_outcome hvalid)⟩
  | reported event written written' _ _ _ hvalid _ hwritten hrep _ _ _ hrepl
  | reportedBeside event written written' hvalid hwritten hrep _ _ hrepl =>
    refine hreplaces hrepl ?_
    rintro rfl
    cases hatt.symm.trans hwritten
    exact ⟨AttemptRow.progresses_reported hrep, AttemptRow.unreported_reported hvalid hrep hopen⟩

section

variable (hbase : Base P s) (hopen : OpenUnreported s) (hjust : Justified P s op)
  (h : exec P op outcome s = some (reply, t))
include hbase hopen hjust h

/-- An operation lets the outcome of an attempt progress. -/
theorem exec_attempt_progresses {deliveryId : DeliveryId} {attemptId : String}
    (hatt : s.attempt deliveryId attemptId = some attempt) :
    ∃ attempt', t.attempt deliveryId attemptId = some attempt' ∧ attempt.Progresses attempt' ∧
      attempt'.Unreported := by
  obtain ⟨row, hrow⟩ := hbase.attempted hatt
  obtain ⟨row', hrow', -⟩ := (exec_evolves (hjust.wellFormed hbase) h).delivery hrow
  exact (hbase.exec_step hjust h hrow hrow').progresses (hbase.fits hrow) hatt
    (hopen hatt)

/-- An operation lets all attempts progress. -/
theorem exec_attemptsProgress :
    AttemptsProgress s t := by
  intro deliveryId attemptId attempt hatt
  obtain ⟨attempt', hatt', hprogress, -⟩ := exec_attempt_progresses hbase hopen hjust h hatt
  exact ⟨attempt', hatt', hprogress⟩

end

/-- Open attempts have no final report. -/
theorem OpenUnreported.exec (hopen : OpenUnreported s) (hbase : Base P s)
    (hjust : Justified P s op) (h : exec P op outcome s = some (reply, t)) :
    OpenUnreported t := by
  intro deliveryId attemptId attempt hatt
  cases hbefore : s.attempt deliveryId attemptId with
  | some =>
    obtain ⟨attempt', hatt', -, hunreported⟩ := exec_attempt_progresses hbase hopen hjust h hbefore
    cases hatt.symm.trans hatt'
    exact hunreported
  | none =>
    obtain ⟨record, request, -, -, -, rfl⟩ := exec_attempt_new hjust h hbefore hatt
    exact fun _ => .inl rfl

end Exec

/-! ## Runs -/

/-- Nothing is open. -/
theorem Store.Fresh.openUnreported {s : Store} (h : s.Fresh) : OpenUnreported s := by
  intro deliveryId attemptId attempt hatt
  rw [h.attempt] at hatt
  cases hatt

/-- Over every run, the message of an attempt never changes, and the rank of its outcome
falls only when a worker completes an open attempt with the acceptance of the provider
after feedback has called it delayed. -/
theorem provider_outcome_progress {s : Store} {as : List (Action Outcome Call)}
    {w : World Store Call CallResult Op Reply} (hfresh : s.Fresh)
    (hrun : (notificationMachine P).run (Machine.initial s) as = some w) :
    (notificationMachine P).EveryStep AttemptsProgress (Machine.initial s) as := by
  obtain ⟨hguarded, -, -⟩ := run_disciplined hfresh.base hrun
  obtain ⟨hopen, -⟩ := hguarded.kept (I := OpenUnreported)
    (fun _ _ _ _ _ hopen h hexec => hopen.exec h.1 h.2 hexec) hfresh.openUnreported hrun
  refine hopen.everyStep ?_ ?_ hrun
  · exact fun s _ _ attempt hattempt => ⟨attempt, hattempt, .refl attempt⟩
  · exact fun _ _ _ _ _ h hexec => exec_attemptsProgress h.2.1 h.1 h.2.2 hexec

namespace OneRecipient

/-- The provider has not handed the message over yet. -/
def delay : FeedbackEvent :=
  { eventBridgeId := "b1", providerMessageId := "p1", deliveryId := deliveryId .opening
    attemptId := "a1", semanticType := .deliveryDelay, providerOutcome := .delayed
    suppressionReason := none, permanentFailure := false, acceptedEvidence := true }

/-- An accepted attempt is reported delayed before it is recorded. -/
def reportedDelayed : List (Action Outcome Call) :=
  published ++ handled 3 22 { now := 3, text := "a1", send := .accepted "p1" } ++
    performed 4 (.reconcile defaultTransportRetention delay) 6 { now := 4 }

/-- The worker records the answer. -/
def recordedLate : List (Action Outcome Call) :=
  List.replicate 6 (.step 3 { now := 5 })

/-- The first attempt. -/
def attemptOf (w : World Store Call CallResult Op Reply) : Option AttemptRow :=
  w.store.attempt (deliveryId .opening) "a1"

end OneRecipient

open OneRecipient

/-- The attempt that is recorded late. -/
theorem provider_outcome_progress_of_late : ∃ w,
    machine.run initial
        (reportedDelayed ++ recordedLate) = some w ∧
      (attemptOf w).map (·.providerOutcome) = some (some .accepted) ∧
      machine.EveryStep AttemptsProgress initial
        (reportedDelayed ++ recordedLate) := by
  have hfinal : (machine.run initial
      (reportedDelayed ++ recordedLate)).map (fun w =>
        (attemptOf w).map (·.providerOutcome)) = some (some (some .accepted)) := by
    decide +kernel
  obtain ⟨w, hrun, houtcome⟩ := Option.map_eq_some_iff.mp hfinal
  exact ⟨w, hrun, houtcome, provider_outcome_progress store_fresh hrun⟩

/-- The acceptance is written over a reported delay: the rank falls. -/
theorem provider_outcome_rank_falls : ∃ w w' before after,
    machine.run initial reportedDelayed = some w ∧ machine.run w recordedLate = some w' ∧
      attemptOf w = some before ∧ attemptOf w' = some after ∧
      optionalRank after.providerOutcome < optionalRank before.providerOutcome := by
  have hruns : ((machine.run initial reportedDelayed).bind
      fun w => (machine.run w recordedLate).bind fun w' =>
        (attemptOf w).bind fun before => (attemptOf w').map fun after =>
          decide (optionalRank after.providerOutcome < optionalRank before.providerOutcome)) =
      some true := by
    decide +kernel
  obtain ⟨w, hw, hrest⟩ := Option.bind_eq_some_iff.mp hruns
  obtain ⟨w', hw', hrest⟩ := Option.bind_eq_some_iff.mp hrest
  obtain ⟨before, hbefore, hrest⟩ := Option.bind_eq_some_iff.mp hrest
  obtain ⟨after, hafter, hrank⟩ := Option.map_eq_some_iff.mp hrest
  exact ⟨w, w', before, after, hw, hw', hbefore, hafter, of_decide_eq_true hrank⟩

end LimnoPulse.Notifications
