import LimnoPulse.Library.Tokens
import LimnoPulse.Notifications.Attempts
import LimnoPulse.Notifications.Quiet

/-!
# Calls of the provider

A provider call needs an attempt row, and the one worker whose transaction put the row
may make the call, once.  As the rows are counted on the delivery, so are the calls.

Main results:

- Definition `attemptTokens`: the right to call the provider for an attempt.
- Theorem `provider_calls_bounded`: how often the provider is called for a
  delivery.
-/

namespace LimnoPulse.Notifications

open CivilTime StoreProgram

variable {P : Platform} {α β : Type} {op : Op} {outcome : Outcome} {s t : Store} {p : Prog α}
  {config : ProcessorConfig} {record : DeliveryRecord} {request : SendRequest}

/-- A committed start of an attempt grants the call. -/
def callGrant : (op : Op) → Reply op → Option (DeliveryId × String)
  | .transact (.delivery _ _ (.beginAttempt _ _) :: .attempt deliveryId attemptId (.put _) :: _),
      .committed => some (deliveryId, attemptId)
  | _, _ => none

/-- A provider call spends the grant of its attempt. -/
def callSpent : Op → Option (DeliveryId × String)
  | .send request => some (request.delivery.deliveryId, request.attemptId)
  | _ => none

/-- Others call no provider. -/
@[simp]
theorem Store.edit_sends (s : Store) (change : Edit) : (s.edit change).sends = s.sends := by
  cases change with
  | createOutbox =>
    simp only [Store.edit]
    split <;> rfl
  | _ => rfl

/-- A new attempt gives the right. -/
theorem callGrant_exec {reply : Reply op}
    {token : DeliveryId × String} (h : exec P op outcome s = some (reply, t))
    (hgrant : callGrant op reply = some token) :
    ¬ (s.attempt token.1 token.2).isSome = true ∧ (t.attempt token.1 token.2).isSome = true := by
  unfold callGrant at hgrant
  split at hgrant
  next outboxId delivery record request deliveryId attemptId row rest =>
    cases hgrant
    rcases transact_committed (Option.some.inj h) with ⟨-, hreply⟩ | ⟨hcommit, -⟩
    · exact absurd rfl hreply
    · obtain ⟨hcond, heff⟩ := hcommit.mem_attempt (List.mem_cons_of_mem _ List.mem_cons_self)
      cases hold : s.attempt deliveryId attemptId with
      | none =>
        rw [hold] at heff
        exact ⟨by simp, by rw [heff]; rfl⟩
      | some =>
        rw [hold] at hcond
        cases hcond
  next => cases hgrant

/-- A call uses it. -/
theorem callSpent_exec {reply : Reply op} (h : exec P op outcome s = some (reply, t)) :
    t.sends = s.sends ++ (callSpent op).toList := by
  cases op with
  | send =>
    cases h
    rfl
  | edit =>
    cases h
    simp [callSpent]
  | _ =>
    rcases exec_cases h with rfl | hcommit | ⟨job, messageId, -, rfl⟩ | ⟨position, -, rfl⟩ |
      ⟨request, heq, -⟩ | ⟨change, heq, -⟩
    · simp [callSpent]
    · rw [hcommit.sends]
      simp [callSpent]
    · simp [callSpent]
    · simp [callSpent, Store.markMessage]
    · cases heq
    · cases heq

/-- The right to call the provider for an attempt. -/
def attemptTokens (P : Platform) : Tokens (notificationMachine P) (DeliveryId × String) where
  grants := callGrant
  spends := callSpent
  issued s token := (s.attempt token.1 token.2).isSome = true
  spent := Store.sends
  issued_exec h hissued := exec_attempt_isSome h hissued
  grants_exec := callGrant_exec
  spent_exec := callSpent_exec

/-! ## Programs -/

/-- The program calls the provider only if it may. -/
def CallsOnce (P : Platform) (p : Prog α) : Prop :=
  ∀ hold, (attemptTokens P).Linear (fun _ _ => True) p hold

/-- Quiet programs do not call. -/
theorem Quiet.callsOnce (h : Quiet p) {Q : α → Prop} (hret : p.Returns Q)
    (hold : Option (DeliveryId × String)) :
    (attemptTokens P).Linear (fun result _ => Q result) p hold := by
  refine Tokens.Linear.of_performs (Program.Performs.mono ?_ h) hret
  intro op hop
  cases op <;> first | rfl | cases hop

theorem callsOnce_of_quiet (h : Quiet p) : CallsOnce P p :=
  fun hold => h.callsOnce (Program.Returns.trivial p) hold

/-- Only the attempt matters. -/
theorem callsOnce_spine : Spine (CallsOnce P) where
  quiet := callsOnce_of_quiet
  bind hp hret hf hold :=
    Tokens.Linear.bind (fun value hold' hvalue => hf value hvalue hold')
      (hp.callsOnce hret hold)

/-- Who has started an attempt may call. -/
theorem beginAttempt_grants (record : DeliveryRecord) (request : BeginAttemptRequest)
    (hold : Option (DeliveryId × String)) :
    (attemptTokens P).Linear (fun result hold => ∀ begun, result = .ok begun →
      hold = some (record.delivery.deliveryId, request.attemptId))
      (beginAttempt record request) hold := by
  unfold beginAttempt
  split
  · refine ⟨fun _ hspent => (by cases hspent), fun reply => ?_⟩
    cases reply with
    | committed => exact fun _ _ => rfl
    | cancelled reasons | unavailable => rintro _ ⟨⟩
  · rintro _ ⟨⟩

/-- An attempt calls once. -/
theorem attemptSend_callsOnce {fence : GateFence} (hreq : request.delivery = record.delivery) :
    CallsOnce P (attemptSend P config record request fence) := by
  refine callsOnce_spine.ask rfl fun startedAt hold => ?_
  refine Tokens.Linear.bind ?_ (beginAttempt_grants record _ hold)
  intro result hold' hres
  cases result with
  | error => trivial
  | ok begun =>
    refine ⟨fun token htoken => ?_, fun reply => ?_⟩
    · cases htoken
      rw [hres begun rfl, hreq]
    · exact callsOnce_of_quiet (quiet_perform rfl fun _ => finishAttempt_quiet) _

theorem handleAdmitted_callsOnce (hreq : request.delivery = record.delivery) :
    CallsOnce P (handleAdmitted P config record request) := by
  refine callsOnce_spine.ask rfl fun failed => ?_
  split
  · exact callsOnce_of_quiet (deferNow_quiet)
  refine callsOnce_spine.step (checkGates_harmless _ _).quiet fun gates => ?_
  cases gates with
  | error => exact callsOnce_of_quiet (deferNow_quiet)
  | ok gates =>
    cases gates with
    | denied => exact callsOnce_spine.stopped (callsOnce_of_quiet (handleDenied_quiet))
    | allowed =>
      refine callsOnce_spine.fenced fun _ => ?_
      exact attemptSend_callsOnce hreq

/-- Every call spends only what it was granted. -/
theorem callBody_callsOnce (call : Call) : CallsOnce P (callBody P call) := by
  cases call with
  | handle config position message =>
    intro hold
    have hhandle : CallsOnce P (handle P config message) :=
      callsOnce_spine.handle fun _ _ hreq _ => handleAdmitted_callsOnce hreq
    refine Tokens.Linear.bind ?_ (hhandle hold)
    intro decision hold' _
    change (attemptTokens P).Linear _ (if _ then _ else _) _
    split
    · exact ⟨fun _ hspent => (by cases hspent), fun _ => trivial⟩
    · trivial
  | renew =>
    refine callsOnce_of_quiet (Quiet.bind (renew_quiet) ?_)
    exact fun _ => trivial
  | reconcile =>
    refine callsOnce_of_quiet (quiet_perform rfl fun _ => Quiet.bind (reconcile_quiet) ?_)
    exact fun _ => trivial
  | relay =>
    refine callsOnce_of_quiet (Quiet.bind (processCandidate_quiet) ?_)
    exact fun _ => trivial
  | edit => exact callsOnce_of_quiet ⟨rfl, fun _ => trivial⟩

/-- The provider calls for a delivery. -/
def Store.sendsOf (s : Store) (deliveryId : DeliveryId) : List (DeliveryId × String) :=
  s.sends.filter fun call => call.1 = deliveryId

/-- One call for each attempt at most. -/
theorem Store.sendsOf_length_le (hnodup : s.sends.Nodup)
    (hatt : ∀ call ∈ s.sends, (s.attempt call.1 call.2).isSome = true) (deliveryId : DeliveryId) :
    (s.sendsOf deliveryId).length ≤ (s.attemptIds deliveryId).length := by
  have hof : ∀ call ∈ s.sendsOf deliveryId, call ∈ s.sends ∧ call.1 = deliveryId := by
    intro call hcall
    simpa [sendsOf] using hcall
  have hsub : ((s.sendsOf deliveryId).map Prod.snd).Nodup := by
    refine List.Nodup.map_on ?_ (hnodup.filter _)
    intro a ha b hb heq
    exact Prod.ext ((hof a ha).2.trans (hof b hb).2.symm) heq
  have hids : (s.sendsOf deliveryId).map Prod.snd ⊆ s.attemptIds deliveryId := by
    intro attemptId hmem
    obtain ⟨call, hcall, rfl⟩ := List.mem_map.mp hmem
    obtain ⟨hsent, rfl⟩ := hof call hcall
    exact Store.mem_attemptIds.mpr (hatt call hsent)
  have hle := (hsub.subperm hids).length_le
  rwa [List.length_map] at hle

/-- In every run the provider is called for a delivery as often as its attempts were
counted, at most, and never more than the limit allows.  The count is the number of the
delivery's attempt rows, and for every one of them there is one call at most. -/
theorem provider_calls_bounded {s : Store} {as : List (Action Outcome Call)}
    {w : World Store Call CallResult Op Reply} (hfresh : s.Fresh)
    (hrun : (notificationMachine P).run (Machine.initial s) as = some w) :
    (∀ deliveryId, (w.store.sendsOf deliveryId).length ≤ maxProviderCalls) ∧
      (∀ outboxId deliveryId row, w.store.delivery outboxId deliveryId = some row →
        (w.store.sendsOf deliveryId).length ≤ row.attemptCount.getD 0 ∧
          row.attemptCount.getD 0 = (w.store.attemptIds deliveryId).length) ∧
      w.store.sends.Nodup ∧
      ∀ call ∈ w.store.sends, (w.store.attempt call.1 call.2).isSome = true := by
  have hinitial : (attemptTokens P).Fair (fun _ => none) (Machine.initial s) := by
    refine ⟨?_, fun _ _ => rfl, ?_, ?_, ?_, ?_⟩
    · rintro i p ⟨⟩
    · rintro i k ⟨⟩
    · rintro i j k ⟨⟩
    · change s.sends.Nodup
      rw [hfresh.sends]
      exact List.nodup_nil
    · change ∀ k ∈ s.sends, _
      rw [hfresh.sends]
      intro k hk
      cases hk
  obtain ⟨hold, hfair⟩ := Tokens.fair_run (fun c => callBody_callsOnce c none) hinitial hrun
  obtain ⟨hguarded, -, -⟩ := run_disciplined hfresh.base hrun
  have hcounted : AttemptsCounted w.store :=
    (hguarded.kept (fun _ _ _ _ _ hcounted h hexec => hcounted.exec h.1 h.2 hexec)
      hfresh.attemptsCounted hrun).2
  have hle := Store.sendsOf_length_le hfair.nodup hfair.granted
  refine ⟨?_, ?_, hfair.nodup, hfair.granted⟩
  · intro deliveryId
    cases hsends : w.store.sendsOf deliveryId with
    | nil => exact Nat.zero_le _
    | cons call =>
      -- There is a call, so there is an attempt and a delivery that counts it.
      have hcall : call ∈ w.store.sendsOf deliveryId := hsends ▸ List.mem_cons_self
      simp only [Store.sendsOf, List.mem_filter, decide_eq_true_eq] at hcall
      obtain ⟨hsent, rfl⟩ := hcall
      obtain ⟨row, hrow⟩ := hcounted.delivery (hfair.granted call hsent)
      have hbound := hcounted.bound hrow
      rw [hcounted.count hrow] at hbound
      exact hsends ▸ Nat.le_trans (hle _) hbound
  · intro outboxId deliveryId row hrow
    rw [hcounted.count hrow]
    exact ⟨hle deliveryId, rfl⟩

open OneRecipient

/-- Two attempts, two provider calls. -/
theorem provider_calls_bounded_of_refused : ∃ w,
    machine.run initial refused = some w ∧ w.store.sends.length = 2 ∧ w.store.sends.Nodup ∧
      ∃ row, deliveryOf .opening w = some row ∧
        row.attemptCount.getD 0 = (w.store.attemptIds (deliveryId .opening)).length := by
  have hfinal : (machine.run initial refused).map (fun w =>
      (w.store.sends.length, (deliveryOf .opening w).isSome)) = some (2, true) := by
    decide +kernel
  obtain ⟨w, hrun, hw⟩ := Option.map_eq_some_iff.mp hfinal
  obtain ⟨hsends, hsome⟩ := Prod.mk.inj hw
  obtain ⟨row, hrow⟩ := Option.isSome_iff_exists.mp hsome
  obtain ⟨-, hcount, hnodup, -⟩ := provider_calls_bounded store_fresh hrun
  exact ⟨w, hrun, hsends, hnodup, row, hrow, (hcount _ _ row hrow).2⟩

end LimnoPulse.Notifications
