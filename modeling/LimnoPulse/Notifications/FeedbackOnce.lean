import LimnoPulse.Notifications.FeedbackCalls
import LimnoPulse.Notifications.ProviderOutcome

/-!
# Feedback is applied once

Any number of reconciliations, of the same events or others, interleave at their single
operations, and transport markers expire in between.

Main results:

- Theorem `feedback_step`: what one scheduling decision can do.
- Theorem `feedback_applied_once`: along every run each pair of message and type is
  applied at most once, and suppressions are only raised.
-/

namespace LimnoPulse.Notifications

open CivilTime StoreProgram

variable {P : Platform}

/-- A reconciliation, or the expiry of a transport marker. -/
def Call.isFeedback : Call → Bool
  | .reconcile _ _ | .edit (.expireTransport _) => true
  | _ => false

/-- Feedback consumers alone. -/
def feedbackMachine (P : Platform) : Machine Store Outcome Call CallResult Op Reply :=
  (notificationMachine P).restrict Call.isFeedback

/-- A reconciled event is reported as applied. -/
def CallResult.ReportsApplied (result : CallResult) : Prop :=
  ∀ ended, result = .reconciled (.ok ended) → ∃ suppressed, ended = .applied suppressed

/-- What is left of a call keeps to what feedback may do. -/
def Restrained (P : Platform) : Call → Prog CallResult → Prop
  | .reconcile _ event, p => Cautious P event CallResult.ReportsApplied (fun _ => True) p
  | _, p => p.Performs fun op => ∃ eventBridgeId, op = .edit (.expireTransport eventBridgeId)

/-- A call starts restrained. -/
theorem Restrained.body {call : Call} (h : call.isFeedback = true) :
    Restrained P call (callBody P call) := by
  cases call with
  | reconcile retention => exact reconcileNow_cautious retention
  | edit change =>
    cases change with
    | expireTransport eventBridgeId => exact ⟨⟨eventBridgeId, rfl⟩, fun _ => trivial⟩
    | _ => cases h
  | _ => cases h

theorem Restrained.next {call : Call} {op : Op} {next : Reply op → Prog CallResult}
    (h : Restrained P call (.call op next)) (reply : Reply op) : Restrained P call (next reply) := by
  cases call with
  | reconcile => exact (h.2 reply).1
  | _ => exact h.2 reply

/-- Only markers expire. -/
theorem lookup_expireTransport (s : Store) (eventBridgeId : String) (key : Key)
    (hkey : ∀ id, key ≠ .transport id) :
    (s.edit (.expireTransport eventBridgeId)).rows.lookup key = s.rows.lookup key :=
  Table.lookup_put_of_ne (hkey eventBridgeId) _ _

/-- Nothing else changes. -/
theorem expireTransport_untouched (s : Store) (eventBridgeId : String) :
    Untouched s (s.edit (.expireTransport eventBridgeId)) where
  attempt _ _ := lookup_expireTransport s eventBridgeId (.attempt _ _) nofun
  delivery _ _ := lookup_expireTransport s eventBridgeId (.delivery _ _) nofun
  deliverability _ := lookup_expireTransport s eventBridgeId (.deliverability _) nofun
  applied := rfl

/-- All calls are restrained, and the log is right. -/
structure FeedbackWorld (P : Platform) (w : World Store Call CallResult Op Reply) : Prop where
  restrained : ∀ process ∈ w.processes, Restrained P process.1 process.2
  once : AppliedOnce w.store

/-- Suppressions are raised, other rows changed by the own event only. -/
theorem feedback_step {w w' : World Store Call CallResult Op Reply} {a : Action Outcome Call}
    (hw : FeedbackWorld P w) (h : (feedbackMachine P).step w a = some w') :
    FeedbackWorld P w' ∧ SuppressionsRaised w.store w'.store ∧
      (Untouched w.store w'.store ∨ ∃ i outcome retention event p, a = .step i outcome ∧
        w.processes[i]? = some (.reconcile retention event, p) ∧
        w'.store.applied = w.store.applied ++ [(event.providerMessageId, event.semanticType)]) := by
  rcases Machine.step_cases _ h with
    ⟨call, rfl, hadmits, rfl⟩ | ⟨i, outcome, call, op, next, reply, t, rfl, hproc, hexec, rfl⟩
  · refine ⟨⟨?_, hw.once⟩, (Untouched.refl _).suppressionsRaised, .inl (.refl _)⟩
    intro process hmem
    rcases List.mem_append.mp hmem with hold | hnew
    · exact hw.restrained process hold
    · cases List.mem_singleton.mp hnew
      exact .body (Bool.and_eq_true_iff.mp hadmits).2
  · have hown := hw.restrained _ (List.mem_of_getElem? hproc)
    have hrestrained : ∀ process ∈ w.processes.set i (call, next reply),
        Restrained P process.1 process.2 := by
      intro process hmem
      rcases List.mem_or_eq_of_mem_set hmem with hold | rfl
      · exact hw.restrained process hold
      · exact hown.next reply
    cases call with
    | reconcile retention event =>
      obtain ⟨hraised, honce, hcases⟩ := hown.1.exec hexec
      refine ⟨⟨hrestrained, honce hw.once⟩, hraised, hcases.imp_right fun happlied => ?_⟩
      exact ⟨i, outcome, retention, event, _, rfl, hproc, happlied⟩
    | _ =>
      obtain ⟨eventBridgeId, rfl⟩ := hown.1
      cases hexec
      have htouch := expireTransport_untouched w.store eventBridgeId
      refine ⟨⟨hrestrained, hw.once.nodup, ?_⟩, htouch.suppressionsRaised, .inl htouch⟩
      intro messageId semanticType hmem
      rw [lookup_expireTransport w.store eventBridgeId (.semantic _ _) nofun]
      exact hw.once.marked messageId semanticType hmem

/-- Every run keeps its invariant and raises suppressions only. -/
theorem feedback_run : ∀ {as : List (Action Outcome Call)}
    {w w' : World Store Call CallResult Op Reply}, FeedbackWorld P w →
    (feedbackMachine P).run w as = some w' →
      FeedbackWorld P w' ∧ SuppressionsRaised w.store w'.store
  | [], w, _, hw, hrun => by
    cases hrun
    exact ⟨hw, (Untouched.refl _).suppressionsRaised⟩
  | a :: as, w, w', hw, hrun => by
    obtain ⟨u, hstep, htail⟩ := Option.bind_eq_some_iff.mp hrun
    obtain ⟨hu, hraised, -⟩ := feedback_step hw hstep
    obtain ⟨hw', hraised'⟩ := feedback_run hu htail
    exact ⟨hw', hraised.trans hraised'⟩

/-- Consider any operation of any interleaving of reconciliations.  No pair of message and type is
ever applied twice, and the operation changes attempts, deliveries or suppressions only by applying
the pair of its own call.  Suppressions are raised from there to the end. If its call ends with a
duplicate or leaves the event to the dead-letter queue, the operation has changed nothing. -/
theorem feedback_applied_once {s : Store} (hs : s.applied = [])
    {before after : List (Action Outcome Call)} {i : Nat} {outcome : Outcome}
    {u v w : World Store Call CallResult Op Reply}
    (hbefore : (feedbackMachine P).run (Machine.initial s) before = some u)
    (hstep : (feedbackMachine P).step u (.step i outcome) = some v)
    (hafter : (feedbackMachine P).run v after = some w) :
    w.store.applied.Nodup ∧
      (Untouched u.store v.store ∨ ∃ retention event p,
        u.processes[i]? = some (.reconcile retention event, p) ∧
        v.store.applied = u.store.applied ++ [(event.providerMessageId, event.semanticType)]) ∧
      SuppressionsRaised u.store w.store ∧
      ∀ call result, w.processes[i]? = some (call, .done (.reconciled (.ok result))) →
        result = .duplicate ∨ result = .awaitDlq → Untouched u.store v.store := by
  have hinitial : FeedbackWorld P (Machine.initial s) :=
    ⟨by simp [Machine.initial], by simp [Machine.initial, hs], by simp [Machine.initial, hs]⟩
  obtain ⟨hu, -⟩ := feedback_run hinitial hbefore
  obtain ⟨hv, hraised, hcases⟩ := feedback_step hu hstep
  obtain ⟨hw, hraised'⟩ := feedback_run hv hafter
  refine ⟨hw.once.nodup, ?_, hraised.trans hraised', ?_⟩
  · refine hcases.imp_right ?_
    rintro ⟨j, _, retention, event, p, heq, hprocess, happlied⟩
    cases heq
    exact ⟨retention, event, p, hprocess, happlied⟩
  · intro call result hended hresult
    rcases hcases with htouch | ⟨j, _, retention, event, p, heq, hprocess, happlied⟩
    · exact htouch
    · cases heq
      rcases Machine.step_cases _ hstep with
        ⟨_, heq, -⟩ | ⟨_, _, _, op, next, reply, t, heq, hprocess', hexec, rfl⟩
      · cases heq
      · cases heq
        cases hprocess.symm.trans hprocess'
        by_contra hchanged
        -- The operation has changed something, so its call can only report an application.
        have hreports := ((hu.restrained _ (List.mem_of_getElem? hprocess)).2 reply).2 _ _ _ hexec
          hchanged
        obtain ⟨q, hq, hreturns⟩ := Machine.process_of_run (fun _ _ reply h => h reply) hafter
          ⟨next reply, List.getElem?_set_self (List.getElem?_eq_some_iff.mp hprocess).1, hreports⟩
        cases hended.symm.trans hq
        obtain ⟨suppressed, rfl⟩ := hreturns result rfl
        rcases hresult with hresult | hresult <;> cases hresult

namespace OneRecipient

/-- An accepted attempt that is not yet recorded. -/
def sentStore : Store :=
  ((machine.run initial (published ++ handled 3 22
    { now := 3, text := "a1", send := .accepted "p1" })).map (·.store)).getD store

/-- The delay arrives twice, under two transport ids. -/
def delayedTwice : List (Action Outcome Call) :=
  performed 1 (.reconcile defaultTransportRetention { delay with eventBridgeId := "b2" }) 4 { now := 5 }

end OneRecipient

open OneRecipient

/-- The event that is delivered twice is applied once. -/
theorem feedback_applied_once_of_redelivery : ∃ u v w,
    (feedbackMachine platform).run (Machine.initial sentStore)
        (performed 0 (.reconcile defaultTransportRetention delay) 5 { now := 4 }) = some u ∧
      (feedbackMachine platform).step u (.step 0 { now := 4 }) = some v ∧
      (feedbackMachine platform).run v delayedTwice = some w ∧
      w.store.applied.Nodup ∧ w.store.applied = [("p1", .deliveryDelay)] ∧
      SuppressionsRaised u.store w.store := by
  have hruns : (((feedbackMachine platform).run (Machine.initial sentStore)
      (performed 0 (.reconcile defaultTransportRetention delay) 5 { now := 4 })).bind fun u =>
        ((feedbackMachine platform).step u (.step 0 { now := 4 })).bind fun v =>
          ((feedbackMachine platform).run v delayedTwice).map fun w =>
            w.store.applied) = some [("p1", .deliveryDelay)] := by
    decide +kernel
  obtain ⟨u, hu, hrest⟩ := Option.bind_eq_some_iff.mp hruns
  obtain ⟨v, hv, hrest⟩ := Option.bind_eq_some_iff.mp hrest
  obtain ⟨w, hw, happlied⟩ := Option.map_eq_some_iff.mp hrest
  obtain ⟨hnodup, -, hraised, -⟩ := feedback_applied_once (by decide +kernel) hu hv hw
  exact ⟨u, v, w, hu, hv, hw, hnodup, happlied, hraised⟩

end LimnoPulse.Notifications
