import LimnoPulse.Notifications.ProcessorSoundness

/-!
# The feedback consumer keeps the discipline

Main results:

- Theorem `reconcile_sound`: a reconciliation commits only what follows from the
  rows it has read and the event.
-/

namespace LimnoPulse.Notifications

open CivilTime StoreProgram Discipline

variable {P : Platform}
variable {s : Store} {event : FeedbackEvent} {retention : Int} {now : Instant}
  {attempt : AttemptRow}

/-- A program that establishes nothing. -/
abbrev SoundCall (P : Platform) {α : Type} (p : Prog α) (s : Store) : Prop :=
  (discipline P).Sound (fun _ _ => True) p s

/-- One call after another. -/
theorem SoundCall.andThen {α β : Type} {mid : α → Store → Prop} {p : Prog (Except StoreError α)}
    {f : α → Prog (Except StoreError β)} (hp : (discipline P).SoundOk mid p s)
    (hf : ∀ value t, Evolves s t → mid value t → SoundCall P (f value) t) :
    SoundCall P (p.andThen f) s := by
  refine Sound.bind ?_ hp
  intro result t ht hres
  cases result with
  | ok value => exact hf value t ht (hres value rfl)
  | error => trivial

/-- One program after another. -/
theorem SoundCall.bind {α β : Type} {p : Prog α} {f : α → Prog β} (hp : SoundCall P p s)
    (hf : ∀ value t, Evolves s t → SoundCall P (f value) t) : SoundCall P (p >>= f) s :=
  Sound.bind (fun value t ht _ => hf value t ht) hp

/-- A read that may fail. -/
theorem readOrAwait_sound {key : Key}
    {next : Row key → Prog (Except StoreError (Option ReconcileResult))}
    (hnext : ∀ row t, Evolves s t → t.rows.lookup key = some row → Base P t →
      SoundCall P (next row) t) : SoundCall P (readOrAwait next) s := by
  refine SoundCall.andThen (getConsistent_sound key s).soundOk ?_
  rintro row t ht ⟨hrow, hbase⟩
  cases row with
  | none => trivial
  | some row => exact hnext row t ht hrow hbase

/-- A marker is harmless. -/
theorem persistTransportDuplicate_sound (retention : Int) (event : FeedbackEvent) (now : Instant)
    (s : Store) : SoundCall P (persistTransportDuplicate retention event now) s := by
  refine transactWriteItems_sound (fun _ _ _ => .markTransport retention event now) ?_ ?_
  · intro t u _ _ _ _
    trivial
  · intro reply u _ hne
    cases reply with
    | committed => exact absurd rfl hne
    | unavailable => trivial
    | cancelled =>
      refine SoundCall.andThen (getConsistent_sound _ u).soundOk ?_
      intro row t _ _
      cases row with
      | none => trivial
      | some =>
        simp only
        split <;> trivial

theorem dedupeNowExists_sound (event : FeedbackEvent) (s : Store) :
    SoundCall P (dedupeNowExists event) s := by
  refine SoundCall.andThen (getConsistent_sound _ s).soundOk ?_
  intro row t _ _
  cases row with
  | some =>
    simp only
    split <;> trivial
  | none =>
    refine SoundCall.andThen (getConsistent_sound _ t).soundOk ?_
    intro marker u _ _
    cases marker with
    | none => trivial
    | some =>
      simp only
      split <;> trivial

/-- A plan stays justified. -/
theorem Reconciliation.Justified.mono {t : Store} {plan : Reconciliation}
    (h : plan.Justified P s event) (hst : Evolves s t) :
    plan.Justified P t event :=
  { h with
    seen := h.seen.mono hst
    fence := fun howns => (h.fence howns).mono hst }

/-- A justified plan is committed. -/
theorem commitReconciliation_sound {plan : Reconciliation} (hplan : plan.Justified P s event) :
    SoundCall P (commitReconciliation retention event now plan) s := by
  refine transactWriteItems_sound ?_ ?_ ?_
  · intro t ht _
    exact .reconcile retention event now plan (hplan.mono ht)
  · intro t u _ _ _ _
    trivial
  · intro reply u _ hne
    cases reply with
    | committed => exact absurd rfl hne
    | unavailable => trivial
    | cancelled =>
      refine Sound.bind ?_ (dedupeNowExists_sound event u)
      intro result v _ _
      cases result with
      | ok duplicate | error failure => trivial

/-- What a stored suppression makes of an event. -/
theorem readSuppression_sound {delivery : DeliveryRow}
    {next : Option Item → Prog (Except StoreError (Option ReconcileResult))}
    (hnext : ∀ suppression t, Evolves s t →
      (∀ item, suppression = some item → ∃ identity suppress, item = .suppression identity suppress ∧
        ∀ row, suppress.current = some row → row.rank.getD 0 < suppress.reason.rank) →
      SoundCall P (next suppression) t) :
    SoundCall P (readSuppression P event delivery next) s := by
  unfold readSuppression
  split
  · exact hnext none s (Evolves.refl s) (by simp)
  next reason hreason =>
    split
    · trivial
    next identity hident =>
      refine SoundCall.andThen (getConsistent_sound _ s).soundOk ?_
      rintro row t ht -
      cases row with
      | none =>
        refine hnext _ t ht ?_
        rintro item ⟨⟩
        exact ⟨identity, ⟨none, reason⟩, rfl, by simp⟩
      | some row =>
        simp only
        split
        · refine hnext _ t ht ?_
          intro item hitem
          split at hitem
          next hrank =>
            cases hitem
            refine ⟨identity, ⟨some row, reason⟩, rfl, ?_⟩
            rintro _ ⟨⟩
            exact hrank
          next => cases hitem
        · trivial

/-- The recovery is fenced. -/
theorem feedbackRecoveryOperation_sound {opening : DeliveryRow}
    {decision : DeliveryProviderDecision} {nextState : DeliveryState}
    (hkind : opening.kind = attempt.kind)
    (hnext : ∃ outcome, reconcileDeliveryStateFromProvider opening.state outcome = some nextState) :
    (discipline P).SoundOk (fun item t =>
        (item = none ∨ decision.ownsAggregate = true) ∧
        (decision.ownsAggregate = true → Fenced t opening.toDeliveryIdentity
          (if opening.state.awaited then opening.toDeliveryIdentity.endedBy nextState else none)
          item))
      (feedbackRecoveryOperation attempt opening decision nextState now) s := by
  unfold feedbackRecoveryOperation
  by_cases hskip : attempt.kind ≠ .opening ∨ decision.ownsAggregate = false
  · rw [if_pos hskip]
    refine SoundOk.ok ⟨.inl rfl, fun howns => ?_⟩
    -- Only an opening that owns the aggregate is fenced.
    have hended : opening.toDeliveryIdentity.endedBy nextState = none := by
      refine if_neg ?_
      rcases hskip with hne | hfalse
      · rwa [hkind]
      · rw [howns] at hfalse
        cases hfalse
    rw [hended]
    split <;> rfl
  rw [if_neg hskip]
  simp only [not_or, not_not, Bool.not_eq_false] at hskip
  have hended : opening.toDeliveryIdentity.endedBy nextState = OpeningEnd.of nextState :=
    if_pos (hkind.trans hskip.1)
  rw [hended]
  have hreleased : ∀ ended, (discipline P).SoundOk (fun item t =>
      (item = none ∨ decision.ownsAggregate = true) ∧
      (decision.ownsAggregate = true → Fenced t opening.toDeliveryIdentity (some ended) item))
      (recoveryOperation opening.toDeliverySnapshot ended now) s := by
    intro ended
    refine Sound.mono ?_ (recoveryOperation_sound opening.toDeliverySnapshot ended now s).soundOk
    intro result t _ hres item hitem
    exact ⟨.inr hskip.2, fun _ => hres item hitem⟩
  cases hstate : opening.state with
  | pending | queued | processing | retryableFailed | unknown =>
    cases nextState with
    | permanentFailed => exact hreleased .notSucceeded
    | succeeded => exact hreleased .succeeded
    | cancelled =>
      -- Feedback leaves a cancelled delivery as it is and cancels none.
      obtain ⟨outcome, hout⟩ := hnext
      rw [hstate] at hout
      cases outcome <;> cases hout
    | _ => exact SoundOk.ok ⟨.inl rfl, fun _ => rfl⟩
  | _ => exact SoundOk.ok ⟨.inl rfl, fun _ => rfl⟩

/-- Delivery and attempt are of one kind. -/
theorem deliveryAssociated_kind {row : DeliveryRow}
    (h : deliveryAssociated row event attempt = true) : row.kind = attempt.kind := by
  simp only [deliveryAssociated, Bool.and_eq_true, decide_eq_true_eq] at h
  exact h.1.1.1.1.2

/-- The second half is justified. -/
theorem reconcileAttempt_sound (hevent : event.valid = true)
    (hatt : attemptAssociated attempt event = true) :
    SoundCall P (reconcileAttempt P retention event now attempt) s := by
  refine readOrAwait_sound ?_
  intro delivery t _ hrow _
  simp only
  by_cases hdeliv : deliveryAssociated delivery event attempt = true
  swap
  · rw [if_neg hdeliv]
    trivial
  rw [if_pos hdeliv]
  split
  · trivial
  next nextState hnext =>
    refine Sound.bind ?_
      (feedbackRecoveryOperation_sound (deliveryAssociated_kind hdeliv) ⟨_, hnext⟩)
    intro result u hu hres
    cases result with
    | error => trivial
    | ok recovery =>
      obtain ⟨hrecov, hfence⟩ := hres recovery rfl
      refine readSuppression_sound ?_
      intro suppression v hv hsuppr
      refine commitReconciliation_sound ?_
      exact
        { event_valid := hevent
          attempt := hatt
          delivery := hdeliv
          seen := ((Seen.of_read hrow).mono hu).mono hv
          decision := rfl
          nextState := hnext
          recovery := hrecov
          fence := fun howns => (hfence howns).mono hv
          suppression := hsuppr }

/-- One try is justified. -/
theorem reconcileOnce_sound (hevent : event.valid = true) :
    SoundCall P (reconcileOnce P retention event now) s := by
  refine SoundCall.andThen (getConsistent_sound _ s).soundOk ?_
  intro transport t _ _
  cases transport with
  | some => trivial
  | none =>
    refine SoundCall.andThen (getConsistent_sound _ t).soundOk ?_
    intro semantic u _ _
    cases semantic with
    | some =>
      simp only
      split
      · refine SoundCall.bind (persistTransportDuplicate_sound retention event now u) ?_
        intro result v _
        cases result with
        | ok value | error failure => trivial
      · trivial
    | none =>
      refine readOrAwait_sound ?_
      intro attempt v _ _ _
      split
      next hatt => exact reconcileAttempt_sound hevent hatt
      next => trivial

theorem reconcileTries_sound (hevent : event.valid = true) :
    ∀ (tries : Nat) (s : Store), SoundCall P (reconcileTries P retention event now tries) s
  | 0, _ => trivial
  | tries + 1, s => by
    refine SoundCall.bind (reconcileOnce_sound hevent) ?_
    intro result t _
    cases result with
    | error => trivial
    | ok outcome =>
      cases outcome with
      | some => trivial
      | none => exact reconcileTries_sound hevent tries t

/-- Reconciliations are justified. -/
theorem reconcile_sound (retention : Int) (event : FeedbackEvent) (now : Instant) (s : Store) :
    SoundCall P (reconcile P retention event now) s := by
  unfold reconcile
  split
  next hevent => exact reconcileTries_sound hevent _ s
  next => trivial

end LimnoPulse.Notifications
