import LimnoPulse.Notifications.Invariant

/-!
# The worker's store keeps the discipline

Every request of the worker's store is justified by what was read before it, and each
call says what it leaves behind.

Main results:

- Theorem `acquire_sound`: what a worker knows about a delivery it has claimed.
- Theorem `beginAttempt_sound`: what it knows after it has recorded an attempt.
- Theorem `completeAttempt_sound`: a completion that reports a terminal delivery is
  right.
-/

namespace LimnoPulse.Notifications

open CivilTime StoreProgram Discipline

variable {P : Platform} {α : Type}
variable {post : α → Store → Prop} {s : Store} {outboxId : OutboxId} {deliveryId : DeliveryId}
  {row : DeliveryRow} {record a b : DeliveryRecord} {now : Instant} {request : ClaimRequest}
  {job : JobEnvelope} {completion : AttemptCompletion} {retried merged : Completer} {merge : Bool}
  {p : Prog (Except StoreError α)} {mid : α → Store → Prop} {update : DeliveryUpdate}
  {items : List Item} {conflict fence : Bool}

/-! ## Requests -/

/-- An operation that anyone may perform at any time. -/
theorem sound_perform {op : Op} (hop : op.harmless = true) {f : Reply op → Prog α}
    (h : ∀ reply u, Evolves s u → (discipline P).Sound post (f reply) u) :
    (discipline P).Sound post (Program.perform op >>= f) s :=
  Sound.call (fun _ _ _ => Justified.harmless hop)
    fun _ _ reply u _ _ _ _ hrely => h reply u hrely

/-- A program of such operations. -/
theorem harmless_all {p : Prog α} (hp : p.Performs fun op => op.harmless = true) :
    p.Performs fun op => ∀ s, (discipline P).justified op s := by
  induction p with
  | done => trivial
  | call op next ih => exact ⟨fun _ => Justified.harmless hp.1, fun reply => ih reply (hp.2 reply)⟩

/-- Harmless programs are sound. -/
theorem sound_of_harmless {p : Prog α} (hp : p.Performs fun op => op.harmless = true) (s : Store) :
    (discipline P).Sound (fun _ _ => True) p s :=
  Sound.trivial_of_performs (harmless_all hp)

/-- Soundness of a program that fails with an unspecified error only. -/
def SoundOther (P : Platform) (post : α → Store → Prop) (p : Prog (Except StoreError α))
    (s : Store) : Prop :=
  (discipline P).Sound (fun result t => (∀ value, result = .ok value → post value t) ∧
    ∀ failure, result = .error failure → failure = .other) p s

namespace SoundOther

/-- A success. -/
theorem ok {value : α} (h : post value s) : SoundOther P post (pure (.ok value)) s :=
  ⟨by rintro _ ⟨⟩; exact h, nofun⟩

theorem other (s : Store) : SoundOther P post (pure (.error .other)) s :=
  ⟨nofun, by rintro _ ⟨⟩; rfl⟩

/-- One program after another. -/
theorem andThen {β : Type} {post : β → Store → Prop} {f : α → Prog (Except StoreError β)}
    (hp : SoundOther P mid p s)
    (hf : ∀ value t, Evolves s t → mid value t → SoundOther P post (f value) t) :
    SoundOther P post (p.andThen f) s := by
  refine Sound.bind ?_ hp
  rintro result t ht ⟨hres, hfailure⟩
  cases result with
  | ok value => exact hf value t ht (hres value rfl)
  | error failure =>
    cases hfailure failure rfl
    exact other t

/-- Any failure will do. -/
theorem soundOk (hp : SoundOther P post p s) : (discipline P).SoundOk post p s :=
  Sound.mono (fun _ _ _ h => h.1) hp

end SoundOther

/-- A read finds what is stored. -/
theorem getConsistent_sound (key : Key) (s : Store) :
    SoundOther P (fun row t => t.rows.lookup key = row ∧ Base P t) (getConsistent key) s := by
  refine Sound.call (fun _ _ _ => Justified.harmless rfl) ?_
  intro t choice reply u _ hbase hexec _ _
  cases hexec
  cases hfault : choice.fault with
  | none => exact SoundOther.ok ⟨rfl, hbase⟩
  | requestLost | answerLost => exact SoundOther.other _

/-- A row in the answer was written. -/
theorem updateDelivery_sound {f : UpdateReply DeliveryRow → Prog α}
    (hop : ∀ t, Evolves s t → Base P t →
      Justified P t (.updateDelivery outboxId deliveryId update)) (hnew : update.effect none = none)
    (hupdated : ∀ t u row, Evolves s t → Evolves s u → t.delivery outboxId deliveryId = some row →
      update.rowCondition row = true → u.delivery outboxId deliveryId = some (update.rowEffect row) →
      (discipline P).Sound post (f (.updated (update.rowEffect row))) u)
    (hfailed : ∀ u, Evolves s u → (discipline P).Sound post (f .conditionalCheckFailed) u)
    (hlost : ∀ u, Evolves s u → (discipline P).Sound post (f .unavailable) u) :
    (discipline P).Sound post (updateDelivery outboxId deliveryId update >>= f) s := by
  refine Sound.call hop ?_
  intro t choice reply u ht _ hexec _ hu
  have hreply := update_committed (Option.some.inj hexec)
  cases reply with
  | updated row =>
    rcases hreply with ⟨-, hne⟩ | ⟨hcommit, hrow⟩
    · exact absurd rfl (hne row)
    · have heff := hrow row rfl
      obtain ⟨hcond, hafter⟩ := hcommit.mem_delivery List.mem_cons_self
      change update.effect (t.delivery outboxId deliveryId) = some row at heff
      cases hold : t.delivery outboxId deliveryId with
      | none =>
        rw [hold, hnew] at heff
        cases heff
      | some old =>
        rw [hold] at heff hcond hafter
        cases heff
        exact hupdated t u old ht hu hold hcond hafter
  | conditionalCheckFailed => exact hfailed u hu
  | unavailable => exact hlost u hu

/-- A transaction reported as committed has committed. -/
theorem transactWriteItems_sound {f : TransactReply → Prog α}
    (hop : ∀ t, Evolves s t → Base P t → Justified P t (.transact items))
    (hcommitted : ∀ t u, Evolves s t → Base P t → Evolves s u → Committed items t u →
      (discipline P).Sound post (f .committed) u)
    (hfailed : ∀ reply u, Evolves s u → reply ≠ .committed →
      (discipline P).Sound post (f reply) u) :
    (discipline P).Sound post (transactWriteItems items >>= f) s := by
  refine Sound.call hop ?_
  intro t choice reply u ht hbase hexec _ hu
  by_cases hreply : reply = .committed
  · subst hreply
    rcases transact_committed (Option.some.inj hexec) with ⟨-, hne⟩ | ⟨hcommit, -⟩
    · exact absurd rfl hne
    · exact hcommitted t u ht hbase hu hcommit
  · exact hfailed reply u hu hreply

theorem transactItems_sound (hop : ∀ t, Evolves s t → Base P t → Justified P t (.transact items)) :
    (discipline P).SoundOk (fun _ u => ∃ t, Evolves s t ∧ Base P t ∧ Committed items t u)
      (transactItems items) s := by
  refine transactWriteItems_sound hop ?_ ?_
  · intro t u ht hbase _ hcommit
    exact SoundOk.ok ⟨t, ht, hbase, hcommit⟩
  · intro reply u _ hne
    cases reply with
    | committed => exact absurd rfl hne
    | cancelled reasons | unavailable => exact SoundOk.error _ _

/-! ## Records -/

/-- What the record of a decoded row says. -/
theorem decodeDelivery_some (h : decodeDelivery P outboxId deliveryId row = some record) :
    record.Tells row ∧ record.delivery.outboxId = outboxId ∧
      record.delivery.deliveryId = deliveryId := by
  unfold decodeDelivery at h
  split at h
  next hvalid =>
    cases h
    simp only [Bool.and_eq_true, decide_eq_true_eq] at hvalid
    exact ⟨⟨rfl, rfl, rfl, rfl, rfl, rfl, rfl, rfl, id⟩, hvalid.1.1.1.1, hvalid.1.1.1.2⟩
  next => cases h

/-- The record of a row that has been read is known. -/
theorem Known.of_decode (h : decodeDelivery P outboxId deliveryId row = some record)
    (hrow : s.delivery outboxId deliveryId = some row) : Known record s := by
  obtain ⟨htells, rfl, rfl⟩ := decodeDelivery_some h
  exact ⟨row, Seen.of_read hrow, htells⟩

/-- An open attempt in a record does not matter. -/
theorem Known.noting (h : Known record s) (attemptId : Option String) :
    Known { record with startedAttemptId := attemptId } s := by
  obtain ⟨row, hseen, htells⟩ := h
  exact ⟨row, hseen, { htells with }⟩

/-- The record is known, and its last attempt has ended. -/
structure Idle (record : DeliveryRecord) (s : Store) : Prop where
  known : Known record s
  settled : record.Settled s

/-- Idle records stay idle. -/
theorem Idle.mono {t : Store} (h : Idle record s) (hst : Evolves s t) : Idle record t :=
  ⟨h.known.mono hst, h.settled.mono hst⟩

/-- Records of one delivery with the same last attempt. -/
theorem DeliveryRecord.Settled.of_same (h : b.Settled s) (hkey : a.SameKey b)
    (hlast : a.lastAttemptId = b.lastAttemptId) : a.Settled s := by
  intro attemptId hatt
  rw [hkey.2]
  exact h attemptId (hlast ▸ hatt)

/-- Before a send the last attempt has ended. -/
theorem DeliveryRecord.Settled.of_fits (hfits : row.Fits (s.attempt record.delivery.deliveryId))
    (htells : record.Tells row) (hstate : row.state.unsent = true ∨ row.state = .retryableFailed) :
    record.Settled s := by
  intro attemptId hlast
  rw [← htells.lastAttemptId] at hlast
  obtain ⟨attempt, hatt⟩ := Option.isSome_iff_exists.mp (hfits.last hlast)
  rcases hstate with hunsent | hdeferred
  · rw [hfits.unsent hunsent] at hlast
    cases hlast
  · exact ⟨attempt, hatt, hfits.deferred hdeferred hlast hatt⟩

/-- The delivery of the record is terminal. -/
def DeliveryRecord.Terminal (record : DeliveryRecord) (s : Store) : Prop :=
  TerminalAt record.delivery.job s

theorem DeliveryRecord.Terminal.of_sameKey (h : a.SameKey b) (hterm : a.Terminal s) :
    b.Terminal s := by
  obtain ⟨row, hrow, hstate⟩ := hterm
  exact ⟨row, by
    rw [← hrow]
    exact congrArg₂ s.delivery h.1.symm h.2.symm, hstate⟩

/-- `Refresh` is right about the end, or about the last attempt. -/
theorem refresh_sound (record : DeliveryRecord) (s : Store) :
    SoundOther P (fun refreshed t => Known refreshed.1 t ∧ refreshed.1.SameKey record ∧
      (refreshed.2 = true → refreshed.1.delivery.state.terminal = true ∧ record.Terminal t) ∧
      (refreshed.2 = false → Known record t → refreshed.1.lastAttemptId = record.lastAttemptId))
      (refresh P record) s := by
  refine (getConsistent_sound _ s).andThen ?_
  rintro row t _ ⟨hrow, -⟩
  cases row with
  | none => exact .other _
  | some row =>
    simp only
    cases hdec : decodeDelivery P record.delivery.outboxId record.delivery.deliveryId row with
    | none => exact .other _
    | some refreshed =>
      have hknown : Known refreshed t := Known.of_decode hdec hrow
      obtain ⟨htells, hkey⟩ := decodeDelivery_some hdec
      simp only
      by_cases hterm : refreshed.delivery.state.terminal = true
      · rw [if_pos hterm]
        refine .ok
          ⟨hknown, hkey, fun _ => ⟨hterm, row, hrow, ?_⟩, by simp⟩
        rw [htells.state]
        exact hterm
      · rw [if_neg hterm]
        split
        · exact .other _
        next hsame =>
          refine .ok ⟨hknown, hkey, by simp, fun _ hrecord => ?_⟩
          simp only [not_or, ne_eq, not_not] at hsame
          exact htells.lastAttemptId.symm.trans
            (hrecord.tells hrow (htells.revision.trans hsame.2.1)).lastAttemptId

/-- What an update with a record leaves. -/
def UpdatePost (record : DeliveryRecord) (updated : DeliveryRow × DeliveryRecord) (s : Store) :
    Prop :=
  Known updated.2 s ∧ updated.2.SameKey record ∧
    updated.2.lastAttemptId = record.lastAttemptId

/-- A justified update of a record. -/
theorem updateRecord_sound (hknown : Known record s)
    (hop : ∀ t, Evolves s t → Base P t → Justified P t
      (.updateDelivery record.delivery.outboxId record.delivery.deliveryId update))
    (hnew : update.effect none = none) (halone : update.withAttempt = false)
    (hrev : ∀ row, update.rowCondition row = true → row.revision = record.revision) :
    (discipline P).SoundOk (UpdatePost record) (updateRecord P record update) s := by
  refine updateDelivery_sound hop hnew ?_ ?_ ?_
  · intro t u row ht _ hbefore hcond hrow
    simp only
    cases hdec : decodeDelivery P record.delivery.outboxId record.delivery.deliveryId
        (update.rowEffect row) with
    | none => exact SoundOk.error _ _
    | some =>
      obtain ⟨htells, hkey⟩ := decodeDelivery_some hdec
      have hbeforeTells := (hknown.mono ht).tells hbefore (hrev row hcond)
      refine SoundOk.ok ⟨Known.of_decode hdec hrow, hkey, ?_⟩
      rw [← htells.lastAttemptId, (update.rowEffect_attempts halone row).1,
        hbeforeTells.lastAttemptId]
  · intro u _
    exact SoundOk.error _ _
  · intro u _
    exact SoundOk.error _ _

/-! ## Claiming -/

/-- Validated transitions are edges. -/
theorem transitionAllowed_of_validate {snapshot : DeliverySnapshot} {next : DeliveryState}
    (h : validateTransition P snapshot next = true) : transitionAllowed snapshot.state next = true :=
  (Bool.and_eq_true_iff.mp h).2

/-- A repair is justified. -/
theorem repairPublication_sound (hknown : Known record s) (hpub : Published record.delivery.job s) :
    (discipline P).SoundOk (UpdatePost record) (repairPublication P record now) s := by
  unfold repairPublication
  split
  · refine updateRecord_sound hknown ?_ rfl rfl ?_
    · intro t ht _
      exact .repairPublication record now (hknown.mono ht) (hpub.mono ht)
    · intro row hcond
      simp only [DeliveryUpdate.rowCondition, Bool.and_eq_true, decide_eq_true_eq] at hcond
      exact hcond.1.1.1.1.1.2
  · exact SoundOk.error _ _

/-- A claim is justified. -/
theorem claim_sound (hknown : Known record s) (hexp : request.now < request.expiresAt) :
    (discipline P).SoundOk (UpdatePost record) (claim P record request) s := by
  unfold claim
  split
  next hvalid =>
    refine updateRecord_sound hknown ?_ rfl rfl ?_
    · intro t ht _
      exact .claim record request (hknown.mono ht) (transitionAllowed_of_validate hvalid) hexp
    · intro row hcond
      simp only [DeliveryUpdate.rowCondition, Bool.and_eq_true, decide_eq_true_eq] at hcond
      exact hcond.1.2
  next => exact SoundOk.error _ _

/-- The record is one of the delivery that the job names. -/
structure DeliveryRecord.Answers (record : DeliveryRecord) (job : JobEnvelope) : Prop where
  outboxId : record.delivery.outboxId = job.outboxId
  deliveryId : record.delivery.deliveryId = job.deliveryId
  channel : job.deliveryId.channel = job.channel

theorem DeliveryRecord.Answers.of_sameKey (h : b.Answers job) (hkey : a.SameKey b) :
    a.Answers job :=
  ⟨hkey.1.trans h.outboxId, hkey.2.trans h.deliveryId, h.channel⟩

/-- The last attempt has ended or was found open. -/
def AcquireResult.Established (job : JobEnvelope) (result : AcquireResult) (s : Store) : Prop :=
  match result with
  | .claimed record => Known record s ∧ record.Answers job ∧
      (record.startedAttemptId = none → record.Settled s)
  | .terminal => TerminalAt job s
  | .deferred _ | .awaitDlq => True

/-- A deferral after a lost race establishes nothing. -/
theorem deferConditional_sound {p : Prog (Except StoreError AcquireResult)}
    (hp : (discipline P).SoundOk (AcquireResult.Established job) p s) :
    (discipline P).SoundOk (AcquireResult.Established job)
      (p >>= fun result => pure (deferConditional result)) s := by
  refine Sound.bind ?_ hp
  intro result t _ hres value hvalue
  cases result with
  | ok =>
    cases hvalue
    exact hres _ rfl
  | error failure =>
    cases failure <;> cases hvalue
    trivial

section

variable (hknown : Known record s) (hanswers : record.Answers job)
  (hexp : request.now < request.expiresAt)
include hknown hanswers hexp

theorem acquireClaim_sound (hsettled : record.startedAttemptId = none → record.Settled s) :
    (discipline P).SoundOk (AcquireResult.Established job) (acquireClaim P record request) s := by
  refine deferConditional_sound (SoundOk.andThen (claim_sound hknown hexp) ?_)
  rintro ⟨row, claimed⟩ t ht ⟨hclaimed, hkey, hlast⟩
  obtain ⟨houtbox, hdeliv, hchan⟩ := hanswers.of_sameKey hkey
  refine SoundOk.ok
    ⟨hclaimed.noting record.startedAttemptId, ⟨houtbox, hdeliv, hchan⟩, fun hnone => ?_⟩
  exact ((hsettled hnone).mono ht).of_same hkey hlast

theorem acquirePending_sound (hsettled : record.Settled s)
    (hpub : Published record.delivery.job s) :
    (discipline P).SoundOk (AcquireResult.Established job) (acquirePending P record request) s := by
  refine Sound.bind ?_ (repairPublication_sound hknown hpub)
  intro result t ht hres
  cases result with
  | ok queued =>
    obtain ⟨hqueued, hkey, hlast⟩ := hres queued rfl
    exact acquireClaim_sound hqueued (hanswers.of_sameKey hkey) hexp
      fun _ => (hsettled.mono ht).of_same hkey hlast
  | error failure =>
    intro value hvalue
    cases failure <;> cases hvalue
    trivial

end

/-- The outcome of an attempt is read from its row. -/
theorem loadAttemptOutcome_sound (deliveryId : DeliveryId) (attemptId : String) (s : Store) :
    (discipline P).SoundOk (fun outcome t => ∃ attempt,
        t.attempt deliveryId attemptId = some attempt ∧ attempt.outcome = outcome)
      (loadAttemptOutcome deliveryId attemptId) s := by
  unfold loadAttemptOutcome
  split
  · exact SoundOk.error _ _
  · refine (getConsistent_sound _ s).soundOk.andThen ?_
    rintro row t _ ⟨hrow, -⟩
    cases row with
    | none => exact SoundOk.error _ _
    | some attempt =>
      simp only
      split
      · exact SoundOk.ok ⟨attempt, hrow, rfl⟩
      · exact SoundOk.error _ _

theorem acquireExpired_sound (hknown : Known record s) (hanswers : record.Answers job)
    (hexp : request.now < request.expiresAt) :
    (discipline P).SoundOk (AcquireResult.Established job) (acquireExpired P record request) s := by
  unfold acquireExpired
  split
  next hnone =>
    exact acquireClaim_sound hknown hanswers hexp fun _ attemptId hlast =>
      by cases hnone.symm.trans hlast
  next attemptId hlast =>
    refine SoundOk.andThen (loadAttemptOutcome_sound _ _ s) ?_
    rintro outcome t ht ⟨attempt, hatt, rfl⟩
    have hsettled : attempt.outcome ≠ .started → record.Settled t := by
      intro hended id hid
      cases hlast.symm.trans hid
      exact ⟨attempt, hatt, hended⟩
    cases hout : attempt.outcome with
    | started =>
      refine acquireClaim_sound ((hknown.mono ht).noting (some attemptId))
        { hanswers with } hexp ?_
      rintro ⟨⟩
    | retryable | ambiguous =>
      exact acquireClaim_sound (hknown.mono ht) hanswers hexp
        fun _ => hsettled (by rw [hout]; simp)
    | succeeded | permanentFailed => exact SoundOk.ok trivial

theorem unlessBefore_sound {limit : Option Instant} {next : Prog (Except StoreError AcquireResult)}
    (hnext : (discipline P).SoundOk (AcquireResult.Established job) next s) :
    (discipline P).SoundOk (AcquireResult.Established job) (unlessBefore now limit next) s := by
  unfold unlessBefore
  split
  · split
    · exact SoundOk.ok trivial
    · exact hnext
  · exact hnext

theorem DeliveryRecord.matchesJob_job (h : record.matchesJob job = true) :
    record.delivery.job = job := by
  simp only [DeliveryRecord.matchesJob, Bool.and_eq_true, decide_eq_true_eq] at h
  obtain ⟨⟨⟨⟨⟨htenant, houtbox⟩, hdeliv⟩, hevent⟩, hkind⟩, hchan⟩ := h
  simp only [DeliveryIdentity.job, htenant, houtbox, hdeliv, hevent, hkind, hchan]

/-- What a worker gets. -/
theorem acquire_sound (hpub : Published job s) :
    (discipline P).SoundOk (AcquireResult.Established job) (acquire P job request) s := by
  unfold acquire
  split
  · exact SoundOk.error _ _
  next hreq =>
  have hexp : request.now < request.expiresAt := by
    simp only [Bool.or_eq_true, decide_eq_true_eq, not_or, Int.not_le] at hreq
    exact hreq.2
  refine (getConsistent_sound _ s).soundOk.andThen ?_
  rintro row t ht ⟨hrow, hbase⟩
  cases row with
  | none => exact SoundOk.ok trivial
  | some row =>
    simp only
    cases hdec : decodeDelivery P job.outboxId job.deliveryId row with
    | none => exact SoundOk.ok trivial
    | some record =>
      have hknown : Known record t := Known.of_decode hdec hrow
      obtain ⟨htells, houtbox, hdeliv⟩ := decodeDelivery_some hdec
      simp only
      by_cases hmatch : (!record.matchesJob job || record.awaitingDlq) = true
      · rw [if_pos hmatch]
        exact SoundOk.ok trivial
      rw [if_neg hmatch]
      have hjob : record.delivery.job = job := by
        refine DeliveryRecord.matchesJob_job ?_
        simp only [Bool.or_eq_true, Bool.not_eq_true', not_or, Bool.not_eq_false] at hmatch
        exact hmatch.1
      have hanswers : record.Answers job := by
        have hid := DeliveryIdentity.deliveryId_of_valid (hknown.placed hbase).valid
        exact ⟨houtbox, hdeliv, by rw [← hdeliv, hid, ← hjob]; rfl⟩
      -- A terminal record was made from a terminal row.
      have hterm : record.delivery.state.terminal = true → TerminalAt job t := by
        intro hstate
        exact ⟨row, hrow, htells.state ▸ hstate⟩
      -- The last attempt of a delivery that is not claimed has ended.
      have hsettled : row.state.unsent = true ∨ row.state = .retryableFailed → record.Settled t :=
        DeliveryRecord.Settled.of_fits (hdeliv ▸ hbase.fits hrow) htells
      rw [htells.state] at hsettled
      cases hstate : record.delivery.state with
      | succeeded | permanentFailed
      | cancelled | unknown => exact SoundOk.ok (hterm (by rw [hstate]; rfl))
      | pending =>
        simp only
        split
        · exact SoundOk.ok trivial
        · exact unlessBefore_sound (acquirePending_sound hknown hanswers hexp
            (hsettled (.inl (by rw [hstate]; rfl))) (hjob ▸ hpub.mono ht))
      | retryableFailed =>
        exact unlessBefore_sound (acquireClaim_sound hknown hanswers hexp
          fun _ => hsettled (.inr hstate))
      | processing =>
        simp only
        split
        · exact SoundOk.ok trivial
        · exact unlessBefore_sound (acquireExpired_sound hknown hanswers hexp)
      | queued =>
        exact acquireClaim_sound hknown hanswers hexp
          fun _ => hsettled (.inl (by rw [hstate]; rfl))
      | waitingDependency => exact SoundOk.ok trivial

/-- The recovery is fenced. -/
theorem recoveryOperation_sound (opening : DeliverySnapshot) (ending : OpeningEnd) (now : Instant)
    (s : Store) :
    SoundOther P (fun item t => RecoveryFence t opening.toDeliveryIdentity ending item)
      (recoveryOperation opening ending now) s := by
  unfold recoveryOperation
  split
  · exact .other _
  next deliveryId hid =>
    have hid' : deliveryId = opening.recoveryDeliveryId := by
      unfold newDeliveryId at hid
      split at hid
      · exact (Option.some.inj hid).symm
      · cases hid
    subst hid'
    refine (getConsistent_sound _ s).andThen ?_
    rintro row t _ ⟨hrow, -⟩
    cases row with
    | none => exact .ok (.absent ending)
    | some recovery =>
      simp only
      by_cases hstate : recovery.state ≠ .waitingDependency
      · rw [if_pos hstate]
        exact .ok (.settled ending hrow hstate)
      rw [if_neg hstate]
      split
      · cases ending with
        | notSucceeded => exact .ok (.cancelled recovery now)
        | succeeded =>
          simp only
          split
          next index hindex => exact .ok (.released recovery index now)
          next => exact .other _
      · exact .other _

theorem recoveryDependencyOperation_sound (record : DeliveryRecord) (next : DeliveryState)
    (now : Instant) (s : Store) :
    SoundOther P (fun item t => Fenced t record.delivery.toDeliveryIdentity
        (record.delivery.toDeliveryIdentity.endedBy next) item)
      (recoveryDependencyOperation record next now) s := by
  unfold recoveryDependencyOperation
  by_cases hkind : record.delivery.kind = .opening
  · have hended : record.delivery.toDeliveryIdentity.endedBy next = OpeningEnd.of next :=
      if_pos hkind
    rw [if_neg (not_not.mpr hkind), hended]
    cases next with
    | succeeded => exact recoveryOperation_sound record.delivery .succeeded now s
    | permanentFailed
    | cancelled => exact recoveryOperation_sound record.delivery .notSucceeded now s
    | _ => exact .ok rfl
  · have hended : record.delivery.toDeliveryIdentity.endedBy next = none := if_neg hkind
    rw [if_pos hkind, hended]
    exact .ok rfl

/-- The state after a move. -/
theorem ProcessingTransition.effect_state (step : ProcessingTransition) (record : DeliveryRecord)
    (row : DeliveryRow) : (step.effect record row).state = step.nextState := by
  cases step <;> rfl

/-- A move is justified. -/
theorem transitionProcessing_sound (step : ProcessingTransition) (hidle : Idle record s)
    (hallowed : step.Allowed record) (hfence : Fenced s record.delivery.toDeliveryIdentity
      (record.delivery.toDeliveryIdentity.endedBy step.nextState) none) :
    (discipline P).SoundOk (fun _ t => step.nextState.terminal = true → record.Terminal t)
      (transitionProcessing record step) s := by
  refine updateDelivery_sound ?_ rfl ?_ ?_ ?_
  · intro t ht _
    exact .transition record step (hidle.known.mono ht) (hidle.settled.mono ht) hallowed
      (hfence.mono ht)
  · intro t u row _ _ _ _ hrow
    refine SoundOk.ok fun hterm => ⟨_, hrow, ?_⟩
    exact (step.effect_state record row).symm ▸ hterm
  · intro u _
    exact SoundOk.error _ _
  · intro u _
    exact SoundOk.error _ _

theorem transitionTerminalOpening_sound (step : ProcessingTransition) (hidle : Idle record s)
    (hallowed : step.Allowed record) :
    (discipline P).SoundOk (fun _ t => step.nextState.terminal = true → record.Terminal t)
      (transitionTerminalOpening record step.nextState now step) s := by
  refine (recoveryDependencyOperation_sound record _ now s).soundOk.andThen ?_
  intro recovery t ht hfence
  cases recovery with
  | none => exact transitionProcessing_sound step (hidle.mono ht) hallowed hfence
  | some recovery =>
    refine Sound.mono ?_ (transactItems_sound ?_)
    · intro result u _ hres value hvalue hterm
      obtain ⟨before, hbefore, -, hcommit⟩ := hres value hvalue
      obtain ⟨hcond, heff⟩ := hcommit.mem_delivery List.mem_cons_self
      obtain ⟨row, hrow, -⟩ := (hidle.known.mono (ht.trans hbefore)).exists_row
      rw [hrow] at heff
      exact ⟨_, heff, (step.effect_state record row).symm ▸ hterm⟩
    · intro u hu _
      exact .endOpening record step recovery (hidle.known.mono (ht.trans hu))
        (hidle.settled.mono (ht.trans hu)) hallowed (hfence.mono hu)

/-- A cancelled delivery is terminal. -/
theorem cancel_sound {reason : CancellationReason} (hidle : Idle record s) :
    (discipline P).SoundOk (fun _ t => record.Terminal t) (cancel P record reason now) s := by
  unfold cancel
  split
  · refine Sound.mono ?_ (transitionTerminalOpening_sound (.cancel reason now) hidle trivial)
    intro result t _ hres value hvalue
    exact hres value hvalue rfl
  · exact SoundOk.error _ _

/-- A deferral does not end anything. -/
theorem defer_sound {request : DeferRequest} (hidle : Idle record s) :
    (discipline P).Sound (fun _ _ => True) (defer P record request) s := by
  unfold defer
  split
  · trivial
  · refine Sound.mono (fun _ _ _ _ => trivial)
      (transitionProcessing_sound (.defer request) hidle trivial ?_)
    simp [ProcessingTransition.nextState, DeliveryIdentity.endedBy, OpeningEnd.of, Fenced]

theorem finalizeUnknown_sound (hidle : Idle record s) :
    (discipline P).SoundOk (fun _ t => record.Terminal t) (finalizeUnknown P record now) s := by
  unfold finalizeUnknown
  split
  · refine Sound.mono ?_ (transitionProcessing_sound (.finalizeUnknown now) hidle trivial ?_)
    · intro result t _ hres value hvalue
      exact hres value hvalue rfl
    · simp [ProcessingTransition.nextState, DeliveryIdentity.endedBy, OpeningEnd.of, Fenced]
  · exact SoundOk.error _ _

/-- A renewal is justified. -/
theorem renew_sound (record : DeliveryRecord) (expiresAt : Instant) (s : Store) :
    (discipline P).Sound (fun _ _ => True) (renew record expiresAt) s := by
  unfold renew
  split
  · refine updateDelivery_sound (fun _ _ _ => .renew record expiresAt) rfl ?_ ?_ ?_
    · intro t u row _ _ _ _ _
      trivial
    · intro u _
      trivial
    · intro u _
      trivial
  · trivial

/-- A completion has written or found a terminal state. -/
def CompletionPost (record : DeliveryRecord) (next : DeliveryState)
    (result : Except StoreError Unit) (s : Store) : Prop :=
  (result = .ok () → next.terminal = true → record.Terminal s) ∧
    (result = .error .concurrentTerminal → record.Terminal s)

theorem CompletionPost.other (record : DeliveryRecord) (next : DeliveryState) (s : Store) :
    CompletionPost record next (.error .other) s :=
  ⟨by simp, by simp⟩

section

variable {completion : PreflightFailureCompletion}

theorem PreflightFailureCompletion.allowed (h : completion.valid P record = true) :
    (ProcessingTransition.preflightFailure completion).Allowed record := by
  simp only [PreflightFailureCompletion.valid, Bool.and_eq_true, Bool.or_eq_true,
    Bool.not_eq_true'] at h
  obtain ⟨⟨-, hrem⟩, hnext⟩ := h
  refine ⟨?_, fun hacc => ?_⟩
  · cases hstate : completion.nextState <;> rw [hstate] at hnext <;>
      simp only [Bool.false_eq_true, Bool.and_eq_true, Bool.not_eq_true'] at hnext
    · exact .inr rfl
    · left
      rcases hrem with hrem | hrem
      · exact ⟨rfl, hrem⟩
      · rw [hnext.1.1.2] at hrem
        cases hrem
  · rcases hrem with hrem | hrem
    · rw [hacc] at hrem
      cases hrem
    · exact hrem

theorem preflightTransition_sound (hidle : Idle record s)
    (hallowed : (ProcessingTransition.preflightFailure completion).Allowed record) :
    (discipline P).SoundOk
      (fun _ t => completion.nextState.terminal = true → record.Terminal t)
      (preflightTransition record completion) s := by
  unfold preflightTransition
  split
  · exact transitionTerminalOpening_sound (.preflightFailure completion) hidle hallowed
  next hstate =>
    refine transitionProcessing_sound (.preflightFailure completion) hidle hallowed ?_
    rcases hallowed.1 with ⟨hfailed, -⟩ | hretry
    · exact absurd hfailed hstate
    · simp [ProcessingTransition.nextState, hretry, DeliveryIdentity.endedBy, OpeningEnd.of,
        Fenced]

theorem completePreflightFailure_sound (hidle : Idle record s) :
    (discipline P).Sound (CompletionPost record completion.nextState)
      (completePreflightFailure P record completion) s := by
  unfold completePreflightFailure
  by_cases hvalid : completion.valid P record = true
  · rw [if_pos hvalid]
    refine Sound.bind ?_
      (preflightTransition_sound hidle (PreflightFailureCompletion.allowed hvalid))
    intro result t _ hres
    cases result with
    | ok value => exact ⟨fun _ => hres value rfl, by simp⟩
    | error failure =>
      refine Sound.bind ?_ (refresh_sound record t)
      intro refreshed u _ hrefreshed
      cases refreshed with
      | error => exact CompletionPost.other _ _ _
      | ok refreshed =>
        obtain ⟨refreshed, terminal⟩ := refreshed
        cases terminal with
        | true => exact ⟨by simp, fun _ => ((hrefreshed.1 _ rfl).2.2.1 rfl).2⟩
        | false => exact CompletionPost.other _ _ _
  · rw [if_neg hvalid]
    exact CompletionPost.other _ _ _

end

/-- The record of a begun attempt tells its row. -/
theorem DeliveryRecord.Tells.begun (h : record.Tells row) (request : BeginAttemptRequest) :
    (record.begun request).Tells ((DeliveryUpdate.beginAttempt record request).rowEffect row) :=
  { h with
    revision := rfl
    attemptCount := rfl
    lastAttemptId := rfl }

/-- A new attempt has no message yet. -/
theorem beginAttempt_sound {request : BeginAttemptRequest} (hidle : Idle record s) :
    (discipline P).SoundOk (fun begun t => begun = record.begun request ∧ Known begun t ∧
        begun.providerAttemptId ≠ some request.attemptId)
      (beginAttempt record request) s := by
  unfold beginAttempt
  split
  next hvalid =>
    simp only [Bool.and_eq_true, decide_eq_true_eq] at hvalid
    refine SoundOk.andThen (transactItems_sound ?_) ?_
    · intro t ht _
      exact .beginAttempt record request (hidle.known.mono ht) (hidle.settled.mono ht) hvalid.1.2
        hvalid.1.1.1.2
    · rintro _ t _ ⟨before, hbefore, hbase, hcommit⟩
      obtain ⟨row, hrow, -⟩ := (hidle.known.mono hbefore).exists_row
      obtain ⟨hcond, heff⟩ := hcommit.mem_delivery
        (show record.item (.beginAttempt record request) ∈ _ from List.mem_cons_self)
      rw [hrow] at hcond heff
      simp only [DeliveryUpdate.condition_some, DeliveryUpdate.rowCondition,
        Bool.and_eq_true] at hcond
      have htells := (hidle.known.mono hbefore).tells hrow
        (DeliveryRow.ownedBy_revision hcond.1.1)
      refine SoundOk.ok
        ⟨rfl, ⟨_, Seen.of_read heff, htells.begun request⟩, fun howner => ?_⟩
      -- The owner of the metadata has a row, and this attempt had none.
      obtain ⟨-, attempt, hatt, -⟩ :=
        (hbase.fits hrow).owner (htells.providerAttemptId.trans howner)
      obtain ⟨hnone, -⟩ := hcommit.mem_attempt
        (show Item.attempt record.delivery.deliveryId request.attemptId
          (.put (startedAttempt record request)) ∈ _ by simp [beginAttemptItems])
      rw [hatt] at hnone
      cases hnone
  next => exact SoundOk.error _ _

/-! ## Completing attempts -/

/-- The completion contradicts no message. -/
theorem loadAttemptForTerminalCompletion_sound (deliveryId : DeliveryId)
    (completion : AttemptCompletion) (s : Store) :
    SoundOther P (fun attempt t => Base P t ∧
        t.attempt deliveryId completion.attemptId = some attempt ∧
        (completion.providerMessageId = none ∨ attempt.providerMessageId = none ∨
          attempt.providerMessageId = completion.providerMessageId))
      (loadAttemptForTerminalCompletion deliveryId completion) s := by
  refine (getConsistent_sound _ s).andThen ?_
  rintro row t _ ⟨hrow, hbase⟩
  cases row with
  | none => exact .other _
  | some attempt =>
    simp only
    split
    · exact .other _
    next hchecks =>
      refine .ok ⟨hbase, hrow, ?_⟩
      simp only [not_or, not_and] at hchecks
      cases hmsg : completion.providerMessageId with
      | none => exact .inl rfl
      | some =>
        rw [hmsg] at hchecks
        cases hknown : attempt.providerMessageId with
        | none => exact .inr (.inl rfl)
        | some =>
          rw [hknown] at hchecks
          exact .inr (.inr (not_not.mp (hchecks.2.2.1 rfl rfl)).symm)

/-- Attempt and delivery name the same message. -/
theorem Known.compatible {refreshed : DeliveryRecord} {attempt : AttemptRow} (h : Known refreshed s)
    (hbase : Base P s) (hreports : completion.Reports)
    (hatt : s.attempt refreshed.delivery.deliveryId completion.attemptId = some attempt)
    (hmsg : completion.providerMessageId = none ∨ attempt.providerMessageId = none ∨
      attempt.providerMessageId = completion.providerMessageId) :
    completion.Compatible refreshed.providerAttemptId refreshed.providerMessageId ∨
      Passed refreshed s := by
  rcases h.tells_or_passed with ⟨row, hrow, htells⟩ | hpassed
  · refine .inl ⟨hreports, ?_⟩
    by_cases howner : refreshed.providerAttemptId = some completion.attemptId
    · obtain ⟨hnamed, owner, howner', hsame⟩ :=
        (hbase.fits hrow).owner (htells.providerAttemptId.trans howner)
      cases hatt.symm.trans howner'
      rcases hmsg with hnone | hnone | heq
      · exact .inl hnone
      · rw [← hsame, hnone] at hnamed
        cases hnamed
      · exact .inr (.inr (by rw [← htells.providerMessageId, ← hsame, heq]))
    · exact .inr (.inl howner)
  · exact .inr hpassed

theorem completeAttemptBesideKnownTerminal_sound {refreshed : DeliveryRecord}
    (hvalid : validateCompletion completion = true) (hreports : completion.Reports)
    (hknown : Known refreshed s) (hkey : refreshed.SameKey record)
    (hterm : refreshed.delivery.state.terminal = true) :
    SoundOther P (fun _ _ => True)
      (completeAttemptBesideKnownTerminal record completion refreshed) s := by
  unfold completeAttemptBesideKnownTerminal
  split
  · exact .other _
  refine (loadAttemptForTerminalCompletion_sound _ completion s).andThen ?_
  rintro attempt t ht ⟨hbase, hatt, hmsg⟩
  split
  · exact .ok trivial
  have hcompat := (hknown.mono ht).compatible hbase hreports (hkey.2 ▸ hatt) hmsg
  refine transactWriteItems_sound ?_ ?_ ?_
  · intro u hu _
    exact .completeBeside record refreshed completion ((hknown.mono ht).mono hu) hkey hterm
      hvalid (hcompat.imp_right fun hpassed => hpassed.mono hu)
  · intro before u _ _ _ _
    exact SoundOther.ok trivial
  · intro reply u _ hne
    have hagain : SoundOther P (fun _ _ => True)
        ((loadAttemptForTerminalCompletion record.delivery.deliveryId completion).andThen
          fun current =>
            if current.outcome ≠ .started then pure (.ok ()) else pure (.error .other)) u := by
      refine (loadAttemptForTerminalCompletion_sound _ completion u).andThen ?_
      intro current v _ _
      split
      · exact .ok trivial
      · exact .other _
    cases reply with
    | committed => exact absurd rfl hne
    | cancelled reasons | unavailable => exact hagain

/-- A completer is right about terminal states. -/
def CompleterSound (P : Platform) (completer : Completer) : Prop :=
  ∀ record completion s, Known record s →
    (completion.nextState = .permanentFailed → record.possiblyAccepted = false) →
    completion.Compatible record.providerAttemptId record.providerMessageId →
    (discipline P).Sound (CompletionPost record completion.nextState)
      (completer record completion) s

theorem noRetry_sound : CompleterSound P noRetry :=
  fun _ _ _ _ _ _ => CompletionPost.other _ _ _

/-- After a success that may fail otherwise. -/
theorem completion_andThen {next : DeliveryState} {f : α → Prog (Except StoreError Unit)}
    (hp : SoundOther P mid p s)
    (hf : ∀ value t, Evolves s t → mid value t →
      (discipline P).Sound (CompletionPost record next) (f value) t) :
    (discipline P).Sound (CompletionPost record next) (p.andThen f) s := by
  refine Sound.bind ?_ hp
  rintro result t ht ⟨hres, hfailure⟩
  cases result with
  | ok value => exact hf value t ht (hres value rfl)
  | error failure =>
    cases hfailure failure rfl
    exact CompletionPost.other record next t

theorem completeBeside_sound (hvalid : validateCompletion completion = true)
    (hreports : completion.Reports) :
    (discipline P).Sound (CompletionPost record completion.nextState)
      (completeBeside P record completion) s := by
  have hbeside : SoundOther P (fun terminal t => terminal = true → record.Terminal t)
      (completeAttemptBesideTerminal P record completion) s := by
    refine (refresh_sound record s).andThen ?_
    rintro ⟨refreshed, terminal⟩ t _ ⟨hknown, hkey, hterm, -⟩
    cases terminal with
    | false => exact .ok (by simp)
    | true =>
      obtain ⟨hstate, hrecord⟩ := hterm rfl
      refine (completeAttemptBesideKnownTerminal_sound hvalid hreports hknown hkey hstate).andThen ?_
      intro _ u hu _
      exact .ok fun _ => TerminalAt.mono hrecord hu
  refine completion_andThen hbeside ?_
  intro terminal t _ hterm
  cases terminal with
  | true => exact ⟨by simp, fun _ => hterm rfl⟩
  | false => exact CompletionPost.other _ _ _

theorem recoveryFenceRetryable_sound (record : DeliveryRecord) (completion : AttemptCompletion)
    (s : Store) :
    (discipline P).Sound (fun _ _ => True) (recoveryFenceRetryable P record completion) s := by
  refine Sound.bind ?_ (refresh_sound record s)
  intro result t _ _
  cases result with
  | ok refreshed | error failure => trivial

theorem completeAttemptConflicted_sound (hretried : CompleterSound P retried)
    (hknown : Known record s) (hvalid : validateCompletion completion = true)
    (hfailed : completion.nextState = .permanentFailed → record.possiblyAccepted = false)
    (hcompat : completion.Compatible record.providerAttemptId record.providerMessageId) :
    (discipline P).Sound (CompletionPost record completion.nextState)
      (completeAttemptConflicted P conflict retried record completion) s := by
  unfold completeAttemptConflicted
  split
  · refine Sound.bind ?_ (recoveryFenceRetryable_sound record completion s)
    intro retryable t ht _
    split
    · exact hretried _ _ _ (hknown.mono ht) hfailed hcompat
    · exact completeBeside_sound hvalid hcompat.reports
  · exact completeBeside_sound hvalid hcompat.reports

/-- What the look for delayed feedback finds. -/
theorem refreshDelayedFeedbackCompletion_sound (record : DeliveryRecord)
    (completion : AttemptCompletion) (s : Store) :
    SoundOther P (fun found t =>
        match found with
        | .notApplicable => True
        | .terminal refreshed => Known refreshed t ∧ refreshed.SameKey record ∧
            refreshed.delivery.state.terminal = true ∧ record.Terminal t
        | .current refreshed mergeable => Known refreshed t ∧ refreshed.SameKey record ∧
            completion.nextState = .succeeded ∧
            (mergeable = true → completion.Compatible refreshed.providerAttemptId
              refreshed.providerMessageId))
      (refreshDelayedFeedbackCompletion P record completion) s := by
  unfold refreshDelayedFeedbackCompletion
  by_cases happlies : completion.outcome ≠ .succeeded ∨ completion.nextState ≠ .succeeded ∨
      completion.providerOutcome ≠ some .accepted ∨ completion.providerMessageId = none
  · rw [if_pos happlies]
    exact .ok trivial
  rw [if_neg happlies]
  have hsucc : completion.outcome = .succeeded := by
    by_contra hne
    exact happlies (.inl hne)
  have hnext : completion.nextState = .succeeded := by
    by_contra hne
    exact happlies (.inr (.inl hne))
  refine (getConsistent_sound _ s).andThen ?_
  rintro row t _ ⟨hrow, -⟩
  cases row with
  | none => exact .other _
  | some row =>
    simp only
    cases hdec : decodeDelivery P record.delivery.outboxId record.delivery.deliveryId row with
    | none => exact .other _
    | some refreshed =>
      obtain ⟨htells, hkey⟩ := decodeDelivery_some hdec
      simp only
      by_cases hterm : refreshed.delivery.state.terminal = true
      · rw [if_pos hterm]
        exact .ok
          ⟨Known.of_decode hdec hrow, hkey, hterm, row, hrow, by rw [htells.state]; exact hterm⟩
      · rw [if_neg hterm]
        refine .ok
          ⟨Known.of_decode hdec hrow, hkey, hnext, fun hmergeable => ?_⟩
        -- A mergeable record names the message of the completion.
        simp only [Bool.and_eq_true, decide_eq_true_eq] at hmergeable
        exact ⟨.inr hsucc, .inr (.inr hmergeable.2)⟩

theorem completeAttemptFailed_sound (hmerged : CompleterSound P merged)
    (hretried : CompleterSound P retried) (hknown : Known record s)
    (hvalid : validateCompletion completion = true)
    (hfailed : completion.nextState = .permanentFailed → record.possiblyAccepted = false)
    (hcompat : completion.Compatible record.providerAttemptId record.providerMessageId) :
    (discipline P).Sound (CompletionPost record completion.nextState)
      (completeAttemptFailed P merge conflict merged retried record completion) s := by
  unfold completeAttemptFailed
  split
  · refine completion_andThen (refreshDelayedFeedbackCompletion_sound record completion s) ?_
    intro found t ht hfound
    cases found with
    | notApplicable =>
      exact completeAttemptConflicted_sound hretried (hknown.mono ht) hvalid hfailed hcompat
    | terminal =>
      obtain ⟨hrefreshed, hkey, hstate, hterm⟩ := hfound
      refine completion_andThen (completeAttemptBesideKnownTerminal_sound hvalid
        hcompat.reports hrefreshed hkey hstate) ?_
      intro _ u hu _
      exact ⟨by simp, fun _ => TerminalAt.mono hterm hu⟩
    | current refreshed =>
      obtain ⟨hrefreshed, hkey, hnext, hmerge⟩ := hfound
      simp only
      split
      next hmergeable =>
        -- The merged completion speaks about the refreshed record of the same delivery.
        refine Sound.mono ?_ (hmerged _ _ _ hrefreshed (by rw [hnext]; simp) (hmerge hmergeable))
        rintro result u _ ⟨hok, hconcurrent⟩
        exact ⟨fun h hterm => (hok h hterm).of_sameKey hkey,
          fun h => (hconcurrent h).of_sameKey hkey⟩
      next =>
        split
        · exact hretried _ _ _ (hknown.mono ht) hfailed hcompat
        · exact completeAttemptConflicted_sound hretried (hknown.mono ht) hvalid hfailed
            hcompat
  · exact completeAttemptConflicted_sound hretried hknown hvalid hfailed hcompat

theorem completeAttemptOnce_sound {withoutSuppression : Completer}
    (hwithout : CompleterSound P withoutSuppression) (hmerged : CompleterSound P merged)
    (hretried : CompleterSound P retried) :
    CompleterSound P
      (completeAttemptOnce P merge fence withoutSuppression merged retried) := by
  intro record completion s hknown hfailed hcompat
  unfold completeAttemptOnce
  by_cases hvalid : (!completion.valid P record) = true
  · rw [if_pos hvalid]
    exact CompletionPost.other _ _ _
  rw [if_neg hvalid]
  have hcompletion : validateCompletion completion = true := by
    simp only [Bool.not_eq_true', Bool.not_eq_false, AttemptCompletion.valid,
      Bool.and_eq_true] at hvalid
    exact hvalid.1.2
  refine completion_andThen (recoveryDependencyOperation_sound record _ _ s) ?_
  intro recovery t ht hfence
  split
  · exact CompletionPost.other _ _ _
  refine transactWriteItems_sound ?_ ?_ ?_
  · intro u hu _
    exact .completeAttempt record completion recovery (hknown.mono (ht.trans hu)) hcompletion
      hfailed hcompat (hfence.mono hu)
  · intro before u hbefore _ _ hcommit
    refine ⟨fun _ hterm => ?_, by simp⟩
    obtain ⟨row, hrow, -⟩ := (hknown.mono (ht.trans hbefore)).exists_row
    obtain ⟨-, heff⟩ := hcommit.mem_delivery
      (show record.item (.completeAttempt record completion) ∈ _ by simp [completeAttemptItems])
    rw [hrow] at heff
    exact ⟨_, heff, hterm⟩
  · intro reply u hu hne
    have hafter : (discipline P).Sound (CompletionPost record completion.nextState)
        (if telegramSuppressionFenceLost reply
            (if completion.suppressTelegramDestination then some (2 + recovery.toList.length)
              else none) then
          withoutSuppression record completion
        else
          completeAttemptFailed P merge
            (fence && isAbsenceCheck recovery && isTransactionCanceled reply)
            merged retried record completion) u := by
      generalize (if completion.suppressTelegramDestination then
        some (2 + recovery.toList.length) else none) = index
      split
      · exact hwithout _ _ _ (hknown.mono (ht.trans hu)) hfailed hcompat
      · exact completeAttemptFailed_sound hmerged hretried (hknown.mono (ht.trans hu)) hcompletion
          hfailed hcompat
    cases reply with
    | committed => exact absurd rfl hne
    | cancelled reasons | unavailable => exact hafter

theorem completeAttemptWith_sound (hmerged : CompleterSound P merged)
    (hretried : CompleterSound P retried) :
    CompleterSound P (completeAttemptWith P merge fence merged retried) := by
  refine completeAttemptOnce_sound ?_ hmerged hretried
  intro record completion s hknown hfailed hcompat
  exact completeAttemptOnce_sound noRetry_sound hmerged hretried record
    { completion with suppressTelegramDestination := false } s hknown hfailed
    ⟨hcompat.reports, hcompat.message⟩

/-- A completion is justified and right. -/
theorem completeAttempt_sound : CompleterSound P (completeAttempt P) := by
  have hmerged : CompleterSound P (completeMerged P) :=
    completeAttemptWith_sound noRetry_sound
      (completeAttemptWith_sound noRetry_sound noRetry_sound)
  exact completeAttemptWith_sound hmerged (completeAttemptWith_sound hmerged noRetry_sound)

end LimnoPulse.Notifications
