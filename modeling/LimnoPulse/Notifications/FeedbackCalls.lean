import LimnoPulse.Notifications.Effects

/-!
# What a reconciliation asks of the store

A reconciliation reads rows, marks events as transported, and sends the transaction of
its event.  Once that transaction has changed anything the call reports the event as
applied, or fails.

Main results:

- Theorem `FeedbackOp.exec`: one operation applies its event at most once and only
  raises suppressions.
- Theorem `reconcileNow_cautious`: a call that has changed rows reports no duplicate.
-/

namespace LimnoPulse.Notifications

open CivilTime StoreProgram

variable {P : Platform} {α β : Type} {event : FeedbackEvent} {s t u : Store} {op : Op}
  {retention : Int} {now : Instant}

/-! ## Operations -/

/-- Attempts, deliveries, suppressions and the log stay. -/
structure Untouched (s t : Store) : Prop where
  attempt : ∀ deliveryId attemptId, t.attempt deliveryId attemptId = s.attempt deliveryId attemptId
  delivery : ∀ outboxId deliveryId, t.delivery outboxId deliveryId = s.delivery outboxId deliveryId
  deliverability : ∀ identity,
    t.rows.lookup (.deliverability identity) = s.rows.lookup (.deliverability identity)
  applied : t.applied = s.applied

theorem Untouched.refl (s : Store) : Untouched s s :=
  ⟨fun _ _ => rfl, fun _ _ => rfl, fun _ => rfl, rfl⟩

/-- Ranks never fall, and suppressed addresses stay so. -/
def SuppressionsRaised (s t : Store) : Prop :=
  ∀ identity (row : DeliverabilityRow), s.rows.lookup (.deliverability identity) = some row →
    ∃ row' : DeliverabilityRow, t.rows.lookup (.deliverability identity) = some row' ∧
      row.rank.getD 0 ≤ row'.rank.getD 0 ∧
      (row.deliverability = some .suppressed → row'.deliverability = some .suppressed)

theorem SuppressionsRaised.trans (h : SuppressionsRaised s t) (h' : SuppressionsRaised t u) :
    SuppressionsRaised s u := by
  intro identity row hrow
  obtain ⟨mid, hmid, hle, hstays⟩ := h identity row hrow
  obtain ⟨last, hlast, hle', hstays'⟩ := h' identity mid hmid
  exact ⟨last, hlast, Int.le_trans hle hle', hstays' ∘ hstays⟩

/-- Nothing is lowered. -/
theorem Untouched.suppressionsRaised (h : Untouched s t) : SuppressionsRaised s t :=
  fun identity row hrow => ⟨row, (h.deliverability identity).trans hrow, Int.le_refl _, id⟩

/-- The log names nothing twice, and what it names is marked. -/
structure AppliedOnce (s : Store) : Prop where
  nodup : s.applied.Nodup
  marked : ∀ messageId semanticType, (messageId, semanticType) ∈ s.applied →
    (s.rows.lookup (.semantic messageId semanticType)).isSome = true

/-- The item, if there is one, writes a delivery. -/
def WritesDelivery (item : Option Item) : Prop :=
  item = none ∨ ∃ outboxId deliveryId update, item = some (.delivery outboxId deliveryId update)

/-- A suppression has a higher rank than was read. -/
def RaisesRank (item : Option Item) : Prop :=
  item = none ∨ ∃ identity suppress, item = some (.suppression identity suppress) ∧
    ∀ row, suppress.current = some row → row.rank.getD 0 < suppress.reason.rank

/-- The operations of a reconciliation. -/
inductive FeedbackOp (event : FeedbackEvent) : Op → Prop
  | get (key : Key) : FeedbackOp event (.get key)
  | now : FeedbackOp event .now
  | mark (retention : Int) (now : Instant) :
      FeedbackOp event (.transact [transportPut retention event now])
  | reconcile (retention : Int) (now : Instant) (plan : Reconciliation)
      (hrecovery : WritesDelivery plan.recovery) (hsuppression : RaisesRank plan.suppression) :
      FeedbackOp event (.transact (reconcileTransaction retention event now plan))

/-- A row that a marker does not write. -/
theorem Committed.marked (h : Committed [transportPut retention event now] s t) (key : Key)
    (hkey : ∀ id, key ≠ .transport id) : t.rows.lookup key = s.rows.lookup key := by
  rcases h.item_of_key key with ⟨item, hmem, rfl⟩ | hframe
  · cases List.mem_singleton.mp hmem
    exact absurd rfl (hkey _)
  · exact hframe

/-- A transport marker changes nothing else. -/
theorem Committed.untouched
    (h : Committed [transportPut retention event now] s t) : Untouched s t where
  attempt _ _ := h.marked (.attempt _ _) nofun
  delivery _ _ := h.marked (.delivery _ _) nofun
  deliverability _ := h.marked (.deliverability _) nofun
  applied := by
    rw [h.applied]
    simp [Store.log, transportPut]

section Reconciled

variable {retention : Int} {now : Instant} {plan : Reconciliation}

/-- A commit is logged. -/
theorem Reconciliation.log_applied (hrecov : WritesDelivery plan.recovery)
    (hsuppr : RaisesRank plan.suppression) :
    (s.log (reconcileTransaction retention event now plan)).applied =
      s.applied ++ [(event.providerMessageId, event.semanticType)] := by
  rcases hrecov with hitem | ⟨_, _, _, hitem⟩ <;>
    rcases hsuppr with hput | ⟨_, _, hput, -⟩ <;>
    simp [Store.log, reconcileTransaction, hitem, hput, transportPut, semanticPut,
      Reconciliation.deliveryItem]

/-- Items other than attempt, delivery and transport marker. -/
theorem Reconciliation.item_cases (hrecov : WritesDelivery plan.recovery)
    (hsuppr : RaisesRank plan.suppression) {item : Item}
    (hmem : item ∈ reconcileTransaction retention event now plan) :
    item = semanticPut event ∨
      (∃ identity suppress, item = .suppression identity suppress ∧
        ∀ row, suppress.current = some row → row.rank.getD 0 < suppress.reason.rank) ∨
      (∀ messageId semanticType, item.key ≠ .semantic messageId semanticType) ∧
        ∀ identity, item.key ≠ .deliverability identity := by
  rcases reconcileTransaction_items.mp hmem with rfl | rfl | rfl | rfl | hitem | hitem
  · exact .inr (.inr ⟨nofun, nofun⟩)
  · exact .inl rfl
  · exact .inr (.inr ⟨nofun, nofun⟩)
  · exact .inr (.inr ⟨nofun, nofun⟩)
  · rcases hrecov with hnone | ⟨_, _, _, hsome⟩
    · cases hnone.symm.trans hitem
    · cases hsome.symm.trans hitem
      exact .inr (.inr ⟨nofun, nofun⟩)
  · rcases hsuppr with hnone | ⟨identity, suppress, hsome, hrank⟩
    · cases hnone.symm.trans hitem
    · cases hsome.symm.trans hitem
      exact .inr (.inl ⟨identity, suppress, rfl, hrank⟩)

section

variable (h : Committed (reconcileTransaction retention event now plan) s t)
  (hrecov : WritesDelivery plan.recovery) (hsuppr : RaisesRank plan.suppression)
include h hrecov hsuppr

/-- The marker was free and is taken; the others stay. -/
theorem Committed.semantic :
    s.rows.lookup (.semantic event.providerMessageId event.semanticType) = none ∧
      ∀ messageId semanticType,
        (s.rows.lookup (.semantic messageId semanticType)).isSome = true ∨
          (messageId, semanticType) = (event.providerMessageId, event.semanticType) →
        (t.rows.lookup (.semantic messageId semanticType)).isSome = true := by
  obtain ⟨hfree, htaken⟩ := Table.transact_mem h.rows (List.mem_map_of_mem
    (reconcileTransaction_items.mpr (.inr (.inl rfl)) : semanticPut event ∈ _))
  have htaken := Option.isSome_iff_exists.mpr ⟨_, htaken⟩
  refine ⟨Option.isNone_iff_eq_none.mp hfree, ?_⟩
  intro messageId semanticType hmarked
  rcases h.item_of_key (.semantic messageId semanticType) with ⟨item, hmem, hkey⟩ | hframe
  · rcases Reconciliation.item_cases hrecov hsuppr hmem with rfl | ⟨_, _, rfl, -⟩ | ⟨hne, -⟩
    · cases hkey
      exact htaken
    · cases hkey
    · exact absurd hkey (hne _ _)
  · rcases hmarked with hmarked | heq
    · exact hframe ▸ hmarked
    · cases heq
      exact htaken

/-- A commit only raises. -/
theorem Committed.suppressionsRaised :
    SuppressionsRaised s t := by
  intro identity row hrow
  rcases h.item_of_key (.deliverability identity) with ⟨item, hmem, hkey⟩ | hframe
  · have htable := Table.transact_mem h.rows (List.mem_map_of_mem hmem)
    rcases Reconciliation.item_cases hrecov hsuppr hmem with
      rfl | ⟨_, suppress, rfl, hrank⟩ | ⟨-, hne⟩
    · cases hkey
    · cases hkey
      obtain ⟨hcond, heff⟩ := htable
      refine ⟨suppress.row, heff, ?_, fun _ => rfl⟩
      change suppress.condition (s.rows.lookup (.deliverability identity)) = true at hcond
      rw [hrow] at hcond
      -- The stored rank is the one that was read, and the new one is higher.
      cases hcur : suppress.current with
      | none => simp [SuppressionPut.condition, hcur] at hcond
      | some current =>
        have hhigher := hrank current hcur
        simp only [SuppressionPut.condition, hcur, Option.any_some, Bool.and_eq_true] at hcond
        have hsame : row.rank.getD 0 = current.rank.getD 0 := by
          have hread := hcond.2
          split at hread
          next hzero => rw [hzero, of_decide_eq_true hread, Option.getD_none]
          next =>
            rw [Bool.and_eq_true] at hread
            rw [of_decide_eq_true hread.1]
        change row.rank.getD 0 ≤ suppress.reason.rank
        omega
    · exact absurd hkey (hne identity)
  · exact ⟨row, hframe.trans hrow, Int.le_refl _, id⟩

end

end Reconciled

/-- Suppressions are only raised and events applied once; what changes rows applies the event. -/
theorem FeedbackOp.exec {outcome : Outcome} {reply : Reply op} (hop : FeedbackOp event op)
    (h : Notifications.exec P op outcome s = some (reply, t)) :
    SuppressionsRaised s t ∧ (AppliedOnce s → AppliedOnce t) ∧
      (Untouched s t ∨
        t.applied = s.applied ++ [(event.providerMessageId, event.semanticType)]) := by
  have hsame : SuppressionsRaised s s ∧ (AppliedOnce s → AppliedOnce s) ∧
      (Untouched s s ∨ s.applied = s.applied ++ [(event.providerMessageId, event.semanticType)]) :=
    ⟨(Untouched.refl s).suppressionsRaised, id, .inl (.refl s)⟩
  cases hop with
  | get key | now =>
    cases h
    exact hsame
  | mark =>
    rcases transact_committed (Option.some.inj h) with ⟨rfl, -⟩ | ⟨hcommit, -⟩
    · exact hsame
    · have htouch := hcommit.untouched
      refine ⟨htouch.suppressionsRaised, fun hs => ⟨htouch.applied ▸ hs.nodup, ?_⟩, .inl htouch⟩
      intro messageId semanticType hmem
      rw [hcommit.marked (.semantic _ _) nofun]
      exact hs.marked _ _ (htouch.applied ▸ hmem)
  | reconcile retention now plan hrecov hsuppr =>
    rcases transact_committed (Option.some.inj h) with ⟨rfl, -⟩ | ⟨hcommit, -⟩
    · exact hsame
    · obtain ⟨hfree, hmarked⟩ := hcommit.semantic hrecov hsuppr
      have happlied := hcommit.applied.trans (Reconciliation.log_applied hrecov hsuppr)
      refine ⟨hcommit.suppressionsRaised hrecov hsuppr, fun hs => ⟨?_, ?_⟩, .inr happlied⟩
      · rw [happlied, List.nodup_append_comm, List.singleton_append, List.nodup_cons]
        refine ⟨fun hmem => ?_, hs.nodup⟩
        have hsome := hs.marked _ _ hmem
        rw [hfree] at hsome
        cases hsome
      · intro messageId semanticType hmem
        rw [happlied, List.mem_append, List.mem_singleton] at hmem
        exact hmarked _ _ (hmem.imp_left (hs.marked _ _))

/-! ## Calls -/

/-- Operations of a reconciliation, with results in `post`, and in `applied` after a change. -/
def Cautious (P : Platform) (event : FeedbackEvent) (applied post : α → Prop) : Prog α → Prop
  | .done result => post result
  | .call op next => FeedbackOp event op ∧ ∀ reply, Cautious P event applied post (next reply) ∧
      ∀ outcome s t, exec P op outcome s = some (reply, t) → ¬ Untouched s t →
        (next reply).Returns applied

/-- The result, if it is one, satisfies `Q`. -/
def IfOk (Q : α → Prop) (result : Except StoreError α) : Prop := ∀ value, result = .ok value → Q value

variable {applied post : α → Prop} {applied' post' : β → Prop}

/-- A result. -/
theorem Cautious.done {result : α} (h : post result) :
    Cautious P event applied post (pure result) :=
  h

/-- One program after another. -/
theorem Cautious.bind {f : α → Prog β}
    (hf : ∀ value, post value → Cautious P event applied' post' (f value))
    (happlied : ∀ value, applied value → (f value).Returns applied') :
    ∀ {p : Prog α}, Cautious P event applied post p → Cautious P event applied' post' (p >>= f)
  | .done result, hp => hf result hp
  | .call _ _, hp => ⟨hp.1, fun reply => ⟨(hp.2 reply).1.bind hf happlied,
      fun outcome s t hexec hchanged =>
        ((hp.2 reply).2 outcome s t hexec hchanged).bind happlied⟩⟩

/-- An operation that changes nothing. -/
theorem Cautious.call {next : Reply op → Prog α} (hop : FeedbackOp event op)
    (hnothing : ∀ outcome s reply t, exec P op outcome s = some (reply, t) → Untouched s t)
    (hnext : ∀ reply, Cautious P event applied post (next reply)) :
    Cautious P event applied post (.call op next) :=
  ⟨hop, fun reply => ⟨hnext reply, fun outcome s t hexec hchanged =>
    absurd (hnothing outcome s reply t hexec) hchanged⟩⟩

/-- A read changes nothing. -/
theorem Cautious.read {key : Key} {applied post : Except StoreError α → Prop}
    {f : Option (Row key) → Prog (Except StoreError α)} (herror : post (.error .other))
    (hf : ∀ row, Cautious P event applied post (f row)) :
    Cautious P event applied post ((getConsistent key).andThen f) := by
  refine Cautious.call (.get key) ?_ fun reply => ?_
  · rintro outcome s reply t ⟨⟩
    exact .refl s
  · cases reply with
    | row row => exact hf row
    | unavailable => exact herror

theorem ifOk_none : IfOk WritesDelivery (.ok none) := by
  rintro _ ⟨⟩
  exact .inl rfl

theorem recoveryOperation_cautious (opening : DeliverySnapshot) (ending : OpeningEnd)
    (now : Instant) :
    Cautious P event (fun _ => False) (IfOk WritesDelivery)
      (recoveryOperation opening ending now) := by
  have herror : IfOk WritesDelivery (.error .other) := by rintro _ ⟨⟩
  have hsome (outboxId deliveryId update) :
      IfOk WritesDelivery (.ok (some (.delivery outboxId deliveryId update))) := by
    rintro _ ⟨⟩
    exact .inr ⟨outboxId, deliveryId, update, rfl⟩
  unfold recoveryOperation
  split
  · exact .done herror
  · refine Cautious.read herror fun row => ?_
    cases row with
    | none => exact .done (hsome _ _ _)
    | some =>
      dsimp only
      repeat' split
      all_goals
        first | exact .done ifOk_none | exact .done (hsome _ _ _) | exact .done herror

theorem feedbackRecoveryOperation_cautious (attempt : AttemptRow) (opening : DeliveryRow)
    (decision : DeliveryProviderDecision) (nextState : DeliveryState) (now : Instant) :
    Cautious P event (fun _ => False) (IfOk WritesDelivery)
      (feedbackRecoveryOperation attempt opening decision nextState now) := by
  unfold feedbackRecoveryOperation
  repeat' split
  all_goals first | exact .done ifOk_none | exact recoveryOperation_cautious _ _ _

/-- A try that ends has applied its event. -/
abbrev TryApplied : Except StoreError (Option ReconcileResult) → Prop :=
  IfOk fun result => ∃ suppressed, result = some (.applied suppressed)

theorem dedupeNowExists_cautious :
    Cautious P event (fun _ => False) (fun _ => True) (dedupeNowExists event) := by
  refine Cautious.read trivial fun row => ?_
  cases row with
  | some =>
    dsimp only
    split <;> trivial
  | none =>
    refine Cautious.read trivial fun row => ?_
    cases row with
    | none => trivial
    | some =>
      dsimp only
      split <;> trivial

theorem persistTransportDuplicate_cautious (retention : Int) (now : Instant) :
    Cautious P event (fun _ => False) (fun _ => True)
      (persistTransportDuplicate retention event now) := by
  refine Cautious.call (.mark retention now) ?_ fun reply => ?_
  · intro outcome s reply t hexec
    rcases transact_committed (Option.some.inj hexec) with ⟨rfl, -⟩ | ⟨hcommit, -⟩
    · exact .refl _
    · exact hcommit.untouched
  · cases reply with
    | committed | unavailable => trivial
    | cancelled =>
      refine Cautious.read trivial fun row => ?_
      cases row with
      | none => trivial
      | some =>
        dsimp only
        split <;> trivial

/-- A commit applies its event. -/
theorem commitReconciliation_cautious {plan : Reconciliation}
    (hrecov : WritesDelivery plan.recovery) (hsuppr : RaisesRank plan.suppression) :
    Cautious P event TryApplied (fun _ => True)
      (commitReconciliation retention event now plan) := by
  refine ⟨.reconcile retention now plan hrecov hsuppr, fun reply => ?_⟩
  cases reply with
  | committed =>
    refine ⟨trivial, fun _ _ _ _ _ => ?_⟩
    rintro _ ⟨⟩
    exact ⟨_, rfl⟩
  | unavailable => exact ⟨trivial, fun _ _ _ _ _ => nofun⟩
  | cancelled reasons =>
    refine ⟨(dedupeNowExists_cautious).bind
      (fun result _ => by cases result <;> trivial) fun _ => False.elim, ?_⟩
    intro outcome s t hexec hchanged
    rcases transact_committed (Option.some.inj hexec) with ⟨rfl, -⟩ | ⟨-, hreply⟩
    · exact absurd (.refl _) hchanged
    · exact absurd rfl (hreply reasons)

theorem readSuppression_cautious {delivery : DeliveryRow}
    {next : Option Item → Prog (Except StoreError (Option ReconcileResult))}
    (hnext : ∀ item, RaisesRank item → Cautious P event TryApplied (fun _ => True) (next item)) :
    Cautious P event TryApplied (fun _ => True) (readSuppression P event delivery next) := by
  unfold readSuppression
  split
  · exact hnext none (.inl rfl)
  next reason hreason =>
    split
    · trivial
    next identity hident =>
      refine Cautious.read trivial fun row => ?_
      cases row with
      | none => exact hnext _ (.inr ⟨identity, _, rfl, nofun⟩)
      | some =>
        dsimp only
        split
        · refine hnext _ ?_
          split
          next hrank =>
            refine .inr ⟨identity, _, rfl, ?_⟩
            rintro _ ⟨⟩
            exact hrank
          next => exact .inl rfl
        · trivial

section

variable (retention : Int) (now : Instant)

theorem reconcileAttempt_cautious (attempt : AttemptRow) :
    Cautious P event TryApplied (fun _ => True)
      (reconcileAttempt P retention event now attempt) := by
  refine Cautious.read trivial fun row => ?_
  cases row with
  | none => trivial
  | some =>
    dsimp only
    split
    · split
      · trivial
      · refine (feedbackRecoveryOperation_cautious attempt _ _ _
          now).bind (fun result hres => ?_) fun _ => False.elim
        cases result with
        | error => exact .done trivial
        | ok recovery =>
          exact readSuppression_cautious fun suppression hsuppr =>
            commitReconciliation_cautious (hres recovery rfl) hsuppr
    · trivial

theorem reconcileOnce_cautious :
    Cautious P event TryApplied (fun _ => True) (reconcileOnce P retention event now) := by
  refine Cautious.read trivial fun transport => ?_
  cases transport with
  | some => trivial
  | none =>
    refine Cautious.read trivial fun semantic => ?_
    cases semantic with
    | some =>
      dsimp only
      split
      · exact (persistTransportDuplicate_cautious retention
          now).bind (fun result _ => by cases result <;> trivial) fun _ => False.elim
      · trivial
    | none =>
      refine Cautious.read trivial fun attempt => ?_
      cases attempt with
      | none => trivial
      | some attempt =>
        dsimp only
        split
        · exact reconcileAttempt_cautious retention now attempt
        · trivial

theorem reconcileTries_cautious : ∀ tries : Nat,
    Cautious P event (IfOk fun result => ∃ suppressed, result = .applied suppressed)
      (fun _ => True) (reconcileTries P retention event now tries)
  | 0 => trivial
  | tries + 1 => by
    refine (reconcileOnce_cautious retention now).bind (fun result _ => ?_) fun result happlied => ?_
    · rcases result with failure | (_ | result)
      · trivial
      · exact reconcileTries_cautious tries
      · trivial
    · cases result with
      | error => exact nofun
      | ok result =>
        obtain ⟨suppressed, rfl⟩ := happlied result rfl
        rintro _ ⟨⟩
        exact ⟨suppressed, rfl⟩

/-- A reconciliation reports what it has changed. -/
theorem reconcile_cautious :
    Cautious P event (IfOk fun result => ∃ suppressed, result = .applied suppressed)
      (fun _ => True) (reconcile P retention event now) := by
  unfold reconcile
  split
  · exact reconcileTries_cautious retention now _
  · trivial

end

/-- A call that has changed rows reports it, or fails. -/
theorem reconcileNow_cautious (retention : Int) :
    Cautious P event
      (fun result => ∀ ended, result = .reconciled (.ok ended) → ∃ suppressed, ended = .applied suppressed)
      (fun _ => True) (reconcileNow P retention event) := by
  refine Cautious.call .now ?_ fun now => ?_
  · rintro outcome s reply t ⟨⟩
    exact .refl s
  · refine (reconcile_cautious retention now).bind (fun _ _ => Cautious.done trivial) ?_
    rintro result happlied ended ⟨⟩
    exact happlied ended rfl

theorem Cautious.performs : ∀ {p : Prog α}, Cautious P event applied post p →
    p.Performs (FeedbackOp event)
  | .done _, _ => trivial
  | .call _ _, hp => ⟨hp.1, fun reply => (hp.2 reply).1.performs⟩

end LimnoPulse.Notifications
