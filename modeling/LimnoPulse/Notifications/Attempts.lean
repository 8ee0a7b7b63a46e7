import LimnoPulse.Notifications.Lifecycle
import Mathlib.Data.List.Perm.Subperm

/-!
# Attempt rows

Every attempt is recorded in a row of its own, in the transaction that counts it on
its delivery, and no row is ever removed.

Main results:

- Theorem `exec_attempts`: an operation starts one attempt of a delivery at most.
- Theorem `AttemptsCounted.exec`: the count of a delivery is the number of its
  attempt rows.
-/

namespace LimnoPulse.Notifications

open CivilTime StoreProgram

variable {P : Platform} {s t : Store} {deliveryId : DeliveryId}

/-- The attempts of a delivery that have a row. -/
def Store.attemptIds (s : Store) (deliveryId : DeliveryId) : List String :=
  s.rows.keys.filterMap fun
    | .attempt delivery attemptId => if delivery = deliveryId then some attemptId else none
    | _ => none

/-- The attempts of a delivery. -/
@[simp]
theorem Store.mem_attemptIds {attemptId : String} :
    attemptId ∈ s.attemptIds deliveryId ↔ (s.attempt deliveryId attemptId).isSome = true := by
  rw [attemptIds, List.mem_filterMap, attempt, AList.lookup_isSome, AList.mem_keys]
  constructor
  · rintro ⟨key, hkey, hmatch⟩
    split at hmatch
    · split at hmatch
      next heq =>
        cases hmatch
        exact heq ▸ hkey
      next => cases hmatch
    · cases hmatch
  · exact fun hkey => ⟨_, hkey, if_pos rfl⟩

/-- Each is listed once. -/
theorem Store.attemptIds_nodup (s : Store) (deliveryId : DeliveryId) :
    (s.attemptIds deliveryId).Nodup := by
  refine List.Nodup.filterMap ?_ s.rows.nodupKeys
  intro a b id ha hb
  -- Both keys are the key of this attempt.
  have hkey : ∀ {key : Key}, id ∈ (match key with
      | .attempt delivery attemptId => if delivery = deliveryId then some attemptId else none
      | _ => none) → key = .attempt deliveryId id := by
    intro key hkey
    split at hkey
    · split at hkey
      next heq =>
        cases hkey
        rw [heq]
      next => cases hkey
    · cases hkey
  exact (hkey ha).trans (hkey hb).symm

/-- What attempts hold does not change their number. -/
theorem Store.attemptIds_length_congr
    (h : ∀ attemptId, (t.attempt deliveryId attemptId).isSome =
      (s.attempt deliveryId attemptId).isSome) :
    (t.attemptIds deliveryId).length = (s.attemptIds deliveryId).length := by
  refine List.Perm.length_eq ((List.perm_ext_iff_of_nodup (t.attemptIds_nodup _)
    (s.attemptIds_nodup _)).mpr ?_)
  intro attemptId
  rw [mem_attemptIds, mem_attemptIds, h]

theorem Store.attemptIds_length_succ {new : String}
    (hnone : s.attempt deliveryId new = none) (hnew : (t.attempt deliveryId new).isSome = true)
    (h : ∀ attemptId, attemptId ≠ new → (t.attempt deliveryId attemptId).isSome =
      (s.attempt deliveryId attemptId).isSome) :
    (t.attemptIds deliveryId).length = (s.attemptIds deliveryId).length + 1 := by
  have hnot : new ∉ s.attemptIds deliveryId := by
    rw [mem_attemptIds, hnone]
    exact Bool.false_ne_true
  have hperm : (t.attemptIds deliveryId).Perm (new :: s.attemptIds deliveryId) := by
    refine (List.perm_ext_iff_of_nodup (t.attemptIds_nodup _)
      (List.nodup_cons.mpr ⟨hnot, s.attemptIds_nodup _⟩)).mpr ?_
    intro attemptId
    rw [List.mem_cons, mem_attemptIds, mem_attemptIds]
    by_cases heq : attemptId = new
    · rw [heq, hnew]
      exact ⟨fun _ => .inl rfl, fun _ => rfl⟩
    · rw [h attemptId heq]
      exact ⟨.inr, fun hor => hor.resolve_left heq⟩
  rw [hperm.length_eq, List.length_cons]

section Exec

variable {op : Op} {outcome : Outcome} {s t : Store} {reply : Reply op}

/-- One attempt starts, or all stay in place. -/
theorem exec_attempts (hjust : Justified P s op) (h : exec P op outcome s = some (reply, t))
    (deliveryId : DeliveryId) :
    (∃ record request, Started op s t record request ∧ deliveryId = record.delivery.deliveryId ∧
      (t.attemptIds deliveryId).length = (s.attemptIds deliveryId).length + 1) ∨
    (¬ ∃ record request, Started op s t record request ∧ deliveryId = record.delivery.deliveryId) ∧
      (t.attemptIds deliveryId).length = (s.attemptIds deliveryId).length := by
  -- Attempts other than those that are started now neither come nor go.
  have hother : ∀ attemptId, (∀ record request, Started op s t record request →
      deliveryId = record.delivery.deliveryId → attemptId ≠ request.attemptId) →
      (t.attempt deliveryId attemptId).isSome = (s.attempt deliveryId attemptId).isSome := by
    intro attemptId hne
    cases hrow : s.attempt deliveryId attemptId with
    | some => exact exec_attempt_isSome h (by rw [hrow]; rfl)
    | none =>
      cases hrow' : t.attempt deliveryId attemptId with
      | none => rfl
      | some =>
        obtain ⟨record, request, hstart, hdeliv, hatt, -⟩ := exec_attempt_new hjust h hrow hrow'
        exact absurd hatt (hne record request hstart hdeliv)
  by_cases hstart : ∃ record request, Started op s t record request ∧
      deliveryId = record.delivery.deliveryId
  · obtain ⟨record, request, hstart, rfl⟩ := hstart
    refine .inl ⟨record, request, hstart, rfl, ?_⟩
    obtain ⟨hnone, hnew⟩ := hstart.attempt
    refine Store.attemptIds_length_succ hnone (by rw [hnew]; rfl) fun attemptId hne => ?_
    refine hother attemptId fun record' request' hstart' _ => ?_
    -- One transaction starts one attempt.
    have hitems := hstart.items.symm.trans hstart'.items
    simp only [beginAttemptItems, List.cons_append, List.nil_append, List.cons.injEq,
      Item.attempt.injEq] at hitems
    rw [← hitems.2.1.2.1]
    exact hne
  · refine .inr ⟨hstart, Store.attemptIds_length_congr fun attemptId => ?_⟩
    exact hother attemptId fun record request h₁ h₂ => absurd ⟨record, request, h₁, h₂⟩ hstart

end Exec

/-- Only the start of an attempt writes the count. -/
theorem DeliveryUpdate.rowEffect_attemptCount {update : DeliveryUpdate}
    (h : ∀ record request, update ≠ .beginAttempt record request) (row : DeliveryRow) :
    (update.rowEffect row).attemptCount = row.attemptCount := by
  fun_cases rowEffect update row with
  | case4 record step => cases step <;> rfl
  | case5 record request => exact absurd rfl (h record request)
  | _ => rfl

/-- The count of a delivery is the number of its attempts. -/
structure AttemptsCounted (s : Store) : Prop where
  count : ∀ {outboxId deliveryId row}, s.delivery outboxId deliveryId = some row →
    row.attemptCount.getD 0 = (s.attemptIds deliveryId).length
  bound : ∀ {outboxId deliveryId row}, s.delivery outboxId deliveryId = some row →
    row.attemptCount.getD 0 ≤ maxProviderCalls
  delivery : ∀ {deliveryId attemptId}, (s.attempt deliveryId attemptId).isSome = true →
    ∃ row, s.delivery deliveryId.outboxId deliveryId = some row

/-- Nothing to count. -/
theorem Store.Fresh.attemptsCounted (h : s.Fresh) : AttemptsCounted s := by
  refine ⟨?_, ?_, ?_⟩
  · intro outboxId deliveryId row hrow
    rw [h.delivery] at hrow
    cases hrow
  · intro outboxId deliveryId row hrow
    rw [h.delivery] at hrow
    cases hrow
  · intro deliveryId attemptId hrow
    rw [h.attempt] at hrow
    cases hrow

/-- Operations count attempts. -/
theorem AttemptsCounted.exec {op : Op} {outcome : Outcome} {reply : Reply op}
    (hcounted : AttemptsCounted s) (hbase : Base P s) (hjust : Justified P s op)
    (h : exec P op outcome s = some (reply, t)) : AttemptsCounted t := by
  have hbase' : Base P t := hbase.exec hjust h
  have hcount : ∀ {outboxId deliveryId row}, t.delivery outboxId deliveryId = some row →
      row.attemptCount.getD 0 = (t.attemptIds deliveryId).length ∧
        row.attemptCount.getD 0 ≤ maxProviderCalls := by
    intro outboxId deliveryId row hrow
    cases hold : s.delivery outboxId deliveryId with
    | none =>
      -- A new delivery has no attempts.
      obtain ⟨snapshot, availableAt, index, -, -, rfl⟩ := exec_delivery_new h hold hrow
      have hnone : t.attemptIds deliveryId = [] := by
        refine List.eq_nil_iff_forall_not_mem.mpr fun attemptId hmem => ?_
        obtain ⟨attempt, hatt⟩ := Option.isSome_iff_exists.mp (Store.mem_attemptIds.mp hmem)
        obtain ⟨row, hrow'⟩ := hbase.delivery_of_attempt hjust h hatt
        rw [← hbase'.outboxId_eq hrow, hold] at hrow'
        cases hrow'
      rw [hnone]
      exact ⟨rfl, Nat.zero_le _⟩
    | some =>
      have hcount := hcounted.count hold
      have hbound := hcounted.bound hold
      rcases exec_attempts hjust h deliveryId with
        ⟨record, request, hstart, rfl, hlen⟩ | ⟨hnot, hlen⟩
      · obtain ⟨row', hrow', htells, heff⟩ := hstart.delivery
        have houtbox := (hbase.outboxId_eq hold).trans (hbase.outboxId_eq hrow').symm
        subst houtbox
        rw [hold] at hrow'
        cases hrow'
        rw [hrow] at heff
        cases heff
        change record.attemptCount + 1 = _ ∧ record.attemptCount + 1 ≤ _
        rw [hlen, ← hcount, htells.attemptCount]
        exact ⟨rfl, hstart.count⟩
      · rw [hlen, ← hcount]
        rcases exec_delivery h hold with hsame | ⟨update, hmem, hcommit, -, heff⟩
        · rw [hrow] at hsame
          cases hsame
          exact ⟨rfl, hbound⟩
        · rw [hrow] at heff
          cases heff
          rw [DeliveryUpdate.rowEffect_attemptCount]
          · exact ⟨rfl, hbound⟩
          · rintro record request rfl
            obtain ⟨⟨-, hid⟩, hknown, hless, -, -, hitems⟩ := hjust.grounds hbase hmem
            exact hnot ⟨record, request, ⟨hitems, hcommit, hknown, hless⟩, hid⟩
  refine ⟨fun hrow => (hcount hrow).1, fun hrow => (hcount hrow).2, ?_⟩
  intro deliveryId attemptId hatt
  obtain ⟨attempt, hatt⟩ := Option.isSome_iff_exists.mp hatt
  exact hbase'.attempted hatt

end LimnoPulse.Notifications
