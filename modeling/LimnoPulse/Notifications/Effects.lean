import LimnoPulse.Notifications.Machine

/-!
# What an operation does to the store

Main results:

- Theorem `exec_cases`: an operation leaves the store alone, commits its items,
  changes the queue or a log, or is an edit by another service.
- Theorem `Committed.delivery`: what a committed transaction does to one delivery,
  and likewise for the other kinds of rows.
-/

namespace LimnoPulse.Notifications

open CivilTime StoreProgram

variable {item : Item} {deliveryId : DeliveryId} {outcome : Outcome} {s t : Store}

/-- The row that is checked. -/
def GateCheck.key : GateCheck → Key
  | .member record _ => .member record.delivery.tenantId record.delivery.recipientId
  | .emailPreference record _ | .telegramPreference record _ =>
    .preference record.delivery.tenantId record.delivery.recipientId
  | .binding record _ => .telegramBinding record.delivery.tenantId record.delivery.recipientId
  | .destination _ fence => .telegramDestination fence.telegramDestinationId
  | .emailEvent record _ | .telegramEvent record _ =>
    .alertEvent record.delivery.tenantId record.delivery.eventId
  | .deliverability dependency => .deliverability dependency.identity

/-- The row of an item. -/
def Item.key : Item → Key
  | .delivery outboxId deliveryId _ => .delivery outboxId deliveryId
  | .attempt deliveryId attemptId _ => .attempt deliveryId attemptId
  | .outbox tenantId outboxId _ => .outbox tenantId outboxId
  | .gate check => check.key
  | .destination record => .telegramDestination record.delivery.destinationId
  | .transport eventBridgeId _ => .transport eventBridgeId
  | .semantic providerMessageId semanticType _ => .semantic providerMessageId semanticType
  | .suppression identity _ => .deliverability identity

/-- Items keep their rows. -/
theorem Item.toTableItem_key (item : Item) : item.toTableItem.key = item.key := by
  cases item with
  | gate check =>
    cases check with
    | deliverability =>
      simp only [Item.toTableItem, GateCheck.toTableItem]
      split <;> rfl
    | _ => rfl
  | _ => rfl

/-- Items of a delivery. -/
theorem Item.key_eq_delivery {outboxId : OutboxId} :
    item.key = .delivery outboxId deliveryId ↔
      ∃ update, item = .delivery outboxId deliveryId update := by
  cases item with
  | gate check => cases check <;> simp [Item.key, GateCheck.key]
  | _ => simp [Item.key]

/-- Items of an attempt. -/
theorem Item.key_eq_attempt {attemptId : String} :
    item.key = .attempt deliveryId attemptId ↔
      ∃ update, item = .attempt deliveryId attemptId update := by
  cases item with
  | gate check => cases check <;> simp [Item.key, GateCheck.key]
  | _ => simp [Item.key]

/-- The items an operation asks the table to write. -/
def Op.items : Op → List Item
  | .transact items => items
  | .updateDelivery outboxId deliveryId update => [.delivery outboxId deliveryId update]
  | .updateOutbox tenantId outboxId update => [.outbox tenantId outboxId update]
  | _ => []

/-- The items were written, in one step. -/
structure Committed (items : List Item) (s t : Store) : Prop where
  rows : Table.transact (items.map Item.toTableItem) s.rows = some t.rows
  messages : t.messages = s.messages
  sends : t.sends = s.sends
  applied : t.applied = (s.log items).applied

namespace Committed

variable {items : List Item} {s t : Store}

section

variable (h : Committed items s t)
include h

/-- The item of a key, if the transaction has one. -/
theorem item_of_key (key : Key) :
    (∃ item ∈ items, item.key = key) ∨ t.rows.lookup key = s.rows.lookup key := by
  by_cases hex : ∃ item ∈ items, item.key = key
  · exact .inl hex
  · refine .inr (Table.transact_frame h.rows ?_)
    intro item hitem hkey
    obtain ⟨source, hsource, rfl⟩ := List.mem_map.mp hitem
    exact hex ⟨source, hsource, source.toTableItem_key.symm.trans hkey⟩

/-- What the transaction did to one delivery. -/
theorem delivery (outboxId : OutboxId) (deliveryId : DeliveryId) :
    (∃ update, Item.delivery outboxId deliveryId update ∈ items ∧
      update.condition (s.delivery outboxId deliveryId) = true ∧
      t.delivery outboxId deliveryId = update.effect (s.delivery outboxId deliveryId)) ∨
    t.delivery outboxId deliveryId = s.delivery outboxId deliveryId := by
  rcases h.item_of_key (.delivery outboxId deliveryId) with ⟨item, hmem, hkey⟩ | hframe
  · obtain ⟨update, rfl⟩ := Item.key_eq_delivery.mp hkey
    exact .inl ⟨update, hmem, Table.transact_mem h.rows (List.mem_map_of_mem hmem)⟩
  · exact .inr hframe

/-- What becomes of an attempt. -/
theorem attempt (deliveryId : DeliveryId) (attemptId : String) :
    (∃ update, Item.attempt deliveryId attemptId update ∈ items ∧
      update.condition (s.attempt deliveryId attemptId) = true ∧
      t.attempt deliveryId attemptId = update.effect (s.attempt deliveryId attemptId)) ∨
    t.attempt deliveryId attemptId = s.attempt deliveryId attemptId := by
  rcases h.item_of_key (.attempt deliveryId attemptId) with ⟨item, hmem, hkey⟩ | hframe
  · obtain ⟨update, rfl⟩ := Item.key_eq_attempt.mp hkey
    exact .inl ⟨update, hmem, Table.transact_mem h.rows (List.mem_map_of_mem hmem)⟩
  · exact .inr hframe

/-- An item found its condition true and left its effect. -/
theorem mem_delivery {outboxId : OutboxId}
    {update : DeliveryUpdate} (hmem : Item.delivery outboxId deliveryId update ∈ items) :
    update.condition (s.delivery outboxId deliveryId) = true ∧
      t.delivery outboxId deliveryId = update.effect (s.delivery outboxId deliveryId) :=
  Table.transact_mem h.rows (List.mem_map_of_mem hmem)

/-- The update of an attempt. -/
theorem mem_attempt {attemptId : String}
    {update : AttemptUpdate} (hmem : Item.attempt deliveryId attemptId update ∈ items) :
    update.condition (s.attempt deliveryId attemptId) = true ∧
      t.attempt deliveryId attemptId = update.effect (s.attempt deliveryId attemptId) :=
  Table.transact_mem h.rows (List.mem_map_of_mem hmem)

end

end Committed

/-- A message that is marked in place. -/
def Store.markMessage (s : Store) (position : Nat) (mark : QueueMessage → QueueMessage) : Store :=
  { s with messages := s.messages.modify position mark }

/-- An update is logged and answered with its row exactly when it commits. -/
theorem update_committed
    {reply : UpdateReply (Row item.toTableItem.key)} (h : s.update outcome item = (reply, t)) :
    (t = s ∧ ∀ row, reply ≠ .updated row) ∨
      (Committed [item] s t ∧ ∀ row, reply = .updated row →
        item.toTableItem.effect (s.rows.lookup item.toTableItem.key) = some row) := by
  unfold Store.update at h
  obtain ⟨rfl, rfl⟩ := Prod.mk.inj h
  rcases updateRequest_cases (show updateRequest outcome.fault item.toTableItem s.rows = (_, _)
    from rfl) with ⟨hlost, -, hreply⟩ | ⟨hfault, hholds, hrows, hreply⟩
  · left
    refine ⟨if_neg ?_, hreply⟩
    rcases hlost with hlost | hlost <;> simp [hlost]
  · right
    simp only [ne_eq, hfault, not_false_eq_true, decide_true, hholds, Bool.and_true, if_true]
    exact ⟨⟨hrows, rfl, rfl, rfl⟩, hreply⟩

/-- A transaction is logged exactly when it commits, and then not cancelled. -/
theorem transact_committed {items : List Item}
    {reply : TransactReply} (h : s.transact outcome items = (reply, t)) :
    (t = s ∧ reply ≠ .committed) ∨ Committed items s t ∧ ∀ reasons, reply ≠ .cancelled reasons := by
  unfold Store.transact at h
  obtain ⟨rfl, rfl⟩ := Prod.mk.inj h
  cases hrows : Table.transact (items.map Item.toTableItem) s.rows with
  | none =>
    refine .inl ⟨by simp, ?_⟩
    rcases transactRequest_cases (show transactRequest outcome.fault outcome.contended
      (items.map Item.toTableItem) s.rows = (_, _) from rfl) with hsame | hcommit
    · exact hsame.2
    · rw [hrows] at hcommit
      cases hcommit
  | some =>
    cases hfault : outcome.fault <;> cases hcontended : outcome.contended <;>
      simp only [transactRequest, hrows, Option.isSome_some, Option.getD_some, ne_eq,
        reduceCtorEq, not_false_eq_true, not_true_eq_false, decide_true, decide_false,
        Bool.not_true, Bool.not_false, Bool.and_true, Bool.and_false, Bool.false_eq_true,
        if_true, if_false, true_and] <;>
      first
        | exact .inr ⟨⟨hrows, rfl, rfl, rfl⟩, by simp⟩
        | exact .inl trivial

/-- Everything an operation can do to the store. -/
theorem exec_cases {P : Platform} {op : Op} {reply : Reply op}
    (h : exec P op outcome s = some (reply, t)) :
    t = s ∨ Committed op.items s t ∨
      (∃ job messageId, op = .publish job ∧
        t = { s with messages := s.messages ++ [{ messageId := messageId, job := job }] }) ∨
      (∃ position, op = .deleteMessage position ∧
        t = s.markMessage position fun m => { m with deleted := true }) ∨
      (∃ request, op = .send request ∧
        t = { s with sends := s.sends ++ [(request.delivery.deliveryId, request.attemptId)] }) ∨
      ∃ change, op = .edit change ∧ t = s.edit change := by
  cases op with
  | updateDelivery outboxId deliveryId update | updateOutbox tenantId outboxId update =>
    rcases update_committed (Option.some.inj h) with ⟨rfl, -⟩ | ⟨hcommit, -⟩
    · exact .inl rfl
    · exact .inr (.inl hcommit)
  | transact =>
    simp only [exec, Option.some.injEq] at h
    rcases transact_committed h with ⟨rfl, -⟩ | ⟨hcommit, -⟩
    · exact .inl rfl
    · exact .inr (.inl hcommit)
  | publish job =>
    simp only [exec] at h
    split at h <;> cases h
    · exact .inr (.inr (.inl ⟨job, outcome.text, rfl, rfl⟩))
    · exact .inl rfl
    · exact .inr (.inr (.inl ⟨job, outcome.text, rfl, rfl⟩))
  | deleteMessage position =>
    simp only [exec] at h
    split at h <;> cases h
    · exact .inr (.inr (.inr (.inl ⟨position, rfl, rfl⟩)))
    · exact .inl rfl
    · exact .inr (.inr (.inr (.inl ⟨position, rfl, rfl⟩)))
  | send request =>
    cases h
    exact .inr (.inr (.inr (.inr (.inl ⟨request, rfl, rfl⟩))))
  | edit change =>
    cases h
    exact .inr (.inr (.inr (.inr (.inr ⟨change, rfl, rfl⟩))))
  | _ =>
    cases h
    exact .inl rfl

end LimnoPulse.Notifications
