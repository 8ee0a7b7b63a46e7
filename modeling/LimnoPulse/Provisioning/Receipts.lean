import LimnoPulse.Ingestion.Domain
import LimnoPulse.Library.EpochSeconds

/-!
# Idempotency receipts

A create request writes a receipt beside the entity it creates.  For a day the receipt
answers every request with the same key: with the stored response if the request is
the same one, with a conflict otherwise.  The lookup compares the clock with the
exact deadline; the put compares whole seconds, the deadline rounded up and the clock
toward zero.

Main results:

- Theorem `deadline_of_overwritable`: a receipt that may be overwritten has
  reached its deadline, for clocks from the epoch up to the year 2514.
-/

namespace LimnoPulse.Provisioning

open Ingestion (Time)

/-- The key of an idempotency receipt. -/
structure ReceiptKey where
  (tenantId scope keyHash : String)
deriving DecidableEq

/-- A stored receipt. -/
structure ReceiptRow where
  (requestHash responseSnapshotJson : String)
  createdAt : Time
  expiresAt : Int
deriving DecidableEq

/-- Receipts replay for 24 hours. -/
def idempotencyReceiptTtl : Time := 86400 * 1000000

/-- A receipt, which expires after the retention. -/
structure IdempotencyReceipt where
  key : ReceiptKey
  (requestHash responseSnapshotJson : String)
  createdAt : Time
deriving DecidableEq

/-- The deadline of a receipt. -/
def IdempotencyReceipt.expiresAt (receipt : IdempotencyReceipt) : Time :=
  receipt.createdAt + idempotencyReceiptTtl

/-- `idempotency_receipt_to_item`. -/
def IdempotencyReceipt.toItem (receipt : IdempotencyReceipt) : ReceiptRow where
  requestHash := receipt.requestHash
  responseSnapshotJson := receipt.responseSnapshotJson
  createdAt := receipt.createdAt
  expiresAt := EpochSeconds.ceil receipt.expiresAt

/-- The condition of `receipt_put_request`. -/
def receiptPutCondition (now : Time) (row : Option ReceiptRow) : Bool :=
  row.all fun row => row.expiresAt ≤ EpochSeconds.toInt now

/-- What a lookup of a receipt answers. -/
inductive Replay where
  | absent
  | snapshot (responseSnapshotJson : String)
  | conflict
deriving DecidableEq

/-- `get_idempotency_replay_sync`, given the row and the clock. -/
def getIdempotencyReplay (row : Option ReceiptRow) (requestHash : String) (now : Time) : Replay :=
  match row with
  | none => .absent
  | some row =>
    if row.createdAt + idempotencyReceiptTtl ≤ now then .absent
    else if row.requestHash ≠ requestHash then .conflict
    else .snapshot row.responseSnapshotJson

/-- A replayed receipt is live and of the same request. -/
theorem getIdempotencyReplay_eq_snapshot {row : Option ReceiptRow} {requestHash text : String}
    {now : Time} (h : getIdempotencyReplay row requestHash now = .snapshot text) :
    ∃ found, row = some found ∧ found.requestHash = requestHash ∧
      found.responseSnapshotJson = text ∧ now < found.createdAt + idempotencyReceiptTtl := by
  unfold getIdempotencyReplay at h
  split at h
  · cases h
  next found =>
    split at h
    · cases h
    next hlive =>
      split at h
      · cases h
      next hhash =>
        cases h
        exact ⟨found, rfl, not_not.mp hhash, rfl, not_le.mp hlive⟩

/-- Neither clock nor deadline is lost in rounding. -/
def isFineClock (now : Time) : Bool :=
  EpochSeconds.isFine now && EpochSeconds.isFine (now + idempotencyReceiptTtl)

/-- A receipt that may be overwritten has reached its deadline. -/
theorem deadline_of_overwritable {receipt : IdempotencyReceipt} {now : Time}
    (hcreated : isFineClock receipt.createdAt = true) (hnow : EpochSeconds.isFine now = true)
    (h : receiptPutCondition now (some receipt.toItem) = true) : receipt.expiresAt ≤ now := by
  rw [isFineClock, Bool.and_eq_true] at hcreated
  refine EpochSeconds.le_of_ceil_le_toInt hcreated.2 hnow ?_
  simpa [receiptPutCondition, IdempotencyReceipt.toItem] using h

/-- `idempotency_key_hash`, for keys of the right length. -/
def idempotencyKeyHash (sha256 : String → String) (idempotencyKey : String) : Option String :=
  if 8 ≤ idempotencyKey.length ∧ idempotencyKey.length ≤ 128 then some (sha256 idempotencyKey)
  else none

end LimnoPulse.Provisioning
