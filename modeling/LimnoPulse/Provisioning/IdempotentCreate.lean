import LimnoPulse.Library.Discipline
import LimnoPulse.Library.Transaction
import LimnoPulse.Provisioning.Receipts

/-!
# Creating an entity once

A create call looks for a receipt under its key, builds the entity, and writes the
entity and its receipt in one transaction.  A call that loses the race for the receipt
looks again and answers with the stored response.  Lookups and transactions read a
clock that never goes back; any of them may fail, and a transaction whose answer is
lost may have committed.

Main results:

- Theorem `creates_once`: until the first receipt of a key expires there is one
  entity, and every success returns it.
- Theorem `creates_twice_before_epoch`: not so for clocks before the epoch.
-/

namespace LimnoPulse.Provisioning

open StoreProgram
open Ingestion (Time)

variable {requestHash : String}

/-- The response text of an entity, if it has one, is read back as the entity. -/
structure SnapshotCodec (α : Type) where
  entitySnapshotJson : α → Option String
  modelValidateJson : String → Option α
  reads_back : ∀ {entity text}, entitySnapshotJson entity = some text →
    modelValidateJson text = some entity

/-! ## The store -/

/-- A committed create transaction. -/
structure Creation (α : Type) where
  receipt : IdempotencyReceipt
  entity : α
deriving DecidableEq

/-- The clock, the receipts, and the commits, newest first. -/
structure CreateStore (α : Type) where
  now : Time
  receipts : ReceiptKey → Option ReceiptRow
  created : List (Creation α)

namespace CreateStore

variable {α : Type}

/-- A store without receipts. -/
def empty (start : Time) : CreateStore α := ⟨start, fun _ => none, []⟩

/-- Put or delete a receipt. -/
def putReceipt (s : CreateStore α) (key : ReceiptKey) (row : Option ReceiptRow) : CreateStore α :=
  { s with receipts := Function.update s.receipts key row }

/-- The effect of a create transaction. -/
def commit (s : CreateStore α) (creation : Creation α) : CreateStore α :=
  { s.putReceipt creation.receipt.key (some creation.receipt.toItem) with
    created := creation :: s.created }

@[simp]
theorem receipts_putReceipt (s : CreateStore α) (key : ReceiptKey) (row : Option ReceiptRow) :
    (s.putReceipt key row).receipts = Function.update s.receipts key row :=
  rfl

@[simp]
theorem receipts_commit (s : CreateStore α) (creation : Creation α) :
    (s.commit creation).receipts =
      Function.update s.receipts creation.receipt.key (some creation.receipt.toItem) :=
  rfl

/-- The create transactions under a key, newest first. -/
def creations (s : CreateStore α) (key : ReceiptKey) : List (Creation α) :=
  s.created.filter (·.receipt.key = key)

/-- The first receipt of a key, with its entity. -/
def first (s : CreateStore α) (key : ReceiptKey) : Option (Creation α) := (s.creations key).getLast?

end CreateStore

/-! ## Operations -/

/-- One await of a create call. -/
inductive CreateOp (α : Type) where
  | replay (key : ReceiptKey) (requestHash : String)
  | build
  | clock
  | persist (entity : α) (receipt : IdempotencyReceipt)
  | expire (key : ReceiptKey)

/-- How `persist` ends. -/
inductive PersistReply where
  | committed
  | conflict
  | failed
deriving DecidableEq

/-- What an operation is answered. -/
@[reducible]
def CreateReply {α : Type} : CreateOp α → Type
  | .replay _ _ => Option Replay
  | .build => Option α
  | .clock => Time
  | .persist _ _ => PersistReply
  | .expire _ => Unit

/-- The clock, the fate of the message, the entity that is built, and how a create is refused. -/
structure Circumstance (α : Type) where
  now : Time
  fault : Fault := .none
  entity : Option α := none
  othersHold : Bool := true
  reportsConflict : Bool := true

section Exec

variable {α : Type}

/-- Send the entity, its receipt and further conditions. -/
def persistOutcome (circumstance : Circumstance α) (creation : Creation α) (s : CreateStore α) :
    PersistReply × CreateStore α :=
  let holds := receiptPutCondition s.now (s.receipts creation.receipt.key) && circumstance.othersHold
  match circumstance.fault with
  | .requestLost => (.failed, s)
  | .none =>
    if holds then (.committed, s.commit creation)
    else (if circumstance.reportsConflict then .conflict else .failed, s)
  | .answerLost => (.failed, if holds then s.commit creation else s)

/-- Remove a receipt whose second has passed. -/
def expireOutcome (key : ReceiptKey) (s : CreateStore α) : CreateStore α :=
  if (s.receipts key).any (·.expiresAt * 1000000 ≤ s.now) then s.putReceipt key none else s

/-- An operation at the current time. -/
def createStep (circumstance : Circumstance α) (s : CreateStore α) :
    (op : CreateOp α) → CreateReply op × CreateStore α
  | .replay key requestHash =>
    (if circumstance.fault = .none then
      some (getIdempotencyReplay (s.receipts key) requestHash s.now) else none, s)
  | .build => (circumstance.entity, s)
  | .clock => (s.now, s)
  | .persist entity receipt => persistOutcome circumstance ⟨receipt, entity⟩ s
  | .expire key => ((), expireOutcome key s)

/-- One operation, at a time not before the last one. -/
def createExec (op : CreateOp α) (circumstance : Circumstance α) (s : CreateStore α) :
    Option (CreateReply op × CreateStore α) :=
  if circumstance.now < s.now then none
  else some (createStep circumstance { s with now := circumstance.now } op)

end Exec

/-! ## The call -/

/-- The entity with the response to return. -/
structure CreateOutcome (α : Type) where
  entity : α
  snapshotJson : String
  replayed : Bool
deriving DecidableEq

/-- How a create call can fail. -/
inductive CreateFailure where
  | invalidKey
  | unavailable
  | conflict
  | buildFailed
  | invalidSnapshot
deriving DecidableEq

/-- The arguments of a create; the hash covers scope and request. -/
structure CreateArguments where
  (tenantId scope idempotencyKey requestHash : String)
deriving DecidableEq

/-- Programs over the receipts. -/
abbrev CreateProgram (α β : Type) := Program (CreateOp α) CreateReply β

/-- What a create call returns. -/
abbrev CreateResult (α : Type) := Except CreateFailure (CreateOutcome α)

section Call

variable {α : Type} (sha256 : String → String) (codec : SnapshotCodec α)

/-- The key of the receipt. -/
def CreateArguments.key (arguments : CreateArguments) : Option ReceiptKey :=
  (idempotencyKeyHash sha256 arguments.idempotencyKey).map fun keyHash =>
    ⟨arguments.tenantId, arguments.scope, keyHash⟩

/-- The stored response. -/
def replayed (snapshotJson : String) : CreateResult α :=
  match codec.modelValidateJson snapshotJson with
  | some entity => .ok ⟨entity, snapshotJson, true⟩
  | none => .error .invalidSnapshot

/-- Look for a receipt; `none` when there is no live one. -/
def lookupReplay (key : ReceiptKey) (requestHash : String) :
    CreateProgram α (Except CreateFailure (Option String)) := do
  match ← Program.perform (CreateOp.replay key requestHash) with
  | none => pure (.error .unavailable)
  | some .conflict => pure (.error .conflict)
  | some .absent => pure (.ok none)
  | some (.snapshot text) => pure (.ok (some text))

/-- Write entity and receipt; on a conflict look again. -/
def persistOnce (key : ReceiptKey) (requestHash : String) (entity : α) (snapshot : String) :
    CreateProgram α (CreateResult α) := do
  let createdAt ← Program.perform (CreateOp.clock : CreateOp α)
  match ← Program.perform (CreateOp.persist entity ⟨key, requestHash, snapshot, createdAt⟩) with
  | .committed => pure (.ok ⟨entity, snapshot, false⟩)
  | .failed => pure (.error .unavailable)
  | .conflict =>
    (lookupReplay key requestHash).andThen fun
      | some stored => .done (replayed codec stored)
      | none => .done (.error .conflict)

/-- Go on with what was built. -/
def persistBuilt (key : ReceiptKey) (requestHash : String) :
    Option α → CreateProgram α (CreateResult α)
  | none => .done (.error .buildFailed)
  | some entity =>
    match codec.entitySnapshotJson entity with
    | none => .done (.error .invalidSnapshot)
    | some snapshot => persistOnce codec key requestHash entity snapshot

/-- `create_idempotently`. -/
def createIdempotently (arguments : CreateArguments) : CreateProgram α (CreateResult α) :=
  match arguments.key sha256 with
  | none => .done (.error .invalidKey)
  | some key =>
    (lookupReplay key arguments.requestHash).andThen fun
      | some snapshot => .done (replayed codec snapshot)
      | none => Program.perform (CreateOp.build : CreateOp α) >>=
          persistBuilt codec key arguments.requestHash

/-- A create, or the removal of an expired receipt. -/
inductive CreateCall where
  | create (arguments : CreateArguments)
  | expire (key : ReceiptKey)
deriving DecidableEq

/-- The program of a call. -/
def createBody : CreateCall → CreateProgram α (Option (CreateResult α))
  | .create arguments => createIdempotently sha256 codec arguments >>= fun result => pure (some result)
  | .expire key => do
    let _ ← Program.perform (CreateOp.expire key : CreateOp α)
    pure none

/-- Creates interleaved with expiry. -/
def createMachine : Machine (CreateStore α) (Circumstance α) CreateCall (Option (CreateResult α))
    (CreateOp α) CreateReply where
  exec := createExec
  body := createBody sha256 codec
  admits _ _ := true

end Call

/-! ## What an operation does -/

section Steps

variable {α : Type} {s t : CreateStore α} {circumstance : Circumstance α}

/-- It commits where its receipt may be put, or nothing changes. -/
theorem persistOutcome_cases {creation : Creation α} {reply : PersistReply}
    (h : persistOutcome circumstance creation s = (reply, t)) :
    (t = s ∧ reply ≠ .committed) ∨
      (receiptPutCondition s.now (s.receipts creation.receipt.key) = true ∧ t = s.commit creation) := by
  have hput : (receiptPutCondition s.now (s.receipts creation.receipt.key) &&
      circumstance.othersHold) = true →
      receiptPutCondition s.now (s.receipts creation.receipt.key) = true := by
    intro hholds
    exact (Bool.and_eq_true_iff.mp hholds).1
  simp only [persistOutcome] at h
  split at h
  · cases h
    exact .inl ⟨rfl, by simp⟩
  · split at h
    next hholds =>
      cases h
      exact .inr ⟨hput hholds, rfl⟩
    next =>
      cases h
      exact .inl ⟨rfl, by split <;> simp⟩
  · cases h
    split
    next hholds => exact .inr ⟨hput hholds, rfl⟩
    next => exact .inl ⟨rfl, by simp⟩

/-- Receipts stay, one is committed, or an expired one removed. -/
theorem createExec_cases {op : CreateOp α} {reply : CreateReply op}
    (h : createExec op circumstance s = some (reply, t)) :
    s.now ≤ circumstance.now ∧ t.now = circumstance.now ∧
      (t = { s with now := circumstance.now } ∨
        (∃ entity receipt, op = .persist entity receipt ∧
          receiptPutCondition circumstance.now (s.receipts receipt.key) = true ∧
          t = { s with now := circumstance.now }.commit ⟨receipt, entity⟩) ∨
        ∃ key, op = .expire key ∧
          (s.receipts key).any (·.expiresAt * 1000000 ≤ circumstance.now) = true ∧
          t = { s with now := circumstance.now }.putReceipt key none) := by
  unfold createExec at h
  split at h
  · cases h
  next hnow =>
    refine ⟨not_lt.mp hnow, ?_⟩
    generalize hread : ({ s with now := circumstance.now } : CreateStore α) = read at h ⊢
    have hclock : read.now = circumstance.now := by rw [← hread]
    have hreceipts : read.receipts = s.receipts := by rw [← hread]
    rw [← hclock, ← hreceipts]
    cases op with
    | replay key requestHash | build | clock =>
      cases h
      exact ⟨rfl, .inl rfl⟩
    | persist entity receipt =>
      have hstep : persistOutcome circumstance ⟨receipt, entity⟩ read = (reply, t) :=
        Option.some.inj h
      rcases persistOutcome_cases hstep with ⟨rfl, -⟩ | ⟨hput, rfl⟩
      · exact ⟨rfl, .inl rfl⟩
      · exact ⟨rfl, .inr (.inl ⟨entity, receipt, rfl, hput, rfl⟩)⟩
    | expire key =>
      have hstep : expireOutcome key read = t := congrArg Prod.snd (Option.some.inj h)
      unfold expireOutcome at hstep
      split at hstep
      next hexpired =>
        subst hstep
        exact ⟨rfl, .inr (.inr ⟨key, rfl, hexpired, rfl⟩)⟩
      next =>
        subst hstep
        exact ⟨rfl, .inl rfl⟩

/-- A reported commit is one. -/
theorem createExec_committed {entity : α} {receipt : IdempotencyReceipt}
    (h : createExec (.persist entity receipt) circumstance s = some (.committed, t)) :
    ⟨receipt, entity⟩ ∈ t.created := by
  unfold createExec at h
  split at h
  · cases h
  · rcases persistOutcome_cases (Option.some.inj h) with ⟨-, hreply⟩ | ⟨-, rfl⟩
    · exact absurd rfl hreply
    · exact List.mem_cons_self

/-- The clock shows the latest reading. -/
theorem createExec_clock {createdAt : Time}
    (h : createExec .clock circumstance s = some (createdAt, t)) : createdAt = t.now := by
  unfold createExec at h
  split at h
  · cases h
  · cases h
    rfl

/-- A lookup answers from the store it leaves. -/
theorem createExec_replay {key : ReceiptKey} {replay : Replay}
    (h : createExec (.replay key requestHash) circumstance s = some (some replay, t)) :
    getIdempotencyReplay (t.receipts key) requestHash t.now = replay := by
  unfold createExec at h
  split at h
  · cases h
  · obtain ⟨hreply, rfl⟩ := Prod.mk.inj (Option.some.inj h)
    split at hreply
    · exact Option.some.inj hreply
    · cases hreply

/-- Other keys keep their transactions. -/
theorem creations_commit_of_ne {creation : Creation α} {key : ReceiptKey}
    (h : creation.receipt.key ≠ key) : (s.commit creation).creations key = s.creations key :=
  List.filter_cons_of_neg (by simpa using h)

/-- The key has one transaction more. -/
theorem creations_commit (creation : Creation α) :
    (s.commit creation).creations creation.receipt.key =
      creation :: s.creations creation.receipt.key :=
  List.filter_cons_of_pos (by simp)

/-- A transaction of a key. -/
theorem mem_of_mem_creations {key : ReceiptKey} {creation : Creation α}
    (h : creation ∈ s.creations key) : creation ∈ s.created ∧ creation.receipt.key = key := by
  simpa [CreateStore.creations] using h

end Steps

/-- Receipts come from commits, and the first of a key is alone until it expires. -/
structure CreatesOnce {α : Type} (codec : SnapshotCodec α) (s : CreateStore α) : Prop where
  fine : isFineClock s.now = true
  created : ∀ creation ∈ s.created, isFineClock creation.receipt.createdAt = true ∧
    codec.entitySnapshotJson creation.entity = some creation.receipt.responseSnapshotJson
  stored : ∀ key row, s.receipts key = some row →
    ∃ creation ∈ s.created, creation.receipt.key = key ∧ row = creation.receipt.toItem
  first : ∀ key creation, s.first key = some creation → s.now < creation.receipt.expiresAt →
    s.creations key = [creation] ∧ s.receipts key = some creation.receipt.toItem

namespace CreatesOnce

variable {α : Type} {codec : SnapshotCodec α} {s : CreateStore α}

/-- Nothing has been created. -/
theorem empty {start : Time} (h : isFineClock start = true) : CreatesOnce codec (.empty start) where
  fine := h
  created := by simp [CreateStore.empty]
  stored := by simp [CreateStore.empty]
  first := by simp [CreateStore.empty, CreateStore.first, CreateStore.creations]

/-- The clock goes on. -/
theorem later (h : CreatesOnce codec s) {now : Time} (hnow : s.now ≤ now)
    (hfine : isFineClock now = true) : CreatesOnce codec { s with now := now } where
  fine := hfine
  created := h.created
  stored := h.stored
  first key creation hfirst hlive := h.first key creation hfirst (lt_of_le_of_lt hnow hlive)

/-- The first transaction of a key is one. -/
theorem first_mem {key : ReceiptKey} {creation : Creation α} (h : s.first key = some creation) :
    creation ∈ s.created ∧ creation.receipt.key = key :=
  mem_of_mem_creations (List.mem_of_getLast? h)

/-- A create finds no receipt, or an expired one. -/
theorem commit (h : CreatesOnce codec s) {creation : Creation α}
    (hcreated : isFineClock creation.receipt.createdAt = true)
    (hcoded : codec.entitySnapshotJson creation.entity = some creation.receipt.responseSnapshotJson)
    (hput : receiptPutCondition s.now (s.receipts creation.receipt.key) = true) :
    CreatesOnce codec (s.commit creation) where
  fine := h.fine
  created := by
    intro other hother
    rcases List.mem_cons.mp hother with rfl | hother
    · exact ⟨hcreated, hcoded⟩
    · exact h.created other hother
  stored := by
    intro key row hrow
    obtain ⟨rfl, rfl⟩ | ⟨-, hrow⟩ := eq_some_of_update (CreateStore.receipts_commit ..) hrow
    · exact ⟨creation, List.mem_cons_self, rfl, rfl⟩
    · obtain ⟨other, hother, hstored⟩ := h.stored key row hrow
      exact ⟨other, List.mem_cons_of_mem _ hother, hstored⟩
  first := by
    intro key other hfirst hlive
    by_cases hkey : creation.receipt.key = key
    · subst hkey
      rw [CreateStore.first, creations_commit] at hfirst
      cases hnone : s.creations creation.receipt.key with
      | nil =>
        rw [hnone, List.getLast?_singleton, Option.some.injEq] at hfirst
        subst hfirst
        exact ⟨by rw [creations_commit, hnone], Function.update_self _ _ _⟩
      | cons =>
        -- The first receipt would have to be overwritten before its deadline.
        rw [hnone, List.getLast?_cons_cons, ← hnone] at hfirst
        have hfound := (h.first _ other hfirst hlive).2
        rw [hfound] at hput
        have hfine := (Bool.and_eq_true _ _ ▸ h.fine : _ ∧ _).1
        exact absurd (deadline_of_overwritable (h.created other (first_mem hfirst).1).1 hfine hput)
          (not_le.mpr hlive)
    · rw [CreateStore.first, creations_commit_of_ne hkey] at hfirst
      rw [creations_commit_of_ne hkey]
      obtain ⟨honly, hreceipt⟩ := h.first key other hfirst hlive
      exact ⟨honly, by
        rw [CreateStore.receipts_commit, Function.update_of_ne (Ne.symm hkey)]
        exact hreceipt⟩

/-- The table removes expired receipts only. -/
theorem expire (h : CreatesOnce codec s) {key : ReceiptKey}
    (hexpired : (s.receipts key).any (·.expiresAt * 1000000 ≤ s.now) = true) :
    CreatesOnce codec (s.putReceipt key none) where
  fine := h.fine
  created := h.created
  stored := by
    intro other row hrow
    by_cases hkey : other = key
    · subst hkey
      rw [CreateStore.receipts_putReceipt, Function.update_self] at hrow
      cases hrow
    · rw [CreateStore.receipts_putReceipt, Function.update_of_ne hkey] at hrow
      exact h.stored other row hrow
  first := by
    intro other creation hfirst hlive
    obtain ⟨honly, hreceipt⟩ := h.first other creation hfirst hlive
    by_cases hkey : other = key
    · subst hkey
      rw [hreceipt] at hexpired
      have hfine := (Bool.and_eq_true _ _ ▸ (h.created creation (first_mem hfirst).1).1 : _ ∧ _).2
      have hceil := EpochSeconds.le_ceil hfine
      have hpassed : EpochSeconds.ceil creation.receipt.expiresAt * 1000000 ≤ s.now := by
        simpa [IdempotencyReceipt.toItem] using hexpired
      exact absurd (le_trans hceil hpassed) (not_le.mpr hlive)
    · refine ⟨honly, ?_⟩
      rw [CreateStore.receipts_putReceipt, Function.update_of_ne hkey]
      exact hreceipt

end CreatesOnce

/-! ## Runs -/

section Runs

variable {α : Type} (sha256 : String → String) (codec : SnapshotCodec α)

/-- A create carries its response and a receipt of a clock reading. -/
def createDiscipline : Discipline (createMachine sha256 codec) where
  justified op _ := ∀ entity receipt, op = .persist entity receipt →
    isFineClock receipt.createdAt = true ∧
      codec.entitySnapshotJson entity = some receipt.responseSnapshotJson
  invariant := CreatesOnce codec
  rely s t := s.created <:+ t.created
  refl s := List.suffix_refl s.created
  trans := List.IsSuffix.trans

/-- The reading of the clock is not lost in rounding. -/
def fineClock (_ : CreateOp α) (circumstance : Circumstance α) (_ : CreateStore α) : Prop :=
  isFineClock circumstance.now = true

/-- Fine readings are decidable. -/
instance (op : CreateOp α) (circumstance : Circumstance α) (s : CreateStore α) :
    Decidable (fineClock op circumstance s) :=
  inferInstanceAs (Decidable (isFineClock circumstance.now = true))

/-- Operations keep the invariant. -/
theorem createDiscipline_keeps : (createDiscipline sha256 codec).Keeps fineClock := by
  intro op circumstance s reply t hs hjust hfine hexec
  obtain ⟨hnow, -, hcases⟩ := createExec_cases hexec
  have hread : CreatesOnce codec { s with now := circumstance.now } := hs.later hnow hfine
  rcases hcases with rfl | ⟨entity, receipt, rfl, hput, rfl⟩ | ⟨key, rfl, hexpired, rfl⟩
  · exact ⟨hread, List.suffix_refl _⟩
  · obtain ⟨hcreated, hcoded⟩ := hjust entity receipt rfl
    exact ⟨hread.commit hcreated hcoded hput, List.suffix_cons _ _⟩
  · exact ⟨hread.expire hexpired, List.suffix_refl _⟩

/-- A commit of the same request has this response. -/
def Recorded (key : ReceiptKey) (requestHash snapshotJson : String) (s : CreateStore α) : Prop :=
  ∃ creation ∈ s.created, creation.receipt.key = key ∧ creation.receipt.requestHash = requestHash ∧
    creation.receipt.responseSnapshotJson = snapshotJson

/-- The outcome of a commit of the same request. -/
def Returned (key : ReceiptKey) (requestHash : String) (outcome : CreateOutcome α)
    (s : CreateStore α) : Prop :=
  ∃ creation ∈ s.created, creation.receipt.key = key ∧ creation.receipt.requestHash = requestHash ∧
    creation.receipt.responseSnapshotJson = outcome.snapshotJson ∧ creation.entity = outcome.entity

variable {sha256 codec}

variable {s : CreateStore α}

/-- A response that was found is recorded. -/
theorem lookupReplay_sound {key : ReceiptKey} :
    (createDiscipline sha256 codec).SoundOk
      (fun found t => ∀ text, found = some text → CreatesOnce codec t ∧ Recorded key requestHash text t)
      (lookupReplay key requestHash) s := by
  refine Discipline.Sound.call (fun t _ _ entity receipt hop => by cases hop) ?_
  intro t circumstance reply u _ _ hexec hu _
  match reply with
  | none => exact Discipline.SoundOk.error _ u
  | some .conflict => exact Discipline.SoundOk.error _ u
  | some .absent => exact Discipline.SoundOk.ok (by rintro _ ⟨⟩)
  | some (.snapshot text) =>
    refine Discipline.SoundOk.ok ?_
    rintro _ ⟨⟩
    obtain ⟨row, hrow, hhash, htext, -⟩ :=
      getIdempotencyReplay_eq_snapshot (createExec_replay hexec)
    obtain ⟨creation, hmem, hkey, rfl⟩ := hu.stored key row hrow
    exact ⟨hu, creation, hmem, hkey, hhash, htext⟩

section

variable {key : ReceiptKey} {text : String} (hs : CreatesOnce codec s)
  (hrecorded : Recorded key requestHash text s)
include hs hrecorded

/-- A replay answers with the stored response. -/
theorem replayed_returned {outcome : CreateOutcome α} (h : replayed codec text = .ok outcome) :
    Returned key requestHash outcome s := by
  obtain ⟨creation, hmem, hkey, hhash, rfl⟩ := hrecorded
  have hread := codec.reads_back (hs.created creation hmem).2
  unfold replayed at h
  rw [hread] at h
  cases h
  exact ⟨creation, hmem, hkey, hhash, rfl, rfl⟩

/-- A recorded response is returned. -/
theorem replayed_sound :
    (createDiscipline sha256 codec).SoundOk (Returned key requestHash) (.done (replayed codec text))
      s :=
  fun _ hout => replayed_returned hs hrecorded hout

end

/-- A transaction and its race. -/
theorem persistOnce_sound {key : ReceiptKey} {snapshot : String} {entity : α}
    (hsnapshot : codec.entitySnapshotJson entity = some snapshot) (s : CreateStore α) :
    (createDiscipline sha256 codec).SoundOk (Returned key requestHash)
      (persistOnce codec key requestHash entity snapshot) s := by
  refine Discipline.Sound.call (fun _ _ _ _ _ hop => by cases hop) ?_
  intro t circumstance createdAt u _ _ hclock hu _
  have hcreated : isFineClock createdAt = true := by
    rw [createExec_clock hclock]
    exact hu.fine
  refine Discipline.Sound.call ?_ ?_
  · rintro _ _ _ _ _ ⟨⟩
    exact ⟨hcreated, hsnapshot⟩
  · intro _ _ reply v _ _ hpersist _ _
    match reply with
    | .failed => exact Discipline.SoundOk.error _ v
    | .committed =>
      exact Discipline.SoundOk.ok ⟨_, createExec_committed hpersist, rfl, rfl, rfl, rfl⟩
    | .conflict =>
      refine Discipline.SoundOk.andThen lookupReplay_sound ?_
      intro found w _ hfound
      cases found with
      | some text => exact replayed_sound (hfound text rfl).1 (hfound text rfl).2
      | none => exact Discipline.SoundOk.error _ w

/-- The entity that was built. -/
theorem persistBuilt_sound {key : ReceiptKey} (built : Option α)
    (s : CreateStore α) : (createDiscipline sha256 codec).SoundOk (Returned key requestHash)
      (persistBuilt codec key requestHash built) s := by
  cases built with
  | none => exact Discipline.SoundOk.error _ s
  | some =>
    simp only [persistBuilt]
    split
    · exact Discipline.SoundOk.error _ s
    next snapshot hsnapshot => exact persistOnce_sound hsnapshot s

/-- A success returns what is recorded. -/
theorem createIdempotently_sound (arguments : CreateArguments) (s : CreateStore α) :
    (createDiscipline sha256 codec).SoundOk
      (fun outcome t => ∀ key, arguments.key sha256 = some key →
        Returned key arguments.requestHash outcome t)
      (createIdempotently sha256 codec arguments) s := by
  unfold createIdempotently
  split
  · exact Discipline.SoundOk.error _ s
  next key hkey =>
    have hsound : (createDiscipline sha256 codec).SoundOk (Returned key arguments.requestHash)
        ((lookupReplay key arguments.requestHash).andThen fun
          | some snapshot => .done (replayed codec snapshot)
          | none => Program.perform (CreateOp.build : CreateOp α) >>=
              persistBuilt codec key arguments.requestHash) s := by
      refine Discipline.SoundOk.andThen lookupReplay_sound ?_
      intro found t _ hfound
      cases found with
      | some text => exact replayed_sound (hfound text rfl).1 (hfound text rfl).2
      | none =>
        refine Discipline.Sound.call (fun _ _ _ _ _ hop => by cases hop) ?_
        intro _ _ built u _ _ _ _ _
        exact persistBuilt_sound built u
    refine Discipline.Sound.mono ?_ hsound
    intro result t _ hres outcome hout other hother
    rw [hkey] at hother
    cases hother
    exact hres outcome hout

/-- A successful create returned a recorded entity. -/
def createPost (sha256 : String → String) (c : CreateCall) (result : Option (CreateResult α))
    (s : CreateStore α) : Prop :=
  ∀ arguments outcome key, c = .create arguments → result = some (.ok outcome) →
    arguments.key sha256 = some key → Returned key arguments.requestHash outcome s

/-- All calls are sound. -/
theorem createDiscipline_governs : (createDiscipline sha256 codec).Governs (createPost sha256) where
  body := by
    intro c s _ _
    cases c with
    | create arguments =>
      refine Discipline.Sound.bind ?_ (createIdempotently_sound arguments s)
      rintro result t _ hres _ outcome key ⟨⟩ ⟨⟩ hkey
      exact hres outcome rfl key hkey
    | expire =>
      refine Discipline.Sound.call (fun _ _ _ _ _ hop => by cases hop) ?_
      intro _ _ _ _ _ _ _ _ _ _ _ _ hc
      cases hc
  stable := by
    intro c result s t hpost hrely arguments outcome key hc hres hkey
    obtain ⟨creation, hmem, hreturned⟩ := hpost arguments outcome key hc hres hkey
    exact ⟨creation, hrely.subset hmem, hreturned⟩

end Runs

/-- In a run whose clock is never lost in rounding, until the first receipt of a key expires: there
is one create transaction under the key, and every call with that key that succeeded had the hash of
that request and returned the stored entity and response. No stored receipt is both replayed and
overwritten at one reading of the clock. -/
theorem creates_once {α : Type} (sha256 : String → String) (codec : SnapshotCodec α) {start : Time}
    {as : List (Action (Circumstance α) CreateCall)}
    {w : World (CreateStore α) CreateCall (Option (CreateResult α)) (CreateOp α) CreateReply}
    (hstart : isFineClock start = true)
    (hclock : (createMachine sha256 codec).Guarded fineClock (Machine.initial (.empty start)) as)
    (hrun : (createMachine sha256 codec).run (Machine.initial (.empty start)) as = some w) :
    (∀ key first, w.store.first key = some first → w.store.now < first.receipt.expiresAt →
      w.store.creations key = [first] ∧
      ∀ arguments outcome, (CreateCall.create arguments, some (.ok outcome)) ∈ w.finished →
        arguments.key sha256 = some key →
        arguments.requestHash = first.receipt.requestHash ∧
          outcome.snapshotJson = first.receipt.responseSnapshotJson ∧ outcome.entity = first.entity) ∧
    ∀ key row, w.store.receipts key = some row → ∀ now, isFineClock now = true →
      ¬ (getIdempotencyReplay (some row) row.requestHash now = .snapshot row.responseSnapshotJson ∧
        receiptPutCondition now (some row) = true) := by
  obtain ⟨-, hinv, hsound⟩ := Discipline.run_justified_initial (createDiscipline_keeps sha256 codec)
    createDiscipline_governs (CreatesOnce.empty hstart) hclock hrun
  refine ⟨?_, ?_⟩
  · intro key first hfirst hlive
    obtain ⟨honly, -⟩ := hinv.first key first hfirst hlive
    refine ⟨honly, ?_⟩
    intro arguments outcome hfinished hkey
    have hprocess := World.mem_finished.mp hfinished
    obtain ⟨creation, hmem, hcreation, hhash, htext, hentity⟩ :=
      hsound _ hprocess arguments outcome key rfl rfl hkey
    have hfound : creation ∈ w.store.creations key :=
      List.mem_filter.mpr ⟨hmem, by simpa using hcreation⟩
    rw [honly, List.mem_singleton] at hfound
    subst hfound
    exact ⟨hhash.symm, htext.symm, hentity.symm⟩
  · rintro key row hrow now hnow ⟨hreplay, hput⟩
    obtain ⟨creation, hmem, -, rfl⟩ := hinv.stored key row hrow
    obtain ⟨found, hfound, -, -, hlive⟩ := getIdempotencyReplay_eq_snapshot hreplay
    cases hfound
    have hfine := (Bool.and_eq_true_iff.mp hnow).1
    exact absurd (deadline_of_overwritable (hinv.created creation hmem).1 hfine hput)
      (not_le.mpr hlive)

namespace SampleCreate

/-- Entities that are their own responses. -/
def codec : SnapshotCodec String where
  entitySnapshotJson := some
  modelValidateJson := some
  reads_back h := h.symm

/-- A request to create a device. -/
def arguments : CreateArguments := ⟨"t", "device-create", "key-00000", "request"⟩

/-- The key of the request. -/
def key : ReceiptKey := ⟨"t", "device-create", "key-00000"⟩

/-- What a request creates. -/
def creation (createdAt : Time) (entity : String) : Creation String :=
  ⟨⟨key, "request", entity, createdAt⟩, entity⟩

/-- Both requests look for a receipt.  The first one creates its entity, and the second
one tries to, at a later reading of the clock. -/
def schedule (first second : Time) : List (Action (Circumstance String) CreateCall) :=
  [.start (.create arguments), .start (.create arguments), .step 0 { now := first },
    .step 1 { now := first }, .step 0 { now := first, entity := some "a" }, .step 0 { now := first },
    .step 0 { now := first }, .step 1 { now := second, entity := some "b" },
    .step 1 { now := second }, .step 1 { now := second }]

/-- The second request looks again. -/
def raceSchedule : List (Action (Circumstance String) CreateCall) :=
  schedule 0 1000000 ++ [.step 1 { now := 1000000 }]

end SampleCreate

open SampleCreate

/-- The second request finds the receipt of the first one. -/
theorem creates_once_of_race : ∃ w, (createMachine id codec).run
      (Machine.initial (.empty 0)) raceSchedule = some w ∧
    w.store.creations key = [creation 0 "a"] ∧
    (CreateCall.create arguments, some (.ok ⟨"a", "a", true⟩)) ∈ w.finished := by
  have hfinal : ((createMachine id codec).run (Machine.initial (.empty 0))
      raceSchedule).map (fun w =>
        (w.store.first key, w.store.now)) =
      some (some (creation 0 "a"), 1000000) := by decide +kernel
  have hresults : ((createMachine id codec).run (Machine.initial (.empty 0))
      raceSchedule).map World.finished = some
        [(.create arguments, some (.ok ⟨"a", "a", false⟩)),
          (.create arguments, some (.ok ⟨"a", "a", true⟩))] := by decide +kernel
  obtain ⟨w, hrun, hw⟩ := Option.map_eq_some_iff.mp hfinal
  obtain ⟨hfirst, hnow⟩ := Prod.mk.inj hw
  rw [hrun, Option.map_some, Option.some.injEq] at hresults
  have hclock : (createMachine id codec).Guarded fineClock (Machine.initial (.empty 0))
      raceSchedule := by decide +kernel
  obtain ⟨honce, -⟩ := creates_once id codec (by decide) hclock hrun
  refine ⟨w, hrun, (honce _ _ hfirst ?_).1, ?_⟩
  · rw [hnow]
    decide
  · rw [hresults]
    simp

/-- Before the epoch.  The receipt of the first request expires 0.2 seconds before the
epoch, which rounds up to second zero; 0.3 seconds earlier the clock is cut to second
zero as well, and the second request creates another entity. -/
theorem creates_twice_before_epoch : ∃ w, (createMachine id codec).run
      (Machine.initial (.empty (-86400200000)))
      (schedule (-86400200000) (-500000)) = some w ∧
    w.store.first key = some (creation (-86400200000) "a") ∧
    w.store.now < (creation (-86400200000) "a").receipt.expiresAt ∧
    w.store.creations key = [creation (-500000) "b", creation (-86400200000) "a"] ∧
    getIdempotencyReplay (some (creation (-86400200000) "a").receipt.toItem) "request"
      (-500000) = .snapshot "a" ∧
    receiptPutCondition (-500000)
      (some (creation (-86400200000) "a").receipt.toItem) = true := by
  have hfinal : ((createMachine id codec).run (Machine.initial (.empty (-86400200000)))
      (schedule (-86400200000) (-500000))).map (fun w =>
        (w.store.first key, w.store.now, w.store.creations key)) =
      some (some (creation (-86400200000) "a"), -500000,
        [creation (-500000) "b", creation (-86400200000) "a"]) := by
    decide +kernel
  obtain ⟨w, hrun, hw⟩ := Option.map_eq_some_iff.mp hfinal
  simp only [Prod.mk.injEq] at hw
  obtain ⟨hfirst, hnow, hcreations⟩ := hw
  refine ⟨w, hrun, hfirst, ?_, hcreations, by decide +kernel, by decide +kernel⟩
  rw [hnow]
  decide

end LimnoPulse.Provisioning
