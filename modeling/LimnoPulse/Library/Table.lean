import LimnoPulse.Library.Transaction
import Mathlib.Data.List.AList

/-!
# One table of keyed rows

A table maps finitely many keys to rows, and the kind of a key decides the type of
its row.  An item of a transaction addresses one key; no two items of a
transaction may address the same one.

Main results:

- Theorem `Table.transact_mem`: each item of a committed transaction found its
  condition true and left its effect.
- Theorem `Table.transact_frame`: the other keys keep their rows.
-/

namespace StoreProgram

variable {Key : Type} [DecidableEq Key] {Row : Key → Type}
variable {key : Key}

/-- Finitely many rows under their keys. -/
abbrev Table (Row : Key → Type) := AList Row

/-- A condition on the row of a key, and what becomes of it. -/
structure TableItem (Row : Key → Type) where
  key : Key
  condition : Option (Row key) → Bool
  effect : Option (Row key) → Option (Row key)

namespace Table

/-- Store a row, or remove it. -/
def put (key : Key) (row : Option (Row key)) (t : Table Row) : Table Row :=
  match row with
  | some value => t.insert key value
  | none => t.erase key

/-- The row that was put. -/
@[simp]
theorem lookup_put (key : Key) (row : Option (Row key)) (t : Table Row) :
    (t.put key row).lookup key = row := by
  cases row with
  | none => exact AList.lookup_erase key t
  | some => exact AList.lookup_insert t

/-- The other rows stay. -/
theorem lookup_put_of_ne {other : Key} (h : other ≠ key) (row : Option (Row key)) (t : Table Row) :
    (t.put key row).lookup other = t.lookup other := by
  cases row with
  | none => exact AList.lookup_erase_ne h
  | some => exact AList.lookup_insert_ne h

end Table

/-- The condition of the item holds in the table. -/
def TableItem.holds (item : TableItem Row) (t : Table Row) : Bool :=
  item.condition (t.lookup item.key)

/-- The effect of one item. -/
def TableItem.apply (item : TableItem Row) (t : Table Row) : Table Row :=
  t.put item.key (item.effect (t.lookup item.key))

variable {item : TableItem Row} {items : List (TableItem Row)} {t u : Table Row}

namespace Table

/-- An all-or-nothing transaction. -/
def transact (items : List (TableItem Row)) (t : Table Row) : Option (Table Row) :=
  if items.all (fun item => item.holds t) && decide (items.map TableItem.key).Nodup then
    some (items.foldl (fun u item => item.apply u) t)
  else none

/-- Items of other keys leave a row alone. -/
theorem foldl_apply_frame :
    ∀ {items : List (TableItem Row)} {t : Table Row}, (∀ item ∈ items, item.key ≠ key) →
      (items.foldl (fun u item => item.apply u) t).lookup key = t.lookup key
  | [], _, _ => rfl
  | item :: items, t, h => by
    rw [List.foldl_cons, foldl_apply_frame fun other hother => h other (List.mem_cons_of_mem _ hother)]
    exact lookup_put_of_ne (h item List.mem_cons_self).symm _ t

/-- Only the item that addresses a key changes its row. -/
theorem foldl_apply_mem :
    ∀ {items : List (TableItem Row)} {t : Table Row}, item ∈ items →
      (items.map TableItem.key).Nodup →
      (items.foldl (fun u item => item.apply u) t).lookup item.key = item.effect (t.lookup item.key)
  | first :: items, t, hmem, hnodup => by
    rw [List.map_cons, List.nodup_cons] at hnodup
    have hfirst : ∀ other ∈ items, other.key ≠ first.key := by
      intro other hother heq
      exact hnodup.1 (List.mem_map.mpr ⟨other, hother, heq⟩)
    rcases List.mem_cons.mp hmem with rfl | hmem
    · rw [List.foldl_cons, foldl_apply_frame hfirst]
      exact lookup_put _ _ t
    · rw [List.foldl_cons, foldl_apply_mem hmem hnodup.2]
      have hkeep : (first.apply t).lookup item.key = t.lookup item.key :=
        lookup_put_of_ne (hfirst item hmem) _ t
      rw [hkeep]

/-- When a transaction commits, and what it leaves. -/
theorem transact_eq_some_iff :
    transact items t = some u ↔ (∀ item ∈ items, item.holds t = true) ∧
      (items.map TableItem.key).Nodup ∧ u = items.foldl (fun v item => item.apply v) t := by
  unfold transact
  split
  next h =>
    rw [Bool.and_eq_true, List.all_eq_true, decide_eq_true_eq] at h
    exact ⟨fun heq => ⟨h.1, h.2, (Option.some.inj heq).symm⟩, fun heq => by rw [heq.2.2]⟩
  next h =>
    rw [Bool.and_eq_true, List.all_eq_true, decide_eq_true_eq] at h
    exact ⟨fun heq => by contradiction, fun heq => absurd ⟨heq.1, heq.2.1⟩ h⟩

/-- What a committed transaction did through one of its items. -/
theorem transact_mem (h : transact items t = some u) (hmem : item ∈ items) :
    item.condition (t.lookup item.key) = true ∧
      u.lookup item.key = item.effect (t.lookup item.key) := by
  obtain ⟨hholds, hnodup, rfl⟩ := transact_eq_some_iff.mp h
  exact ⟨hholds item hmem, foldl_apply_mem hmem hnodup⟩

/-- What no item of a transaction addresses, it does not change. -/
theorem transact_frame (h : transact items t = some u) (hkey : ∀ item ∈ items, item.key ≠ key) :
    u.lookup key = t.lookup key := by
  obtain ⟨-, -, rfl⟩ := transact_eq_some_iff.mp h
  exact foldl_apply_frame hkey

end Table

/-! ## Requests -/

/-- Why one item of a cancelled transaction did not go through. -/
inductive CancellationCode where
  | none
  | conditionalCheckFailed
  | transactionConflict
deriving DecidableEq

/-- What the caller of a transaction learns. -/
inductive TransactReply where
  | committed
  | cancelled (reasons : List CancellationCode)
  | unavailable
deriving DecidableEq

/-- The reason of each item of a cancelled transaction. -/
def cancellationReasons (items : List (TableItem Row)) (t : Table Row) : List CancellationCode :=
  items.map fun item => if item.holds t then .none else .conditionalCheckFailed

/-- A contended transaction is cancelled whatever its conditions say; one that addresses a key twice
is invalid. -/
def transactRequest (fault : Fault) (contended : Bool) (items : List (TableItem Row))
    (t : Table Row) : TransactReply × Table Row :=
  match fault with
  | .requestLost => (.unavailable, t)
  | .none =>
    if contended then (.cancelled (items.map fun _ => .transactionConflict), t)
    else
      match Table.transact items t with
      | some u => (.committed, u)
      | none =>
        if (items.map TableItem.key).Nodup then (.cancelled (cancellationReasons items t), t)
        else (.unavailable, t)
  | .answerLost =>
    if contended then (.unavailable, t)
    else (.unavailable, (Table.transact items t).getD t)

/-- A request commits, or leaves the table alone and does not say so. -/
theorem transactRequest_cases {fault : Fault} {contended : Bool} {reply : TransactReply}
    (h : transactRequest fault contended items t = (reply, u)) :
    (u = t ∧ reply ≠ .committed) ∨ Table.transact items t = some u := by
  unfold transactRequest at h
  split at h
  · cases h
    simp
  · split at h
    · cases h
      simp
    · split at h
      next v hv =>
        cases h
        exact .inr hv
      next =>
        split at h <;> cases h <;> simp
  · split at h
    · cases h
      simp
    · cases hv : Table.transact items t with
      | none =>
        rw [hv] at h
        cases h
        simp
      | some =>
        rw [hv] at h
        cases h
        exact .inr rfl

/-- What the caller of an update of one row learns: the row as it was written. -/
inductive UpdateReply (α : Type) where
  | updated (row : α)
  | conditionalCheckFailed
  | unavailable
deriving DecidableEq

/-- Send an update of one row to the table. -/
def updateRequest (fault : Fault) (item : TableItem Row) (t : Table Row) :
    UpdateReply (Row item.key) × Table Row :=
  match fault with
  | .requestLost => (.unavailable, t)
  | .none =>
    if item.holds t then
      match item.effect (t.lookup item.key) with
      | some row => (.updated row, item.apply t)
      | none => (.unavailable, item.apply t)
    else (.conditionalCheckFailed, t)
  | .answerLost => (.unavailable, if item.holds t then item.apply t else t)

/-- An update whose condition holds answers with the new row. -/
theorem updateRequest_updated {row : Row item.key} (hholds : item.holds t = true)
    (heff : item.effect (t.lookup item.key) = some row) :
    (updateRequest .none item t).1 = .updated row := by
  simp only [updateRequest, hholds, if_true]
  rw [heff]

/-- A request that arrives commits exactly when its condition holds. -/
theorem updateRequest_cases {fault : Fault} {reply : UpdateReply (Row item.key)}
    (h : updateRequest fault item t = (reply, u)) :
    ((fault = .requestLost ∨ item.holds t = false) ∧ u = t ∧ ∀ row, reply ≠ .updated row) ∨
      (fault ≠ .requestLost ∧ item.holds t = true ∧ Table.transact [item] t = some u ∧
        ∀ row, reply = .updated row → item.effect (t.lookup item.key) = some row) := by
  have hcommit : item.holds t = true → Table.transact [item] t = some (item.apply t) := by
    intro hholds
    rw [Table.transact_eq_some_iff]
    simp [hholds]
  unfold updateRequest at h
  split at h
  · cases h
    simp
  · split at h
    next hholds =>
      right
      split at h
      next row hrow =>
        cases h
        refine ⟨by simp, hholds, hcommit hholds, ?_⟩
        rintro _ ⟨⟩
        exact hrow
      next =>
        cases h
        exact ⟨by simp, hholds, hcommit hholds, by simp⟩
    next hholds =>
      cases h
      simp [hholds]
  · split at h
    next hholds =>
      cases h
      exact .inr ⟨by simp, hholds, hcommit hholds, by simp⟩
    next hholds =>
      cases h
      simp [hholds]

end StoreProgram
