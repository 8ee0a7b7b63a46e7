import Mathlib.Data.List.Basic
import Mathlib.Data.List.Forall2
import Mathlib.Logic.Function.Basic

/-!
# Conditional writes and all-or-nothing transactions

A write item with a condition, a transaction that checks all conditions before any
item takes effect, and the ways in which a request can fail without telling its
caller whether it was carried out.  Rows that may be read with eventual consistency
keep their past values.

Main results:

- Theorem `transactWrite_eq_some_iff`: a transaction commits exactly when
  every condition holds in the store it found.
- Theorem `attempt_cases`: a write request leaves the store alone or
  commits, whatever its caller is told.
-/

namespace StoreProgram

variable {σ κ ρ : Type} {α β : Type} {s t : σ} {f : α → Option β} {xs : List α} {ys : List β}
  {value : ρ}

/-- One item of a transaction. -/
structure WriteItem (σ : Type) where
  condition : σ → Bool
  effect : σ → σ

/-- All or nothing; the items address different rows, so their order is immaterial. -/
def transactWrite (items : List (WriteItem σ)) (s : σ) : Option σ :=
  if items.all (fun item => item.condition s) then
    some (items.foldl (fun t item => item.effect t) s)
  else none

/-- When a transaction commits, and what it leaves. -/
theorem transactWrite_eq_some_iff {items : List (WriteItem σ)} :
    transactWrite items s = some t ↔
      (∀ item ∈ items, item.condition s = true) ∧
        t = items.foldl (fun u item => item.effect u) s := by
  unfold transactWrite
  split
  next hall =>
    rw [List.all_eq_true] at hall
    exact ⟨fun h => ⟨hall, (Option.some.inj h).symm⟩, fun h => by rw [h.2]⟩
  next hall =>
    rw [List.all_eq_true] at hall
    exact ⟨fun h => by contradiction, fun h => absurd h.1 hall⟩

/-- The positions of the items whose condition fails. -/
def failedIndexes (items : List (WriteItem σ)) (s : σ) : List Nat :=
  items.findIdxs fun item => !item.condition s

/-- What no item changes, the transaction does not change. -/
theorem foldl_effect_frame (observe : σ → α) :
    ∀ (items : List (WriteItem σ)) (s : σ),
      (∀ item ∈ items, ∀ t, observe (item.effect t) = observe t) →
      observe (items.foldl (fun t item => item.effect t) s) = observe s
  | [], _, _ => rfl
  | item :: items, s, h => by
    rw [List.foldl_cons, foldl_effect_frame observe items (item.effect s)
      fun other hother => h other (List.mem_cons_of_mem _ hother)]
    exact h item List.mem_cons_self s

/-- Items that are computed one by one. -/
theorem mapM_forall₂ :
    ∀ {xs : List α} {ys : List β}, xs.mapM f = some ys → List.Forall₂ (fun x y => f x = some y) xs ys
  | [], ys, h => by
    cases h
    exact .nil
  | x :: xs, ys, h => by
    simp only [List.mapM_cons, Option.bind_eq_bind, Option.bind_eq_some_iff, Option.pure_def,
      Option.some.injEq] at h
    obtain ⟨z, hz, zs, hzs, rfl⟩ := h
    exact .cons hz (mapM_forall₂ hzs)

/-- Each element of the second list has a partner. -/
theorem exists_of_forall₂ {R : α → β → Prop}
    (h : List.Forall₂ R xs ys) {y : β} (hy : y ∈ ys) : ∃ x ∈ xs, R x y := by
  induction h with
  | nil => cases hy
  | cons hhead _ ih =>
    rcases List.mem_cons.mp hy with rfl | hy
    · exact ⟨_, List.mem_cons_self, hhead⟩
    · obtain ⟨x, hx, hrel⟩ := ih hy
      exact ⟨x, List.mem_cons_of_mem _ hx, hrel⟩

section

variable [DecidableEq κ] {table table' : κ → Option ρ} {key other : κ} {new row : ρ}

/-- A row found after a put is the row put, or was there before. -/
theorem eq_some_of_update (h : table' = Function.update table key (some new))
    (hrow : table' other = some row) :
    other = key ∧ row = new ∨ other ≠ key ∧ table other = some row := by
  subst h
  by_cases hkey : other = key
  · rw [hkey, Function.update_self, Option.some.injEq] at hrow
    exact .inl ⟨hkey, hrow.symm⟩
  · rw [Function.update_of_ne hkey] at hrow
    exact .inr ⟨hkey, hrow⟩

/-- A row stored before a put under a fresh key stays. -/
theorem update_eq_some_of_fresh (h : table' = Function.update table key (some new))
    (hfresh : table key = none) (hrow : table other = some row) : table' other = some row := by
  rw [h, Function.update_of_ne, hrow]
  rintro rfl
  cases hfresh.symm.trans hrow

end

/-- All items are computed if none fails. -/
theorem exists_mapM_eq_some : ∀ {xs : List α},
    (∀ x ∈ xs, ∃ y, f x = some y) → ∃ ys, xs.mapM f = some ys
  | [], _ => ⟨[], rfl⟩
  | x :: xs, h => by
    obtain ⟨y, hy⟩ := h x (by simp)
    obtain ⟨ys, hys⟩ := exists_mapM_eq_some fun x' hx' => h x' (List.mem_cons_of_mem x hx')
    exact ⟨y :: ys, by simp [List.mapM_cons, hy, hys]⟩

/-- Each item comes from a source. -/
theorem exists_of_mem_mapM
    (h : xs.mapM f = some ys) (y : β) (hy : y ∈ ys) : ∃ x ∈ xs, f x = some y :=
  exists_of_forall₂ (mapM_forall₂ h) hy

/-- Each source has its item. -/
theorem exists_of_mem_mapM_source
    (h : xs.mapM f = some ys) (x : α) (hx : x ∈ xs) : ∃ y, f x = some y ∧ y ∈ ys := by
  obtain ⟨y, hy, hrel⟩ := exists_of_forall₂ (mapM_forall₂ h).flip hx
  exact ⟨y, hrel, hy⟩

/-- Carried out, lost on the way, or with its answer lost. -/
inductive Fault where
  | none
  | requestLost
  | answerLost
deriving DecidableEq

/-- What the caller of a conditional write learns. -/
inductive WriteReply where
  | committed
  | conflict
  | unavailable
deriving DecidableEq

/-- What the caller of a read learns: the row, if there is one, or nothing. -/
inductive ReadReply (α : Type) where
  | row (value : Option α)
  | unavailable
deriving DecidableEq

/-- Send one read of `value` to the store. -/
def answer {α : Type} (fault : Fault) (value : Option α) : ReadReply α :=
  match fault with
  | .none => .row value
  | .requestLost | .answerLost => .unavailable

variable {fault : Fault}

/-- An answer shows the stored row. -/
theorem answer_eq_row {value row : Option α} (h : answer fault value = .row row) : value = row := by
  cases fault with
  | none => exact ReadReply.row.inj h
  | requestLost | answerLost => contradiction

/-- Send one conditional write to the store. -/
def attempt (fault : Fault) (write : σ → Option σ) (s : σ) : WriteReply × σ :=
  match fault, write s with
  | .none, some t => (.committed, t)
  | .none, none => (.conflict, s)
  | .requestLost, _ => (.unavailable, s)
  | .answerLost, some t => (.unavailable, t)
  | .answerLost, none => (.unavailable, s)

/-- A write commits, or leaves the store alone and does not say so. -/
theorem attempt_cases {write : σ → Option σ} {reply : WriteReply}
    (h : attempt fault write s = (reply, t)) :
    (t = s ∧ reply ≠ .committed ∧ (fault = .requestLost ∨ write s = none)) ∨
      (write s = some t ∧ fault ≠ .requestLost) := by
  unfold attempt at h
  split at h <;> cases h <;> simp_all

/-- A row that is read with eventual consistency: its values, newest first. -/
abbrev Versions (ρ : Type) := List ρ

namespace Versions

/-- The value a strongly consistent read sees. -/
def current (row : Versions ρ) : Option ρ := row.head?

/-- The value a read sees that misses the last `age` writes. -/
def stale (row : Versions ρ) (age : Nat) : Option ρ := (row.drop age).head?

variable {row : Versions ρ}

/-- A stale read shows a past value. -/
theorem mem_of_stale {age : Nat} (h : row.stale age = some value) : value ∈ row :=
  List.mem_of_mem_drop (List.mem_of_mem_head? (by simpa [stale] using h))

/-- The current value is one of the values. -/
theorem mem_of_current (h : row.current = some value) : value ∈ row :=
  List.mem_of_mem_head? (by simpa [current] using h)

end Versions

end StoreProgram
