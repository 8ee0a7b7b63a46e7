import LimnoPulse.Library.Chronology
import LimnoPulse.Library.Transaction
import LimnoPulse.Provisioning.Receipts
import Mathlib.Data.List.MinMax
import Mathlib.Data.Prod.Lex
import Mathlib.Data.String.Basic

/-!
# The deployment tables

A deployment places a component on an asset for a half-open interval.  It is
stored as a mirror row of its tenant, as a history row of its component and,
while it is active, as the component's current row; a marker per component
carries a sequence number and the latest end.  History rows are sorted as their
key texts are.

Main results:

- Theorem `queryLatest_eq_some`: the descending query with limit one
  returns the row with the greatest key in its range.
-/

namespace LimnoPulse.Deployments

open StoreProgram Chronology
open Function (update)
open Ingestion (Time)
open Provisioning (ReceiptKey ReceiptRow)

/-! ## Rows -/

/-- Where a deployment stands. -/
inductive DeploymentStatus where
  | active
  | ended
deriving DecidableEq

/-- What the three forms of a deployment share. -/
structure DeploymentRow where
  (tenantId deploymentId componentId siteId assetId : String)
  startedAt : Time
  endedAt : Option Time
  status : DeploymentStatus
  (createdAt updatedAt : Time)
  version : Nat
deriving DecidableEq

/-- A positive version, ordered times, and an end exactly when ended. -/
def DeploymentRow.Valid (row : DeploymentRow) : Prop :=
  1 ≤ row.version ∧ row.createdAt ≤ row.updatedAt ∧
    (∀ endedAt ∈ row.endedAt, row.startedAt < endedAt) ∧
    (row.status = .ended ↔ row.endedAt.isSome = true)

/-- Validity is checked by evaluation. -/
instance (row : DeploymentRow) : Decidable row.Valid :=
  inferInstanceAs (Decidable (1 ≤ row.version ∧ row.createdAt ≤ row.updatedAt ∧
    (∀ endedAt ∈ row.endedAt, row.startedAt < endedAt) ∧
    (row.status = .ended ↔ row.endedAt.isSome = true)))

/-- A checked deployment. -/
structure Deployment extends DeploymentRow where
  valid : toDeploymentRow.Valid

/-- Decode a stored row; `none` is a validation error. -/
def deploymentFromItem (row : DeploymentRow) : Option Deployment :=
  if h : row.Valid then some ⟨row, h⟩ else none

variable {row : DeploymentRow}

/-- A decoded deployment has the fields of its row. -/
theorem deploymentFromItem_eq_some {deployment : Deployment}
    (h : deploymentFromItem row = some deployment) : deployment.toDeploymentRow = row := by
  unfold deploymentFromItem at h
  split at h
  · cases h
    rfl
  · cases h

/-- A valid row is decoded. -/
theorem deploymentFromItem_of_valid (h : row.Valid) : deploymentFromItem row = some ⟨row, h⟩ :=
  dif_pos h

/-- The sort key of a history row. -/
def DeploymentRow.historyKey (row : DeploymentRow) : Int ×ₗ String :=
  toLex (row.startedAt, row.deploymentId)

/-- The per-component marker. -/
structure Marker where
  tenantId : String
  seq : Nat
  lastEndedAt : Option Time
deriving DecidableEq

/-- What is checked of a component, asset or site. -/
structure ParentRow where
  tenantId : String
  active : Bool
deriving DecidableEq

/-- The parent rows, which other services write. -/
structure Parents where
  components : String → Option ParentRow
  (assets sites : String × String → Option ParentRow)

/-! ## The store -/

/-- The tables of the deployment store. -/
structure Store where
  mirrors : String × String → Option DeploymentRow
  histories : String → List DeploymentRow
  currents : String → Option DeploymentRow
  markers : String → Option Marker
  receipts : ReceiptKey → Option ReceiptRow
  parents : Parents

namespace Store

/-- Put a mirror row. -/
def putMirror (s : Store) (key : String × String) (row : DeploymentRow) : Store :=
  { s with mirrors := update s.mirrors key (some row) }

/-- Change a mirror row that exists. -/
def modifyMirror (s : Store) (key : String × String) (change : DeploymentRow → DeploymentRow) :
    Store :=
  { s with mirrors := update s.mirrors key ((s.mirrors key).map change) }

/-- Add a history row. -/
def putHistory (s : Store) (componentId : String) (row : DeploymentRow) : Store :=
  { s with
    histories := update s.histories componentId (row :: s.histories componentId) }

/-- Change the history row with the given key. -/
def modifyHistory (s : Store) (componentId : String) (key : Int ×ₗ String)
    (change : DeploymentRow → DeploymentRow) : Store :=
  { s with
    histories := update s.histories componentId
      ((s.histories componentId).map fun row => if row.historyKey = key then change row else row) }

/-- Put or delete the current row. -/
def putCurrent (s : Store) (componentId : String) (row : Option DeploymentRow) : Store :=
  { s with currents := update s.currents componentId row }

/-- Put the marker of a component. -/
def putMarker (s : Store) (componentId : String) (marker : Marker) : Store :=
  { s with markers := update s.markers componentId (some marker) }

/-- Put a receipt. -/
def putReceipt (s : Store) (key : ReceiptKey) (row : ReceiptRow) : Store :=
  { s with receipts := update s.receipts key (some row) }

/-- The history row with the given key. -/
def historyRow (s : Store) (componentId : String) (key : Int ×ₗ String) : Option DeploymentRow :=
  (s.histories componentId).find? fun row => row.historyKey = key

end Store

/-- History keys compare by start and then by identifier. -/
@[reducible]
def historyKeyOrder : LinearOrder (Int ×ₗ String) :=
  @Prod.Lex.instLinearOrder Int String Int.instLinearOrder String.instLinearOrder

/-- The latest row, of all or of those started by an instant. -/
def queryLatest (rows : List DeploymentRow) (upper : Option Time) : Option DeploymentRow :=
  @List.argmax _ _ historyKeyOrder.toPreorder historyKeyOrder.toDecidableLT DeploymentRow.historyKey
    (rows.filter fun row => upper.all (row.startedAt ≤ ·))

/-- The row with the greatest key in the range. -/
theorem queryLatest_eq_some {rows : List DeploymentRow} {upper : Option Time}
    (h : queryLatest rows upper = some row) :
    row ∈ rows ∧ (∀ bound, upper = some bound → row.startedAt ≤ bound) ∧
      ∀ other ∈ rows, (∀ bound, upper = some bound → other.startedAt ≤ bound) →
        other.historyKey ≤ row.historyKey := by
  have hmem := List.mem_filter.mp (@List.argmax_mem _ _ historyKeyOrder.toPreorder _ _ _ _ h)
  refine ⟨hmem.1, ?_, ?_⟩
  · rintro bound rfl
    simpa using hmem.2
  · intro other hother hstart
    refine @List.le_of_mem_argmax _ _ historyKeyOrder _ _ _ _ (List.mem_filter.mpr ⟨hother, ?_⟩) h
    cases upper with
    | none => rfl
    | some bound => simpa using hstart bound rfl

/-- No row lies in the range. -/
theorem queryLatest_eq_none {rows : List DeploymentRow} {upper : Option Time}
    (h : queryLatest rows upper = none) (hrow : row ∈ rows) :
    ∃ bound, upper = some bound ∧ bound < row.startedAt := by
  have hnil := (@List.argmax_eq_none _ _ historyKeyOrder.toPreorder _ _ _).mp h
  rw [List.filter_eq_nil_iff] at hnil
  have hout := hnil row hrow
  cases upper with
  | none => exact absurd rfl hout
  | some bound =>
    refine ⟨bound, rfl, ?_⟩
    simpa using hout

end LimnoPulse.Deployments
