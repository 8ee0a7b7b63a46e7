import LimnoPulse.Library.Program
import LimnoPulse.Deployments.Store

/-!
# Starting, ending and looking up deployments

The repository calls as programs over single requests to the deployment tables.
A start checks what it read of the marker and the history; its transaction
checks the marker again, under the sequence number that was read.

Main results:

- Definitions `StartRequest.items` and `EndRequest.items`: the two
  transactions, item by item.
- Definition `machine`: any number of calls, interleaved with arbitrary
  changes of the parent rows.
-/

namespace LimnoPulse.Deployments

open StoreProgram Chronology
open Ingestion (Time)
open Provisioning (IdempotencyReceipt receiptPutCondition)

/-! ## Transactions -/

/-- Put a receipt over an absent or expired one. -/
def receiptPut (receipt : IdempotencyReceipt) (now : Time) : WriteItem Store where
  condition s := receiptPutCondition now (s.receipts receipt.key)
  effect s := s.putReceipt receipt.key receipt.toItem

/-- A parent row is active and belongs to the tenant. -/
def activeCheck (row : Parents → Option ParentRow) (tenantId : String) : WriteItem Store where
  condition s := (row s.parents).any fun parent => parent.active && parent.tenantId = tenantId
  effect s := s

/-- A start as it is sent, with the marker and latest end that were read. -/
structure StartRequest where
  deployment : DeploymentRow
  marker : Option Marker
  previousEndedAt : Option Time
  receipt : IdempotencyReceipt
  now : Time

namespace StartRequest

/-- Create the marker, or advance the one that was read. -/
def markerUpdate (request : StartRequest) : WriteItem Store where
  condition s :=
    match request.marker with
    | none => (s.markers request.deployment.componentId).isNone
    | some observed => (s.markers request.deployment.componentId).any fun marker =>
      marker.seq = observed.seq && marker.tenantId = request.deployment.tenantId
        && marker.lastEndedAt.all (· ≤ request.deployment.startedAt)
  effect s :=
    match request.marker with
    | none => s.putMarker request.deployment.componentId
        ⟨request.deployment.tenantId, 1, request.previousEndedAt⟩
    | some observed => s.putMarker request.deployment.componentId
        ⟨request.deployment.tenantId, observed.seq + 1,
          (s.markers request.deployment.componentId).bind (·.lastEndedAt)⟩

/-- A mirror row that is not there yet. -/
def mirrorPut (request : StartRequest) : WriteItem Store where
  condition s :=
    (s.mirrors (request.deployment.tenantId, request.deployment.deploymentId)).isNone
  effect s :=
    s.putMirror (request.deployment.tenantId, request.deployment.deploymentId) request.deployment

/-- A history row that is not there yet. -/
def historyPut (request : StartRequest) : WriteItem Store where
  condition s :=
    (s.historyRow request.deployment.componentId request.deployment.historyKey).isNone
  effect s := s.putHistory request.deployment.componentId request.deployment

/-- The current row, if there is none. -/
def currentPut (request : StartRequest) : WriteItem Store where
  condition s := (s.currents request.deployment.componentId).isNone
  effect s := s.putCurrent request.deployment.componentId (some request.deployment)

/-- The transaction of a start. -/
def items (request : StartRequest) : List (WriteItem Store) :=
  let deployment := request.deployment
  [request.mirrorPut, request.historyPut, request.currentPut, request.markerUpdate,
    receiptPut request.receipt request.now,
    activeCheck (·.components deployment.componentId) deployment.tenantId,
    activeCheck (·.assets (deployment.tenantId, deployment.assetId)) deployment.tenantId,
    activeCheck (·.sites (deployment.tenantId, deployment.siteId)) deployment.tenantId]

end StartRequest

/-- An end as it is sent, with the deployment and marker that were read. -/
structure EndRequest where
  current : DeploymentRow
  (endedAt updatedAt : Time)
  observedSeq : Option Nat

namespace EndRequest

/-- The attributes that an end sets. -/
def change (request : EndRequest) (row : DeploymentRow) : DeploymentRow :=
  { row with
    status := .ended
    endedAt := some request.endedAt
    updatedAt := request.updatedAt
    version := request.current.version + 1 }

/-- The condition of both row updates. -/
def endsRow (request : EndRequest) (row : DeploymentRow) : Bool :=
  row.version = request.current.version && row.status = .active
    && row.tenantId = request.current.tenantId
    && row.deploymentId = request.current.deploymentId

/-- End the mirror row. -/
def mirrorUpdate (request : EndRequest) : WriteItem Store where
  condition s :=
    (s.mirrors (request.current.tenantId, request.current.deploymentId)).any request.endsRow
  effect s :=
    s.modifyMirror (request.current.tenantId, request.current.deploymentId) request.change

/-- End the history row. -/
def historyUpdate (request : EndRequest) : WriteItem Store where
  condition s :=
    (s.historyRow request.current.componentId request.current.historyKey).any request.endsRow
  effect s :=
    s.modifyHistory request.current.componentId request.current.historyKey request.change

/-- Delete the current row. -/
def currentDelete (request : EndRequest) : WriteItem Store where
  condition s := (s.currents request.current.componentId).any fun row =>
    row.deploymentId = request.current.deploymentId && row.version = request.current.version
      && row.tenantId = request.current.tenantId
  effect s := s.putCurrent request.current.componentId none

/-- Record the end on the marker that was read. -/
def markerAdvance (request : EndRequest) : WriteItem Store where
  condition s :=
    match request.observedSeq with
    | none => (s.markers request.current.componentId).isNone
    | some observed => (s.markers request.current.componentId).any fun marker =>
      marker.seq = observed && marker.tenantId = request.current.tenantId
  effect s :=
    s.putMarker request.current.componentId
      ⟨request.current.tenantId, request.observedSeq.getD 0 + 1, some request.endedAt⟩

/-- The transaction of an end. -/
def items (request : EndRequest) : List (WriteItem Store) :=
  [request.mirrorUpdate, request.historyUpdate, request.currentDelete, request.markerAdvance]

end EndRequest

/-- The two transactions. -/
inductive Transaction where
  | start (request : StartRequest)
  | finish (request : EndRequest)

/-- The items of a transaction. -/
def Transaction.items : Transaction → List (WriteItem Store)
  | .start request => request.items
  | .finish request => request.items

/-- The component whose history a transaction changes. -/
def Transaction.componentId : Transaction → String
  | .start request => request.deployment.componentId
  | .finish request => request.current.componentId

/-- All items, or none. -/
def Transaction.write (transaction : Transaction) (s : Store) : Option Store :=
  transactWrite transaction.items s

/-- One request to the tables. -/
inductive Op where
  | getMirror (key : String × String)
  | getMarker (componentId : String)
  | queryHistory (componentId : String) (upper : Option Time)
  | transact (transaction : Transaction)
  | writeParents (parents : Parents)

/-- A refusal names the items that failed. -/
inductive TransactReply where
  | committed
  | conflict (failedIndexes : List Nat)
  | unavailable
deriving DecidableEq

/-- What a request is answered. -/
@[reducible]
def Reply : Op → Type
  | .getMirror _ => ReadReply DeploymentRow
  | .getMarker _ => ReadReply Marker
  | .queryHistory _ _ => ReadReply DeploymentRow
  | .transact _ => TransactReply
  | .writeParents _ => Unit

/-- A refusal names the items that failed. -/
def transactReply (items : List (WriteItem Store)) (s : Store) : WriteReply → TransactReply
  | .committed => .committed
  | .conflict => .conflict (failedIndexes items s)
  | .unavailable => .unavailable

/-- All reads are consistent. -/
def exec : (op : Op) → Fault → Store → Option (Reply op × Store)
  | .getMirror key, fault, s => some (answer fault (s.mirrors key), s)
  | .getMarker componentId, fault, s => some (answer fault (s.markers componentId), s)
  | .queryHistory componentId upper, fault, s =>
    some (answer fault (queryLatest (s.histories componentId) upper), s)
  | .transact transaction, fault, s =>
    let (reply, t) := attempt fault transaction.write s
    some (transactReply transaction.items s reply, t)
  | .writeParents parents, _, s => some ((), { s with parents := parents })

/-- The rows stay, or a transaction commits. -/
theorem exec_cases {op : Op} {fault : Fault} {s t : Store} {reply : Reply op}
    (h : exec op fault s = some (reply, t)) :
    (∃ parents, t = { s with parents := parents } ∧
      ∀ transaction, op = .transact transaction →
        fault = .requestLost ∨ transaction.write s = none) ∨
    (∃ transaction, op = .transact transaction ∧ fault ≠ .requestLost ∧
      transaction.write s = some t) := by
  cases op with
  | getMirror key | getMarker componentId | queryHistory componentId upper =>
    simp only [exec, Option.some.injEq, Prod.mk.injEq] at h
    exact .inl ⟨s.parents, h.2.symm, by simp⟩
  | writeParents parents =>
    simp only [exec, Option.some.injEq, Prod.mk.injEq] at h
    exact .inl ⟨parents, h.2.symm, by simp⟩
  | transact transaction =>
    obtain ⟨-, rfl⟩ := Prod.mk.inj (Option.some.inj h)
    rcases attempt_cases (Prod.eta (attempt fault transaction.write s)).symm with
      ⟨hsame, -, hrefused⟩ | ⟨hwrite, hfault⟩
    · refine .inl ⟨s.parents, hsame, ?_⟩
      rintro _ ⟨⟩
      exact hrefused
    · exact .inr ⟨transaction, rfl, hfault, hwrite⟩

/-! ## Calls -/

/-- How a call can fail. -/
inductive DeploymentError where
  | notFound (message : String)
  | conflict (message : String)
  | invalid (message : String)
  | storeError
deriving DecidableEq

/-- Another request has the key. -/
def idempotencyConflict : String := "idempotency key reused with a different request"
/-- A deployment is active. -/
def activeDeploymentConflict : String := "component already has an active deployment"
/-- The intervals overlap. -/
def overlapConflict : String := "deployment overlaps the previous interval"
/-- The deployment has ended. -/
def deploymentNotActive : String := "deployment is not active"
/-- Another version is stored. -/
def deploymentVersionConflict : String := "deployment version conflict"

/-- The message of a cancelled start. -/
def classifyStartConflict (failed : List Nat) : String :=
  if 4 ∈ failed then idempotencyConflict
  else if 2 ∈ failed then activeDeploymentConflict
  else if 3 ∈ failed then overlapConflict
  else if 5 ∈ failed then "component is not active"
  else if 6 ∈ failed then "asset is not active"
  else if 7 ∈ failed then "site is not active"
  else if 0 ∈ failed || 1 ∈ failed then "deployment already exists"
  else "deployment conflict"

/-- The message of a cancelled end. -/
def classifyEndConflict (failed : List Nat) : String :=
  if 3 ∈ failed && failed.length = 1 then "deployment changed concurrently"
  else deploymentVersionConflict

/-- Programs over the tables. -/
abbrev DeploymentProgram := Program Op Reply

/-- Read a mirror row. -/
def getMirror (key : String × String) : DeploymentProgram (ReadReply DeploymentRow) :=
  Program.perform (Op.getMirror key)

/-- Read a marker. -/
def getMarker (componentId : String) : DeploymentProgram (ReadReply Marker) :=
  Program.perform (Op.getMarker componentId)

/-- Read the latest history row. -/
def queryHistory (componentId : String) (upper : Option Time) :
    DeploymentProgram (ReadReply DeploymentRow) :=
  Program.perform (Op.queryHistory componentId upper)

/-- Send a transaction. -/
def transact (transaction : Transaction) : DeploymentProgram TransactReply :=
  Program.perform (Op.transact transaction)

/-- The check against the latest row, whose end is handed on. -/
def ensureAfterHistory (startedAt : Time) (latest : Option DeploymentRow) :
    Except DeploymentError (Option Time) :=
  match latest with
  | none => .ok none
  | some row =>
    match deploymentFromItem row with
    | none => .error (.invalid "stored deployment")
    | some previous =>
      match previous.endedAt with
      | none => .error (.conflict activeDeploymentConflict)
      | some endedAt =>
        if startedAt < endedAt then .error (.conflict overlapConflict)
        else .ok (some endedAt)

/-- `start_deployment`. -/
def startDeployment (deployment : Deployment) (receipt : IdempotencyReceipt) (now : Time) :
    DeploymentProgram (Except DeploymentError Deployment) := do
  if deployment.status ≠ .active then
    return .error (.invalid "only an active deployment can be started")
  else
    match ← getMarker deployment.componentId with
    | .unavailable => return .error .storeError
    | .row marker =>
      if (marker.bind (·.lastEndedAt)).any (deployment.startedAt < ·) then
        return .error (.conflict overlapConflict)
      else
        match ← queryHistory deployment.componentId none with
        | .unavailable => return .error .storeError
        | .row latest =>
          match ensureAfterHistory deployment.startedAt latest with
          | .error error => return .error error
          | .ok previousEndedAt =>
            match ← transact (.start
              ⟨deployment.toDeploymentRow, marker, previousEndedAt, receipt, now⟩) with
            | .committed => return .ok deployment
            | .conflict failed => return .error (.conflict (classifyStartConflict failed))
            | .unavailable => return .error .storeError

/-- The deployment with its end, if valid. -/
def endedDeployment (current : Deployment) (endedAt clock : Time) : Option Deployment :=
  deploymentFromItem
    { current.toDeploymentRow with
      endedAt := some endedAt
      status := .ended
      updatedAt := max clock current.updatedAt
      version := current.version + 1 }

/-- What an end is called with. -/
structure EndArguments where
  (tenantId deploymentId : String)
  expectedVersion : Nat
  (endedAt clock : Time)

/-- `end_deployment`. -/
def endDeployment (arguments : EndArguments) :
    DeploymentProgram (Except DeploymentError Deployment) := do
  match ← getMirror (arguments.tenantId, arguments.deploymentId) with
  | .unavailable => return .error .storeError
  | .row none => return .error (.notFound "deployment not found")
  | .row (some item) =>
    if item.tenantId ≠ arguments.tenantId then
      return .error (.notFound "deployment not found")
    else
      match deploymentFromItem item with
      | none => return .error (.invalid "stored deployment")
      | some current =>
        if current.status ≠ .active then return .error (.conflict deploymentNotActive)
        else if current.version ≠ arguments.expectedVersion then
          return .error (.conflict deploymentVersionConflict)
        else
          match endedDeployment current arguments.endedAt arguments.clock with
          | none => return .error (.invalid "ended_at must be after started_at")
          | some ended =>
            match ← getMarker current.componentId with
            | .unavailable => return .error .storeError
            | .row marker =>
              match ← transact (.finish
                ⟨current.toDeploymentRow, arguments.endedAt, ended.updatedAt,
                  marker.map (·.seq)⟩) with
              | .committed => return .ok ended
              | .conflict failed =>
                return .error (.conflict (classifyEndConflict failed))
              | .unavailable => return .error .storeError

/-- The interval of a deployment contains the instant. -/
def contains (row : DeploymentRow) (observedAt : Time) : Bool :=
  row.startedAt ≤ observedAt && row.endedAt.all (observedAt < ·)

/-- What the latest started row says about an instant. -/
def deploymentAtOf (tenantId : String) (observedAt : Time) (latest : Option DeploymentRow) :
    Except DeploymentError (Option Deployment) :=
  match latest with
  | none => .ok none
  | some row =>
    if row.tenantId ≠ tenantId then .ok none
    else
      match deploymentFromItem row with
      | none => .error (.invalid "stored deployment")
      | some deployment =>
        .ok (if contains deployment.toDeploymentRow observedAt then some deployment else none)

/-- `get_deployment_at`. -/
def getDeploymentAt (tenantId componentId : String) (observedAt : Time) :
    DeploymentProgram (Except DeploymentError (Option Deployment)) := do
  match ← queryHistory componentId (some observedAt) with
  | .unavailable => return .error .storeError
  | .row latest => return deploymentAtOf tenantId observedAt latest

/-- The calls, and writes of the parent rows. -/
inductive Call where
  | startDeployment (deployment : Deployment) (receipt : IdempotencyReceipt) (now : Time)
  | endDeployment (arguments : EndArguments)
  | getDeploymentAt (tenantId componentId : String) (observedAt : Time)
  | writeParents (parents : Parents)

/-- What a call returns. -/
inductive Result where
  | deployment (outcome : Except DeploymentError Deployment)
  | lookup (outcome : Except DeploymentError (Option Deployment))
  | written

/-- The program of a call. -/
def Call.body : Call → DeploymentProgram Result
  | .startDeployment deployment receipt now =>
    return .deployment (← Deployments.startDeployment deployment receipt now)
  | .endDeployment arguments => return .deployment (← Deployments.endDeployment arguments)
  | .getDeploymentAt tenantId componentId observedAt =>
    return .lookup (← Deployments.getDeploymentAt tenantId componentId observedAt)
  | .writeParents parents =>
    Program.call (Op.writeParents parents) fun _ => .done .written

/-- Calls interleaved with writes of the parent rows. -/
def machine : Machine Store Fault Call Result Op Reply where
  exec := exec
  body := Call.body
  admits _ _ := true

end LimnoPulse.Deployments
