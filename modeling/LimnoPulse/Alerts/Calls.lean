import LimnoPulse.Alerts.Transactions

/-!
# The calls that change alerts

The API calls and the evaluation of one candidate as programs over single
operations.  Clock readings, random identifiers and the result of the window
query are arguments.

Main results:

- Definition `machine`: the alert system as a machine in which any number
  of calls run interleaved.
- Theorem `exec_cases`: an operation leaves the store alone, claims a
  lease or commits a transaction.
-/

namespace LimnoPulse.Alerts

open CivilTime StoreProgram Evaluator

/-- One request to the store. -/
inductive Op where
  | getRule (key : RuleKey)
  | getState (key : RuleKey)
  | getEvent (key : EventKey)
  | getReceipt (key : String × String)
  | claim (key : RuleKey) (lease : LeaseRequest)
  | transact (transaction : Transaction)

/-- A claim is answered with the written row. -/
inductive ClaimReply where
  | claimed (row : RuleRow)
  | conflict
  | unavailable

/-- What an operation is answered. -/
@[reducible]
def Reply : Op → Type
  | .getRule _ => ReadReply AlertRule
  | .getState _ => ReadReply StateRow
  | .getEvent _ => ReadReply EventRow
  | .getReceipt _ => ReadReply IdempotencyRow
  | .claim _ _ => ClaimReply
  | .transact _ => WriteReply

/-- Whether a request fails, and how stale a read is. -/
structure Choice where
  fault : Fault := .none
  age : Nat := 0

/-- The answer to a claim attempt that left the store `t`. -/
def claimReply (key : RuleKey) (t : Store) : WriteReply → ClaimReply
  | .committed =>
    match t.rule key with
    | some row => .claimed row
    | none => .unavailable
  | .conflict => .conflict
  | .unavailable => .unavailable

/-- One operation. -/
def exec : (op : Op) → Choice → Store → Option (Reply op × Store)
  | .getRule key, choice, s =>
    some (answer choice.fault (((s.rules key).stale choice.age).map (·.rule)), s)
  | .getState key, choice, s => some (answer choice.fault (s.states key), s)
  | .getEvent key, choice, s => some (answer choice.fault (s.events key), s)
  | .getReceipt key, choice, s =>
    some (answer choice.fault ((s.receipts key).stale choice.age), s)
  | .claim key lease, choice, s =>
    let (reply, t) := attempt choice.fault (claimLease key lease) s
    some (claimReply key t reply, t)
  | .transact transaction, choice, s => some (attempt choice.fault transaction.write s)

/-- The store stays, a lease is claimed, or a transaction commits. -/
theorem exec_cases {op : Op} {choice : Choice} {s t : Store} {reply : Reply op}
    (h : exec op choice s = some (reply, t)) :
    (t = s ∧ ∀ transaction, op = .transact transaction →
      choice.fault = .requestLost ∨ transaction.write s = none) ∨
    (∃ key lease, op = .claim key lease ∧ claimLease key lease s = some t) ∨
    (∃ transaction, op = .transact transaction ∧ choice.fault ≠ .requestLost ∧
      transaction.write s = some t) := by
  cases op with
  | getRule key | getState key | getEvent key | getReceipt key =>
    simp only [exec, Option.some.injEq, Prod.mk.injEq] at h
    exact .inl ⟨h.2.symm, by simp⟩
  | claim key lease =>
    obtain ⟨-, rfl⟩ := Prod.mk.inj (Option.some.inj h)
    rcases attempt_cases (Prod.eta (attempt choice.fault (claimLease key lease) s)).symm with
      ⟨hsame, -⟩ | ⟨hclaim, -⟩
    · exact .inl ⟨hsame, by simp⟩
    · exact .inr (.inl ⟨key, lease, rfl, hclaim⟩)
  | transact transaction =>
    simp only [exec, Option.some.injEq] at h
    rcases attempt_cases h with ⟨hsame, -, hfault⟩ | ⟨hwrite, hfault⟩
    · refine .inl ⟨hsame, ?_⟩
      rintro _ ⟨⟩
      exact hfault
    · exact .inr (.inr ⟨transaction, rfl, hfault, hwrite⟩)

/-- Why a call fails. -/
inductive ApiError where
  | notFound (message : String)
  | eventNotFound (eventId : EventId)
  | conflict (message : String)
  | transactionConflict
  | storeError

/-- A rule and its replacement. -/
structure AlertRuleReplacement where
  (replaced replacement : AlertRule)
deriving DecidableEq

/-- What one candidate adds to the summary. -/
structure CandidateResult where
  evaluated : Nat := 0
  skipped : Nat := 0
  withError : Nat := 0
  fired : Nat := 0
  recovered : Nat := 0
  suppressed : Nat := 0
  missedSlots : Nat := 0
  coalesced : Nat := 0
  category : String := ""
  fatal : Bool := false

/-- What a call returns. -/
inductive Result where
  | rule (outcome : Except ApiError AlertRule)
  | replacement (outcome : Except ApiError AlertRuleReplacement)
  | event (outcome : Except ApiError EventRow)
  | candidate (outcome : CandidateResult)

/-- A program over the alert tables. -/
abbrev AlertProgram := Program Op Reply

/-- Read a rule. -/
def getRule (key : RuleKey) : AlertProgram (ReadReply AlertRule) := Program.perform (Op.getRule key)

/-- Read a state. -/
def getState (key : RuleKey) : AlertProgram (ReadReply StateRow) := Program.perform (Op.getState key)

/-- Read an event. -/
def getEvent (key : EventKey) : AlertProgram (ReadReply EventRow) := Program.perform (Op.getEvent key)

/-- Read a receipt. -/
def getReceipt (key : String × String) : AlertProgram (ReadReply IdempotencyRow) :=
  Program.perform (Op.getReceipt key)

/-- Claim a lease. -/
def claim (key : RuleKey) (lease : LeaseRequest) : AlertProgram ClaimReply :=
  Program.perform (Op.claim key lease)

/-- Send a transaction. -/
def transact (transaction : Transaction) : AlertProgram WriteReply :=
  Program.perform (Op.transact transaction)

/-! ### Rules -/

/-- How a rule transaction's answer is reported. -/
def ruleOutcome (rule : AlertRule) : WriteReply → Except ApiError AlertRule
  | .committed => .ok rule
  | .conflict => .error .transactionConflict
  | .unavailable => .error .storeError

/-- `create_rule`. -/
def createRule (rule : AlertRule) : AlertProgram (Except ApiError AlertRule) := do
  return ruleOutcome rule (← transact (.createRule rule))

/-- The arguments of an update. -/
structure UpdateRuleArguments where
  (tenantId ruleId : String)
  expectedVersion : Nat
  updates : AlertRuleUpdates
  audit : Administrator
  now : Instant

/-- There is no such rule. -/
def ruleNotFound (ruleId : String) : ApiError := .notFound ("Alert rule " ++ ruleId ++ " not found")

/-- `update_rule`. -/
def updateRule (arguments : UpdateRuleArguments) : AlertProgram (Except ApiError AlertRule) := do
  let request existing stateItem : UpdateRule :=
    { tenantId := arguments.tenantId
      ruleId := arguments.ruleId
      expectedVersion := arguments.expectedVersion
      updates := arguments.updates
      existing := existing
      stateItem := stateItem
      audit := arguments.audit
      now := arguments.now }
  match ← getRule ⟨arguments.tenantId, arguments.ruleId⟩ with
  | .unavailable => return .error .storeError
  | .row none => return .error (ruleNotFound arguments.ruleId)
  | .row (some existing) =>
    -- The incident state is read only when the meaning of the rule changes.
    if semanticChange existing arguments.updates then
      match ← getState existing.key with
      | .unavailable => return .error .storeError
      | .row stateItem =>
        let request := request existing stateItem
        return ruleOutcome request.updated
          (← transact (.updateRule request))
    else
      let request := request existing none
      return ruleOutcome request.updated (← transact (.updateRule request))

/-- The replay a receipt gives to a request. -/
def replayIdempotency (item : Option IdempotencyRow) (requestHash : String) (now : Instant) :
    Except ApiError (Option AlertRuleReplacement) :=
  match item with
  | none => .ok none
  | some row =>
    if row.expiresAt / second ≤ now / second then .ok none
    else if row.requestHash ≠ requestHash then
      .error (.conflict "idempotency key already used with another request")
    else .ok (some ⟨row.replaced, row.replacement⟩)

/-- The arguments of a replacement. -/
structure ReplaceRuleArguments where
  (tenantId ruleId : String)
  expectedVersion : Nat
  replacement : AlertRule
  (idempotencyKey requestHash : String)
  audit : Administrator
  (now replayCheckedAt : Instant)

/-- After a failure the receipt is read again. -/
def replayAfterFailure (arguments : ReplaceRuleArguments) (failure : ApiError) :
    AlertProgram (Except ApiError AlertRuleReplacement) := do
  match ← getReceipt (arguments.tenantId, arguments.idempotencyKey) with
  | .unavailable => return .error .storeError
  | .row item =>
    match replayIdempotency item arguments.requestHash arguments.now with
    | .error error => return .error error
    | .ok (some replay) => return .ok replay
    | .ok none => return .error failure

/-- `replace_rule`. -/
def replaceRule (arguments : ReplaceRuleArguments) :
    AlertProgram (Except ApiError AlertRuleReplacement) := do
  match ← getReceipt (arguments.tenantId, arguments.idempotencyKey) with
  | .unavailable => return .error .storeError
  | .row item =>
    match replayIdempotency item arguments.requestHash arguments.replayCheckedAt with
    | .error error => return .error error
    | .ok (some replay) => return .ok replay
    | .ok none =>
      match ← getRule ⟨arguments.tenantId, arguments.ruleId⟩ with
      | .unavailable => return .error .storeError
      | .row none => return .error (ruleNotFound arguments.ruleId)
      | .row (some existing) =>
        match ← getState existing.key with
        | .unavailable => replayAfterFailure arguments .storeError
        | .row stateItem =>
          let request : ReplaceRule :=
            { tenantId := arguments.tenantId
              ruleId := arguments.ruleId
              expectedVersion := arguments.expectedVersion
              replacement := arguments.replacement
              idempotencyKey := arguments.idempotencyKey
              requestHash := arguments.requestHash
              existing := existing
              stateItem := stateItem
              audit := arguments.audit
              now := arguments.now }
          match ← transact (.replaceRule request) with
          | .committed => return .ok ⟨request.replaced, request.successor⟩
          | .conflict => replayAfterFailure arguments .transactionConflict
          | .unavailable => replayAfterFailure arguments .storeError

/-- The arguments of an event change. -/
structure EventChangeArguments where
  key : EventKey
  expectedVersion : Nat
  audit : Administrator
  now : Instant

/-- What an event change returns. -/
def eventOutcome (event : EventRow) : WriteReply → Except ApiError EventRow
  | .committed => .ok event
  | .conflict => .error (.conflict "alert event changed concurrently")
  | .unavailable => .error .storeError

/-- `acknowledge_event`. -/
def acknowledgeEvent (arguments : EventChangeArguments) : AlertProgram (Except ApiError EventRow) := do
  match ← getEvent arguments.key with
  | .unavailable => return .error .storeError
  | .row none => return .error (.eventNotFound arguments.key.eventId)
  | .row (some existing) =>
    if existing.status = .suppressed || existing.status = .resolved then
      return .error (.conflict "alert event cannot be acknowledged")
    else
      let request : EventChange :=
        ⟨arguments.key, existing, arguments.expectedVersion, arguments.audit, arguments.now⟩
      let updated :=
        { existing with
          status := .acknowledged
          acknowledgedAt := some arguments.now
          acknowledgedBy := some arguments.audit.actorId
          updatedAt := arguments.now
          version := arguments.expectedVersion + 1 }
      return eventOutcome updated (← transact (.acknowledgeEvent request))

/-- The state item of a resolution, if the event is active. -/
def resolvedStatePut (event : EventRow) (item : Option StateRow) (now : Instant) :
    Option (StateRow × Nat) :=
  item.bind fun row =>
    (resolvedEvaluatorState row event.eventId now).map fun resolved => (resolved, row.stateRevision)

/-- `resolve_event`. -/
def resolveEvent (arguments : EventChangeArguments) : AlertProgram (Except ApiError EventRow) := do
  match ← getEvent arguments.key with
  | .unavailable => return .error .storeError
  | .row none => return .error (.eventNotFound arguments.key.eventId)
  | .row (some existing) =>
    if existing.status = .resolved then
      return .error (.conflict "alert event is already resolved")
    else
      let request : EventChange :=
        ⟨arguments.key, existing, arguments.expectedVersion, arguments.audit, arguments.now⟩
      let updated :=
        { existing with
          status := .resolved
          resolvedAt := some arguments.now
          resolvedBy := some arguments.audit.actorId
          updatedAt := arguments.now
          version := arguments.expectedVersion + 1 }
      match ← getState ⟨existing.tenantId, existing.ruleId⟩ with
      | .unavailable => return .error .storeError
      | .row item =>
        let stateOperation := resolvedStatePut existing item arguments.now
        return eventOutcome updated
          (← transact (.resolveEvent request stateOperation))

/-! ## Evaluating a candidate -/

/-- What an evaluation depends on besides the store. -/
structure CandidateArguments where
  key : RuleKey
  lease : LeaseRequest
  slot : Instant
  window : Option (Quality × Option Rat)
  telegramDeliveryEnabled : Bool

/-- Slots between the due time and the evaluated one. -/
def missedSlots (nextDue slot : Instant) : Nat :=
  if slot ≤ nextDue then 0 else ((slot - nextDue).tdiv (evaluationCadence * second)).toNat

/-- Compare with the threshold. -/
def compare (operator : AlertOperator) (value threshold : Rat) : Bool :=
  match operator with
  | .lessThan => value < threshold
  | .lessThanOrEqual => value ≤ threshold
  | .greaterThan => threshold < value
  | .greaterThanOrEqual => threshold ≤ value

/-- The evaluation; a failed window query is a quality. -/
def evaluationOf (work : Work) (slot : Instant) (window : Option (Quality × Option Rat)) :
    Evaluation :=
  let missed := missedSlots work.nextEvaluationAt slot
  Evaluation.normalized <|
    match window with
    | none => ⟨slot, .queryError, false, none, missed⟩
    | some (quality, value) =>
      ⟨slot, quality, value.any fun v => compare work.rule.operator v work.rule.threshold,
        value, missed⟩

/-- The commit of a claimed rule and its state. -/
def commitRequest (arguments : CandidateArguments) (work : Work) (state : VersionedState) :
    CommitRequest :=
  let evaluation := evaluationOf work arguments.slot arguments.window
  { work := work
    previousState := state
    evaluation := evaluation.normalized
    decision := (evaluatorRule work.rule).decide state.state evaluation (evaluationCadence * second)
    slot := arguments.slot
    nextDue := arguments.slot + evaluationCadence * second
    telegramDeliveryEnabled := arguments.telegramDeliveryEnabled }

/-- The state a loaded row stands for. -/
def versionedState : Option StateRow → VersionedState
  | none => {}
  | some row => ⟨row.state, row.stateRevision⟩

/-- A failed evaluation. -/
def CandidateResult.failed (category : String) : CandidateResult :=
  { fatal := true, withError := 1, category := category }

/-- The result of a committed evaluation. -/
def CandidateResult.committed (arguments : CandidateArguments) (work : Work) (decision : Decision) :
    CandidateResult :=
  let missed := Alerts.missedSlots work.nextEvaluationAt arguments.slot
  { evaluated := 1
    missedSlots := missed
    coalesced := if 0 < missed then 1 else 0
    withError := if arguments.window.isNone then 1 else 0
    category := if arguments.window.isNone then "window_query" else ""
    fired := if decision.transition = .opened || decision.transition = .suppressed then 1 else 0
    suppressed := if decision.transition = .suppressed then 1 else 0
    recovered := if decision.transition = .recovered then 1 else 0 }

/-- `processCandidate`. -/
def processCandidate (arguments : CandidateArguments) : AlertProgram CandidateResult := do
  match ← claim arguments.key arguments.lease with
  | .conflict => return { skipped := 1 }
  | .unavailable => return .failed "claim"
  | .claimed row =>
    match workFromItem arguments.key row with
    | none => return .failed "claim"
    | some work =>
      match ← getState ⟨work.key.tenantId, work.rule.ruleId⟩ with
      | .unavailable => return .failed "state_read"
      | .row item =>
        let request := commitRequest arguments work (versionedState item)
        match request.items with
        | none => return .failed "commit"
        | some _ =>
          match ← transact (.commit request) with
          | .committed => return .committed arguments work request.decision
          | .conflict | .unavailable => return .failed "commit"

/-- Calls of both programs. -/
inductive Call where
  | createRule (rule : AlertRule)
  | updateRule (arguments : UpdateRuleArguments)
  | replaceRule (arguments : ReplaceRuleArguments)
  | acknowledgeEvent (arguments : EventChangeArguments)
  | resolveEvent (arguments : EventChangeArguments)
  | processCandidate (arguments : CandidateArguments)

/-- The program of a call. -/
def Call.body : Call → AlertProgram Result
  | .createRule rule => return .rule (← Alerts.createRule rule)
  | .updateRule arguments => return .rule (← Alerts.updateRule arguments)
  | .replaceRule arguments => return .replacement (← Alerts.replaceRule arguments)
  | .acknowledgeEvent arguments => return .event (← Alerts.acknowledgeEvent arguments)
  | .resolveEvent arguments => return .event (← Alerts.resolveEvent arguments)
  | .processCandidate arguments => return .candidate (← Alerts.processCandidate arguments)

/-- The alert system: any call can be made at any time. -/
def machine : Machine Store Choice Call Result Op Reply where
  exec := exec
  body := Call.body
  admits _ _ := true

end LimnoPulse.Alerts
