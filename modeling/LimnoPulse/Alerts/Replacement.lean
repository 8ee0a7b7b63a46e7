import LimnoPulse.Alerts.Incident

/-!
# Idempotent replacement of a rule

A replacement stores a receipt with its result under its idempotency key; a call that finds
the receipt returns the stored result.  It is read before the transaction and after a failed
one, with eventual consistency, and expires after 24 hours, in whole seconds.

Main results:

- Theorem `Transaction.write_receipts`: the only way in which a receipt is written.
- Theorem `replacement_idempotent`: before the expiry second of the first receipt a key
  creates at most one rule, and its successful calls return the same result.
- Theorem `replacement_twice_in_last_second`: in that second it creates a second rule.
-/

namespace LimnoPulse.Alerts

open CivilTime StoreProgram Evaluator

variable {now : Instant} {item : Option IdempotencyRow} {requestHash : String}
  {request : ReplaceRule} {s t : Store} {replay : AlertRuleReplacement} {choice : Choice}
  {read : String × String}

/-! ## The service -/

/-- A replacement as it reaches the service.  `prepared` is the outcome of checking the
target and the definition; the three clock readings are those of the service's own replay
check, of the repository and of its replay check.  They may be fractional: where whole seconds
are taken, the floor stands for the cut of the clock and the conversion to an integer. -/
structure ReplaceArguments where
  (tenantId ruleId : String)
  expectedVersion : Nat
  (idempotencyKey requestHash : String)
  prepared : Except ApiError AlertRule
  audit : Administrator
  (checkedAt now replayCheckedAt : Instant)

/-- The key of the receipt. -/
def ReplaceArguments.receiptKey (arguments : ReplaceArguments) : String × String :=
  (arguments.tenantId, arguments.idempotencyKey)

/-- `AlertRuleService.replace`. -/
def replace (arguments : ReplaceArguments) : AlertProgram (Except ApiError AlertRuleReplacement) := do
  match ← getReceipt arguments.receiptKey with
  | .unavailable => return .error .storeError
  | .row item =>
    match replayIdempotency item arguments.requestHash arguments.checkedAt with
    | .error error => return .error error
    | .ok (some replay) => return .ok replay
    | .ok none =>
      match arguments.prepared with
      | .error error => return .error error
      | .ok replacement =>
        replaceRule
          { tenantId := arguments.tenantId
            ruleId := arguments.ruleId
            expectedVersion := arguments.expectedVersion
            replacement := replacement
            idempotencyKey := arguments.idempotencyKey
            requestHash := arguments.requestHash
            audit := arguments.audit
            now := arguments.now
            replayCheckedAt := arguments.replayCheckedAt }

/-- Calls of the service. -/
inductive ServiceCall where
  | replace (arguments : ReplaceArguments)
  | other (call : Call)

/-- The call replaces a rule. -/
def Call.isReplaceRule : Call → Bool
  | .replaceRule _ => true
  | _ => false

/-- Clock readings after `start` increase; only the service calls the repository. -/
def ServiceCall.admitted (start : Instant) : ServiceCall → Bool
  | .replace arguments =>
    decide (start ≤ arguments.checkedAt) && decide (arguments.checkedAt ≤ arguments.now)
      && decide (arguments.now ≤ arguments.replayCheckedAt)
  | .other call => !call.isReplaceRule

/-- The program of a call. -/
def ServiceCall.body : ServiceCall → AlertProgram Result
  | .replace arguments => do return .replacement (← Alerts.replace arguments)
  | .other call => call.body

/-- The alert system with the service, from `start` on. -/
def replacementMachine (start : Instant) : Machine Store Choice ServiceCall Result Op Reply where
  exec := exec
  body := ServiceCall.body
  admits call _ := call.admitted start

/-! ## Receipts -/

/-- The key of its receipt. -/
def ReplaceRule.receiptKey (request : ReplaceRule) : String × String :=
  (request.tenantId, request.idempotencyKey)

/-- The receipt that a replacement stores. -/
def ReplaceRule.receipt (request : ReplaceRule) : IdempotencyRow :=
  { requestHash := request.requestHash
    replaced := request.replaced
    replacement := request.successor
    createdAt := request.now
    expiresAt := request.now + idempotencyRetention }

/-- The receipt has expired: seconds are compared. -/
def IdempotencyRow.Expired (row : IdempotencyRow) (now : Instant) : Prop :=
  row.expiresAt / second ≤ now / second

/-- What is expired stays so. -/
theorem IdempotencyRow.Expired.mono {row : IdempotencyRow} {time : Instant} (h : row.Expired time)
    (hle : time ≤ now) : row.Expired now :=
  Int.le_trans h (Int.ediv_le_ediv (by decide) hle)

/-- A replayed receipt is current and of the request. -/
theorem replayIdempotency_eq_some (h : replayIdempotency item requestHash now = .ok (some replay)) :
    ∃ row, item = some row ∧ ¬ row.Expired now ∧ row.requestHash = requestHash ∧
      replay = ⟨row.replaced, row.replacement⟩ := by
  cases item with
  | none => cases h
  | some row =>
    simp only [replayIdempotency] at h
    split at h
    next => cases h
    next hlive =>
      split at h
      next => cases h
      next hhash =>
        cases h
        exact ⟨row, rfl, hlive, not_not.mp hhash, rfl⟩

/-- Other items keep receipts. -/
theorem ItemEffect.receipts_eq {tables : List Written} {writeItem : WriteItem Store}
    (h : ItemEffect tables writeItem) (hnot : .receipts ∉ tables) (u : Store) :
    (writeItem.effect u).receipts = u.receipts := by
  cases h with
  | putReceipt h => exact absurd h hnot
  | modifyRule => exact (u.modifyRule_same _ _).2.2.1
  | modifyEvent => exact (u.modifyEvent_same _ _).2.2.1
  | _ => rfl

/-- A receipt replaces none or an expired one. -/
theorem ReplaceRule.write_receipts (h : (Transaction.replaceRule request).write s = some t) :
    (∀ row, (s.receipts request.receiptKey).current = some row → row.Expired request.now) ∧
      t.receipts = (s.putReceipt request.receiptKey request.receipt).receipts := by
  obtain ⟨items, hitems, hconds, rfl⟩ := Transaction.write_eq_some h
  cases hitems
  refine ⟨fun row hrow => ?_, ?_⟩
  · have hcond := hconds request.idempotencyPut (by simp [ReplaceRule.items])
    change ((s.receipts request.receiptKey).current).all _ = true at hcond
    rw [hrow] at hcond
    simpa [IdempotencyRow.Expired] using hcond
  · rw [ReplaceRule.items, List.cons_append, List.foldl_cons, List.foldl_append]
    have hframe := foldl_effect_frame Store.receipts
      (administrativeResolutionOperations request.existing request.stateItem request.audit
        request.now "rule_replaced")
      ((conditionedRuleUpdate request.key request.expectedVersion request.change).effect s)
      fun item hitem => (administrativeResolutionOperations_effects item hitem).receipts_eq (by decide)
    have hrule : ((conditionedRuleUpdate request.key request.expectedVersion request.change).effect s).receipts =
        s.receipts := (Store.modifyRule_same _ _ _).2.2.1
    simp only [List.foldl_cons, List.foldl_nil, conditionedRulePut, idempotencyPut, Store.putReceipt,
      Store.putRule, hframe, hrule, receiptKey, receipt]

/-- The only way in which a receipt is written. -/
theorem Transaction.write_receipts {transaction : Transaction} (h : transaction.write s = some t)
    (key : String × String) :
    (t.receipts key = s.receipts key ∧
      ∀ request, transaction = .replaceRule request → request.receiptKey ≠ key) ∨
    ∃ request, transaction = .replaceRule request ∧ request.receiptKey = key ∧
      (∀ row, (s.receipts key).current = some row → row.Expired request.now) ∧
      t.receipts key = request.receipt :: s.receipts key := by
  by_cases hreplace : ∃ request, transaction = .replaceRule request
  · obtain ⟨request, rfl⟩ := hreplace
    obtain ⟨hexpired, hreceipts⟩ := ReplaceRule.write_receipts h
    by_cases hkey : request.receiptKey = key
    · subst hkey
      exact .inr ⟨request, rfl, rfl, hexpired, by rw [hreceipts]; exact Function.update_self _ _ _⟩
    · refine .inl ⟨?_, by rintro _ ⟨⟩; exact hkey⟩
      rw [hreceipts]
      exact Function.update_of_ne (Ne.symm hkey) _ _
  · refine .inl ⟨?_, fun request heq => absurd ⟨request, heq⟩ hreplace⟩
    obtain ⟨items, hitems, -, rfl⟩ := Transaction.write_eq_some h
    have hnot : .receipts ∉ transaction.tables := by
      cases transaction with
      | replaceRule request => exact absurd ⟨request, rfl⟩ hreplace
      | _ => simp
    exact congrFun (foldl_effect_frame Store.receipts items s fun item hitem =>
      (Transaction.items_effects hitems item hitem).receipts_eq hnot) key

/-! ## One receipt -/

section OneReceipt

variable {key : String × String} {start : Instant} {old : Versions IdempotencyRow}

/-- A replacement precedes the expiry of a receipt stored after `start`. -/
def Op.withinRetention (key : String × String) (start : Instant) (s : Store) : Op → Bool
  | .transact (.replaceRule request) =>
    request.receiptKey ≠ key || ((s.receipts key).current).all fun row =>
      decide (row.expiresAt / second ≤ start / second) ||
        decide (request.now / second < row.expiresAt / second)
  | _ => true

/-- Replacements precede the expiry. -/
def WithinRetention (key : String × String) (start : Instant) (op : Op) (_ : Choice) (s : Store) : Prop :=
  op.withinRetention key start s = true

/-- This can be checked. -/
instance WithinRetention.decidable (key : String × String) (start : Instant) (op : Op) (choice : Choice)
    (s : Store) : Decidable (WithinRetention key start op choice s) :=
  inferInstanceAs (Decidable (op.withinRetention key start s = true))

/-- At most one receipt was stored after `start`. -/
def OneReceipt (key : String × String) (start : Instant) (old : Versions IdempotencyRow) (s : Store) : Prop :=
  s.receipts key = old ∨ ∃ row, s.receipts key = row :: old ∧ ¬ row.Expired start

/-- Receipts are only added. -/
def ReceiptsGrow (key : String × String) (s t : Store) : Prop := s.receipts key <:+ t.receipts key

/-- The replacements of the key are made after `start`. -/
def SentAfter (key : String × String) (start : Instant) (op : Op) (_ : Store) : Prop :=
  ∀ request, op = .transact (.replaceRule request) → request.receiptKey = key → start ≤ request.now

/-- A new receipt is not expired. -/
theorem ReplaceRule.receipt_not_expired (h : start ≤ request.now) :
    ¬ request.receipt.Expired start := by
  have hmono : start / second ≤ request.now / second := Int.ediv_le_ediv (by decide) h
  have hshift : (request.now + idempotencyRetention) / second = request.now / second + 86400 :=
    Int.add_mul_ediv_right _ _ (by decide)
  intro hexpired
  change (request.now + idempotencyRetention) / second ≤ start / second at hexpired
  rw [hshift] at hexpired
  exact absurd (Int.le_trans hexpired hmono) (Int.not_le.mpr (Int.lt_add_of_pos_right _ (by decide)))

/-- There is one receipt. -/
theorem oneReceipt_kept :
    Kept exec (WithinRetention key start) (SentAfter key start) (OneReceipt key start old)
      (ReceiptsGrow key) (ReceiptsGrow key) where
  trans _ _ _ := List.IsSuffix.trans
  rely_of_guarantee _ _ h := h
  step op choice s reply t hs hsent hwithin hexec := by
    have hsame : t.receipts key = s.receipts key →
        OneReceipt key start old t ∧ ReceiptsGrow key s t := by
      intro heq
      have hgrow : s.receipts key <:+ t.receipts key := heq ▸ List.suffix_refl _
      refine ⟨?_, hgrow⟩
      rw [OneReceipt, heq]
      exact hs
    rcases exec_cases hexec with ⟨rfl, -⟩ | ⟨claimed, lease, rfl, hclaim⟩ | ⟨transaction, rfl, -, hwrite⟩
    · exact hsame rfl
    · obtain ⟨row, -, -, rfl⟩ := claimLease_eq_some hclaim
      exact hsame rfl
    · rcases Transaction.write_receipts hwrite key with ⟨heq, -⟩ | ⟨request, rfl, hkey, hexpired, hput⟩
      · exact hsame heq
      · refine ⟨.inr ⟨request.receipt, ?_, ReplaceRule.receipt_not_expired (hsent request rfl hkey)⟩, ?_⟩
        · rcases hs with heq | ⟨row, heq, hlive⟩
          · rw [hput, heq]
          · -- A receipt stored after the start is not overwritten.
            have hcur : (s.receipts key).current = some row := by rw [heq]; rfl
            have hlater : request.now / second < row.expiresAt / second := by
              have hor : row.Expired start ∨ request.now / second < row.expiresAt / second := by
                simpa [WithinRetention, Op.withinRetention, IdempotencyRow.Expired, hkey, hcur] using hwithin
              exact hor.resolve_left hlive
            exact absurd (hexpired row hcur) (Int.not_le.mpr hlater)
        · rw [ReceiptsGrow, hput]
          exact List.suffix_cons _ _

/-- The receipt of the key holds the result. -/
def Returned (key : String × String) (old : Versions IdempotencyRow) (requestHash : String)
    (replacement : AlertRuleReplacement) (s : Store) : Prop :=
  ∃ row, s.receipts key = row :: old ∧ row.requestHash = requestHash ∧
    replacement = ⟨row.replaced, row.replacement⟩

/-- A result stays returned. -/
theorem Returned.stable {replacement : AlertRuleReplacement}
    (h : Returned key old requestHash replacement s) (hgrow : ReceiptsGrow key s t)
    (ht : OneReceipt key start old t) : Returned key old requestHash replacement t := by
  obtain ⟨row, hreceipts, hrest⟩ := h
  rw [ReceiptsGrow, hreceipts] at hgrow
  refine ⟨row, ?_, hrest⟩
  rcases ht with heq | ⟨other, heq, -⟩
  · rw [heq] at hgrow
    exact absurd hgrow.length_le (by simp)
  · rw [heq] at hgrow ⊢
    exact (hgrow.eq_of_length (by simp)).symm

/-- What is replayed after `start` was stored after it. -/
theorem returned_of_replay (hold : ∀ row ∈ old, row.Expired start) (hs : OneReceipt key start old s)
    (hitem : ∀ row, item = some row → row ∈ s.receipts key) (hnow : start ≤ now)
    (h : replayIdempotency item requestHash now = .ok
    (some replay)) :
    Returned key old requestHash replay s := by
  obtain ⟨row, hrow, hlive, hhash, hreplay⟩ := replayIdempotency_eq_some h
  have hnot : row ∉ old := fun hmem => hlive ((hold row hmem).mono hnow)
  have hmem := hitem row hrow
  rcases hs with heq | ⟨new, heq, -⟩
  · rw [heq] at hmem
    exact absurd hmem hnot
  · rw [heq] at hmem
    rcases List.mem_cons.mp hmem with rfl | hmem
    · exact ⟨row, heq, hhash, hreplay⟩
    · exact absurd hmem hnot

/-- A commit returns the result in its receipt. -/
theorem returned_of_committed
    (h : exec (.transact (.replaceRule request)) choice s = some (.committed, t))
    (hkey : request.receiptKey = key) (hs : OneReceipt key start old s)
    (ht : OneReceipt key start old t) :
    Returned key old request.requestHash ⟨request.replaced, request.successor⟩ t := by
  simp only [exec, Option.some.injEq] at h
  rcases attempt_cases h with ⟨-, hreply, -⟩ | ⟨hwrite, -⟩
  · exact absurd rfl hreply
  rcases Transaction.write_receipts hwrite key with ⟨-, hother⟩ | ⟨request', heq, -, -, hput⟩
  · exact absurd hkey (hother request rfl)
  cases heq
  -- The receipt was put on the old ones: two receipts after the start are one too many.
  rcases hs with hbefore | ⟨row, hbefore, -⟩
  · rw [hbefore] at hput
    exact ⟨request.receipt, hput, rfl, rfl⟩
  · rw [hbefore] at hput
    rcases ht with hafter | ⟨new, hafter, -⟩
    all_goals
      have hlen := congrArg List.length (hput.symm.trans hafter)
      simp only [List.length_cons] at hlen
      omega

/-! ### Programs -/

/-- Safety of a program that returns the receipt's result. -/
abbrev SafeReplacement (key : String × String) (start : Instant) (old : Versions IdempotencyRow)
    (requestHash : String) (mine : Prop)
    (p : AlertProgram (Except ApiError AlertRuleReplacement)) (s : Store) : Prop :=
  SafeOk exec (WithinRetention key start) (OneReceipt key start old) (ReceiptsGrow key)
    (ReceiptsGrow key) (fun replacement t => mine → Returned key old requestHash replacement t) p s

/-- A receipt that was read. -/
theorem mem_of_getReceipt (h : exec (.getReceipt read) choice s = some (.row item, t)) :
    ∀ row, item = some row → row ∈ t.receipts read := by
  obtain ⟨hreply, rfl⟩ := Prod.mk.inj (Option.some.inj h)
  rintro row rfl
  exact Versions.mem_of_stale (answer_eq_row hreply)

/-- Reads may be sent. -/
theorem sentAfter_read {op : Op} (hop : ∀ transaction, op ≠ .transact transaction) (s : Store) :
    SentAfter key start op s :=
  fun request heq => absurd heq (hop (.replaceRule request))

section

variable (hold : ∀ row ∈ old, row.Expired start)
include hold

/-- Read the receipt, replay it or go on. -/
theorem replay_returns (hnow : start ≤ now)
    {next : AlertProgram (Except ApiError AlertRuleReplacement)}
    (hnext : ∀ t, SafeReplacement key start old requestHash (read = key) next t) (s : Store) :
    SafeReplacement key start old requestHash (read = key)
      (do
        match ← getReceipt read with
        | .unavailable => return .error .storeError
        | .row item =>
          match replayIdempotency item requestHash now with
          | .error error => return .error error
          | .ok (some replay) => return .ok replay
          | .ok none => next) s := by
  simp only [getReceipt, Program.perform_bind]
  refine oneReceipt_kept.safe_call (fun t _ _ => sentAfter_read (by simp) t) ?_
  intro _ choice reply t _ _ hread ht _
  cases reply with
  | unavailable => exact SafeOk.error _ _
  | row item =>
    have hitem := mem_of_getReceipt hread
    dsimp only
    split
    next => exact SafeOk.error _ _
    next replay hreplay =>
      refine SafeOk.ok fun hkey => ?_
      rw [hkey] at hitem
      exact returned_of_replay hold ht hitem hnow hreplay
    next => exact hnext t

/-- A replay returns the receipt. -/
theorem replayAfterFailure_returns (arguments : ReplaceRuleArguments) (failure : ApiError)
    (hnow : start ≤ arguments.now) (s : Store) :
    SafeReplacement key start old arguments.requestHash
      ((arguments.tenantId, arguments.idempotencyKey) = key) (replayAfterFailure arguments failure) s :=
  replay_returns hold hnow (fun _ => SafeOk.error _ _) s

theorem replaceRule_returns (arguments : ReplaceRuleArguments)
    (hnow : start ≤ arguments.now) (hreplay : start ≤ arguments.replayCheckedAt) (s : Store) :
    SafeReplacement key start old arguments.requestHash
      ((arguments.tenantId, arguments.idempotencyKey) = key) (replaceRule arguments) s := by
  have hkept : Kept exec (WithinRetention key start) (SentAfter key start) (OneReceipt key start old)
      (ReceiptsGrow key) (ReceiptsGrow key) := oneReceipt_kept
  unfold replaceRule
  refine replay_returns hold hreplay (fun t => ?_) s
  simp only [getRule, getState, transact, Program.perform_bind]
  refine hkept.safe_call (fun t _ _ => sentAfter_read (by simp) t) ?_
  intro _ choice reply _ _ _ _ _ _
  rcases reply with (_ | existing) | _
  · exact SafeOk.error _ _
  · refine hkept.safe_call (fun t _ _ => sentAfter_read (by simp) t) ?_
    intro _ choice reply _ _ _ _ _ _
    cases reply with
    | unavailable => exact replayAfterFailure_returns hold arguments _ hnow _
    | row stateItem =>
      refine hkept.safe_call (fun t _ _ => ?_) ?_
      · rintro request ⟨⟩ -
        exact hnow
      · intro u choice reply v _ hu hexec hv _
        cases reply with
        | conflict
        | unavailable => exact replayAfterFailure_returns hold arguments _ hnow _
        | committed => exact SafeOk.ok fun hkey => returned_of_committed hexec hkey hu hv
  · exact SafeOk.error _ _

theorem replace_returns (arguments : ReplaceArguments)
    (hadm : (ServiceCall.replace arguments).admitted start = true) (s : Store) :
    SafeReplacement key start old arguments.requestHash (arguments.receiptKey = key)
      (replace arguments) s := by
  simp only [ServiceCall.admitted, Bool.and_eq_true, decide_eq_true_eq] at hadm
  obtain ⟨⟨hchecked, hnow⟩, hreplayed⟩ := hadm
  have hnow := Int.le_trans hchecked hnow
  unfold replace
  refine replay_returns hold hchecked (fun t => ?_) s
  split
  next => exact SafeOk.error _ _
  next replacement _ => exact replaceRule_returns hold _ hnow (Int.le_trans hnow hreplayed) t

end

/-- The operation is not a replacement. -/
def Op.NoReplacement (op : Op) : Prop := ∀ request, op ≠ .transact (.replaceRule request)

/-- An update replaces nothing. -/
theorem updateRule_performs (arguments : UpdateRuleArguments) :
    (updateRule arguments).Performs Op.NoReplacement := by
  simp only [updateRule, getRule, getState, transact, Program.perform_bind]
  refine ⟨by simp [Op.NoReplacement], fun reply => ?_⟩
  rcases reply with (_ | existing) | _
  · exact True.intro
  · dsimp only
    split
    · refine ⟨by simp [Op.NoReplacement], fun reply => ?_⟩
      cases reply with
      | unavailable => exact True.intro
      | row => exact ⟨by simp [Op.NoReplacement], fun _ => True.intro⟩
    · exact ⟨by simp [Op.NoReplacement], fun _ => True.intro⟩
  · exact True.intro

theorem acknowledgeEvent_performs (arguments : EventChangeArguments) :
    (acknowledgeEvent arguments).Performs Op.NoReplacement := by
  simp only [acknowledgeEvent, getEvent, transact, Program.perform_bind]
  refine ⟨by simp [Op.NoReplacement], fun reply => ?_⟩
  rcases reply with (_ | existing) | _
  · exact True.intro
  · dsimp only
    split
    · exact True.intro
    · exact ⟨by simp [Op.NoReplacement], fun _ => True.intro⟩
  · exact True.intro

theorem resolveEvent_performs (arguments : EventChangeArguments) :
    (resolveEvent arguments).Performs Op.NoReplacement := by
  simp only [resolveEvent, getEvent, getState, transact, Program.perform_bind]
  refine ⟨by simp [Op.NoReplacement], fun reply => ?_⟩
  rcases reply with (_ | existing) | _
  · exact True.intro
  · dsimp only
    split
    · exact True.intro
    · refine ⟨by simp [Op.NoReplacement], fun reply => ?_⟩
      cases reply with
      | unavailable => exact True.intro
      | row => exact ⟨by simp [Op.NoReplacement], fun _ => True.intro⟩
  · exact True.intro

theorem processCandidate_performs (arguments : CandidateArguments) :
    (processCandidate arguments).Performs Op.NoReplacement := by
  simp only [processCandidate, claim, getState, transact, Program.perform_bind]
  refine ⟨by simp [Op.NoReplacement], fun reply => ?_⟩
  cases reply with
  | conflict | unavailable => exact True.intro
  | claimed row =>
    dsimp only
    split
    · exact True.intro
    · refine ⟨by simp [Op.NoReplacement], fun reply => ?_⟩
      cases reply with
      | unavailable => exact True.intro
      | row item =>
        dsimp only
        split
        · exact True.intro
        · refine ⟨by simp [Op.NoReplacement], fun reply => ?_⟩
          cases reply <;> exact True.intro

/-- The calls other than a replacement send none. -/
theorem Call.performs {call : Call} (h : call.isReplaceRule = false) :
    call.body.Performs Op.NoReplacement := by
  cases call with
  | createRule => exact ⟨by simp [Op.NoReplacement], fun _ => True.intro⟩
  | updateRule arguments => exact Program.Performs.map _ (updateRule_performs arguments)
  | replaceRule => cases h
  | acknowledgeEvent arguments => exact Program.Performs.map _ (acknowledgeEvent_performs arguments)
  | resolveEvent arguments => exact Program.Performs.map _ (resolveEvent_performs arguments)
  | processCandidate arguments => exact Program.Performs.map _ (processCandidate_performs arguments)

/-- Successful replacements return the receipt's result. -/
def ReturnsReceipt (key : String × String) (old : Versions IdempotencyRow) (call : ServiceCall)
    (result : Result) (s : Store) : Prop :=
  ∀ arguments replacement, call = .replace arguments → arguments.receiptKey = key →
    result = .replacement (.ok replacement) → Returned key old arguments.requestHash replacement s

/-- The contract of the calls. -/
theorem replacement_contract (hold : ∀ row ∈ old, row.Expired start) :
    Contract (replacementMachine start) (WithinRetention key start) (OneReceipt key start old)
      (ReceiptsGrow key) (ReceiptsGrow key) (ReturnsReceipt key old) where
  rely_refl _ := List.suffix_refl _
  rely_trans _ _ _ := List.IsSuffix.trans
  guarantee_refl _ := List.suffix_refl _
  guarantee_rely h := h
  post_stable call result s t hpost hgrow ht arguments replacement hcall hkey hres :=
    (hpost arguments replacement hcall hkey hres).stable hgrow ht
  body_safe {call s} _ hadmits := by
    have hadmits : call.admitted start = true := hadmits
    cases call with
    | replace arguments =>
      refine Program.Safe.bind (replace_returns hold arguments hadmits s) ?_
      rintro result t hres arguments' replacement ⟨⟩ hkey heq
      cases heq
      exact hres replacement rfl hkey
    | other call =>
      have hperf := Call.performs (by simpa [ServiceCall.admitted] using hadmits)
      have hjust : call.body.Performs fun op => ∀ u, SentAfter key start op u :=
        hperf.mono fun op hop u request heq => absurd heq (hop request)
      have hrefl : ReceiptsGrow key s s := List.suffix_refl _
      refine (oneReceipt_kept.safe_of_returns hjust (Program.Returns.trivial _) hrefl).mono ?_
      rintro result t - arguments replacement ⟨⟩

end OneReceipt

/-- How many rules an operation creates. -/
def createsReplacement (key : String × String) : Op → Choice → Store → Nat
  | .transact (.replaceRule request), choice, s =>
    if request.receiptKey = key ∧ choice.fault ≠ .requestLost ∧
        ((Transaction.replaceRule request).write s).isSome = true then 1
    else 0
  | _, _, _ => 0

/-- A new rule has a receipt. -/
theorem exec_createsReplacement (key : String × String) (op : Op) (choice : Choice) (s : Store)
    (reply : Reply op) (t : Store) (h : exec op choice s = some (reply, t)) :
    (t.receipts key).length = (s.receipts key).length + createsReplacement key op choice s := by
  rcases exec_cases h with ⟨rfl, hnone⟩ | ⟨claimed, lease, rfl, hclaim⟩ | ⟨transaction, rfl, hfault, hwrite⟩
  · have hzero : createsReplacement key op choice t = 0 := by
      unfold createsReplacement
      split
      next request choice =>
        rcases hnone _ rfl with hlost | hrefused
        · simp [hlost]
        · simp [hrefused]
      next => rfl
    omega
  · obtain ⟨row, -, -, rfl⟩ := claimLease_eq_some hclaim
    rfl
  · rcases Transaction.write_receipts hwrite key with ⟨heq, hother⟩ | ⟨request, rfl, hkey, -, hput⟩
    · have hzero : createsReplacement key (.transact transaction) choice s = 0 := by
        unfold createsReplacement
        split
        next =>
          rename_i htransaction
          cases htransaction
          simp [hother _ rfl]
        next => rfl
      rw [heq, hzero]
      rfl
    · simp [createsReplacement, hput, hkey, hfault, hwrite]

/-- Nothing is both replayed and overwritten at one time. -/
theorem replay_of_overwritable {row : IdempotencyRow}
    (hrow : (s.receipts request.receiptKey).current = some row)
    (h : request.idempotencyPut.condition s = true) (requestHash : String) :
    replayIdempotency (some row) requestHash request.now = .ok none := by
  change ((s.receipts request.receiptKey).current).all _ = true at h
  rw [hrow] at h
  simp only [replayIdempotency]
  rw [if_pos (by simpa using h)]

/-- In every run from a store whose receipts of the key have expired, in which the whole second of
every replacement precedes the expiry second of the receipt it finds: at most one replacement rule
is created, the successful calls all return the result in the one receipt and have its hash, and no
receipt is ever both replayable and overwritable. -/
theorem replacement_idempotent (key : String × String) (start : Instant) (s : Store)
    (hold : ∀ row ∈ s.receipts key, row.expiresAt / second ≤ start / second)
    (schedule : List (Action Choice ServiceCall)) (w : World Store ServiceCall Result Op Reply)
    (hwithin : (replacementMachine start).Guarded (WithinRetention key start) (Machine.initial s) schedule)
    (hrun : (replacementMachine start).run (Machine.initial s) schedule = some w) :
    (replacementMachine start).total (createsReplacement key) (Machine.initial s) schedule ≤ 1 ∧
    (∀ arguments replacement,
      (ServiceCall.replace arguments, Program.done (.replacement (.ok replacement))) ∈ w.processes →
      arguments.receiptKey = key → ∃ row, w.store.receipts key = row :: s.receipts key ∧
        replacement = ⟨row.replaced, row.replacement⟩ ∧ arguments.requestHash = row.requestHash) ∧
    ∀ (request : ReplaceRule) (row : IdempotencyRow) (requestHash : String) (replay : AlertRuleReplacement),
      (w.store.receipts request.receiptKey).current = some row →
      replayIdempotency (some row) requestHash request.now = .ok (some replay) →
        request.idempotencyPut.condition w.store = false := by
  have hinitial : OneReceipt key start (s.receipts key) s := .inl rfl
  obtain ⟨hone, hsafe, -⟩ := (replacement_contract hold).run_initial hinitial hwithin hrun
  refine ⟨?_, ?_, ?_⟩
  · have hgrowth := (replacementMachine start).measure_of_run (exec_createsReplacement key) schedule _ w hrun
    rcases hone with heq | ⟨row, heq, -⟩
    · rw [heq] at hgrowth
      change _ = (s.receipts key).length + _ at hgrowth
      omega
    · rw [heq, List.length_cons] at hgrowth
      change _ = (s.receipts key).length + _ at hgrowth
      omega
  · intro arguments replacement hmem hkey
    obtain ⟨row, hreceipts, hhash, hreplacement⟩ := hsafe _ hmem arguments replacement rfl hkey rfl
    exact ⟨row, hreceipts, hreplacement, hhash.symm⟩
  · intro request row requestHash replay hrow hreplay
    cases hcondition : request.idempotencyPut.condition w.store with
    | false => rfl
    | true =>
      rw [replay_of_overwritable hrow hcondition] at hreplay
      cases hreplay

/-! ### The last second

The first receipt is stored half a second after the epoch.  It expires in the second 86400, which
begins half a second before the 24 hours are over. -/

namespace LastSecond

/-- An active rule. -/
def row (ruleId : String) : RuleRow := ruleToItem { sampleRule with ruleId := ruleId }

/-- Two rules. -/
def store : Store := (Store.empty.putRule (row "first")).putRule (row "second")

/-- One idempotency key. -/
def key : String × String := ("t", "idempotency-key")

/-- A replacement of one of the rules at a time. -/
def replacement (ruleId replacementId hash : String) (now : Instant) : ReplaceArguments :=
  { tenantId := "t"
    ruleId := ruleId
    expectedVersion := 1
    idempotencyKey := "idempotency-key"
    requestHash := hash
    prepared := .ok { sampleRule with ruleId := replacementId }
    audit := ⟨"admin", "transition"⟩
    checkedAt := now
    now := now
    replayCheckedAt := now }

/-- A replacement. -/
def first : ReplaceArguments := replacement "first" "third" "hash of the first" (second / 2)

/-- Another one, almost a day later. -/
def other : ReplaceArguments := replacement "second" "fourth" "hash of the other" (86400 * second + second / 5)

/-- A call alone takes five operations. -/
def performed (process : Nat) (arguments : ReplaceArguments) : List (Action Choice ServiceCall) :=
  .start (.replace arguments) :: List.replicate 5 (.step process {})

/-- What a process returned. -/
def result (w : World Store ServiceCall Result Op Reply) (process : Nat) : Option AlertRuleReplacement :=
  match w.processes[process]? with
  | some (_, .done (.replacement (.ok replacement))) => some replacement
  | _ => none

end LastSecond

open LastSecond

/-- Another request with the key, less than 24 hours after the first commit, succeeds with another
hash and creates a second replacement rule. -/
theorem replacement_twice_in_last_second :
    (other.now < first.now + idempotencyRetention ∧ first.requestHash ≠ other.requestHash) ∧
    (replacementMachine 0).total (createsReplacement key) (Machine.initial store)
        (performed 0 first ++ performed 1 other) = 2 ∧
    ((replacementMachine 0).run (Machine.initial store)
        (performed 0 first ++ performed 1 other)).map
      (fun w => ((result w 0).map (·.replacement.ruleId),
        (result w 1).map (·.replacement.ruleId))) = some (some "third", some "fourth") := by
  decide +kernel

/-- One replacement and its retry. -/
theorem replacement_idempotent_of_retry :
    ∃ w, (replacementMachine 0).run (Machine.initial store)
        (performed 0 first ++ [.start (.replace first), .step 1 {}]) = some w ∧
      (replacementMachine 0).total (createsReplacement key) (Machine.initial store)
        (performed 0 first ++ [.start (.replace first), .step 1 {}]) ≤ 1 ∧
      result w 0 = result w 1 ∧ (result w 0).isSome = true := by
  have hfinal : ((replacementMachine 0).run (Machine.initial store)
      (performed 0 first ++ [.start (.replace first), .step 1 {}])).map
        (fun w => decide (result w 0 = result w 1) && (result w 0).isSome) = some true := by
    decide +kernel
  obtain ⟨w, hrun, hresult⟩ := Option.map_eq_some_iff.mp hfinal
  simp only [Bool.and_eq_true, decide_eq_true_eq] at hresult
  have hold : ∀ row ∈ store.receipts key, row.expiresAt / second ≤ (0 : Instant) / second := by
    rintro row ⟨⟩
  exact ⟨w, hrun, (replacement_idempotent key 0 store hold _ w (by decide +kernel) hrun).1, hresult⟩

end LimnoPulse.Alerts
