import LimnoPulse.Alerts.Incident

/-!
# The index of active alerts

A sparse index lists the events of a tenant that are open or acknowledged.  A backfill
adds the keys of events that older versions wrote without; it reads a page of events and
updates them one by one later, when they may have changed.

Main results:

- Definition `indexMachine`: the alert system together with backfill runs.
- Theorem `activeIndex_of_run`: after every run, an event in the index is open or
  acknowledged, and an event written by this version is in the index exactly if it is.
-/

namespace LimnoPulse.Alerts

open CivilTime StoreProgram Evaluator

variable {row : EventRow} {s t : Store} {old new : Option EventRow}

/-! ## The backfill -/

/-- An event that the index lists. -/
def Evaluator.EventStatus.listed : EventStatus → Bool
  | .opened | .acknowledged => true
  | .suppressed | .resolved => false

/-- `updateActiveAlertIndex`: set missing keys of a listed event. -/
def updateActiveAlertIndex (tenantId : String) (eventId : EventId) (openedAt : Instant) (s : Store) :
    Option Store :=
  if (s.events ⟨tenantId, eventId⟩).any fun event =>
      event.status.listed && (event.gsi3pk.isNone || event.gsi3sk.isNone) then
    some (s.modifyEvent ⟨tenantId, eventId⟩ fun event =>
      { event with gsi3pk := some (activeIndexPartition tenantId), gsi3sk := some ⟨openedAt, eventId⟩ })
  else none

/-- A page of events, and whether there are more. -/
structure EventPage where
  events : List (EventId × EventRow)
  more : Bool

/-- One request of the alert system or of a backfill. -/
inductive IndexOp where
  | alert (op : Op)
  | queryEvents (tenantId : String) (pageSize : Int)
  | updateIndex (tenantId : String) (eventId : EventId) (openedAt : Instant)

/-- What an operation is answered. -/
@[reducible]
def IndexReply : IndexOp → Type
  | .alert op => Reply op
  | .queryEvents _ _ => Option EventPage
  | .updateIndex _ _ _ => WriteReply

/-- Which events a page lists, besides. -/
structure IndexChoice where
  choice : Choice := {}
  listed : List EventId := []
  more : Bool := false

/-- One operation. -/
def indexExec : (op : IndexOp) → IndexChoice → Store → Option (IndexReply op × Store)
  | .alert op, environment, s => exec op environment.choice s
  | .queryEvents tenantId pageSize, environment, s =>
    if environment.choice.fault ≠ .none then some (none, s)
    else if environment.listed.length ≤ pageSize then
      (environment.listed.mapM fun eventId => (s.events ⟨tenantId, eventId⟩).map (eventId, ·)).map
        fun events => (some ⟨events, environment.more⟩, s)
    else none
  | .updateIndex tenantId eventId openedAt, environment, s =>
    some (attempt environment.choice.fault (updateActiveAlertIndex tenantId eventId openedAt) s)

/-- Programs over the index. -/
abbrev IndexProgram := Program IndexOp IndexReply

/-- The options of a backfill. -/
structure BackfillOptions where
  tenants : List String
  apply : Bool
  (pageSize limit : Int)

/-- What a backfill counted. -/
structure BackfillSummary where
  dryRun : Bool := false
  tenants : Nat := 0
  alertEventsQueried : Nat := 0
  alertEventsEligible : Nat := 0
  alertEventsUpdated : Nat := 0
  alertEventsSkipped : Nat := 0
deriving DecidableEq

/-- Why a backfill fails. -/
inductive BackfillError where
  | invalid (message : String)
  | query (tenantId : String)
  | update (tenantId : String) (eventId : EventId)
deriving DecidableEq

/-- The summary so far and the events that count. -/
structure BackfillProgress where
  summary : BackfillSummary
  processed : Nat := 0

/-- More follows, the limit is reached, or a failure. -/
inductive BackfillStep where
  | next (progress : BackfillProgress)
  | finished (summary : BackfillSummary)
  | failed (summary : BackfillSummary) (error : BackfillError)

/-- The limit, if there is one, is reached. -/
def BackfillOptions.limitReached (options : BackfillOptions) (progress : BackfillProgress) : Bool :=
  0 < options.limit && decide (options.limit ≤ progress.processed)

/-- Go on unless the limit is reached. -/
def BackfillOptions.proceed (options : BackfillOptions) (progress : BackfillProgress) : BackfillStep :=
  if options.limitReached progress then .finished progress.summary else .next progress

/-- One event of a page. -/
def backfillEvent (options : BackfillOptions) (progress : BackfillProgress) (eventId : EventId)
    (event : EventRow) : IndexProgram BackfillStep := do
  if event.eventId ≠ eventId then return .next progress
  let progress :=
    { progress with
      summary.alertEventsQueried := progress.summary.alertEventsQueried + 1 }
  if !event.status.listed then return .next progress
  if event.gsi3pk.isSome && event.gsi3sk.isSome then
    return .next
      { progress with
        summary.alertEventsSkipped := progress.summary.alertEventsSkipped + 1 }
  if options.limitReached progress then return .finished progress.summary
  let progress : BackfillProgress :=
    { summary :=
        { progress.summary with
          alertEventsEligible := progress.summary.alertEventsEligible + 1 }
      processed := progress.processed + 1 }
  if !options.apply then return options.proceed progress
  match ← Program.perform (IndexOp.updateIndex event.tenantId event.eventId event.openedAt) with
  | .unavailable => return .failed progress.summary (.update event.tenantId event.eventId)
  | .committed =>
    return options.proceed
      { progress with
        summary.alertEventsUpdated := progress.summary.alertEventsUpdated + 1 }
  | .conflict =>
    return options.proceed
      { progress with
        summary.alertEventsSkipped := progress.summary.alertEventsSkipped + 1 }

/-- The events of a page. -/
def backfillEvents (options : BackfillOptions) (progress : BackfillProgress) :
    List (EventId × EventRow) → IndexProgram BackfillStep
  | [] => return .next progress
  | (eventId, event) :: rest => do
    match ← backfillEvent options progress eventId event with
    | .next progress => backfillEvents options progress rest
    | step => return step

/-- The pages of a tenant; `pages` bounds their number. -/
def backfillPages (options : BackfillOptions) (tenantId : String) :
    (pages : Nat) → BackfillProgress → IndexProgram BackfillStep
  | 0, progress => return .finished progress.summary
  | pages + 1, progress => do
    if options.limitReached progress then return .finished progress.summary
    match ← Program.perform (IndexOp.queryEvents tenantId options.pageSize) with
    | none => return .failed progress.summary (.query tenantId)
    | some page =>
      match ← backfillEvents options progress page.events with
      | .next progress =>
        if page.more then backfillPages options tenantId pages progress
        else return .next progress
      | step => return step

/-- The tenants in order. -/
def backfillTenants (options : BackfillOptions) (pages : Nat) :
    List String → BackfillProgress → IndexProgram BackfillStep
  | [], progress => return .next progress
  | tenantId :: rest, progress => do
    if tenantId = "" then return .failed progress.summary (.invalid "tenant id cannot be empty")
    match ← backfillPages options tenantId pages progress with
    | .next progress => backfillTenants options pages rest progress
    | step => return step

/-- `BackfillActiveAlertIndex`. -/
def backfillActiveAlertIndex (options : BackfillOptions) (pages : Nat) : IndexProgram BackfillStep := do
  if options.tenants = [] then
    return .failed {} (.invalid "at least one explicit tenant is required")
  if options.pageSize < 1 then return .failed {} (.invalid "page size must be positive")
  if options.limit < 0 then return .failed {} (.invalid "limit cannot be negative")
  backfillTenants options pages options.tenants
    { summary := { dryRun := !options.apply, tenants := options.tenants.length } }

/-- Calls and backfills. -/
inductive IndexCall where
  | alert (call : Call)
  | backfill (options : BackfillOptions) (pages : Nat)

/-- Results of the calls. -/
inductive IndexResult where
  | alert (result : Result)
  | backfill (step : BackfillStep)

/-- The program of a call. -/
def IndexCall.body : IndexCall → IndexProgram IndexResult
  | .alert call => do return .alert (← call.body.embed IndexOp.alert fun _ reply => reply)
  | .backfill options pages => do return .backfill (← backfillActiveAlertIndex options pages)

/-- The alert system with any number of backfills. -/
def indexMachine : Machine Store IndexChoice IndexCall IndexResult IndexOp IndexReply where
  exec := indexExec
  body := IndexCall.body
  admits _ _ := true

/-! ## What happens to the keys of an event -/

/-- A row with one of the keys is listed. -/
def EventRow.IndexSound (row : EventRow) : Prop :=
  row.gsi3pk.isSome = true ∨ row.gsi3sk.isSome = true → row.status.listed = true

/-- A listed row has both keys. -/
def EventRow.IndexComplete (row : EventRow) : Prop :=
  row.status.listed = true → row.gsi3pk.isSome = true ∧ row.gsi3sk.isSome = true

/-- An event row stays, loses its keys when resolved, keeps them, or gets them while listed. -/
inductive IndexStep : Option EventRow → Option EventRow → Prop where
  | same (row : Option EventRow) : IndexStep row row
  | removed (old row : EventRow) (hstatus : row.status = .resolved)
      (hindex : row.indexKeys = (none, none)) : IndexStep (some old) (some row)
  | kept (old row : EventRow) (hlisted : row.status.listed = old.status.listed)
      (hindex : row.indexKeys = old.indexKeys) : IndexStep (some old) (some row)
  | created (row : EventRow) (hsound : row.IndexSound) (hcomplete : row.IndexComplete) :
      IndexStep none (some row)
  | filled (old row : EventRow) (hlisted : row.status.listed = true)
      (hindex : row.gsi3pk.isSome = true ∧ row.gsi3sk.isSome = true) : IndexStep (some old) (some row)

/-- Neither key is set. -/
theorem EventRow.indexKeys_none (h : row.indexKeys = (none, none)) :
    row.gsi3pk = none ∧ row.gsi3sk = none :=
  Prod.mk.inj h

/-- A step keeps the keys sound. -/
theorem IndexStep.indexSound (h : IndexStep old new)
    (hold : ∀ row, old = some row → row.IndexSound) (hrow : new = some row) :
    row.IndexSound := by
  cases h with
  | same => exact hold row hrow
  | removed previous new hstat hindex =>
    cases hrow
    obtain ⟨hpk, hsk⟩ := EventRow.indexKeys_none hindex
    simp [EventRow.IndexSound, hpk, hsk]
  | kept previous new hlisted hindex =>
    cases hrow
    obtain ⟨hpk, hsk⟩ := Prod.mk.inj hindex
    intro hkeys
    rw [hpk, hsk] at hkeys
    rw [hlisted]
    exact hold previous rfl hkeys
  | created new hsound =>
    cases hrow
    exact hsound
  | filled previous new hlisted =>
    cases hrow
    exact fun _ => hlisted

/-- A step keeps them complete. -/
theorem IndexStep.indexComplete (h : IndexStep old new)
    (hold : ∀ row, old = some row → row.IndexComplete) (hrow : new = some row) :
    row.IndexComplete := by
  cases h with
  | same => exact hold row hrow
  | removed previous new hstat =>
    cases hrow
    simp [EventRow.IndexComplete, hstat, EventStatus.listed]
  | kept previous new hlisted hindex =>
    cases hrow
    obtain ⟨hpk, hsk⟩ := Prod.mk.inj hindex
    intro hnew
    rw [hpk, hsk]
    exact hold previous rfl (hlisted ▸ hnew)
  | created new _ hcomplete =>
    cases hrow
    exact hcomplete
  | filled previous new _ hindex =>
    cases hrow
    exact fun _ => hindex

/-- Writing one event row. -/
theorem indexStep_update {changed : EventKey} {new : EventRow}
    (hnew : IndexStep (s.events changed) (some new))
    (hevents : t.events = Function.update s.events changed (some new)) (key : EventKey) :
    IndexStep (s.events key) (t.events key) := by
  by_cases hkey : key = changed
  · subst hkey
    rw [hevents, Function.update_self]
    exact hnew
  · rw [hevents, Function.update_of_ne hkey]
    exact .same _

/-- No event changes. -/
theorem indexStep_of_eq (hevents : t.events = s.events) (key : EventKey) :
    IndexStep (s.events key) (t.events key) := by
  rw [hevents]
  exact .same _

/-- The end of an incident. -/
theorem IncidentEnd.indexStep {key : RuleKey} {revision : Nat} {stateItem : Option StateRow}
    (h : IncidentEnd key revision stateItem s t) :
    ∀ key, IndexStep (s.events key) (t.events key) := by
  cases h with
  | absent _ _ _ hevents | reset _ _ _ _ _ _ _ _ _ _ hevents
  | idle _ _ _ _ _ _ _ _ hevents => exact indexStep_of_eq hevents
  | resolved _ _ _ eventId event ended _ _ _ _ _ _ _ hevent _ _ _ hended _ hevents hindex =>
    refine indexStep_update ?_ hevents
    rw [hevent]
    exact .removed event ended hended hindex

namespace CommitRequest

/-- The row that the evaluator writes for a new event. -/
theorem eventRow_index (request : CommitRequest) (eventId : EventId) (status : EventStatus)
    (value : Rat) :
    (request.eventRow eventId status value).IndexSound ∧
      (request.eventRow eventId status value).IndexComplete := by
  unfold EventRow.IndexSound EventRow.IndexComplete
  cases status <;> simp [eventRow, EventStatus.listed]

theorem indexStep {request : CommitRequest} (h : (Transaction.commit request).write s = some t) :
    ∀ key, IndexStep (s.events key) (t.events key) := by
  cases write_events h with
  | opened eventId status value _ _ _ habsent hevents =>
    obtain ⟨hsound, hcomplete⟩ := request.eventRow_index eventId status value
    refine indexStep_update ?_ hevents
    rw [habsent]
    exact .created _ hsound hcomplete
  | recovered eventId event new _ _ hevent _ _ hresolved hevents hindex =>
    refine indexStep_update ?_ hevents
    rw [hevent]
    exact .removed event new hresolved hindex
  | refreshed eventId event new _ _ _ hevent _ hstat hevents hindex =>
    refine indexStep_update ?_ hevents
    rw [hevent]
    exact .kept event new (by rw [hstat]) hindex
  | unchanged _ _ hevents => exact indexStep_of_eq hevents

end CommitRequest

theorem Transaction.indexStep {transaction : Transaction} (h : transaction.write s = some t) :
    ∀ key, IndexStep (s.events key) (t.events key) := by
  cases transaction with
  | createRule =>
    obtain ⟨-, rfl⟩ := createRule_write_rules h
    exact indexStep_of_eq rfl
  | updateRule =>
    have hinc := UpdateRule.write_incident h
    split at hinc
    · exact hinc.indexStep
    · exact indexStep_of_eq hinc.2
  | replaceRule => exact (ReplaceRule.write_incident h).indexStep
  | acknowledgeEvent =>
    obtain ⟨event, new, hevent, hopened, -, hack, -, hevents, hindex⟩ :=
      EventChange.acknowledge_write h
    refine indexStep_update ?_ hevents
    rw [hevent]
    exact .kept event new (by rw [hack, hopened]; rfl) hindex
  | resolveEvent =>
    obtain ⟨event, new, hevent, -, -, hresolved, hindex, hevents, -⟩ := EventChange.resolve_write h
    refine indexStep_update ?_ hevents
    rw [hevent]
    exact .removed event new hresolved hindex
  | commit => exact CommitRequest.indexStep h

/-- The backfill only touches events that are still listed. -/
theorem updateActiveAlertIndex_indexStep {tenantId : String} {eventId : EventId}
    {openedAt : Instant} (h : updateActiveAlertIndex tenantId eventId openedAt s = some t) :
    ∀ key, IndexStep (s.events key) (t.events key) := by
  unfold updateActiveAlertIndex at h
  split at h
  next hcond =>
    cases h
    obtain ⟨event, hevent, hlisted⟩ := (Option.any_eq_true _ _).mp hcond
    simp only [Bool.and_eq_true] at hlisted
    refine indexStep_update ?_ (by rw [Store.modifyEvent_events, hevent, Option.map_some])
    rw [hevent]
    exact .filled event _ hlisted.1 ⟨rfl, rfl⟩
  next => cases h

variable {op : IndexOp} {environment : IndexChoice}

theorem indexExec_indexStep {reply : IndexReply op}
    (h : indexExec op environment s = some (reply, t)) : ∀ key, IndexStep (s.events key)
    (t.events key) := by
  cases op with
  | alert =>
    rcases exec_cases h with ⟨rfl, -⟩ | ⟨key, lease, rfl, hclaim⟩ | ⟨transaction, rfl, -, hwrite⟩
    · exact indexStep_of_eq rfl
    · obtain ⟨row, -, -, rfl⟩ := claimLease_eq_some hclaim
      exact indexStep_of_eq rfl
    · exact Transaction.indexStep hwrite
  | queryEvents =>
    simp only [indexExec] at h
    split at h
    · cases h
      exact indexStep_of_eq rfl
    · split at h
      · obtain ⟨events, -, hpair⟩ := Option.map_eq_some_iff.mp h
        cases hpair
        exact indexStep_of_eq rfl
      · cases h
  | updateIndex =>
    simp only [indexExec, Option.some.injEq] at h
    rcases attempt_cases h with ⟨rfl, -⟩ | ⟨hupdate, -⟩
    · exact indexStep_of_eq rfl
    · exact updateActiveAlertIndex_indexStep hupdate

/-! ## Runs -/

/-- Events with a key are listed, and the given ones that are listed have both keys. -/
structure ActiveIndex (current : EventKey → Prop) (s : Store) : Prop where
  sound : ∀ key row, s.events key = some row → row.IndexSound
  complete : ∀ key row, current key → s.events key = some row → row.IndexComplete

/-- The index stays right. -/
theorem ActiveIndex.exec {current : EventKey → Prop}
    {reply : IndexReply op} (hs : ActiveIndex current s)
    (h : indexExec op environment s = some (reply, t)) : ActiveIndex current t where
  sound key _ hrow := (indexExec_indexStep h key).indexSound (hs.sound key) hrow
  complete key _ hcur hrow :=
    (indexExec_indexStep h key).indexComplete (fun row => hs.complete key row hcur) hrow

/-- From a store in which every event with a key is open or acknowledged, every interleaving of
evaluator runs, API calls and backfill runs leaves such a store.  An event that was not stored at
the start has both keys exactly if it is open or acknowledged. -/
theorem activeIndex_of_run (s : Store) (hs : ∀ key row, s.events key = some row → row.IndexSound)
    (schedule : List (Action IndexChoice IndexCall))
    (w : World Store IndexCall IndexResult IndexOp IndexReply)
    (hrun : indexMachine.run (Machine.initial s) schedule = some w) :
    (∀ key row, w.store.events key = some row →
      row.gsi3pk.isSome = true ∨ row.gsi3sk.isSome = true →
        row.status = .opened ∨ row.status = .acknowledged) ∧
    ∀ key row, s.events key = none → w.store.events key = some row →
      ((row.gsi3pk.isSome = true ∧ row.gsi3sk.isSome = true) ↔
        row.status = .opened ∨ row.status = .acknowledged) := by
  have hlisted : ∀ status : EventStatus, status.listed = true ↔ status = .opened ∨ status = .acknowledged := by
    intro status
    cases status <;> simp [EventStatus.listed]
  have hinitial : ActiveIndex (fun key => s.events key = none) s :=
    ⟨hs, fun key row hnone hrow => by rw [hnone] at hrow; cases hrow⟩
  have hindex := indexMachine.run_keeps (fun _ _ _ _ _ hs h => ActiveIndex.exec hs h) hinitial hrun
  refine ⟨fun key row hrow hkeys => (hlisted _).mp (hindex.sound key row hrow hkeys), ?_⟩
  intro key row hnone hrow
  rw [← hlisted]
  exact ⟨fun hkeys => hindex.sound key row hrow (.inl hkeys.1), hindex.complete key row hnone hrow⟩

namespace StaleBackfill

/-- The key of an event. -/
def eventKey : EventKey := ⟨"t", ⟨"t", "r", 1, 1, 0⟩⟩

/-- An open event that an older version wrote without keys. -/
def event : EventRow :=
  { eventId := eventKey.eventId, tenantId := "t", ruleId := "r", ruleVersion := 1, evaluationRevision := 1,
    ruleName := "rule", pondId := "p", deviceId := none, metric := sampleRule.metric,
    operator := sampleRule.operator, threshold := sampleRule.threshold,
    aggregation := sampleRule.aggregation, severity := sampleRule.severity, status := .opened,
    openedAt := 0, createdAt := 0, updatedAt := 0, version := 1, confirmedOpenWindowEnd := 0,
    windowStart := 0, windowEnd := 0, lastEvaluatedAt := 0, lastEvaluationQuality := .sufficient,
    lastEvaluationValue := some 31, suppressionSourceEventId := none, gsi3pk := none, gsi3sk := none }

/-- One event without keys. -/
def store : Store := Store.empty.putEvent eventKey event

/-- The event is resolved by hand between the read and the update of a backfill. -/
def schedule : List (Action IndexChoice IndexCall) :=
  [.start (.backfill ⟨["t"], true, 10, 0⟩ 1), .step 0 { listed := [eventKey.eventId] },
    .start (.alert (.resolveEvent ⟨eventKey, 1, ⟨"admin", "transition"⟩, minute⟩)), .step 1 {},
    .step 1 {}, .step 1 {}, .step 0 {}]

/-- It is in no index. -/
theorem indexSound (key : EventKey) (row : EventRow) (hrow : store.events key = some row) :
    row.IndexSound := by
  by_cases hkey : key = eventKey
  · subst hkey
    cases hrow
    simp [EventRow.IndexSound, event]
  · rw [store, Store.putEvent_events, Function.update_of_ne hkey] at hrow
    cases hrow

end StaleBackfill

/-- The backfill leaves an event alone that was resolved after its page was read. -/
theorem activeIndex_of_run_stale_backfill :
    ∃ w : World Store IndexCall IndexResult IndexOp IndexReply,
      indexMachine.run (Machine.initial StaleBackfill.store) StaleBackfill.schedule = some w ∧
        (w.store.events StaleBackfill.eventKey).map (fun row => (row.status, row.gsi3pk)) =
          some (.resolved, none) ∧
        ∀ key row, w.store.events key = some row →
          row.gsi3pk.isSome = true ∨ row.gsi3sk.isSome = true →
            row.status = .opened ∨ row.status = .acknowledged := by
  have hfinal : (indexMachine.run (Machine.initial StaleBackfill.store) StaleBackfill.schedule).map
      (fun w => (w.store.events StaleBackfill.eventKey).map fun row => (row.status, row.gsi3pk)) =
        some (some (.resolved, none)) := by
    decide +kernel
  obtain ⟨w, hrun, hrow⟩ := Option.map_eq_some_iff.mp hfinal
  exact ⟨w, hrun, hrow, (activeIndex_of_run _ StaleBackfill.indexSound _ w hrun).1⟩

end LimnoPulse.Alerts
