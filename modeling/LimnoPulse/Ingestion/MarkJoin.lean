import LimnoPulse.Deployments.Integrity
import LimnoPulse.Ingestion.Conservation
import Mathlib.Data.Finset.Max
import Mathlib.Data.Finset.Union
import Mathlib.Data.Prod.Lex
import Mathlib.Data.String.Basic

/-!
# Ingest marks as a join

Marks arrive in any order, more than once, and interleaved update by update.  In the
end the rows hold the greatest value supplied for each attribute, and the
lexicographically greatest pair where a time is kept with its sequence or reason.
The identity attributes are those of the first writer.

Main results:

- Theorem `Settled.marks_eq_top`: a register that holds a supplied value and
  has reached all of them holds the greatest.
- Theorem `ingestMarks_join`: the rows after every run of the calls.
-/

namespace LimnoPulse.Ingestion

open StoreProgram

variable {α : Type} {request : Advance} {table : MarkTable} {m : IngestMarks}

/-! ## The greatest supplied values -/

/-- The greatest of some values. -/
def top {α : Type} [LinearOrder α] (values : Finset α) : Option α :=
  if h : values.Nonempty then some (values.max' h) else none

/-- All values that some of the marks supply. -/
def supplied {α : Type} [DecidableEq α] (marks : Finset IngestMarks)
    (values : IngestMarks → List α) : Finset α :=
  marks.biUnion fun m => (values m).toFinset

/-- A supplied value comes from a mark. -/
theorem mem_supplied [DecidableEq α] {marks : Finset IngestMarks}
    {values : IngestMarks → List α} {value : α} :
    value ∈ supplied marks values ↔ ∃ m ∈ marks, value ∈ values m := by
  simp [supplied]

namespace IngestMarks

variable (m : IngestMarks)

/-- The marks of a component. -/
def ofComponent (componentId : String) : List ComponentMark :=
  m.componentMarks.filter (·.componentId = componentId)

/-- The marks of a device. -/
def ofDevice (deviceId : String) : List DeviceMark :=
  if m.deviceId = some deviceId then m.deviceMark.toList else []

/-- The marks of a connector. -/
def ofConnector (integrationAccountId : String) : List ConnectorMark :=
  if m.integrationAccountId = integrationAccountId then [m.connectorMark] else []

end IngestMarks

section Join

variable (marks : Finset IngestMarks)

/-- The join of a component's marks. -/
def joinComponent (componentId : String) : ComponentIngestState :=
  let observed := top (supplied marks fun m =>
    (m.ofComponent componentId).filterMap fun mark => mark.observed.map toLex)
  { lastReceivedAt := top (supplied marks fun m =>
      (m.ofComponent componentId).filterMap (·.receivedAt))
    lastIngestedAt := top (supplied marks fun m =>
      (m.ofComponent componentId).filterMap (·.ingestedAt))
    lastObservedAt := observed.map fun pair => (ofLex pair).1
    lastObservedSequence := observed.map fun pair => (ofLex pair).2 }

/-- The join of a device's marks. -/
def joinDevice (deviceId : String) : DeviceIngestState where
  lastReceivedAt := top (supplied marks fun m => (m.ofDevice deviceId).map (·.receivedAt))
  lastIngestedAt := top (supplied marks fun m => (m.ofDevice deviceId).map (·.ingestedAt))

/-- The join of a connector's marks. -/
def joinConnector (integrationAccountId : String) : ConnectorHealth :=
  let quarantined := top (supplied marks fun m =>
    (m.ofConnector integrationAccountId).filterMap fun mark => mark.quarantined.map toLex)
  let fenced := top (supplied marks fun m =>
    (m.ofConnector integrationAccountId).filterMap fun mark => mark.fenced.map toLex)
  { lastReceivedAt := top (supplied marks fun m =>
      (m.ofConnector integrationAccountId).filterMap (·.receivedAt))
    lastAcceptedAt := top (supplied marks fun m =>
      (m.ofConnector integrationAccountId).filterMap (·.acceptedAt))
    lastQuarantinedAt := quarantined.map fun pair => (ofLex pair).1
    lastQuarantineReason := quarantined.map fun pair => (ofLex pair).2
    lastFencedAt := fenced.map fun pair => (ofLex pair).1
    lastFenceReason := fenced.map fun pair => (ofLex pair).2 }

end Join

/-! ## Updates and values -/

/-- The update of a value that is there. -/
theorem mem_advanceTo {row : MarkRow} {identity : RowIdentity} {name : MarkName}
    {value : Option Mark} :
    request ∈ advanceTo row identity name value ↔
      ∃ mark, value = some mark ∧ request = ⟨row, identity, name, mark⟩ := by
  simp [advanceTo, eq_comm]

/-- Some update carries this mark to an attribute. -/
def Carries (marks : Finset IngestMarks) (row : MarkRow) (name : MarkName) (mark : Mark) : Prop :=
  ∃ m ∈ marks, ∃ identity, ⟨row, identity, name, mark⟩ ∈ m.advances

/-- The updates of a call carry just these values. -/
def Supplies (row : MarkRow) (name : MarkName) (values : IngestMarks → List α) (toMark : α → Mark) :
    Prop :=
  ∀ m : IngestMarks, ∀ mark, (∃ identity, ⟨row, identity, name, mark⟩ ∈ m.advances) ↔
    ∃ value ∈ values m, toMark value = mark

namespace IngestMarks

/-- The updates of a device. -/
theorem mem_deviceAdvances :
    request ∈ m.deviceAdvances ↔ ∃ deviceId mark, m.deviceId = some deviceId ∧
      m.deviceMark = some mark ∧
        (request = ⟨.device deviceId, { tenantId := m.tenantId }, .lastReceivedAt,
            timeMark mark.receivedAt⟩ ∨
          request = ⟨.device deviceId, { tenantId := m.tenantId }, .lastIngestedAt,
            timeMark mark.ingestedAt⟩) := by
  unfold deviceAdvances
  split
  · next mark deviceId hmark hdevice => simp [hmark, hdevice, advanceTo]
  · next hnone => grind

/-- All updates of a call, by row. -/
theorem mem_advances :
    request ∈ m.advances ↔ (∃ mark ∈ m.componentMarks, request ∈ m.componentAdvances mark) ∨
      request ∈ m.deviceAdvances ∨ request ∈ m.connectorAdvances := by
  simp [advances]

variable {mark : Mark} {name : MarkName}

/-- What is sent to a component's row. -/
theorem exists_mem_advances_component {componentId : String} :
    (∃ identity, ⟨.component componentId, identity, name, mark⟩ ∈ m.advances) ↔
      ∃ held ∈ m.ofComponent componentId,
        (name = .lastReceivedAt ∧ held.receivedAt.map timeMark = some mark) ∨
        (name = .lastIngestedAt ∧ held.ingestedAt.map timeMark = some mark) ∨
        (name = .lastObservedAt ∧ held.observed.map sequenceMark = some mark) := by
  simp [mem_advances, componentAdvances, mem_deviceAdvances, connectorAdvances, ofComponent,
    mem_advanceTo]
  grind

/-- What is sent to a device's row. -/
theorem exists_mem_advances_device {deviceId : String} :
    (∃ identity, ⟨.device deviceId, identity, name, mark⟩ ∈ m.advances) ↔
      ∃ held ∈ m.ofDevice deviceId, (name = .lastReceivedAt ∧ timeMark held.receivedAt = mark) ∨
        (name = .lastIngestedAt ∧ timeMark held.ingestedAt = mark) := by
  simp [mem_advances, componentAdvances, mem_deviceAdvances, connectorAdvances, ofDevice,
    mem_advanceTo]
  grind

/-- What is sent to a connector's row. -/
theorem exists_mem_advances_connector {integrationAccountId : String} :
    (∃ identity, ⟨.connector integrationAccountId, identity, name, mark⟩ ∈ m.advances) ↔
      ∃ held ∈ m.ofConnector integrationAccountId,
        (name = .lastReceivedAt ∧ held.receivedAt.map timeMark = some mark) ∨
        (name = .lastAcceptedAt ∧ held.acceptedAt.map timeMark = some mark) ∨
        (name = .lastQuarantinedAt ∧ held.quarantined.map reasonMark = some mark) ∨
        (name = .lastFencedAt ∧ held.fenced.map reasonMark = some mark) := by
  simp [mem_advances, componentAdvances, mem_deviceAdvances, connectorAdvances, ofConnector,
    mem_advanceTo]
  grind

/-- Observed times with their sequences. -/
theorem observed_values (componentId : String) :
    Supplies (.component componentId) .lastObservedAt (fun m =>
      (m.ofComponent componentId).filterMap fun held => held.observed.map toLex)
      fun value => sequenceMark (ofLex value) := by
  intro m mark
  simp only [exists_mem_advances_component, List.mem_filterMap, Option.map_eq_some_iff]
  grind [ofLex_toLex]

/-- Quarantine times with their reasons. -/
theorem quarantined_values (integrationAccountId : String) :
    Supplies (.connector integrationAccountId) .lastQuarantinedAt (fun m =>
      (m.ofConnector integrationAccountId).filterMap fun held => held.quarantined.map toLex)
      fun value => reasonMark (ofLex value) := by
  intro m mark
  simp only [exists_mem_advances_connector, List.mem_filterMap, Option.map_eq_some_iff]
  grind [ofLex_toLex]

/-- Fence times with their reasons. -/
theorem fenced_values (integrationAccountId : String) :
    Supplies (.connector integrationAccountId) .lastFencedAt (fun m =>
      (m.ofConnector integrationAccountId).filterMap fun held => held.fenced.map toLex)
      fun value => reasonMark (ofLex value) := by
  intro m mark
  simp only [exists_mem_advances_connector, List.mem_filterMap, Option.map_eq_some_iff]
  grind [ofLex_toLex]

end IngestMarks

/-- Plain times are ordered. -/
theorem timeMark_lt (a b : Time) : (timeMark a).lt (timeMark b) = true ↔ a < b := by
  simp [Mark.lt_iff, timeMark]

theorem sequenceMark_lt (a b : Time ×ₗ Int) :
    (sequenceMark (ofLex a)).lt (sequenceMark (ofLex b)) = true ↔ a < b := by
  simp [Mark.lt_iff, sequenceMark, Breaker.lt, Prod.Lex.lt_iff]

theorem reasonMark_lt (a b : Time ×ₗ String) :
    (reasonMark (ofLex a)).lt (reasonMark (ofLex b)) = true ↔ a < b := by
  simp [Mark.lt_iff, reasonMark, Breaker.lt, Prod.Lex.lt_iff]

/-! ## Settled tables -/

/-- What is stored was carried, and marked rows have an identity. -/
structure Carried (marks : Finset IngestMarks) (table : MarkTable) : Prop where
  mark : ∀ {row name mark}, table.marks (row, name) = some mark → Carries marks row name mark
  identity : ∀ {row identity}, table.identities row = some identity →
    ∃ m ∈ marks, ∃ request ∈ m.advances, request.row = row ∧ request.identity = identity
  identified : ∀ {row name mark}, table.marks (row, name) = some mark →
    (table.identities row).isSome = true

/-- What the marks carry is reached, and nothing else is stored. -/
structure Settled (marks : Finset IngestMarks) (table : MarkTable) : Prop
    extends Carried marks table where
  reached : ∀ {row name mark}, Carries marks row name mark →
    mark.Reached (table.marks (row, name))

/-- An update carries a value of its call. -/
theorem Carried.advance {marks : Finset IngestMarks} {table' : MarkTable}
    (h : Carried marks table) (hm : m ∈ marks) (hreq : request ∈ m.advances)
    (hadvance : table.advance request = some table') : Carried marks table' := by
  obtain ⟨hnew, -, hother⟩ := MarkTable.advance_cases hadvance
  have hidentities := MarkTable.advance_identities hadvance
  refine ⟨fun {row name mark} hmark => ?_, fun {row identity} hident => ?_,
    fun {row name mark} hmark => ?_⟩
  · by_cases hkey : (row, name) = (request.row, request.name)
    · cases hkey
      rw [hnew, Option.some.injEq] at hmark
      subst hmark
      exact ⟨m, hm, request.identity, hreq⟩
    · rw [hother _ hkey] at hmark
      exact h.mark hmark
  · by_cases hrow : row = request.row
    · subst hrow
      rw [hidentities, Function.update_self] at hident
      rcases hold : table.identities request.row with _ | old
      · rw [hold, Option.none_or, Option.some.injEq] at hident
        exact ⟨m, hm, request, hreq, rfl, hident⟩
      · rw [hold, Option.some_or] at hident
        exact h.identity (hold.trans hident)
    · rw [hidentities, Function.update_of_ne hrow] at hident
      exact h.identity hident
  · by_cases hrow : row = request.row
    · subst hrow
      simp [hidentities]
    · have hkey : (row, name) ≠ (request.row, request.name) := fun hkey => hrow (congrArg Prod.fst hkey)
      rw [hother _ hkey] at hmark
      rw [hidentities, Function.update_of_ne hrow]
      exact h.identified hmark

namespace Settled

variable {marks : Finset IngestMarks} {table : MarkTable} {row : MarkRow} {name : MarkName}

/-- An attribute holds the greatest carried value. -/
theorem marks_eq_top [LinearOrder α] (h : Settled marks table) {toMark : α → Mark}
    (hlt : ∀ a b, (toMark a).lt (toMark b) = true ↔ a < b) {values : IngestMarks → List α}
    (hvalues : Supplies row name values toMark) :
    table.marks (row, name) = (top (supplied marks values)).map toMark := by
  have hcarries : ∀ mark, Carries marks row name mark ↔
      ∃ value ∈ supplied marks values, toMark value = mark := by
    intro mark
    simp only [Carries, hvalues _ _, mem_supplied]
    grind
  unfold top
  split
  · next hnonempty =>
    have hmax := Finset.max'_mem _ hnonempty
    obtain ⟨stored, hstored, hreached⟩ := h.reached ((hcarries _).mpr ⟨_, hmax, rfl⟩)
    obtain ⟨value, hvalue, rfl⟩ := (hcarries stored).mp (h.mark hstored)
    have hle := Finset.le_max' _ value hvalue
    have hnot : ¬ value < (supplied marks values).max' hnonempty := by
      rw [← hlt, hreached]
      simp
    rw [hstored, Option.map_some, le_antisymm hle (not_lt.mp hnot)]
  · next hempty =>
    rw [Option.map_none, Option.eq_none_iff_forall_ne_some]
    intro mark hmark
    obtain ⟨value, hvalue, -⟩ := (hcarries mark).mp (h.mark hmark)
    exact hempty ⟨value, hvalue⟩

theorem timeOf_eq (h : Settled marks table) {values : IngestMarks → List Time}
    (hvalues : Supplies row name values timeMark) :
    table.timeOf row name = top (supplied marks values) := by
  rw [MarkTable.timeOf, h.marks_eq_top timeMark_lt hvalues]
  cases top (supplied marks values) <;> rfl

/-- A time and its companion come from one pair. -/
theorem pair_eq {β : Type} [LinearOrder β] (h : Settled marks table) (part : Mark → Option β)
    {toMark : Time ×ₗ β → Mark} (hlt : ∀ a b, (toMark a).lt (toMark b) = true ↔ a < b)
    (hparts : ∀ pair, (toMark pair).value = (ofLex pair).1 ∧ part (toMark pair) = some (ofLex pair).2)
    {values : IngestMarks → List (Time ×ₗ β)} (hvalues : Supplies row name values toMark) :
    table.timeOf row name = (top (supplied marks values)).map (fun pair => (ofLex pair).1) ∧
      (table.marks (row, name)).bind part =
        (top (supplied marks values)).map (fun pair => (ofLex pair).2) := by
  rw [MarkTable.timeOf, h.marks_eq_top hlt hvalues]
  cases top (supplied marks values) with
  | none => exact ⟨rfl, rfl⟩
  | some pair => simp [hparts pair]

/-- A component's row is the join. -/
theorem component_eq (h : Settled marks table) (componentId : String) :
    table.component componentId = joinComponent marks componentId := by
  have hobs := h.pair_eq Mark.sequence sequenceMark_lt (fun _ => ⟨rfl, rfl⟩)
    (IngestMarks.observed_values componentId)
  simp only [MarkTable.component, joinComponent, ComponentIngestState.mk.injEq]
  refine ⟨h.timeOf_eq ?_, h.timeOf_eq ?_, hobs⟩ <;>
  · intro m mark
    simp only [IngestMarks.exists_mem_advances_component, List.mem_filterMap,
      Option.map_eq_some_iff]
    grind

/-- A device's row is the join. -/
theorem device_eq (h : Settled marks table) (deviceId : String) :
    table.device deviceId = joinDevice marks deviceId := by
  simp only [MarkTable.device, joinDevice, DeviceIngestState.mk.injEq]
  refine ⟨h.timeOf_eq ?_, h.timeOf_eq ?_⟩ <;>
  · intro m mark
    simp [IngestMarks.exists_mem_advances_device]

/-- A connector's row is the join. -/
theorem connector_eq (h : Settled marks table) (integrationAccountId : String) :
    table.connector integrationAccountId = joinConnector marks integrationAccountId := by
  have hquar := h.pair_eq Mark.reason reasonMark_lt (fun _ => ⟨rfl, rfl⟩)
    (IngestMarks.quarantined_values integrationAccountId)
  have hfenced := h.pair_eq Mark.reason reasonMark_lt (fun _ => ⟨rfl, rfl⟩)
    (IngestMarks.fenced_values integrationAccountId)
  simp only [MarkTable.connector, joinConnector, ConnectorHealth.mk.injEq]
  refine ⟨h.timeOf_eq ?_, h.timeOf_eq ?_, hquar.1, hquar.2, hfenced⟩ <;>
  · intro m mark
    simp only [IngestMarks.exists_mem_advances_connector, List.mem_filterMap,
      Option.map_eq_some_iff]
    grind

end Settled

/-! ## Runs -/

/-- Calls of `apply_ingest_marks`, for finitely many marks. -/
def markMachine (marks : Finset IngestMarks) : Machine TelemetryStore TelemetryOutcome IngestMarks
    (Except Failure Unit) TelemetryOp TelemetryReply where
  exec := telemetryExec
  body m := applyIngestMarks m.advances
  admits m _ := decide (m ∈ marks)

/-- The marks with a completed call. -/
def completed (w : World TelemetryStore IngestMarks (Except Failure Unit) TelemetryOp
    TelemetryReply) : List IngestMarks :=
  w.processes.filterMap fun
    | (m, .done (.ok ())) => some m
    | _ => none

/-- A completed call has ended well. -/
theorem mem_completed {w : World TelemetryStore IngestMarks (Except Failure Unit) TelemetryOp
    TelemetryReply} (h : m ∈ completed w) :
    (m, Program.done (.ok ())) ∈ w.processes := by
  obtain ⟨⟨m', p⟩, hmem, hp⟩ := List.mem_filterMap.mp h
  rcases p with (_ | ⟨⟨⟩⟩) | _ <;> cases hp
  exact hmem

/-- A call's own updates, and the exception of a failed one. -/
def UpdateOf (marks : Finset IngestMarks) : TelemetryOp → Prop
  | .advance request => ∃ m ∈ marks, request ∈ m.advances
  | .raised => True
  | _ => False

/-- An identity is never overwritten. -/
def IdentitiesKept (s t : TelemetryStore) : Prop :=
  ∀ row identity, s.marks.identities row = some identity → t.marks.identities row = some identity

/-- An update keeps the identities. -/
theorem identitiesKept_of_advance {s : TelemetryStore}
    (h : s.marks.advance request = some table) : IdentitiesKept s { s with marks := table } := by
  intro row identity hident
  rw [MarkTable.advance_identities h]
  by_cases hrow : row = request.row
  · subst hrow
    rw [Function.update_self, hident, Option.some_or]
  · rw [Function.update_of_ne hrow, hident]

/-- Operations keep what is stored among what is carried. -/
theorem carried_kept (marks : Finset IngestMarks) :
    Kept telemetryExec (fun _ _ _ => True) (fun op _ => UpdateOf marks op)
      (fun s => Carried marks s.marks) MarksRaised
      (fun s t => MarksRaised s t ∧ IdentitiesKept s t) where
  trans _ _ _ h h' key mark hmark := h' key mark (h key mark hmark)
  rely_of_guarantee _ _ h := h.1
  step op choice s reply t hs hop _ hexec := by
    have hsame : MarksRaised s s ∧ IdentitiesKept s s := ⟨fun _ _ h => h, fun _ _ h => h⟩
    cases op with
    | advance =>
      obtain ⟨m, hm, hreq⟩ := hop
      rcases attempt_cases (Option.some.inj hexec) with ⟨rfl, -, -⟩ | ⟨hadvance, -⟩
      · exact ⟨hs, hsame⟩
      · obtain ⟨table, htable, rfl⟩ := Option.map_eq_some_iff.mp hadvance
        exact ⟨hs.advance hm hreq htable,
          fun _ _ h => MarkTable.advance_monotone htable h, identitiesKept_of_advance htable⟩
    | raised =>
      cases hexec
      exact ⟨hs, hsame⟩
    | _ => exact hop.elim

/-- The contract of the calls. -/
theorem mark_contract (marks : Finset IngestMarks) :
    Contract (markMachine marks) (fun _ _ _ => True) (fun s => Carried marks s.marks) MarksRaised
      (fun s t => MarksRaised s t ∧ IdentitiesKept s t)
      (fun m result s => ∀ value, result = .ok value → ∀ request ∈ m.advances, request.Done s) where
  rely_refl _ _ _ h := h
  rely_trans := (carried_kept marks).trans
  guarantee_refl _ := ⟨fun _ _ h => h, fun _ _ h => h⟩
  guarantee_rely h := h.1
  post_stable _ _ _ _ hpost hrely _ value hvalue request hreq :=
    hrely _ _ (hpost value hvalue request hreq)
  body_safe {m s} _ hadmits :=
    applyIngestMarks_safeOk (carried_kept marks) (fun _ _ _ h => h) (fun _ _ h => h)
      (fun _ => trivial) m.advances s
      fun _ hreq _ => ⟨m, of_decide_eq_true hadmits, hreq⟩

/-- After a run in which all marks were applied at least once, the rows are the join of the set of
marks, whatever the order, the repetitions and the failures were. The identity of a row is that of
one of its writers, and the first one's for good. -/
theorem ingestMarks_join {marks : Finset IngestMarks} {s : TelemetryStore}
    {as : List (Action TelemetryOutcome IngestMarks)}
    {w : World TelemetryStore IngestMarks (Except Failure Unit) TelemetryOp TelemetryReply}
    (hs : s.marks = MarkTable.empty) (hrun : (markMachine marks).run (Machine.initial s) as = some w)
    (hcompleted : ∀ m ∈ marks, m ∈ completed w) :
    (∀ componentId, w.store.marks.component componentId = joinComponent marks componentId) ∧
      (∀ deviceId, w.store.marks.device deviceId = joinDevice marks deviceId) ∧
      (∀ account, w.store.marks.connector account = joinConnector marks account) ∧
      (∀ row, match w.store.marks.identities row with
        | none => ∀ m ∈ marks, ∀ request ∈ m.advances, request.row ≠ row
        | some identity => ∃ m ∈ marks, ∃ request ∈ m.advances,
            request.row = row ∧ request.identity = identity) ∧
      (markMachine marks).EveryStep IdentitiesKept (Machine.initial s) as := by
  have hinitial : Carried marks s.marks := by
    rw [hs]
    exact ⟨nofun, nofun, nofun⟩
  obtain ⟨hcarried, hsafe, hsteps⟩ := (mark_contract marks).run_initial hinitial
    (Machine.guarded_true as _) hrun
  have hdone : ∀ m ∈ marks, ∀ request ∈ m.advances, request.Done w.store := fun m hm =>
    hsafe _ (mem_completed (hcompleted m hm)) () rfl
  have hsettled : Settled marks w.store.marks :=
    { hcarried with
      reached := fun {row name mark} ⟨m, hm, identity, hmem⟩ => hdone m hm _ hmem }
  refine ⟨hsettled.component_eq, hsettled.device_eq, hsettled.connector_eq, fun row => ?_,
    Machine.EveryStep.mono (fun _ _ h => h.2) hsteps⟩
  split
  · next hnone =>
    rintro m hm request hrequest rfl
    obtain ⟨stored, hstored, -⟩ := hdone m hm request hrequest
    have := hcarried.identified hstored
    rw [hnone] at this
    contradiction
  · next identity hsome => exact hcarried.identity hsome

namespace SampleMarks

/-- Marks of one component, reported through some device. -/
def marks (deviceId : String) (receivedAt : Time) (sequence : Int) (reason : String) :
    IngestMarks where
  tenantId := "t"
  deviceId := some deviceId
  integrationAccountId := "ia"
  componentMarks := [{ componentId := "c", receivedAt := some receivedAt,
                       observed := some (7, sequence) }]
  connectorMark := { quarantined := some (receivedAt, reason) }

/-- Nothing is stored. -/
def store : TelemetryStore where
  references :=
    { mapping := ⟨fun _ => none, fun _ => none, fun _ => none, fun _ => none, fun _ => none⟩
      deployments := Deployments.TwoDeployments.store
      assets := fun _ => none }
  assetVersions := []
  written := []
  legacyWritten := []
  quarantine := fun _ => none
  persisted := []
  marks := MarkTable.empty

/-- Call `i` sends its next update. -/
def next (i : Nat) : Action TelemetryOutcome IngestMarks := .step i {}

/-- The answer to call `i` is lost, and it gives up. -/
def fail (i : Nat) : List (Action TelemetryOutcome IngestMarks) :=
  [.step i { fault := .answerLost }, .step i {}]

end SampleMarks

open SampleMarks

/-- A call that fails halfway and is repeated, interleaved with a second one. -/
theorem ingestMarks_join_of_interleaving : let low := marks "d" 1 9 "unit_unknown"
    let high := marks "d" 2 8 "metric_unknown"
    ∃ w, (markMachine {low, high}).run (Machine.initial store)
        ([.start low, .start high, .start low] ++ fail 0 ++ [1, 2, 2, 1, 2, 1].map next) = some w ∧
      w.store.marks.component "c" = joinComponent {low, high} "c" ∧
      joinComponent {low, high} "c" = ⟨some 2, none, some 7, some 9⟩ ∧
      w.store.marks.connector "ia" = joinConnector {low, high} "ia" ∧
      joinConnector {low, high} "ia" = ⟨none, none, some 2, some "metric_unknown", none, none⟩ := by
  intro low high
  have hfinal : ((markMachine {low, high}).run (Machine.initial store)
      ([.start low, .start high, .start low] ++ fail 0 ++
        [1, 2, 2, 1, 2, 1].map next)).map completed = some [high, low] := by
    decide +kernel
  obtain ⟨w, hrun, hw⟩ := Option.map_eq_some_iff.mp hfinal
  obtain ⟨hcomponent, -, hconnector, -, -⟩ := ingestMarks_join rfl hrun (by rw [hw]; simp [or_comm])
  exact ⟨w, hrun, hcomponent "c", by decide +kernel, hconnector "ia", by decide +kernel⟩

/-- Two orders of the same two calls leave different identities. -/
theorem identity_of_first_writer : let first := marks "d1" 1 8 "unit_unknown"
    let second := marks "d2" 1 8 "unit_unknown"
    ∃ w w', (markMachine {first, second}).run (Machine.initial store)
        ([.start first, .start second] ++ [0, 0, 0, 1, 1, 1].map next) = some w ∧
      (markMachine {first, second}).run (Machine.initial store)
        ([.start first, .start second] ++ [1, 1, 1, 0, 0, 0].map next) = some w' ∧
      completed w = [first, second] ∧ completed w' = [first, second] ∧
      w.store.marks.identities (.component "c") = some ⟨"t", some "d1"⟩ ∧
      w'.store.marks.identities (.component "c") = some ⟨"t", some "d2"⟩ := by
  intro first second
  have hfinal : ((markMachine {first, second}).run (Machine.initial store)
      ([.start first, .start second] ++ [0, 0, 0, 1, 1, 1].map next)).map
        (fun w => (completed w, w.store.marks.identities (.component "c"))) =
      some ([first, second], some ⟨"t", some "d1"⟩) := by
    decide +kernel
  have hfinal' : ((markMachine {first, second}).run (Machine.initial store)
      ([.start first, .start second] ++ [1, 1, 1, 0, 0, 0].map next)).map
        (fun w => (completed w, w.store.marks.identities (.component "c"))) =
      some ([first, second], some ⟨"t", some "d2"⟩) := by
    decide +kernel
  obtain ⟨w, hrun, hw⟩ := Option.map_eq_some_iff.mp hfinal
  obtain ⟨w', hrun', hw'⟩ := Option.map_eq_some_iff.mp hfinal'
  rw [Prod.mk.injEq] at hw hw'
  exact ⟨w, w', hrun, hrun', hw.1, hw'.1, hw.2, hw'.2⟩

end LimnoPulse.Ingestion
