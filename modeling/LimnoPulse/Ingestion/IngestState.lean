import LimnoPulse.Ingestion.Quarantine

/-!
# Ingest state

The monotone marks of components, devices and connectors.  A mark is raised by a
conditional update of one attribute, together with the value that breaks ties; a
refused update means that the stored mark is already as high.

Main results:

- Theorem `MarkTable.reached_of_advance_eq_none`: a refused update finds a high mark.
- Theorem `MarkTable.advance_monotone`: no update lowers a mark.
-/

namespace LimnoPulse.Ingestion

open StoreProgram

/-! ## Marks -/

/-- The row a mark belongs to. -/
inductive MarkRow where
  | component (componentId : String)
  | device (deviceId : String)
  | connector (integrationAccountId : String)
deriving DecidableEq

/-- The attributes that hold marks. -/
inductive MarkName where
  | lastReceivedAt
  | lastIngestedAt
  | lastObservedAt
  | lastAcceptedAt
  | lastQuarantinedAt
  | lastFencedAt
deriving DecidableEq

/-- What breaks ties: a sequence or a reason. -/
inductive Breaker where
  | sequence (value : Int)
  | reason (text : String)
deriving DecidableEq

/-- Values of different types are not ordered. -/
def Breaker.lt : Breaker → Breaker → Bool
  | .sequence a, .sequence b => decide (a < b)
  | .reason a, .reason b => decide (a < b)
  | _, _ => false

/-- A time with the value that breaks ties. -/
structure Mark where
  value : Time
  breaker : Option Breaker := none
deriving DecidableEq

/-- The stored mark is below the requested one. -/
def Mark.lt (stored requested : Mark) : Bool :=
  decide (stored.value < requested.value) ||
    (stored.value = requested.value &&
      match stored.breaker, requested.breaker with
      | some held, some wanted => held.lt wanted
      | _, _ => false)

/-- The stored mark is not below the requested one. -/
def Mark.Reached (requested : Mark) (stored : Option Mark) : Prop :=
  ∃ mark, stored = some mark ∧ mark.lt requested = false

/-- No breaker lies below itself. -/
theorem Breaker.lt_irrefl (a : Breaker) : a.lt a = false := by
  cases a with
  | sequence value | reason text => simp [Breaker.lt]

/-- Breakers are ordered. -/
theorem Breaker.lt_trans {a b c : Breaker} (hab : a.lt b = true) (hbc : b.lt c = true) :
    a.lt c = true := by
  cases a <;> cases b <;> cases c <;> simp only [Breaker.lt, decide_eq_true_eq] at hab hbc ⊢ <;>
    first
      | contradiction
      | exact Int.lt_trans hab hbc
      | exact String.lt_trans hab hbc

/-- Times first, then breakers. -/
theorem Mark.lt_iff {a b : Mark} : a.lt b = true ↔ a.value < b.value ∨ a.value = b.value ∧
    ∃ held wanted, a.breaker = some held ∧ b.breaker = some wanted ∧ held.lt wanted = true := by
  rcases a with ⟨value, _ | held⟩ <;> rcases b with ⟨value', _ | wanted⟩ <;>
    simp [Mark.lt]

/-- No mark lies below itself. -/
theorem Mark.lt_irrefl (a : Mark) : a.lt a = false := by
  rw [Bool.eq_false_iff]
  intro h
  rcases Mark.lt_iff.mp h with hlt | ⟨-, held, wanted, hheld, hwanted, hlt⟩
  · exact Int.lt_irrefl _ hlt
  · rw [hheld] at hwanted
    cases hwanted
    rw [Breaker.lt_irrefl] at hlt
    cases hlt

/-- Marks are ordered. -/
theorem Mark.lt_trans {a b c : Mark} (hab : a.lt b = true) (hbc : b.lt c = true) :
    a.lt c = true := by
  rw [Mark.lt_iff] at hab hbc ⊢
  rcases hab with hab | ⟨hab, held, middle, hheld, hmiddle, hlt⟩
  · rcases hbc with hbc | ⟨hbc, -⟩
    · exact .inl (Int.lt_trans hab hbc)
    · exact .inl (hbc ▸ hab)
  · rcases hbc with hbc | ⟨hbc, middle', wanted, hmiddle', hwanted, hlt'⟩
    · exact .inl (hab ▸ hbc)
    · rw [hmiddle] at hmiddle'
      cases hmiddle'
      exact .inr ⟨hab.trans hbc, held, wanted, hheld, hwanted, Breaker.lt_trans hlt hlt'⟩

/-- The identity of a row; only components name a device. -/
structure RowIdentity where
  tenantId : String
  deviceId : Option String := none
deriving DecidableEq

/-- The marks of all rows, and the identities, which are set together by the first writer
(`if_not_exists`). -/
structure MarkTable where
  marks : MarkRow × MarkName → Option Mark
  identities : MarkRow → Option RowIdentity

/-- One conditional update. -/
structure Advance where
  row : MarkRow
  identity : RowIdentity
  name : MarkName
  mark : Mark
deriving DecidableEq

namespace MarkTable

/-- No row is written yet. -/
def empty : MarkTable := ⟨fun _ => none, fun _ => none⟩

/-- Raise a mark if it is absent or lower. -/
def advance (request : Advance) (table : MarkTable) : Option MarkTable :=
  if (table.marks (request.row, request.name)).all (fun stored => stored.lt request.mark) then
    some
      { marks := Function.update table.marks (request.row, request.name) (some request.mark)
        identities := Function.update table.identities request.row
          ((table.identities request.row).or (some request.identity)) }
  else none

variable {request : Advance} {table table' : MarkTable}

/-- What one update does to the marks. -/
theorem advance_cases (h : table.advance request = some table') :
    table'.marks (request.row, request.name) = some request.mark ∧
      (∀ stored, table.marks (request.row, request.name) = some stored →
        stored.lt request.mark = true) ∧
      ∀ key, key ≠ (request.row, request.name) → table'.marks key = table.marks key := by
  unfold advance at h
  split at h
  · next hcond =>
    cases h
    refine ⟨by simp, fun stored hstored => ?_, fun key hkey => by simp [hkey]⟩
    rw [hstored, Option.all_some] at hcond
    exact hcond
  · contradiction

/-- The first writer of a row sets its identity. -/
theorem advance_identities (h : table.advance request = some table') :
    table'.identities = Function.update table.identities request.row
      ((table.identities request.row).or (some request.identity)) := by
  unfold advance at h
  split at h
  · cases h
    rfl
  · contradiction

/-- A refused update finds a mark that is as high. -/
theorem reached_of_advance_eq_none (h : table.advance request = none) :
    request.mark.Reached (table.marks (request.row, request.name)) := by
  unfold advance at h
  split at h
  · contradiction
  · next hcond =>
    rcases hstored : table.marks (request.row, request.name) with _ | stored
    · rw [hstored] at hcond
      exact absurd rfl hcond
    · rw [hstored, Option.all_some, Bool.not_eq_true] at hcond
      exact ⟨stored, rfl, hcond⟩

/-- No update lowers a mark. -/
theorem advance_monotone
    (h : table.advance request = some table') {key : MarkRow × MarkName} {mark : Mark}
    (hreached : mark.Reached (table.marks key)) : mark.Reached (table'.marks key) := by
  obtain ⟨hnew, hlower, hother⟩ := advance_cases h
  by_cases hkey : key = (request.row, request.name)
  · subst hkey
    obtain ⟨stored, hstored, hnot⟩ := hreached
    refine ⟨request.mark, hnew, Bool.eq_false_iff.mpr fun hlt => ?_⟩
    rw [Mark.lt_trans (hlower stored hstored) hlt] at hnot
    cases hnot
  · rw [hother key hkey]
    exact hreached

end MarkTable

/-! ## The marks of a message -/

/-- Time and sequence are given together or not at all. -/
structure ComponentMark where
  componentId : String
  receivedAt : Option Time := none
  ingestedAt : Option Time := none
  observed : Option (Time × Int) := none
deriving DecidableEq

/-- The mark of a device. -/
structure DeviceMark where
  (receivedAt ingestedAt : Time)
deriving DecidableEq

/-- A time and its reason are given together or not at all. -/
structure ConnectorMark where
  receivedAt : Option Time := none
  acceptedAt : Option Time := none
  quarantined : Option (Time × String) := none
  fenced : Option (Time × String) := none
deriving DecidableEq

/-- Component and device marks need the verified device. -/
structure IngestMarks where
  tenantId : String
  deviceId : Option String := none
  integrationAccountId : String
  componentMarks : List ComponentMark := []
  deviceMark : Option DeviceMark := none
  connectorMark : ConnectorMark := {}
  verified : deviceId = none → componentMarks = [] ∧ deviceMark = none := by simp
deriving DecidableEq

/-- A simple mark. -/
def timeMark (value : Time) : Mark := ⟨value, none⟩

/-- A time with its sequence. -/
def sequenceMark (pair : Time × Int) : Mark := ⟨pair.1, some (.sequence pair.2)⟩

/-- A time with its reason. -/
def reasonMark (pair : Time × String) : Mark := ⟨pair.1, some (.reason pair.2)⟩

/-- `_advance`: one update, or none if there is no value. -/
def advanceTo (row : MarkRow) (identity : RowIdentity) (name : MarkName) (value : Option Mark) :
    List Advance :=
  (value.map fun mark => ⟨row, identity, name, mark⟩).toList

namespace IngestMarks

variable (marks : IngestMarks)

/-- The updates of a component's row. -/
def componentAdvances (mark : ComponentMark) : List Advance :=
  let row := MarkRow.component mark.componentId
  let identity : RowIdentity := ⟨marks.tenantId, marks.deviceId⟩
  advanceTo row identity .lastReceivedAt (mark.receivedAt.map timeMark) ++
    advanceTo row identity .lastIngestedAt (mark.ingestedAt.map timeMark) ++
    advanceTo row identity .lastObservedAt (mark.observed.map sequenceMark)

/-- The updates of the device's row. -/
def deviceAdvances : List Advance :=
  match marks.deviceMark, marks.deviceId with
  | some mark, some deviceId =>
    let row := MarkRow.device deviceId
    let identity : RowIdentity := { tenantId := marks.tenantId }
    advanceTo row identity .lastReceivedAt (some (timeMark mark.receivedAt)) ++
      advanceTo row identity .lastIngestedAt (some (timeMark mark.ingestedAt))
  | _, _ => []

/-- The updates of the connector's row. -/
def connectorAdvances : List Advance :=
  let row := MarkRow.connector marks.integrationAccountId
  let identity : RowIdentity := { tenantId := marks.tenantId }
  let mark := marks.connectorMark
  advanceTo row identity .lastReceivedAt (mark.receivedAt.map timeMark) ++
    advanceTo row identity .lastAcceptedAt (mark.acceptedAt.map timeMark) ++
    advanceTo row identity .lastQuarantinedAt (mark.quarantined.map reasonMark) ++
    advanceTo row identity .lastFencedAt (mark.fenced.map reasonMark)

/-- The updates of `apply_ingest_marks`, in order. -/
def advances : List Advance :=
  marks.componentMarks.flatMap marks.componentAdvances ++ marks.deviceAdvances ++
    marks.connectorAdvances

end IngestMarks

/-- No mark: a replay or an unverified fence. -/
def emptyMarks (envelope : IngressEnvelope) : IngestMarks where
  tenantId := envelope.tenantId
  integrationAccountId := envelope.integrationAccountId

/-- A verified fence marks the connector only. -/
def fenceMarks (envelope : IngressEnvelope) (fence : IngressFence) : IngestMarks :=
  if envelope.replay || !fence.accountVerified then emptyMarks envelope
  else { emptyMarks envelope with
    connectorMark := { fenced := some (envelope.receivedAt, fence.reason.text) } }

/-- The connector mark of a fence. -/
def fenceAdvance (envelope : IngressEnvelope) (fence : IngressFence) : Advance :=
  ⟨.connector envelope.integrationAccountId, { tenantId := envelope.tenantId }, .lastFencedAt,
    reasonMark (envelope.receivedAt, fence.reason.text)⟩

/-- A fence has one update. -/
theorem fenceMarks_advances {envelope : IngressEnvelope} {fence : IngressFence}
    (hreplay : envelope.replay = false) (hverified : fence.accountVerified = true) :
    (fenceMarks envelope fence).advances = [fenceAdvance envelope fence] := by
  simp [fenceMarks, hreplay, hverified, IngestMarks.advances, IngestMarks.deviceAdvances,
    IngestMarks.connectorAdvances, advanceTo, emptyMarks, fenceAdvance, reasonMark]

/-- The clock of the reading was off. -/
def isSkewed (o : CanonicalObservation) : Bool :=
  o.quality.flags.contains .clockSkewFuture || o.quality.flags.contains .clockSkewPastExtreme

/-- Times first, then sequences. -/
def pairLt (a b : Time × Nat) : Bool :=
  decide (a.1 < b.1) || (a.1 = b.1 && decide (a.2 < b.2))

/-- The greatest unskewed pair of each component. -/
def bestPairs (accepted : List CanonicalObservation) : List (String × Option (Time × Nat)) :=
  accepted.foldl (fun best o =>
    upsert o.resolved.componentId (fun current =>
      let current := current.getD none
      match o.observation.sequence with
      | none => current
      | some sequence =>
        if isSkewed o then current
        else
          match current with
          | none => some (o.observation.observedAt, sequence)
          | some pair =>
            if pairLt pair (o.observation.observedAt, sequence) then
              some (o.observation.observedAt, sequence)
            else some pair) best) []

/-- The greatest of some texts. -/
def greatest : List String → Option String
  | [] => none
  | text :: texts => some (texts.foldl (fun best other => if best < other then other else best) text)

/-- The marks of a processed message. -/
def outcomeMarks (envelope : IngressEnvelope) (accepted : List CanonicalObservation)
    (quarantined : List QuarantinedObservation) (ingestedAt : Time) : IngestMarks :=
  if envelope.replay then emptyMarks envelope
  else
    let received := envelope.receivedAt
    { tenantId := envelope.tenantId
      deviceId := some envelope.deviceId
      integrationAccountId := envelope.integrationAccountId
      componentMarks := ((bestPairs accepted).mergeSort fun a b => decide (a.1 ≤ b.1)).map
        fun (componentId, pair) =>
          ⟨componentId, some received, some ingestedAt, pair.map fun (at_, n) => (at_, (n : Int))⟩
      deviceMark := some ⟨received, ingestedAt⟩
      connectorMark :=
        { receivedAt := some received
          acceptedAt := if accepted.isEmpty then none else some received
          quarantined := (greatest (quarantined.map (·.reason.text))).map fun reason =>
            (received, reason) } }

/-! ## Sequence events -/

/-- What is stored of a component. -/
structure ComponentIngestState where
  (lastReceivedAt lastIngestedAt lastObservedAt : Option Time)
  lastObservedSequence : Option Int
deriving DecidableEq

/-- What is stored of a device. -/
structure DeviceIngestState where
  (lastReceivedAt lastIngestedAt : Option Time)
deriving DecidableEq

/-- What is stored of a connector. -/
structure ConnectorHealth where
  (lastReceivedAt lastAcceptedAt lastQuarantinedAt : Option Time)
  lastQuarantineReason : Option String
  lastFencedAt : Option Time
  lastFenceReason : Option String
deriving DecidableEq

/-- The sequence beside a time. -/
def Mark.sequence (mark : Mark) : Option Int :=
  match mark.breaker with
  | some (.sequence value) => some value
  | _ => none

/-- The reason beside a time. -/
def Mark.reason (mark : Mark) : Option String :=
  match mark.breaker with
  | some (.reason text) => some text
  | _ => none

namespace MarkTable

variable (table : MarkTable)

/-- A stored time. -/
def timeOf (row : MarkRow) (name : MarkName) : Option Time :=
  (table.marks (row, name)).map (·.value)

/-- A stored sequence. -/
def sequenceOf (row : MarkRow) (name : MarkName) : Option Int :=
  (table.marks (row, name)).bind (·.sequence)

/-- A stored reason. -/
def reasonOf (row : MarkRow) (name : MarkName) : Option String :=
  (table.marks (row, name)).bind (·.reason)

/-- The row of a component. -/
def component (componentId : String) : ComponentIngestState :=
  let row := MarkRow.component componentId
  { lastReceivedAt := table.timeOf row .lastReceivedAt
    lastIngestedAt := table.timeOf row .lastIngestedAt
    lastObservedAt := table.timeOf row .lastObservedAt
    lastObservedSequence := table.sequenceOf row .lastObservedAt }

/-- The row of a device. -/
def device (deviceId : String) : DeviceIngestState :=
  let row := MarkRow.device deviceId
  { lastReceivedAt := table.timeOf row .lastReceivedAt
    lastIngestedAt := table.timeOf row .lastIngestedAt }

/-- The row of a connector. -/
def connector (integrationAccountId : String) : ConnectorHealth :=
  let row := MarkRow.connector integrationAccountId
  { lastReceivedAt := table.timeOf row .lastReceivedAt
    lastAcceptedAt := table.timeOf row .lastAcceptedAt
    lastQuarantinedAt := table.timeOf row .lastQuarantinedAt
    lastQuarantineReason := table.reasonOf row .lastQuarantinedAt
    lastFencedAt := table.timeOf row .lastFencedAt
    lastFenceReason := table.reasonOf row .lastFencedAt }

/-- The stored state of a component and its tenant. -/
def componentState (componentId : String) : Option (String × ComponentIngestState) :=
  (table.identities (.component componentId)).map fun identity =>
    (identity.tenantId, table.component componentId)

end MarkTable

/-- How a sequence continues. -/
inductive SequenceEvent where
  | first
  | contiguous
  | gap
  | regression
  | duplicate
  | late
deriving DecidableEq

/-- The event of one pair after the previous one. -/
def sequenceEvent (previous : Option (Time × Int)) (pair : Time × Int) : SequenceEvent :=
  match previous with
  | none => .first
  | some (observedAt, sequence) =>
    if observedAt < pair.1 then
      if pair.2 = sequence + 1 then .contiguous
      else if sequence + 1 < pair.2 then .gap
      else .regression
    else if pair.1 = observedAt then
      if pair.2 = sequence then .duplicate else .late
    else .late

/-- The sequence truth table over sorted pairs. -/
def sequenceEvents (previous : Option (Time × Int)) : List (Time × Int) → List SequenceEvent
  | [] => []
  | pair :: pairs =>
    let event := sequenceEvent previous pair
    event :: sequenceEvents (if event = .late then previous else some pair) pairs

/-- `classify_component_sequence`. -/
def classifyComponentSequence (state : Option ComponentIngestState)
    (pairs : List (Time × Nat)) : List SequenceEvent :=
  let previous := state.bind fun state =>
    state.lastObservedAt.bind fun observedAt =>
      state.lastObservedSequence.map fun sequence => (observedAt, sequence)
  sequenceEvents previous
    ((pairs.dedup.mergeSort fun a b => !pairLt b a).map fun (at_, n) => (at_, (n : Int)))

end LimnoPulse.Ingestion
