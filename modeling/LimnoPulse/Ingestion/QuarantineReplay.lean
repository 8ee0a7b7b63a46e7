import LimnoPulse.Ingestion.Processor

/-!
# The quarantine commands

The status transition of a quarantine row, and the operator's `replay` and
`dismiss` commands.  A replay sends one new envelope per message and only then marks
its rows; the two are separate requests, each of which can fail before or after it
took effect.  Metrics are left out: they are written only.
-/

namespace LimnoPulse.Ingestion

open StoreProgram

variable {group : List QuarantineFields} {row : QuarantineFields} {target : QuarantineEntryStatus}
  {replayedIngressId : Option String}

/-! ## Operations -/

/-- The sort key of a row. -/
abbrev EntryKey := Time × QuarantineId

/-- How an operator names a row. -/
def QuarantineFields.entryKey (row : QuarantineFields) : EntryKey := (row.receivedAt, row.quarantineId)

/-- The conditional update of a status. -/
structure StatusUpdate where
  key : RowKey
  expectedVersion : Nat
  status : QuarantineEntryStatus
  updatedAt : Time
  nextVersion : Nat
  replayedIngressId : Option String
deriving DecidableEq

/-- The assignments; the ingress id only if there is one. -/
def StatusUpdate.apply (update : StatusUpdate) (row : QuarantineFields) : QuarantineFields :=
  { row with
    status := update.status
    updatedAt := update.updatedAt
    version := update.nextVersion
    replayedIngressId := update.replayedIngressId.or row.replayedIngressId }

/-- The rows of the workers, and the envelopes sent. -/
structure QuarantineStore where
  telemetry : TelemetryStore
  sent : List IngressEnvelope

namespace QuarantineStore

/-- The quarantine rows. -/
def rows (s : QuarantineStore) (key : RowKey) : Option QuarantineFields := s.telemetry.quarantine key

/-- Store a row. -/
def setRow (s : QuarantineStore) (key : RowKey) (row : QuarantineFields) : QuarantineStore :=
  { s with telemetry := { s.telemetry with
      quarantine := Function.update s.telemetry.quarantine key (some row) } }

/-- Update a row that has the expected version. -/
def update (request : StatusUpdate) (s : QuarantineStore) : Option QuarantineStore :=
  match s.rows request.key with
  | none => none
  | some row =>
    if row.version = request.expectedVersion then some (s.setRow request.key (request.apply row))
    else none

end QuarantineStore

/-- One await of a worker or a command. -/
inductive QuarantineOp where
  | worker (op : TelemetryOp)
  | getEntry (key : RowKey)
  | updateStatus (request : StatusUpdate)
  | send (envelope : IngressEnvelope)
  | clock

/-- Whether the queue confirmed a message. -/
inductive SendReply where
  | sent
  | failed
deriving DecidableEq

/-- What an operation is answered. -/
@[reducible]
def QuarantineReply : QuarantineOp → Type
  | .worker op => TelemetryReply op
  | .getEntry _ => ReadReply QuarantineFields
  | .updateStatus _ => WriteReply
  | .send _ => SendReply
  | .clock => Time

/-- The fault, the time, and a worker's outcome. -/
structure QuarantineOutcome where
  fault : Fault := .none
  now : Time := 0
  worker : TelemetryOutcome := {}

/-- One operation. -/
def quarantineExec : (op : QuarantineOp) → QuarantineOutcome → QuarantineStore →
    Option (QuarantineReply op × QuarantineStore)
  | .worker op, outcome, s =>
    (telemetryExec op outcome.worker s.telemetry).map fun (reply, telemetry) =>
      (reply, { s with telemetry := telemetry })
  | .getEntry key, outcome, s => some (answer outcome.fault (s.rows key), s)
  | .updateStatus request, outcome, s =>
    some (attempt outcome.fault (QuarantineStore.update request) s)
  | .send envelope, outcome, s =>
    match outcome.fault with
    | .none => some (.sent, { s with sent := envelope :: s.sent })
    | .requestLost => some (.failed, s)
    | .answerLost => some (.failed, { s with sent := envelope :: s.sent })
  | .clock, outcome, s => some (outcome.now, s)

/-- Programs of the commands. -/
abbrev QuarantineProgram (α : Type) := Program QuarantineOp QuarantineReply α

/-! ## Transitions -/

/-- Why a transition is refused. -/
inductive TransitionError where
  | invalid
  | notFound
  | terminal
  | versionConflict
  | unavailable
deriving DecidableEq

/-- The time. -/
def readClock : QuarantineProgram Time := Program.perform QuarantineOp.clock

/-- The row is not expired. -/
def isLive (row : QuarantineFields) (now : Time) : Bool := decide (now < row.expiresAt)

/-- An expired row is absent.  `none` if the read failed. -/
def getQuarantineEntry (tenantId : String) (entryKey : EntryKey) :
    QuarantineProgram (Option (Option QuarantineFields)) := do
  match ← (Program.perform (QuarantineOp.getEntry (tenantId, entryKey)) :
      QuarantineProgram (ReadReply QuarantineFields)) with
  | .unavailable => pure none
  | .row none => pure (some none)
  | .row (some row) =>
    if row.tenantId ≠ tenantId then pure (some none)
    else
      let now ← readClock
      pure (some (if isLive row now then some row else none))

/-- The arguments of a transition. -/
structure TransitionArguments where
  tenantId : String
  entryKey : EntryKey
  target : QuarantineEntryStatus
  expectedVersion : Nat
  at_ : Time
  replayedIngressId : Option String := none
deriving DecidableEq

/-- The update that carries out a transition. -/
def TransitionArguments.update (arguments : TransitionArguments) : StatusUpdate where
  key := (arguments.tenantId, arguments.entryKey)
  expectedVersion := arguments.expectedVersion
  status := arguments.target
  updatedAt := arguments.at_
  nextVersion := arguments.expectedVersion + 1
  replayedIngressId := arguments.replayedIngressId

/-- The row a transition is to leave. -/
def TransitionArguments.updated (arguments : TransitionArguments) (current : QuarantineFields) :
    QuarantineFields :=
  { current with
    status := arguments.target
    replayedIngressId := arguments.replayedIngressId
    updatedAt := arguments.at_
    version := arguments.expectedVersion + 1 }

/-- `transition_quarantine_entry`. -/
def transitionQuarantineEntry (encoding : TelemetryEncoding) (arguments : TransitionArguments) :
    QuarantineProgram (Except TransitionError Unit) :=
  if ¬ (arguments.target = .replayed ↔ arguments.replayedIngressId.isSome = true) then
    pure (.error .invalid)
  else do
    match ← getQuarantineEntry arguments.tenantId arguments.entryKey with
    | none => pure (.error .unavailable)
    | some none => pure (.error .notFound)
    | some (some current) =>
      if current.status ≠ .opened ∨ arguments.target = .opened then pure (.error .terminal)
      else if current.version ≠ arguments.expectedVersion then pure (.error .versionConflict)
      else if !(arguments.updated current).valid encoding then pure (.error .invalid)
      else
        match ← (Program.perform (QuarantineOp.updateStatus arguments.update) :
            QuarantineProgram WriteReply) with
        | .committed => pure (.ok ())
        | .conflict => pure (.error .versionConflict)
        | .unavailable => pure (.error .unavailable)

/-! ## Reports -/

/-- Why an entry is skipped. -/
inductive SkipReason where
  | notFound
  | notOpen
  | notReplayable
  | invalidEnvelope
deriving DecidableEq

/-- Why an entry fails. -/
inductive FailReason where
  | sendFailed
  | conflict
  | storeUnavailable
deriving DecidableEq

/-- What is printed of an entry. -/
inductive EntryResult where
  | replayed (ingressId : String)
  | wouldReplay (ingressId : String)
  | dismissed
  | wouldDismiss
  | skipped (reason : SkipReason)
  | failed (reason : FailReason)
deriving DecidableEq

/-- Why a command stopped early. -/
inductive CommandError where
  | queueNotConfigured
  | storeUnavailable
  | unexpected
deriving DecidableEq

/-- Lines, an early end, and the keys known to be sent. -/
structure Report where
  lines : List (EntryKey × EntryResult) := []
  sentKeys : List EntryKey := []
  error : Option CommandError := none
deriving DecidableEq

namespace Report

/-- One more line. -/
def record (report : Report) (key : EntryKey) (result : EntryResult) : Report :=
  { report with lines := report.lines ++ [(key, result)] }

/-- One result for a whole group. -/
def recordAll (report : Report) (rows : List QuarantineFields) (result : EntryResult) : Report :=
  { report with lines := report.lines ++ rows.map fun row => (row.entryKey, result) }

/-- Stop with an error. -/
def stop (report : Report) (error : CommandError) : Report := { report with error := some error }

end Report

/-! ## Commands -/

/-- The arguments of a command. -/
structure CommandArguments where
  tenantId : String
  entries : List EntryKey
  apply : Bool
deriving DecidableEq

/-- The open rows of some keys; a failed read stops. -/
def readOpen (tenantId : String) : List EntryKey → Report →
    QuarantineProgram (Option (List QuarantineFields) × Report)
  | [], report => pure (some [], report)
  | key :: keys, report => do
    match ← getQuarantineEntry tenantId key with
    | none => pure (none, report.stop .storeUnavailable)
    | some none => readOpen tenantId keys (report.record key (.skipped .notFound))
    | some (some row) =>
      if row.status ≠ .opened then
        readOpen tenantId keys (report.record key (.skipped .notOpen))
      else
        let (rows, report) ← readOpen tenantId keys report
        pure (rows.map (row :: ·), report)

/-- The order of keys, and the ingress id of a group. -/
structure ReplayEncoding extends TelemetryEncoding where
  entryLe : EntryKey → EntryKey → Bool
  replayIngressId : List EntryKey → String

/-- Sorted rows by message and integration. -/
def replayGroups (encoding : ReplayEncoding) (rows : List QuarantineFields) :
    List (List QuarantineFields) :=
  let groups := rows.foldl (fun groups row =>
    upsert (row.ingressId, row.deviceIntegrationId) (fun members => members.getD [] ++ [row])
      groups) []
  (groups.mergeSort fun a b => decide (a.1.1 < b.1.1) || (a.1.1 = b.1.1 && decide (a.1.2 ≤ b.1.2))).map
    fun (_, members) => members.mergeSort fun a b => encoding.entryLe a.entryKey b.entryKey

/-- A group holds the value or what it held. -/
theorem mem_of_mem_upsert {κ β : Type} [DecidableEq κ] {key : κ} {value : β} {p : κ × List β} {x : β} :
    ∀ {groups : List (κ × List β)}, p ∈ upsert key (fun members => members.getD [] ++ [value]) groups →
      x ∈ p.2 → x = value ∨ ∃ q ∈ groups, x ∈ q.2
  | [], hp, hx => by
    obtain rfl := List.mem_singleton.mp hp
    exact .inl (List.mem_singleton.mp hx)
  | (k, members) :: rest, hp, hx => by
    unfold upsert at hp
    split at hp
    · rcases List.mem_cons.mp hp with rfl | hp
      · rcases List.mem_append.mp hx with hx | hx
        · exact .inr ⟨_, List.mem_cons_self, hx⟩
        · exact .inl (List.mem_singleton.mp hx)
      · exact .inr ⟨p, List.mem_cons_of_mem _ hp, hx⟩
    · rcases List.mem_cons.mp hp with rfl | hp
      · exact .inr ⟨_, List.mem_cons_self, hx⟩
      · rcases mem_of_mem_upsert hp hx with rfl | ⟨q, hq, hx⟩
        · exact .inl rfl
        · exact .inr ⟨q, List.mem_cons_of_mem _ hq, hx⟩

variable {rows : List QuarantineFields}

variable {encoding : ReplayEncoding}

/-- The groups hold nothing but the rows. -/
theorem mem_of_mem_replayGroups (hgroup : group ∈ replayGroups encoding rows) (hrow : row ∈ group) :
    row ∈ rows := by
  -- The accumulated groups hold rows of the part of the list that was read.
  have hfold : ∀ (rest : List QuarantineFields) (groups : List ((String × String) × List QuarantineFields))
      (p : (String × String) × List QuarantineFields),
      p ∈ rest.foldl (fun groups row => upsert (row.ingressId, row.deviceIntegrationId)
        (fun members => members.getD [] ++ [row]) groups) groups → row ∈ p.2 →
      row ∈ rest ∨ ∃ q ∈ groups, row ∈ q.2 := by
    intro rest
    induction rest with
    | nil => exact fun groups p hp hmem => .inr ⟨p, hp, hmem⟩
    | cons first rest ih =>
      intro groups p hp hmem
      rcases ih _ p hp hmem with hrest | ⟨q, hq, hmem⟩
      · exact .inl (List.mem_cons_of_mem _ hrest)
      · rcases mem_of_mem_upsert hq hmem with rfl | hold
        · exact .inl List.mem_cons_self
        · exact .inr hold
  obtain ⟨p, hp, rfl⟩ := List.mem_map.mp hgroup
  rcases hfold rows [] p (List.mem_mergeSort.mp hp) (List.mem_mergeSort.mp hrow) with hmem | ⟨q, hq, -⟩
  · exact hmem
  · cases hq

/-- The earliest of some times. -/
def earliest (first : Time) (times : List Time) : Time := times.foldl min first

/-- The new envelope of a group, if there is one. -/
def replayEnvelope (encoding : ReplayEncoding) (group : List QuarantineFields) (ingressId : String) :
    Option IngressEnvelope :=
  match group with
  | [] => none
  | first :: rest =>
    (group.mapM fun row => encoding.observationOfJson (row.sourceObservationJson.getD "")).bind
      fun observations => IngressEnvelope.modelValidate
        { ingressId := ingressId
          replayOf := some (first.replayOf.getD first.ingressId)
          tenantId := first.tenantId
          integrationAccountId := first.integrationAccountId
          providerKey := first.providerKey
          externalIdentityHash := first.externalIdentityHash
          deviceIntegrationId := first.deviceIntegrationId
          deviceId := first.deviceId
          sourceType := first.sourceType
          connectorVersion := first.connectorVersion
          receivedAt := earliest first.receivedAt (rest.map (·.receivedAt))
          replay := true
          mappingVersions := first.mappingVersions
          observations := observations }

/-- A replay has the requested id and all observations. -/
theorem replayEnvelope_spec {ingressId : String} {envelope : IngressEnvelope}
    (h : replayEnvelope encoding group ingressId = some envelope) :
    envelope.ingressId = ingressId ∧ ∀ row ∈ group, ∃ observation ∈ envelope.observations,
      encoding.observationOfJson (row.sourceObservationJson.getD "") = some observation := by
  cases group with
  | nil => contradiction
  | cons =>
    obtain ⟨observations, hdecoded, henv⟩ := Option.bind_eq_some_iff.mp h
    have hfields := IngressEnvelope.modelValidate_eq_some henv
    rw [hfields]
    refine ⟨rfl, fun row hrow => ?_⟩
    obtain ⟨observation, hobservation, hmem⟩ := exists_of_mem_mapM_source hdecoded row hrow
    exact ⟨observation, hmem, hobservation⟩

section Commands

variable (encoding : ReplayEncoding) (arguments : CommandArguments)

/-- Move a row and print `done`; an invalid target stops. -/
def moveEntry (row : QuarantineFields) (target : QuarantineEntryStatus)
    (replayedIngressId : Option String) (done : EntryResult) (report : Report) :
    QuarantineProgram Report := do
  let now ← readClock
  match ← transitionQuarantineEntry encoding.toTelemetryEncoding
      { tenantId := arguments.tenantId
        entryKey := row.entryKey
        target := target
        expectedVersion := row.version
        at_ := now
        replayedIngressId := replayedIngressId } with
  | .ok () => pure (report.record row.entryKey done)
  | .error .unavailable => pure (report.record row.entryKey (.failed .storeUnavailable))
  | .error .invalid => pure (report.stop .unexpected)
  | .error _ => pure (report.record row.entryKey (.failed .conflict))

/-- Move rows one after another until the command stops. -/
def moveEntries (target : QuarantineEntryStatus) (replayedIngressId : Option String)
    (done : EntryResult) : List QuarantineFields → Report → QuarantineProgram Report
  | [], report => pure report
  | row :: rows, report => do
    let report ← moveEntry encoding arguments row target replayedIngressId done report
    if report.error.isSome then pure report
    else moveEntries target replayedIngressId done rows report

/-- Send the envelope of one group, then mark its rows. -/
def replayGroup (group : List QuarantineFields) (report : Report) : QuarantineProgram Report :=
  let ingressId := encoding.replayIngressId (group.map (·.entryKey))
  match replayEnvelope encoding group ingressId with
  | none => pure (report.recordAll group (.skipped .invalidEnvelope))
  | some envelope =>
    if !arguments.apply then pure (report.recordAll group (.wouldReplay ingressId))
    else do
      match ← (Program.perform (QuarantineOp.send envelope) : QuarantineProgram SendReply) with
      | .failed => pure (report.recordAll group (.failed .sendFailed))
      | .sent =>
        moveEntries encoding arguments .replayed (some ingressId) (.replayed ingressId) group
          { report with sentKeys := report.sentKeys ++ group.map (·.entryKey) }

/-- The groups in order. -/
def replayAll : List (List QuarantineFields) → Report → QuarantineProgram Report
  | [], report => pure report
  | group :: groups, report => do
    let report ← replayGroup encoding arguments group report
    if report.error.isSome then pure report else replayAll groups report

/-- `replay`; `configured` if there is a queue. -/
def replay (configured : Bool) : QuarantineProgram Report :=
  if arguments.apply && !configured then
    pure { error := some .queueNotConfigured }
  else do
    let (rows, report) ← readOpen arguments.tenantId arguments.entries.eraseDups {}
    match rows with
    | none => pure report
    | some rows =>
      replayAll encoding arguments (replayGroups encoding (rows.filter (·.replayable)))
        (report.recordAll (rows.filter (!·.replayable)) (.skipped .notReplayable))

/-- The `dismiss` command. -/
def dismiss : QuarantineProgram Report := do
  let (rows, report) ← readOpen arguments.tenantId arguments.entries.eraseDups {}
  match rows with
  | none => pure report
  | some rows =>
    if arguments.apply then
      moveEntries encoding arguments .dismissed none .dismissed rows report
    else pure (report.recordAll rows .wouldDismiss)

end Commands

/-! ## What commands report -/

/-- Lines are only added, and keys sent for some rows. -/
structure Report.Extends (report report' : Report) (rows : List QuarantineFields) : Prop where
  lines : ∀ line ∈ report.lines, line ∈ report'.lines
  sentKeys : ∀ key ∈ report'.sentKeys, key ∈ report.sentKeys ∨ ∃ row ∈ rows, row.entryKey = key

namespace Report.Extends

variable {report report' report'' : Report} {rows : List QuarantineFields}

theorem refl (report : Report) (rows : List QuarantineFields) : report.Extends report rows :=
  ⟨fun _ h => h, fun _ h => .inl h⟩

theorem trans (h : report.Extends report' rows) (h' : report'.Extends report'' rows) :
    report.Extends report'' rows where
  lines line hline := h'.lines line (h.lines line hline)
  sentKeys key hkey := by
    rcases h'.sentKeys key hkey with hkey | hrow
    · exact h.sentKeys key hkey
    · exact .inr hrow

/-- A line more. -/
theorem record (key : EntryKey) (result : EntryResult) :
    report.Extends (report.record key result) rows :=
  ⟨fun _ h => List.mem_append_left _ h, fun _ h => .inl h⟩

/-- A line for each row. -/
theorem recordAll (group : List QuarantineFields) (result : EntryResult) :
    report.Extends (report.recordAll group result) rows :=
  ⟨fun _ h => List.mem_append_left _ h, fun _ h => .inl h⟩

theorem stop (error : CommandError) : report.Extends (report.stop error) rows :=
  ⟨fun _ h => h, fun _ h => .inl h⟩

end Report.Extends

section Returns

variable {encoding : ReplayEncoding} {arguments : CommandArguments}

/-- Reading sends nothing. -/
theorem readOpen_returns {tenantId : String} :
    ∀ (keys : List EntryKey) (report : Report),
      (readOpen tenantId keys report).Returns fun result => result.2.sentKeys = report.sentKeys
  | [], _ => rfl
  | key :: keys, report => by
    refine Program.Returns.bind (Program.Returns.trivial _) fun result _ => ?_
    match result with
    | none => exact rfl
    | some none => exact readOpen_returns keys (report.record key _)
    | some (some row) =>
      dsimp only
      split
      · exact readOpen_returns keys (report.record key _)
      · exact Program.Returns.bind (readOpen_returns keys report) fun _ h => h

variable {done : EntryResult} {report : Report}

/-- A move extends the report. -/
theorem moveEntry_returns (rows : List QuarantineFields) :
    (moveEntry encoding arguments row target replayedIngressId done report).Returns
      (fun report' => report.Extends report' rows) := by
  refine Program.Returns.bind (Program.Returns.trivial readClock) fun now _ => ?_
  refine Program.Returns.bind (Program.Returns.trivial _) fun result _ => ?_
  match result with
  | .error .invalid => exact Report.Extends.stop _
  | .ok () | .error .unavailable | .error .notFound | .error .terminal
  | .error .versionConflict => exact Report.Extends.record _ _

theorem moveEntries_returns (rows : List QuarantineFields) :
    ∀ {group : List QuarantineFields} {report : Report},
      (moveEntries encoding arguments target replayedIngressId done group report).Returns
        (fun report' => report.Extends report' rows)
  | [], report => Report.Extends.refl report rows
  | row :: group, report => by
    refine Program.Returns.bind (moveEntry_returns rows) fun report' hextends => ?_
    split
    · exact hextends
    · exact Program.Returns.mono (fun _ h => hextends.trans h) (moveEntries_returns rows)

theorem replayGroup_returns (hgroup : ∀ row ∈ group, row ∈ rows) :
    (replayGroup encoding arguments group report).Returns
      (fun report' => report.Extends report' rows) := by
  unfold replayGroup
  dsimp only
  split
  · exact Report.Extends.recordAll _ _
  · split
    · exact Report.Extends.recordAll _ _
    · intro reply
      match reply with
      | .failed => exact Report.Extends.recordAll _ _
      | .sent =>
        have hsent : report.Extends
            { report with sentKeys := report.sentKeys ++ group.map (·.entryKey) } rows := by
          refine ⟨fun _ h => h, fun key hkey => ?_⟩
          rcases List.mem_append.mp hkey with hkey | hkey
          · exact .inl hkey
          · obtain ⟨row, hrow, rfl⟩ := List.mem_map.mp hkey
            exact .inr ⟨row, hgroup row hrow, rfl⟩
        exact Program.Returns.mono (fun _ h => hsent.trans h) (moveEntries_returns rows)

theorem replayAll_returns :
    ∀ {groups : List (List QuarantineFields)} {report : Report},
      (∀ group ∈ groups, ∀ row ∈ group, row ∈ rows) →
      (replayAll encoding arguments groups report).Returns
        (fun report' => report.Extends report' rows)
  | [], report, _ => Report.Extends.refl report rows
  | group :: groups, report, hgroups => by
    refine Program.Returns.bind (replayGroup_returns (hgroups group List.mem_cons_self))
      fun report' hextends => ?_
    split
    · exact hextends
    · exact Program.Returns.mono (fun _ h => hextends.trans h)
        (replayAll_returns fun other hother => hgroups other (List.mem_cons_of_mem _ hother))

end Returns

end LimnoPulse.Ingestion
