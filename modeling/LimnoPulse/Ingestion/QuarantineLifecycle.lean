import LimnoPulse.Ingestion.QuarantineCommands
import LimnoPulse.Ingestion.Redelivery

/-!
# The life of a quarantine row

Workers create rows, more than once for a redelivered message, and operators replay
and dismiss them, all at the same time.  A row is created open, its version fences
its one transition, and a replay marks it only after its envelope was sent.

Main results:

- Theorem `quarantineExec_step`: what one justified operation does to the rows.
- Theorem `quarantine_lifecycle`: rows in every interleaving of workers,
  transitions and commands.
-/

namespace LimnoPulse.Ingestion

open StoreProgram

variable {row : QuarantineFields} {ingressId tenantId : String} {arguments : CommandArguments}
  {report : Report} {configured : Bool} {s t : QuarantineStore} {key : RowKey}

/-- Puts of a message's rows, commands, and other transitions. -/
inductive QuarantineCall where
  | putOutcome (envelope : IngressEnvelope) (quarantined : List QuarantinedObservation) (now : Time)
  | putFence (envelope : IngressEnvelope) (fence : IngressFence) (now : Time)
  | transition (arguments : TransitionArguments)
  | replay (arguments : CommandArguments) (configured : Bool)
  | dismiss (arguments : CommandArguments)

/-- What a call returns. -/
inductive QuarantineResult where
  | put (result : Except Failure Unit)
  | transition (result : Except TransitionError Unit)
  | report (report : Report)

/-- The rows of a message, as operations of the system. -/
def putRows (rows : Option (List QuarantineFields)) : QuarantineProgram QuarantineResult :=
  ((orRaise rows).andThen putQuarantineEntries).embed QuarantineOp.worker (fun _ reply => reply)
    >>= fun result => pure (.put result)

/-- The program of a call. -/
def QuarantineCall.body (encoding : ReplayEncoding) :
    QuarantineCall → QuarantineProgram QuarantineResult
  | .putOutcome envelope quarantined now =>
    putRows (outcomeRows encoding.toTelemetryEncoding envelope quarantined now)
  | .putFence envelope fence now =>
    -- An unverified fence writes nothing.
    putRows (if fence.accountVerified then
      fencedRows encoding.toTelemetryEncoding envelope fence now else some [])
  | .transition arguments => do
    let result ← transitionQuarantineEntry encoding.toTelemetryEncoding arguments
    pure (.transition result)
  | .replay arguments configured => do
    let report ← LimnoPulse.Ingestion.replay encoding arguments configured
    pure (.report report)
  | .dismiss arguments => do
    let report ← LimnoPulse.Ingestion.dismiss encoding arguments
    pure (.report report)

/-- Other transitions record one of the `direct` ids. -/
def quarantineMachine (encoding : ReplayEncoding) (direct : List String) :
    Machine QuarantineStore QuarantineOutcome QuarantineCall QuarantineResult QuarantineOp
      QuarantineReply where
  exec := quarantineExec
  body := QuarantineCall.body encoding
  admits
    | .transition arguments, _ => arguments.target ≠ .replayed ||
        arguments.replayedIngressId.all (direct.contains ·)
    | _, _ => true

/-! ## The invariant -/

/-- The observation of a row was sent under an id. -/
def SentFor (encoding : TelemetryEncoding) (s : QuarantineStore) (row : QuarantineFields)
    (ingressId : String) : Prop :=
  ∃ envelope ∈ s.sent, envelope.ingressId = ingressId ∧ ∃ observation ∈ envelope.observations,
    encoding.observationOfJson (row.sourceObservationJson.getD "") = some observation

/-- Rows are under their keys, versions say what is open, and replayed rows name an envelope with
their observation. -/
structure RowsSound (encoding : TelemetryEncoding) (direct : List String) (s : QuarantineStore) :
    Prop where
  keyed : ∀ {key row}, s.rows key = some row → row.rowKey = key
  version : ∀ {key row}, s.rows key = some row →
    row.version = if row.status = .opened then 1 else 2
  recorded : ∀ {key row}, s.rows key = some row → row.status = .replayed →
    ∃ ingressId, row.replayedIngressId = some ingressId ∧
      (ingressId ∈ direct ∨ SentFor encoding s row ingressId)

/-- A row is created open, or leaves open once. -/
inductive RowChange (key : RowKey) (before after : Option QuarantineFields) : Prop where
  | same (h : after = before)
  | created (row : QuarantineFields) (hbefore : before = none) (hafter : after = some row)
      (hkey : row.rowKey = key) (hopen : row.status = .opened) (hversion : row.version = 1)
  | departed (row : QuarantineFields) (update : StatusUpdate) (hbefore : before = some row)
      (hopen : row.status = .opened)
      (hstatus : update.status = .replayed ∨ update.status = .dismissed)
      (hversion : update.nextVersion = row.version + 1) (hafter : after = some (update.apply row))

/-- Each row changes at most so. -/
def RowStep (s t : QuarantineStore) : Prop := ∀ key, RowChange key (s.rows key) (t.rows key)

/-- What every operation guarantees. -/
structure QuarantineGuarantee (s t : QuarantineStore) : Prop where
  rows : RowStep s t
  sent : ∀ envelope ∈ s.sent, envelope ∈ t.sent

/-- Envelopes stay sent, and rows stay with their texts. -/
structure LaterQuarantine (s t : QuarantineStore) : Prop where
  sent : ∀ envelope ∈ s.sent, envelope ∈ t.sent
  texts : ∀ key row, s.rows key = some row →
    ∃ row', t.rows key = some row' ∧ row'.sourceObservationJson = row.sourceObservationJson

theorem LaterQuarantine.refl (s : QuarantineStore) : LaterQuarantine s s :=
  ⟨fun _ h => h, fun _ row h => ⟨row, h, rfl⟩⟩

theorem LaterQuarantine.trans {u : QuarantineStore} (h : LaterQuarantine s t)
    (h' : LaterQuarantine t u) : LaterQuarantine s u where
  sent envelope henv := h'.sent envelope (h.sent envelope henv)
  texts key row hrow := by
    obtain ⟨row', hrow', htext⟩ := h.texts key row hrow
    obtain ⟨row'', hrow'', htext'⟩ := h'.texts key row' hrow'
    exact ⟨row'', hrow'', htext'.trans htext⟩

/-- Rows keep their texts. -/
theorem RowStep.texts (h : RowStep s t) (key : RowKey)
    (row : QuarantineFields) (hrow : s.rows key = some row) :
    ∃ row', t.rows key = some row' ∧ row'.sourceObservationJson = row.sourceObservationJson := by
  rcases h key with hsame | ⟨_, hbefore⟩ | ⟨old, update, hbefore, -, -, -, hafter⟩
  · exact ⟨row, hsame.trans hrow, rfl⟩
  · rw [hrow] at hbefore
    contradiction
  · rw [hrow] at hbefore
    cases hbefore
    exact ⟨_, hafter, rfl⟩

/-- What the sender of an operation has to know. -/
def QuarantineOp.Justified (encoding : TelemetryEncoding) (direct : List String) :
    QuarantineOp → QuarantineStore → Prop
  | .worker (.putRow row), _ => row.status = .opened ∧ row.version = 1
  | .worker .raised, _ => True
  | .worker _, _ => False
  | .updateStatus request, s =>
    request.expectedVersion = 1 ∧ request.nextVersion = 2 ∧
      (request.status = .replayed ∨ request.status = .dismissed) ∧
      (request.status = .replayed → ∃ ingressId, request.replayedIngressId = some ingressId ∧
        (ingressId ∈ direct ∨ ∀ row, s.rows request.key = some row →
          SentFor encoding s row ingressId))
  | _, _ => True

/-! ## One operation -/

section Step

variable {encoding : TelemetryEncoding} {direct : List String} {s t : QuarantineStore}

/-- What was sent stays sent. -/
theorem SentFor.later {row' : QuarantineFields} (h : SentFor encoding s row ingressId)
    (hsent : s.sent ⊆ t.sent) (htext : row'.sourceObservationJson = row.sourceObservationJson) :
    SentFor encoding t row' ingressId := by
  obtain ⟨envelope, henv, hid, observation, hmem, hdec⟩ := h
  exact ⟨envelope, hsent henv, hid, observation, hmem, by rw [htext]; exact hdec⟩

/-- A table without rows is sound. -/
theorem RowsSound.of_empty (hs : ∀ key, s.rows key = none) : RowsSound encoding direct s where
  keyed h := by simp [hs] at h
  version h := by simp [hs] at h
  recorded h := by simp [hs] at h

/-- The rows are untouched. -/
theorem RowsSound.of_rows_eq (hs : RowsSound encoding direct s) (hrows : t.rows = s.rows)
    (hsent : s.sent ⊆ t.sent) : RowsSound encoding direct t where
  keyed h := hs.keyed (hrows ▸ h)
  version h := hs.version (hrows ▸ h)
  recorded h hstat := by
    obtain ⟨ingressId, hid, hfrom⟩ := hs.recorded (hrows ▸ h) hstat
    exact ⟨ingressId, hid, hfrom.imp_right (·.later hsent rfl)⟩

/-- No row changes. -/
theorem RowStep.of_rows_eq (hrows : t.rows = s.rows) : RowStep s t := fun _ =>
  .same (congrFun hrows _)

/-- One row is written; it has to be sound itself. -/
theorem RowsSound.set (hs : RowsSound encoding direct s)
    (hrows : t.rows = Function.update s.rows key (some row))
    (hsent : s.sent ⊆ t.sent) (hkey : row.rowKey = key)
    (hver : row.version = if row.status = .opened then 1 else 2)
    (hrecorded : row.status = .replayed → ∃ ingressId, row.replayedIngressId = some ingressId ∧
      (ingressId ∈ direct ∨ SentFor encoding t row ingressId)) : RowsSound encoding direct t := by
  have hcases : ∀ {key' row'}, t.rows key' = some row' →
      (key' = key ∧ row' = row) ∨ s.rows key' = some row' :=
    fun h => (eq_some_of_update hrows h).imp_right And.right
  refine ⟨fun h => ?_, fun h => ?_, fun h hstat => ?_⟩
  · rcases hcases h with ⟨rfl, rfl⟩ | hold
    · exact hkey
    · exact hs.keyed hold
  · rcases hcases h with ⟨rfl, rfl⟩ | hold
    · exact hver
    · exact hs.version hold
  · rcases hcases h with ⟨rfl, rfl⟩ | hold
    · exact hrecorded hstat
    · obtain ⟨ingressId, hid, hfrom⟩ := hs.recorded hold hstat
      exact ⟨ingressId, hid, hfrom.imp_right (·.later hsent rfl)⟩

/-- One row changes. -/
theorem RowStep.set (hrows : t.rows = Function.update s.rows key (some row))
    (hchange : RowChange key (s.rows key) (some row)) : RowStep s t := by
  intro key'
  rw [hrows]
  by_cases hkey : key' = key
  · rw [hkey, Function.update_self]
    exact hchange
  · rw [Function.update_of_ne hkey]
    exact .same rfl

/-- A put creates a row, or finds one and leaves it alone. -/
theorem putRow_step {telemetry : TelemetryStore} (hs : RowsSound encoding direct s)
    (hopen : row.status = .opened) (hver : row.version = 1)
    (h : s.telemetry.putRow row = some telemetry) :
    RowsSound encoding direct { s with telemetry := telemetry } ∧
      RowStep s { s with telemetry := telemetry } := by
  unfold TelemetryStore.putRow at h
  split at h
  · next habsent =>
    cases h
    refine ⟨hs.set rfl (fun _ h => h) rfl ?_ ?_, RowStep.set rfl ?_⟩
    · rw [hver, hopen, if_pos rfl]
    · intro hstat
      rw [hopen] at hstat
      contradiction
    · exact .created row (Option.isNone_iff_eq_none.mp habsent) rfl rfl hopen hver
  · contradiction

/-- A justified update takes an open row out of open. -/
theorem update_step {request : StatusUpdate} (hs : RowsSound encoding direct s)
    (hop : (QuarantineOp.updateStatus request).Justified encoding direct s)
    (h : s.update request = some t) :
    RowsSound encoding direct t ∧ QuarantineGuarantee s t := by
  obtain ⟨hexpected, hnext, hstat, hreplayed⟩ := hop
  unfold QuarantineStore.update at h
  split at h
  · contradiction
  · next row hrow =>
    split at h
    · next hmatch =>
      cases h
      have hopen : row.status = .opened := by
        by_contra hclosed
        have hver := hs.version hrow
        rw [if_neg hclosed, hmatch, hexpected] at hver
        contradiction
      have hclosed : request.status ≠ .opened := by
        rcases hstat with h | h <;> simp [h]
      have hkey : row.rowKey = request.key := hs.keyed hrow
      refine ⟨hs.set rfl (fun _ h => h) hkey ?_ ?_, RowStep.set rfl ?_, fun _ h => h⟩
      · simp [StatusUpdate.apply, hclosed, hnext]
      · intro hmarked
        obtain ⟨ingressId, hid, hfrom⟩ := hreplayed hmarked
        exact ⟨ingressId, by simp [StatusUpdate.apply, hid],
          hfrom.imp_right fun hfor => (hfor row hrow).later (fun _ h => h) rfl⟩
      · exact .departed row request hrow hopen hstat (by omega) rfl
    · contradiction

/-- What a justified operation does to the rows. -/
theorem quarantineExec_step {op : QuarantineOp} {outcome : QuarantineOutcome}
    {reply : QuarantineReply op} (hs : RowsSound encoding direct s)
    (hop : op.Justified encoding direct s) (h : quarantineExec op outcome s = some (reply, t)) :
    RowsSound encoding direct t ∧ QuarantineGuarantee s t := by
  have hsame : RowsSound encoding direct s ∧ QuarantineGuarantee s s :=
    ⟨hs, RowStep.of_rows_eq rfl, fun _ h => h⟩
  cases op with
  | worker op =>
    obtain ⟨⟨reply', telemetry⟩, hexec, hres⟩ := Option.map_eq_some_iff.mp h
    cases hres
    cases op with
    | putRow =>
      rcases attempt_cases (Option.some.inj hexec) with ⟨rfl, -, -⟩ | ⟨hput, -⟩
      · exact hsame
      · obtain ⟨ht, hstep⟩ := putRow_step hs hop.1 hop.2 hput
        exact ⟨ht, hstep, fun _ h => h⟩
    | raised =>
      cases hexec
      exact hsame
    | _ => exact hop.elim
  | getEntry =>
    cases h
    exact hsame
  | updateStatus =>
    rcases attempt_cases (Option.some.inj h) with ⟨rfl, -, -⟩ | ⟨hupdate, -⟩
    · exact hsame
    · exact update_step hs hop hupdate
  | send envelope =>
    have hmore : ∀ other ∈ s.sent, other ∈ envelope :: s.sent := fun _ h => List.mem_cons_of_mem _ h
    simp only [quarantineExec] at h
    split at h <;> cases h
    · exact ⟨hs.of_rows_eq rfl hmore, RowStep.of_rows_eq rfl, hmore⟩
    · exact hsame
    · exact ⟨hs.of_rows_eq rfl hmore, RowStep.of_rows_eq rfl, hmore⟩
  | clock =>
    cases h
    exact hsame

end Step

/-! ## Sends before marks -/

section Sound

variable {encoding : ReplayEncoding} {direct : List String}

theorem quarantine_environment : Environment LaterQuarantine QuarantineGuarantee where
  refl := LaterQuarantine.refl
  trans _ _ _ := LaterQuarantine.trans
  same _ := ⟨RowStep.of_rows_eq rfl, fun _ h => h⟩

/-- Justified operations keep the rows sound. -/
theorem quarantine_kept (encoding : TelemetryEncoding) (direct : List String) :
    Kept quarantineExec (fun _ _ _ => True) (fun op s => op.Justified encoding direct s)
      (RowsSound encoding direct) LaterQuarantine QuarantineGuarantee where
  trans := quarantine_environment.trans
  rely_of_guarantee _ _ h := ⟨h.sent, h.rows.texts⟩
  step _ _ _ _ _ hs hop _ hexec := quarantineExec_step hs hop hexec

/-- Safety against workers and other commands. -/
abbrev SafeQuarantine (encoding : ReplayEncoding) (direct : List String) {α : Type}
    (p : QuarantineProgram α) (post : α → QuarantineStore → Prop) (s : QuarantineStore) : Prop :=
  p.Safe quarantineExec (fun _ _ _ => True) (RowsSound encoding.toTelemetryEncoding direct)
    LaterQuarantine QuarantineGuarantee post s

/-- The id may be recorded from now on. -/
def Recordable (encoding : ReplayEncoding) (direct : List String) (key : RowKey)
    (ingressId : String) (s : QuarantineStore) : Prop :=
  ingressId ∈ direct ∨ ∃ row, s.rows key = some row ∧
    SentFor encoding.toTelemetryEncoding s row ingressId

/-- An id stays recordable. -/
theorem Recordable.later
    (h : Recordable encoding direct key ingressId s) (hlater : LaterQuarantine s t) :
    Recordable encoding direct key ingressId t := by
  rcases h with hdirect | ⟨row, hrow, hfor⟩
  · exact .inl hdirect
  · obtain ⟨row', hrow', htext⟩ := hlater.texts key row hrow
    exact .inr ⟨row', hrow', hfor.later hlater.sent htext⟩

/-- A transition is justified by the row it read. -/
theorem transition_sound {arguments : TransitionArguments}
    (hrecordable : ∀ ingressId, arguments.target = .replayed →
      arguments.replayedIngressId = some ingressId →
      Recordable encoding direct arguments.update.key ingressId s) :
    SafeQuarantine encoding direct
      (transitionQuarantineEntry encoding.toTelemetryEncoding arguments)
      (fun _ t => LaterQuarantine s t) s := by
  refine transition_safe quarantine_environment (fun _ _ h => h) ?_
  rintro row u t ⟨u', hsu', hu'u, hu', hrow⟩ hopen hver htarget hpaired hut ht choice reply v
    hguard hexec
  have hst : LaterQuarantine s t := (hsu'.trans hu'u).trans hut
  have hone : arguments.expectedVersion = 1 := by
    rw [← hver, hu'.version hrow, if_pos hopen]
  have hjust : (QuarantineOp.updateStatus arguments.update).Justified
      encoding.toTelemetryEncoding direct t := by
    refine ⟨hone, by simp [TransitionArguments.update, hone], ?_, fun hreplayed => ?_⟩
    · show arguments.target = .replayed ∨ arguments.target = .dismissed
      cases htarget' : arguments.target <;> simp_all
    · obtain ⟨ingressId, hid⟩ := Option.isSome_iff_exists.mp (hpaired.mp hreplayed)
      refine ⟨ingressId, hid, ?_⟩
      rcases (hrecordable ingressId hreplayed hid).later hst with hdirect | ⟨stored, hstored, hfor⟩
      · exact .inl hdirect
      · refine .inr fun other hother => ?_
        rw [hstored] at hother
        cases hother
        exact hfor
  obtain ⟨hv, hguar⟩ := (quarantine_kept encoding.toTelemetryEncoding direct).step _ choice t
    reply v ht hjust hguard hexec
  have htv : LaterQuarantine t v := ⟨hguar.sent, hguar.rows.texts⟩
  exact ⟨hv, hguar, fun _ => hst.trans htv, fun _ _ => hst.trans htv⟩

/-- A move is justified by what the others keep. -/
theorem moveEntry_sound {target : QuarantineEntryStatus} {replayedIngressId : Option String}
    {done : EntryResult} {K : QuarantineStore → Prop}
    (hstable : ∀ s t, K s → LaterQuarantine s t → K t)
    (hrecordable : ∀ s ingressId, K s → target = .replayed → replayedIngressId = some ingressId →
      Recordable encoding direct (arguments.tenantId, row.entryKey) ingressId s) (hK : K s) :
    SafeQuarantine encoding direct
      (moveEntry encoding arguments row target replayedIngressId done report) (fun _ t => K t) s := by
  refine readClock_safe quarantine_environment fun now t hst _ => ?_
  have ht := hstable s t hK hst
  refine Program.Safe.bind (transition_sound fun ingressId htarget hid =>
    hrecordable t ingressId ht htarget hid) ?_
  intro result u htu
  have hu := hstable t u ht htu
  match result with
  | .ok () | .error .unavailable | .error .invalid | .error .notFound | .error .terminal
  | .error .versionConflict => exact hu

/-- A row is stored with the text it was read with. -/
def Stored (tenantId : String) (row : QuarantineFields) (s : QuarantineStore) : Prop :=
  ∃ stored, s.rows (tenantId, row.entryKey) = some stored ∧
    stored.sourceObservationJson = row.sourceObservationJson

/-- A stored row stays there. -/
theorem Stored.later (h : Stored tenantId row s)
    (hlater : LaterQuarantine s t) : Stored tenantId row t := by
  obtain ⟨stored, hstored, htext⟩ := h
  obtain ⟨stored', hstored', htext'⟩ := hlater.texts _ stored hstored
  exact ⟨stored', hstored', htext'.trans htext⟩

/-- A group is marked only after its envelope was sent. -/
theorem replayGroup_sound {group : List QuarantineFields}
    (hstored : ∀ row ∈ group, Stored arguments.tenantId row s) :
    SafeQuarantine encoding direct (replayGroup encoding arguments group report)
      (fun _ t => LaterQuarantine s t) s := by
  unfold replayGroup
  dsimp only
  split
  · exact LaterQuarantine.refl s
  · next envelope henv =>
    obtain ⟨hid, hobservations⟩ := replayEnvelope_spec henv
    split
    · exact LaterQuarantine.refl s
    · refine (quarantine_kept encoding.toTelemetryEncoding direct).safe_call (fun _ _ _ => trivial) ?_
      intro t outcome reply u hst ht hexec hu hsu
      match reply with
      | .failed => exact hsu
      | .sent =>
        have hsent : envelope ∈ u.sent := by
          simp only [quarantineExec] at hexec
          split at hexec <;> cases hexec
          exact List.mem_cons_self
        refine Program.Safe.mono (fun _ _ h => h.1) (loop_safe (fun _ => rfl) (fun _ _ _ => rfl)
          (P := fun _ t => LaterQuarantine s t ∧ envelope ∈ t.sent) ?_ ⟨hsu, hsent⟩)
        intro row hrow report v hv
        refine moveEntry_sound (fun v v' hK hlater => ⟨hK.1.trans hlater, hlater.sent _ hK.2⟩) ?_ hv
        rintro v ingressId ⟨hsv, hsent⟩ - hsome
        obtain ⟨stored, hstored, htext⟩ := (hstored row hrow).later hsv
        obtain ⟨observation, hmem, hdec⟩ := hobservations row hrow
        refine .inr ⟨stored, hstored, envelope, hsent, hid.trans (Option.some.inj hsome), observation,
          hmem, ?_⟩
        rw [htext]
        exact hdec

/-- The open rows of a command are stored. -/
theorem readOpen_sound (keys : List EntryKey) (report : Report)
    (hs : RowsSound encoding.toTelemetryEncoding direct s) :
    SafeQuarantine encoding direct (readOpen tenantId keys report)
      (fun result t => ∀ rows, result.1 = some rows → ∀ row ∈ rows, Stored tenantId row t) s := by
  refine Program.Safe.mono (fun _ _ h => h.2.2) (readOpen_safe (Q := Stored tenantId)
    quarantine_environment (fun row s t h hst _ => h.later hst) ?_ keys report s hs)
  intro key row s hs hrow htenant _
  have hkey : row.rowKey = (tenantId, key) := hs.keyed hrow
  have hentry : row.entryKey = key := congrArg Prod.snd hkey
  exact ⟨row, by rw [hentry]; exact hrow, rfl⟩

/-- Replays are justified. -/
theorem replay_sound (hs : RowsSound encoding.toTelemetryEncoding direct s) :
    SafeQuarantine encoding direct (replay encoding arguments configured) (fun _ _ => True) s := by
  unfold replay
  split
  · trivial
  · refine Program.Safe.bind (readOpen_sound _ _ hs) ?_
    rintro ⟨rows, report⟩ t hrows
    match rows with
    | none => trivial
    | some rows =>
      refine Program.Safe.mono (fun _ _ _ => trivial) (loop_safe (fun _ => rfl) (fun _ _ _ => rfl)
        (P := fun _ u => ∀ row ∈ rows, Stored arguments.tenantId row u) ?_ (hrows rows rfl))
      intro group hgroup report u hstored
      have hmem : ∀ row ∈ group, row ∈ rows := fun row hrow =>
        List.mem_of_mem_filter (mem_of_mem_replayGroups hgroup hrow)
      refine Program.Safe.mono (fun _ v huv row hrow => (hstored row hrow).later huv)
        (replayGroup_sound fun row hrow => hstored row (hmem row hrow))

theorem dismiss_sound (hs : RowsSound encoding.toTelemetryEncoding direct s) :
    SafeQuarantine encoding direct (dismiss encoding arguments) (fun _ _ => True) s := by
  refine Program.Safe.bind (readOpen_sound _ _ hs) ?_
  rintro ⟨rows, report⟩ t -
  match rows with
  | none => trivial
  | some rows =>
    dsimp only
    split
    · refine loop_safe (fun _ => rfl) (fun _ _ _ => rfl) (fun row hrow report u _ => ?_) trivial
      exact moveEntry_sound (fun _ _ _ _ => trivial) (by simp) trivial
    · trivial

/-- Rows that are created are open. -/
theorem putQuarantineEntries_performs :
    ∀ {rows : List QuarantineFields}, (∀ row ∈ rows, row.status = .opened ∧ row.version = 1) →
      (putQuarantineEntries rows).Performs fun op =>
        ∀ s, (QuarantineOp.worker op).Justified encoding.toTelemetryEncoding direct s
  | [], _ => trivial
  | row :: rows, hrows => by
    refine ⟨fun _ => hrows row List.mem_cons_self, fun reply => ?_⟩
    match reply with
    | .unavailable => exact ⟨fun _ => trivial, fun _ => trivial⟩
    | .committed | .conflict =>
      exact putQuarantineEntries_performs fun other hother =>
        hrows other (List.mem_cons_of_mem _ hother)

theorem putRows_sound {rows : Option (List QuarantineFields)}
    (hrows : ∀ list, rows = some list → ∀ row ∈ list, row.status = .opened ∧ row.version = 1)
    (s : QuarantineStore) :
    SafeQuarantine encoding direct (putRows rows) (fun _ _ => True) s := by
  have hperf : ((orRaise rows).andThen putQuarantineEntries).Performs fun op =>
      ∀ s, (QuarantineOp.worker op).Justified encoding.toTelemetryEncoding direct s := by
    cases rows with
    | none => trivial
    | some list => exact putQuarantineEntries_performs (hrows list rfl)
  refine Program.Safe.mono (fun _ _ _ => trivial)
    ((quarantine_kept encoding.toTelemetryEncoding direct).safe_of_returns
      (Program.Performs.map _ hperf.embed) (Program.Returns.trivial _) (LaterQuarantine.refl s))

/-- Every call keeps the invariant. -/
theorem quarantine_contract (encoding : ReplayEncoding) (direct : List String) :
    Contract (quarantineMachine encoding direct) (fun _ _ _ => True)
      (RowsSound encoding.toTelemetryEncoding direct) LaterQuarantine QuarantineGuarantee
      (fun _ _ _ => True) where
  rely_refl := LaterQuarantine.refl
  rely_trans := quarantine_environment.trans
  guarantee_refl := quarantine_environment.same
  guarantee_rely h := ⟨h.sent, h.rows.texts⟩
  post_stable _ _ _ _ _ _ _ := trivial
  body_safe {c s} hs hadmits := by
    cases c with
    | putOutcome => exact putRows_sound (fun _ h => outcomeRows_open h) s
    | putFence =>
      refine putRows_sound (fun rows hrows => ?_) s
      split at hrows
      · exact fencedRows_open hrows
      · cases hrows
        exact fun _ hrow => by cases hrow
    | transition =>
      refine Program.Safe.bind (transition_sound fun ingressId htarget hid => .inl ?_)
        fun _ _ _ => trivial
      simpa [quarantineMachine, htarget, hid] using hadmits
    | replay => exact Program.Safe.bind (replay_sound hs) fun _ _ _ => trivial
    | dismiss => exact Program.Safe.bind (dismiss_sound hs) fun _ _ _ => trivial

end Sound

/-! ## Rows that stay open -/

section Follow

variable {encoding : ReplayEncoding} {direct : List String} {key : RowKey} {s t : QuarantineStore}

/-- The row of a key is open. -/
def OpenAt (key : RowKey) (s : QuarantineStore) : Prop :=
  ∃ row, s.rows key = some row ∧ row.status = .opened

/-- The row of a key is not taken out of open. -/
def KeepsOpen (key : RowKey) (s t : QuarantineStore) : Prop := OpenAt key s → OpenAt key t

/-- Every row is stored under its key. -/
def Keyed (s : QuarantineStore) : Prop := ∀ key row, s.rows key = some row → row.rowKey = key

/-- Rows stay under their keys. -/
theorem RowStep.keyed (h : RowStep s t) (hs : Keyed s) : Keyed t := by
  intro key row hrow
  rcases h key with hsame | ⟨new, -, hafter, hkey⟩ | ⟨old, update, hbefore, -, -, -, hafter⟩
  · exact hs key row (hsame.symm.trans hrow)
  · rw [hrow] at hafter
    cases hafter
    exact hkey
  · rw [hrow] at hafter
    cases hafter
    exact hs key old hbefore

/-- The other processes keep the row open. -/
theorem open_environment (key : RowKey) : Environment (KeepsOpen key) (fun _ _ => True) where
  refl _ := id
  trans _ _ _ h h' := h' ∘ h
  same _ := trivial

/-- No update whose answer is lost takes the row out of open. -/
def UpdateAnswered (key : RowKey) (outcome : QuarantineOutcome) (s t : QuarantineStore) : Prop :=
  outcome.fault = .answerLost → KeepsOpen key s t

/-- Safety while nobody else, and no lost update, closes the row. -/
abbrev SafeOpen (encoding : ReplayEncoding) (direct : List String) (key : RowKey) {α : Type}
    (p : QuarantineProgram α) (post : α → QuarantineStore → Prop) (s : QuarantineStore) : Prop :=
  p.Safe quarantineExec (expected (quarantineMachine encoding direct) Keyed (UpdateAnswered key)) Keyed
    (KeepsOpen key) (fun _ _ => True) post s

/-- A program with nothing to say about the row. -/
theorem SafeOpen.of_returns {α : Type} {p : QuarantineProgram α} {P : α → Prop} (h : p.Returns P)
    (s : QuarantineStore) : SafeOpen encoding direct key p (fun result _ => P result) s := by
  have hsafe : SafeOpen encoding direct key p (fun _ _ => True) s :=
    Program.Safe.of_exec (fun op choice t reply u _ hguard hexec =>
      ⟨(hguard reply u hexec).1, trivial⟩) (fun _ _ => trivial) p s
  exact Program.Safe.mono (fun _ _ h => h.2) (hsafe.and_returns h)

/-- An update of another row keeps the row. -/
theorem update_openAt {request : StatusUpdate} (hkey : request.key ≠ key)
    (h : s.update request = some t) (hopen : OpenAt key s) : OpenAt key t := by
  unfold QuarantineStore.update at h
  split at h
  · contradiction
  · split at h
    · cases h
      obtain ⟨row, hrow, hstat⟩ := hopen
      exact ⟨row, by simpa [QuarantineStore.rows, QuarantineStore.setRow, hkey.symm] using hrow, hstat⟩
    · contradiction

/-- A transition that fails leaves the row open. -/
theorem transition_open {arguments : TransitionArguments} (hopen : OpenAt key s) :
    SafeOpen encoding direct key (transitionQuarantineEntry encoding.toTelemetryEncoding arguments)
      (fun result t => OpenAt key t ∨ arguments.update.key = key ∧ result = .ok ()) s := by
  refine transition_safe (open_environment key) (fun _ _ h => .inl (h hopen)) ?_
  rintro row u t ⟨u', hsu', hu'u, -, -⟩ - - - - hut ht choice reply v hguard hexec
  have hopen' : OpenAt key t := hut (hu'u (hsu' hopen))
  obtain ⟨hv, hanswered⟩ := hguard reply v hexec
  refine ⟨hv, trivial, fun _ => ?_, fun hreply _ => .inl ?_⟩
  · by_cases hkey : arguments.update.key = key
    · exact .inr ⟨hkey, rfl⟩
    · rcases attempt_cases (Option.some.inj hexec) with ⟨rfl, -⟩ | ⟨hupdate, -⟩
      · exact .inl hopen'
      · exact .inl (update_openAt hkey hupdate hopen')
  · have hatt : attempt choice.fault (QuarantineStore.update arguments.update) t = (reply, v) :=
      Option.some.inj hexec
    rcases attempt_cases hatt with ⟨rfl, -⟩ | ⟨hupdate, hsent⟩
    · exact hopen'
    · refine hanswered ?_ hopen'
      cases hfault : choice.fault with
      | none =>
        simp only [attempt, hfault, hupdate] at hatt
        exact absurd (congrArg Prod.fst hatt).symm hreply
      | requestLost => exact absurd hfault hsent
      | answerLost => rfl

/-- The row is reported as replayed or still open. -/
def ReportedOrOpen (tenantId : String) (key : RowKey) (report : Report) (s : QuarantineStore) : Prop :=
  (∃ entryKey ingressId, key = (tenantId, entryKey) ∧
    (entryKey, EntryResult.replayed ingressId) ∈ report.lines) ∨ OpenAt key s

/-- A longer report. -/
theorem ReportedOrOpen.extend {report' : Report} (h : ReportedOrOpen tenantId key report s)
    (hkeeps : KeepsOpen key s t) (hlines : ∀ line ∈ report.lines, line ∈ report'.lines) :
    ReportedOrOpen tenantId key report' t := by
  rcases h with ⟨entryKey, ingressId, hkey, hline⟩ | hopen
  · exact .inl ⟨entryKey, ingressId, hkey, hlines _ hline⟩
  · exact .inr (hkeeps hopen)

/-- A move is reported. -/
theorem moveEntry_reported (h : ReportedOrOpen arguments.tenantId key report s) :
    SafeOpen encoding direct key
      (moveEntry encoding arguments row .replayed (some ingressId) (.replayed ingressId) report)
      (ReportedOrOpen arguments.tenantId key) s := by
  rcases h with ⟨entryKey, ingressId', hkey, hline⟩ | hopen
  · refine Program.Safe.mono (fun report' t hextends => ?_)
      (SafeOpen.of_returns (moveEntry_returns []) s)
    exact .inl ⟨entryKey, ingressId', hkey, hextends.lines _ hline⟩
  · refine readClock_safe (open_environment key) fun now t hst _ => ?_
    refine Program.Safe.bind (transition_open (hst hopen)) ?_
    intro result u hres
    match result with
    | .ok () =>
      rcases hres with hopen' | ⟨hkey, -⟩
      · exact .inr hopen'
      · exact .inl ⟨row.entryKey, ingressId, hkey.symm, List.mem_append_right _ List.mem_cons_self⟩
    | .error error =>
      have hopen' : OpenAt key u := by simpa using hres
      cases error <;> exact .inr hopen'

theorem replayGroup_reported {group : List QuarantineFields}
    (h : ReportedOrOpen arguments.tenantId key report s) :
    SafeOpen encoding direct key (replayGroup encoding arguments group report)
      (ReportedOrOpen arguments.tenantId key) s := by
  have hall : ∀ result, ∀ line ∈ report.lines, line ∈ (report.recordAll group result).lines :=
    fun _ _ hline => List.mem_append_left _ hline
  unfold replayGroup
  dsimp only
  split
  · exact h.extend id (hall _)
  · split
    · exact h.extend id (hall _)
    · intro t hst ht choice reply u hguard hexec
      have htu : KeepsOpen key t u := by
        simp only [quarantineExec] at hexec
        split at hexec <;> cases hexec <;> exact id
      refine ⟨(hguard reply u hexec).1, trivial, ?_⟩
      match reply with
      | .failed => exact h.extend (htu ∘ hst) (hall _)
      | .sent =>
        exact loop_safe (fun _ => rfl) (fun _ _ _ => rfl) (fun row _ report v hv => moveEntry_reported hv)
          (h.extend (htu ∘ hst) fun _ hline => hline)

/-- The rows that were read open are so still. -/
theorem readOpen_open (keys : List EntryKey) (report : Report) (hs : Keyed s) :
    SafeOpen encoding direct key (readOpen tenantId keys report)
      (fun result t => ∀ rows, result.1 = some rows → ∀ row ∈ rows,
        (tenantId, row.entryKey) = key → OpenAt key t) s := by
  refine Program.Safe.mono (fun _ _ h => h.2.2) (readOpen_safe
    (Q := fun row t => (tenantId, row.entryKey) = key → OpenAt key t) (open_environment key)
    (fun row s t h hst _ hkey => hst (h hkey)) ?_ keys report s hs)
  rintro entryKey row s hs hrow htenant hopen rfl
  have hkey : row.rowKey = (tenantId, entryKey) := hs _ row hrow
  have hentry : row.entryKey = entryKey := congrArg Prod.snd hkey
  exact ⟨row, by rw [hentry]; exact hrow, hopen⟩

/-- A sent key is reported as replayed, or open. -/
theorem replay_reported (hs : Keyed s) :
    SafeOpen encoding direct key (replay encoding arguments configured)
      (fun report t => ∀ entryKey ∈ report.sentKeys, (arguments.tenantId, entryKey) = key →
        ReportedOrOpen arguments.tenantId key report t) s := by
  unfold replay
  split
  · intro entryKey hkey
    cases hkey
  · refine Program.Safe.bind ((readOpen_open _ _ hs).and_returns (readOpen_returns _ _)) ?_
    rintro ⟨rows, report⟩ t ⟨hopen, hnone⟩
    match rows with
    | none =>
      intro entryKey hkey
      rw [hnone] at hkey
      cases hkey
    | some rows =>
      by_cases hmem : ∃ row ∈ rows, (arguments.tenantId, row.entryKey) = key
      · obtain ⟨row, hrow, hkey⟩ := hmem
        refine Program.Safe.mono (fun _ _ h _ _ _ => h) (loop_safe (fun _ => rfl) (fun _ _ _ => rfl)
          (fun group _ report u hu => replayGroup_reported hu) ?_)
        exact .inr (hopen rows rfl row hrow hkey)
      · -- The key is not among the rows, and so it is never sent.
        have hgroups : ∀ group ∈ replayGroups encoding (rows.filter (·.replayable)),
            ∀ row ∈ group, row ∈ rows := fun group hgroup row hrow =>
          List.mem_of_mem_filter (mem_of_mem_replayGroups hgroup hrow)
        refine Program.Safe.mono (fun report' u hextends entryKey hsent hkey => ?_)
          (SafeOpen.of_returns (replayAll_returns hgroups) t)
        rcases hextends.sentKeys entryKey hsent with hold | ⟨row, hrow, rfl⟩
        · change entryKey ∈ report.sentKeys at hold
          rw [hnone] at hold
          cases hold
        · exact absurd ⟨row, hrow, hkey⟩ hmem

/-- What a replay has established about a row when it ends. -/
def QuarantineCall.Reported (key : RowKey) : QuarantineCall → QuarantineResult → QuarantineStore → Prop
  | .replay arguments _, .report report, t =>
    ∀ entryKey ∈ report.sentKeys, (arguments.tenantId, entryKey) = key →
      ReportedOrOpen arguments.tenantId key report t
  | _, _, _ => True

/-- A report stays true. -/
theorem QuarantineCall.Reported.later {c : QuarantineCall} {result : QuarantineResult}
    (h : c.Reported key result s) (hkeeps : KeepsOpen key s t) : c.Reported key result t := by
  cases c with
  | replay =>
    cases result with
    | report =>
      exact fun entryKey hkey heq => (h entryKey hkey heq).extend hkeeps fun _ hline => hline
    | _ => trivial
  | _ => trivial

/-- Every call reports. -/
theorem body_reported (c : QuarantineCall) (hs : Keyed s) :
    SafeOpen encoding direct key (c.body encoding) (c.Reported key) s := by
  cases c with
  | replay => exact Program.Safe.bind (replay_reported hs) fun _ _ h => h
  | _ => exact Program.Safe.mono (fun _ _ _ => trivial) (SafeOpen.of_returns (Program.Returns.trivial _) s)

end Follow

/-! ## Runs -/

/-- The step takes the row of a key out of open. -/
def Departs (key : RowKey) (s t : QuarantineStore) : Prop := OpenAt key s ∧ ¬ OpenAt key t

section Runs

variable {encoding : ReplayEncoding} {direct : List String} {s : QuarantineStore}
  {as : List (Action QuarantineOutcome QuarantineCall)}
  {w : World QuarantineStore QuarantineCall QuarantineResult QuarantineOp QuarantineReply}

section

variable (hs : ∀ key, s.rows key = none)
  (hrun : (quarantineMachine encoding direct).run (Machine.initial s) as = some w)
include hs hrun

/-- A sent row is marked or open, unless others or a lost update changed it. -/
theorem open_of_sent {i : Nat}
    (hproc : w.processes[i]? =
      some (.replay arguments configured, Program.done (.report report))) {entryKey : EntryKey}
    (hsent : entryKey ∈ report.sentKeys)
    (hunmarked : ∀ ingressId, (entryKey, EntryResult.replayed ingressId) ∉ report.lines) :
    OpenAt (arguments.tenantId, entryKey) w.store ∨
      (quarantineMachine encoding direct).SomeMove
        (fun j _ t u => j ≠ i ∧ Departs (arguments.tenantId, entryKey) t u) (Machine.initial s) as ∨
      (quarantineMachine encoding direct).SomeMove
        (fun j outcome t u => j = i ∧ outcome.fault = .answerLost ∧
          Departs (arguments.tenantId, entryKey) t u) (Machine.initial s) as := by
  rw [or_iff_not_imp_right, not_or]
  rintro ⟨hothers, hlost⟩
  obtain ⟨-, -, hsteps⟩ := (quarantine_contract encoding direct).run_initial (RowsSound.of_empty hs)
    (Machine.guarded_true as _) hrun
  have halways : (quarantineMachine encoding direct).Always Keyed (Machine.initial s) as :=
    hsteps.always (fun _ _ h => h.rows.keyed) fun key row hrow => by
      rw [show (Machine.initial s).store.rows key = none from hs key] at hrow
      cases hrow
  have hsafe := Machine.follow (open_environment _).refl (open_environment _).trans
    (fun c result t u h hkeeps _ => h.later hkeeps) (fun c t ht => body_reported c ht) i as _ w hrun
    halways (fun hmove => hothers (hmove.mono fun j _ t u h => ⟨h.1, Classical.not_imp.mp h.2⟩))
    (fun hmove => hlost (hmove.mono fun j outcome t u h => ⟨h.1, (Classical.not_imp.mp h.2).1,
      Classical.not_imp.mp (Classical.not_imp.mp h.2).2⟩)) (fun _ _ hp => by cases hp) _ _ hproc
  rcases hsafe entryKey hsent rfl with ⟨entryKey', ingressId, hkey, hline⟩ | hopen
  · cases hkey
    exact absurd hline (hunmarked ingressId)
  · exact hopen

/-- A row that has left open is never written again. -/
theorem row_frozen {before after : List (Action QuarantineOutcome QuarantineCall)}
    {u : World QuarantineStore QuarantineCall QuarantineResult QuarantineOp QuarantineReply}
    (has : as = before ++ after)
    (hbefore : (quarantineMachine encoding direct).run (Machine.initial s) before = some u)
    (hrow : u.store.rows key = some row) (hclosed : row.status ≠ .opened) :
    w.store.rows key = some row := by
  obtain ⟨-, -, hsteps⟩ := (quarantine_contract encoding direct).run_initial (RowsSound.of_empty hs)
    (Machine.guarded_true as _) hrun
  subst has
  rw [Machine.run_append hbefore] at hrun
  refine ((hsteps.of_append hbefore).always (P := fun t => t.rows key = some row) ?_ hrow).last hrun
  intro t v hstep ht
  rcases hstep.rows key with hsame | ⟨_, hnone⟩ | ⟨old, update, hold, hopen, -⟩
  · exact hsame.trans ht
  · rw [ht] at hnone
    contradiction
  · rw [ht] at hold
    cases hold
    exact absurd hopen hclosed

end

end Runs

namespace SampleReplay

/-- The compact text decodes to the observation. -/
def encoding : ReplayEncoding :=
  { SampleFence.encoding with
    observationOfJson := fun text => if text = "compact" then some SampleFence.observation else none
    entryLe := fun _ _ => true
    replayIngressId := fun _ => SampleAdmission.firstId }

/-- No rows. -/
def store : QuarantineStore := ⟨SampleFence.store, []⟩

/-- The name of a row. -/
def entryKey : EntryKey := (0, quarantineEntryId SampleAdmission.secondId 0 "compact")

/-- The row is put for a fenced message. -/
def put : QuarantineCall :=
  .putFence (SampleFence.envelope false) ⟨.accountRevoked, true⟩ 0

/-- The row is replayed. -/
def command : CommandArguments := ⟨"t", [entryKey], true⟩

/-- Steps of a process. -/
def steps (i n : Nat) : List (Action QuarantineOutcome QuarantineCall) :=
  List.replicate n (.step i {})

/-- The replay sends and is about to update the row. -/
def sending : List (Action QuarantineOutcome QuarantineCall) :=
  [.start put] ++ steps 0 2 ++ [.start (.replay command true)] ++ steps 1 6

/-- The report of a process. -/
def reportOf (w : World QuarantineStore QuarantineCall QuarantineResult QuarantineOp
    QuarantineReply) (i : Nat) : Option Report :=
  match w.processes[i]? with
  | some (_, .done (.report report)) => some report
  | _ => none

/-- The state of the row. -/
def statusOf (w : World QuarantineStore QuarantineCall QuarantineResult QuarantineOp
    QuarantineReply) : Option (QuarantineEntryStatus × Nat × Option String) :=
  (w.store.rows ("t", entryKey)).map fun row => (row.status, row.version, row.replayedIngressId)

end SampleReplay

open SampleReplay

end LimnoPulse.Ingestion
