import LimnoPulse.Ingestion.Processor

/-!
# Conservation of telemetry

A message is deleted only after every one of its observations, by position, is
written or quarantined, or after all of them are quarantined behind a fence.
Normalization judges every position, and each later stage ends with its rows durable,
whatever other workers and services do in between.

Main results:

- Theorem `normalize_judged`: normalization gives every observation one
  verdict, in order.
- Theorem `process_safe`: a deleted message was conserved or fenced.
-/

namespace LimnoPulse.Ingestion

open StoreProgram

variable {s t : TelemetryStore} {α : Type} {outcome : TelemetryOutcome}
  {resolved : List (String × String)} {ponds : PondTable} {observations : List CanonicalObservation}
  {fence : IngressFence} {config : ProcessorConfig} {envelope : IngressEnvelope}
  {row : QuarantineFields} {request : Advance} {p : TelemetryProgram (Except Failure α)}
  {metric : MetricDefinition} {source : SourceObservation} {verdicts : List Verdict}
  {message : IngressQueueMessage}

/-! ## What lasts -/

/-- The histories of a store are complete. -/
structure LogsComplete (s : TelemetryStore) : Prop where
  rows : ∀ key row, s.quarantine key = some row → key ∈ s.persisted
  assets : s.references.assets ∈ s.assetVersions

/-- What is reached stays reached. -/
def MarksRaised (s t : TelemetryStore) : Prop :=
  ∀ (key : MarkRow × MarkName) (mark : Mark),
    mark.Reached (s.marks.marks key) → mark.Reached (t.marks.marks key)

/-- Everything stays; marks are only raised. -/
structure LaterTelemetry (s t : TelemetryStore) : Prop where
  written : ∀ line ∈ s.written, line ∈ t.written
  legacyWritten : ∀ point ∈ s.legacyWritten, point ∈ t.legacyWritten
  persisted : ∀ key ∈ s.persisted, key ∈ t.persisted
  assetVersions : ∀ version ∈ s.assetVersions, version ∈ t.assetVersions
  marks : MarksRaised s t

namespace LaterTelemetry

theorem refl (s : TelemetryStore) : LaterTelemetry s s :=
  ⟨fun _ h => h, fun _ h => h, fun _ h => h, fun _ h => h, fun _ _ h => h⟩

theorem trans {u : TelemetryStore} (h : LaterTelemetry s t) (h' : LaterTelemetry t u) :
    LaterTelemetry s u where
  written line hline := h'.written line (h.written line hline)
  legacyWritten point hpoint := h'.legacyWritten point (h.legacyWritten point hpoint)
  persisted key hkey := h'.persisted key (h.persisted key hkey)
  assetVersions version hver := h'.assetVersions version (h.assetVersions version hver)
  marks key mark hmark := h'.marks key mark (h.marks key mark hmark)

end LaterTelemetry

/-- A request adds lines, and an answered one all of them. -/
theorem takeLines_spec {lines stored : List α} {reply : LineReply} {after : List α}
    (h : takeLines outcome lines stored = (reply, after)) :
    (∀ x ∈ stored, x ∈ after) ∧ (reply = .taken → ∀ x ∈ lines, x ∈ after) := by
  unfold takeLines at h
  split at h
  · cases h
    exact ⟨fun x hx => List.mem_append_right _ hx, fun _ x hx => List.mem_append_left _ hx⟩
  · cases h
    exact ⟨fun x hx => hx, by simp⟩
  · cases h
    exact ⟨fun x hx => List.mem_append_right _ hx, by simp⟩

/-- A new row is logged. -/
theorem putRow_spec (hs : LogsComplete s) (h : s.putRow row = some t) :
    LogsComplete t ∧ LaterTelemetry s t ∧ row.rowKey ∈ t.persisted := by
  unfold TelemetryStore.putRow at h
  split at h
  · cases h
    refine ⟨⟨fun key stored hstored => ?_, hs.assets⟩,
      { LaterTelemetry.refl s with persisted := fun _ hkey => List.mem_cons_of_mem _ hkey },
      List.mem_cons_self⟩
    by_cases hkey : key = row.rowKey
    · rw [hkey]
      exact List.mem_cons_self
    · simp only [Function.update_of_ne hkey] at hstored
      exact List.mem_cons_of_mem _ (hs.rows key stored hstored)
  · contradiction

/-- A refused put finds the row. -/
theorem persisted_of_putRow_eq_none (hs : LogsComplete s)
    (h : s.putRow row = none) : row.rowKey ∈ s.persisted := by
  unfold TelemetryStore.putRow at h
  split at h
  · contradiction
  · next hsome =>
    rw [Bool.not_eq_true, Option.isNone_eq_false_iff, Option.isSome_iff_exists] at hsome
    obtain ⟨stored, hstored⟩ := hsome
    exact hs.rows _ stored hstored

theorem advance_later (h : s.advance request = some t) :
    LaterTelemetry s t ∧ (LogsComplete s → LogsComplete t) := by
  obtain ⟨marks, hmarks, rfl⟩ := Option.map_eq_some_iff.mp h
  exact ⟨{ LaterTelemetry.refl s with
    marks := fun _ _ hreached => MarkTable.advance_monotone hmarks hreached }, fun hs => ⟨hs.1, hs.2⟩⟩

/-- No operation loses anything. -/
theorem telemetryExec_invariant {op : TelemetryOp} {reply : TelemetryReply op} (hs : LogsComplete s)
    (h : telemetryExec op outcome s = some (reply, t)) : LogsComplete t ∧ LaterTelemetry s t := by
  have hsame : LogsComplete s ∧ LaterTelemetry s s := ⟨hs, LaterTelemetry.refl s⟩
  cases op with
  | mapping op | asset tenantId assetId | getComponentState componentId | raised =>
    cases h
    exact hsame
  | deployment =>
    obtain ⟨⟨reply', deployments⟩, -, hres⟩ := Option.map_eq_some_iff.mp h
    cases hres
    exact ⟨⟨hs.rows, hs.assets⟩, { LaterTelemetry.refl s with }⟩
  | writeLines =>
    obtain ⟨-, rfl⟩ := Prod.mk.inj (Option.some.inj h)
    exact ⟨⟨hs.rows, hs.assets⟩,
      { LaterTelemetry.refl s with written := (takeLines_spec rfl).1 }⟩
  | writeLegacy =>
    obtain ⟨-, rfl⟩ := Prod.mk.inj (Option.some.inj h)
    exact ⟨⟨hs.rows, hs.assets⟩,
      { LaterTelemetry.refl s with legacyWritten := (takeLines_spec rfl).1 }⟩
  | putRow =>
    rcases attempt_cases (Option.some.inj h) with ⟨rfl, -, -⟩ | ⟨hput, -⟩
    · exact hsame
    · obtain ⟨ht, hlater, -⟩ := putRow_spec hs hput
      exact ⟨ht, hlater⟩
  | advance =>
    rcases attempt_cases (Option.some.inj h) with ⟨rfl, -, -⟩ | ⟨hadvance, -⟩
    · exact hsame
    · obtain ⟨hlater, hcomplete⟩ := advance_later hadvance
      exact ⟨hcomplete hs, hlater⟩
  | writeReferences rows =>
    cases h
    exact ⟨⟨hs.rows, List.mem_cons_self⟩,
      { LaterTelemetry.refl s with assetVersions := fun _ hv => List.mem_cons_of_mem _ hv }⟩
  | changeRow key =>
    cases h
    refine ⟨⟨fun key' row hrow => ?_, hs.assets⟩, { LaterTelemetry.refl s with }⟩
    by_cases hkey : key' = key
    · subst hkey
      simp only [Function.update_self] at hrow
      obtain ⟨old, hold, -⟩ := Option.bind_eq_some_iff.mp hrow
      exact hs.rows key' old hold
    · simp only [Function.update_of_ne hkey] at hrow
      exact hs.rows key' row hrow

/-- Every operation keeps the logs. -/
theorem telemetry_kept : Kept telemetryExec (fun _ _ _ => True) (fun _ _ => True) LogsComplete
    LaterTelemetry LaterTelemetry where
  trans _ _ _ := LaterTelemetry.trans
  rely_of_guarantee _ _ := id
  step _ _ _ _ _ hs _ _ hexec := telemetryExec_invariant hs hexec

/-- Safety against other workers and services. -/
abbrev SafeTelemetry {α : Type} (p : TelemetryProgram α) (post : α → TelemetryStore → Prop)
    (s : TelemetryStore) : Prop :=
  p.Safe telemetryExec (fun _ _ _ => True) LogsComplete LaterTelemetry LaterTelemetry post s

/-- A stage that establishes something by success. -/
abbrev SafeStage {α : Type} (post : α → TelemetryStore → Prop)
    (p : TelemetryProgram (Except Failure α)) (s : TelemetryStore) : Prop :=
  SafeOk telemetryExec (fun _ _ _ => True) LogsComplete LaterTelemetry LaterTelemetry post p s

/-- Two stages. -/
theorem SafeStage.andThen {β : Type} {mid : α → TelemetryStore → Prop}
    {post : β → TelemetryStore → Prop}
    {f : α → TelemetryProgram (Except Failure β)} (hp : SafeStage mid p s)
    (hf : ∀ value t, mid value t → LaterTelemetry s t → SafeStage post (f value) t) :
    SafeStage post (p.andThen f) s :=
  telemetry_kept.andThen LaterTelemetry.refl hp hf

theorem raise_safe (post : α → TelemetryStore → Prop) (s : TelemetryStore) :
    SafeStage post raise s := by
  refine telemetry_kept.safe_call (fun _ _ _ => trivial) ?_
  intro _ _ kind t _ _ _ _ _
  exact SafeOk.error _ t

/-- A stage that only returns what is known of its result. -/
theorem SafeStage.of_returns {P : α → Prop}
    (h : p.ReturnsOk P) (s : TelemetryStore) : SafeStage (fun value _ => P value) p s := by
  have hsafe := telemetry_kept.safe_of_returns
    (Program.Performs.of_forall (fun _ _ => trivial) p) h (LaterTelemetry.refl s)
  exact Program.Safe.mono (fun result t hres value hvalue => hres.1 value hvalue) hsafe

/-! ## Verdicts -/

namespace Verdict

/-- The accepted observation. -/
def toAccepted : Verdict → Option CanonicalObservation
  | .accepted o => some o
  | .quarantined _ => none

/-- The one that was set aside. -/
def toQuarantined : Verdict → Option QuarantinedObservation
  | .accepted _ => none
  | .quarantined q => some q

end Verdict

/-- The result of verdicts in order. -/
def collect (verdicts : List Verdict) : NormalizationResult :=
  ⟨verdicts.filterMap Verdict.toAccepted, verdicts.filterMap Verdict.toQuarantined⟩

/-- Accumulators keep the order of verdicts. -/
theorem collect_append_singleton (verdicts : List Verdict) (verdict : Verdict) :
    (collect verdicts).add verdict = collect (verdicts ++ [verdict]) := by
  cases verdict <;> simp [collect, NormalizationResult.add, Verdict.toAccepted, Verdict.toQuarantined]

/-- Every verdict is one of the two. -/
theorem collect_length (verdicts : List Verdict) :
    (collect verdicts).accepted.length + (collect verdicts).quarantined.length =
      verdicts.length := by
  induction verdicts with
  | nil => rfl
  | cons verdict verdicts ih =>
    simp only [collect, List.length_cons] at ih ⊢
    cases verdict with
    | accepted o | quarantined q =>
      simp only [List.filterMap_cons, Verdict.toAccepted, Verdict.toQuarantined, List.length_cons]
      omega

section Normalization

variable (config : ProcessorConfig) (context : TrustedSourceContext) (versions : NormalizationVersions)
  (policy : QualityPolicy) (ingestedAt : Time) (C : String → Option DeviceComponent → Prop)
  (D : String → Time → Option Deployments.Deployment → Prop)

/-- How a verdict comes from component and deployment. -/
inductive Judged (source : SourceObservation) : Verdict → Prop
  | unmeasured {component : Option DeviceComponent} {quarantine : Quarantine}
      (hcomponent : C source.componentId component)
      (hmeasure : measure config context versions component source = .error quarantine) :
      Judged source (.quarantined (quarantineRecord config context source quarantine))
  | unplaced {component : Option DeviceComponent} {measured : DeviceComponent × MetricDefinition × Float}
      {deployment : Option Deployments.Deployment} {quarantine : Quarantine}
      (hcomponent : C source.componentId component)
      (hmeasure : measure config context versions component source = .ok measured)
      (hdeployment : D source.componentId source.observedAt deployment)
      (hplaced : placed context deployment source = .error quarantine) :
      Judged source (.quarantined (quarantineRecord config context source quarantine))
  | accepted {component : Option DeviceComponent} {measured : DeviceComponent × MetricDefinition × Float}
      {deployment : Option Deployments.Deployment} {place : Deployments.Deployment}
      {o : CanonicalObservation} (hcomponent : C source.componentId component)
      (hmeasure : measure config context versions component source = .ok measured)
      (hdeployment : D source.componentId source.observedAt deployment)
      (hplaced : placed context deployment source = .ok place)
      (hfields : o.toCanonicalFields = canonicalFields config context versions policy source
        measured.1 measured.2.1 measured.2.2 place ingestedAt) :
      Judged source (.accepted o)

/-- What lookups say about components and deployments. -/
structure LooksUp (logic : Program.StageLogic TelemetryOp TelemetryReply Failure) (tenantId : String)
    (K : LookupCache → Prop) : Prop where
  empty : K {}
  component : ∀ cache componentId, K cache →
    logic.Holds (fun (component, cache') => C componentId component ∧ K cache')
      (lookupComponent tenantId cache componentId)
  deployment : ∀ cache componentId observedAt, K cache →
    logic.Holds (fun (deployment, cache') => D componentId observedAt deployment ∧ K cache')
      (lookupDeployment tenantId cache componentId observedAt)

variable {config context versions policy ingestedAt C D}
  {logic : Program.StageLogic TelemetryOp TelemetryReply Failure} {K : LookupCache → Prop}

/-- One observation is judged. -/
theorem normalizeOne_judged (h : LooksUp C D logic context.tenantId K) (source : SourceObservation)
    (hcache : K cache) :
    logic.Holds (fun (verdict, cache') =>
        Judged config context versions policy ingestedAt C D source verdict ∧ K cache')
      (normalizeOne config context versions policy ingestedAt source cache) := by
  refine logic.andThen (h.component _ _ hcache) ?_
  rintro ⟨component, cache⟩ ⟨hcomp, hcache⟩
  dsimp only
  split
  next quarantine hmeas => exact logic.ok ⟨.unmeasured hcomp hmeas, hcache⟩
  next hmeas =>
    refine logic.andThen (h.deployment _ _ _ hcache) ?_
    rintro ⟨deployment, cache⟩ ⟨hdep, hcache⟩
    dsimp only
    split
    next hplaced => exact logic.ok ⟨.unplaced hcomp hmeas hdep hplaced, hcache⟩
    next hplaced =>
      split
      next => exact logic.error _
      next ho =>
        have hfields := CanonicalObservation.modelValidate_eq_some ho
        exact logic.ok ⟨.accepted hcomp hmeas hdep hplaced hfields, hcache⟩

/-- The judged ones, and a verdict for each of the rest. -/
theorem normalizeLoop_judged (h : LooksUp C D logic context.tenantId K) :
    ∀ (sources : List SourceObservation) (cache : LookupCache) (verdicts : List Verdict), K cache →
      logic.Holds (fun result => ∃ rest, result = collect (verdicts ++ rest) ∧
          List.Forall₂ (Judged config context versions policy ingestedAt C D) sources rest)
        (normalizeLoop config context versions policy ingestedAt sources cache (collect verdicts)) := by
  intro sources
  induction sources with
  | nil =>
    intro cache verdicts _
    exact logic.ok ⟨[], by rw [List.append_nil], .nil⟩
  | cons source sources ih =>
    intro cache verdicts hcache
    refine logic.andThen (normalizeOne_judged h source hcache) ?_
    rintro ⟨verdict, cache⟩ ⟨hverdict, hcache⟩
    dsimp only
    rw [collect_append_singleton]
    refine logic.mono ?_ (ih cache (verdicts ++ [verdict]) hcache)
    rintro result ⟨rest, rfl, hrest⟩
    exact ⟨verdict :: rest, by rw [List.append_assoc]; rfl, .cons hverdict hrest⟩

/-- One verdict for every observation, in order. -/
theorem normalize_judged (h : LooksUp C D logic context.tenantId K) (sources : List SourceObservation) :
    logic.Holds (fun result => ∃ policy verdicts, result = collect verdicts ∧
        List.Forall₂ (Judged config context (context.mappingVersions.getD config.defaultVersions) policy
          ingestedAt C D) sources verdicts)
      (normalize config context ingestedAt sources) := by
  simp only [normalize]
  split
  · exact logic.error _
  · split
    · refine logic.mono ?_ (normalizeLoop_judged h sources {} [] h.empty)
      rintro result ⟨verdicts, hres, hverdicts⟩
      exact ⟨_, verdicts, hres, hverdicts⟩
    · exact logic.error _

/-- Whatever the lookups find. -/
theorem looksUp_returns (tenantId : String) :
    LooksUp (fun _ _ => True) (fun _ _ _ => True) (.returns TelemetryOp TelemetryReply Failure) tenantId
      fun _ => True where
  empty := trivial
  component _ _ _ := (Program.ReturnsOk.trivial _).mono fun _ _ _ _ => ⟨trivial, trivial⟩
  deployment _ _ _ _ := (Program.ReturnsOk.trivial _).mono fun _ _ _ _ => ⟨trivial, trivial⟩

end Normalization

/-- The verdicts, in order, whatever was found. -/
def Normalized (config : ProcessorConfig) (sources : List SourceObservation)
    (verdicts : List Verdict) : Prop :=
  ∃ context versions policy ingestedAt,
    List.Forall₂ (Judged config context versions policy ingestedAt (fun _ _ => True)
      fun _ _ _ => True) sources verdicts

/-- All observations are judged. -/
theorem normalize_normalized (config : ProcessorConfig) (context : TrustedSourceContext)
    (ingestedAt : Time) (sources : List SourceObservation) :
    (normalize config context ingestedAt sources).ReturnsOk fun result => ∃ verdicts,
      Normalized config sources verdicts ∧ result = collect verdicts := by
  refine (Program.StageLogic.returns _ _ _).mono ?_ (normalize_judged (looksUp_returns _) sources)
  rintro result ⟨policy, verdicts, hres, hverdicts⟩
  exact ⟨verdicts, ⟨_, _, _, _, hverdicts⟩, hres⟩

/-- When all were answered, all lines are taken. -/
theorem writeAll_safe {send : List α → TelemetryProgram LineReply}
    {stored : TelemetryStore → List α}
    (hstored : ∀ s t, LaterTelemetry s t → ∀ x ∈ stored s, x ∈ stored t)
    (hsend : ∀ chunk s, SafeTelemetry (send chunk)
      (fun reply t => reply = .taken → ∀ x ∈ chunk, x ∈ stored t) s) :
    ∀ (chunks : List (List α)) (s : TelemetryStore),
      SafeStage (fun _ t => ∀ x ∈ chunks.flatten, x ∈ stored t) (writeAll send chunks) s := by
  intro chunks
  induction chunks with
  | nil =>
    intro s
    exact SafeOk.ok (by simp)
  | cons chunk chunks ih =>
    intro s
    refine Program.Safe.bind (hsend chunk s) ?_
    intro reply t htaken
    match reply with
    | .failed retryable => exact SafeOk.error _ t
    | .taken =>
      -- The lines of this request stay while the others are sent.
      refine Program.Safe.mono ?_ (telemetry_kept.framed (ih t) (LaterTelemetry.refl t))
      rintro result u ⟨hrest, hlater⟩ value hvalue x hx
      rw [List.flatten_cons] at hx
      rcases List.mem_append.mp hx with hx | hx
      · exact hstored t u hlater x (htaken rfl x hx)
      · exact hrest value hvalue x hx

/-- Lines that were taken. -/
theorem sendLines_safe (lines : List ObservationLine) (s : TelemetryStore) :
    SafeTelemetry (sendLines lines)
      (fun reply t => reply = .taken → ∀ x ∈ lines, x ∈ t.written) s := by
  refine telemetry_kept.safe_call (fun _ _ _ => trivial) ?_
  intro t outcome reply u _ _ hexec _ _ hreply
  obtain ⟨rfl, rfl⟩ := Prod.mk.inj (Option.some.inj hexec)
  exact (takeLines_spec rfl).2 hreply

/-- Legacy points that were taken. -/
theorem sendLegacy_safe (points : List LegacyPoint) (s : TelemetryStore) :
    SafeTelemetry (sendLegacy points)
      (fun reply t => reply = .taken → ∀ x ∈ points, x ∈ t.legacyWritten) s := by
  refine telemetry_kept.safe_call (fun _ _ _ => trivial) ?_
  intro t outcome reply u _ _ hexec _ _ hreply
  obtain ⟨rfl, rfl⟩ := Prod.mk.inj (Option.some.inj hexec)
  exact (takeLines_spec rfl).2 hreply

/-- The canonical point of every observation is taken. -/
def LinesWritten (observations : List CanonicalObservation) (s : TelemetryStore) : Prop :=
  ∀ o ∈ observations, ∃ line, encodeObservationLine o = some line ∧ line ∈ s.written

/-- All lines are taken. -/
theorem writeObservations_safe (config : ProcessorConfig)
    (observations : List CanonicalObservation) (s : TelemetryStore) :
    SafeStage (fun _ => LinesWritten observations) (writeObservations config observations) s := by
  unfold writeObservations
  split
  · exact SafeOk.error _ s
  · next lines hlines =>
    have hsafe := writeAll_safe (fun _ _ hlater => hlater.written) sendLines_safe
      (chunksOf config.maxLinesPerRequest lines.length lines) s
    rw [chunksOf_flatten config.positive _ lines (Nat.le_refl _)] at hsafe
    refine Program.Safe.mono ?_ hsafe
    intro result t hwritten value hvalue o ho
    obtain ⟨line, hline, hmem⟩ := exists_of_mem_mapM_source hlines o ho
    exact ⟨line, hline, hwritten value hvalue line hmem⟩

/-! ### Asset lookups -/

/-- Ponds agree with a version of each asset row. -/
structure PondsKnown (resolved : List (String × String)) (ponds : PondTable)
    (s : TelemetryStore) : Prop where
  known : ∀ key ∈ resolved, ∃ version ∈ s.assetVersions,
    ponds.lookup key = (version key).bind (·.legacyPondId)
  unknown : ∀ key, key ∉ resolved → ponds.lookup key = none

/-- Ponds stay known. -/
theorem PondsKnown.later (h : PondsKnown resolved ponds s) (hlater : LaterTelemetry s t) :
    PondsKnown resolved ponds t where
  known key hkey := by
    obtain ⟨version, hver, hlookup⟩ := h.known key hkey
    exact ⟨version, hlater.assetVersions version hver, hlookup⟩
  unknown := h.unknown

/-- Looking up one more asset. -/
theorem PondsKnown.add (h : PondsKnown resolved ponds s) (hs : LogsComplete s)
    {key : String × String} (hkey : key ∉ resolved) :
    PondsKnown (key :: resolved) (match (s.references.assets key).bind (·.legacyPondId) with
      | none => ponds
      | some pond => ponds ++ [(key, pond)]) s := by
  have hnone := h.unknown key hkey
  rcases hpond : (s.references.assets key).bind (·.legacyPondId) with _ | pond
  · refine ⟨fun other hother => ?_, fun other hother => h.unknown other fun hmem =>
      hother (List.mem_cons_of_mem _ hmem)⟩
    rcases List.mem_cons.mp hother with rfl | hold
    · exact ⟨_, hs.assets, by rw [hnone, hpond]⟩
    · exact h.known other hold
  · refine ⟨fun other hother => ?_, fun other hother => ?_⟩
    · by_cases hsame : other = key
      · subst hsame
        refine ⟨_, hs.assets, ?_⟩
        rw [List.lookup_append, hnone, hpond]
        simp
      · have hold : other ∈ resolved := (List.mem_cons.mp hother).resolve_left hsame
        obtain ⟨version, hver, hlookup⟩ := h.known other hold
        refine ⟨version, hver, ?_⟩
        rw [List.lookup_append, ← hlookup]
        simp [List.lookup_cons, beq_false_of_ne hsame]
    · have hsame : other ≠ key := fun hsame => hother (hsame ▸ List.mem_cons_self)
      have hold : other ∉ resolved := fun hmem => hother (List.mem_cons_of_mem _ hmem)
      rw [List.lookup_append, h.unknown other hold]
      simp [List.lookup_cons, beq_false_of_ne hsame]

/-- The observation is of its device's legacy default component. -/
def IsLegacyDefault (config : ProcessorConfig) (o : CanonicalObservation) : Prop :=
  o.resolved.componentId = config.encoding.defaultComponentIdForLegacyDevice
    o.resolved.tenantId o.resolved.deviceId

/-- The row key of the asset an observation was placed on. -/
def assetKey (o : CanonicalObservation) : String × String :=
  (o.resolved.tenantId, o.resolved.assetId)

/-- Legacy assets were looked up, beside `resolved`. -/
def PondsResolved (config : ProcessorConfig) (resolved : List (String × String))
    (observations : List CanonicalObservation) (ponds : PondTable) (s : TelemetryStore) : Prop :=
  ∃ looked, PondsKnown looked ponds s ∧ (∀ key ∈ resolved, key ∈ looked) ∧
    ∀ o ∈ observations, IsLegacyDefault config o → assetKey o ∈ looked

/-- One more observation. -/
theorem PondsResolved.cons {resolved' : List (String × String)}
    {o : CanonicalObservation} (h : PondsResolved config resolved' observations ponds s)
    (hsub : ∀ key ∈ resolved, key ∈ resolved')
    (ho : IsLegacyDefault config o → assetKey o ∈ resolved') :
    PondsResolved config resolved (o :: observations) ponds s := by
  obtain ⟨looked, hknown, hlooked, hrest⟩ := h
  refine ⟨looked, hknown, fun key hkey => hlooked key (hsub key hkey), ?_⟩
  intro other hother hdefault
  rcases List.mem_cons.mp hother with rfl | hother
  · exact hlooked _ (ho hdefault)
  · exact hrest other hother hdefault

/-- The ponds are looked up. -/
theorem resolvePonds_safe (config : ProcessorConfig) :
    ∀ (observations : List CanonicalObservation) (resolved : List (String × String))
      (ponds : PondTable) (s : TelemetryStore), PondsKnown resolved ponds s →
      SafeStage (PondsResolved config resolved observations)
        (resolvePonds config observations resolved ponds) s := by
  intro observations
  induction observations with
  | nil =>
    intro resolved ponds s h
    exact SafeOk.ok ⟨resolved, h, fun _ hkey => hkey, by simp⟩
  | cons o observations ih =>
    intro resolved ponds s h
    have hnext : ∀ resolved' ponds' t, PondsKnown resolved' ponds' t →
        (∀ key ∈ resolved, key ∈ resolved') →
        (IsLegacyDefault config o → assetKey o ∈ resolved') →
        SafeStage (PondsResolved config resolved (o :: observations))
          (resolvePonds config observations resolved' ponds') t := by
      intro resolved' ponds' t hponds hsub ho
      refine Program.Safe.mono ?_ (ih resolved' ponds' t hponds)
      intro result u hres value hvalue
      exact (hres value hvalue).cons hsub ho
    simp only [resolvePonds, Program.perform_bind]
    by_cases hdefault : o.resolved.componentId = config.encoding.defaultComponentIdForLegacyDevice
        o.resolved.tenantId o.resolved.deviceId
    · rw [if_neg (by simpa using hdefault)]
      by_cases hkey : (o.resolved.tenantId, o.resolved.assetId) ∈ resolved
      · rw [if_pos hkey]
        exact hnext resolved ponds s h (fun _ hmem => hmem) fun _ => hkey
      · rw [if_neg hkey]
        refine telemetry_kept.safe_call (fun _ _ _ => trivial) ?_
        intro t outcome reply u hlater ht hexec _ _
        match reply with
        | .unavailable => exact SafeOk.error _ u
        | .row asset =>
          obtain ⟨hanswer, rfl⟩ := Prod.mk.inj (Option.some.inj hexec)
          have hadd := (h.later hlater).add ht hkey
          rw [answer_eq_row hanswer] at hadd
          have hsub : ∀ key ∈ resolved, key ∈ assetKey o :: resolved :=
            fun _ hmem => List.mem_cons_of_mem _ hmem
          dsimp only
          split
          · next hpond =>
            rw [hpond] at hadd
            exact hnext _ ponds t hadd hsub fun _ => List.mem_cons_self
          · next pond hpond =>
            rw [hpond] at hadd
            exact hnext _ _ t hadd hsub fun _ => List.mem_cons_self
    · rw [if_pos (by simpa using hdefault)]
      exact hnext resolved ponds s h (fun _ hmem => hmem) fun hlegacy => absurd hlegacy hdefault

/-- Legacy points are taken, with their ponds. -/
def LegacyWritten (config : ProcessorConfig) (observations : List CanonicalObservation)
    (s : TelemetryStore) : Prop :=
  ∃ ponds, PondsResolved config [] observations ponds s ∧
    ∀ point ∈ legacyPoints config ponds observations, point ∈ s.legacyWritten

/-- All legacy points are taken. -/
theorem writeLegacyPoints_safe (config : ProcessorConfig) (points : List LegacyPoint)
    (s : TelemetryStore) :
    SafeStage (fun _ t => ∀ point ∈ points, point ∈ t.legacyWritten)
      (writeLegacyPoints config points) s := by
  have hsafe := writeAll_safe (fun _ _ hlater => hlater.legacyWritten) sendLegacy_safe
    (chunksOf config.maxLinesPerRequest points.length points) s
  rw [chunksOf_flatten config.positive _ points (Nat.le_refl _)] at hsafe
  exact hsafe

/-- Every enabled writer has taken the observations. -/
def Written (config : ProcessorConfig) (observations : List CanonicalObservation)
    (s : TelemetryStore) : Prop :=
  (config.v2WriteEnabled = true → LinesWritten observations s) ∧
    (config.legacyDualWriteEnabled = true → LegacyWritten config observations s)

/-- Lines stay taken. -/
theorem LinesWritten.later (h : LinesWritten observations s) (hlater : LaterTelemetry s t) :
    LinesWritten observations t := by
  intro o ho
  obtain ⟨line, hline, hmem⟩ := h o ho
  exact ⟨line, hline, hlater.written line hmem⟩

/-- Legacy points stay taken. -/
theorem LegacyWritten.later (h : LegacyWritten config observations s)
    (hlater : LaterTelemetry s t) : LegacyWritten config observations t := by
  obtain ⟨ponds, ⟨looked, hknown, hlooked⟩, hpoints⟩ := h
  exact ⟨ponds, ⟨looked, hknown.later hlater, hlooked⟩,
    fun point hpoint => hlater.legacyWritten point (hpoints point hpoint)⟩

/-- What was written stays so. -/
theorem Written.later (h : Written config observations s)
    (hlater : LaterTelemetry s t) : Written config observations t :=
  ⟨fun hv2 => (h.1 hv2).later hlater, fun hlegacy => (h.2 hlegacy).later hlater⟩

/-- All writers have taken their part. -/
theorem writeService_safe (config : ProcessorConfig) (observations : List CanonicalObservation)
    (s : TelemetryStore) :
    SafeStage (fun _ => Written config observations) (writeService config observations) s := by
  unfold writeService
  split
  · exact SafeOk.error _ s
  · have hlines : SafeStage (fun _ t => config.v2WriteEnabled = true → LinesWritten observations t)
        (if config.v2WriteEnabled then writeObservations config observations
          else pure (.ok ())) s := by
      split
      · exact Program.Safe.mono (fun _ _ h value hvalue _ => h value hvalue)
          (writeObservations_safe config observations s)
      · next hdisabled => exact SafeOk.ok fun henabled => absurd henabled hdisabled
    refine SafeStage.andThen hlines ?_
    intro _ t hwritten _
    by_cases hlegacy : config.legacyDualWriteEnabled = true
    · rw [if_pos hlegacy]
      refine SafeStage.andThen (resolvePonds_safe config observations [] [] t ⟨by simp, by simp⟩) ?_
      intro ponds u hponds hlater
      refine Program.Safe.mono ?_ (telemetry_kept.framed (writeLegacyPoints_safe config
        (legacyPoints config ponds observations) u) (LaterTelemetry.refl u))
      rintro result v ⟨hpoints, hlater'⟩ value hvalue
      obtain ⟨looked, hknown, hlooked⟩ := hponds
      exact ⟨fun hv2 => (hwritten hv2).later (hlater.trans hlater'),
        fun _ => ⟨ponds, ⟨looked, hknown.later hlater', hlooked⟩, hpoints value hvalue⟩⟩
    · rw [if_neg hlegacy]
      exact SafeOk.ok ⟨hwritten, fun henabled => absurd henabled hlegacy⟩

/-- When all were answered, all keys are persisted. -/
theorem putQuarantineEntries_safe :
    ∀ (rows : List QuarantineFields) (s : TelemetryStore),
      SafeStage (fun _ t => ∀ key ∈ rows.map (·.rowKey), key ∈ t.persisted)
        (putQuarantineEntries rows) s := by
  intro rows
  induction rows with
  | nil =>
    intro s
    exact SafeOk.ok (by simp)
  | cons row rows ih =>
    intro s
    simp only [putQuarantineEntries, Program.perform_bind]
    refine telemetry_kept.safe_call (fun _ _ _ => trivial) ?_
    intro t outcome reply u _ ht hexec _ _
    have hpers : reply ≠ .unavailable → row.rowKey ∈ u.persisted := by
      intro hreply
      have hatt : attempt outcome.fault (TelemetryStore.putRow row) t = (reply, u) :=
        Option.some.inj hexec
      rcases attempt_cases hatt with ⟨rfl, -, hlost | hrefused⟩ | ⟨hput, -⟩
      · simp only [attempt, hlost] at hatt
        exact absurd (congrArg Prod.fst hatt).symm hreply
      · exact persisted_of_putRow_eq_none ht hrefused
      · exact (putRow_spec ht hput).2.2
    have hnext : row.rowKey ∈ u.persisted → SafeStage
        (fun _ t => ∀ key ∈ (row :: rows).map (·.rowKey), key ∈ t.persisted)
        (putQuarantineEntries rows) u := by
      intro hmem
      refine Program.Safe.mono ?_ (telemetry_kept.framed (ih u) (LaterTelemetry.refl u))
      rintro result v ⟨hrest, hlater⟩ value hvalue key hkey
      rw [List.map_cons] at hkey
      rcases List.mem_cons.mp hkey with rfl | hkey
      · exact hlater.persisted _ hmem
      · exact hrest value hvalue key hkey
    match reply with
    | .unavailable => exact raise_safe _ u
    | .committed | .conflict => exact hnext (hpers (by simp))

/-- The mark of a request is reached. -/
def Advance.Done (request : Advance) (s : TelemetryStore) : Prop :=
  request.mark.Reached (s.marks.marks (request.row, request.name))

/-- An answered update leaves its mark reached. -/
theorem advance_done {reply : WriteReply} (hreply : reply ≠ .unavailable)
    (h : telemetryExec (.advance request) outcome s = some (reply, t)) : request.Done t := by
  have hatt : attempt outcome.fault (TelemetryStore.advance request) s = (reply, t) :=
    Option.some.inj h
  rcases attempt_cases hatt with ⟨rfl, -, hlost | hrefused⟩ | ⟨hadvance, -⟩
  · simp only [attempt, hlost] at hatt
    exact absurd (congrArg Prod.fst hatt).symm hreply
  · exact MarkTable.reached_of_advance_eq_none (Option.map_eq_none_iff.mp hrefused)
  · obtain ⟨marks, hmarks, rfl⟩ := Option.map_eq_some_iff.mp hadvance
    exact ⟨request.mark, (MarkTable.advance_cases hmarks).1, Mark.lt_irrefl _⟩

/-- When all were answered, all marks are reached. -/
theorem applyIngestMarks_safeOk {justified : TelemetryOp → TelemetryStore → Prop}
    {I : TelemetryStore → Prop} {rely guarantee : TelemetryStore → TelemetryStore → Prop}
    (hkept : Kept telemetryExec (fun _ _ _ => True) justified I rely guarantee)
    (hrefl : ∀ s, rely s s) (hraised : ∀ s t, rely s t → MarksRaised s t)
    (hraise : ∀ s, justified .raised s) :
    ∀ (requests : List Advance) (s : TelemetryStore),
      (∀ request ∈ requests, ∀ t, justified (.advance request) t) →
      SafeOk telemetryExec (fun _ _ _ => True) I rely guarantee
        (fun _ t => ∀ request ∈ requests, request.Done t) (applyIngestMarks requests) s := by
  intro requests
  induction requests with
  | nil =>
    intro s _
    exact SafeOk.ok (by simp)
  | cons request requests ih =>
    intro s hrequests
    simp only [applyIngestMarks, Program.perform_bind]
    refine hkept.safe_call (fun t _ _ => hrequests request List.mem_cons_self t) ?_
    intro t outcome reply u _ _ hexec _ _
    have hrest := ih u fun other hother => hrequests other (List.mem_cons_of_mem _ hother)
    have hnext : request.Done u → SafeOk telemetryExec (fun _ _ _ => True) I rely guarantee
        (fun _ t => ∀ other ∈ request :: requests, other.Done t) (applyIngestMarks requests) u := by
      intro hreached
      refine Program.Safe.mono ?_ (hkept.framed hrest (hrefl u))
      rintro result v ⟨hdone, hlater⟩ value hvalue other hother
      rcases List.mem_cons.mp hother with rfl | hother
      · exact hraised u v hlater _ _ hreached
      · exact hdone value hvalue other hother
    match reply with
    | .unavailable =>
      refine hkept.safe_call (fun t _ _ => hraise t) ?_
      intro _ _ kind v _ _ _ _ _
      exact SafeOk.error _ v
    | .committed | .conflict => exact hnext (advance_done (by simp) hexec)

/-- The marks are reached. -/
theorem applyIngestMarks_safe (requests : List Advance) (s : TelemetryStore) :
    SafeStage (fun _ t => ∀ request ∈ requests, request.Done t) (applyIngestMarks requests) s :=
  applyIngestMarks_safeOk telemetry_kept LaterTelemetry.refl (fun _ _ h => h.marks)
    (fun _ => trivial) requests s fun _ _ _ => trivial

/-! ## Messages -/

/-- Each observation has a verdict, in order: every enabled writer took its point, or its row is
persisted. -/
structure ConservedBy (config : ProcessorConfig) (envelope : IngressEnvelope)
    (verdicts : List Verdict) (s : TelemetryStore) : Prop where
  judged : Normalized config envelope.observations verdicts
  sizes : (collect verdicts).accepted.length + (collect verdicts).quarantined.length =
    envelope.observations.length
  written : Written config (collect verdicts).accepted s
  persisted : ∀ key ∈ envelope.rowKeys ((collect verdicts).quarantined.map (·.sourceExcerptJson)),
    key ∈ s.persisted
  distinct : (envelope.rowKeys ((collect verdicts).quarantined.map (·.sourceExcerptJson))).Nodup
  rows : (envelope.rowKeys ((collect verdicts).quarantined.map (·.sourceExcerptJson))).length =
    (collect verdicts).quarantined.length

/-- The message was fenced on a verified account: all rows and the summary are persisted, and the
connector is marked unless it is a replay. -/
structure FencedBy (config : ProcessorConfig) (envelope : IngressEnvelope) (fence : IngressFence)
    (s : TelemetryStore) : Prop where
  classified : ∃ integration account device,
    classifyFence envelope integration account device = some (.fence fence)
  verified : fence.accountVerified = true
  persisted : ∀ key ∈ fencedKeys config.encoding envelope, key ∈ s.persisted
  distinct : (fencedKeys config.encoding envelope).Nodup
  rows : (fencedKeys config.encoding envelope).length = envelope.observations.length + 1
  marked : envelope.replay = false → (fenceAdvance envelope fence).Done s

/-- What the category of a message says about the store. -/
def Accounted (config : ProcessorConfig) (envelope : IngressEnvelope)
    (category : IngressFailureCategory) (s : TelemetryStore) : Prop :=
  (category = .processed → ∃ verdicts, ConservedBy config envelope verdicts s) ∧
    (category = .fenced → ∃ fence, FencedBy config envelope fence s)

/-- A category that says nothing. -/
theorem Accounted.of_ne {category : IngressFailureCategory} (hprocessed : category ≠ .processed)
    (hfenced : category ≠ .fenced) (s : TelemetryStore) : Accounted config envelope category s :=
  ⟨fun h => absurd h hprocessed, fun h => absurd h hfenced⟩

/-- A failure says nothing. -/
theorem Accounted.of_failure (inPipeline : Bool) (failure : Failure) (s : TelemetryStore) :
    Accounted config envelope (categoryOf inPipeline failure) s := by
  cases failure with
  | write retryable =>
    cases retryable <;> exact Accounted.of_ne (by simp [categoryOf]) (by simp [categoryOf]) s
  | raised kind =>
    cases kind <;> cases inPipeline <;>
      exact Accounted.of_ne (by simp [categoryOf]) (by simp [categoryOf]) s

/-- A message stays conserved. -/
theorem ConservedBy.later (h : ConservedBy config envelope verdicts s)
    (hlater : LaterTelemetry s t) : ConservedBy config envelope verdicts t :=
  { h with
    written := h.written.later hlater
    persisted := fun key hkey => hlater.persisted key (h.persisted key hkey) }

/-- A message stays fenced. -/
theorem FencedBy.later (h : FencedBy config envelope fence s) (hlater : LaterTelemetry s t) :
    FencedBy config envelope fence t :=
  { h with
    persisted := fun key hkey => hlater.persisted key (h.persisted key hkey)
    marked := fun hreplay => hlater.marks _ _ (h.marked hreplay) }

/-- A fence is the classification of some rows. -/
theorem fence_classifies (envelope : IngressEnvelope) :
    (TrustedMapping.fence envelope).Returns fun result => ∀ fence, result = some (.fence fence) →
      ∃ integration account device,
        classifyFence envelope integration account device = some (.fence fence) := by
  have hres : ∀ integration account device fence,
      TrustedMapping.fenceResult envelope integration account device = some (.fence fence) →
      ∃ integration account device,
        classifyFence envelope integration account device = some (.fence fence) := by
    intro integration account device fence h
    refine ⟨integration, account, device, ?_⟩
    unfold TrustedMapping.fenceResult at h
    split at h
    · next hfence =>
      cases h
      exact hfence
    · cases h
    · cases integration <;> cases h
  refine Program.Returns.bind (Program.Returns.trivial _) ?_
  intro integration _
  split
  · simp [Program.Returns]
  · refine Program.Returns.bind (Program.Returns.trivial _) ?_
    intro account _
    split
    · simp [Program.Returns]
    · split
      · exact hres _ _ _
      · refine Program.Returns.bind (Program.Returns.trivial _) ?_
        intro device _
        split
        · simp [Program.Returns]
        · exact hres _ _ _

section Process

variable {config : ProcessorConfig} {envelope : IngressEnvelope} {clock : ProcessClock}

/-- Nothing happens when a value is validated. -/
theorem orRaise_safe (found : Option α) (s : TelemetryStore) :
    SafeStage (fun value _ => found = some value) (orRaise found) s := by
  cases found with
  | none => exact SafeOk.error _ s
  | some => exact SafeOk.ok rfl

/-- The fence is marked. -/
theorem recordFence_safe (hverified : fence.accountVerified = true) (s : TelemetryStore) :
    SafeStage (fun _ t => envelope.replay = false → (fenceAdvance envelope fence).Done t)
      (recordFence envelope fence) s := by
  refine Program.Safe.mono ?_ (applyIngestMarks_safe _ s)
  intro result t hmarks value hvalue hreplay
  refine hmarks value hvalue _ ?_
  rw [fenceMarks_advances hreplay hverified]
  exact List.mem_singleton_self _

/-- A fenced message is accounted for. -/
theorem processFence_safe (hclass : ∃ integration account device,
      classifyFence envelope integration account device = some (.fence fence))
    (s : TelemetryStore) :
    SafeStage (Accounted config envelope) (processFence config envelope clock fence) s := by
  unfold processFence
  split
  · exact SafeOk.ok (Accounted.of_ne (by simp) (by simp) s)
  · next hverified =>
    have hverified : fence.accountVerified = true := by simpa using hverified
    refine SafeStage.andThen (orRaise_safe _ s) ?_
    intro rows t hrows _
    refine SafeStage.andThen (putQuarantineEntries_safe rows t) ?_
    intro _ u hpers _
    rw [fencedRows_spec hrows] at hpers
    refine SafeStage.andThen (recordFence_safe hverified u) ?_
    intro _ v hmarked hlater
    refine SafeOk.ok ⟨by simp, fun _ => ⟨fence, ?_⟩⟩
    exact {
      classified := hclass
      verified := hverified
      persisted := fun key hkey => hlater.persisted key (hpers key hkey)
      distinct := fencedKeys_nodup _ _
      rows := fencedKeys_length _ _
      marked := hmarked }

/-- Rows and marks after the writes. -/
theorem processResult_safe {receiveCount : Nat}
    (hjudged : Normalized config envelope.observations verdicts)
    (hwritten : Written config (collect verdicts).accepted s) :
    SafeStage (Accounted config envelope)
      (processResult config envelope clock (collect verdicts) receiveCount) s := by
  refine SafeStage.andThen (orRaise_safe _ s) ?_
  intro rows t hrows hlater
  refine SafeStage.andThen (putQuarantineEntries_safe rows t) ?_
  intro _ u hpers hlater'
  rw [outcomeRows_spec hrows] at hpers
  refine SafeStage.andThen (SafeStage.of_returns (Program.ReturnsOk.trivial _) u) ?_
  intro _ v _ hlater''
  obtain ⟨_, _, _, _, hverdicts⟩ := hjudged
  refine SafeOk.ok ⟨fun _ => ⟨verdicts, ?_⟩, by simp⟩
  exact {
    judged := ⟨_, _, _, _, hverdicts⟩
    sizes := by rw [collect_length, hverdicts.length_eq]
    written := hwritten.later (hlater.trans (hlater'.trans hlater''))
    persisted := fun key hkey => hlater''.persisted key (hpers key hkey)
    distinct := rowKeys_nodup _ _
    rows := by rw [rowKeys_length, List.length_map] }

/-- Observations are judged, and accepted ones written. -/
theorem ingest_safe (context : TrustedSourceContext) (ingestedAt : Time) (s : TelemetryStore) :
    SafeStage (fun result t => ∃ verdicts, result = collect verdicts ∧
        Normalized config envelope.observations verdicts ∧
        Written config (collect verdicts).accepted t)
      (ingest config context ingestedAt envelope.observations) s := by
  refine SafeStage.andThen (SafeStage.of_returns (normalize_normalized _ _ _ _) s) ?_
  rintro result t ⟨verdicts, hjudged, rfl⟩ _
  refine SafeStage.andThen (writeService_safe config _ t) ?_
  intro _ u hwritten _
  exact SafeOk.ok ⟨verdicts, rfl, hjudged, hwritten⟩

/-- An accounted stage has an accounted category. -/
theorem categorized_safe {p : TelemetryProgram (Except Failure IngressFailureCategory)}
    (hp : SafeStage (Accounted config envelope) p s) :
    SafeTelemetry (p >>= fun outcome => pure (categorized false outcome))
      (Accounted config envelope) s := by
  refine Program.Safe.bind hp ?_
  intro outcome t hout
  cases outcome with
  | ok category => exact hout category rfl
  | error failure => exact Accounted.of_failure false failure t

/-- A trusted message is accounted for. -/
theorem processIngest_safe (context : TrustedSourceContext) (receiveCount : Nat)
    (s : TelemetryStore) :
    SafeTelemetry (processIngest config envelope clock context receiveCount)
      (Accounted config envelope) s := by
  refine Program.Safe.bind (ingest_safe context clock.ingestedAt s) ?_
  intro outcome t hout
  match outcome with
  | .error failure => exact Accounted.of_failure true failure t
  | .ok result =>
    obtain ⟨verdicts, rfl, hjudged, hwritten⟩ := hout result rfl
    exact categorized_safe (processResult_safe hjudged hwritten)

/-- Every envelope is accounted for. -/
theorem processEnvelope_safe (receiveCount : Nat) (s : TelemetryStore) :
    SafeTelemetry (processEnvelope config envelope clock receiveCount)
      (Accounted config envelope) s := by
  have hfence : SafeTelemetry (liftMapping (TrustedMapping.fence envelope))
      (fun result t => (∀ fence, result = some (.fence fence) →
        ∃ integration account device,
          classifyFence envelope integration account device = some (.fence fence)) ∧
        LaterTelemetry s t) s :=
    telemetry_kept.safe_of_returns (Program.Performs.of_forall (fun _ _ => trivial) _)
      (fence_classifies envelope).embed (LaterTelemetry.refl s)
  refine Program.Safe.bind hfence ?_
  rintro result t ⟨hclass, -⟩
  match result with
  | none => exact categorized_safe (raise_safe _ t)
  | some (.defer reason) => exact Accounted.of_ne (by simp) (by simp) t
  | some (.fence fence) => exact categorized_safe (processFence_safe (hclass fence rfl) t)
  | some (.trusted context) => exact processIngest_safe context receiveCount t

end Process

/-- A deleted message was conserved or fenced. -/
def Deleted (config : ProcessorConfig) (message : IngressQueueMessage) (s : TelemetryStore) : Prop :=
  ∃ envelope, config.encoding.envelopeOfJson message.body = some envelope ∧
    ((∃ verdicts, ConservedBy config envelope verdicts s) ∨
      ∃ fence, FencedBy config envelope fence s)

/-- What a deletion says stays true. -/
theorem Deleted.later
    (h : Deleted config message s) (hlater : LaterTelemetry s t) : Deleted config message t := by
  obtain ⟨envelope, hparsed, ⟨verdicts, hconserved⟩ | ⟨fence, hfenced⟩⟩ := h
  · exact ⟨envelope, hparsed, .inl ⟨verdicts, hconserved.later hlater⟩⟩
  · exact ⟨envelope, hparsed, .inr ⟨fence, hfenced.later hlater⟩⟩

/-- A deleted message was conserved or fenced. -/
theorem process_safe (config : ProcessorConfig) (retry : RetryPolicy)
    (message : IngressQueueMessage) (clock : ProcessClock) (s : TelemetryStore) :
    SafeTelemetry (process config retry message clock)
      (fun decision t => decision.action = .delete → Deleted config message t) s := by
  unfold process categorize
  split
  · intro hdelete
    rcases RetryPolicy.decision_eq_delete_iff.mp hdelete with h | h <;> cases h
  · next envelope hparsed =>
    refine Program.Safe.bind (processEnvelope_safe message.receiveCount s) ?_
    intro category t haccounted hdelete
    rcases RetryPolicy.decision_eq_delete_iff.mp hdelete with hprocessed | hfenced
    · exact ⟨envelope, hparsed, .inl (haccounted.1 hprocessed)⟩
    · exact ⟨envelope, hparsed, .inr (haccounted.2 hfenced)⟩

/-- What a call establishes when it ends. -/
def TelemetryCall.Ended (config : ProcessorConfig) (result : TelemetryResult)
    (s : TelemetryStore) : TelemetryCall → Prop
  | .process message _ _ => ∀ decision, result = some decision → decision.action = .delete →
      Deleted config message s
  | _ => True

/-- The contract of the workers. -/
theorem telemetry_contract (config : ProcessorConfig) :
    Contract (telemetryMachine config) (fun _ _ _ => True) LogsComplete LaterTelemetry
      LaterTelemetry (fun c result s => c.Ended config result s) where
  rely_refl := LaterTelemetry.refl
  rely_trans _ _ _ := LaterTelemetry.trans
  guarantee_refl := LaterTelemetry.refl
  guarantee_rely := id
  post_stable c result s t hended hlater _ := by
    cases c with
    | process =>
      exact fun decision hdecis hdelete => (hended decision hdecis hdelete).later hlater
    | writeReferences rows | changeRow key change => trivial
  body_safe {c s} _ _ := by
    cases c with
    | process message retry clock =>
      refine Program.Safe.bind (process_safe config retry message clock s) ?_
      rintro decision t hdeleted _ ⟨⟩
      exact hdeleted
    | writeReferences rows | changeRow key change =>
      exact telemetry_kept.safe_call (fun _ _ _ => trivial) fun _ _ _ _ _ _ _ _ _ => trivial

/-- In every run, deleted messages were conserved or fenced. -/
theorem deleted_of_run (config : ProcessorConfig) (hs : LogsComplete s)
    {schedule : List (Action TelemetryOutcome TelemetryCall)}
    {w : World TelemetryStore TelemetryCall TelemetryResult TelemetryOp TelemetryReply}
    (hrun : (telemetryMachine config).run (Machine.initial s) schedule = some w)
    {retry : RetryPolicy} {clock : ProcessClock} {decision : ProcessDecision}
    (hproc : (TelemetryCall.process message retry clock, Program.done (some decision)) ∈
      w.processes) (hdelete : decision.action = .delete) : Deleted config message w.store := by
  obtain ⟨-, hsafe, -⟩ := (telemetry_contract config).run_initial hs
    (Machine.guarded_true schedule _) hrun
  exact hsafe _ hproc decision rfl hdelete

end LimnoPulse.Ingestion
