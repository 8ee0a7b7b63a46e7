import LimnoPulse.Ingestion.EnvelopeJson
import LimnoPulse.Ingestion.QuarantineReplay
import LimnoPulse.Ingestion.Redelivery

/-!
# Replays carry the original observations

A replayable quarantine row holds its whole observation: the text is read back as that
observation, whether it was written for a fenced message or for what the pipeline set
aside.  The replay of a fenced message repeats its observations and names its root.

Main results:

- Theorem `fencedRows_faithful`: the rows of a fenced message.
- Theorem `replay_fidelity`: replays of every envelope.
-/

namespace LimnoPulse.Ingestion

open StoreProgram JsonText

variable {ordinal : Int} {fence : IngressFence} {sources : List SourceObservation}
  {ingressId : String}

/-! ## The texts of the source -/

/-- An encoding with the source's texts of observations. -/
def PythonText.encode (texts : PythonText) (base : TelemetryEncoding) : TelemetryEncoding :=
  { base with
    observationJson := fun o => print texts.floats .compact (.object (o.modelDump true))
    payloadExcerpt := fun o => (boundedExcerpt texts (.object (o.modelDump true))).1
    boundedExcerpt := fun o => boundedExcerpt texts (.object (o.modelDump false))
    observationOfJson := SourceObservation.modelValidateJson texts }

section

variable (texts : PythonText) (base : TelemetryEncoding) (o : SourceObservation)

/-- The text of an observation. -/
@[simp]
theorem encode_observationJson :
    (texts.encode base).observationJson o =
      print texts.floats .compact (.object (o.modelDump true)) := by
  simp only [PythonText.encode]

/-- The excerpt of a payload. -/
@[simp]
theorem encode_payloadExcerpt :
    (texts.encode base).payloadExcerpt o = (boundedExcerpt texts (.object (o.modelDump true))).1 := by
  simp only [PythonText.encode]

/-- The excerpt, and whether it is whole. -/
@[simp]
theorem encode_boundedExcerpt :
    (texts.encode base).boundedExcerpt o = boundedExcerpt texts (.object (o.modelDump false)) := by
  simp only [PythonText.encode]

end

/-- How a text is read. -/
@[simp]
theorem encode_observationOfJson (texts : PythonText) (base : TelemetryEncoding) (text : String) :
    (texts.encode base).observationOfJson text = SourceObservation.modelValidateJson texts text := by
  simp only [PythonText.encode]

/-- The encoding of replays with these texts. -/
def PythonText.encodeReplay (texts : PythonText) (base : ReplayEncoding) : ReplayEncoding :=
  { base with toTelemetryEncoding := texts.encode base.toTelemetryEncoding }

/-- A replayable row has the text of this observation. -/
def Faithful (encoding : TelemetryEncoding) (source : SourceObservation) (row : QuarantineFields) :
    Prop :=
  row.replayable = true → ∃ text, row.sourceObservationJson = some text ∧
    encoding.observationOfJson text = some source

/-- Valid observations whose doubles are printed without loss. -/
structure Observed (texts : PythonText) (envelope : IngressEnvelope) : Prop where
  valid : ∀ o ∈ envelope.observations, o.valid texts = true
  exact : ∀ o ∈ envelope.observations, o.Exact texts

section Fidelity

variable {texts : PythonText} {base : TelemetryEncoding} {envelope : IngressEnvelope}
variable {now : Time} {source : SourceObservation} {rows : List QuarantineFields}
  {config : ProcessorConfig} {context : TrustedSourceContext}

/-- A row is as faithful as its content. -/
theorem faithful_of_content {encoding : TelemetryEncoding} {content : RowContent}
    {text : String} (htext : content.sourceJson = some text)
    (hread : content.truncated = false → ∀ found, encoding.observationOfJson text = some found →
      found = source) :
    Faithful encoding source (quarantineFields encoding envelope now ordinal content) := by
  intro hreplayable
  have hreplayable : isReplayable encoding content.kind content.sourceJson content.truncated = true :=
    hreplayable
  simp only [isReplayable, htext, Option.any_some, Bool.and_eq_true, Bool.not_eq_true',
    Option.isSome_iff_exists] at hreplayable
  obtain ⟨⟨-, htruncated⟩, found, hfound⟩ := hreplayable
  exact ⟨text, htext, by rw [hfound, hread htruncated found hfound]⟩

section

variable (encoding : TelemetryEncoding) (fence : IngressFence) (source : SourceObservation)

/-- The text behind a fence. -/
theorem fencedContent_sourceJson : (fencedContent encoding fence source).sourceJson =
      some (observationExcerpt encoding source).1 := rfl

/-- Whether it was cut. -/
theorem fencedContent_truncated : (fencedContent encoding fence source).truncated =
      (observationExcerpt encoding source).2 := rfl

end

/-- A whole text is the compact one. -/
theorem observationExcerpt_of_complete {encoding : TelemetryEncoding}
    (h : (observationExcerpt encoding source).2 = false) :
    (observationExcerpt encoding source).1 = encoding.observationJson source := by
  simp only [observationExcerpt] at h ⊢
  split at h
  next hsize => rw [if_pos hsize]
  next => cases h

/-- A row behind a fence is faithful. -/
theorem fencedContent_faithful (hvalid : source.valid texts = true) (hexact : source.Exact texts) :
    Faithful (texts.encode base) source (quarantineFields (texts.encode base) envelope now ordinal
      (fencedContent (texts.encode base) fence source)) := by
  refine faithful_of_content (fencedContent_sourceJson _ _ _) ?_
  intro htruncated found hfound
  rw [fencedContent_truncated] at htruncated
  rw [observationExcerpt_of_complete htruncated, encode_observationOfJson, encode_observationJson,
    SourceObservation.observationJson_exact hvalid hexact] at hfound
  exact (Option.some.inj hfound).symm

/-- One for each observation, then the summary. -/
theorem fencedRows_faithful (hobs : Observed texts envelope)
    (h : fencedRows (texts.encode base) envelope fence now = some rows) :
    ∃ observed summary, rows = observed ++ [summary] ∧ summary.replayable = false ∧
      List.Forall₂ (fun source row => Faithful (texts.encode base) source row ∧ ∃ ordinal,
        row = quarantineFields (texts.encode base) envelope now ordinal
          (fencedContent (texts.encode base) fence source)) envelope.observations observed := by
  obtain ⟨observed, hrows, h⟩ := Option.bind_eq_some_iff.mp h
  obtain ⟨summary, hsummary, rfl⟩ := Option.map_eq_some_iff.mp h
  refine ⟨observed, summary, rfl, ?_, ?_⟩
  · simp only [addRow] at hsummary
    split at hsummary
    · cases hsummary
      rfl
    · contradiction
  · have hrows := List.forall₂_map_left_iff.mp (addRows_forall₂ hrows)
    have hsources : ∀ source ∈ envelope.observations, source.valid texts = true ∧ source.Exact texts :=
      fun source hsource => ⟨hobs.valid source hsource, hobs.exact source hsource⟩
    refine ((List.forall₂_and_left _ _).mpr ⟨hsources, hrows⟩).imp ?_
    rintro source row ⟨⟨hvalid, hexact⟩, ordinal, rfl⟩
    exact ⟨fencedContent_faithful hvalid hexact, ordinal, rfl⟩

/-- What is set aside is recorded. -/
def Recorded (config : ProcessorConfig) (context : TrustedSourceContext) (source : SourceObservation) :
    Verdict → Prop
  | .accepted _ => True
  | .quarantined q => ∃ quarantine, q = quarantineRecord config context source quarantine

/-- What was set aside is recorded whole. -/
theorem Judged.recorded {versions : NormalizationVersions} {policy : QualityPolicy} {ingestedAt : Time}
    {C : String → Option DeviceComponent → Prop}
    {D : String → Time → Option Deployments.Deployment → Prop} {source : SourceObservation}
    {verdict : Verdict} (h : Judged config context versions policy ingestedAt C D source verdict) :
    Recorded config context source verdict := by
  cases h with
  | unmeasured | unplaced => exact ⟨_, rfl⟩
  | accepted => trivial

/-- What was set aside, with its reasons. -/
theorem exists_setAside {verdicts : List Verdict}
    (h : List.Forall₂ (Recorded config context) sources verdicts) :
    ∃ setAside : List (SourceObservation × Quarantine), (setAside.map Prod.fst).Sublist sources ∧
      (collect verdicts).quarantined =
        setAside.map fun p => quarantineRecord config context p.1 p.2 := by
  induction h with
  | nil => exact ⟨[], List.Sublist.refl _, rfl⟩
  | @cons source verdict sources verdicts hverdict _ ih =>
    obtain ⟨setAside, hsublist, hquar⟩ := ih
    cases verdict with
    | accepted => exact ⟨setAside, hsublist.cons source, hquar⟩
    | quarantined =>
      obtain ⟨quarantine, rfl⟩ := hverdict
      refine ⟨(source, quarantine) :: setAside, hsublist.cons_cons source, ?_⟩
      rw [List.map_cons, ← hquar]
      rfl

/-- The rows of what was set aside. -/
theorem outcomeRows_faithful {setAside : List (SourceObservation × Quarantine)}
    (hconfig : config.encoding = texts.encode base) (hobs : Observed texts envelope)
    (hsublist : (setAside.map Prod.fst).Sublist envelope.observations)
    (h : outcomeRows config.encoding envelope
      (setAside.map fun p => quarantineRecord config context p.1 p.2) now = some rows) :
    List.Forall₂ (Faithful config.encoding) (setAside.map Prod.fst) rows := by
  have hrows := addRows_forall₂ h
  rw [List.map_map, List.forall₂_map_left_iff] at hrows
  rw [List.forall₂_map_left_iff]
  have hsources : ∀ p ∈ setAside, p.1 ∈ envelope.observations := fun p hp =>
    hsublist.subset (List.mem_map_of_mem hp)
  refine ((List.forall₂_and_left _ _).mpr ⟨hsources, hrows⟩).imp ?_
  rintro ⟨source, quarantine⟩ row ⟨hsource, ordinal, rfl⟩
  refine faithful_of_content rfl ?_
  intro htruncated found hfound
  have hcut : (config.encoding.boundedExcerpt source).2 = false := htruncated
  have hfound : config.encoding.observationOfJson (config.encoding.boundedExcerpt source).1 =
      some found := hfound
  rw [hconfig, encode_boundedExcerpt] at hcut hfound
  rw [encode_observationOfJson] at hfound
  have htext := Prod.mk.eta (p := boundedExcerpt texts (.object (source.modelDump false)))
  rw [hcut] at htext
  exact SourceObservation.boundedExcerpt_exact (hobs.valid source hsource)
    (hobs.exact source hsource) htext.symm hfound

/-! ## Replays -/

theorem earliest_of_eq {first : Time} {times : List Time} (h : ∀ t ∈ times, t = first) :
    earliest first times = first := by
  unfold earliest
  induction times with
  | nil => rfl
  | cons t times ih =>
    obtain ⟨rfl, htimes⟩ := List.forall_mem_cons.mp h
    rw [List.foldl_cons, min_self]
    exact ih htimes

/-- What a row repeats of its envelope. -/
structure Repeats (envelope : IngressEnvelope) (row : QuarantineFields) : Prop where
  ingressId : row.ingressId = envelope.ingressId
  replayOf : row.replayOf = envelope.replayOf
  tenantId : row.tenantId = envelope.tenantId
  integrationAccountId : row.integrationAccountId = envelope.integrationAccountId
  providerKey : row.providerKey = envelope.providerKey
  externalIdentityHash : row.externalIdentityHash = envelope.externalIdentityHash
  deviceIntegrationId : row.deviceIntegrationId = envelope.deviceIntegrationId
  deviceId : row.deviceId = envelope.deviceId
  sourceType : row.sourceType = envelope.sourceType
  connectorVersion : row.connectorVersion = envelope.connectorVersion
  receivedAt : row.receivedAt = envelope.receivedAt
  mappingVersions : row.mappingVersions = envelope.mappingVersions

/-- A row repeats its message. -/
theorem quarantineFields_repeats (encoding : TelemetryEncoding) (envelope : IngressEnvelope)
    (now : Time) (ordinal : Int) (content : RowContent) :
    Repeats envelope (quarantineFields encoding envelope now ordinal content) :=
  ⟨rfl, rfl, rfl, rfl, rfl, rfl, rfl, rfl, rfl, rfl, rfl, rfl⟩

/-- The first message of a chain of replays. -/
def IngressEnvelope.root (envelope : IngressEnvelope) : String :=
  envelope.replayOf.getD envelope.ingressId

/-- A replay of an envelope with these observations. -/
def IngressEnvelope.replayFields (envelope : IngressEnvelope) (ingressId : String)
    (observations : List SourceObservation) : EnvelopeFields :=
  { envelope.toEnvelopeFields with
    ingressId := ingressId
    replayOf := some envelope.root
    replay := true
    observations := observations }

/-- A replay is valid. -/
theorem replayFields_valid (hid : isCanonicalId ingressId "ing" = true)
    {observations : List SourceObservation} (hperm : observations.Perm envelope.observations) :
    (envelope.replayFields ingressId observations).valid = true := by
  have hvalid := envelope.valid
  simp only [EnvelopeFields.valid, Bool.and_eq_true] at hvalid ⊢
  obtain ⟨⟨⟨⟨⟨⟨⟨hingress, hreplayOf⟩, hdevice⟩, hconnector⟩, htime⟩, hsome⟩, hlen⟩, -⟩ := hvalid
  have hroot : isCanonicalId envelope.root "ing" = true := by
    unfold IngressEnvelope.root
    cases hof : envelope.replayOf with
    | none => exact hingress
    | some =>
      rw [hof] at hreplayOf
      exact hreplayOf
  refine ⟨⟨⟨⟨⟨⟨⟨hid, hroot⟩, hdevice⟩, hconnector⟩, htime⟩, ?_⟩, ?_⟩, rfl⟩
  · rw [show (envelope.replayFields ingressId observations).observations = observations from rfl,
      List.isEmpty_eq_false_iff.mpr]
    · rfl
    · rintro rfl
      rw [List.nil_perm.mp hperm] at hsome
      contradiction
  · rw [show (envelope.replayFields ingressId observations).observations = observations from rfl,
      hperm.length_eq]
    exact hlen

/-- All are read. -/
theorem mapM_eq_some_filterMap {α β : Type} {f : α → Option β} :
    ∀ {xs : List α}, (∀ x ∈ xs, (f x).isSome = true) → xs.mapM f = some (xs.filterMap f)
  | [], _ => rfl
  | x :: xs, h => by
    obtain ⟨hx, hxs⟩ := List.forall_mem_cons.mp h
    obtain ⟨y, hy⟩ := Option.isSome_iff_exists.mp hx
    rw [List.mapM_cons, hy, mapM_eq_some_filterMap hxs, List.filterMap_cons_some hy]
    rfl

/-- The observation of a row. -/
def decodeRow (encoding : TelemetryEncoding) (row : QuarantineFields) : Option SourceObservation :=
  encoding.observationOfJson (row.sourceObservationJson.getD "")

/-- Faithful rows are decoded. -/
theorem decodeRow_of_faithful {encoding : TelemetryEncoding}
    (hrows : List.Forall₂ (Faithful encoding) sources rows)
    (hreplayable : ∀ row ∈ rows, row.replayable = true) :
    rows.filterMap (decodeRow encoding) = sources ∧
      ∀ row ∈ rows, (decodeRow encoding row).isSome = true := by
  induction hrows with
  | nil => exact ⟨rfl, by simp⟩
  | @cons source row sources rows hrow _ ih =>
    obtain ⟨hone, hrest⟩ := List.forall_mem_cons.mp hreplayable
    obtain ⟨text, htext, hread⟩ := hrow hone
    have hdec : decodeRow encoding row = some source := by
      rw [decodeRow, htext, Option.getD_some, hread]
    obtain ⟨hsources, hsome⟩ := ih hrest
    refine ⟨by rw [List.filterMap_cons_some hdec, hsources], ?_⟩
    exact List.forall_mem_cons.mpr ⟨by rw [hdec]; rfl, hsome⟩

/-- The envelope of all rows of a fenced message. -/
theorem replayEnvelope_faithful {encoding : ReplayEncoding} {observed group : List QuarantineFields}
    (hid : isCanonicalId ingressId "ing" = true)
    (hrows : List.Forall₂ (Faithful encoding.toTelemetryEncoding) envelope.observations observed)
    (hrepeats : ∀ row ∈ observed, Repeats envelope row)
    (hreplayable : ∀ row ∈ observed, row.replayable = true) (hgroup : group.Perm observed) :
    ∃ replayed, replayEnvelope encoding group ingressId = some replayed ∧
      replayed.observations.Perm envelope.observations ∧
      replayed.toEnvelopeFields = envelope.replayFields ingressId replayed.observations := by
  obtain ⟨hsources, hsome⟩ := decodeRow_of_faithful hrows hreplayable
  have hmapM := mapM_eq_some_filterMap fun row (hrow : row ∈ group) => hsome row (hgroup.mem_iff.mp hrow)
  have hperm : (group.filterMap (decodeRow encoding.toTelemetryEncoding)).Perm envelope.observations := by
    have := hgroup.filterMap (decodeRow encoding.toTelemetryEncoding)
    rwa [hsources] at this
  have hvalid := replayFields_valid hid hperm
  refine ⟨⟨envelope.replayFields ingressId _, hvalid⟩, ?_, hperm, rfl⟩
  match group with
  | [] =>
    have hnil : envelope.observations = [] := List.nil_perm.mp hperm
    have hsomething := envelope.valid
    simp [EnvelopeFields.valid, hnil] at hsomething
  | first :: rest =>
    have hrepeats : ∀ row ∈ first :: rest, Repeats envelope row := fun row hrow =>
      hrepeats row (hgroup.mem_iff.mp hrow)
    obtain ⟨hfirst, hrest⟩ := List.forall_mem_cons.mp hrepeats
    have hearliest : earliest first.receivedAt (rest.map (·.receivedAt)) = envelope.receivedAt := by
      rw [earliest_of_eq, hfirst.receivedAt]
      intro t ht
      obtain ⟨row, hrow, rfl⟩ := List.mem_map.mp ht
      rw [(hrest row hrow).receivedAt, hfirst.receivedAt]
    have hdecoded : (first :: rest).mapM (fun row =>
        encoding.observationOfJson (row.sourceObservationJson.getD "")) = some _ := hmapM
    simp only [replayEnvelope, hdecoded, Option.bind_some, hearliest, hfirst.ingressId, hfirst.replayOf,
      hfirst.tenantId, hfirst.integrationAccountId, hfirst.providerKey, hfirst.externalIdentityHash,
      hfirst.deviceIntegrationId, hfirst.deviceId, hfirst.sourceType, hfirst.connectorVersion,
      hfirst.mappingVersions]
    exact dif_pos hvalid

/-- For valid observations whose doubles are printed without loss.  A row of a verified fence is
marked replayable only if its text is read as its observation; if all are replayable, then the
replay of the rows in any order carries the same observations, identity and times, and the root of
the message.  The rows of what the pipeline sets aside are marked replayable only if they are read
as what was set aside. -/
theorem replay_fidelity (texts : PythonText) (base : ReplayEncoding) (envelope : IngressEnvelope)
    (hobserved : Observed texts envelope) :
    (∀ fence now rows, fence.accountVerified = true →
      fencedRows (texts.encodeReplay base).toTelemetryEncoding envelope fence now = some rows →
      ∃ observed summary, rows = observed ++ [summary] ∧ summary.replayable = false ∧
        List.Forall₂ (Faithful (texts.encodeReplay base).toTelemetryEncoding) envelope.observations
          observed ∧
        ((∀ row ∈ observed, row.replayable = true) →
          ∀ group ingressId, group.Perm observed → isCanonicalId ingressId "ing" = true →
          ∃ replayed, replayEnvelope (texts.encodeReplay base) group ingressId = some replayed ∧
            replayed.observations.Perm envelope.observations ∧
            replayed.receivedAt = envelope.receivedAt ∧
            replayed.mappingVersions = envelope.mappingVersions ∧
            replayed.tenantId = envelope.tenantId ∧
            replayed.integrationAccountId = envelope.integrationAccountId ∧
            replayed.providerKey = envelope.providerKey ∧
            replayed.externalIdentityHash = envelope.externalIdentityHash ∧
            replayed.deviceIntegrationId = envelope.deviceIntegrationId ∧
            replayed.deviceId = envelope.deviceId ∧
            replayed.replayOf = some (envelope.replayOf.getD envelope.ingressId))) ∧
    ∀ (config : ProcessorConfig) (context : TrustedSourceContext) (ingestedAt : Time),
      config.encoding = (texts.encodeReplay base).toTelemetryEncoding →
      (ingest config context ingestedAt envelope.observations).ReturnsOk fun result =>
        ∃ setAside : List (SourceObservation × Quarantine),
          (setAside.map Prod.fst).Sublist envelope.observations ∧
          result.quarantined = setAside.map (fun p => quarantineRecord config context p.1 p.2) ∧
          ∀ now rows, outcomeRows config.encoding envelope result.quarantined now = some rows →
            List.Forall₂ (Faithful config.encoding) (setAside.map Prod.fst) rows := by
  constructor
  · intro fence now rows _ hrows
    obtain ⟨observed, summary, hsplit, hsummary, hfaithful⟩ := fencedRows_faithful hobserved hrows
    have hrepeats : ∀ row ∈ observed, Repeats envelope row := by
      intro row hrow
      obtain ⟨source, -, -, ordinal, rfl⟩ := exists_of_forall₂ hfaithful hrow
      exact quarantineFields_repeats _ _ _ _ _
    have hfaithful : List.Forall₂ (Faithful (texts.encodeReplay base).toTelemetryEncoding)
        envelope.observations observed := hfaithful.imp fun _ _ h => h.1
    refine ⟨observed, summary, hsplit, hsummary, hfaithful, ?_⟩
    intro hreplayable group ingressId hgroup hid
    obtain ⟨replayed, hreplayed, hperm, hfields⟩ :=
      replayEnvelope_faithful hid hfaithful hrepeats hreplayable hgroup
    refine ⟨replayed, hreplayed, hperm, ?_⟩
    rw [hfields]
    exact ⟨rfl, rfl, rfl, rfl, rfl, rfl, rfl, rfl, rfl⟩
  · intro config context ingestedAt hconfig
    refine Program.ReturnsOk.andThen
      (normalize_judged (looksUp_returns _) envelope.observations) ?_
    rintro result ⟨policy, verdicts, rfl, hverdicts⟩
    refine Program.ReturnsOk.andThen (Program.ReturnsOk.trivial _) ?_
    intro _ _
    obtain ⟨setAside, hsublist, hquarantined⟩ := exists_setAside (hverdicts.imp fun _ _ => Judged.recorded)
    refine Program.ReturnsOk.ok ⟨setAside, hsublist, hquarantined, fun now rows hrows => ?_⟩
    rw [hquarantined] at hrows
    exact outcomeRows_faithful hconfig hobserved hsublist hrows

end Fidelity

namespace SampleTexts

/-- The encoding of the sample, for replays. -/
def encoding : ReplayEncoding :=
  { SampleFence.encoding with entryLe := fun _ _ => true, replayIngressId := fun _ => "" }

/-- The envelope is valid. -/
theorem observed : Observed texts envelope := by
  refine ⟨fun o ho => ?_, fun o ho x hx => ?_⟩
  · obtain rfl := List.mem_singleton.mp ho
    decide +kernel
  · obtain rfl := List.mem_singleton.mp ho
    cases hx

end SampleTexts

open SampleTexts

/-- A fenced message is replayed with its observation. -/
theorem replay_fidelity_of_fenced_message : Observed texts envelope ∧
    ∃ observed summary replayed,
      fencedRows (texts.encodeReplay encoding).toTelemetryEncoding
        envelope ⟨.accountRevoked, true⟩ 0 = some (observed ++ [summary]) ∧
      (∀ row ∈ observed, row.replayable = true) ∧
      replayEnvelope (texts.encodeReplay encoding) observed
        SampleAdmission.firstId = some replayed ∧
      replayed.observations.Perm envelope.observations := by
  have hrows : (fencedRows (texts.encodeReplay encoding).toTelemetryEncoding
      envelope ⟨.accountRevoked, true⟩ 0).map (·.map (·.replayable)) =
      some [true, false] := by decide +kernel
  obtain ⟨rows, hrows, hflags⟩ := Option.map_eq_some_iff.mp hrows
  obtain ⟨observed, summary, rfl, hsummary, hfaithful, hreplay⟩ :=
    (replay_fidelity texts encoding envelope SampleTexts.observed).1 _ _ rows rfl hrows
  have hreplayable : ∀ row ∈ observed, row.replayable = true := by
    rw [List.map_append, List.map_singleton, hsummary] at hflags
    have hflags : observed.map (·.replayable) ++ [false] = [true] ++ [false] := hflags
    have hall := List.append_cancel_right hflags
    intro row hrow
    exact List.mem_singleton.mp (hall ▸ List.mem_map_of_mem hrow)
  obtain ⟨replayed, hreplayed, hperm, -⟩ :=
    hreplay hreplayable observed SampleAdmission.firstId (List.Perm.refl _) (by decide)
  exact ⟨SampleTexts.observed, observed, summary, replayed, hrows, hreplayable, hreplayed, hperm⟩

end LimnoPulse.Ingestion
