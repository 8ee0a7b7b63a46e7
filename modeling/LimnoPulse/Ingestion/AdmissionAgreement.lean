import LimnoPulse.Ingestion.Redelivery

/-!
# Admission and processing agree

A batch that is admitted passes the fence when it is consumed, as long as the mapping
rows stay what they were, and its components are those that the normalizer finds
owned.  Conversely, what passes the fence would be admitted.

Main results:

- Theorem `fenceOf_envelope`: the fence of an admitted envelope.
- Theorem `admission_agrees`: both directions.
-/

namespace LimnoPulse.Ingestion

open StoreProgram

variable {envelope : IngressEnvelope}

section Agreement

variable {rows : ReferenceRows}
variable {source : AuthenticatedSource} {context : TrustedSourceContext} {config : ProcessorConfig}

/-- A successful run returns what is known of it. -/
theorem MappingReads.of_trace {α : Type} {P : α → Prop} {p : MappingProgram (Option α)}
    {ops : List MappingOp} {value : α} (h : MappingReads rows P p)
    (htrace : Program.Trace rows.mapping.Possible p ops (.done (.some value))) : P value := by
  exact (Program.Within.trace htrace h).2 value rfl

/-! ## What an admission says about the rows -/

/-- The component is one of the device, and active. -/
def OwnsActive (rows : ReferenceRows) (integration : DeviceIntegration) (componentId : String) : Prop :=
  ∃ component, componentOf rows integration.tenantId componentId = some component ∧
    component.tenantId = integration.tenantId ∧ component.deviceId = integration.deviceId ∧
    component.status = .active

/-- A component as it is stored. -/
theorem getComponent_reads (tenantId componentId : String) :
    MappingReads rows (fun component => component = componentOf rows tenantId componentId)
      (getComponent tenantId componentId) :=
  MappingReads.read MappingReads.none MappingReads.none (MappingReads.some rfl)

/-- Active components are owned. -/
theorem activeComponents_reads (integration : DeviceIntegration) :
    ∀ wanted, MappingReads rows
      (fun active => ∀ componentId ∈ active, OwnsActive rows integration componentId)
      (TrustedMapping.activeComponents integration wanted)
  | [] => MappingReads.some (by simp)
  | componentId :: rest => by
    refine MappingReads.bind (getComponent_reads _ _) MappingReads.none ?_
    rintro component rfl
    refine MappingReads.bind (activeComponents_reads integration rest) MappingReads.none ?_
    intro active hact
    refine MappingReads.some ?_
    split
    next howned =>
      refine List.forall_mem_cons.mpr ⟨?_, hact⟩
      obtain ⟨component, hcomp, hall⟩ := Option.any_eq_true _ _ |>.mp howned
      simp only [Bool.and_eq_true, decide_eq_true_eq] at hall
      exact ⟨component, hcomp, hall.1.1, hall.1.2, hall.2⟩
    next => exact hact

/-- One active component for each observation. -/
theorem resolveComponentSelectors_mem {defaultComponentId : String} {active : List String} :
    ∀ {observations : List IngestSourceObservation} {index : Nat} {resolved : List String},
      TrustedMapping.resolveComponentSelectors defaultComponentId active observations index =
        .ok resolved → ∀ componentId ∈ resolved, componentId ∈ active
  | [], _, _, h => by
    cases h
    simp
  | observation :: rest, index, resolved, h => by
    have hrest : ∀ {componentId : String}, componentId ∈ active →
        (TrustedMapping.resolveComponentSelectors defaultComponentId active rest (index + 1)).map
          (componentId :: ·) = .ok resolved → ∀ found ∈ resolved, found ∈ active := by
      intro componentId hmem hmap
      cases htail : TrustedMapping.resolveComponentSelectors defaultComponentId active rest
          (index + 1) with
      | error =>
        rw [htail] at hmap
        cases hmap
      | ok =>
        rw [htail] at hmap
        cases hmap
        exact List.forall_mem_cons.mpr ⟨hmem, resolveComponentSelectors_mem htail⟩
    rw [TrustedMapping.resolveComponentSelectors] at h
    split at h
    · split at h
      · cases h
      · next hmem => exact hrest (by simpa using hmem) h
    · split at h
      · cases h
      · next hmem => exact hrest (by simpa using hmem) h

/-- Components come from the resolution. -/
theorem componentId_of_mem_zipWith {observations : List IngestSourceObservation}
    {resolved : List String} {o : SourceObservation}
    (h : o ∈ List.zipWith IngestSourceObservation.withComponent observations resolved) :
    o.componentId ∈ resolved := by
  induction observations generalizing resolved with
  | nil => simp at h
  | cons observation observations ih =>
    cases resolved with
    | nil => simp at h
    | cons =>
      rw [List.zipWith_cons_cons] at h
      rcases List.mem_cons.mp h with rfl | h
      · exact List.mem_cons_self
      · exact List.mem_cons_of_mem _ (ih h)

/-- What the rows say of an admission. -/
structure Admitted (rows : ReferenceRows) (source : AuthenticatedSource) (admission : IngressAdmission) :
    Prop where
  caller : admission.source = source
  integration : integrationOf rows admission.deviceIntegration.providerKey
    admission.deviceIntegration.externalIdentityHash = some admission.deviceIntegration
  accepted : classifyAdmission source (some admission.deviceIntegration)
    (accountOf rows source.tenantId source.integrationAccountId)
    (deviceOf rows admission.deviceIntegration.tenantId admission.deviceIntegration.deviceId) = none
  components : ∀ o ∈ admission.observations,
    OwnsActive rows admission.deviceIntegration o.componentId

/-- An integration has the identity it was looked up by. -/
theorem integrationOf_eq_some {providerKey externalIdentityHash : String}
    {integration : DeviceIntegration}
    (h : integrationOf rows providerKey externalIdentityHash = some integration) :
    integration.providerKey = providerKey ∧ integration.externalIdentityHash = externalIdentityHash := by
  obtain ⟨lookup, -, h⟩ := Option.bind_eq_some_iff.mp h
  obtain ⟨found, -, h⟩ := Option.bind_eq_some_iff.mp h
  unfold resolvedIntegration at h
  split at h
  next heq =>
    cases h
    simp only [Prod.mk.injEq] at heq
    exact ⟨heq.2.2.2.1, heq.2.2.2.2⟩
  next => cases h

/-- Every component of an admission is owned. -/
theorem resolveComponents_reads {digests : MappingDigests} {batch : IngestObservationBatch}
    {integration : DeviceIntegration}
    (hinteg : integrationOf rows integration.providerKey integration.externalIdentityHash =
      some integration) (hacc : classifyAdmission source (some integration)
      (accountOf rows source.tenantId source.integrationAccountId)
      (deviceOf rows integration.tenantId integration.deviceId) = none) :
    MappingReads rows (fun result => ∀ admission, result = .ok admission →
        Admitted rows source admission)
      (TrustedMapping.resolveComponents digests source batch integration) := by
  refine MappingReads.bind (activeComponents_reads integration _) MappingReads.none ?_
  intro active hact
  dsimp only
  split
  next => exact MappingReads.some (by rintro _ ⟨⟩)
  next resolved hresolved =>
    refine MappingReads.some ?_
    rintro admission ⟨⟩
    refine ⟨rfl, hinteg, hacc, fun o ho => hact _ ?_⟩
    exact resolveComponentSelectors_mem hresolved _ (componentId_of_mem_zipWith ho)

/-- What an admission says about the rows. -/
theorem admitBatch_reads (digests : MappingDigests) (source : AuthenticatedSource)
    (batch : IngestObservationBatch) :
    MappingReads rows (fun result => ∀ admission, result = .ok admission →
        Admitted rows source admission) (TrustedMapping.admitBatch digests source batch) := by
  refine MappingReads.bind (resolveExternalIdentity_reads _ _) MappingReads.none ?_
  rintro integration hinteg
  dsimp only
  split
  next => exact MappingReads.some (by rintro _ ⟨⟩)
  next => exact MappingReads.none
  next owned _ howned =>
    obtain ⟨rfl, -⟩ := Option.filter_eq_some_iff.mp howned
    obtain ⟨hprov, hhash⟩ := integrationOf_eq_some hinteg.symm
    refine MappingReads.bind (getIntegrationAccount_reads _ _) MappingReads.none ?_
    rintro account rfl
    refine MappingReads.bind (getDevice_reads _ _) MappingReads.none ?_
    rintro device rfl
    dsimp only
    split
    next => exact MappingReads.some (by rintro _ ⟨⟩)
    next hacc =>
      refine resolveComponents_reads ?_ hacc
      rw [hprov, hhash, ← hinteg]

/-- Without faults the identity is resolved. -/
theorem resolveExternalIdentity_answered (providerKey externalIdentityHash : String) :
    (resolveExternalIdentity providerKey externalIdentityHash).answered (rows.mapping.answer .none) =
      some (integrationOf rows providerKey externalIdentityHash) := by
  simp only [resolveExternalIdentity, readExternalIdentity, integrationOf, MappingRows.answer,
    StoreProgram.answer, Program.perform_bind, Program.answered_call]
  cases rows.mapping.externalIdentities (providerKey, externalIdentityHash) with
  | none => rfl
  | some lookup =>
    simp only [readDeviceIntegration, Program.perform_bind, Program.answered_call, MappingRows.answer,
      StoreProgram.answer, Option.bind_some]
    cases rows.mapping.deviceIntegrations (lookup.tenantId, lookup.deviceIntegrationId) <;> rfl

/-- The fence when every read answers. -/
theorem fence_answered (envelope : IngressEnvelope) :
    (TrustedMapping.fence envelope).answered (rows.mapping.answer .none) = fenceOf rows envelope := by
  rw [TrustedMapping.fence, Program.answered_bind, resolveExternalIdentity_answered]
  dsimp only
  rw [Program.answered_bind]
  have hacct : (getIntegrationAccount envelope.tenantId envelope.integrationAccountId).answered
      (rows.mapping.answer .none) =
      some (accountOf rows envelope.tenantId envelope.integrationAccountId) := rfl
  rw [hacct]
  simp only [fenceOf]
  cases (integrationOf rows envelope.providerKey envelope.externalIdentityHash).filter
      (matchesEnvelope · envelope) with
  | none | some row => rfl

/-- The fence of an admitted envelope. -/
theorem fenceOf_envelope {admission : IngressAdmission} (hadm : Admitted rows source admission)
    {connectorVersion : Option String} {receipt : IngressReceipt}
    (henv : envelope.toEnvelopeFields = envelopeFields admission connectorVersion receipt) :
    fenceOf rows envelope =
      some (.trusted (TrustedMapping.buildTrustedContext envelope admission.deviceIntegration)) := by
  obtain ⟨howned, hthrough⟩ := classifyAdmission_eq_none_iff.mp hadm.accepted
  simp only [ownedBy, decide_eq_true_eq, Prod.mk.injEq] at howned
  obtain ⟨htenant, hacct, hprov⟩ := howned
  have hmatch : matchesEnvelope admission.deviceIntegration envelope = true := by
    simp only [matchesEnvelope, henv, envelopeFields, hadm.caller, htenant, hacct, decide_true]
  have hinteg : integrationOf rows envelope.providerKey envelope.externalIdentityHash =
      some admission.deviceIntegration := by
    rw [henv]
    exact hadm.integration
  have hfilter : (some admission.deviceIntegration).filter (matchesEnvelope · envelope) =
      some admission.deviceIntegration := Option.filter_eq_some_iff.mpr ⟨rfl, hmatch⟩
  have hfence : classifyFence envelope (some admission.deviceIntegration)
      (accountOf rows envelope.tenantId envelope.integrationAccountId)
      (deviceOf rows admission.deviceIntegration.tenantId admission.deviceIntegration.deviceId) =
      none := by
    refine classifyFence_eq_none_iff.mpr ⟨_, rfl, ?_, hmatch, ?_⟩
    · rw [henv]
      rfl
    · rw [henv]
      simp only [envelopeFields, hadm.caller]
      exact hthrough
  simp only [fenceOf, hinteg, hfilter, TrustedMapping.fenceResult, hfence, Option.map_some]

/-- The integration behind a trusted envelope. -/
theorem fenceOf_eq_trusted (h : fenceOf rows envelope = some (.trusted context)) : ∃ row,
      integrationOf rows envelope.providerKey envelope.externalIdentityHash = some row ∧
      matchesEnvelope row envelope = true ∧
      context = TrustedMapping.buildTrustedContext envelope row ∧
      LetsThrough envelope.tenantId envelope.integrationAccountId row
        (accountOf rows envelope.tenantId envelope.integrationAccountId)
        (deviceOf rows row.tenantId row.deviceId) := by
  have htrusted : ∀ {integration : Option DeviceIntegration} {account : Option IntegrationAccount}
      {device : Option DeviceV2},
      TrustedMapping.fenceResult envelope integration account device = some (.trusted context) →
      ∃ row, integration = some row ∧ context = TrustedMapping.buildTrustedContext envelope row ∧
        LetsThrough envelope.tenantId envelope.integrationAccountId row account device := by
    intro integration account device h
    unfold TrustedMapping.fenceResult at h
    split at h
    · cases h
    · cases h
    next hclear =>
      obtain ⟨row, rfl, -, -, hthrough⟩ := classifyFence_eq_none_iff.mp hclear
      cases h
      exact ⟨row, rfl, rfl, hthrough⟩
  simp only [fenceOf] at h
  split at h
  next =>
    -- Without a device row nothing is let through.
    obtain ⟨row, -, -, hthrough⟩ := htrusted h
    obtain ⟨found, hnone, -⟩ := hthrough.device
    cases hnone
  next row hfilter =>
    obtain ⟨hinteg, hmatch⟩ := Option.filter_eq_some_iff.mp hfilter
    obtain ⟨found, hfound, hcontext, hthrough⟩ := htrusted h
    cases hinteg.symm.trans hfound
    exact ⟨row, hinteg, hmatch, hcontext, hthrough⟩

/-- What passes the fence would be admitted. -/
theorem classifyAdmission_of_fenceOf
    (hcarries : (envelope.tenantId, envelope.integrationAccountId, envelope.providerKey) =
      (source.tenantId, source.integrationAccountId, source.providerKey))
    (hfence : fenceOf rows envelope = some (.trusted context)) :
    classifyAdmission source (integrationOf rows envelope.providerKey envelope.externalIdentityHash)
      (accountOf rows source.tenantId source.integrationAccountId)
      (deviceOf rows context.tenantId context.deviceId) = none := by
  simp only [Prod.mk.injEq] at hcarries
  obtain ⟨htenant, hacct, hprov⟩ := hcarries
  obtain ⟨row, hinteg, hmatch, rfl, hthrough⟩ := fenceOf_eq_trusted hfence
  simp only [matchesEnvelope, decide_eq_true_eq, Prod.mk.injEq] at hmatch
  rw [htenant, hacct] at hthrough
  rw [hinteg]
  refine classifyAdmission_eq_none_iff.mpr ⟨?_, hthrough⟩
  simp only [ownedBy, hmatch.1, hmatch.2.1, hmatch.2.2.1, htenant, hacct, hprov, decide_true]

/-- A bad unit is not foreign. -/
theorem convertToCanonical_reason {metric : MetricDefinition} {value : SourceValue} {unit : String}
    {table : UnitTable} {quarantine : Quarantine}
    (h : convertToCanonical metric value unit table = .error quarantine) :
    quarantine.reason ≠ .componentNotOwned := by
  have hchecked : ∀ canonical, convertToCanonical.checked metric canonical = .error quarantine →
      quarantine.reason ≠ .componentNotOwned := by
    intro canonical hcanonical
    unfold convertToCanonical.checked at hcanonical
    split at hcanonical
    · cases hcanonical
      nofun
    · split at hcanonical
      · cases hcanonical
        nofun
      · cases hcanonical
  unfold convertToCanonical at h
  split at h
  · cases h
    nofun
  · split at h
    · split at h
      · cases h
        nofun
      · exact hchecked _ h
    · split at h
      · cases h
        nofun
      · exact hchecked _ h

/-- An owned component is not foreign. -/
theorem measure_reason {versions : NormalizationVersions} {component : DeviceComponent}
    {source : SourceObservation} {quarantine : Quarantine}
    (htenant : component.tenantId = context.tenantId)
    (hdevice : component.deviceId = context.deviceId)
    (h : measure config context versions (some component) source = .error quarantine) :
    quarantine.reason ≠ .componentNotOwned := by
  have howned : (some component).filter (fun component =>
      component.tenantId = context.tenantId && component.deviceId = context.deviceId) =
      some component := Option.filter_eq_some_iff.mpr ⟨rfl, by simp [htenant, hdevice]⟩
  simp only [measure, howned] at h
  split at h
  · cases h
    simp
  · split at h
    · cases h
      simp
    · split at h
      next metric table _ _ =>
        cases hvalue : convertToCanonical metric source.value source.sourceUnit table with
        | error =>
          rw [hvalue] at h
          cases h
          exact convertToCanonical_reason hvalue
        | ok =>
          rw [hvalue] at h
          cases h
      next =>
        cases h
        simp

/-- An owned component is not set aside as foreign. -/
theorem JudgedBy.reason {policy : QualityPolicy} {ingestedAt : Time} {source : SourceObservation}
    {component : DeviceComponent} {q : QuarantinedObservation}
    (h : JudgedBy rows config context policy ingestedAt source (.quarantined q))
    (hcomp : componentOf rows context.tenantId source.componentId = some component)
    (htenant : component.tenantId = context.tenantId)
    (hdevice : component.deviceId = context.deviceId) : q.reason ≠ .componentNotOwned := by
  cases h with
  | unmeasured hfound hmeas =>
    rw [hfound, hcomp] at hmeas
    exact measure_reason htenant hdevice hmeas
  | unplaced _ _ _ hplaced =>
    unfold placed at hplaced
    split at hplaced
    · cases hplaced
      nofun
    · cases hplaced

/-- Owned components are not set aside as foreign. -/
theorem normalize_owned {ingestedAt : Time} {sources : List SourceObservation}
    (howned : ∀ o ∈ sources, ∃ component,
      componentOf rows context.tenantId o.componentId = some component ∧
        component.tenantId = context.tenantId ∧ component.deviceId = context.deviceId) :
    ReadsOk rows (fun result => ∀ q ∈ result.quarantined, q.reason ≠ .componentNotOwned)
      (normalize config context ingestedAt sources) := by
  refine (Program.StageLogic.within _ _ _).mono ?_ (normalize_judged (looksUp_reads _) sources)
  rintro result ⟨policy, verdicts, rfl, hverdicts⟩ q hq
  obtain ⟨verdict, hverdict, hquar⟩ := List.mem_filterMap.mp hq
  obtain ⟨source, hsource, hjudged⟩ := exists_of_forall₂ hverdicts hverdict
  cases verdict with
  | accepted => cases hquar
  | quarantined =>
    cases hquar
    obtain ⟨component, hcomp, htenant, hdevice⟩ := howned source hsource
    exact JudgedBy.reason hjudged hcomp htenant hdevice

end Agreement

/-- While the mapping rows stay what they are, and whichever reads fail. The envelope of an admitted
batch is fenced as trusted, with the tenant, device and integration of the admission, unless a read
fails; and the normalizer sets none of its observations aside as foreign. Conversely, a source is
admitted against the rows whose fence lets through an envelope with the source's tenant, account and
provider. -/
theorem admission_agrees (rows : ReferenceRows) :
    (∀ digests source batch ops admission encoding connectorVersion receipt envelope,
      Program.Trace rows.mapping.Possible (TrustedMapping.admitBatch digests source batch) ops
        (.done (some (.ok admission))) →
      guardedEnvelope encoding admission connectorVersion receipt = .ok envelope →
      ∃ context, context.tenantId = source.tenantId ∧
        context.deviceId = admission.deviceIntegration.deviceId ∧
        context.integrationId = some admission.deviceIntegration.deviceIntegrationId ∧
        (TrustedMapping.fence envelope).answered (rows.mapping.answer .none) =
          some (.trusted context) ∧
        (∀ ops result, Program.Trace rows.mapping.Possible (TrustedMapping.fence envelope) ops
          (.done (some result)) → result = .trusted context) ∧
        ∀ config ingestedAt ops result, Program.Trace (Consistent rows)
          (normalize config context ingestedAt envelope.observations) ops (.done (.ok result)) →
          ∀ q ∈ result.quarantined, q.reason ≠ .componentNotOwned) ∧
    ∀ envelope source ops context,
      (envelope.tenantId, envelope.integrationAccountId, envelope.providerKey) =
        (source.tenantId, source.integrationAccountId, source.providerKey) →
      Program.Trace rows.mapping.Possible (TrustedMapping.fence envelope) ops
        (.done (some (.trusted context))) →
      classifyAdmission source (integrationOf rows envelope.providerKey envelope.externalIdentityHash)
        (accountOf rows source.tenantId source.integrationAccountId)
        (deviceOf rows context.tenantId context.deviceId) = none := by
  constructor
  · intro digests source batch ops admission encoding connectorVersion receipt envelope hadmit henvelope
    have hadmitted := (admitBatch_reads digests source batch).of_trace hadmit admission rfl
    have hfields := guardedEnvelope_fields henvelope
    have hfence := fenceOf_envelope hadmitted hfields
    obtain ⟨howned, -⟩ := classifyAdmission_eq_none_iff.mp hadmitted.accepted
    simp only [ownedBy, decide_eq_true_eq, Prod.mk.injEq] at howned
    refine ⟨TrustedMapping.buildTrustedContext envelope admission.deviceIntegration, howned.1, rfl, rfl,
      ?_, ?_, ?_⟩
    · rw [fence_answered, hfence]
    · intro ops result htrace
      have hresult := (fence_reads envelope).of_trace htrace
      rw [hfence] at hresult
      exact (Option.some.inj hresult).symm
    · intro config ingestedAt ops result htrace
      have hobservations : ∀ o ∈ envelope.observations, ∃ component,
          componentOf rows admission.deviceIntegration.tenantId o.componentId = some component ∧
            component.tenantId = admission.deviceIntegration.tenantId ∧
            component.deviceId = admission.deviceIntegration.deviceId := by
        intro o ho
        rw [hfields] at ho
        obtain ⟨component, hcomponent, htenant, hdevice, -⟩ := hadmitted.components o ho
        exact ⟨component, hcomponent, htenant, hdevice⟩
      exact (Program.Within.trace htrace (normalize_owned hobservations)).2 result rfl
  · intro envelope source ops context hcarries htrace
    exact classifyAdmission_of_fenceOf hcarries ((fence_reads envelope).of_trace htrace)

namespace SampleAdmission

/-- The mapping of the sample. -/
def rows : ReferenceRows where
  mapping := mapping
  deployments := Deployments.TwoDeployments.store
  assets _ := none

end SampleAdmission

open SampleAdmission

/-- A batch of one observation without a component is admitted and then trusted. -/
theorem admission_agrees_of_default_component : ∃ ops admission envelope context,
    Program.Trace rows.mapping.Possible
      (TrustedMapping.admitBatch encoding.toMappingDigests source
        batch) ops (.done (some (.ok admission))) ∧
    guardedEnvelope encoding admission none
      ((arguments 0 firstId).claim encoding) =
      .ok envelope ∧
    (TrustedMapping.fence envelope).answered (rows.mapping.answer .none) =
      some (.trusted context) ∧ context.tenantId = "t" := by
  let admitSample := TrustedMapping.admitBatch encoding.toMappingDigests
    source batch
  let guarded (admission : IngressAdmission) := guardedEnvelope encoding admission none
    ((arguments 0 firstId).claim encoding)
  have hrun : (((admitSample.answered (rows.mapping.answer .none)).bind (·.toOption)).bind
      fun admission => (guarded admission).toOption).isSome = true := by decide +kernel
  obtain ⟨envelope, hrun⟩ := Option.isSome_iff_exists.mp hrun
  obtain ⟨admission, hadmission, henvelope⟩ := Option.bind_eq_some_iff.mp hrun
  obtain ⟨result, hresult, hadmission⟩ := Option.bind_eq_some_iff.mp hadmission
  have hok : result = .ok admission := by
    cases result with
    | error => cases hadmission
    | ok =>
      cases hadmission
      rfl
  have hguarded : guarded admission = .ok envelope := by
    cases hfound : guarded admission with
    | error =>
      rw [hfound] at henvelope
      cases henvelope
    | ok =>
      rw [hfound] at henvelope
      cases henvelope
      rfl
  have hpossible (op : MappingOp) : rows.mapping.Possible op
      (rows.mapping.answer .none op) := ⟨.none, rfl⟩
  obtain ⟨ops, htrace⟩ := Program.Trace.answered hpossible admitSample
  rw [hresult, hok] at htrace
  obtain ⟨context, htenant, -, -, hfence, -⟩ :=
    (admission_agrees rows).1 _ _ _ _ _ _ _ _ _ htrace hguarded
  exact ⟨ops, admission, envelope, context, htrace, hguarded, hfence, htenant⟩

end LimnoPulse.Ingestion
