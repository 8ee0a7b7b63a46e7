import LimnoPulse.Ingestion.Domain
import LimnoPulse.Library.Program
import LimnoPulse.Library.Transaction

/-!
# The trusted mapping

Who a request or a queued envelope really belongs to.  `TrustedMapping.admitBatch`
resolves the account's device and fills in the components; `TrustedMapping.fence`
resolves an envelope again when it is consumed.  A failed read is never turned into a
denial or a fence.

Main results:

- Theorem `TrustedMapping.admitBatch_returns`: an admission is for the source that asked for it.
- Theorem `classifyFence_eq_none_iff`: an envelope passes the fence exactly as its
  integration, account and device rows allow.
-/

namespace LimnoPulse.Ingestion

open StoreProgram

/-! ## Reference rows -/

/-- The life of an integration. -/
inductive DeviceIntegrationStatus where
  | provisioning
  | active
  | error
  | decommissioned
deriving DecidableEq

/-- The life of an account. -/
inductive IntegrationAccountStatus where
  | pending
  | active
  | error
  | revoked
deriving DecidableEq

/-- The life of a device. -/
inductive DeviceStatus where
  | provisioning
  | active
  | suspended
  | decommissioned
deriving DecidableEq

/-- The life of a component. -/
inductive ComponentStatus where
  | active
  | replaced
  | decommissioned
deriving DecidableEq

/-- What a component does. -/
inductive ComponentKind where
  | probe
  | actuator
  | hybrid
deriving DecidableEq

/-- An integration of a device. -/
structure DeviceIntegration where
  (tenantId deviceIntegrationId deviceId integrationAccountId providerKey : String)
  externalIdentityHash : String
  status : DeviceIntegrationStatus
deriving DecidableEq

/-- An account of a provider. -/
structure IntegrationAccount where
  (tenantId integrationAccountId providerKey : String)
  status : IntegrationAccountStatus
deriving DecidableEq

/-- A device. -/
structure DeviceV2 where
  (tenantId deviceId : String)
  status : DeviceStatus
deriving DecidableEq

/-- What a probe measures. -/
structure ProbeProfile where
  probeProfileId : String
  measurementMetricKeys : List String
deriving DecidableEq

/-- A component; all but actuators have a probe profile. -/
structure DeviceComponent where
  (tenantId componentId deviceId : String)
  kind : ComponentKind
  probeProfile : Option ProbeProfile
  status : ComponentStatus
  profile : probeProfile.isSome = true ↔ kind ≠ .actuator
deriving DecidableEq

/-- From an external identity to its integration. -/
structure ExternalIdentityRow where
  (tenantId deviceId deviceIntegrationId : String)
deriving DecidableEq

/-- The rows that decide whom a message belongs to. -/
structure MappingRows where
  externalIdentities : String × String → Option ExternalIdentityRow
  deviceIntegrations : String × String → Option DeviceIntegration
  integrationAccounts : String × String → Option IntegrationAccount
  devices : String × String → Option DeviceV2
  components : String → Option DeviceComponent

/-- One read of a reference row. -/
inductive MappingOp where
  | externalIdentity (providerKey externalIdentityHash : String)
  | deviceIntegration (tenantId deviceIntegrationId : String)
  | integrationAccount (tenantId integrationAccountId : String)
  | device (tenantId deviceId : String)
  | component (componentId : String)

/-- What a read is answered. -/
@[reducible]
def MappingReply : MappingOp → Type
  | .externalIdentity _ _ => ReadReply ExternalIdentityRow
  | .deviceIntegration _ _ => ReadReply DeviceIntegration
  | .integrationAccount _ _ => ReadReply IntegrationAccount
  | .device _ _ => ReadReply DeviceV2
  | .component _ => ReadReply DeviceComponent

/-- The answer to a read. -/
def MappingRows.answer (rows : MappingRows) (fault : Fault) : (op : MappingOp) → MappingReply op
  | .externalIdentity providerKey hash =>
    StoreProgram.answer fault (rows.externalIdentities (providerKey, hash))
  | .deviceIntegration tenantId id => StoreProgram.answer fault (rows.deviceIntegrations (tenantId, id))
  | .integrationAccount tenantId id =>
    StoreProgram.answer fault (rows.integrationAccounts (tenantId, id))
  | .device tenantId id => StoreProgram.answer fault (rows.devices (tenantId, id))
  | .component id => StoreProgram.answer fault (rows.components id)

/-- Programs that read reference rows. -/
abbrev MappingProgram (α : Type) := Program MappingOp MappingReply α

/-- Read a lookup row. -/
def readExternalIdentity (providerKey externalIdentityHash : String) :
    MappingProgram (ReadReply ExternalIdentityRow) :=
  Program.perform (MappingOp.externalIdentity providerKey externalIdentityHash)

/-- Read an integration. -/
def readDeviceIntegration (tenantId deviceIntegrationId : String) :
    MappingProgram (ReadReply DeviceIntegration) :=
  Program.perform (MappingOp.deviceIntegration tenantId deviceIntegrationId)

/-- Read an account. -/
def readIntegrationAccount (tenantId integrationAccountId : String) :
    MappingProgram (ReadReply IntegrationAccount) :=
  Program.perform (MappingOp.integrationAccount tenantId integrationAccountId)

/-- Read a device. -/
def readDevice (tenantId deviceId : String) : MappingProgram (ReadReply DeviceV2) :=
  Program.perform (MappingOp.device tenantId deviceId)

/-- Read a component. -/
def readComponent (componentId : String) : MappingProgram (ReadReply DeviceComponent) :=
  Program.perform (MappingOp.component componentId)

/-! ## Reads

A read that fails, here and below, makes the result `none`. -/

/-- Both rows have to exist and to agree. -/
def resolvedIntegration (providerKey externalIdentityHash : String) (lookup : ExternalIdentityRow)
    (integration : DeviceIntegration) : Option DeviceIntegration :=
  if (integration.tenantId, integration.deviceId, integration.deviceIntegrationId,
      integration.providerKey, integration.externalIdentityHash) =
      (lookup.tenantId, lookup.deviceId, lookup.deviceIntegrationId, providerKey,
        externalIdentityHash)
  then some integration else none

/-- The integration of an external identity. -/
def resolveExternalIdentity (providerKey externalIdentityHash : String) :
    MappingProgram (Option (Option DeviceIntegration)) := do
  match ← readExternalIdentity providerKey externalIdentityHash with
  | .unavailable => pure none
  | .row none => pure (some none)
  | .row (some lookup) =>
    match ← readDeviceIntegration lookup.tenantId lookup.deviceIntegrationId with
    | .unavailable => pure none
    | .row none => pure (some none)
    | .row (some integration) =>
      pure (some (resolvedIntegration providerKey externalIdentityHash lookup integration))

/-- An account of the tenant. -/
def getIntegrationAccount (tenantId integrationAccountId : String) :
    MappingProgram (Option (Option IntegrationAccount)) := do
  match ← readIntegrationAccount tenantId integrationAccountId with
  | .unavailable => pure none
  | .row account => pure (some (account.filter (·.tenantId = tenantId)))

/-- A device of the tenant. -/
def getDevice (tenantId deviceId : String) : MappingProgram (Option (Option DeviceV2)) := do
  match ← readDevice tenantId deviceId with
  | .unavailable => pure none
  | .row device => pure (some (device.filter (·.tenantId = tenantId)))

/-- A component of the tenant. -/
def getComponent (tenantId componentId : String) : MappingProgram (Option (Option DeviceComponent)) := do
  match ← readComponent componentId with
  | .unavailable => pure none
  | .row component => pure (some (component.filter (·.tenantId = tenantId)))

/-! ## The condition tables -/

/-- Why an admission is denied. -/
inductive IngressAdmissionDenied where
  | identityUnresolved
  | integrationMismatch
  | integrationInactive
  | accountInactive
  | deviceInactive
  | componentRequired
  | componentInvalid
  | entitlementDenied
deriving DecidableEq

/-- Why a message is fenced. -/
inductive IngressFenceReason where
  | identityUnresolved
  | integrationMismatch
  | integrationDecommissioned
  | accountRevoked
  | deviceDecommissioned
deriving DecidableEq

/-- The text of a fence reason. -/
def IngressFenceReason.text : IngressFenceReason → String
  | .identityUnresolved => "identity_unresolved"
  | .integrationMismatch => "integration_mismatch"
  | .integrationDecommissioned => "integration_decommissioned"
  | .accountRevoked => "account_revoked"
  | .deviceDecommissioned => "device_decommissioned"

/-- Why a message waits. -/
inductive IngressDeferReason where
  | integrationNotActive
  | accountNotActive
  | deviceNotActive
deriving DecidableEq

/-- A denial, with the observation it is about. -/
structure IngressDenial where
  reason : IngressAdmissionDenied
  observationIndex : Option Nat := none
deriving DecidableEq

/-- A batch whose device and components are known. -/
structure IngressAdmission where
  source : AuthenticatedSource
  deviceIntegration : DeviceIntegration
  observations : List SourceObservation

/-- A fence, and whether the account was verified. -/
structure IngressFence where
  reason : IngressFenceReason
  accountVerified : Bool
deriving DecidableEq

/-- The context of a message, built by trusted code only. -/
structure TrustedSourceContext where
  (tenantId deviceId : String)
  integrationId : Option String
  integrationType : String
  sourceType : SourceType
  connectorVersion : Option String
  receivedAt : Time
  replay : Bool
  mappingVersions : Option NormalizationVersions
deriving DecidableEq

/-- What becomes of an envelope when it is consumed. -/
inductive FenceResult where
  | trusted (context : TrustedSourceContext)
  | fence (fence : IngressFence)
  | defer (reason : IngressDeferReason)
deriving DecidableEq

/-- The identifiers that trusted code derives by hashing. -/
structure MappingDigests where
  accountScopedIdentityHash : String → String → String → String
  defaultComponentIdForLegacyDevice : String → String → String

/-- Providers that may use HTTPS. -/
def httpsProviderKeys : List String := ["https_direct"]

/-- An active account of such a provider. -/
def accountIsHttpsActive (account : IntegrationAccount) : Bool :=
  account.status = .active && httpsProviderKeys.contains account.providerKey

/-- The device of the integration. -/
def deviceMatches (device : Option DeviceV2) (integration : DeviceIntegration) : Bool :=
  device.any fun device =>
    device.tenantId = integration.tenantId && device.deviceId = integration.deviceId

/-- The owner of an integration row. -/
def ownedBy (integration : DeviceIntegration) (source : AuthenticatedSource) : Bool :=
  (integration.tenantId, integration.integrationAccountId, integration.providerKey) =
    (source.tenantId, source.integrationAccountId, source.providerKey)

/-- The admission column; the first failure wins. -/
def classifyAdmission (source : AuthenticatedSource) (integration : Option DeviceIntegration)
    (account : Option IntegrationAccount) (device : Option DeviceV2) :
    Option IngressAdmissionDenied :=
  match integration with
  | none => some .identityUnresolved
  | some integration =>
    if !ownedBy integration source then some .integrationMismatch
    else if integration.status ≠ .active then some .integrationInactive
    else if !account.any (fun account =>
        (account.tenantId, account.integrationAccountId) =
            (source.tenantId, source.integrationAccountId) && accountIsHttpsActive account) then
      some .accountInactive
    else if !(deviceMatches device integration && device.any (·.status = .active)) then
      some .deviceInactive
    else none

/-- The row is of the envelope's tenant, account, provider and device. -/
def matchesEnvelope (integration : DeviceIntegration) (envelope : IngressEnvelope) : Bool :=
  (integration.tenantId, integration.integrationAccountId, integration.providerKey,
    integration.deviceIntegrationId, integration.deviceId) =
    (envelope.tenantId, envelope.integrationAccountId, envelope.providerKey,
      envelope.deviceIntegrationId, envelope.deviceId)

/-- A terminal fence, or a temporary one. -/
inductive FenceDecision where
  | fence (fence : IngressFence)
  | defer (reason : IngressDeferReason)
deriving DecidableEq

/-- The envelope's account exists. -/
def accountVerified (envelope : IngressEnvelope) (account : Option IntegrationAccount) : Bool :=
  account.any fun account =>
    account.tenantId = envelope.tenantId &&
      account.integrationAccountId = envelope.integrationAccountId

/-- The fence column; the first failure wins. -/
def classifyFence (envelope : IngressEnvelope) (integration : Option DeviceIntegration)
    (account : Option IntegrationAccount) (device : Option DeviceV2) : Option FenceDecision :=
  let verified := accountVerified envelope account
  match integration.filter (·.externalIdentityHash = envelope.externalIdentityHash) with
  | none => some (.fence ⟨.identityUnresolved, verified⟩)
  | some integration =>
    if !matchesEnvelope integration envelope then
      some (.fence ⟨.integrationMismatch, verified⟩)
    else if integration.status = .decommissioned then
      some (.fence ⟨.integrationDecommissioned, verified⟩)
    else if integration.status ≠ .active then some (.defer .integrationNotActive)
    else match account.filter fun account => accountVerified envelope (some account) with
      | none => some (.fence ⟨.identityUnresolved, false⟩)
      | some account =>
        if account.status = .revoked || !httpsProviderKeys.contains account.providerKey then
          some (.fence ⟨.accountRevoked, true⟩)
        else if account.status ≠ .active then some (.defer .accountNotActive)
        else match device.filter fun device => deviceMatches (some device) integration with
          | none => some (.fence ⟨.deviceDecommissioned, true⟩)
          | some device =>
            if device.status = .decommissioned then
              some (.fence ⟨.deviceDecommissioned, true⟩)
            else if device.status ≠ .active then some (.defer .deviceNotActive)
            else none

/-- The rows let this account's messages through. -/
structure LetsThrough (tenantId integrationAccountId : String) (row : DeviceIntegration)
    (account : Option IntegrationAccount) (device : Option DeviceV2) : Prop where
  integration : row.status = .active
  account : ∃ found, account = some found ∧ found.tenantId = tenantId ∧
    found.integrationAccountId = integrationAccountId ∧ accountIsHttpsActive found = true
  device : ∃ found, device = some found ∧ deviceMatches (some found) row = true ∧
    found.status = .active

/-- What such an account is. -/
theorem accountIsHttpsActive_iff {account : IntegrationAccount} :
    accountIsHttpsActive account = true ↔
      account.status = .active ∧ httpsProviderKeys.contains account.providerKey = true := by
  simp [accountIsHttpsActive]

variable {account : Option IntegrationAccount} {device : Option DeviceV2}

/-- Admission lets the rows of the caller through. -/
theorem classifyAdmission_eq_none_iff {source : AuthenticatedSource} {integration : DeviceIntegration} :
    classifyAdmission source (some integration) account device = none ↔
      ownedBy integration source = true ∧
        LetsThrough source.tenantId source.integrationAccountId integration account device := by
  have hdevice : (deviceMatches device integration && device.any (·.status = .active)) = true ↔
      ∃ row, device = some row ∧ deviceMatches (some row) integration = true ∧ row.status = .active := by
    cases device <;> simp [deviceMatches]
  have hacct : account.any (fun account => (account.tenantId, account.integrationAccountId) =
      (source.tenantId, source.integrationAccountId) && accountIsHttpsActive account) = true ↔
      ∃ row, account = some row ∧ row.tenantId = source.tenantId ∧
        row.integrationAccountId = source.integrationAccountId ∧ accountIsHttpsActive row = true := by
    cases account <;> simp [and_assoc]
  constructor
  · intro h
    simp only [classifyAdmission] at h
    split at h
    · cases h
    next howned =>
      split at h
      · cases h
      next hact =>
        split at h
        · cases h
        next hfound =>
          split at h
          · cases h
          next hmatch =>
            exact ⟨by simpa using howned, not_not.mp hact, hacct.mp (by simpa using hfound),
              hdevice.mp (by simpa using hmatch)⟩
  · rintro ⟨howned, hact, hfound, hmatch⟩
    simp only [classifyAdmission, howned, hact, hacct.mpr hfound, hdevice.mpr hmatch, Bool.not_true,
      ne_eq, not_true_eq_false, if_false, Bool.false_eq_true]

/-- The fence lets the rows of an envelope through. -/
theorem classifyFence_eq_none_iff {envelope : IngressEnvelope}
    {integration : Option DeviceIntegration} :
    classifyFence envelope integration account device = none ↔
      ∃ row, integration = some row ∧ row.externalIdentityHash = envelope.externalIdentityHash ∧
        matchesEnvelope row envelope = true ∧
        LetsThrough envelope.tenantId envelope.integrationAccountId row account device := by
  constructor
  · intro h
    simp only [classifyFence] at h
    split at h
    · cases h
    next row hrow =>
      obtain ⟨rfl, hhash⟩ := Option.filter_eq_some_iff.mp hrow
      split at h
      · cases h
      next hmatch =>
        split at h
        · cases h
        · split at h
          · cases h
          next hact =>
            split at h
            · cases h
            next found hfound =>
              obtain ⟨rfl, hverified⟩ := Option.filter_eq_some_iff.mp hfound
              split at h
              · cases h
              next hrevoked =>
                split at h
                · cases h
                next hacct =>
                  split at h
                  · cases h
                  next running hrunning =>
                    obtain ⟨rfl, hdevice⟩ := Option.filter_eq_some_iff.mp hrunning
                    split at h
                    · cases h
                    · split at h
                      · cases h
                      next hstat =>
                        simp only [accountVerified, Option.any_some, Bool.and_eq_true,
                          decide_eq_true_eq] at hverified
                        simp only [Bool.or_eq_true, Bool.not_eq_true', not_or,
                          Bool.not_eq_false] at hrevoked
                        refine ⟨row, rfl, by simpa using hhash, by simpa using hmatch,
                          not_not.mp hact, ⟨found, rfl, hverified.1, hverified.2, ?_⟩,
                          running, rfl, hdevice, not_not.mp hstat⟩
                        exact accountIsHttpsActive_iff.mpr ⟨not_not.mp hacct, hrevoked.2⟩
  · rintro ⟨row, rfl, hhash, hmatch, hact, ⟨found, rfl, htenant, hacct, hhttps⟩, running, rfl,
      hdevice, hrunning⟩
    rw [accountIsHttpsActive_iff] at hhttps
    have hrow : (some row).filter (·.externalIdentityHash = envelope.externalIdentityHash) = some row :=
      Option.filter_eq_some_iff.mpr ⟨rfl, decide_eq_true hhash⟩
    have hverified : accountVerified envelope (some found) = true := by
      simp [accountVerified, htenant, hacct]
    have hfound : (some found).filter (fun account => accountVerified envelope (some account)) =
        some found := Option.filter_eq_some_iff.mpr ⟨rfl, hverified⟩
    have hdevice : (some running).filter (fun device => deviceMatches (some device) row) =
        some running := Option.filter_eq_some_iff.mpr ⟨rfl, hdevice⟩
    have hprov : found.providerKey ∈ httpsProviderKeys := by simpa using hhttps.2
    simp [classifyFence, hrow, hmatch, hact, hfound, hhttps.1, hprov, hdevice, hrunning]

namespace TrustedMapping

/-- Check each selector and fill in the default. -/
def resolveComponentSelectors (defaultComponentId : String) (active : List String) :
    List IngestSourceObservation → Nat → Except IngressDenial (List String)
  | [], _ => .ok []
  | observation :: rest, index =>
    match observation.componentId with
    | none =>
      if !active.contains defaultComponentId then
        .error ⟨.componentRequired, some index⟩
      else (resolveComponentSelectors defaultComponentId active rest (index + 1)).map
        (defaultComponentId :: ·)
    | some componentId =>
      if !active.contains componentId then .error ⟨.componentInvalid, some index⟩
      else (resolveComponentSelectors defaultComponentId active rest (index + 1)).map
        (componentId :: ·)

/-- The distinct components, in reading order. -/
def wantedComponents (defaultComponentId : String) (observations : List IngestSourceObservation) :
    List String :=
  (observations.map fun item => item.componentId.getD defaultComponentId).dedup.mergeSort

/-- The device's active components among them. -/
def activeComponents (integration : DeviceIntegration) :
    List String → MappingProgram (Option (List String))
  | [] => pure (some [])
  | componentId :: rest => do
    match ← getComponent integration.tenantId componentId with
    | none => pure none
    | some component =>
      let owned := component.any fun component =>
        component.tenantId = integration.tenantId &&
          component.deviceId = integration.deviceId && component.status = .active
      match ← activeComponents integration rest with
      | none => pure none
      | some active => pure (some (if owned then componentId :: active else active))

/-- The components of a batch. -/
def resolveComponents (digests : MappingDigests) (source : AuthenticatedSource)
    (batch : IngestObservationBatch) (integration : DeviceIntegration) :
    MappingProgram (Option (Except IngressDenial IngressAdmission)) := do
  let defaultComponentId :=
    digests.defaultComponentIdForLegacyDevice integration.tenantId integration.deviceId
  match ← activeComponents integration (wantedComponents defaultComponentId batch.observations) with
  | none => pure none
  | some active =>
    match resolveComponentSelectors defaultComponentId active batch.observations 0 with
    | .error denial => pure (some (.error denial))
    | .ok resolved =>
      let observations := List.zipWith IngestSourceObservation.withComponent
        batch.observations resolved
      pure (some (.ok ⟨source, integration, observations⟩))

/-- Trusted admission of a batch. -/
def admitBatch (digests : MappingDigests) (source : AuthenticatedSource)
    (batch : IngestObservationBatch) : MappingProgram (Option (Except IngressDenial IngressAdmission)) := do
  let identityHash := digests.accountScopedIdentityHash source.providerKey
    source.integrationAccountId batch.externalDeviceId
  match ← resolveExternalIdentity source.providerKey identityHash with
  | none => pure none
  | some integration =>
    -- Another tenant's rows are never read for a mapping that is not the caller's.
    match integration.filter (ownedBy · source), classifyAdmission source integration none none with
    | none, some denied => pure (some (.error ⟨denied, none⟩))
    | none, none => pure none  -- a row that is not the caller's is always classified
    | some owned, _ =>
      match ← getIntegrationAccount source.tenantId source.integrationAccountId with
      | none => pure none
      | some account =>
        match ← getDevice owned.tenantId owned.deviceId with
        | none => pure none
        | some device =>
          match classifyAdmission source (some owned) account device with
          | some denied => pure (some (.error ⟨denied, none⟩))
          | none => resolveComponents digests source batch owned

/-- An admission is for the source that asked for it. -/
theorem admitBatch_returns (digests : MappingDigests) (source : AuthenticatedSource)
    (batch : IngestObservationBatch) :
    (admitBatch digests source batch).Returns fun result =>
      ∀ admission, result = some (.ok admission) → admission.source = source := by
  refine Program.Returns.bind (Program.Returns.trivial _) ?_
  intro integration _
  split
  · simp [Program.Returns]
  · split
    · simp [Program.Returns]
    · simp [Program.Returns]
    · refine Program.Returns.bind (Program.Returns.trivial _) ?_
      intro account _
      split
      · simp [Program.Returns]
      · refine Program.Returns.bind (Program.Returns.trivial _) ?_
        intro device _
        split
        · simp [Program.Returns]
        · split
          · simp [Program.Returns]
          · refine Program.Returns.bind (Program.Returns.trivial _) ?_
            intro active _
            split
            · simp [Program.Returns]
            · split
              · simp [Program.Returns]
              · rintro admission ⟨⟩
                rfl

/-- Row and envelope together. -/
def buildTrustedContext (envelope : IngressEnvelope) (integration : DeviceIntegration) :
    TrustedSourceContext where
  tenantId := integration.tenantId
  deviceId := integration.deviceId
  integrationId := some integration.deviceIntegrationId
  integrationType := integration.providerKey
  sourceType := envelope.sourceType
  connectorVersion := envelope.connectorVersion
  receivedAt := envelope.receivedAt
  replay := envelope.replay
  mappingVersions := some envelope.mappingVersions

/-- The result; a trusted envelope keeps its observations. -/
def fenceResult (envelope : IngressEnvelope) (integration : Option DeviceIntegration)
    (account : Option IntegrationAccount) (device : Option DeviceV2) : Option FenceResult :=
  match classifyFence envelope integration account device with
  | some (.fence fence) => some (.fence fence)
  | some (.defer reason) => some (.defer reason)
  | none => integration.map fun row => .trusted (buildTrustedContext envelope row)

/-- Resolve an envelope again at its consumption. -/
def fence (envelope : IngressEnvelope) : MappingProgram (Option FenceResult) := do
  match ← resolveExternalIdentity envelope.providerKey envelope.externalIdentityHash with
  | none => pure none
  | some integration =>
    match ← getIntegrationAccount envelope.tenantId envelope.integrationAccountId with
    | none => pure none
    | some account =>
      match integration.filter (matchesEnvelope · envelope) with
      | none => pure (fenceResult envelope integration account none)
      | some row =>
        match ← getDevice row.tenantId row.deviceId with
        | none => pure none
        | some device => pure (fenceResult envelope integration account device)

end TrustedMapping

end LimnoPulse.Ingestion
