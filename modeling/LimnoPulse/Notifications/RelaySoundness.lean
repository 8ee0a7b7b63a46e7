import LimnoPulse.Notifications.FeedbackSoundness

/-!
# The relay keeps the discipline

Main results:

- Theorem `examineMember_reads` and theorem `examineOpening_reads`: what a page
  makes of one recipient.
- Theorem `processCandidate_sound`: the writes of the relay are justified.
- Theorem `discipline_governs`: so are those of every call.
-/

namespace LimnoPulse.Notifications

open CivilTime StoreProgram Discipline

variable {P : Platform} {α β : Type}
variable {identity : DeliveryIdentity} {now relayTime : Instant} {work : Work}
  {recipientId tenantId : String} {allowed : DeliverySnapshot → Prop} {data : EmailTemplateData}
  {request : ExpandRequest} {opening : DeliveryRow} {s : Store} {outboxId : OutboxId}
  {candidate : Candidate} {post : α → Store → Prop} {p : Prog (Except StoreError α)}
  {delivery : Delivery P} {f : α → Prog (Except StoreError β)} {state : DeliveryState}
  {reason : Option CancellationReason} {item : Item} {checks : List Item}
  {result : WorkResult} {next : Option Cursor} {deliveryId : DeliveryId} {lease : LeaseRequest}

/-! ## Reading -/

theorem andThen_harmless
    (hp : Harmless p) (hf : ∀ value, Harmless (f value)) : Harmless (p.andThen f) :=
  Program.Performs.andThen hp hf

/-- Read a row and go on with it. -/
theorem read_harmless {key : Key} {f : Option (Row key) → Prog (Except StoreError β)}
    (hf : ∀ row, Harmless (f row)) : Harmless ((getConsistent key).andThen f) :=
  andThen_harmless (getConsistent_harmless key) hf

theorem loadEvent_harmless (work : Work) : Harmless (loadEvent work) := by
  refine read_harmless fun row => ?_
  cases row with
  | none => trivial
  | some =>
    simp only
    split <;> trivial

theorem loadPreference_harmless (tenantId recipientId : String) :
    Harmless (loadPreference tenantId recipientId) := by
  refine read_harmless fun row => ?_
  cases row with
  | none => trivial
  | some =>
    simp only
    split <;> trivial

theorem loadTelegramDestination_harmless (tenantId recipientId : String) :
    Harmless (loadTelegramDestination tenantId recipientId) := by
  refine read_harmless fun row => ?_
  cases row with
  | none => trivial
  | some =>
    simp only
    split
    · refine read_harmless fun destination => ?_
      cases destination with
      | none => trivial
      | some =>
        simp only
        split <;> trivial
    · trivial

theorem addressSuppressed_harmless (address : String) : Harmless (addressSuppressed P address) := by
  unfold addressSuppressed
  split
  · refine read_harmless fun row => ?_
    split
    · trivial
    · exact read_harmless fun _ => trivial
  · trivial

theorem requireExpandedOpening_harmless (work : Work) (openingId : OutboxId) (relayTime : Instant) :
    Harmless (requireExpandedOpening work openingId relayTime) := by
  refine read_harmless fun row => ?_
  cases row with
  | none => trivial
  | some =>
    simp only
    split
    · split <;> trivial
    · trivial

/-- Programs that read, and their successes. -/
def reads : Program.StageLogic Op Reply StoreError :=
  .within (fun _ _ => True) (fun op => op.harmless = true) StoreError

/-- Harmless programs only read. -/
theorem Harmless.reads (h : Harmless p) : reads.Holds (fun _ => True) p :=
  Program.Performs.within h (Program.ReturnsOk.trivial p)

/-! ## Building deliveries -/

/-- The identity of a delivery the work can build. -/
structure IdentityFor (work : Work) (recipientId : String) (identity : DeliveryIdentity) : Prop where
  outboxId : identity.outboxId = work.outboxId
  eventId : identity.eventId = work.eventId
  channel : identity.channel = work.channel
  kind : identity.kind = work.notificationKind
  recipientId : identity.recipientId = recipientId

/-- A delivery for the recipient, in an allowed state. -/
def Examined.BuiltAs (work : Work) (recipientId : String) (allowed : DeliverySnapshot → Prop)
    (examined : Examined P) : Prop :=
  ∀ delivery, examined.delivery = some delivery →
    IdentityFor work recipientId delivery.snapshot.toDeliveryIdentity ∧ allowed delivery.snapshot

/-- A recipient who is left out. -/
theorem reads_filtered {bySeverity : Bool} :
    reads.Holds (Examined.BuiltAs work recipientId allowed)
      (.done (.ok (Examined.filtered bySeverity : Examined P))) := by
  refine reads.ok ?_
  rintro delivery ⟨⟩

/-- A delivery as it was built. -/
theorem newDelivery_snapshot (h : newDelivery P identity state reason now = some delivery) :
    delivery.snapshot = ⟨identity, state, reason, now⟩ := by
  unfold newDelivery at h
  split at h
  · cases h
    rfl
  · cases h

/-- Built for the recipient. -/
theorem IdentityFor.built (h : IdentityFor work recipientId identity)
    (hdeliv : newDelivery P identity state reason now = some delivery) :
    IdentityFor work recipientId delivery.snapshot.toDeliveryIdentity ∧ delivery.snapshot.state = state := by
  rw [newDelivery_snapshot hdeliv]
  exact ⟨h, rfl⟩

/-- A delivery that is built from an identity of the work. -/
theorem reads_built {wrap : Delivery P → Examined P} {delivery : Option (Delivery P)}
    (hwrap : ∀ d, (wrap d).delivery = some d)
    (h : ∀ d, delivery = some d →
      IdentityFor work recipientId d.snapshot.toDeliveryIdentity ∧ allowed d.snapshot) :
    reads.Holds (Examined.BuiltAs work recipientId allowed) (built wrap delivery) := by
  cases delivery with
  | none => exact reads.error _
  | some delivery =>
    refine reads.ok ?_
    intro d hd
    rw [hwrap] at hd
    cases hd
    exact h delivery rfl

/-- The states a delivery without dependency starts in. -/
def independentStart (snapshot : DeliverySnapshot) : Prop :=
  snapshot.state = .pending ∨ snapshot.state = .cancelled

/-- A cancelled delivery. -/
theorem reads_cancelled {reason : CancellationReason} (h : IdentityFor work recipientId identity)
    (hallowed : ∀ snapshot, independentStart snapshot → allowed snapshot) :
    reads.Holds (Examined.BuiltAs work recipientId allowed)
      (built .cancelled (newCancelledDelivery P identity reason now)) := by
  refine reads_built (fun _ => rfl) ?_
  intro d hd
  obtain ⟨hbuilt, hstate⟩ := h.built hd
  exact ⟨hbuilt, hallowed _ (.inr hstate)⟩

/-- A delivery whose content could be rendered. -/
theorem reads_created {content : Option α} (fill : α → DeliveryIdentity)
    (h : ∀ c, content = some c → IdentityFor work recipientId (fill c))
    (hallowed : ∀ snapshot, independentStart snapshot → allowed snapshot) :
    reads.Holds (Examined.BuiltAs work recipientId allowed)
      (built .created (content.bind fun c => newPendingDelivery P (fill c) now)) := by
  refine reads_built (fun _ => rfl) ?_
  intro d hd
  obtain ⟨c, hc, hd⟩ := Option.bind_eq_some_iff.mp hd
  obtain ⟨hbuilt, hstate⟩ := (h c hc).built hd
  exact ⟨hbuilt, hallowed _ (.inl hstate)⟩

theorem buildEmailOpening_reads {address : String} (h : IdentityFor work recipientId identity) :
    reads.Holds (Examined.BuiltAs work recipientId independentStart)
      (buildEmailOpening P data identity now address) := by
  refine reads.andThen (addressSuppressed_harmless _).reads ?_
  intro suppressed _
  split
  · exact reads_cancelled { h with } fun _ => id
  · exact reads_created _ (fun _ _ => { h with }) fun _ => id

theorem buildTelegramOpening_reads (h : IdentityFor work recipientId identity) :
    reads.Holds (Examined.BuiltAs work recipientId independentStart)
      (buildTelegramOpening P data identity now) := by
  refine reads.andThen (loadTelegramDestination_harmless _ _).reads ?_
  intro destination _
  cases destination with
  | none => exact reads_filtered
  | some =>
    simp only
    split
    · exact reads_cancelled { h with } fun _ => id
    · exact reads_created _ (fun _ _ => { h with }) fun _ => id

/-- One recipient of an opening. -/
theorem examineMember_reads {event : AlertEventRow} (hkind : work.notificationKind = .opening)
    (member : MemberRow) :
    reads.Holds (Examined.BuiltAs work member.recipientId independentStart)
      (examineMember P work request event data member) := by
  unfold examineMember
  split
  · exact reads_filtered
  refine reads.andThen (loadPreference_harmless _ _).reads ?_
  intro preference _
  cases preference with
  | none => exact reads_filtered
  | some =>
    simp only
    split
    · exact reads_filtered
    split
    · split
      · exact reads_filtered
      split
      · exact reads.error _
      next deliveryId hid =>
        have hident : IdentityFor work member.recipientId
            (openingIdentity work request member deliveryId) :=
          ⟨rfl, rfl, rfl, hkind.symm, rfl⟩
        split
        · exact buildEmailOpening_reads hident
        · exact buildTelegramOpening_reads hident
    · exact reads.error _

/-- How a recovery starts, depending on its opening. -/
def recoveryStart (work : Work) (opening : DeliveryRow) (snapshot : DeliverySnapshot) : Prop :=
  independentStart snapshot ∨
    snapshot.state = .waitingDependency ∧ work.channel = .email ∧ opening.state.awaited = true ∧
      snapshot.dependsOnOutboxId = work.dependsOnOutboxId ∧
      snapshot.dependsOnDeliveryId = some opening.deliveryId

/-- Content keeps the identity. -/
theorem withRecoveryContent_identity {filled : DeliveryIdentity}
    (h : IdentityFor work recipientId identity)
    (hfilled : withRecoveryContent P data opening identity = some filled) :
    IdentityFor work recipientId filled ∧ filled.dependsOnOutboxId = identity.dependsOnOutboxId ∧
      filled.dependsOnDeliveryId = identity.dependsOnDeliveryId := by
  unfold withRecoveryContent at hfilled
  obtain ⟨locale, -, hfilled⟩ := Option.bind_eq_some_iff.mp hfilled
  obtain ⟨content, -, hfilled⟩ := Option.bind_eq_some_iff.mp hfilled
  cases hfilled
  exact ⟨{ h with }, rfl, rfl⟩

theorem buildRecovery_reads (h : IdentityFor work recipientId identity) :
    reads.Holds (Examined.BuiltAs work recipientId (recoveryStart work opening))
      (buildRecovery P data opening identity now) := by
  have hmember : Harmless (currentMembershipActive identity.tenantId opening.recipientId) := by
    refine read_harmless fun row => ?_
    cases row with
    | none => trivial
    | some =>
      simp only
      split <;> trivial
  refine reads.andThen hmember.reads ?_
  intro active _
  split
  · split
    · -- By email the content is rendered after the address has been checked.
      refine reads.andThen (addressSuppressed_harmless _).reads ?_
      intro suppressed _
      split
      · exact reads_cancelled h fun _ => .inl
      · exact reads_created id (fun _ hfilled => (withRecoveryContent_identity h hfilled).1)
          fun _ => .inl
    · refine reads.andThen (loadTelegramDestination_harmless _ _).reads ?_
      intro destination _
      split
      · refine reads_built (fun _ => rfl) ?_
        intro d hd
        obtain ⟨locale, -, hd⟩ := Option.bind_eq_some_iff.mp hd
        obtain ⟨content, -, hd⟩ := Option.bind_eq_some_iff.mp hd
        have hident : IdentityFor work recipientId
            { identity with telegramContent := some content } := { h with }
        obtain ⟨hbuilt, hstate⟩ := hident.built hd
        exact ⟨hbuilt, .inl (.inl hstate)⟩
      · exact reads_cancelled h fun _ => .inl
  · exact reads_cancelled h fun _ => .inl

/-- One recipient of a recovery. -/
theorem examineOpening_reads (hkind : work.notificationKind = .recovery) (opening : DeliveryRow) :
    reads.Holds (Examined.BuiltAs work opening.recipientId (recoveryStart work opening))
      (examineOpening P work request data opening) := by
  unfold examineOpening
  split
  · exact reads.error _
  next deliveryId hid =>
    have hident : IdentityFor work opening.recipientId
        (recoveryIdentity work request opening deliveryId) :=
      ⟨rfl, rfl, rfl, hkind.symm, rfl⟩
    simp only
    split
    next hopen =>
      have hawaited : opening.state.awaited = true := by
        revert hopen
        cases opening.state <;> decide
      split
      · exact reads_cancelled hident fun _ => .inl
      next hchan =>
        refine reads_built (fun _ => rfl) ?_
        intro d hd
        obtain ⟨filled, hfilled, hd⟩ := Option.bind_eq_some_iff.mp hd
        unfold newWaitingDependencyDelivery at hd
        split at hd
        · obtain ⟨hfor, houtbox, hdeliv⟩ := withRecoveryContent_identity hident hfilled
          obtain ⟨hbuilt, hstate⟩ := hfor.built hd
          rw [newDelivery_snapshot hd] at hstate ⊢
          exact ⟨newDelivery_snapshot hd ▸ hbuilt, .inr ⟨hstate, hchan, hawaited, houtbox, hdeliv⟩⟩
        · cases hd
    next =>
      split
      · exact reads_cancelled hident fun _ => .inl
      · exact buildRecovery_reads hident

/-- Every recipient of a page is examined, in order. -/
theorem examineAll_reads {examine : α → Prog (Except StoreError β)} {R : α → β → Prop}
    (h : ∀ recipient, reads.Holds (R recipient) (examine recipient)) :
    ∀ recipients, reads.Holds (List.Forall₂ R recipients) (examineAll examine recipients)
  | [] => reads.ok .nil
  | recipient :: rest =>
    reads.andThen (h recipient) fun _ hexamined =>
      reads.andThen (examineAll_reads h rest) fun _ hothers => reads.ok (.cons hexamined hothers)

/-- Go on with what a program that only reads returns. -/
theorem SoundCall.read {Q : α → Prop} (hp : reads.Holds Q p)
    (hf : ∀ value t, Evolves s t → Q value → SoundCall P (f value) t) :
    SoundCall P (p.andThen f) s :=
  SoundCall.andThen (SoundOk.of_performs (harmless_all hp.performs.1) hp.performs.2) hf

/-- The rows of a query are rows of the store it finds. -/
theorem queryDeliveries_sound {cursor : Option Cursor} {limit : Nat}
    {f : QueryReply (DeliveryId × DeliveryRow) → Prog α}
    (hpage : ∀ items next u, Evolves s u → Base P u →
      (∀ item ∈ items, u.delivery outboxId item.1 = some item.2) →
      SoundCall P (f (.page items next)) u)
    (hlost : ∀ u, Evolves s u → SoundCall P (f .unavailable) u) :
    SoundCall P (queryDeliveries outboxId cursor limit >>= f) s := by
  refine Sound.call (fun _ _ _ => Justified.harmless rfl) ?_
  intro t choice reply u _ hbase hexec _ hu
  cases hexec
  unfold pageReply
  split
  · refine hpage _ _ t hu hbase ?_
    intro item hitem
    obtain ⟨id, -, hid⟩ := List.mem_filterMap.mp hitem
    obtain ⟨row, hrow, rfl⟩ := Option.map_eq_some_iff.mp hid
    exact hrow
  · exact hlost t hu
  · exact hlost t hu

/-- Pending, cancelled, or waiting for an opening the page fences. -/
def pageStart (checks : List Item) (snapshot : DeliverySnapshot) : Prop :=
  independentStart snapshot ∨ snapshot.state = .waitingDependency ∧ snapshot.channel = .email ∧
    snapshot.dependsOn = some (snapshot.openingOutboxId, snapshot.openingDeliveryId) ∧
    ∃ opening : DeliveryRow, opening.state.awaited = true ∧
      Item.delivery snapshot.openingOutboxId snapshot.openingDeliveryId
        (.checkOpening opening) ∈ checks

/-- The items of a delivery. -/
theorem PageItem.of_mutation {availableAt : Instant}
    {items : List Item} (h : deliveryMutation delivery availableAt = some item)
    (hplace : delivery.snapshot.outboxId =
      ⟨delivery.snapshot.eventId, delivery.snapshot.channel, delivery.snapshot.kind⟩)
    (hstart : pageStart checks delivery.snapshot) (hchecks : checks ⊆ items) :
    PageItem P items item := by
  unfold deliveryMutation at h
  simp only at h
  split at h
  next hpend =>
    obtain ⟨index, -, rfl⟩ := Option.map_eq_some_iff.mp h
    exact .pending availableAt index delivery.valid hplace hpend
  next hpend =>
    cases h
    rcases hstart with (hstate | hstate) | ⟨hstate, hchan, hdepends, opening, hawaited, hcheck⟩
    · exact absurd hstate hpend
    · exact .cancelled availableAt delivery.valid hplace hstate
    · exact .waiting availableAt opening delivery.valid hplace hstate hchan hdepends hawaited
        (hchecks hcheck)

/-- The last item of a page is the progress of its outbox. -/
theorem outboxMutation_item (h : outboxMutation work request result next = some item) :
    ∃ tenantId outboxId after, work.candidate.target = .outbox tenantId outboxId ∧
      item = .outbox tenantId outboxId (.expand work request.relayTime result after) := by
  unfold outboxMutation at h
  split at h
  · cases h
  next tenantId outboxId htarget =>
    split at h
    · cases h
      exact ⟨tenantId, outboxId, _, htarget, rfl⟩
    · obtain ⟨index, -, rfl⟩ := Option.map_eq_some_iff.mp h
      exact ⟨tenantId, outboxId, _, htarget, rfl⟩

/-- A page is justified. -/
theorem commitFanoutPage_sound {deliveries : List (Delivery P)}
    (hdeliveries : ∀ tenantId outboxId, work.candidate.target = .outbox tenantId outboxId →
      ∀ delivery ∈ deliveries, delivery.snapshot.outboxId =
        ⟨delivery.snapshot.eventId, delivery.snapshot.channel, delivery.snapshot.kind⟩ ∧
        pageStart checks delivery.snapshot) (hchecks : ∀ item ∈ checks, ∃ opening : DeliveryRow,
      item = .delivery opening.outboxId opening.deliveryId (.checkOpening opening)) :
    SoundCall P (commitFanoutPage work request deliveries checks result next) s := by
  unfold commitFanoutPage
  split
  · trivial
  next mutations hmutations =>
    split
    · trivial
    next hlen =>
      split
      · trivial
      next outbox houtbox =>
        obtain ⟨tenantId, outboxId, after, htarget, rfl⟩ := outboxMutation_item houtbox
        refine Sound.mono (fun _ _ _ _ => trivial) (transactItems_sound ?_)
        intro t _ _
        refine .page _ ?_ ?_
        · intro item hitem
          rcases List.mem_append.mp hitem with hitem | hitem
          · rcases List.mem_append.mp hitem with hmutation | hcheck
            · obtain ⟨delivery, hdeliv, hitem⟩ :=
                exists_of_forall₂ (mapM_forall₂ hmutations) hmutation
              obtain ⟨hplace, hstart⟩ := hdeliveries tenantId outboxId htarget delivery hdeliv
              refine .of_mutation hitem hplace hstart ?_
              intro check hcheck
              exact List.mem_append_left _ (List.mem_append_right _ hcheck)
            · obtain ⟨opening, rfl⟩ := hchecks item hcheck
              exact .check opening
          · rw [List.mem_singleton.mp hitem]
            exact .expand _ _ _ _ _ _
        · simp only [List.length_append, List.length_singleton] at hlen ⊢
          omega

/-! ## Reloaded work -/

/-- The job of the work is that of the delivery. -/
structure Work.Names (work : Work) (identity : DeliveryIdentity) : Prop where
  tenantId : work.tenantId = identity.tenantId
  outboxId : work.outboxId = identity.outboxId
  deliveryId : work.deliveryId = some identity.deliveryId
  eventId : work.eventId = identity.eventId
  kind : work.notificationKind = identity.kind
  channel : work.channel = identity.channel

/-- What work knows about the row it was reloaded from. -/
def Work.Known (work : Work) (s : Store) : Prop :=
  match work.candidate.target with
  | .outbox _ _ => work.outboxId = ⟨work.eventId, work.channel, work.notificationKind⟩
  | .delivery outboxId deliveryId =>
    ∃ row, Seen outboxId deliveryId row s ∧ work.Names row.toDeliveryIdentity

/-- Work stays known. -/
theorem Work.Known.mono {t : Store} (h : work.Known s) (hst : Evolves s t) : work.Known t := by
  unfold Work.Known at h ⊢
  split at h
  · exact h
  · obtain ⟨row, hseen, hnames⟩ := h
    exact ⟨row, hseen.mono hst, hnames⟩

/-- The delivery is in its place. -/
theorem IdentityFor.canonical (h : IdentityFor work recipientId identity)
    (hwork : work.Known s) (htarget : work.candidate.target = .outbox tenantId outboxId) :
    identity.outboxId = ⟨identity.eventId, identity.channel, identity.kind⟩ := by
  unfold Work.Known at hwork
  rw [htarget] at hwork
  rw [h.outboxId, h.eventId, h.channel, h.kind]
  exact hwork

/-- A lease keeps what the work says. -/
theorem Work.Known.leased (h : work.Known s) (owner : Option String) (epoch : Nat) :
    ({ work with leaseEpoch := epoch, leaseOwner := owner } : Work).Known s := by
  unfold Work.Known at h ⊢
  cases htarget : work.candidate.target with
  | outbox =>
    simp only [htarget] at h ⊢
    exact h
  | delivery outboxId deliveryId =>
    simp only [htarget] at h ⊢
    obtain ⟨row, hseen, hnames⟩ := h
    exact ⟨row, hseen, { hnames with }⟩

/-- Confirmed work is the work. -/
theorem confirmIndex_some {found : Work} (h : confirmIndex candidate work = .ok (some found)) :
    found = work := by
  unfold confirmIndex at h
  split at h
  · cases h
  · split at h
    · cases h
    · split at h
      · cases h
        rfl
      · cases h

/-- The work of an outbox. -/
theorem reloadOutbox_some {row : OutboxRow}
    (h : reloadOutbox tenantId outboxId candidate relayTime row = .ok (some work)) :
    work = row.work candidate := by
  unfold reloadOutbox at h
  split at h
  · cases h
  · cases h
  · split at h
    · split at h
      · cases h
      · split at h
        next found hfound =>
          split at h
          · cases h
            exact confirmIndex_some hfound
          · cases h
        next other hother => exact confirmIndex_some h
    · cases h

/-- The work of a delivery. -/
theorem reloadDelivery_some {row : DeliveryRow}
    (h : reloadDelivery outboxId deliveryId candidate relayTime row = .ok (some work)) :
    work = row.work candidate := by
  unfold reloadDelivery at h
  split at h
  · cases h
  · cases h
  · split at h
    · split at h
      · cases h
      · exact confirmIndex_some h
    · cases h

/-- Reloaded work is known. -/
theorem reload_sound (candidate : Candidate) (relayTime : Instant) (s : Store) :
    (discipline P).SoundOk (fun found t => ∀ work, found = some work → work.Known t)
      (reload candidate relayTime) s := by
  unfold reload
  split
  next tenantId outboxId htarget =>
    refine (getConsistent_sound _ s).soundOk.andThen ?_
    rintro row t - -
    cases row with
    | none => exact SoundOk.ok (by rintro _ ⟨⟩)
    | some =>
      rintro found hfound work rfl
      rw [reloadOutbox_some hfound]
      unfold Work.Known
      simp only [OutboxRow.work, htarget]
      rfl
  next outboxId deliveryId htarget =>
    refine (getConsistent_sound _ s).soundOk.andThen ?_
    rintro row t - ⟨hrow, -⟩
    cases row with
    | none => exact SoundOk.ok (by rintro _ ⟨⟩)
    | some row =>
      rintro found hfound work rfl
      rw [reloadDelivery_some hfound]
      unfold Work.Known
      simp only [DeliveryRow.work, htarget]
      exact ⟨row, .of_read hrow, ⟨rfl, rfl, rfl, rfl, rfl, rfl⟩⟩

theorem claimedWork_known {relay : RelayFields} (h : work.Known s) :
    ∀ found, claimedWork work lease relay = .ok found →
      ∀ claimed, found = some claimed → claimed.Known s := by
  rintro found hfound claimed rfl
  unfold claimedWork at hfound
  split at hfound
  · cases hfound
  · cases hfound
    exact h.leased _ _

/-- An update of an outbox that only leases it. -/
theorem updateOutbox_sound {update : OutboxUpdate} {f : UpdateReply OutboxRow → Prog α}
    (hleases : update.leases = true)
    (hf : ∀ reply u, Evolves s u → (discipline P).Sound post (f reply) u) :
    (discipline P).Sound post (updateOutbox tenantId outboxId update >>= f) s := by
  refine Sound.call (fun _ _ _ => .leaseOutbox tenantId outboxId update hleases) ?_
  intro t choice reply u _ _ _ _ hu
  exact hf reply u hu

/-- An update whose effect does not matter. -/
theorem updateDelivery_blind {update : DeliveryUpdate} {f : UpdateReply DeliveryRow → Prog α}
    (hop : ∀ t, Evolves s t → Justified P t (.updateDelivery outboxId deliveryId update))
    (hf : ∀ reply u, Evolves s u → (discipline P).Sound post (f reply) u) :
    (discipline P).Sound post (updateDelivery outboxId deliveryId update >>= f) s := by
  refine Sound.call (fun t ht _ => hop t ht) ?_
  intro t choice reply u _ _ _ _ hu
  exact hf reply u hu

/-- A claim is justified. -/
theorem relayClaim_sound (hwork : work.Known s) :
    (discipline P).SoundOk (fun found t => ∀ claimed, found = some claimed → claimed.Known t)
      (relayClaim work lease) s := by
  unfold relayClaim
  split
  · exact SoundOk.error _ _
  · split
    next tenantId outboxId htarget =>
      refine updateOutbox_sound rfl ?_
      intro reply u hu
      cases reply with
      | updated => exact claimedWork_known (hwork.mono hu)
      | conditionalCheckFailed => exact SoundOk.ok (by rintro _ ⟨⟩)
      | unavailable => exact SoundOk.error _ _
    next outboxId deliveryId htarget =>
      refine updateDelivery_blind (fun _ _ => .relayClaim outboxId deliveryId work lease) ?_
      intro reply u hu
      cases reply with
      | updated => exact claimedWork_known (hwork.mono hu)
      | conditionalCheckFailed => exact SoundOk.ok (by rintro _ ⟨⟩)
      | unavailable => exact SoundOk.error _ _

theorem reschedule_sound (work : Work) (next : Instant) (s : Store) :
    SoundCall P (reschedule work next) s := by
  unfold reschedule
  split
  · trivial
  next index hindex =>
    split
    · split
      next tenantId outboxId htarget => exact updateOutbox_sound rfl fun _ _ _ => trivial
      next outboxId deliveryId htarget =>
        exact updateDelivery_blind (fun _ _ => .reschedule outboxId deliveryId work next index)
          fun _ _ _ => trivial
    · trivial

theorem retryResult_sound (work : Work) (relayTime : Instant) (cause : StoreError)
    (category : String) (s : Store) : SoundCall P (retryResult work relayTime cause category) s := by
  unfold retryResult
  simp only
  refine SoundCall.bind (reschedule_sound _ _ s) ?_
  intro result t _
  cases result with
  | error => trivial
  | ok =>
    simp only
    split <;> trivial

/-- The kind of an expansion. -/
theorem expansionAdmitted_kind {kind : WorkKind} {notificationKind : NotificationKind}
    (h : expansionAdmitted work request kind notificationKind = true) :
    work.notificationKind = notificationKind := by
  simp only [expansionAdmitted, Bool.and_eq_true, decide_eq_true_eq] at h
  exact h.1.1.1.2

/-- A page of openings is sound. -/
theorem expandIntent_sound (hwork : work.Known s) :
    SoundCall P (expandIntent P work request) s := by
  unfold expandIntent
  split
  next hadm =>
    have hkind := expansionAdmitted_kind hadm
    refine SoundCall.read (loadEvent_harmless work).reads ?_
    intro event t _ _
    split
    · trivial
    next data hdata =>
      refine Sound.call (fun _ _ _ => .harmless rfl) ?_
      intro u choice reply v _ _ _ _ _
      cases reply with
      | unavailable => trivial
      | page =>
        change SoundCall P (if _ then _ else _) _
        split
        · refine SoundCall.read (examineAll_reads (examineMember_reads hkind) _) ?_
          intro examined v' _ hexamined
          refine SoundCall.bind (commitFanoutPage_sound ?_ (fun _ h => nomatch h)) ?_
          · intro tenantId outboxId htarget delivery hdeliv
            obtain ⟨one, hone, hbuilt⟩ := List.mem_filterMap.mp hdeliv
            obtain ⟨member, -, hmember⟩ := exists_of_forall₂ hexamined hone
            obtain ⟨hfor, hstart⟩ := hmember delivery hbuilt
            exact ⟨hfor.canonical hwork htarget, .inl hstart⟩
          · intro result v'' _
            cases result <;> trivial
        · trivial
  · trivial

/-- The opening that its recovery depends on. -/
structure OpeningOf (work : Work) (opening : DeliveryRow) : Prop where
  outboxId : opening.outboxId = ⟨work.eventId, work.channel, .opening⟩
  deliveryId : opening.deliveryId = ⟨work.eventId, .opening, work.channel, opening.recipientId⟩
  depends : work.dependsOnOutboxId = some opening.outboxId

/-- An opening that was listed. -/
theorem OpeningOf.of_query {openingId : OutboxId} {opening : DeliveryId × DeliveryRow}
    (hbase : Base P s) (hrow : s.delivery openingId opening.1 = some opening.2)
    (hwell : openingWellFormed work opening.1 opening.2 = true) : OpeningOf work opening.2 := by
  have hplaced := hbase.placed hrow
  have hid := DeliveryIdentity.deliveryId_of_valid hplaced.valid
  simp only [openingWellFormed, Bool.and_eq_true, decide_eq_true_eq] at hwell
  obtain ⟨⟨⟨⟨⟨⟨⟨⟨⟨-, hdepends⟩, hevent⟩, -⟩, hkind⟩, hchan⟩, -⟩, -⟩, -⟩, -⟩ := hwell
  refine ⟨?_, ?_, hdepends.symm⟩
  · rw [hplaced.outbox, hplaced.canonical, hevent, hkind, hchan]
  · rw [hid, hevent, hkind, hchan]

/-- A waiting recovery is fenced with its opening. -/
theorem pageStart_of_recovery {openings : List DeliveryRow} {snapshot : DeliverySnapshot}
    (hmem : opening ∈ openings) (hopening : OpeningOf work opening)
    (hfor : IdentityFor work opening.recipientId snapshot.toDeliveryIdentity)
    (hstart : recoveryStart work opening snapshot) :
    pageStart (openingChecks work.channel openings) snapshot := by
  rcases hstart with hstart | ⟨hwait, hchan, hawaited, hdependsOutbox, hdependsDelivery⟩
  · exact .inl hstart
  · have hfenced : fencesOpening work.channel opening.state = true := by
      rw [hchan]
      revert hawaited
      cases opening.state <;> decide
    have houtbox : snapshot.openingOutboxId = opening.outboxId := by
      rw [hopening.outboxId, DeliveryIdentity.openingOutboxId, hfor.eventId, hfor.channel]
    have hdeliv : snapshot.openingDeliveryId = opening.deliveryId := by
      rw [hopening.deliveryId, DeliveryIdentity.openingDeliveryId, hfor.eventId, hfor.channel,
        hfor.recipientId]
    refine .inr ⟨hwait, hfor.channel.trans hchan, ?_, opening, hawaited, ?_⟩
    · rw [DeliveryIdentity.dependsOn, hdependsOutbox, hopening.depends, hdependsDelivery, houtbox,
        hdeliv]
      rfl
    · rw [houtbox, hdeliv]
      exact List.mem_map.mpr ⟨opening, List.mem_filter.mpr ⟨hmem, hfenced⟩, rfl⟩

/-- A page of recoveries is sound. -/
theorem expandDependency_sound (hwork : work.Known s) :
    SoundCall P (expandDependency P work request) s := by
  unfold expandDependency
  split
  · trivial
  next openingId hdepends =>
    split
    next hadm =>
      have hkind := expansionAdmitted_kind hadm
      refine SoundCall.read (requireExpandedOpening_harmless work openingId _).reads ?_
      intro _ t _ _
      refine queryDeliveries_sound ?_ (fun _ _ => trivial)
      intro openings next u _ hbase hrows
      change SoundCall P (if _ then _ else _) _
      split
      next hwell =>
        have hopening : ∀ opening ∈ openings.map Prod.snd, OpeningOf work opening := by
          intro opening hmem
          obtain ⟨item, hitem, rfl⟩ := List.mem_map.mp hmem
          exact .of_query hbase (hrows item hitem) (List.all_eq_true.mp hwell item hitem)
        refine SoundCall.read (loadEvent_harmless work).reads ?_
        intro event v _ _
        split
        · trivial
        next data hdata =>
          refine SoundCall.read (examineAll_reads (examineOpening_reads hkind) _) ?_
          intro examined v' _ hexamined
          refine SoundCall.bind (commitFanoutPage_sound ?_ ?_) ?_
          · intro tenantId outboxId htarget delivery hdeliv
            obtain ⟨one, hone, hbuilt⟩ := List.mem_filterMap.mp hdeliv
            obtain ⟨opening, hmem, hexamine⟩ := exists_of_forall₂ hexamined hone
            obtain ⟨hfor, hstart⟩ := hexamine delivery hbuilt
            exact ⟨hfor.canonical hwork htarget,
              pageStart_of_recovery hmem (hopening opening hmem) hfor hstart⟩
          · intro item hitem
            obtain ⟨opening, -, rfl⟩ := List.mem_map.mp hitem
            exact ⟨opening, rfl⟩
          · intro result v'' _
            cases result <;> trivial
      next => trivial
    next => trivial

/-- What has been published stays published. -/
theorem publish_sound {job : JobEnvelope} {f : Option String → Prog α}
    (hsome : ∀ messageId u, Evolves s u → Published job u →
      (discipline P).Sound post (f (some messageId)) u)
    (hnone : ∀ u, Evolves s u → (discipline P).Sound post (f none) u) :
    (discipline P).Sound post (publish job >>= f) s := by
  refine Sound.call (fun _ _ _ => .harmless rfl) ?_
  intro t choice reply u _ _ hexec _ hu
  cases reply with
  | none => exact hnone u hu
  | some messageId =>
    refine hsome messageId u hu ?_
    simp only [notificationMachine, exec] at hexec
    cases hfault : choice.fault with
    | none =>
      rw [hfault] at hexec
      obtain ⟨-, rfl⟩ := Prod.mk.inj (Option.some.inj hexec)
      exact ⟨t.messages.length, ⟨choice.text, job, false, false⟩, by simp, rfl⟩
    | requestLost | answerLost =>
      rw [hfault] at hexec
      cases hexec

/-- A mark is justified. -/
theorem markQueued_sound {messageId : String} (hwork : work.Known s)
    (hpub : ∀ identity, work.Names identity → Published identity.job s) :
    SoundCall P (markQueued work messageId) s := by
  unfold markQueued
  split
  next outboxId deliveryId htarget =>
    split
    · refine updateDelivery_blind ?_ (fun _ _ _ => trivial)
      intro t ht
      unfold Work.Known at hwork
      rw [htarget] at hwork
      obtain ⟨row, hseen, hnames⟩ := hwork
      exact .markQueued outboxId deliveryId work (hseen.mono ht) ((hpub _ hnames).mono ht)
    · trivial
  next => trivial

theorem publishDelivery_sound (hwork : work.Known s) :
    SoundCall P (publishDelivery work relayTime) s := by
  unfold publishDelivery
  split
  · exact retryResult_sound _ _ _ _ _
  next deliveryId hdeliv =>
    split
    · exact retryResult_sound _ _ _ _ _
    next job hjob =>
      refine publish_sound ?_ (fun u _ => retryResult_sound _ _ _ _ u)
      intro messageId u hu hpub
      refine SoundCall.bind (markQueued_sound (hwork.mono hu) ?_) ?_
      · intro identity hnames
        have hjob' : job = identity.job := by
          unfold newDeliveryJob at hjob
          simp only at hjob
          split at hjob
          · cases hjob
            have hid := hdeliv.symm.trans hnames.deliveryId
            cases hid
            rw [hnames.tenantId, hnames.outboxId, hnames.eventId, hnames.kind, hnames.channel]
            rfl
          · cases hjob
        exact hjob' ▸ hpub
      · intro result v _
        cases result <;> trivial

theorem processWork_sound {config : RelayConfig} (hwork : work.Known s) :
    SoundCall P (processWork P config work) s := by
  have hend : ∀ category (result : Except StoreError WorkResult) (t : Store),
      SoundCall P (expansionResult work config.relayTime category result) t := by
    intro category result t
    cases result with
    | ok => trivial
    | error => exact retryResult_sound _ _ _ _ t
  unfold processWork
  split
  · exact SoundCall.bind (expandIntent_sound hwork) fun result t _ => hend _ result t
  · exact SoundCall.bind (expandDependency_sound hwork) fun result t _ => hend _ result t
  · exact publishDelivery_sound hwork

/-- The writes of the relay are justified. -/
theorem processCandidate_sound (config : RelayConfig) (candidate : Candidate) (s : Store) :
    SoundCall P (processCandidate P config candidate) s := by
  unfold processCandidate
  refine sound_perform rfl fun begun t _ => ?_
  split
  · trivial
  · refine Sound.bind ?_ (reload_sound candidate _ t)
    intro found u _ hfound
    cases found with
    | error => trivial
    | ok found =>
      cases found with
      | none => trivial
      | some work =>
        have hwork := hfound _ rfl work rfl
        change SoundCall P (if _ then _ else _) _
        split
        · trivial
        · refine sound_perform rfl fun now v hv => ?_
          split
          · trivial
          · refine Sound.bind ?_ (relayClaim_sound (hwork.mono hv))
            intro claimed v' _ hclaimed
            cases claimed with
            | error => trivial
            | ok claimed =>
              cases claimed with
              | none => trivial
              | some claimed => exact processWork_sound (hclaimed _ rfl claimed rfl)

/-- A message to delete is of a terminal delivery. -/
def callPost (call : Call) (result : CallResult) (s : Store) : Prop :=
  match call, result with
  | .handle _ _ message, .decided decision =>
    decision.action = .delete → TerminalAt message.job s
  | _, _ => True

/-- What a call established stays. -/
theorem callPost_mono (call : Call) (result : CallResult) (s t : Store)
    (h : callPost call result s) (hst : Evolves s t) : callPost call result t := by
  unfold callPost at h ⊢
  split
  · exact fun hdelete => (h hdelete).mono hst
  · trivial

/-- Workers are justified. -/
theorem handleMessage_sound {config : ProcessorConfig} {position : Nat} {message : QueueMessage}
    (hadmits : callAdmitted (.handle config position message) s = true) :
    (discipline P).Sound (callPost (.handle config position message))
      (handleMessage P config position message) s := by
  simp only [callAdmitted, Bool.and_eq_true, decide_eq_true_eq, Option.any_eq_true] at hadmits
  obtain ⟨-, published, hposition, -, hjob⟩ := hadmits
  refine Sound.bind ?_ (handle_sound ⟨position, published, hposition, hjob⟩)
  intro decision t ht hpost
  change (discipline P).Sound _ (if _ then _ else _) _
  split
  next hdelete =>
    refine Sound.call ?_ ?_
    · intro u hu _
      refine .deleteMessage position ?_
      intro current hcur
      obtain ⟨later, hlater, hsame⟩ := (ht.trans hu).message hposition
      rw [hcur] at hlater
      cases hlater
      rw [hsame.2, hjob]
      exact (hpost hdelete).mono hu
    · intro u choice reply v _ _ _ _ hv
      exact fun _ => (hpost hdelete).mono hv
  next hkeep => exact fun hdelete => absurd hdelete hkeep

/-- Every call of the system keeps the discipline. -/
theorem discipline_governs (P : Platform) : (discipline P).Governs callPost where
  body call s _ hadmits := by
    cases call with
    | handle => exact handleMessage_sound hadmits
    | renew record expiresAt =>
      refine Sound.bind ?_ (renew_sound record expiresAt s)
      exact fun _ _ _ _ => trivial
    | reconcile retention event =>
      refine sound_perform rfl fun now t _ => ?_
      refine Sound.bind ?_ (reconcile_sound retention event now t)
      exact fun _ _ _ _ => trivial
    | relay config candidate =>
      refine Sound.bind ?_ (processCandidate_sound config candidate s)
      exact fun _ _ _ _ => trivial
    | edit =>
      refine Sound.call (fun _ _ _ => .harmless rfl) ?_
      intro t choice reply u _ _ _ _ _
      trivial
  stable := callPost_mono

/-- Nothing to keep. -/
theorem Store.Fresh.base (h : s.Fresh) : Base P s := by
  refine ⟨?_, ?_, ?_, ?_⟩
  case refine_4 =>
    intro deliveryId attemptId attempt hatt
    rw [h.attempt] at hatt
    cases hatt
  all_goals
    intro outboxId deliveryId row hrow
    rw [h.delivery] at hrow
    cases hrow

/-- Operations are justified, and deletions right, in every run. -/
theorem run_disciplined {as : List (Action Outcome Call)} {w : World Store Call CallResult Op Reply}
    (hbase : Base P s) (hrun : (notificationMachine P).run (Machine.initial s) as = some w) :
    (notificationMachine P).Guarded (fun op _ u => Base P u ∧ Justified P u op)
        (Machine.initial s) as ∧ Base P w.store ∧ (discipline P).AllSound callPost w := by
  obtain ⟨hguards, hlast, hsound⟩ := Discipline.run_justified_initial
    (discipline_keeps P fun _ _ _ => True) (discipline_governs P) hbase
    (Machine.guarded_true as _) hrun
  exact ⟨hguards.mono fun _ _ _ h => ⟨h.1, h.2.1⟩, hlast, hsound⟩

end LimnoPulse.Notifications
