import LimnoPulse.Notifications.Quiet

/-!
# The fence of an attempt

Before an attempt the gates are read row by row, and the transaction that starts the
attempt checks conditions made from what was read.  They imply the whole check, up to
facts about the fence itself and the role of the membership, which does not change under
one version.

Main results:

- Theorem `checkGates_fits`: what a fence says that the gates have returned.
- Theorem `FenceFits.allowed`: a fence whose conditions hold implies the gates.
- Theorem `gates_hold_at_attempts`: no attempt starts for a recipient who may not be
  written to.
-/

namespace LimnoPulse.Notifications

open CivilTime StoreProgram Discipline

variable {P : Platform} {α : Type}
variable {op : Op} {s t : Store} {delivery : DeliverySnapshot} {version : Int}
  {preference : PreferenceRow} {record : DeliveryRecord} {fence : GateFence} {outcome : Outcome}
  {reply : Reply op} {row : Option PreferenceRow} {minimum : Nat} {post : GateResult → Prop}
  {key : Key} {next : α → Prog (Except StoreError GateResult)} {email : String}
  {request : SendRequest} {p : Prog α} {config : ProcessorConfig}

/-- The role of a membership under each of its versions. -/
abbrev Roles := String → String → Int → String

/-- Every membership has the role of its version. -/
def RolesVersioned (roles : Roles) (s : Store) : Prop :=
  ∀ tenantId recipientId (row : MemberRow),
    s.rows.lookup (.member tenantId recipientId) = some row →
    row.role = roles tenantId recipientId row.version

/-- A membership is written with the role of its version. -/
def KeepsRoles (roles : Roles) (op : Op) (_ : Outcome) (_ : Store) : Prop :=
  ∀ tenantId recipientId row, op = .edit (.member tenantId recipientId (some row)) →
    row.role = roles tenantId recipientId row.version

/-- Only an edit writes a membership. -/
theorem exec_member (h : exec P op outcome s = some (reply, t)) (tenantId recipientId : String) :
    t.rows.lookup (.member tenantId recipientId) = s.rows.lookup (.member tenantId recipientId) ∨
      ∃ row, op = .edit (.member tenantId recipientId row) ∧
        t.rows.lookup (.member tenantId recipientId) = row := by
  rcases exec_cases h with rfl | hcommit | ⟨job, messageId, -, rfl⟩ | ⟨position, -, rfl⟩ |
    ⟨request, -, rfl⟩ | ⟨change, hop, rfl⟩
  · exact .inl rfl
  · rcases hcommit.item_of_key (.member tenantId recipientId) with ⟨item, hmem, hkey⟩ | hframe
    · left
      have hitem := Table.transact_mem hcommit.rows (List.mem_map_of_mem hmem)
      cases item with
      | gate check =>
        cases check with
        | member =>
          cases hkey
          exact hitem.2
        | _ => cases hkey
      | _ => cases hkey
    · exact .inl hframe
  · exact .inl rfl
  · exact .inl rfl
  · exact .inl rfl
  · cases change with
    | member tenant recipient row =>
      by_cases heq : (⟨tenantId, recipientId⟩ : String × String) = (tenant, recipient)
      · cases heq
        exact .inr ⟨row, hop, Table.lookup_put _ _ _⟩
      · refine .inl (Table.lookup_put_of_ne ?_ _ _)
        rintro ⟨⟩
        exact heq rfl
    | createOutbox =>
      left
      simp only [Store.edit]
      split
      · exact Table.lookup_put_of_ne (by simp) _ _
      · rfl
    | moveToDeadLetters => exact .inl rfl
    | _ => exact .inl (Table.lookup_put_of_ne (by simp) _ _)

variable {roles : Roles}

/-- Roles stay versioned. -/
theorem RolesVersioned.exec (hs : RolesVersioned roles s)
    (hkeeps : KeepsRoles roles op outcome s) (h : exec P op outcome s = some (reply, t)) :
    RolesVersioned roles t := by
  intro tenantId recipientId row hrow
  rcases exec_member h tenantId recipientId with hsame | ⟨new, hop, hnew⟩
  · exact hs tenantId recipientId row (hsame ▸ hrow)
  · exact hkeeps tenantId recipientId row (by rw [hop, ← hnew, hrow])

/-! ## What lets a delivery pass -/

theorem emailMemberGate_eq_ok {row : Option MemberRow} :
    emailMemberGate delivery row = .ok version ↔ ∃ member, row = some member ∧
      member.entityType = "tenant_member" ∧ member.tenantId = delivery.tenantId ∧
      member.recipientId = delivery.recipientId ∧ member.role ≠ "" ∧ 1 ≤ member.version ∧
      member.status = "active" ∧ member.version = version := by
  cases row with
  | none => simp [emailMemberGate]
  | some =>
    simp only [emailMemberGate, ite_error_eq_ok_iff, not_or, not_not, not_lt, Except.ok.injEq,
      Option.some.injEq, exists_eq_left', and_assoc, ne_eq]
    constructor
    · rintro ⟨h₁, h₂, h₃, h₄, h₅, -, h₆, h₇⟩
      exact ⟨h₁, h₂, h₃, h₄, h₅, h₆, h₇⟩
    · rintro ⟨h₁, h₂, h₃, h₄, h₅, h₆, h₇⟩
      exact ⟨h₁, h₂, h₃, h₄, h₅, by simp [h₆], h₆, h₇⟩

theorem emailPreferenceGate_eq_ok :
    emailPreferenceGate P delivery row = .ok (preference, minimum) ↔ row = some preference ∧
      preference.entityType = "notification_preference" ∧
      preference.tenantId = delivery.tenantId ∧ preference.recipientId = delivery.recipientId ∧
      1 ≤ preference.version ∧ preference.emailAddress ≠ "" ∧
      isASCII preference.emailAddress = true ∧
      severityRank preference.minimumSeverity = some minimum ∧ preference.emailEnabled = true ∧
      preference.emailVerified = true ∧
      P.equalFold preference.emailAddress delivery.normalizedEmail = true := by
  cases row with
  | none => simp [emailPreferenceGate]
  | some =>
    simp only [emailPreferenceGate, ite_error_eq_ok_iff, not_or, not_not, not_lt,
      Option.some.injEq, and_assoc, ne_eq, Bool.not_eq_false]
    constructor
    · rintro ⟨h₁, h₂, h₃, h₄, h₅, h₆, h⟩
      split at h
      · cases h
      next rank hrank =>
        simp only [ite_eq_ok_iff, Except.ok.injEq, Prod.mk.injEq, Bool.and_eq_true] at h
        obtain ⟨⟨⟨h₇, h₈⟩, h₉⟩, rfl, rfl⟩ := h
        exact ⟨rfl, h₁, h₂, h₃, h₄, h₅, h₆, hrank, h₇, h₈, h₉⟩
    · rintro ⟨rfl, h₁, h₂, h₃, h₄, h₅, h₆, hrank, h₇, h₈, h₉⟩
      simp [h₁, h₂, h₃, h₄, h₅, h₆, h₇, h₈, h₉, hrank]

theorem emailEventGate_eq_ok {row : Option AlertEventRow} {severity : String} :
    emailEventGate delivery minimum row = .ok severity ↔ ∃ event rank, row = some event ∧
      eventMatches delivery event = true ∧ severityRank event.severity = some rank ∧
      minimum ≤ rank ∧ event.severity = severity := by
  cases row with
  | none => simp [emailEventGate]
  | some event =>
    simp only [emailEventGate, ite_eq_ok_iff, Option.some.injEq]
    cases hrank : severityRank event.severity with
    | none => simp [hrank]
    | some => simp [hrank, ite_error_eq_ok_iff]

theorem deliverabilityGate_eq_ok {identity : String} {row : Option DeliverabilityRow}
    {dependency : DeliverabilityDependency} :
    deliverabilityGate identity row = .ok dependency ↔
      dependency = ⟨identity, row.bind DeliverabilityRow.deliverability⟩ ∧
        dependency.state ≠ some .suppressed ∧ (row.isSome = true → dependency.state.isSome = true) := by
  cases row with
  | none =>
    simp only [deliverabilityGate, Except.ok.injEq, Option.bind_none]
    exact ⟨fun h => by simp [← h], fun h => h.1.symm⟩
  | some found =>
    simp only [deliverabilityGate, Option.bind_some]
    cases hstate : found.deliverability with
    | none =>
      constructor
      · rintro ⟨⟩
      · rintro ⟨rfl, -, hsome⟩
        exact absurd (hsome rfl) Bool.false_ne_true
    | some state =>
      cases state with
      | suppressed =>
        constructor
        · rintro ⟨⟩
        · rintro ⟨rfl, hstate, -⟩
          exact absurd rfl hstate
      | _ =>
        simp only [Except.ok.injEq]
        exact ⟨fun h => by simp [← h], fun h => h.1.symm⟩

theorem telegramMemberGate_eq_ok {row : Option MemberRow} :
    telegramMemberGate delivery row = .ok version ↔ ∃ member, row = some member ∧
      member.entityType = "tenant_member" ∧ member.tenantId = delivery.tenantId ∧
      member.recipientId = delivery.recipientId ∧ 1 ≤ member.version ∧
      member.status = "active" ∧ member.version = version := by
  cases row with
  | none => simp [telegramMemberGate]
  | some => simp [telegramMemberGate, ite_error_eq_ok_iff, ite_eq_ok_iff, and_assoc]

theorem telegramPreferenceGate_eq_ok :
    telegramPreferenceGate delivery row = .ok preference ↔ ∃ found, row = some found ∧
      found.entityType = "notification_preference" ∧ found.tenantId = delivery.tenantId ∧
      found.recipientId = delivery.recipientId ∧ 1 ≤ found.version ∧
      found.telegramEnabled = true ∧ found = preference := by
  cases row with
  | none => simp [telegramPreferenceGate]
  | some =>
    simp only [telegramPreferenceGate, ite_error_eq_ok_iff, ite_eq_ok_iff, Except.ok.injEq,
      Option.some.injEq, not_or, not_not, not_lt, ne_eq, and_assoc, exists_eq_left']

theorem bindingGate_eq_ok {row : Option TelegramBindingRow} :
    bindingGate delivery row = .ok version ↔ ∃ binding, row = some binding ∧
      binding.entityType = "telegram_binding" ∧ binding.tenantId = delivery.tenantId ∧
      binding.recipientId = delivery.recipientId ∧ 1 ≤ binding.version ∧
      binding.status = "verified" ∧ binding.destinationId = delivery.destinationId ∧
      binding.version = version := by
  cases row with
  | none => simp [bindingGate]
  | some => simp [bindingGate, ite_error_eq_ok_iff, and_assoc]

theorem destinationGate_eq_ok {row : Option TelegramDestinationRow}
    {destination : TelegramDestinationRow} :
    destinationGate delivery row = .ok destination ↔ ∃ found, row = some found ∧
      found.entityType = "telegram_destination" ∧ found.destinationId = delivery.destinationId ∧
      found.recipientId = delivery.recipientId ∧ found.chatId = delivery.telegramChatId ∧
      1 ≤ found.version ∧ found.status = "active" ∧ found = destination := by
  cases row with
  | none => simp [destinationGate]
  | some =>
    simp only [destinationGate, ite_error_eq_ok_iff, Except.ok.injEq, Option.some.injEq, not_or,
      not_not, not_lt, ne_eq, and_assoc, exists_eq_left']

theorem telegramEventGate_eq_ok {row : Option AlertEventRow} {event : AlertEventRow} :
    telegramEventGate delivery preference row = .ok event ↔ ∃ minimum rank, row = some event ∧
      eventMatches delivery event = true ∧
      severityRank preference.minimumSeverity = some minimum ∧
      severityRank event.severity = some rank ∧ minimum ≤ rank ∧
      validEventState delivery.kind event.status = true := by
  cases row with
  | none => simp [telegramEventGate]
  | some =>
    simp only [telegramEventGate, ite_eq_ok_iff, Option.some.injEq]
    constructor
    · rintro ⟨hmatch, h⟩
      split at h
      next minimum rank hminimum hrank =>
        simp only [ite_error_eq_ok_iff, ite_eq_ok_iff, not_lt, Except.ok.injEq] at h
        obtain ⟨hsevere, hstat, rfl⟩ := h
        exact ⟨minimum, rank, rfl, hmatch, hminimum, hrank, hsevere, hstat⟩
      next => cases h
    · rintro ⟨minimum, rank, rfl, hmatch, hminimum, hrank, hsevere, hstat⟩
      simp [hmatch, hminimum, hrank, Nat.not_lt.mpr hsevere, hstat]

/-- The event is as severe as the preference demands. -/
def SeverityFits (fence : GateFence) : Prop :=
  ∃ minimum rank, severityRank fence.preferenceMinimumSeverity = some minimum ∧
    severityRank fence.eventSeverity = some rank ∧ minimum ≤ rank

/-- The addresses that were read, in order. -/
inductive DependenciesFit (P : Platform) (email : String) : List DeliverabilityDependency → Prop
  | current {identity legacy : String} (state : Option EmailDeliverability)
      (hidentity : deliverabilityIdentity P email = some identity)
      (hlegacy : legacyDeliverabilityIdentity email = some legacy)
      (hstate : state ≠ some .suppressed) (hlast : state.isSome = true ∨ legacy = identity) :
      DependenciesFit P email [⟨identity, state⟩]
  | legacy {identity legacy : String} (state : Option EmailDeliverability)
      (hidentity : deliverabilityIdentity P email = some identity)
      (hlegacy : legacyDeliverabilityIdentity email = some legacy) (hne : legacy ≠ identity)
      (hstate : state ≠ some .suppressed) :
      DependenciesFit P email [⟨identity, none⟩, ⟨legacy, state⟩]

/-- What is true of every fence of the email gates. -/
structure EmailFits (P : Platform) (roles : Roles) (delivery : DeliverySnapshot)
    (fence : GateFence) : Prop where
  channel : fence.channel = .email
  complete : fence.isComplete = true
  role : roles delivery.tenantId delivery.recipientId fence.membershipVersion ≠ ""
  ascii : isASCII fence.preferenceEmailAddress = true
  address : P.equalFold fence.preferenceEmailAddress delivery.normalizedEmail = true
  severity : SeverityFits fence
  deliverability : DependenciesFit P delivery.normalizedEmail fence.deliverabilityDependencies

/-- What is true of every fence of the Telegram gates. -/
structure TelegramFits (delivery : DeliverySnapshot) (fence : GateFence) : Prop where
  channel : fence.channel = .telegram
  destination : fence.telegramDestinationId = delivery.destinationId
  chat : fence.telegramChatId = delivery.telegramChatId
  status : validEventState delivery.kind fence.eventStatus = true
  severity : SeverityFits fence

/-- The fence is one of the delivery's channel. -/
def FenceFits (P : Platform) (roles : Roles) (delivery : DeliverySnapshot) (fence : GateFence) :
    Prop :=
  match delivery.channel with
  | .email => EmailFits P roles delivery fence
  | .telegram => TelegramFits delivery fence

/-! ## Reading the gates -/

/-- An attempt starts with a complete fence of the gates. -/
def StartsFenced (P : Platform) (roles : Roles) (op : Op) : Prop :=
  ∀ record request, op = .transact (beginAttemptItems record request) →
    FenceFits P roles record.delivery request.gateFence ∧ request.gateFence.isComplete = true

/-- Memberships are versioned, and fences fit. -/
def gateDiscipline (P : Platform) (roles : Roles) : Discipline (notificationMachine P) where
  justified op _ := StartsFenced P roles op
  invariant := RolesVersioned roles
  rely _ _ := True
  refl _ := trivial
  trans _ _ := trivial

/-- Quiet operations start nothing. -/
theorem Op.startsFenced_of_quiet (h : op.quiet = true) : StartsFenced P roles op := by
  rintro record request rfl
  cases h

/-- Every result satisfies the predicate. -/
def GatesReturn (P : Platform) (roles : Roles) (post : GateResult → Prop)
    (p : Prog (Except StoreError GateResult)) : Prop :=
  ∀ s, (gateDiscipline P roles).SoundOk (fun result _ => post result) p s

/-- A passed gate has read a row of such a store. -/
theorem readGate_returns {gate : Option (Row key) → Except GateStop α}
    (hdenied : ∀ reason, post (.denied reason))
    (hnext : ∀ u value, RolesVersioned roles u → gate (u.rows.lookup key) = .ok value →
      GatesReturn P roles post (next value)) :
    GatesReturn P roles post (readGate key gate next) := by
  intro s
  refine Sound.call (fun _ _ _ => Op.startsFenced_of_quiet rfl) ?_
  intro t outcome reply u _ hvers hexec _ _
  cases hexec
  have herror : (gateDiscipline P roles).SoundOk (fun result _ => post result)
      (.done (.error StoreError.other)) t := SoundOk.error _ _
  cases outcome.fault with
  | none =>
    simp only [answer, Program.bind, Program.pure_eq_done]
    cases hgate : gate (t.rows.lookup key) with
    | ok value => exact hnext t value hvers hgate t
    | error stop =>
      cases stop with
      | malformed => exact herror
      | denied => exact SoundOk.ok (hdenied _)
  | requestLost | answerLost => exact herror

/-- The addresses that were read. -/
theorem readDeliverability_returns
    {next : List DeliverabilityDependency → Prog (Except StoreError GateResult)}
    (hdenied : ∀ reason, post (.denied reason))
    (hnext : ∀ dependencies, DependenciesFit P email dependencies →
      GatesReturn P roles post (next dependencies)) :
    GatesReturn P roles post (readDeliverability P email next) := by
  unfold readDeliverability
  split
  next identity legacy hident hlegacy =>
    refine readGate_returns hdenied fun u dependency _ hgate => ?_
    obtain ⟨hdependency, hstate, -⟩ := deliverabilityGate_eq_ok.mp hgate
    split
    next hlast =>
      rw [hdependency] at hstate hlast ⊢
      exact hnext _ (.current _ hident hlegacy hstate hlast)
    next hmore =>
      refine readGate_returns hdenied fun v legacyDependency _ hgate' => ?_
      obtain ⟨hdependency', hstate', -⟩ := deliverabilityGate_eq_ok.mp hgate'
      simp only [not_or, Bool.not_eq_true, Option.isSome_eq_false_iff, Option.isNone_iff_eq_none]
        at hmore
      have hfirst : dependency = ⟨identity, none⟩ := by
        rw [hdependency] at hmore ⊢
        exact congrArg (DeliverabilityDependency.mk identity) hmore.1
      rw [hfirst, hdependency']
      rw [hdependency'] at hstate'
      exact hnext _ (.legacy _ hident hlegacy hmore.2 hstate')
  next => exact fun _ => SoundOk.error _ _

/-- An allowed result has a fence that fits. -/
def AllowedFits (fits : GateFence → Prop) (result : GateResult) : Prop :=
  ∀ fence, result = .allowed fence → fits fence

/-- A denial says nothing. -/
theorem AllowedFits.denied {fits : GateFence → Prop} (reason : Option CancellationReason) :
    AllowedFits fits (.denied reason) := by
  rintro _ ⟨⟩

section

variable (roles : Roles) (record : DeliveryRecord)

/-- Email gates give a fence that fits. -/
theorem checkEmailGates_fits :
    GatesReturn P roles (AllowedFits (EmailFits P roles record.delivery))
      (checkEmailGates P record) := by
  refine readGate_returns AllowedFits.denied fun u version hvers hmember => ?_
  refine readGate_returns AllowedFits.denied fun _ value _ hpref => ?_
  obtain ⟨preference, minimum⟩ := value
  refine readGate_returns AllowedFits.denied fun _ severity _ hevent => ?_
  refine readDeliverability_returns AllowedFits.denied fun dependencies hdeps => ?_
  obtain ⟨member, hrow, -, -, -, hrole, -, -, rfl⟩ := emailMemberGate_eq_ok.mp hmember
  obtain ⟨-, -, -, -, -, -, hascii, hminimum, -, -, haddress⟩ := emailPreferenceGate_eq_ok.mp hpref
  obtain ⟨event, rank, -, -, hrank, hsevere, rfl⟩ := emailEventGate_eq_ok.mp hevent
  intro s
  simp only
  split
  next hcomplete =>
    refine SoundOk.ok ?_
    rintro fence ⟨⟩
    exact
      { channel := rfl
        complete := hcomplete
        role := hvers _ _ member hrow ▸ hrole
        ascii := hascii
        address := haddress
        severity := ⟨minimum, rank, hminimum, hrank, hsevere⟩
        deliverability := hdeps }
  next => exact SoundOk.error _ _

theorem checkTelegramGates_fits :
    GatesReturn P roles (AllowedFits (TelegramFits record.delivery))
      (checkTelegramGates record) := by
  unfold checkTelegramGates
  simp only
  split
  · exact fun _ => SoundOk.error _ _
  refine readGate_returns AllowedFits.denied fun _ version _ _ => ?_
  refine readGate_returns AllowedFits.denied fun _ preference _ _ => ?_
  refine readGate_returns AllowedFits.denied fun _ bindingVersion _ _ => ?_
  refine readGate_returns AllowedFits.denied fun _ destination _ hdest => ?_
  refine readGate_returns AllowedFits.denied fun _ event _ hevent => ?_
  obtain ⟨_, -, -, hid, -, hchat, -, -, rfl⟩ := destinationGate_eq_ok.mp hdest
  obtain ⟨minimum, rank, -, -, hminimum, hrank, hsevere, hstat⟩ := telegramEventGate_eq_ok.mp hevent
  refine fun _ => SoundOk.ok ?_
  rintro fence ⟨⟩
  exact
    { channel := rfl
      destination := hid
      chat := hchat
      status := hstat
      severity := ⟨minimum, rank, hminimum, hrank, hsevere⟩ }

/-- What a fence says that the gates have returned. -/
theorem checkGates_fits :
    GatesReturn P roles (AllowedFits (FenceFits P roles record.delivery))
      (checkGates P record.delivery.channel record) := by
  unfold FenceFits
  cases record.delivery.channel with
  | email => exact checkEmailGates_fits roles record
  | telegram => exact checkTelegramGates_fits roles record

end

/-- The gates, read in one moment, let the delivery pass. -/
def GatesAllow (P : Platform) (record : DeliveryRecord) (s : Store) : Prop :=
  ∃ fence, (checkGates P record.delivery.channel record).alone (exec P) {} s =
    some (.ok (.allowed fence), s)

/-- A passed gate goes on to the next one. -/
theorem readGate_alone {gate : Option (Row key) → Except GateStop α} {value : α}
    (h : gate (s.rows.lookup key) = .ok value) :
    (readGate key gate next).alone (exec P) {} s = (next value).alone (exec P) {} s := by
  have hread : (getConsistent key).alone (exec P) {} s = some (.ok (s.rows.lookup key), s) := rfl
  rw [readGate, Program.alone_andThen hread, h]

/-- Every check found its row as it demands. -/
theorem Committed.gate {items : List Item} (h : Committed items s t) {check : GateCheck}
    (hmem : Item.gate check ∈ items) :
    check.toTableItem.condition (s.rows.lookup check.toTableItem.key) = true :=
  (Table.transact_mem h.rows (List.mem_map_of_mem hmem)).1

/-- An address with unchanged dependencies. -/
theorem DependenciesFit.alone {dependencies : List DeliverabilityDependency}
    (h : DependenciesFit P email dependencies) (hchecks : ∀ dependency ∈ dependencies,
      (GateCheck.deliverability dependency).toTableItem.condition
        (s.rows.lookup (GateCheck.deliverability dependency).toTableItem.key) = true)
    (next : List DeliverabilityDependency → Prog (Except StoreError GateResult)) :
    (readDeliverability P email next).alone (exec P) {} s =
      (next dependencies).alone (exec P) {} s := by
  -- A row that meets its check gives the dependency it was read as.
  have hgate : ∀ dependency : DeliverabilityDependency, dependency ∈ dependencies →
      dependency.state ≠ some .suppressed →
      deliverabilityGate dependency.identity
        (s.rows.lookup (.deliverability dependency.identity)) = .ok dependency := by
    rintro ⟨identity, state⟩ hmem hstate
    have hcheck := hchecks _ hmem
    refine deliverabilityGate_eq_ok.mpr ⟨?_, hstate, ?_⟩
    all_goals
      cases state with
      | none =>
        have hnone : s.rows.lookup (.deliverability identity) = none :=
          Option.isNone_iff_eq_none.mp hcheck
        simp [hnone]
      | some =>
        obtain ⟨row, hrow, hdeliverability⟩ := (Option.any_eq_true _ _).mp hcheck
        have hrow' : s.rows.lookup (.deliverability identity) = some row := hrow
        simp only [decide_eq_true_eq] at hdeliverability
        simp [hrow', hdeliverability]
  unfold readDeliverability
  cases h with
  | current state hident hlegacy hstate hlast =>
    rw [hident, hlegacy]
    simp only
    rw [readGate_alone (hgate _ List.mem_cons_self hstate), if_pos hlast]
  | legacy state hident hlegacy hne hstate =>
    rw [hident, hlegacy]
    simp only
    rw [readGate_alone (hgate _ List.mem_cons_self (by simp)), if_neg (by simp [hne]),
      readGate_alone (hgate _ (List.mem_cons_of_mem _ List.mem_cons_self) hstate)]

/-- An email fence whose conditions hold implies the gates. -/
theorem EmailFits.allowed (h : EmailFits P roles record.delivery fence)
    (hvers : RolesVersioned roles s) (hchan : record.delivery.channel = .email)
    (hchecks : ∀ check, Item.gate check ∈ gateFenceConditions record fence →
      check.toTableItem.condition (s.rows.lookup check.toTableItem.key) = true) :
    GatesAllow P record s := by
  have hcomplete := h.complete
  simp only [GateFence.isComplete, h.channel, Bool.and_eq_true, decide_eq_true_eq] at hcomplete
  obtain ⟨⟨⟨⟨hmemb, hpref⟩, -⟩, -⟩, ⟨⟨⟨haddress, -⟩, -⟩, -⟩, -⟩ := hcomplete
  have haddress : fence.preferenceEmailAddress ≠ "" := by
    simp only [validateIdentityField, Bool.and_eq_true, decide_eq_true_eq] at haddress
    exact haddress.1
  simp only [gateFenceConditions, hchan] at hchecks
  obtain ⟨member, hmemberRow, hmember⟩ := (Option.any_eq_true _ _).mp
    (hchecks (.member record fence) (by simp))
  obtain ⟨preference, hpreferenceRow, hprefIs⟩ := (Option.any_eq_true _ _).mp
    (hchecks (.emailPreference record fence) (by simp))
  obtain ⟨event, heventRow, hevent⟩ := (Option.any_eq_true _ _).mp
    (hchecks (.emailEvent record fence) (by simp))
  simp only [Bool.and_eq_true, decide_eq_true_eq] at hmember hprefIs hevent
  obtain ⟨⟨⟨⟨hm₁, hm₂⟩, hm₃⟩, hm₄⟩, hm₅⟩ := hmember
  obtain ⟨⟨⟨⟨⟨⟨⟨hp₁, hp₂⟩, hp₃⟩, hp₄⟩, hp₅⟩, hp₆⟩, hp₇⟩, hp₈⟩ := hprefIs
  obtain ⟨⟨⟨⟨he₁, he₂⟩, he₃⟩, he₄⟩, he₅⟩ := hevent
  obtain ⟨minimum, rank, hminimum, hrank, hsevere⟩ := h.severity
  have hmemberGate : emailMemberGate record.delivery (s.rows.lookup (.member _ _)) =
      .ok fence.membershipVersion :=
    emailMemberGate_eq_ok.mpr ⟨member, hmemberRow, hm₁, hm₂, hm₃,
      hvers _ _ member hmemberRow ▸ hm₅ ▸ h.role, hm₅ ▸ hmemb, hm₄, hm₅⟩
  have hpreferenceGate : emailPreferenceGate P record.delivery (s.rows.lookup (.preference _ _)) =
      .ok (preference, minimum) :=
    emailPreferenceGate_eq_ok.mpr ⟨hpreferenceRow, hp₁, hp₂, hp₃, hp₄ ▸ hpref,
      hp₆ ▸ haddress, hp₆ ▸ h.ascii, hp₈ ▸ hminimum, hp₅, hp₇, hp₆ ▸ h.address⟩
  have heventGate : emailEventGate record.delivery minimum (s.rows.lookup (.alertEvent _ _)) =
      .ok fence.eventSeverity :=
    emailEventGate_eq_ok.mpr ⟨event, rank, heventRow, by simp [eventMatches, he₁, he₂, he₃, he₄],
      he₅ ▸ hrank, hsevere, he₅⟩
  have hdeps : ∀ dependency ∈ fence.deliverabilityDependencies,
      (GateCheck.deliverability dependency).toTableItem.condition
        (s.rows.lookup (GateCheck.deliverability dependency).toTableItem.key) = true := by
    intro dependency hmem
    refine hchecks _ (List.mem_append_right _ ?_)
    exact List.mem_map.mpr ⟨dependency, hmem, rfl⟩
  let found : GateFence :=
    { membershipVersion := fence.membershipVersion
      preferenceVersion := preference.version
      preferenceEmailAddress := preference.emailAddress
      preferenceMinimumSeverity := preference.minimumSeverity
      eventSeverity := fence.eventSeverity
      deliverabilityDependencies := fence.deliverabilityDependencies }
  have hfound : found.isComplete = true := by
    have hcomplete := h.complete
    simp only [GateFence.isComplete, h.channel, found, hp₄, hp₆, hp₈] at hcomplete ⊢
    exact hcomplete
  refine ⟨found, ?_⟩
  rw [hchan]
  change (checkEmailGates P record).alone (exec P) {} s = _
  unfold checkEmailGates
  simp only
  rw [readGate_alone hmemberGate, readGate_alone hpreferenceGate, readGate_alone heventGate,
    h.deliverability.alone hdeps]
  change (if found.isComplete then pure (.ok (.allowed found)) else pure (.error .other) :
    Prog (Except StoreError GateResult)).alone (exec P) {} s = _
  rw [if_pos hfound]
  rfl

/-- A Telegram fence whose conditions hold implies the gates. -/
theorem TelegramFits.allowed (h : TelegramFits record.delivery fence)
    (hcomplete : fence.isComplete = true) (hchan : record.delivery.channel = .telegram)
    (hchecks : ∀ check, Item.gate check ∈ gateFenceConditions record fence →
      check.toTableItem.condition (s.rows.lookup check.toTableItem.key) = true) :
    GatesAllow P record s := by
  simp only [GateFence.isComplete, h.channel, Bool.and_eq_true, decide_eq_true_eq] at hcomplete
  obtain ⟨⟨⟨⟨hmemb, hpref⟩, -⟩, -⟩,
    ⟨⟨⟨⟨⟨hid, hchatId⟩, hbindVer⟩, hdestVer⟩, -⟩, -⟩, -⟩ := hcomplete
  have hid : record.delivery.destinationId ≠ "" := by
    simp only [validateIdentityField, Bool.and_eq_true, decide_eq_true_eq] at hid
    exact h.destination ▸ hid.1
  have hchatId : ¬ record.delivery.telegramChatId ≤ 0 := by
    have hchat := h.chat
    omega
  simp only [gateFenceConditions, hchan] at hchecks
  obtain ⟨member, hmemberRow, hmember⟩ := (Option.any_eq_true _ _).mp
    (hchecks (.member record fence) (by simp))
  obtain ⟨preference, hpreferenceRow, hprefIs⟩ := (Option.any_eq_true _ _).mp
    (hchecks (.telegramPreference record fence) (by simp))
  obtain ⟨binding, hbindingRow, hbinding⟩ := (Option.any_eq_true _ _).mp
    (hchecks (.binding record fence) (by simp))
  obtain ⟨destination, hdestinationRow, hdest⟩ := (Option.any_eq_true _ _).mp
    (hchecks (.destination record fence) (by simp))
  obtain ⟨event, heventRow, hevent⟩ := (Option.any_eq_true _ _).mp
    (hchecks (.telegramEvent record fence) (by simp))
  simp only [Bool.and_eq_true, decide_eq_true_eq] at hmember hprefIs hbinding
  simp only [Bool.and_eq_true, decide_eq_true_eq] at hdest hevent
  obtain ⟨⟨⟨⟨hm₁, hm₂⟩, hm₃⟩, hm₄⟩, hm₅⟩ := hmember
  obtain ⟨⟨⟨⟨⟨hp₁, hp₂⟩, hp₃⟩, hp₄⟩, hp₅⟩, hp₆⟩ := hprefIs
  obtain ⟨⟨⟨⟨⟨hb₁, hb₂⟩, hb₃⟩, hb₄⟩, hb₅⟩, hb₆⟩ := hbinding
  obtain ⟨⟨⟨⟨⟨hd₁, hd₂⟩, hd₃⟩, hd₄⟩, hd₅⟩, hd₆⟩ := hdest
  obtain ⟨⟨⟨⟨⟨he₁, he₂⟩, he₃⟩, he₄⟩, he₅⟩, he₆⟩ := hevent
  obtain ⟨minimum, rank, hminimum, hrank, hsevere⟩ := h.severity
  have hmemberGate : telegramMemberGate record.delivery (s.rows.lookup (.member _ _)) =
      .ok fence.membershipVersion :=
    telegramMemberGate_eq_ok.mpr ⟨member, hmemberRow, hm₁, hm₂, hm₃, hm₅ ▸ hmemb, hm₄, hm₅⟩
  have hpreferenceGate : telegramPreferenceGate record.delivery
      (s.rows.lookup (.preference _ _)) = .ok preference :=
    telegramPreferenceGate_eq_ok.mpr
      ⟨preference, hpreferenceRow, hp₁, hp₂, hp₃, hp₄ ▸ hpref, hp₅, rfl⟩
  have hbindingGate : bindingGate record.delivery (s.rows.lookup (.telegramBinding _ _)) =
      .ok fence.telegramBindingVersion :=
    bindingGate_eq_ok.mpr ⟨binding, hbindingRow, hb₁, hb₂, hb₃, hb₆ ▸ hbindVer, hb₅,
      hb₄.trans h.destination, hb₆⟩
  have hdestinationGate : destinationGate record.delivery
      (s.rows.lookup (.telegramDestination record.delivery.destinationId)) = .ok destination :=
    destinationGate_eq_ok.mpr ⟨destination, h.destination ▸ hdestinationRow, hd₁,
      hd₃.trans h.destination, hd₂, hd₄.trans h.chat, hd₆ ▸ hdestVer, hd₅, rfl⟩
  have heventGate : telegramEventGate record.delivery preference
      (s.rows.lookup (.alertEvent _ _)) = .ok event :=
    telegramEventGate_eq_ok.mpr ⟨minimum, rank, heventRow,
      by simp [eventMatches, he₁, he₂, he₃, he₄], hp₆ ▸ hminimum, he₅ ▸ hrank, hsevere,
      he₆ ▸ h.status⟩
  refine ⟨
    { channel := .telegram
      membershipVersion := fence.membershipVersion
      preferenceVersion := preference.version
      preferenceMinimumSeverity := preference.minimumSeverity
      eventSeverity := event.severity
      eventStatus := event.status
      telegramDestinationId := destination.destinationId
      telegramChatId := destination.chatId
      telegramBindingVersion := fence.telegramBindingVersion
      telegramDestinationVersion := destination.version }, ?_⟩
  rw [hchan]
  change (checkTelegramGates record).alone (exec P) {} s = _
  unfold checkTelegramGates
  simp only
  rw [if_neg (by simp [hchan, hid, hchatId]), readGate_alone hmemberGate,
    readGate_alone hpreferenceGate, readGate_alone hbindingGate, readGate_alone hdestinationGate,
    readGate_alone heventGate]
  rfl

/-- A fence whose conditions hold implies the gates. -/
theorem FenceFits.allowed {request : BeginAttemptRequest}
    (h : FenceFits P roles record.delivery request.gateFence)
    (hcomplete : request.gateFence.isComplete = true) (hvers : RolesVersioned roles s)
    (hcommit : Committed (beginAttemptItems record request) s t) : GatesAllow P record s := by
  have hchecks : ∀ check, Item.gate check ∈ gateFenceConditions record request.gateFence →
      check.toTableItem.condition (s.rows.lookup check.toTableItem.key) = true :=
    fun _ hmem => hcommit.gate (List.mem_append_right _ hmem)
  unfold FenceFits at h
  cases hchan : record.delivery.channel with
  | email =>
    rw [hchan] at h
    exact EmailFits.allowed h hvers hchan hchecks
  | telegram =>
    rw [hchan] at h
    exact TelegramFits.allowed h hcomplete hchan hchecks

/-- The program starts attempts with fences that fit. -/
def Fencing (P : Platform) (roles : Roles) (p : Prog α) : Prop :=
  ∀ s, (gateDiscipline P roles).Sound (fun _ _ => True) p s

/-- Quiet programs are fenced. -/
theorem Quiet.fencing (h : Quiet p) {Q : α → Prop} (hret : p.Returns Q) (s : Store) :
    (gateDiscipline P roles).Sound (fun result _ => Q result) p s :=
  Sound.of_performs
    (Program.Performs.mono (fun _ hop _ => Op.startsFenced_of_quiet hop) h) hret

theorem fencing_of_quiet (h : Quiet p) : Fencing P roles p :=
  fun s => h.fencing (Program.Returns.trivial p) s

/-- Only the attempt matters. -/
theorem fencing_spine (roles : Roles) : Spine (Fencing P roles) where
  quiet := fencing_of_quiet
  bind hp hret hf s :=
    Sound.bind (fun value t _ hvalue => hf value hvalue t) (hp.fencing hret s)

/-- An attempt is fenced. -/
theorem attemptSend_fencing
    (hfits : FenceFits P roles record.delivery fence) (hcomplete : fence.isComplete = true) :
    Fencing P roles (attemptSend P config record request fence) := by
  refine (fencing_spine roles).ask rfl fun startedAt => ?_
  -- The one operation that is not quiet.
  have hbegin : ∀ begin : BeginAttemptRequest, begin.gateFence = fence →
      Fencing P roles (beginAttempt record begin) := by
    intro begin hfence
    unfold beginAttempt
    split
    · refine fun s => Sound.call ?_ ?_
      · rintro t - - record' request' heq
        simp only [Op.transact.injEq, beginAttemptItems, List.cons_append, List.cons.injEq,
          DeliveryRecord.item, Item.delivery.injEq, DeliveryUpdate.beginAttempt.injEq] at heq
        obtain ⟨⟨-, -, rfl, rfl⟩, -⟩ := heq
        exact ⟨hfence ▸ hfits, hfence ▸ hcomplete⟩
      · intro t outcome reply u _ _ _ _ _
        cases reply <;> trivial
    · exact fun _ => trivial
  refine fun s => Sound.bind ?_ (hbegin _ rfl s)
  intro result t _ _
  cases result with
  | error => trivial
  | ok =>
    refine Sound.call ?_ ?_
    · rintro u - - record' request' heq
      cases heq
    · intro u outcome reply v _ _ _ _ _
      exact fencing_of_quiet (quiet_perform rfl fun _ => finishAttempt_quiet) v

theorem handleAdmitted_fencing (hchan : config.channel = record.delivery.channel) :
    Fencing P roles (handleAdmitted P config record request) := by
  have hspine := fencing_spine (P := P) roles
  refine hspine.ask rfl fun failed => ?_
  split
  · exact fencing_of_quiet (deferNow_quiet)
  refine fun s => Sound.bind ?_ (hchan ▸ checkGates_fits roles record s)
  intro gates t _ hgates
  cases gates with
  | error => exact fencing_of_quiet (deferNow_quiet) t
  | ok gates =>
    cases gates with
    | denied => exact hspine.stopped (fencing_of_quiet (handleDenied_quiet)) t
    | allowed fence =>
      exact hspine.fenced (fun hcomplete => attemptSend_fencing (hgates _ rfl fence rfl) hcomplete) t

/-- All calls are fenced. -/
theorem gateDiscipline_governs (P : Platform) (roles : Roles) :
    (gateDiscipline P roles).Governs fun _ _ _ => True where
  body call s _ hadmits := by
    cases call with
    | handle config position message =>
      simp only [notificationMachine, callAdmitted, Bool.and_eq_true, decide_eq_true_eq] at hadmits
      have hhandle : Fencing P roles (handle P config message) :=
        (fencing_spine roles).handle fun record request _ hchan =>
          handleAdmitted_fencing (hadmits.1.trans hchan.symm)
      refine Sound.bind ?_ (hhandle s)
      intro decision t _ _
      change (gateDiscipline P roles).Sound _ (if _ then _ else _) _
      split
      · exact Sound.call (fun _ _ _ => Op.startsFenced_of_quiet rfl)
          fun _ _ _ _ _ _ _ _ _ => trivial
      · trivial
    | renew =>
      refine fencing_of_quiet (Quiet.bind (renew_quiet) ?_) s
      exact fun _ => trivial
    | reconcile =>
      refine fencing_of_quiet (quiet_perform rfl fun _ => Quiet.bind (reconcile_quiet) ?_) s
      exact fun _ => trivial
    | relay =>
      refine fencing_of_quiet (Quiet.bind (processCandidate_quiet) ?_) s
      exact fun _ => trivial
    | edit =>
      exact Sound.call (fun _ _ _ => Op.startsFenced_of_quiet rfl)
        fun _ _ _ _ _ _ _ _ _ => trivial
  stable _ _ _ _ _ _ := trivial

/-! ## Runs -/

/-- Where an attempt starts, the gates would pass. -/
def GatesHold (P : Platform) (op : Op) (outcome : Outcome) (s : Store) : Prop :=
  ∀ record request reply t, op = .transact (beginAttemptItems record request) →
    exec P op outcome s = some (reply, t) → t ≠ s → GatesAllow P record s

/-- In every run, and in every store it starts from, the transaction that records an attempt commits
only where the gates of its channel, read in that moment, allow the send.  Others may write whatever
they like at any time, as long as who changes the role of a membership counts its version up. -/
theorem gates_hold_at_attempts {roles : Roles} {s : Store} {as : List (Action Outcome Call)}
    {w : World Store Call CallResult Op Reply} (hversioned : RolesVersioned roles s)
    (hkeeps : (notificationMachine P).Guarded (KeepsRoles roles) (Machine.initial s) as)
    (hrun : (notificationMachine P).run (Machine.initial s) as = some w) :
    (notificationMachine P).Guarded (GatesHold P) (Machine.initial s) as := by
  obtain ⟨hguarded, -, -⟩ := Discipline.run_justified_initial
    (D := gateDiscipline P roles)
    (fun _ _ _ _ _ hs _ hkeeps hexec => ⟨hs.exec hkeeps hexec, trivial⟩)
    (gateDiscipline_governs P roles) hversioned hkeeps hrun
  refine hguarded.mono ?_
  rintro op outcome u ⟨hversioned, hstarts, -⟩ record request reply t rfl hexec hne
  rcases transact_committed (Option.some.inj hexec) with ⟨hsame, -⟩ | ⟨hcommit, -⟩
  · exact absurd hsame hne
  · obtain ⟨hfits, hcomplete⟩ := hstarts record request rfl
    exact hfits.allowed hcomplete hversioned hcommit

/-- Memberships are written with the role of the version. -/
def Op.keepsRoles (roles : Roles) : Op → Bool
  | .edit (.member tenantId recipientId (some row)) =>
    row.role = roles tenantId recipientId row.version
  | _ => true

namespace OneRecipient

/-- A viewer at first, a manager from version 2 on. -/
def memberRoles : Roles := fun _ _ version => if version = 1 then "viewer" else "manager"

/-- The recipient as a manager. -/
def manager : MemberRow := { member with role := "manager", version := 2 }

/-- The recipient is promoted after a worker has read the gates; only the next one sends. -/
def promoted : List (Action Outcome Call) :=
  published ++ handled 3 16 { now := 3, text := "a1" } ++
    performed 4 (.edit (.member "t" "u" (some manager))) 1 {} ++
    List.replicate 5 (.step 3 { now := 3, text := "a1" }) ++
    handled 5 26 { now := 2 * minute, text := "a2", send := .accepted "p2" }

/-- Roles are versioned. -/
theorem store_rolesVersioned : RolesVersioned memberRoles store := by
  intro tenantId recipientId row hrow
  by_cases hkey : Key.member tenantId recipientId = .member "t" "u"
  · cases hkey
    cases hrow
    rfl
  · have hnone : store.rows.lookup (.member tenantId recipientId) = none := by
      refine (Table.lookup_put_of_ne (by simp) _ _).trans ?_
      refine (Table.lookup_put_of_ne (by simp) _ _).trans ?_
      exact Table.lookup_put_of_ne hkey _ _
    cases hnone.symm.trans hrow

end OneRecipient

open OneRecipient

/-- The role changes between the gates and the attempt. -/
theorem gates_hold_at_attempts_of_sent : ∃ w,
    machine.run initial promoted = some w ∧ w.store.sends = [(deliveryId .opening, "a2")] ∧
      machine.Guarded (GatesHold platform) initial promoted := by
  have hfinal : (machine.run initial promoted).map (fun w => w.store.sends) =
      some [(deliveryId .opening, "a2")] := by
    decide +kernel
  have hkept : machine.Guarded (fun op _ _ => op.keepsRoles memberRoles) initial promoted := by
    decide +kernel
  obtain ⟨w, hrun, hsends⟩ := Option.map_eq_some_iff.mp hfinal
  refine ⟨w, hrun, hsends, gates_hold_at_attempts store_rolesVersioned (hkept.mono ?_) hrun⟩
  rintro _ _ _ hkeeps _ _ _ rfl
  exact of_decide_eq_true hkeeps

end LimnoPulse.Notifications
