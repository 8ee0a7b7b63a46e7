import LimnoPulse.Alerts.Incident

/-!
# Opening and recovery outboxes

A commit that opens an incident writes one outbox row for each channel, and the state keeps
their identifiers.  The commit that sees the recovery writes the recovery rows from them.

Main results:

- Structure `OutboxStep` and theorem `Transaction.Justified.outboxStep`: what a
  transaction can do to the outbox rows and to what the states say about them.
- Theorem `outboxes_paired`: after every run whose commits have increasing slots, outbox
  rows are unique, recovery rows follow their opening rows, and suppressed events have no row.
-/

namespace LimnoPulse.Alerts

open CivilTime StoreProgram Evaluator
open Function (update update_of_ne update_self)

variable {outbox : OutboxDecision} {s t : Store} {key : EventKey} {eventId : EventId}
  {items : List (WriteItem Store)} {transaction : Transaction} {request : CommitRequest}
  {choice : Choice} {channel : AlertChannel} {id : OutboxId} {rule : Rule} {decision : Decision}
  {status : ExpansionStatus}

namespace Evaluator

variable {current : State} {slot : Instant}

/-- The outbox of a channel. -/
def OpeningOutboxes.get (outboxes : OpeningOutboxes) : AlertChannel → Option OutboxId
  | .email => outboxes.email
  | .telegram => outboxes.telegram

/-- All channels are listed. -/
theorem OpeningOutboxes.mem_sorted {outboxes : OpeningOutboxes} :
    (channel, id) ∈ outboxes.sorted ↔ outboxes.get channel = some id := by
  cases channel <;> simp [OpeningOutboxes.sorted, OpeningOutboxes.get]

/-- After one was noted. -/
theorem OpeningOutboxes.get_set (outboxes : OpeningOutboxes) (channel other : AlertChannel)
    (id : OutboxId) :
    (outboxes.set channel id).get other = if other = channel then some id else outboxes.get other := by
  cases channel <;> cases other <;> rfl

/-- After all were noted. -/
theorem OpeningOutboxes.get_foldl_set (f : AlertChannel → OutboxId) :
    ∀ (channels : List AlertChannel) (outboxes : OpeningOutboxes),
    (channels.foldl (fun outboxes channel => outboxes.set channel (f channel)) outboxes).get channel =
        some id →
      outboxes.get channel = some id ∨ channel ∈ channels ∧ id = f channel
  | [], _, h => .inl h
  | first :: rest, outboxes, h => by
    rcases get_foldl_set f rest (outboxes.set first (f first)) h with h | ⟨hmem, hid⟩
    · rw [OpeningOutboxes.get_set] at h
      split at h
      next heq =>
        subst heq
        exact .inr ⟨List.mem_cons_self, (Option.some.inj h).symm⟩
      next => exact .inl h
    · exact .inr ⟨List.mem_cons_of_mem _ hmem, hid⟩

/-- The opening outbox of an event on a channel. -/
def openingOutboxId (eventId : EventId) (channel : AlertChannel) : OutboxId := ⟨eventId, channel, .opening⟩

/-- The opening outboxes that a state names. -/
def State.names (state : State) (channel : AlertChannel) (id : OutboxId) : Prop :=
  (state.openingOutboxes.getD {}).get channel = some id

/-! ## The outboxes of a decision -/

/-- An opening outbox of the new event, or a recovery outbox that waits for one of the state's. -/
inductive OutboxOf (current : State) (decision : Decision) (outbox : OutboxDecision) : Prop where
  | opening (eventId : EventId) (htransition : decision.transition = .opened)
      (hevent : decision.eventId = some eventId)
      (hid : outbox.outboxId = openingOutboxId eventId outbox.channel)
      (hkind : outbox.kind = .opening)
  | recovery (eventId : EventId) (openingId : OutboxId) (htransition : decision.transition = .recovered)
      (hnone : decision.eventId = none) (hresolved : decision.resolvedEventId = some eventId)
      (hincident : current.incident = some eventId) (hstatus : current.activeStatus ≠ some .suppressed)
      (hnamed : current.names outbox.channel openingId)
      (hid : outbox.outboxId = ⟨eventId, outbox.channel, .recovery⟩) (hkind : outbox.kind = .recovery)
      (hdepends : outbox.dependsOnOutboxId = some openingId)

/-- A new incident has opening outboxes. -/
theorem Rule.openIncident_outboxes (rule : Rule) (state current : State) (evaluation : Evaluation) :
    ∀ outbox ∈ (rule.openIncident state evaluation).outboxes,
      OutboxOf current (rule.openIncident state evaluation) outbox := by
  unfold Rule.openIncident
  simp only
  split
  next => simp
  next =>
    intro outbox hmem
    obtain ⟨channel, -, rfl⟩ := List.mem_map.mp hmem
    exact .opening _ rfl rfl rfl rfl

/-- A recovery follows them. -/
theorem recoverIncident_outboxes {observed : State} (hinc : observed.SameIncident current)
    (hmode : current.mode = .active) :
    ∀ outbox ∈ (recoverIncident observed).outboxes,
      OutboxOf current (recoverIncident observed) outbox := by
  intro outbox hmem
  simp only [recoverIncident] at hmem
  cases hevent : observed.activeEventId with
  | none => simp [hevent] at hmem
  | some eventId =>
    simp only [hevent, Option.map_some, Option.getD_some, State.recoveryOutboxes] at hmem
    split at hmem
    next => simp at hmem
    next hstat =>
      obtain ⟨⟨channel, openingId⟩, hsorted, rfl⟩ := List.mem_map.mp hmem
      rw [OpeningOutboxes.mem_sorted, hinc.openingOutboxes] at hsorted
      exact .recovery eventId openingId rfl rfl hevent
        (State.incident_eq_some.mpr ⟨hmode, hinc.activeEventId ▸ hevent⟩)
        (hinc.activeStatus ▸ hstat) hsorted rfl rfl rfl

theorem Rule.Decides.outboxOf
    (h : rule.Decides current slot decision) (hmem : outbox ∈ decision.outboxes) :
    OutboxOf current decision outbox := by
  cases h with
  | kept => simp at hmem
  | recovered observed hinc _ hmode => exact recoverIncident_outboxes hinc hmode outbox hmem
  | opened pending evaluation => exact rule.openIncident_outboxes pending current evaluation outbox hmem

/-- The state goes on with the same incident. -/
structure State.Continues (state old : State) : Prop where
  incident : state.incident = old.incident
  activeStatus : state.activeStatus = old.activeStatus
  names : ∀ channel id, state.names channel id ↔ old.names channel id

/-- The state goes on, has no incident, or has opened one with the decision's outboxes. -/
inductive StateLeft (current : State) (slot : Instant) (decision : Decision) : Prop where
  | continued (htransition : decision.transition = .none) (h : decision.next.Continues current)
      (hslot : decision.next.lastEvaluatedSlot = some slot)
  | idle (htransition : decision.transition = .recovered) (hnone : decision.next.incident = none)
  | started (eventId : EventId) (hevent : decision.eventId = some eventId)
      (hincident : decision.next.incident = some eventId)
      (hslot : decision.next.lastEvaluatedSlot = some slot)
      (htransition : decision.transition = .opened ∨ decision.transition = .suppressed)
      (hstatus : decision.transition = .suppressed ↔ decision.next.activeStatus = some .suppressed)
      (hnames : ∀ channel id, decision.next.names channel id →
        id = openingOutboxId eventId channel ∧ ∃ outbox ∈ decision.outboxes, outbox.outboxId = id)

/-- The state of a new incident. -/
theorem Rule.openIncident_left (rule : Rule) {pending : State} {evaluation : Evaluation}
    (hslot : pending.lastEvaluatedSlot = some slot) :
    StateLeft current slot (rule.openIncident pending evaluation) := by
  unfold Rule.openIncident
  simp only
  split
  next =>
    exact .started _ rfl rfl hslot (.inr rfl) (by simp) (by intro channel; cases channel <;> nofun)
  next =>
    refine .started _ rfl rfl hslot (.inl rfl) (by simp) ?_
    intro channel id hnamed
    rcases OpeningOutboxes.get_foldl_set _ _ _ hnamed with hempty | ⟨hmem, rfl⟩
    · cases channel <;> cases hempty
    · exact ⟨rfl, _, List.mem_map.mpr ⟨channel, hmem, rfl⟩, rfl⟩

/-- The state of a decision. -/
theorem Rule.Decides.left
    (h : rule.Decides current slot decision) : StateLeft current slot decision := by
  cases h with
  | kept next hinc hslot hmode =>
    refine .continued rfl ⟨?_, hinc.activeStatus, fun channel id => ?_⟩ hslot
    · simp only [State.incident, hinc.activeEventId, hmode]
    · rw [State.names, State.names, hinc.openingOutboxes]
  | recovered => exact .idle rfl (State.incident_of_not_active (by simp [recoverIncident]))
  | opened pending evaluation _ hslot => exact rule.openIncident_left hslot

end Evaluator

/-- The row lies under its key, by event, channel and kind. -/
structure OutboxRow.IdentifiedBy (row : OutboxRow) (key : String × OutboxId) (eventId : EventId) : Prop where
  key : key = (row.tenantId, row.outboxId)
  event : row.eventId = some eventId
  id : row.outboxId = ⟨eventId, row.channel, row.kind⟩

/-- A row to expand carries its own work kind and index key. -/
def OutboxRow.RelayOwn (row : OutboxRow) : Prop :=
  ∀ relay, row.expansionStatus = .pending relay →
    CommitRequest.classifyOutboxRelayWork row.kind row.status = some relay.relayWorkKind ∧
      buildRelayIndexKey relay.relayWorkKind row.tenantId row.outboxId row.createdAt =
        some relay.relayIndex

/-- The row waits for an earlier opening row of its event and channel. -/
def Store.Follows (s : Store) (row : OutboxRow) : Prop :=
  ∃ openingId opening, row.dependsOnOutboxId = some openingId ∧
    s.outboxes (row.tenantId, openingId) = some opening ∧ opening.outboxId = openingId ∧
    opening.kind = .opening ∧ opening.eventId = row.eventId ∧ opening.channel = row.channel ∧
    opening.createdAt < row.createdAt

/-- A transition row says that the event was suppressed. -/
def Store.Suppressed (s : Store) (key : EventKey) : Prop :=
  ∃ time discriminator row, s.transitions ⟨key, time, discriminator⟩ = some row ∧
    row.transition = "suppressed"

/-- The state names opening rows of its incident, none too late. -/
def Store.Linked (s : Store) (tenantId : String) (eventId : EventId) (state : State) : Prop :=
  ∀ channel id, state.names channel id → id = openingOutboxId eventId channel ∧
    ∃ row slot, s.outboxes (tenantId, id) = some row ∧ state.lastEvaluatedSlot = some slot ∧
      row.createdAt ≤ slot

/-- What holds of the outbox rows of a store. -/
structure Paired (s : Store) : Prop where
  identified : ∀ key row, s.outboxes key = some row →
    ∃ eventId, row.IdentifiedBy key eventId ∧ (s.events ⟨key.1, eventId⟩).isSome = true
  relayed : ∀ key row, s.outboxes key = some row → row.RelayOwn
  follows : ∀ key row, s.outboxes key = some row → row.kind = .recovery → s.Follows row
  known : ∀ key, s.Suppressed key → (s.events key).isSome = true
  silent : ∀ key, s.Suppressed key → ∀ id row, s.outboxes (key.tenantId, id) = some row →
    row.eventId ≠ some key.eventId
  recorded : ∀ key row, s.events key = some row → row.status = .suppressed → s.Suppressed key
  linked : ∀ key row eventId, s.states key = some row → row.state.incident = some eventId →
    s.Linked key.tenantId eventId row.state
  suppressed : ∀ key row eventId, s.states key = some row → row.state.incident = some eventId →
    s.Suppressed ⟨key.tenantId, eventId⟩ → row.state.activeStatus = some .suppressed

/-- A new row belongs to an event that is not suppressed. -/
structure NewOutbox (s t : Store) (key : String × OutboxId) (row : OutboxRow) (eventId : EventId) : Prop where
  identified : row.IdentifiedBy key eventId
  event : (t.events ⟨key.1, eventId⟩).isSome = true
  audible : ¬ t.Suppressed ⟨key.1, eventId⟩
  relayed : row.RelayOwn
  follows : row.kind = .recovery → s.Follows row

/-- What a transaction does to outbox rows and suppressions. -/
structure OutboxStep (s t : Store) : Prop where
  later : Later s t
  kept : ∀ key row, s.outboxes key = some row → t.outboxes key = some row
  added : ∀ key row, t.outboxes key = some row →
    s.outboxes key = some row ∨ ∃ eventId, NewOutbox s t key row eventId
  remembered : ∀ key, s.Suppressed key → t.Suppressed key
  suppressed : ∀ key, t.Suppressed key → s.Suppressed key ∨
    s.events key = none ∧ (t.events key).isSome = true ∧ t.outboxes = s.outboxes
  recorded : ∀ key row, t.events key = some row → row.status = .suppressed →
    t.Suppressed key ∨ ∃ old, s.events key = some old ∧ old.status = .suppressed
  states : ∀ key row eventId, t.states key = some row → row.state.incident = some eventId →
    (t.Linked key.tenantId eventId row.state ∧
      (t.Suppressed ⟨key.tenantId, eventId⟩ → row.state.activeStatus = some .suppressed)) ∨
    ∃ old, s.states key = some old ∧ row.state.Continues old.state ∧
      (∀ slot, old.state.lastEvaluatedSlot = some slot →
        ∃ slot', row.state.lastEvaluatedSlot = some slot' ∧ slot ≤ slot')

/-- Events stay stored. -/
theorem Later.events_isSome (h : Later s t) (hsome : (s.events key).isSome = true) :
    (t.events key).isSome = true := by
  obtain ⟨row, hrow⟩ := Option.isSome_iff_exists.mp hsome
  obtain ⟨new, hnew, -⟩ := h.events key row hrow
  rw [hnew]
  rfl

/-- A row stays behind its opening row. -/
theorem Store.Follows.kept {row : OutboxRow} (h : s.Follows row)
    (hkept : ∀ key row, s.outboxes key = some row → t.outboxes key = some row) : t.Follows row := by
  obtain ⟨openingId, opening, hdepends, hopening, hrest⟩ := h
  exact ⟨openingId, opening, hdepends, hkept _ _ hopening, hrest⟩

/-- A state that goes on names the same rows. -/
theorem Store.Linked.continued {tenantId : String} {state old : State}
    (h : s.Linked tenantId eventId old) (hcontinues : state.Continues old)
    (hslots : ∀ slot, old.lastEvaluatedSlot = some slot →
      ∃ slot', state.lastEvaluatedSlot = some slot' ∧ slot ≤ slot')
    (hkept : ∀ key row, s.outboxes key = some row → t.outboxes key = some row) :
    t.Linked tenantId eventId state := by
  intro channel id hnamed
  obtain ⟨hid, row, slot, hrow, hslot, hcreated⟩ := h channel id ((hcontinues.names channel id).mp hnamed)
  obtain ⟨slot', hslot', hle⟩ := hslots slot hslot
  exact ⟨hid, row, slot', hkept _ _ hrow, hslot', Int.le_trans hcreated hle⟩

/-- Steps keep rows paired. -/
theorem OutboxStep.paired (hs : Paired s) (hincs : Incidents s) (h : OutboxStep s t) :
    Paired t where
  identified key row hrow := by
    rcases h.added key row hrow with hold | ⟨eventId, hnew⟩
    · obtain ⟨eventId, hid, hevent⟩ := hs.identified key row hold
      exact ⟨eventId, hid, h.later.events_isSome hevent⟩
    · exact ⟨eventId, hnew.identified, hnew.event⟩
  relayed key row hrow := by
    rcases h.added key row hrow with hold | ⟨eventId, hnew⟩
    · exact hs.relayed key row hold
    · exact hnew.relayed
  follows key row hrow hkind := by
    rcases h.added key row hrow with hold | ⟨eventId, hnew⟩
    · exact (hs.follows key row hold hkind).kept h.kept
    · exact (hnew.follows hkind).kept h.kept
  known key hsupp := by
    rcases h.suppressed key hsupp with hold | ⟨-, hnew, -⟩
    · exact h.later.events_isSome (hs.known key hold)
    · exact hnew
  silent key hsupp id row hrow hevent := by
    rcases h.added _ row hrow with hold | ⟨eventId, hnew⟩
    · rcases h.suppressed key hsupp with hbefore | ⟨hnone, -, -⟩
      · exact hs.silent key hbefore id row hold hevent
      · -- An outbox row of an event that did not exist.
        obtain ⟨eventId, hid, hsome⟩ := hs.identified _ row hold
        rw [hid.event] at hevent
        cases hevent
        rw [hnone] at hsome
        cases hsome
    · rw [hnew.identified.event] at hevent
      cases hevent
      exact hnew.audible hsupp
  recorded key row hrow hstat := by
    rcases h.recorded key row hrow hstat with hnew | ⟨old, hold, hbefore⟩
    · exact hnew
    · exact h.remembered key (hs.recorded key old hold hbefore)
  linked key row eventId hrow hinc := by
    rcases h.states key row eventId hrow hinc with ⟨hlinked, -⟩ | ⟨old, hold, hcontinues, hslots⟩
    · exact hlinked
    · exact (hs.linked key old eventId hold (hcontinues.incident ▸ hinc)).continued hcontinues
        hslots h.kept
  suppressed key row eventId hrow hinc hsupp := by
    rcases h.states key row eventId hrow hinc with ⟨-, hstat⟩ | ⟨old, hold, hcontinues, -⟩
    · exact hstat hsupp
    · have hbefore : old.state.incident = some eventId := hcontinues.incident ▸ hinc
      rw [hcontinues.activeStatus]
      apply hs.suppressed key old eventId hold hbefore
      rcases h.suppressed _ hsupp with h | ⟨hnone, -, -⟩
      · exact h
      · -- The incident of a state is an event that exists.
        have hstored : s.incident key = some eventId := by
          rw [Store.incident, hold]
          exact hbefore
        obtain ⟨event, hevent, -⟩ := hincs.unresolved key eventId hstored
        rw [hnone] at hevent
        cases hevent

/-! ## Transactions of the API -/

/-- The same outbox rows and suppressions. -/
structure SameOutboxes (s t : Store) : Prop where
  outboxes : t.outboxes = s.outboxes
  suppressions : ∀ key row, row.transition = "suppressed" →
    (t.transitions key = some row ↔ s.transitions key = some row)

/-- No row changes. -/
theorem SameOutboxes.of_eq (houts : t.outboxes = s.outboxes)
    (htrans : t.transitions = s.transitions) : SameOutboxes s t :=
  ⟨houts, fun _ _ _ => by rw [htrans]⟩

/-- Only transitions matter. -/
theorem Store.suppressed_congr (h : t.transitions = s.transitions) (key : EventKey) :
    t.Suppressed key ↔ s.Suppressed key := by
  unfold Store.Suppressed
  rw [h]

/-- Suppressions stay. -/
theorem SameOutboxes.suppressed_iff (h : SameOutboxes s t) (key : EventKey) :
    t.Suppressed key ↔ s.Suppressed key := by
  constructor
  · rintro ⟨time, discriminator, row, hrow, hname⟩
    exact ⟨time, discriminator, row, (h.suppressions _ row hname).mp hrow, hname⟩
  · rintro ⟨time, discriminator, row, hrow, hname⟩
    exact ⟨time, discriminator, row, (h.suppressions _ row hname).mpr hrow, hname⟩

/-- The suppressed events after a suppression was recorded. -/
theorem Store.suppressed_update {event : EventKey} {time : Instant} {discriminator : String}
    {row : TransitionRow} (htrans : t.transitions =
      update s.transitions ⟨event, time, discriminator⟩ (some row))
    (habsent : s.transitions ⟨event, time, discriminator⟩ = none)
    (hname : row.transition = "suppressed") (key : EventKey) :
    t.Suppressed key ↔ s.Suppressed key ∨ key = event := by
  constructor
  · rintro ⟨time', discriminator', row', hrow', hname'⟩
    obtain ⟨heq, -⟩ | ⟨-, hrow'⟩ := eq_some_of_update htrans hrow'
    · exact .inr (congrArg TransitionKey.event heq)
    · exact .inl ⟨time', discriminator', row', hrow', hname'⟩
  · rintro (⟨time', discriminator', row', hrow', hname'⟩ | rfl)
    · exact ⟨time', discriminator', row', update_eq_some_of_fresh htrans habsent hrow', hname'⟩
    · exact ⟨time, discriminator, row, by rw [htrans, update_self], hname⟩

/-- The item writes no outbox and no suppression. -/
def Silent (s : Store) (item : WriteItem Store) : Prop :=
  item.condition s = true → ∀ u, SameOutboxes s u → SameOutboxes s (item.effect u)

/-- A transition row that is no suppression. -/
theorem silent_transitionPut {key : TransitionKey} {row : TransitionRow}
    (hname : row.transition ≠ "suppressed") : Silent s (transitionPut key row) := by
  intro hcond u hu
  refine ⟨hu.outboxes, fun other old hold => ?_⟩
  have hnone : s.transitions key = none := by simpa [transitionPut] using hcond
  by_cases hkey : other = key
  · subst hkey
    have hne : row ≠ old := fun heq => hname (heq ▸ hold)
    simp [transitionPut, Store.putTransition, hnone, hne]
  · simp [transitionPut, Store.putTransition, update_of_ne hkey, hu.suppressions other old hold]

theorem ItemEffect.silent {tables : List Written} {item : WriteItem Store} (h : ItemEffect tables item)
    (houts : .outboxes ∉ tables) (hsupps : .suppressions ∉ tables) : Silent s item := by
  cases h with
  | putOutbox h => exact absurd h houts
  | putTransition key row h => exact silent_transitionPut (hsupps ∘ h)
  | modifyRule _ key change
  | modifyEvent _ key change => exact fun _ u hu => ⟨by simp [hu.outboxes], by simpa using hu.suppressions⟩
  | _ => exact fun _ _ hu => ⟨hu.outboxes, hu.suppressions⟩

theorem sameOutboxes_of_silent (hconds : ∀ item ∈ items, item.condition s = true)
    (hsilent : ∀ item ∈ items, Silent s item) :
    ∀ u, SameOutboxes s u → SameOutboxes s (items.foldl (fun u item => item.effect u) u) := by
  induction items with
  | nil => exact fun _ hu => hu
  | cons item rest ih =>
    intro u hu
    have hitem : item ∈ item :: rest := List.mem_cons_self
    exact ih (fun other h => hconds other (List.mem_cons_of_mem _ h))
      (fun other h => hsilent other (List.mem_cons_of_mem _ h)) _
      (hsilent item hitem (hconds item hitem) u hu)

/-- The commit of an evaluation. -/
def Transaction.IsCommit : Transaction → Prop
  | .commit _ => True
  | _ => False

/-- The API writes no outboxes. -/
theorem Transaction.sameOutboxes (hapi : ¬ transaction.IsCommit)
    (h : transaction.write s = some t) :
    SameOutboxes s t := by
  obtain ⟨items, hitems, hconds, rfl⟩ := Transaction.write_eq_some h
  have hnot : .outboxes ∉ transaction.tables ∧ .suppressions ∉ transaction.tables := by
    cases transaction with
    | commit => exact absurd trivial hapi
    | _ => simp
  exact sameOutboxes_of_silent hconds
    (fun item hitem => (Transaction.items_effects hitems item hitem).silent hnot.1 hnot.2) s (.of_eq rfl rfl)

/-- No incident starts, and no event becomes suppressed. -/
structure NothingStarts (s t : Store) : Prop where
  states : ∀ key row eventId, t.states key = some row → row.state.incident = some eventId →
    s.states key = some row
  events : ∀ key row, t.events key = some row → row.status = .suppressed →
    ∃ old, s.events key = some old ∧ old.status = .suppressed

/-- No event changes. -/
theorem NothingStarts.of_eq (hstates : t.states = s.states) (hevents : t.events = s.events) :
    NothingStarts s t :=
  ⟨fun _ _ _ hrow _ => hstates ▸ hrow, fun _ row hrow hstat => ⟨row, hevents ▸ hrow, hstat⟩⟩

/-- A state without an incident. -/
theorem states_of_update {changed : RuleKey} {new : StateRow} (hnone : new.state.incident = none)
    (hstates : t.states = update s.states changed (some new)) :
    ∀ key row eventId, t.states key = some row → row.state.incident = some eventId →
      s.states key = some row := by
  intro key row eventId hrow hinc
  obtain ⟨-, rfl⟩ | ⟨-, hrow⟩ := eq_some_of_update hstates hrow
  · rw [hnone] at hinc
    cases hinc
  · exact hrow

/-- An event that is not suppressed. -/
theorem events_of_update {changed : EventKey} {new : EventRow} (hstat : new.status ≠ .suppressed)
    (hevents : t.events = update s.events changed (some new)) :
    ∀ key row, t.events key = some row → row.status = .suppressed →
      ∃ old, s.events key = some old ∧ old.status = .suppressed := by
  intro key row hrow hsupp
  obtain ⟨-, rfl⟩ | ⟨-, hrow⟩ := eq_some_of_update hevents hrow
  · exact absurd hsupp hstat
  · exact ⟨row, hrow, hsupp⟩

/-- The end of an incident starts none. -/
theorem IncidentEnd.nothingStarts {key : RuleKey} {revision : Nat} {stateItem : Option StateRow}
    (h : IncidentEnd key revision stateItem s t) : NothingStarts s t := by
  have hhealthy : ∀ row : StateRow, row.state.mode = .healthy → row.state.incident = none :=
    fun row hmode => State.incident_of_not_active (by simp [hmode])
  cases h with
  | absent _ _ hstates hevents | idle _ _ _ _ _ _ _ hstates hevents => exact .of_eq hstates hevents
  | reset _ _ new _ _ _ _ hmode _ hstates hevents =>
    exact ⟨states_of_update (hhealthy new hmode) hstates, fun _ row hrow hstat => ⟨row, hevents ▸ hrow, hstat⟩⟩
  | resolved _ _ new _ _ ended _ _ _ _ _ hmode _ _ _ _ _ hended hstates hevents =>
    exact ⟨states_of_update (hhealthy new hmode) hstates, events_of_update (by simp [hended]) hevents⟩

/-- The API starts none. -/
theorem Transaction.Justified.nothingStarts (hjust : transaction.Justified s)
    (hapi : ¬ transaction.IsCommit) (h : transaction.write s = some t) : NothingStarts s t := by
  cases transaction with
  | createRule =>
    obtain ⟨-, rfl⟩ := createRule_write_rules h
    exact .of_eq rfl rfl
  | updateRule =>
    have hinc := UpdateRule.write_incident h
    split at hinc
    · exact hinc.nothingStarts
    · exact .of_eq hinc.1 hinc.2
  | replaceRule => exact (ReplaceRule.write_incident h).nothingStarts
  | acknowledgeEvent =>
    obtain ⟨event, new, -, -, -, hack, hstates, hevents, -⟩ := EventChange.acknowledge_write h
    exact ⟨fun _ _ _ hrow _ => hstates ▸ hrow, events_of_update (by simp [hack]) hevents⟩
  | resolveEvent request stateOperation =>
    obtain ⟨event, new, -, -, -, hresolved, -, hevents, hstates⟩ := EventChange.resolve_write h
    refine ⟨?_, events_of_update (by simp [hresolved]) hevents⟩
    cases stateOperation with
    | none => exact fun _ _ _ hrow _ => hstates ▸ hrow
    | some operation =>
      obtain ⟨resolved, revision⟩ := operation
      obtain ⟨-, item, -, hitem, -⟩ := hjust
      obtain ⟨-, -, hmode, -⟩ := resolvedEvaluatorState_eq_some hitem
      exact states_of_update (State.incident_of_not_active (by simp [hmode])) hstates.2
  | commit => exact absurd trivial hapi

/-- Such a transaction is a step. -/
theorem OutboxStep.of_nothingStarts (hlater : Later s t) (hsame : SameOutboxes s t)
    (hstarts : NothingStarts s t) : OutboxStep s t where
  later := hlater
  kept _ _ hrow := hsame.outboxes ▸ hrow
  added _ _ hrow := .inl (hsame.outboxes ▸ hrow)
  remembered key := (hsame.suppressed_iff key).mpr
  suppressed key h := .inl ((hsame.suppressed_iff key).mp h)
  recorded key row hrow hstat := .inr (hstarts.events key row hrow hstat)
  states key row eventId hrow hinc :=
    .inr ⟨row, hstarts.states key row eventId hrow hinc, ⟨rfl, rfl, fun _ _ => Iff.rfl⟩,
      fun slot hslot => ⟨slot, hslot, Int.le_refl slot⟩⟩

/-! ## Commits -/

namespace CommitRequest

/-- A commit writes its outbox rows after everything else. -/
theorem write_split (h : (Transaction.commit request).write s = some t) :
    ∃ eventItems outboxItems, request.eventItems = some eventItems ∧
      request.decision.outboxes.mapM request.outboxPut = some outboxItems ∧
      (∀ item ∈ eventItems, item.condition s = true) ∧
      (∀ item ∈ outboxItems, item.condition s = true) ∧
      t = outboxItems.foldl (fun u item => item.effect u)
        (eventItems.foldl (fun u item => item.effect u)
          (request.statePut.effect (request.ruleScheduleUpdate.effect s))) := by
  obtain ⟨items, hitems, hconds, rfl⟩ := Transaction.write_eq_some h
  simp only [Transaction.items, CommitRequest.items, Option.bind_eq_bind,
    Option.bind_eq_some_iff, Option.pure_def, Option.some.injEq] at hitems
  obtain ⟨eventItems, hevents, outboxItems, houts, rfl⟩ := hitems
  refine ⟨eventItems, outboxItems, hevents, houts, fun item hitem => hconds item (by simp [hitem]),
    fun item hitem => hconds item (by simp [hitem]), ?_⟩
  simp only [List.cons_append, List.foldl_cons, List.foldl_append]

/-- After the puts a row is an old one or one of theirs. -/
theorem foldl_outboxPut : ∀ {outboxes : List OutboxDecision}
    {items : List (WriteItem Store)}, outboxes.mapM request.outboxPut = some items →
    ∀ (u : Store) (key : String × OutboxId),
      ((items.foldl (fun u item => item.effect u) u).outboxes key = u.outboxes key ∧
        ∀ outbox ∈ outboxes, key ≠ (request.work.key.tenantId, outbox.outboxId)) ∨
      ∃ outbox ∈ outboxes, ∃ status, request.expansionStatus outbox = some status ∧
        key = (request.work.key.tenantId, outbox.outboxId) ∧
        (items.foldl (fun u item => item.effect u) u).outboxes key =
          some (request.outboxRow outbox status)
  | [], items, hitems, u, key => by
    cases hitems
    exact .inl ⟨rfl, by simp⟩
  | outbox :: rest, items, hitems, u, key => by
    simp only [List.mapM_cons, Option.bind_eq_bind, Option.bind_eq_some_iff, Option.pure_def,
      Option.some.injEq] at hitems
    obtain ⟨item, hput, later, hlater, rfl⟩ := hitems
    obtain ⟨status, hstat, rfl⟩ := Option.map_eq_some_iff.mp hput
    rw [List.foldl_cons]
    rcases foldl_outboxPut hlater (u.putOutbox (request.work.key.tenantId, outbox.outboxId)
        (request.outboxRow outbox status)) key with ⟨hsame, hother⟩ | ⟨other, hmem, hrest⟩
    · by_cases hkey : key = (request.work.key.tenantId, outbox.outboxId)
      · refine .inr ⟨outbox, List.mem_cons_self, status, hstat, hkey, hsame.trans ?_⟩
        rw [hkey]
        exact update_self _ _ _
      · refine .inl ⟨hsame.trans (update_of_ne hkey _ _), ?_⟩
        intro other hmem
        rcases List.mem_cons.mp hmem with rfl | hmem
        · exact hkey
        · exact hother other hmem
    · exact .inr ⟨other, List.mem_cons_of_mem _ hmem, hrest⟩

/-- The items of a suppression. -/
theorem eventItems_suppressed (h : request.eventItems = some items)
    (htrans : request.decision.transition = .suppressed) :
    ∃ eventId event, request.decision.eventId = some eventId ∧ request.eventPut = some event ∧
      items = [event, request.transitionPut eventId "suppressed"] := by
  simp only [eventItems, htrans, Option.bind_eq_bind, Option.bind_eq_some_iff, Option.pure_def,
    Option.some.injEq] at h
  obtain ⟨eventId, hid, event, hevent, rfl⟩ := h
  exact ⟨eventId, event, hid, hevent, rfl⟩

/-- The suppressions after the event items. -/
theorem suppressed_after_eventItems (hitems : request.eventItems = some items)
    (hconds : ∀ item ∈ items, item.condition s = true) :
    let u := items.foldl (fun u item => item.effect u)
      (request.statePut.effect (request.ruleScheduleUpdate.effect s))
    u.outboxes = s.outboxes ∧ ∀ key, u.Suppressed key ↔ s.Suppressed key ∨
      request.decision.transition = .suppressed ∧
        ∃ eventId, request.decision.eventId = some eventId ∧ key = request.eventKey eventId := by
  have hstart : SameOutboxes s (request.statePut.effect (request.ruleScheduleUpdate.effect s)) :=
    .of_eq (s.modifyRule_same _ _).2.2.2.1 (s.modifyRule_same _ _).2.2.2.2
  by_cases htrans : request.decision.transition = .suppressed
  · obtain ⟨eventId, event, hid, hevent, rfl⟩ := eventItems_suppressed hitems htrans
    simp only [eventPut, Option.bind_eq_bind, Option.bind_eq_some_iff, Option.pure_def,
      Option.some.injEq] at hevent
    obtain ⟨value, -, eventId', hid', status, -, rfl⟩ := hevent
    cases hid.symm.trans hid'
    have habsent : s.transitions ⟨request.eventKey eventId, request.slot, "suppressed"⟩ = none := by
      have h := hconds (request.transitionPut eventId "suppressed") (by simp)
      simpa [transitionPut, Alerts.transitionPut] using h
    refine ⟨hstart.outboxes, fun key => ?_⟩
    rw [Store.suppressed_update (t := _) (congrArg (update · _ _)
      (s.modifyRule_same request.work.key request.advance).2.2.2.2) habsent rfl]
    simp [htrans, hid]
  · have heffects : ∀ item ∈ items, ItemEffect [.events] item :=
      eventItems_effects hitems (by decide) fun h => absurd h htrans
    have hsame := sameOutboxes_of_silent hconds
      (fun item hitem => (heffects item hitem).silent (by decide) (by decide)) _ hstart
    refine ⟨hsame.outboxes, fun key => ?_⟩
    rw [hsame.suppressed_iff key]
    simp [htrans]

/-- The outbox rows and suppressions of a commit. -/
theorem write_outboxes (h : (Transaction.commit request).write s = some t) :
    (∀ key, t.Suppressed key ↔ s.Suppressed key ∨ request.decision.transition = .suppressed ∧
      ∃ eventId, request.decision.eventId = some eventId ∧ key = request.eventKey eventId) ∧
    ∀ key, (t.outboxes key = s.outboxes key ∧
        ∀ outbox ∈ request.decision.outboxes, key ≠ (request.work.key.tenantId, outbox.outboxId)) ∨
      s.outboxes key = none ∧ ∃ outbox ∈ request.decision.outboxes, ∃ status,
        request.expansionStatus outbox = some status ∧
        key = (request.work.key.tenantId, outbox.outboxId) ∧
        t.outboxes key = some (request.outboxRow outbox status) := by
  obtain ⟨eventItems, outboxItems, hevents, houts, heventConditions, hconds, rfl⟩ := write_split h
  obtain ⟨hbefore, hsupp⟩ := suppressed_after_eventItems hevents heventConditions
  refine ⟨fun key => ?_, fun key => ?_⟩
  · rw [← hsupp key]
    have hframe := foldl_effect_frame Store.transitions outboxItems
      (eventItems.foldl (fun u item => item.effect u)
        (request.statePut.effect (request.ruleScheduleUpdate.effect s))) (by
        intro item hitem u
        obtain ⟨outbox, -, hput⟩ := exists_of_mem_mapM houts item hitem
        obtain ⟨status, -, rfl⟩ := Option.map_eq_some_iff.mp hput
        rfl)
    exact Store.suppressed_congr hframe key
  · rcases foldl_outboxPut houts (eventItems.foldl (fun u item => item.effect u)
        (request.statePut.effect (request.ruleScheduleUpdate.effect s))) key with
      ⟨hsame, hother⟩ | ⟨outbox, hmem, status, hstat, hkey, hrow⟩
    · exact .inl ⟨hsame.trans (by rw [hbefore]), hother⟩
    · refine .inr ⟨?_, outbox, hmem, status, hstat, hkey, hrow⟩
      obtain ⟨item, hput, hitem⟩ := exists_of_mem_mapM_source houts outbox hmem
      have hcond := hconds item hitem
      simp only [outboxPut, hstat, Option.map_some, Option.some.injEq] at hput
      subst hput
      rw [hkey]
      simpa using hcond

/-- The event that a decision opens is new. -/
theorem opened_event (h : (Transaction.commit request).write s = some t)
    (htrans : request.decision.transition = .opened ∨ request.decision.transition = .suppressed)
    (hevent : request.decision.eventId = some eventId) :
    s.events (request.eventKey eventId) = none ∧ (t.events (request.eventKey eventId)).isSome = true := by
  cases write_events h with
  | opened eventId' status value _ hid _ habsent hevents =>
    cases hevent.symm.trans hid
    exact ⟨habsent, by rw [hevents, update_self]; rfl⟩
  | recovered _ _ _ hrecovered => simp [hrecovered] at htrans
  | refreshed _ _ _ hnone | unchanged hnone => simp [hnone] at htrans

/-- New rows have their own attributes. -/
theorem outboxRow_relayOwn (h : request.expansionStatus outbox = some status) :
    (request.outboxRow outbox status).RelayOwn := by
  intro relay hrelay
  change status = .pending relay at hrelay
  subst hrelay
  unfold expansionStatus at h
  split at h
  next =>
    simp only [Option.bind_eq_bind, Option.bind_eq_some_iff, Option.pure_def, Option.some.injEq,
      ExpansionStatus.pending.injEq] at h
    obtain ⟨workKind, hkind, index, hindex, rfl⟩ := h
    exact ⟨hkind, hindex⟩
  next => cases h

/-- The slot of a commit is later than the state's. -/
def SlotAdvances (request : CommitRequest) (s : Store) : Prop :=
  ∀ old slot, s.states request.stateKey = some old → old.state.lastEvaluatedSlot = some slot →
    slot < request.slot

/-- The tenant of the work. -/
theorem Computed.tenant (hcomp : request.Computed s) :
    request.work.key.tenantId = request.work.rule.tenantId := by
  rw [← hcomp.key]
  rfl

/-- A state with an incident is stored. -/
theorem Computed.stored (hcomp : request.Computed s)
    (h : (Transaction.commit request).write s = some t)
    (hinc : request.previousState.state.incident = some eventId) :
    ∃ old, s.states request.stateKey = some old ∧ old.state = request.previousState.state := by
  rcases hcomp.found h with ⟨-, hprev⟩ | ⟨old, hold, hprev⟩
  · rw [hprev] at hinc
    cases hinc
  · exact ⟨old, hold, by rw [hprev]⟩

/-- A new row opens the event, or follows an opening row. -/
theorem Computed.newOutbox (hs : Paired s) (hincs : Incidents s) (hlater : Later s t)
    (hcomp : request.Computed s) (hslot : request.SlotAdvances s)
    (h : (Transaction.commit request).write s = some t) (hmem : outbox ∈ request.decision.outboxes)
    (hstat : request.expansionStatus outbox = some status) :
    ∃ eventId, NewOutbox s t (request.work.key.tenantId, outbox.outboxId)
      (request.outboxRow outbox status) eventId := by
  obtain ⟨hsupp, -⟩ := write_outboxes h
  have hkey : (request.work.key.tenantId, outbox.outboxId) =
      ((request.outboxRow outbox status).tenantId, (request.outboxRow outbox status).outboxId) := by
    rw [hcomp.tenant]
    rfl
  cases hcomp.decides.outboxOf hmem with
  | opening eventId htrans hevent hid hkind =>
    obtain ⟨habsent, hnew⟩ := opened_event h (.inl htrans) hevent
    refine ⟨eventId, ⟨hkey, ?_, ?_⟩, hnew, ?_, outboxRow_relayOwn hstat, ?_⟩
    · simp [outboxRow, hevent]
    · simp only [outboxRow, hid, hkind, openingOutboxId]
    · intro hmuted
      rcases (hsupp _).mp hmuted with hmuted | ⟨hmuted, -⟩
      · have hknown := hs.known _ hmuted
        rw [show (⟨request.work.key.tenantId, eventId⟩ : EventKey) = request.eventKey eventId from rfl,
          habsent] at hknown
        cases hknown
      · simp [htrans] at hmuted
    · intro hrecov
      change outbox.kind = .recovery at hrecov
      rw [hkind] at hrecov
      cases hrecov
  | recovery eventId openingId htrans hnone hresolved hinc hstat' hnamed hid hkind hdepends =>
    obtain ⟨old, hold, hstate⟩ := hcomp.stored h hinc
    rw [← hstate] at hinc hstat' hnamed
    have hstored : s.incident request.stateKey = some eventId := by
      rw [Store.incident, hold]
      exact hinc
    obtain ⟨event, hevent, -⟩ := hincs.unresolved _ eventId hstored
    refine ⟨eventId, ⟨hkey, ?_, ?_⟩, ?_, ?_, outboxRow_relayOwn hstat, fun _ => ?_⟩
    · simp [outboxRow, hnone, hresolved]
    · simp only [outboxRow, hid, hkind]
    · have hsome : (s.events ⟨request.work.key.tenantId, eventId⟩).isSome = true :=
        Option.isSome_iff_exists.mpr ⟨event, hevent⟩
      exact hlater.events_isSome hsome
    · intro hmuted
      rcases (hsupp _).mp hmuted with hmuted | ⟨hmuted, -⟩
      · exact hstat' (hs.suppressed request.stateKey old eventId hold hinc hmuted)
      · simp [htrans] at hmuted
    · obtain ⟨hopening, opening, slot, hrow, hlast, hcreated⟩ :=
        hs.linked request.stateKey old eventId hold hinc _ _ hnamed
      obtain ⟨eventId', hidentified, -⟩ := hs.identified _ opening hrow
      have hsameId : opening.outboxId = openingId := (congrArg Prod.snd hidentified.key).symm
      have hparts := hidentified.id
      rw [hsameId, hopening, openingOutboxId, OutboxId.mk.injEq] at hparts
      refine ⟨openingId, opening, hdepends, ?_, hsameId, hparts.2.2.symm, ?_, hparts.2.1.symm,
        Int.lt_of_le_of_lt hcreated (hslot old slot hold hlast)⟩
      · rw [show (request.outboxRow outbox status).tenantId = request.work.key.tenantId from
          hcomp.tenant.symm]
        exact hrow
      · rw [hidentified.event, ← hparts.1]
        simp [outboxRow, hnone, hresolved]

/-- The state row that a commit writes. -/
theorem Computed.writtenState (hs : Paired s) (hcomp : request.Computed s)
    (hslot : request.SlotAdvances s) (h : (Transaction.commit request).write s = some t)
    (hinc : request.decision.next.incident = some eventId) :
    (t.Linked request.work.key.tenantId eventId request.decision.next ∧
      (t.Suppressed ⟨request.work.key.tenantId, eventId⟩ →
        request.decision.next.activeStatus = some .suppressed)) ∨
    ∃ old, s.states request.stateKey = some old ∧ request.decision.next.Continues old.state ∧
      (∀ slot, old.state.lastEvaluatedSlot = some slot →
        ∃ slot', request.decision.next.lastEvaluatedSlot = some slot' ∧ slot ≤ slot') := by
  obtain ⟨hsupp, houts⟩ := write_outboxes h
  cases hcomp.decides.left with
  | continued _ hcontinues hlast =>
    obtain ⟨old, hold, hstate⟩ := hcomp.stored h (hcontinues.incident ▸ hinc)
    rw [← hstate] at hcontinues
    refine .inr ⟨old, hold, hcontinues, fun slot hbefore => ⟨_, hlast, ?_⟩⟩
    exact Int.le_of_lt (hslot old slot hold hbefore)
  | idle _ hnone =>
    rw [hnone] at hinc
    cases hinc
  | started eventId' hevent hinc' hlast htrans hstat hnames =>
    cases hinc.symm.trans hinc'
    obtain ⟨habsent, -⟩ := opened_event h htrans hevent
    refine .inl ⟨fun channel id hnamed => ?_, fun hmuted => ?_⟩
    · obtain ⟨hid, outbox, hmem, houtbox⟩ := hnames channel id hnamed
      refine ⟨hid, ?_⟩
      rcases houts (request.work.key.tenantId, id) with
        ⟨-, hother⟩ | ⟨-, other, -, status, -, -, hrow⟩
      · exact absurd (by rw [houtbox]) (hother outbox hmem)
      · exact ⟨_, request.slot, hrow, hlast, Int.le_refl _⟩
    · rcases (hsupp _).mp hmuted with hmuted | ⟨hmuted, -⟩
      · have hknown : (s.events (request.eventKey eventId)).isSome = true := hs.known _ hmuted
        rw [habsent] at hknown
        cases hknown
      · exact hstat.mp hmuted

/-- New suppressed events are recorded as such. -/
theorem Computed.writtenEvents (hcomp : request.Computed s)
    (h : (Transaction.commit request).write s = some t) {row : EventRow}
    (hrow : t.events key = some row) (hstat : row.status = .suppressed) :
    t.Suppressed key ∨ ∃ old, s.events key = some old ∧ old.status = .suppressed := by
  obtain ⟨hsupp, -⟩ := write_outboxes h
  cases write_events h with
  | opened eventId status value htrans hid hact _ hevents =>
    obtain ⟨rfl, rfl⟩ | ⟨hkey, hrow⟩ := eq_some_of_update hevents hrow
    · change status = .suppressed at hstat
      subst hstat
      refine .inl ((hsupp _).mpr (.inr ⟨?_, eventId, hid, rfl⟩))
      cases hcomp.decides.left with
      | continued hnone => simp [hnone] at htrans
      | idle hrecovered => simp [hrecovered] at htrans
      | started _ _ _ _ _ hiff => exact hiff.mpr hact
    · exact .inr ⟨row, hrow, hstat⟩
  | recovered eventId event new _ _ _ _ _ hresolved hevents =>
    exact .inr (events_of_update (by simp [hresolved]) hevents key row hrow hstat)
  | refreshed eventId event new _ _ _ hevent _ hsame hevents =>
    obtain ⟨rfl, rfl⟩ | ⟨hkey, hrow⟩ := eq_some_of_update hevents hrow
    · exact .inr ⟨event, hevent, hsame.symm.trans hstat⟩
    · exact .inr ⟨row, hrow, hstat⟩
  | unchanged _ _ hevents => exact .inr ⟨row, hevents ▸ hrow, hstat⟩

/-- A commit is a step. -/
theorem outboxStep (hs : Paired s) (hincs : Incidents s) (hcomp : request.Computed s)
    (hslot : request.SlotAdvances s) (h : (Transaction.commit request).write s = some t) :
    OutboxStep s t := by
  have hlater : Later s t :=
    Later.of_incidentStep (Transaction.write_rules_grow h) (incidentStep hcomp h)
  obtain ⟨hsupp, houts⟩ := write_outboxes h
  obtain ⟨-, hstates⟩ := write_states h
  refine ⟨hlater, ?_, ?_, fun key hold => (hsupp key).mpr (.inl hold), ?_,
    fun key row hrow hstat => hcomp.writtenEvents h hrow hstat, ?_⟩
  · intro key row hrow
    rcases houts key with ⟨hsame, -⟩ | ⟨hnone, -⟩
    · exact hsame.trans hrow
    · rw [hnone] at hrow
      cases hrow
  · intro key row hrow
    rcases houts key with ⟨hsame, -⟩ | ⟨-, outbox, hmem, status, hstat, rfl, hnew⟩
    · exact .inl (hsame ▸ hrow)
    · rw [hnew] at hrow
      cases hrow
      exact .inr (hcomp.newOutbox hs hincs hlater hslot h hmem hstat)
  · intro key hnew
    rcases (hsupp key).mp hnew with hold | ⟨htrans, eventId, hevent, rfl⟩
    · exact .inl hold
    · obtain ⟨habsent, hsome⟩ := opened_event h (.inr htrans) hevent
      refine .inr ⟨habsent, hsome, funext fun key => ?_⟩
      rcases houts key with ⟨hsame, -⟩ | ⟨-, outbox, hmem, -⟩
      · exact hsame
      · -- A suppression writes no outbox row.
        cases hcomp.decides.outboxOf hmem with
        | opening _ hopened => simp [hopened] at htrans
        | recovery _ _ hrecovered => simp [hrecovered] at htrans
  · intro key row eventId hrow hinc
    obtain ⟨rfl, rfl⟩ | ⟨hkey, hrow⟩ := eq_some_of_update hstates hrow
    · exact hcomp.writtenState hs hslot h hinc
    · exact .inr ⟨row, hrow, ⟨rfl, rfl, fun _ _ => Iff.rfl⟩,
        fun slot hslot => ⟨slot, hslot, Int.le_refl slot⟩⟩

end CommitRequest

/-! ## Runs -/

/-- A commit that takes effect has a later slot. -/
def Op.slotIncreases (s : Store) : Op → Bool
  | .transact (.commit request) =>
    ((Transaction.commit request).write s).isNone ||
      ((s.states request.stateKey).bind fun row => row.state.lastEvaluatedSlot).all (· < request.slot)
  | _ => true

/-- Committed slots increase. -/
def SlotsIncrease (op : Op) (_ : Choice) (s : Store) : Prop := op.slotIncreases s = true

/-- This can be checked. -/
instance SlotsIncrease.decidable (op : Op) (choice : Choice) (s : Store) :
    Decidable (SlotsIncrease op choice s) :=
  inferInstanceAs (Decidable (op.slotIncreases s = true))

/-- The slot of a commit. -/
theorem SlotsIncrease.slotAdvances (h : SlotsIncrease (.transact (.commit request)) choice s)
    (hwrite : (Transaction.commit request).write s = some t) : request.SlotAdvances s := by
  intro old slot hold hslot
  simpa [SlotsIncrease, Op.slotIncreases, hwrite, hold, hslot] using h

/-- Every transaction is a step. -/
theorem Transaction.Justified.outboxStep (hs : Paired s) (hincs : Incidents s)
    (hjust : transaction.Justified s) (hslots : SlotsIncrease (.transact transaction) choice s)
    (h : transaction.write s = some t) : OutboxStep s t := by
  by_cases hcommit : transaction.IsCommit
  · cases transaction with
    | commit request => exact request.outboxStep hs hincs hjust (hslots.slotAdvances h) h
    | _ => cases hcommit
  · have hlater : Later s t :=
      Later.of_incidentStep (Transaction.write_rules_grow h) (hjust.incidentStep hincs h)
    exact .of_nothingStarts hlater (Transaction.sameOutboxes hcommit h)
      (hjust.nothingStarts hcommit h)

/-- Operations keep rows paired. -/
theorem exec_paired {op : Op} {reply : Reply op} (hs : Paired s) (hincs : Incidents s)
    (hjust : op.Justified s) (hslots : SlotsIncrease op choice s)
    (h : exec op choice s = some (reply, t)) : Paired t := by
  rcases exec_cases h with ⟨rfl, -⟩ | ⟨key, lease, rfl, hclaim⟩ | ⟨transaction, rfl, -, hwrite⟩
  · exact hs
  · obtain ⟨row, -, -, rfl⟩ := claimLease_eq_some hclaim
    exact { hs with }
  · exact ((hjust transaction rfl).outboxStep hs hincs hslots hwrite).paired hs hincs

/-- An event and channel have at most one opening and one recovery row.  A recovery row waits for an
earlier opening row of its event and channel.  A suppressed event has no row.  Relay attributes are
the row's own. -/
structure OutboxesPaired (s : Store) : Prop where
  unique : ∀ first second row row', s.outboxes first = some row → s.outboxes second = some row' →
    row.tenantId = row'.tenantId → row.eventId = row'.eventId → row.channel = row'.channel →
    row.kind = row'.kind → first = second
  follows : ∀ key row, s.outboxes key = some row → row.kind = .recovery → s.Follows row
  silent : ∀ key, (s.Suppressed key ∨ ∃ event, s.events key = some event ∧ event.status = .suppressed) →
    ∀ outbox row, s.outboxes outbox = some row → row.tenantId = key.tenantId →
      row.eventId ≠ some key.eventId
  relayed : ∀ key row, s.outboxes key = some row → row.RelayOwn

/-- The invariant pairs the rows. -/
theorem Paired.outboxesPaired (hs : Paired s) : OutboxesPaired s where
  unique first second row row' hrow hrow' htenant hevent hchan hkind := by
    obtain ⟨eventId, hid, -⟩ := hs.identified first row hrow
    obtain ⟨eventId', hid', -⟩ := hs.identified second row' hrow'
    have hsame : eventId = eventId' :=
      Option.some.inj (hid.event.symm.trans (hevent.trans hid'.event))
    rw [hid.key, hid'.key, hid.id, hid'.id, htenant, hchan, hkind, hsame]
  follows := hs.follows
  silent key hsupp outbox row hrow htenant := by
    have hrecorded : s.Suppressed key := by
      rcases hsupp with h | ⟨event, hevent, hstat⟩
      · exact h
      · exact hs.recorded key event hevent hstat
    obtain ⟨eventId, hid, -⟩ := hs.identified outbox row hrow
    have hkey : outbox = (key.tenantId, row.outboxId) := by rw [hid.key, htenant]
    exact hs.silent key hrecorded row.outboxId row (hkey ▸ hrow)
  relayed := hs.relayed

/-- A store in which nothing was evaluated yet. -/
structure Unevaluated (s : Store) : Prop where
  states : ∀ key, s.states key = none
  events : ∀ key, s.events key = none
  transitions : ∀ key, s.transitions key = none
  outboxes : ∀ key, s.outboxes key = none

/-- Without evaluations all is paired. -/
theorem Unevaluated.paired (h : Unevaluated s) : Paired s where
  identified := by simp [h.outboxes]
  relayed := by simp [h.outboxes]
  follows := by simp [h.outboxes]
  known := by simp [Store.Suppressed, h.transitions]
  silent := by simp [h.outboxes]
  recorded := by simp [h.events]
  linked := by simp [h.states]
  suppressed := by simp [h.states]

namespace FirstIncident

/-- The evaluation of the next slot sees the recovery. -/
def recovery : Call :=
  .processCandidate
    { key := ⟨"t", "r"⟩
      lease := ⟨"worker", minute, 2 * minute, minute⟩
      slot := minute
      window := some (.sufficient, some 29)
      telegramDeliveryEnabled := false }

/-- A breach and a recovery. -/
def recoverySchedule : List (Action Choice Call) :=
  schedule ++ [.start recovery, .step 1 {}, .step 1 {}, .step 1 {}]

/-- The recovery outbox. -/
def recoveryId : OutboxId := ⟨⟨"t", "r", 1, 1, 0⟩, .email, .recovery⟩

/-- A new rule. -/
theorem unevaluated : Unevaluated (Store.empty.putRule row) := ⟨fun _ => rfl, fun _ => rfl, fun _ => rfl, fun _ => rfl⟩

end FirstIncident

end LimnoPulse.Alerts
