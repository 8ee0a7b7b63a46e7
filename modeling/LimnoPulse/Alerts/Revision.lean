import LimnoPulse.Alerts.Incident

/-!
# The evaluation revision of a rule

A change of a rule's meaning takes a new evaluation revision and ends the
incident of the old one.  Both are computed from the rule that the call read and
written when the stored version is the expected one; nothing ties the two
versions.  The discipline holds in every run in which they agree.

Main results:

- Theorem `exec_disciplined`: an operation that read the version it expects
  keeps the discipline.
- Theorem `revision_discipline_of_run`: the discipline over whole runs.
-/

namespace LimnoPulse.Alerts

open CivilTime StoreProgram Evaluator

variable {new row : RuleRow} {s t : Store} {key : RuleKey} {history : Versions RuleRow}
  {current : RuleRow} {event : EventRow}

/-- The same meaning and revision. -/
def RuleRow.SameMeaning (a b : RuleRow) : Prop :=
  a.rule.semantics = b.rule.semantics ∧ a.rule.evaluationRevision = b.rule.evaluationRevision

/-- Versions grow and determine meaning and revision. -/
structure VersionHistory (history : Versions RuleRow) : Prop where
  bounded : ∀ current, history.current = some current →
    ∀ row ∈ history, row.rule.version ≤ current.rule.version
  determined : ∀ a ∈ history, ∀ b ∈ history, a.rule.version = b.rule.version → a.SameMeaning b

/-- No versions. -/
theorem VersionHistory.nil : VersionHistory [] where
  bounded := by simp
  determined := by simp

theorem VersionHistory.singleton (row : RuleRow) : VersionHistory [row] where
  bounded := by
    intro current hcur other hother
    cases hcur
    cases List.mem_singleton.mp hother
    exact le_rfl
  determined := by
    intro a ha b hb _
    cases List.mem_singleton.mp ha
    cases List.mem_singleton.mp hb
    exact ⟨rfl, rfl⟩

/-- Writing the same rule again, with other attributes. -/
theorem VersionHistory.cons_same (h : VersionHistory history)
    (hcur : history.current = some current)
    (hrule : new.rule = current.rule) : VersionHistory (new :: history) := by
  have hmem : current ∈ history := Versions.mem_of_current hcur
  -- The new value stands for the current one.
  have hstands : ∀ a ∈ new :: history, ∃ b ∈ history, a.rule = b.rule := by
    intro a ha
    rcases List.mem_cons.mp ha with rfl | ha
    · exact ⟨current, hmem, hrule⟩
    · exact ⟨a, ha, rfl⟩
  refine ⟨?_, ?_⟩
  · intro top htop a ha
    cases htop
    obtain ⟨b, hb, heq⟩ := hstands a ha
    rw [hrule, heq]
    exact h.bounded current hcur b hb
  · intro a ha b hb hver
    obtain ⟨a', ha', heqa⟩ := hstands a ha
    obtain ⟨b', hb', heqb⟩ := hstands b hb
    rw [RuleRow.SameMeaning, heqa, heqb]
    rw [heqa, heqb] at hver
    exact h.determined a' ha' b' hb' hver

/-- Writing the next version. -/
theorem VersionHistory.cons_next (h : VersionHistory history)
    (hcur : history.current = some current)
    (hver : new.rule.version = current.rule.version + 1) : VersionHistory (new :: history) := by
  have hbelow : ∀ row ∈ history, row.rule.version < new.rule.version := by
    intro row hrow
    have hle := h.bounded current hcur row hrow
    omega
  refine ⟨?_, ?_⟩
  · intro top htop row hrow
    cases htop
    rcases List.mem_cons.mp hrow with rfl | hrow
    · exact le_rfl
    · exact Nat.le_of_lt (hbelow row hrow)
  · intro a ha b hb hsame
    rcases List.mem_cons.mp ha with hnew | hold <;> rcases List.mem_cons.mp hb with hnew' | hold'
    · rw [hnew, hnew']
      exact ⟨rfl, rfl⟩
    · have hlt := hbelow b hold'
      rw [← hsame, hnew] at hlt
      omega
    · have hlt := hbelow a hold
      rw [hsame, hnew'] at hlt
      omega
    · exact h.determined a hold b hold' hsame

/-! ## The discipline -/

/-- Unresolved events have the revision of their rule. -/
def RevisionsMatch (s : Store) : Prop :=
  ∀ key event, s.events key = some event → event.status.unresolved = true →
    ∃ row, s.rule ⟨event.tenantId, event.ruleId⟩ = some row ∧
      event.evaluationRevision = row.rule.evaluationRevision

/-- Histories and events in order. -/
structure Disciplined (s : Store) : Prop where
  incidents : Incidents s
  history : ∀ key, VersionHistory (s.rules key)
  revisions : RevisionsMatch s

/-- No unresolved event, no confirmation and no incident is left. -/
structure IncidentClosed (key : RuleKey) (s t : Store) : Prop where
  resolved : ∀ eventKey event, s.events eventKey = some event → event.UnresolvedOf key →
    ∃ ended, t.events eventKey = some ended ∧ ended.status = .resolved
  reset : ∀ state, s.states key = some state → state.state.mode = .pending →
    ∃ new, t.states key = some new ∧ new.state.mode = .healthy
  none : t.incident key = none

/-- Revisions grow with every change of meaning, which ends the incident. -/
def RevisionDiscipline (s t : Store) : Prop :=
  ∀ key row, s.rule key = some row → ∃ new, t.rule key = some new ∧
    row.rule.evaluationRevision ≤ new.rule.evaluationRevision ∧
    (new.rule.semantics ≠ row.rule.semantics →
      row.rule.evaluationRevision < new.rule.evaluationRevision ∧ IncidentClosed key s t)

/-- The row is unrevised, or revised with its incident ended. -/
def RevisionStep (s t : Store) : Prop :=
  ∀ key row, s.rule key = some row → ∃ new, t.rule key = some new ∧
    (new.SameMeaning row ∨
      (row.rule.evaluationRevision < new.rule.evaluationRevision ∧ IncidentClosed key s t))

/-- A step keeps the discipline. -/
theorem RevisionStep.discipline (h : RevisionStep s t) : RevisionDiscipline s t := by
  intro key row hrow
  obtain ⟨new, hnew, hcases⟩ := h key row hrow
  refine ⟨new, hnew, ?_⟩
  rcases hcases with ⟨hsemantics, hrev⟩ | ⟨hlt, hclosed⟩
  · exact ⟨Nat.le_of_eq hrev.symm, fun hchanged => absurd hsemantics hchanged⟩
  · exact ⟨Nat.le_of_lt hlt, fun _ => ⟨hlt, hclosed⟩⟩

/-- Unresolved events keep the revision from before. -/
theorem IncidentStep.revision_before (hs : RevisionsMatch s) (hstep : IncidentStep s t)
    {key : EventKey} (hevent : t.events key = some event)
    (hunres : event.status.unresolved = true) :
    ∃ row, s.rule ⟨event.tenantId, event.ruleId⟩ = some row ∧
      event.evaluationRevision = row.rule.evaluationRevision := by
  cases hstep with
  | kept _ hevents =>
    rcases hevents key with heq | ⟨previous, row, hprev, hrow, hsame, hstat⟩
    · exact hs key event (heq ▸ hevent) hunres
    · rw [hrow] at hevent
      cases hevent
      rw [hsame.2.1, hsame.2.2.1, hsame.2.2.2]
      exact hs key previous hprev (hstat ▸ hunres)
  | ended changed _ _ eventId _ resolved _ _ _ _ _ _ hresolved _ hevents =>
    obtain ⟨rfl, rfl⟩ | ⟨hkey, hevent⟩ := eq_some_of_update hevents hevent
    · simp [hresolved, EventStatus.unresolved] at hunres
    · exact hs key event hevent hunres
  | opened changed _ opening hchanged _ _ _ _ _ hrule _ hevents =>
    obtain ⟨rfl, rfl⟩ | ⟨hkey, hevent⟩ := eq_some_of_update hevents hevent
    · rw [← hchanged]
      exact hrule
    · exact hs key event hevent hunres

/-- Unrevised rules and those without incident match. -/
theorem RevisionsMatch.step (hs : RevisionsMatch s) (ht : Incidents t)
    (hinc : IncidentStep s t) (hrev : RevisionStep s t) : RevisionsMatch t := by
  intro key event hevent hunres
  obtain ⟨row, hrow, hmatch⟩ := hinc.revision_before hs hevent hunres
  obtain ⟨new, hnew, ⟨-, hsame⟩ | ⟨-, hclosed⟩⟩ := hrev _ row hrow
  · exact ⟨new, hnew, hmatch.trans hsame.symm⟩
  · have hact := ht.active key event hevent hunres
    rw [hclosed.none] at hact
    cases hact

/-! ## Operations -/

/-- Rules stay. -/
theorem RevisionStep.of_rules_eq (h : t.rules = s.rules) : RevisionStep s t := by
  intro key row hrow
  exact ⟨row, by rw [Store.rule_congr h, hrow], .inl ⟨rfl, rfl⟩⟩

/-- Writing one rule row. -/
theorem RevisionStep.of_putRule (hrules : t.rules = (s.putRule new).rules)
    (hnew : ∀ row, s.rule new.rule.key = some row → new.SameMeaning row ∨
      (row.rule.evaluationRevision < new.rule.evaluationRevision ∧
        IncidentClosed new.rule.key s t)) : RevisionStep s t := by
  intro key row hrow
  by_cases hkey : key = new.rule.key
  · subst hkey
    refine ⟨new, ?_, hnew row hrow⟩
    rw [Store.rule_congr hrules, Store.rule_putRule, if_pos rfl]
  · refine ⟨row, ?_, .inl ⟨rfl, rfl⟩⟩
    rw [Store.rule_congr hrules, Store.rule_putRule, if_neg hkey, hrow]

theorem history_putRule (hs : ∀ key, VersionHistory (s.rules key))
    (hnew : VersionHistory (new :: s.rules new.rule.key)) (key : RuleKey) :
    VersionHistory ((s.putRule new).rules key) := by
  rw [Store.putRule_rules]
  split
  next hkey =>
    rw [hkey]
    exact hnew
  next => exact hs key

/-- No rule, no history. -/
theorem Store.rules_eq_nil (h : s.rule key = none) : s.rules key = [] :=
  List.head?_eq_none_iff.mp h

/-- A rule of the stored version has its meaning. -/
theorem SeenRule.sameMeaning {existing : AlertRule} (hs : VersionHistory (s.rules key))
    (hseen : SeenRule s key existing) (hrow : s.rule key = some row)
    (hver : existing.version = row.rule.version) :
    existing.key = key ∧ existing.semantics = row.rule.semantics ∧
      existing.evaluationRevision = row.rule.evaluationRevision := by
  obtain ⟨read, hread, rfl⟩ := hseen
  exact ⟨s.keyed key read hread, hs.determined read hread row (Versions.mem_of_current hrow) hver⟩

/-- No incident, no unresolved event. -/
theorem Incidents.not_unresolvedOf (hs : Incidents s) (hnone : s.incident key = none)
    {eventKey : EventKey} (hevent : s.events eventKey = some event) :
    ¬ event.UnresolvedOf key := by
  rintro ⟨htenant, hrule, hunres⟩
  have hact := hs.active eventKey event hevent hunres
  rw [htenant, hrule, hnone] at hact
  cases hact

/-- The items that end an incident close it. -/
theorem IncidentEnd.closed {revision : Nat} {stateItem : Option StateRow} (hs : Incidents s)
    (h : IncidentEnd key revision stateItem s t)
    (hseen : ∀ item, stateItem = some item → SeenState s key item) : IncidentClosed key s t := by
  cases h with
  | absent _ hstate hstates =>
    have hnone : s.incident key = none := by rw [Store.incident, hstate]; rfl
    refine ⟨?_, ?_, ?_⟩
    · intro eventKey event hevent hof
      exact absurd hof (hs.not_unresolvedOf hnone hevent)
    · intro state hstored
      rw [hstate] at hstored
      cases hstored
    · exact (Store.incident_congr (by rw [hstates])).trans hnone
  | reset item old new hitem hpend hstate hrev hmode _ hstates _ =>
    have hold : old = item := (hseen item hitem).eq_of_revision hstate hrev
    have hnone : s.incident key = none := by
      rw [Store.incident, hstate, hold]
      exact State.incident_of_not_active (by simp [hpend])
    refine ⟨?_, ?_, ?_⟩
    · intro eventKey event hevent hof
      exact absurd hof (hs.not_unresolvedOf hnone hevent)
    · intro state _ _
      exact ⟨new, by rw [hstates, Function.update_self], hmode⟩
    · rw [Store.incident_update hstates, if_pos rfl]
      exact State.incident_of_not_active (by simp [hmode])
  | idle item old hitem hpend hidle hstate hrev hstates _ =>
    have hold : old = item := (hseen item hitem).eq_of_revision hstate hrev
    have hnone : s.incident key = none := by
      rw [Store.incident, hstate, hold, Option.bind_some, State.incident]
      split
      next hact => exact hidle hact
      next => rfl
    refine ⟨?_, ?_, ?_⟩
    · intro eventKey event hevent hof
      exact absurd hof (hs.not_unresolvedOf hnone hevent)
    · intro state hstored hmode
      rw [hstate, hold] at hstored
      cases hstored
      exact absurd hmode hpend
    · exact (Store.incident_congr (by rw [hstates])).trans hnone
  | resolved item old new eventId event ended hitem hact hinc hstate hrev hmode _ _ _ _
      _ hended hstates hevents =>
      have hold : old = item := (hseen item hitem).eq_of_revision hstate hrev
      have hstored : s.incident key = some eventId := by
        rw [Store.incident, hstate, hold]
        exact State.incident_eq_some.mpr ⟨hact, hinc⟩
      refine ⟨?_, ?_, ?_⟩
      · rintro eventKey other hother ⟨htenant, hrule, hunres⟩
        -- The unresolved event is the incident that was resolved.
        have hother' := hs.active eventKey other hother hunres
        rw [htenant, hrule, hstored] at hother'
        have hkey := hs.keyed eventKey other hother
        rw [htenant, ← Option.some.inj hother'] at hkey
        exact ⟨ended, by rw [hkey, hevents, Function.update_self], hended⟩
      · intro state _ _
        exact ⟨new, by rw [hstates, Function.update_self], hmode⟩
      · rw [Store.incident_update hstates, if_pos rfl]
        exact State.incident_of_not_active (by simp [hmode])

/-- A committing rule change read the version it expects. -/
def Transaction.ReadsExpectedVersion : Transaction → Prop
  | .updateRule request => request.existing.version = request.expectedVersion
  | .replaceRule request => request.existing.version = request.expectedVersion
  | _ => True

/-- A rule change read what it expects. -/
def ReadsExpectedVersion (op : Op) (choice : Choice) (s : Store) : Prop :=
  ∀ transaction, op = .transact transaction → choice.fault ≠ .requestLost →
    transaction.write s ≠ none → transaction.ReadsExpectedVersion

/-- Histories stay in order and revisions disciplined. -/
structure RulesDisciplined (s t : Store) : Prop where
  history : ∀ key, VersionHistory (t.rules key)
  revisions : RevisionStep s t

/-- Updates are disciplined. -/
theorem UpdateRule.rulesDisciplined {request : UpdateRule} (hs : Disciplined s)
    (hjust : (Transaction.updateRule request).Justified s)
    (hread : request.existing.version = request.expectedVersion)
    (h : (Transaction.updateRule request).write s = some t) : RulesDisciplined s t := by
  obtain ⟨row, hrow, hver, -, hrules⟩ := write_rules h
  obtain ⟨hkey, hsemantics, hrev⟩ := hjust.1.sameMeaning (hs.history _) hrow (hread.trans hver.symm)
  have hrowKey : row.rule.key = request.key := Store.rule_key hrow
  have hchangeKey : (request.change row).rule.key = request.key := by
    rw [change_rule]
    exact hrowKey
  refine ⟨?_, RevisionStep.of_putRule hrules ?_⟩
  · intro key
    rw [hrules]
    refine history_putRule hs.history ?_ key
    rw [hchangeKey]
    refine (hs.history _).cons_next hrow ?_
    rw [change_rule, hver]
    rfl
  · intro stored hstored
    rw [hchangeKey, hrow] at hstored
    cases hstored
    rw [hchangeKey]
    have hinc := write_incident h
    by_cases hsem : request.semanticChange = true
    · rw [if_pos hsem, hkey] at hinc
      refine .inr ⟨?_, hinc.closed hs.incidents (hkey ▸ hjust.2)⟩
      rw [change_rule]
      show row.rule.evaluationRevision <
        request.existing.evaluationRevision + request.semanticChange.toNat
      rw [hsem, hrev]
      exact Nat.lt_succ_self _
    · have hnone : Alerts.semanticChange request.existing request.updates = false :=
        Bool.eq_false_iff.mpr hsem
      refine .inl ⟨?_, ?_⟩
      · rw [change_rule]
        show (row.rule.apply request.updates).semantics = row.rule.semantics
        rw [AlertRule.semantics_apply_congr _ hsemantics.symm,
          AlertRule.semantics_apply_of_not_semanticChange hnone, hsemantics]
      · rw [change_rule]
        show request.existing.evaluationRevision + request.semanticChange.toNat =
          row.rule.evaluationRevision
        rw [Bool.eq_false_iff.mpr hsem, hrev]
        rfl

theorem ReplaceRule.rulesDisciplined {request : ReplaceRule} (hs : Disciplined s)
    (hjust : (Transaction.replaceRule request).Justified s)
    (hread : request.existing.version = request.expectedVersion)
    (h : (Transaction.replaceRule request).write s = some t) : RulesDisciplined s t := by
  obtain ⟨row, hrow, hver, -, habsent, hrules⟩ := write_rules h
  obtain ⟨hkey, -, hrev⟩ := hjust.1.sameMeaning (hs.history _) hrow (hread.trans hver.symm)
  have hrowKey : row.rule.key = request.key := Store.rule_key hrow
  have hchangeKey : (request.change row).rule.key = request.key := hrowKey
  have hother : request.successor.key ≠ request.key := by
    intro hsame
    rw [hsame, hrow] at habsent
    cases habsent
  have hclosed : IncidentClosed request.key s t := by
    have hinc := write_incident h
    rw [hkey] at hinc
    exact hinc.closed hs.incidents (hkey ▸ hjust.2)
  refine ⟨?_, ?_⟩
  · intro key
    rw [hrules]
    refine history_putRule (history_putRule hs.history ?_) ?_ key
    · rw [hchangeKey]
      refine (hs.history _).cons_next hrow ?_
      rw [hver]
      rfl
    · rw [ruleToItem_rule, Store.putRule_rules, hchangeKey, if_neg hother,
        Store.rules_eq_nil habsent]
      exact VersionHistory.singleton _
  · intro key stored hstored
    have hnotNew : key ≠ request.successor.key := by
      rintro rfl
      rw [habsent] at hstored
      cases hstored
    have hlookup : t.rule key = (s.putRule (request.change row)).rule key := by
      rw [Store.rule_congr hrules, Store.rule_putRule, ruleToItem_rule, if_neg hnotNew]
    rw [hlookup, Store.rule_putRule, hchangeKey]
    split
    next hsame =>
      subst hsame
      rw [hrow] at hstored
      cases hstored
      refine ⟨_, rfl, .inr ⟨?_, hclosed⟩⟩
      show row.rule.evaluationRevision < request.existing.evaluationRevision + 1
      omega
    next => exact ⟨stored, hstored, .inl ⟨rfl, rfl⟩⟩

/-- Writing the same rule with other attributes. -/
theorem RulesDisciplined.of_same_rule (hs : Disciplined s) (hrow : s.rule key = some row)
    (new : RuleRow) (hrule : new.rule = row.rule) (hrules : t.rules = (s.putRule new).rules) :
    RulesDisciplined s t := by
  have hkey : new.rule.key = key := by
    rw [hrule]
    exact Store.rule_key hrow
  refine ⟨?_, RevisionStep.of_putRule hrules ?_⟩
  · intro other
    rw [hrules]
    refine history_putRule hs.history ?_ other
    rw [hkey]
    exact (hs.history key).cons_same hrow hrule
  · intro stored hstored
    rw [hkey, hrow] at hstored
    cases hstored
    exact .inl ⟨by rw [hrule], by rw [hrule]⟩

theorem Transaction.rulesDisciplined {transaction : Transaction} (hs : Disciplined s)
    (hjust : transaction.Justified s) (hread : transaction.ReadsExpectedVersion)
    (h : transaction.write s = some t) : RulesDisciplined s t := by
  cases transaction with
  | createRule =>
    obtain ⟨habsent, rfl⟩ := createRule_write_rules h
    refine ⟨history_putRule hs.history ?_, RevisionStep.of_putRule rfl ?_⟩
    · rw [ruleToItem_rule, Store.rules_eq_nil habsent]
      exact VersionHistory.singleton _
    · intro row hrow
      rw [ruleToItem_rule, habsent] at hrow
      cases hrow
  | updateRule => exact UpdateRule.rulesDisciplined hs hjust hread h
  | replaceRule => exact ReplaceRule.rulesDisciplined hs hjust hread h
  | acknowledgeEvent request | resolveEvent request stateOperation =>
    have hrules := Transaction.write_rules_eq h (by simp)
    exact ⟨fun key => hrules ▸ hs.history key, RevisionStep.of_rules_eq hrules⟩
  | commit request =>
    obtain ⟨row, hrow, -, -, -, -, hrules⟩ := CommitRequest.write_rules h
    exact .of_same_rule hs hrow (request.advance row) rfl hrules

/-- Operations that read the expected version keep the discipline. -/
theorem exec_disciplined {op : Op} {choice : Choice} {reply : Reply op} (hs : Disciplined s)
    (hjust : op.Justified s) (hread : ReadsExpectedVersion op choice s)
    (h : exec op choice s = some (reply, t)) :
    Disciplined t ∧ RevisionDiscipline s t ∧ Later s t := by
  obtain ⟨ht, hlater⟩ := exec_incidents hs.incidents hjust h
  have hsteps : RulesDisciplined s t ∧ IncidentStep s t := by
    rcases exec_cases h with ⟨rfl, -⟩ | ⟨key, lease, rfl, hclaim⟩ | ⟨transaction, rfl, hfault, hwrite⟩
    · exact ⟨⟨hs.history, RevisionStep.of_rules_eq rfl⟩, .refl_of rfl rfl⟩
    · obtain ⟨row, hrow, -, rfl⟩ := claimLease_eq_some hclaim
      exact ⟨.of_same_rule hs hrow (row.lease lease) rfl rfl, .refl_of rfl rfl⟩
    · have hjust' := hjust transaction rfl
      have hread' := hread transaction rfl hfault (by simp [hwrite])
      exact ⟨Transaction.rulesDisciplined hs hjust' hread' hwrite,
        Transaction.Justified.incidentStep hs.incidents hjust' hwrite⟩
  obtain ⟨hrules, hinc⟩ := hsteps
  exact ⟨⟨ht, hrules.history, hs.revisions.step ht hinc hrules.revisions⟩,
    hrules.revisions.discipline, hlater⟩

/-- In every run in which each committing rule change read the version it expects, no revision
decreases, every change of a rule's meaning increases its revision and ends its incident, and
unresolved events have the revision of their rule. -/
theorem revision_discipline_of_run (s : Store) (hs : Disciplined s)
    (schedule : List (Action Choice Call)) (w : World Store Call Result Op Reply)
    (hrun : machine.run (Machine.initial s) schedule = some w)
    (hread : machine.Guarded ReadsExpectedVersion (Machine.initial s) schedule) :
    machine.EveryStep RevisionDiscipline (Machine.initial s) schedule ∧ RevisionsMatch w.store := by
  have hkept : KeptByJustified ReadsExpectedVersion Disciplined
      (fun s t => RevisionDiscipline s t ∧ Later s t) :=
    ⟨fun _ _ _ => Later.trans, fun _ _ => And.right,
      fun _ _ _ _ _ hs hjustified hread hexec => exec_disciplined hs hjustified hread hexec⟩
  have hrefl : ∀ s, RevisionDiscipline s s ∧ Later s s := fun s =>
    ⟨(RevisionStep.of_rules_eq rfl).discipline, Later.refl s⟩
  have hcontract := contract_of_kept hkept (fun _ h => h.incidents) hrefl
  obtain ⟨hlast, -, hsteps⟩ := hcontract.run_initial hs hread hrun
  exact ⟨hsteps.mono fun _ _ h => h.1, hlast.revisions⟩

theorem disciplined_of_fresh : Disciplined (Store.empty.putRule row) where
  incidents := incidents_of_none (fun _ => rfl) fun _ => rfl
  history := history_putRule (fun _ => VersionHistory.nil) (VersionHistory.singleton row)
  revisions := by
    intro key event hevent
    cases hevent

/-! ### A revision that goes back

Two updates read version 1 of a rule.  The first changes its threshold and gives
it revision 2, under which an incident opens.  The second, sent for version 2,
renames the rule and writes the revision it read. -/

namespace StaleRevision

/-- An update. -/
def update (expectedVersion : Nat) (updates : AlertRuleUpdates) (now : Instant) : Call :=
  .updateRule
    { tenantId := "t"
      ruleId := "r"
      expectedVersion := expectedVersion
      updates := updates
      audit := ⟨"admin", "transition"⟩
      now := now }

/-- The first update alone. -/
def threshold : List (Action Choice Call) :=
  [.start (update 1 { threshold := some 25 } minute), .step 0 {}, .step 0 {}, .step 0 {}]

/-- A breach after the first update. -/
def evaluation : Call :=
  .processCandidate
    { key := ⟨"t", "r"⟩
      lease := ⟨"worker", 105 * second, 165 * second, 105 * second⟩
      slot := 105 * second
      window := some (.sufficient, some 31)
      telegramDeliveryEnabled := false }

/-- Both updates read, one commits, an incident opens. -/
def opening : List (Action Choice Call) :=
  [.start (update 1 { threshold := some 25 } minute), .start (update 2 { name := some "hot" } (2 * minute)),
    .step 0 {}, .step 1 {}, .step 0 {}, .step 0 {}, .start evaluation, .step 2 {}, .step 2 {}, .step 2 {}]

end StaleRevision

/-- A stored revision goes back from 2 to 1 while an unresolved event has revision 2. -/
theorem revision_decreased_by_stale_update :
    Disciplined (Store.empty.putRule FirstIncident.row) ∧
      ∃ v w before after event,
        machine.run (Machine.initial (Store.empty.putRule FirstIncident.row)) StaleRevision.opening =
            some v ∧
        machine.step v (.step 1 {}) = some w ∧
        v.store.rule ⟨"t", "r"⟩ = some before ∧ before.rule.evaluationRevision = 2 ∧
        w.store.rule ⟨"t", "r"⟩ = some after ∧ after.rule.evaluationRevision = 1 ∧
        w.store.events ⟨"t", ⟨"t", "r", 2, 2, 105 * second⟩⟩ = some event ∧
        event.status.unresolved = true ∧ event.evaluationRevision = 2 ∧
        ¬ RevisionDiscipline v.store w.store ∧ ¬ RevisionsMatch w.store := by
  refine ⟨disciplined_of_fresh, _, _, _, _, _, rfl, rfl, rfl, rfl, rfl, rfl, rfl, rfl, rfl, ?_, ?_⟩
  · intro hdiscipline
    obtain ⟨new, hnew, hle, -⟩ := hdiscipline ⟨"t", "r"⟩ _ rfl
    cases hnew
    exact absurd hle (by decide)
  · intro hmatch
    obtain ⟨row, hrow, hrevision⟩ := hmatch ⟨"t", ⟨"t", "r", 2, 2, 105 * second⟩⟩ _ rfl rfl
    cases hrow
    exact absurd hrevision (by decide)

/-- The discipline over the run of the first of the two updates. -/
theorem revision_discipline_of_threshold_update :
    ∃ w : World Store Call Result Op Reply,
      machine.run (Machine.initial (Store.empty.putRule FirstIncident.row))
          StaleRevision.threshold = some w ∧
        machine.EveryStep RevisionDiscipline (Machine.initial (Store.empty.putRule FirstIncident.row))
          StaleRevision.threshold ∧
        RevisionsMatch w.store := by
  refine ⟨_, rfl, revision_discipline_of_run (Store.empty.putRule FirstIncident.row)
    disciplined_of_fresh StaleRevision.threshold _ rfl ?_⟩
  refine .cons trivial rfl (.cons ?_ rfl (.cons ?_ rfl (.cons ?_ rfl trivial)))
  · rintro _ ⟨⟩
  · rintro _ ⟨⟩
  · rintro _ ⟨⟩ _ _
    rfl

end LimnoPulse.Alerts
