import LimnoPulse.Alerts.TransactionEffects

/-!
# The cooldown of a rule

A rule notifies about an incident at most once within its cooldown.  The end of the
cooldown lives in the incident state, which evaluations and administrative changes
rewrite while the parameters of the rule may change.

Main results:

- Theorem `History.remembers`: the state knows the last incident that was notified.
- Theorem `cooldown_of_history`: what follows for the incidents of a history.
-/

namespace LimnoPulse.Alerts

open CivilTime Evaluator

variable {current : State} {decision : Decision}

/-- An evaluation with its parameters and its decision. -/
structure Evaluated where
  rule : Evaluator.Rule
  evaluation : Evaluation
  decision : Decision
deriving DecidableEq

namespace Evaluated

/-- When it was evaluated. -/
def slot (e : Evaluated) : Instant := e.evaluation.slot

/-- The incident is notified about. -/
def opened (e : Evaluated) : Bool := e.decision.transition = .opened

/-- The incident is opened without a notification. -/
def suppressed (e : Evaluated) : Bool := e.decision.transition = .suppressed

/-- The end of the cooldown that a notification starts. -/
def cooldownEnd (e : Evaluated) : Instant := e.slot + e.rule.cooldown

end Evaluated

/-- The evaluations of a rule at increasing slots, newest first, and the row they leave; in between
the API may resolve the incident or drop a confirmation. -/
inductive History : List Evaluated → StateRow → Prop where
  | start (row : StateRow) (hstate : row.state = {}) : History [] row
  | evaluated {older : List Evaluated} {row row' : StateRow} (rule : Evaluator.Rule)
      (evaluation : Evaluation) (cadence : Int) (h : History older row)
      (hslots : ∀ e ∈ older, e.slot < evaluation.slot)
      (hrow : row'.state = (rule.decide row.state evaluation cadence).next) :
      History (⟨rule, evaluation, rule.decide row.state evaluation cadence⟩ :: older) row'
  | resolved {older : List Evaluated} {row row' : StateRow} (eventId : EventId) (now : Instant)
      (h : History older row) (hrow : resolvedEvaluatorState row eventId now = some row') :
      History older row'
  | reset {older : List Evaluated} {row row' : StateRow} (now : Instant) (h : History older row)
      (hrow : resetPendingEvaluatorState row now = some row') : History older row'

/-- The slots of a history increase. -/
theorem History.slots {history : List Evaluated} {row : StateRow} (h : History history row) :
    history.Pairwise fun newer older => older.slot < newer.slot := by
  induction h with
  | start => exact .nil
  | evaluated rule evaluation cadence h hslots hrow ih => exact .cons hslots ih
  | resolved eventId now h hrow ih | reset now h hrow ih => exact ih

/-- The last incident of a history that was notified about. -/
def lastOpened (history : List Evaluated) : Option Evaluated :=
  history.find? Evaluated.opened

/-- The state knows the last notification and its cooldown. -/
structure Remembers (state : State) (history : List Evaluated) : Prop where
  cooldown : state.cooldownUntil = (lastOpened history).map Evaluated.cooldownEnd
  event : state.lastNotifiedEventId = (lastOpened history).bind fun e => e.decision.eventId
  named : ∀ last, lastOpened history = some last → last.decision.eventId.isSome = true

variable {older : List Evaluated}

/-- What a decision does to this memory. -/
theorem Remembers.decides {rule : Evaluator.Rule} {evaluation : Evaluation}
    (hmemory : Remembers current older) (h : rule.Decides current evaluation.slot decision) :
    Remembers decision.next (⟨rule, evaluation, decision⟩ :: older) := by
  -- A decision that notifies about nothing keeps the last notification.
  have hkept : ∀ next : State, decision.next = next → decision.transition ≠ .opened →
      next.cooldownUntil = current.cooldownUntil →
      next.lastNotifiedEventId = current.lastNotifiedEventId →
      Remembers decision.next (⟨rule, evaluation, decision⟩ :: older) := by
    intro next hnext htrans hcooldown hevent
    have hlast : lastOpened (⟨rule, evaluation, decision⟩ :: older) = lastOpened older :=
      List.find?_cons_of_neg (by simpa [Evaluated.opened] using htrans)
    refine ⟨?_, ?_, ?_⟩
    · rw [hnext, hlast, hcooldown, hmemory.cooldown]
    · rw [hnext, hlast, hevent, hmemory.event]
    · rw [hlast]
      exact hmemory.named
  cases h with
  | kept next hinc =>
    exact hkept next rfl nofun hinc.cooldownUntil hinc.lastNotifiedEventId
  | recovered observed hinc =>
    exact hkept _ rfl nofun hinc.cooldownUntil hinc.lastNotifiedEventId
  | opened pending evaluation' hinc hslot hmode hevaluation =>
    unfold Rule.openIncident at hkept ⊢
    simp only at hkept ⊢
    split at hkept
    next hcooling =>
      rw [if_pos hcooling]
      exact hkept _ rfl nofun hinc.cooldownUntil hinc.lastNotifiedEventId
    next hcooling =>
      rw [if_neg hcooling]
      have hlast : ∀ d : Decision, d.transition = .opened →
          lastOpened (⟨rule, evaluation, d⟩ :: older) = some ⟨rule, evaluation, d⟩ :=
        fun d hd => List.find?_cons_of_pos (by simpa [Evaluated.opened] using hd)
      refine ⟨?_, ?_, ?_⟩
      · rw [hlast _ rfl, Option.map_some, Evaluated.cooldownEnd, Evaluated.slot, ← hevaluation]
      · rw [hlast _ rfl]
        rfl
      · rw [hlast _ rfl]
        rintro _ ⟨⟩
        rfl

/-- The state knows the last notification. -/
theorem History.remembers {history : List Evaluated} {row : StateRow} (h : History history row) :
    Remembers row.state history := by
  induction h with
  | start row hstate =>
    rw [hstate]
    exact ⟨rfl, rfl, fun _ h => by cases h⟩
  | evaluated rule evaluation cadence h hslots hrow ih =>
    rw [hrow]
    exact ih.decides (rule.decide_decides _ evaluation cadence)
  | resolved eventId now h hrow ih =>
    unfold resolvedEvaluatorState at hrow
    split at hrow
    · cases hrow
    · cases hrow
      exact ⟨ih.cooldown, ih.event, ih.named⟩
  | reset now h hrow ih =>
    unfold resetPendingEvaluatorState at hrow
    split at hrow
    · cases hrow
    · cases hrow
      exact ⟨ih.cooldown, ih.event, ih.named⟩

/-! ## Incidents within a cooldown -/

/-- What the cooldown asks of an evaluation after `older`. -/
structure Evaluated.Cools (e : Evaluated) (older : List Evaluated) : Prop where
  opened : e.opened = true → ∀ last, lastOpened older = some last → last.cooldownEnd ≤ e.slot
  within : e.opened = true ∨ e.suppressed = true → ∀ last, lastOpened older = some last →
    e.slot < last.cooldownEnd → e.suppressed = true
  source : e.suppressed = true → ∃ last, lastOpened older = some last ∧
    last.decision.eventId.isSome = true ∧
    e.decision.next.suppressionSourceEventId = last.decision.eventId

/-- Nothing was opened. -/
theorem Evaluated.Cools.of_no_incident {e : Evaluated} (older : List Evaluated)
    (hopened : e.opened = false) (hsupp : e.suppressed = false) : e.Cools older where
  opened h := absurd h (by simp [hopened])
  within h := absurd h (by simp [hopened, hsupp])
  source h := absurd h (by simp [hsupp])

/-- A decision respects the cooldown. -/
theorem Rule.Decides.cools {rule : Evaluator.Rule} {evaluation : Evaluation}
    (h : rule.Decides current evaluation.slot decision) (hmemory : Remembers current older) :
    Evaluated.Cools ⟨rule, evaluation, decision⟩ older := by
  cases h with
  | kept next hinc hslot hmode hact
  | recovered observed hinc hslot hmode hact => exact .of_no_incident older rfl rfl
  | opened pending evaluation' hinc hslot hmode hevaluation =>
    -- Whether the incident is suppressed is read off the cooldown the state remembers.
    have hcooldown : pending.cooldownUntil = (lastOpened older).map Evaluated.cooldownEnd :=
      hinc.cooldownUntil.trans hmemory.cooldown
    have hevent : pending.lastNotifiedEventId = (lastOpened older).bind fun e => e.decision.eventId :=
      hinc.lastNotifiedEventId.trans hmemory.event
    unfold Rule.openIncident
    simp only [hcooldown, hevaluation]
    split
    next hcooling =>
      refine ⟨nofun, fun _ _ _ _ => rfl, fun _ => ?_⟩
      cases hlast : lastOpened older with
      | none =>
        rw [hlast] at hcooling
        cases hcooling
      | some last =>
        rw [hlast] at hevent
        exact ⟨last, rfl, hmemory.named last hlast, hevent⟩
    next hcooling =>
      have hafter : ∀ last, lastOpened older = some last → last.cooldownEnd ≤ evaluation.slot := by
        intro last hlast
        rw [hlast] at hcooling
        simpa using hcooling
      refine ⟨fun _ => hafter, fun _ last hlast hwithin => ?_, nofun⟩
      exact absurd hwithin (Int.not_lt.mpr (hafter last hlast))

/-- Every evaluation respects the older cooldowns. -/
theorem History.cools {history : List Evaluated} {row : StateRow} (h : History history row) :
    ∀ e older, (e :: older) <:+ history → e.Cools older := by
  induction h with
  | start =>
    intro e older hsuffix
    cases List.suffix_nil.mp hsuffix
  | evaluated rule evaluation cadence h hslots hrow ih =>
    intro e older hsuffix
    rcases List.suffix_cons_iff.mp hsuffix with heq | hsuffix
    · cases heq
      exact Rule.Decides.cools (rule.decide_decides _ evaluation cadence) h.remembers
    · exact ih e older hsuffix
  | resolved eventId now h hrow ih | reset now h hrow ih => exact ih

/-- Two notifications are a cooldown apart. -/
theorem apart_of_cools : ∀ {history : List Evaluated},
    (history.Pairwise fun newer older => older.slot < newer.slot) →
    (∀ e older, (e :: older) <:+ history → e.Cools older) →
    history.Pairwise fun newer older =>
      newer.opened = true → older.opened = true → older.cooldownEnd ≤ newer.slot
  | [], _, _ => .nil
  | e :: older, hslots, hcools => by
    obtain ⟨hnewest, hslots⟩ := List.pairwise_cons.mp hslots
    have hrest := apart_of_cools hslots fun e' older' hsuffix =>
      hcools e' older' (hsuffix.trans (List.suffix_cons e older))
    refine .cons (fun first hfirst hopened hnotified => ?_) hrest
    -- The notification before the newest one is the first, or comes after its cooldown.
    have hsome : (lastOpened older).isSome = true := List.find?_isSome.mpr ⟨first, hfirst, hnotified⟩
    obtain ⟨last, hlast⟩ := Option.isSome_iff_exists.mp hsome
    have hend := (hcools e older List.suffix_rfl).opened hopened last hlast
    obtain ⟨hlastOpened, newer, oldest, hsplit, hnone⟩ := List.find?_eq_some_iff_append.mp hlast
    rw [hsplit] at hfirst hrest hnewest
    rcases List.mem_append.mp hfirst with hnewer | hfirst
    · exact absurd hnotified (by simpa using hnone first hnewer)
    · rcases List.mem_cons.mp hfirst with rfl | holdest
      · exact hend
      · have hbefore := List.rel_of_pairwise_cons (List.pairwise_append.mp hrest).2.1 holdest
          hlastOpened hnotified
        exact Int.le_trans hbefore (Int.le_of_lt (hnewest last (by simp)))

/-- The cooldown is respected, whatever changes. -/
structure CooldownRespected (history : List Evaluated) : Prop where
  apart : history.Pairwise fun newer older =>
    newer.opened = true → older.opened = true → older.cooldownEnd ≤ newer.slot
  cools : ∀ e older, (e :: older) <:+ history → e.Cools older

/-- In every history two notifications are a cooldown apart, an incident within the cooldown of the
last notification is suppressed, and a suppressed incident names the last notification as its
source. -/
theorem cooldown_of_history {history : List Evaluated} {row : StateRow} (h : History history row) :
    CooldownRespected history :=
  ⟨apart_of_cools h.slots h.cools, h.cools⟩

namespace CooledRule

/-- Breaches confirm at once; an hour of cooldown. -/
def rule : Evaluator.Rule :=
  { tenantId := "t", ruleId := "r", version := 1, evaluationRevision := 1, duration := minute
    cooldown := 60 * minute, channels := [.email] }

/-- A determinate evaluation. -/
def evaluation (slot : Instant) (breached : Bool) : Evaluation :=
  { slot := slot, quality := .sufficient, breached := breached, value := some 1, missedSlots := 0 }

/-- A state row. -/
def row (state : State) : StateRow := ⟨"t", "r", 1, state, 0⟩

/-- An incident; its end and another one follow. -/
def opening : Decision := rule.decide {} (evaluation 0 true) minute
/-- The incident recovers. -/
def recovery : Decision := rule.decide opening.next (evaluation minute false) minute
/-- The next breach. -/
def repeated : Decision := rule.decide recovery.next (evaluation (2 * minute) true) minute

/-- All three evaluations. -/
def history : List Evaluated :=
  [⟨rule, evaluation (2 * minute) true, repeated⟩, ⟨rule, evaluation minute false, recovery⟩,
    ⟨rule, evaluation 0 true, opening⟩]

/-- They are a history. -/
theorem history_history : History history (row repeated.next) := by
  have h₀ : History [] (row {}) := .start _ rfl
  have h₁ : History [⟨rule, evaluation 0 true, opening⟩] (row opening.next) :=
    .evaluated rule (evaluation 0 true) minute h₀ (by simp) rfl
  have h₂ : History [⟨rule, evaluation minute false, recovery⟩, ⟨rule, evaluation 0 true, opening⟩]
      (row recovery.next) :=
    .evaluated rule (evaluation minute false) minute h₁ (by decide) rfl
  exact .evaluated rule (evaluation (2 * minute) true) minute h₂ (by decide) rfl

end CooledRule

/-- The recovery incident of the hour is suppressed and names the first one. -/
theorem cooldown_of_history_suppressed : CooledRule.repeated.transition = .suppressed ∧
    CooledRule.repeated.next.suppressionSourceEventId = CooledRule.opening.eventId ∧
    CooldownRespected CooledRule.history :=
  ⟨by decide +kernel, by decide +kernel, cooldown_of_history CooledRule.history_history⟩

end LimnoPulse.Alerts
