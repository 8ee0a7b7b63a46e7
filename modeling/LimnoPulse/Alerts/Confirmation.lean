import LimnoPulse.Alerts.StateMachine

/-!
# When an incident opens

The state machine opens an incident after a number of consecutive breaches.  It counts
them in its state; this module says the same about the evaluations it has seen.  An
evaluation that is not determinate and has missed no slot leaves no trace in the count.

Main results:

- Theorem `Rule.decide_confirms`: one decision opens an incident when the count says
  so, and counts on.
- Theorem `incident_opens_iff`: incidents open, and are recovered from, exactly as the
  history says.
-/

namespace LimnoPulse.Alerts.Evaluator

open CivilTime

/-- The state after some evaluations, newest first. -/
def Rule.after (rule : Rule) (cadence : Int) : List Evaluation → State
  | [] => {}
  | evaluation :: older => (rule.decide (rule.after cadence older) evaluation cadence).next

/-- The evaluation says something, or tells of a gap. -/
def Evaluation.leavesTrace (evaluation : Evaluation) : Bool :=
  evaluation.isDeterminate || decide (0 < evaluation.missedSlots)

/-- The newest evaluations are determinate breaches, a cadence apart back from `slot`; only the
oldest may follow a gap. -/
def ConfirmedBreaches (cadence : Int) : (count : Nat) → (slot : Instant) → List Evaluation → Prop
  | 0, _, _ => True
  | _ + 1, _, [] => False
  | count + 1, slot, evaluation :: older =>
    evaluation.slot = slot ∧ evaluation.isDeterminate = true ∧ evaluation.breached = true ∧
      (0 < count → evaluation.missedSlots = 0) ∧
      ConfirmedBreaches cadence count (slot - cadence) older

section Confirmation

variable {cadence : Int} {evaluation : Evaluation} {history : List Evaluation} {state : State}

/-- The state counts the breaches that end the history. -/
def State.Counts (cadence : Int) (state : State) (history : List Evaluation) : Prop :=
  ∀ count slot, (ConfirmedBreaches cadence (count + 1) slot history ↔
    state.mode = .pending ∧ count < state.confirmedSlots ∧ state.lastBreachSlot = some slot)

/-- After anything but a breach nothing is counted. -/
theorem State.Counts.of_not_pending (hmode : state.mode ≠ .pending)
    (h : evaluation.isDeterminate = true → evaluation.breached = false) :
    state.Counts cadence (evaluation :: history) := by
  refine fun count slot => iff_of_false ?_ fun hpend => hmode hpend.1
  rintro ⟨-, hdet, hbreached, -⟩
  rw [h hdet] at hbreached
  cases hbreached

/-- A breach is counted. -/
theorem State.confirmBreach_counted (state : State) (evaluation : Evaluation) (cadence : Int) :
    (state.confirmBreach evaluation cadence).lastBreachSlot = some evaluation.slot ∧
      (state.confirmBreach evaluation cadence).confirmedSlots =
        if state.mode = .pending ∧ evaluation.missedSlots = 0 ∧
            state.lastBreachSlot = some (evaluation.slot - cadence) then
          state.confirmedSlots + 1
        else 1 := by
  have hlast : state.lastBreachSlot.any (fun slot => slot + cadence = evaluation.slot) = true ↔
      state.lastBreachSlot = some (evaluation.slot - cadence) := by
    cases state.lastBreachSlot with
    | none => simp
    | some =>
      simp only [Option.any_some, decide_eq_true_eq, Option.some.injEq]
      rw [eq_comm, ← Int.sub_eq_iff_eq_add, eq_comm]
  unfold State.confirmBreach
  simp only [Bool.and_eq_true, decide_eq_true_eq, hlast, and_assoc]
  split <;> exact ⟨rfl, rfl⟩

/-- A breach is counted on, or counted anew after a gap. -/
theorem State.Counts.confirmBreach (h : evaluation.missedSlots = 0 → state.Counts cadence history)
    (hdet : evaluation.isDeterminate = true) (hbreached : evaluation.breached = true) :
    (state.confirmBreach evaluation cadence).Counts cadence (evaluation :: history) := by
  intro count slot
  obtain ⟨hlast, hcount⟩ := state.confirmBreach_counted evaluation cadence
  simp only [ConfirmedBreaches, hlast, hcount, hdet, hbreached, true_and,
    State.confirmBreach_mode, Option.some.injEq]
  cases count with
  | zero =>
    -- A breach alone is always counted.
    simp only [Nat.lt_irrefl, false_implies, ConfirmedBreaches, and_self, and_true]
    refine (and_iff_right ?_).symm
    split <;> omega
  | succ count =>
    by_cases hgap : evaluation.missedSlots = 0
    · rw [h hgap count]
      simp only [hgap, implies_true, true_and]
      split
      next hcons =>
        simp only [hcons, Option.some.injEq, true_and, Int.sub_left_inj,
          Nat.add_lt_add_iff_right]
        exact ⟨fun h => ⟨h.2.1, h.1⟩, fun h => ⟨h.2, h.1, h.2⟩⟩
      next hcons =>
        constructor
        · rintro ⟨rfl, hmode, -, hlast⟩
          exact absurd ⟨hmode, hlast⟩ hcons
        · omega
    · simp only [hgap, Nat.zero_lt_succ, forall_const, false_and, and_false, if_false, false_iff]
      omega

/-- Without a gap the count stays; a gap ends what is pending. -/
theorem State.Counts.observe (h : state.Counts cadence history) (hgap : evaluation.missedSlots = 0)
    (value : Option Rat) :
    { state.observe evaluation with lastValue := value }.Counts cadence history := by
  intro count slot
  rw [h count slot]
  simp only [State.observe, hgap, Nat.lt_irrefl, decide_false, Bool.false_and, Bool.false_eq_true,
    if_false]
  cases state.mode <;> simp

/-- After a gap nothing is pending. -/
theorem State.observe_gap (state : State) (hgap : 0 < evaluation.missedSlots) :
    (state.observe evaluation).mode ≠ .pending := by
  cases hmode : state.mode <;> simp [State.observe, hmode, hgap, State.resetPending]

/-! ## Decisions -/

/-- What is unknown stays unknown. -/
theorem Evaluation.normalized_indeterminate (h : evaluation.isDeterminate = false) :
    evaluation.normalized.isDeterminate = false ∧
      evaluation.normalized.missedSlots = evaluation.missedSlots := by
  rw [Evaluation.normalized, if_neg (by simp [h])]
  exact ⟨by simp [Evaluation.isDeterminate], rfl⟩

/-- At least one breach confirms. -/
theorem requiredSlots_pos {duration : Int} (h : 0 < cadence) : 0 < requiredSlots duration cadence := by
  unfold requiredSlots
  split
  · decide
  · rw [Int.tdiv_eq_ediv_of_nonneg (by omega)]
    exact Int.le_ediv_of_mul_le h (by omega)

/-- A decision in terms of the evaluations before it. -/
structure Decision.Confirms (decision : Decision) (cadence : Int) (required : Nat) (current : State)
    (evaluation : Evaluation) (history : List Evaluation) : Prop where
  opens : decision.transition = .opened ∨ decision.transition = .suppressed ↔
    current.mode ≠ .active ∧
      ConfirmedBreaches cadence required evaluation.slot (evaluation :: history)
  recovers : decision.transition = .recovered ↔
    current.mode = .active ∧ evaluation.isDeterminate = true ∧ evaluation.breached = false
  keeps : evaluation.isDeterminate = false → decision.transition = .none

/-- A decision opens by the count and counts on. -/
theorem Rule.decide_confirms (rule : Rule) (hcadence : 0 < cadence)
    (h : state.mode ≠ .active → state.Counts cadence history) :
    let decision := rule.decide state evaluation cadence
    decision.Confirms cadence (requiredSlots rule.duration cadence).toNat state evaluation history ∧
      (decision.next.mode ≠ .active → decision.next.Counts cadence
        (if evaluation.leavesTrace then evaluation :: history else history)) := by
  have hpositive := @requiredSlots_pos cadence rule.duration hcadence
  obtain ⟨required, hrequired⟩ : ∃ n : Nat, requiredSlots rule.duration cadence = n + 1 :=
    ⟨(requiredSlots rule.duration cadence).toNat - 1, by omega⟩
  have hact := State.observe_active state evaluation
  unfold Rule.decide
  simp only [hrequired, show ((required : Int) + 1).toNat = required + 1 by omega]
  cases hdet : evaluation.isDeterminate with
  | false =>
    obtain ⟨hnormal, hmissed⟩ := Evaluation.normalized_indeterminate hdet
    simp only [hnormal, Bool.not_false, if_true]
    refine ⟨⟨by simp [ConfirmedBreaches, hdet], by simp [hdet], fun _ => rfl⟩, ?_⟩
    intro hmode
    have hcounts := h fun hact => hmode ((State.observe_active state _).mpr hact)
    split
    next htrace =>
      have hgap : 0 < evaluation.normalized.missedSlots := by
        simpa [Evaluation.leavesTrace, hdet, hmissed] using htrace
      exact .of_not_pending (state.observe_gap hgap) (by simp [hdet])
    next htrace =>
      have hgap : evaluation.normalized.missedSlots = 0 := by
        simpa [Evaluation.leavesTrace, hdet, hmissed] using htrace
      exact hcounts.observe hgap _
  | true =>
    have hnormal : evaluation.normalized = evaluation := if_pos hdet
    have htrace : evaluation.leavesTrace = true := by simp [Evaluation.leavesTrace, hdet]
    simp only [hnormal, hdet, hact, htrace, Bool.not_true, Bool.false_eq_true, if_false, if_true]
    cases hbreached : evaluation.breached with
    | false =>
      simp only [Bool.false_eq_true, if_false, Bool.not_false, if_true]
      split
      all_goals
        refine ⟨⟨by simp [ConfirmedBreaches, hbreached, recoverIncident],
          by simp [recoverIncident, *], by simp [hdet]⟩, fun _ => ?_⟩
        exact .of_not_pending nofun fun _ => hbreached
    | true =>
      simp only [Bool.not_true, Bool.false_eq_true, if_false, if_true]
      split
      next hmode =>
        refine ⟨⟨by simp [hmode], by simp [hbreached], fun _ => rfl⟩, fun hnext => ?_⟩
        exact absurd (hact.mpr hmode) hnext
      next hmode =>
        -- The count after this breach says whether there are enough.
        have hcounts := State.Counts.confirmBreach (fun hgap => (h hmode).observe hgap
          evaluation.value) hdet hbreached
        have hwindow := hcounts required evaluation.slot
        rw [State.confirmBreach_mode, (State.confirmBreach_counted _ _ _).1] at hwindow
        simp only [true_and, and_true] at hwindow hcounts
        generalize State.confirmBreach _ evaluation cadence = pending at hwindow hcounts ⊢
        split
        next hbelow =>
          have hopen := mt hwindow.mp (by omega)
          exact ⟨⟨by simp [hopen], by simp [hbreached], fun _ => rfl⟩, fun _ => hcounts⟩
        next hreached =>
          have hopen := hwindow.mpr (by omega)
          obtain ⟨hnext, -, -, -, ⟨htrans, -⟩ | ⟨htrans, -⟩⟩ :=
            rule.openIncident_spec pending evaluation
          all_goals
            refine ⟨⟨by simp [htrans, hmode, hopen], by simp [htrans, hmode],
              by simp [hdet]⟩, fun h => absurd hnext h⟩

/-- The count after a history. -/
theorem Rule.counts_after (rule : Rule) (hcadence : 0 < cadence) : ∀ history : List Evaluation,
    (rule.after cadence history).mode ≠ .active →
      (rule.after cadence history).Counts cadence (history.filter (·.leavesTrace))
  | [], _ => fun _ _ => iff_of_false id nofun
  | evaluation :: older, hmode => by
    rw [List.filter_cons]
    exact (rule.decide_confirms hcadence (rule.counts_after hcadence older)).2 hmode

end Confirmation

/-- After every history an evaluation opens an incident exactly if none is active and it ends as
many confirmed breaches as the rule asks for.  An active incident is recovered from exactly at a
determinate evaluation that is no breach, and one that is not determinate changes nothing. -/
theorem incident_opens_iff (rule : Rule) {cadence : Int} (hcadence : 0 < cadence)
    (evaluation : Evaluation) (older : List Evaluation) :
    (rule.decide (rule.after cadence older) evaluation cadence).Confirms cadence
      (requiredSlots rule.duration cadence).toNat (rule.after cadence older) evaluation
      (older.filter (·.leavesTrace)) :=
  (rule.decide_confirms hcadence (rule.counts_after hcadence older)).1

namespace Breaches

/-- A rule that asks for two breaches, a minute apart. -/
def rule : Rule :=
  { tenantId := "t", ruleId := "r", version := 1, evaluationRevision := 1, duration := 2 * minute
    cooldown := 0, channels := [.email] }

/-- An evaluation with a breach, or without data. -/
def evaluation (slot : Instant) (value : Option Rat) : Evaluation :=
  { slot := slot, quality := .sufficient, breached := true, value := value, missedSlots := 0 }

/-- Two breaches around an evaluation without data. -/
def history : List Evaluation :=
  [evaluation (2 * minute) (some 1), evaluation (minute + 1) none, evaluation minute (some 1)]

end Breaches

open Breaches

/-- The second breach opens the incident. -/
theorem incident_opens_iff_second_breach : 0 < minute ∧
    (rule.decide (rule.after minute [evaluation minute (some 1)])
      (evaluation (2 * minute) (some 1)) minute).transition = .opened ∧
    ConfirmedBreaches minute 2 (2 * minute)
      [evaluation (2 * minute) (some 1), evaluation minute (some 1)] := by
  have hopened : (rule.decide (rule.after minute [evaluation minute (some 1)])
      (evaluation (2 * minute) (some 1)) minute).transition = .opened := by decide +kernel
  have hconfirmed := (incident_opens_iff rule (by decide) _ _).opens.mp (.inl hopened)
  exact ⟨by decide, hopened, hconfirmed.2⟩

/-- One of the last two evaluations has no data, and still the incident opens. -/
theorem incident_opens_past_unknown :
    (rule.decide (rule.after minute history.tail)
        (evaluation (2 * minute) (some 1)) minute).transition = .opened ∧
      history.Pairwise (fun newer older => older.slot < newer.slot) ∧
      ¬ConfirmedBreaches minute (requiredSlots rule.duration minute).toNat (2 * minute)
        history := by
  refine ⟨by decide +kernel, by decide, ?_⟩
  rintro ⟨-, -, -, -, -, hdeterminate, -⟩
  cases hdeterminate

end LimnoPulse.Alerts.Evaluator
