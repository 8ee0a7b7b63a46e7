import LimnoPulse.Ingestion.QuarantineReplay

/-!
# The quarantine commands among others

The commands are followed once, for any preorder that relates what other processes
leave: a read finds a row that was stored since the command began, a transition sends
at most one update, and a whole command keeps what every single move keeps.

Main results:

- Theorem `transition_safe`: the one update of a transition, and what was read
  before it.
- Theorem `readOpen_safe`: the rows that a command works on.
-/

namespace LimnoPulse.Ingestion

open StoreProgram

section Commands

variable {encoding : ReplayEncoding} {arguments : CommandArguments}
  {guard : QuarantineOp → QuarantineOutcome → QuarantineStore → Prop}
  {I : QuarantineStore → Prop} {rely guarantee : QuarantineStore → QuarantineStore → Prop}

/-- What is used of the environment. -/
structure Environment (rely guarantee : QuarantineStore → QuarantineStore → Prop) : Prop where
  refl : ∀ s, rely s s
  trans : ∀ s t u, rely s t → rely t u → rely s u
  same : ∀ s, guarantee s s

/-- The row was stored at some time since `s`. -/
def ReadSince (I : QuarantineStore → Prop) (rely : QuarantineStore → QuarantineStore → Prop)
    (key : RowKey) (row : QuarantineFields) (s t : QuarantineStore) : Prop :=
  ∃ u, rely s u ∧ rely u t ∧ I u ∧ u.rows key = some row

section

variable (henv : Environment rely guarantee)
include henv

/-- Any time may be read. -/
theorem readClock_safe {α : Type} {post : α → QuarantineStore → Prop}
    {next : Time → QuarantineProgram α} {s : QuarantineStore}
    (hnext : ∀ now t, rely s t → I t → (next now).Safe quarantineExec guard I rely guarantee post t) :
    (readClock >>= next).Safe quarantineExec guard I rely guarantee post s := by
  refine Program.Safe.read ?_ henv.same fun t choice now hst ht _ => hnext now t hst ht
  rintro choice t reply u ⟨⟩
  rfl

/-- A row that is found was stored. -/
theorem getQuarantineEntry_safe (tenantId : String) (entryKey : EntryKey) (s : QuarantineStore) :
    (getQuarantineEntry tenantId entryKey).Safe quarantineExec guard I rely guarantee
      (fun result t => rely s t ∧ I t ∧ ∀ row, result = some (some row) →
        row.tenantId = tenantId ∧ ReadSince I rely (tenantId, entryKey) row s t) s := by
  simp only [getQuarantineEntry, Program.perform_bind]
  refine Program.Safe.read ?_ henv.same ?_
  · rintro choice t reply u ⟨⟩
    rfl
  intro t outcome reply hst ht hexec
  match reply with
  | .unavailable | .row none => exact ⟨hst, ht, by simp⟩
  | .row (some row) =>
    have hrow : t.rows (tenantId, entryKey) = some row :=
      answer_eq_row (Prod.mk.inj (Option.some.inj hexec)).1
    dsimp only
    split
    · exact ⟨hst, ht, by simp⟩
    · next htenant =>
      refine readClock_safe henv fun now u htu hu => ⟨henv.trans _ _ _ hst htu, hu, ?_⟩
      intro found hfound
      split at hfound <;> cases hfound
      exact ⟨not_not.mp htenant, t, hst, htu, ht, hrow⟩

/-- At most one update, for an open row of the expected version. -/
theorem transition_safe {arguments : TransitionArguments}
    {post : Except TransitionError Unit → QuarantineStore → Prop} {s : QuarantineStore}
    (hfail : ∀ error t, rely s t → post (.error error) t)
    (hupdate : ∀ row u t, ReadSince I rely arguments.update.key row s u → row.status = .opened →
      row.version = arguments.expectedVersion → arguments.target ≠ .opened →
      (arguments.target = .replayed ↔ arguments.replayedIngressId.isSome = true) →
      rely u t → I t → ∀ choice reply v, guard (.updateStatus arguments.update) choice t →
      quarantineExec (.updateStatus arguments.update) choice t = some (reply, v) →
      I v ∧ guarantee t v ∧ (reply = .committed → post (.ok ()) v) ∧
        (reply ≠ .committed → ∀ error, post (.error error) v)) :
    (transitionQuarantineEntry encoding.toTelemetryEncoding arguments).Safe quarantineExec guard I
      rely guarantee post s := by
  unfold transitionQuarantineEntry
  split
  · exact hfail _ s (henv.refl s)
  · next hpaired =>
    refine Program.Safe.bind (getQuarantineEntry_safe henv _ _ s) ?_
    rintro result u ⟨hsu, -, hread⟩
    match result with
    | none | some none => exact hfail _ u hsu
    | some (some row) =>
      obtain ⟨-, hread⟩ := hread row rfl
      dsimp only
      split
      · exact hfail _ u hsu
      · next hopen =>
        split
        · exact hfail _ u hsu
        · next hver =>
          split
          · exact hfail _ u hsu
          · intro t hut ht choice reply v hguard hexec
            rw [not_or, not_not] at hopen
            obtain ⟨hv, hguar, hok, herror⟩ := hupdate row u t hread hopen.1
              (not_not.mp hver) hopen.2 (not_not.mp hpaired) hut ht choice reply v hguard hexec
            refine ⟨hv, hguar, ?_⟩
            match reply with
            | .committed => exact hok rfl
            | .conflict | .unavailable => exact herror (by simp) _

/-- The rows that are read are the open ones. -/
theorem readOpen_safe {tenantId : String} {Q : QuarantineFields → QuarantineStore → Prop}
    (hstable : ∀ row s t, Q row s → rely s t → I t → Q row t)
    (hread : ∀ key row s, I s → s.rows (tenantId, key) = some row → row.tenantId = tenantId →
      row.status = .opened → Q row s) :
    ∀ (keys : List EntryKey) (report : Report) (s : QuarantineStore), I s →
      (readOpen tenantId keys report).Safe quarantineExec guard I rely guarantee
        (fun result t => rely s t ∧ I t ∧ ∀ rows, result.1 = some rows → ∀ row ∈ rows, Q row t) s := by
  intro keys
  induction keys with
  | nil =>
    intro report s hs
    exact ⟨henv.refl s, hs, by simp⟩
  | cons key keys ih =>
    intro report s hs
    unfold readOpen
    refine Program.Safe.bind (getQuarantineEntry_safe henv _ _ s) ?_
    rintro result t ⟨hst, ht, hfound⟩
    have hrest : ∀ report, (readOpen tenantId keys report).Safe quarantineExec guard I rely
        guarantee (fun result v => rely s v ∧ I v ∧ rely t v ∧
          ∀ rows, result.1 = some rows → ∀ row ∈ rows, Q row v) t := fun report =>
      Program.Safe.mono (fun _ v h => ⟨henv.trans _ _ _ hst h.1, h.2.1, h.1, h.2.2⟩) (ih report t ht)
    match result with
    | none => exact ⟨hst, ht, by simp⟩
    | some none => exact Program.Safe.mono (fun _ _ h => ⟨h.1, h.2.1, h.2.2.2⟩) (hrest _)
    | some (some row) =>
      obtain ⟨htenant, u, -, hut, hu, hrow⟩ := hfound row rfl
      dsimp only
      split
      · exact Program.Safe.mono (fun _ _ h => ⟨h.1, h.2.1, h.2.2.2⟩) (hrest _)
      · next hopen =>
        have hQ : Q row t :=
          hstable row u t (hread key row u hu hrow htenant (not_not.mp hopen)) hut ht
        refine Program.Safe.bind (hrest report) ?_
        rintro ⟨found, report'⟩ v ⟨hsv, hv, htv, hrows⟩
        refine ⟨hsv, hv, ?_⟩
        intro rows hsome other hother
        obtain ⟨tail, rfl, rfl⟩ := Option.map_eq_some_iff.mp hsome
        rcases List.mem_cons.mp hother with rfl | hother
        · exact hstable _ t v hQ htv hv
        · exact hrows tail rfl other hother

end

/-- A loop keeps what each step keeps. -/
theorem loop_safe {β : Type} {P : Report → QuarantineStore → Prop}
    {step : β → Report → QuarantineProgram Report} {loop : List β → Report → QuarantineProgram Report}
    (hnil : ∀ report, loop [] report = pure report)
    (hcons : ∀ x xs report, loop (x :: xs) report = do
      let report ← step x report
      if report.error.isSome then pure report else loop xs report) :
    ∀ {xs : List β} {report : Report} {s : QuarantineStore},
      (∀ x ∈ xs, ∀ report s, P report s →
        (step x report).Safe quarantineExec guard I rely guarantee P s) → P report s →
      (loop xs report).Safe quarantineExec guard I rely guarantee P s := by
  intro xs
  induction xs with
  | nil =>
    intro report s _ hP
    rw [hnil]
    exact hP
  | cons x xs ih =>
    intro report s hstep hP
    rw [hcons]
    refine Program.Safe.bind (hstep x List.mem_cons_self report s hP) ?_
    intro report' t hP'
    split
    · exact hP'
    · exact ih (fun other hother => hstep other (List.mem_cons_of_mem _ hother)) hP'

end Commands

end LimnoPulse.Ingestion
