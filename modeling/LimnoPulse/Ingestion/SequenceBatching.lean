import LimnoPulse.Ingestion.IngestState
import Mathlib.Data.List.Dedup
import Mathlib.Data.List.Induction

/-!
# Sequence events and batching

Within a message an event follows the last pair that was not late; between messages it
follows the stored mark, which is the greatest pair.  The two differ after a second
pair of one instant: it is late, but it raises the mark.

Main results:

- Theorem `latest_eq_raise`: the last pair that was not late is the greatest one, if no
  instant has a second, greater pair.
- Theorem `classify_batches`: then the events do not depend on the batching.
- Theorem `classify_batches_same_instant`: with two pairs of one instant they do.
-/

namespace LimnoPulse.Ingestion

variable {componentId : String} {previous : Option (Time × Int)} {pair : Time × Int}

/-- A pair as the classification compares it. -/
def toPair (pair : Time × Nat) : Time × Int := (pair.1, pair.2)

/-- The pair that the classification starts from. -/
def observedPair (state : Option ComponentIngestState) : Option (Time × Int) :=
  state.bind fun state => state.lastObservedAt.bind fun observedAt =>
    state.lastObservedSequence.map fun sequence => (observedAt, sequence)

/-- The greater one of a stored pair and a new one. -/
def raisePair (stored : Option (Time × Int)) (pair : Time × Int) : Option (Time × Int) :=
  if stored.all fun held => decide (held.1 < pair.1 ∨ held.1 = pair.1 ∧ held.2 < pair.2) then some pair
  else stored

/-- The state of a component after a mark. -/
def advanceObserved (state : Option ComponentIngestState) :
    Option (Time × Nat) → Option ComponentIngestState
  | none => state
  | some mark => (raisePair (observedPair state) (toPair mark)).map fun (observedAt, sequence) =>
    { state.getD ⟨none, none, none, none⟩ with
      lastObservedAt := some observedAt
      lastObservedSequence := some sequence }

/-- The stored pair is raised. -/
theorem observedPair_advanceObserved (state : Option ComponentIngestState) (mark : Time × Nat) :
    observedPair (advanceObserved state (some mark)) =
      raisePair (observedPair state) (toPair mark) := by
  rw [advanceObserved]
  cases raisePair (observedPair state) (toPair mark) <;> rfl

/-- Raising twice. -/
theorem raisePair_raisePair (a b : Time × Int) :
    raisePair (raisePair previous a) b = (raisePair (some a) b).elim previous (raisePair previous) := by
  cases previous with
  | none => grind [raisePair]
  | some held => grind [raisePair]

/-- Raising step by step is raising once. -/
theorem foldl_raisePair : ∀ (pairs : List (Time × Int)) (stored : Option (Time × Int)),
    pairs.foldl raisePair stored = (pairs.foldl raisePair none).elim stored (raisePair stored)
  | [], _ => rfl
  | pair :: pairs, stored => by
    rw [List.foldl_cons, List.foldl_cons, foldl_raisePair pairs (raisePair stored pair),
      show raisePair none pair = some pair from rfl, foldl_raisePair pairs (some pair)]
    cases pairs.foldl raisePair none with
    | none => rfl
    | some greatest => exact raisePair_raisePair pair greatest

/-- The pairs of a message. -/
def pairsOf (accepted : List CanonicalObservation) : List (Time × Nat) :=
  accepted.filterMap fun o =>
    o.observation.sequence.map fun sequence => (o.observation.observedAt, sequence)

/-- Unskewed pairs of one component. -/
def Sequenced (componentId : String) (accepted : List CanonicalObservation) : Prop :=
  ∀ o ∈ accepted, o.resolved.componentId = componentId ∧
    o.observation.sequence.isSome = true ∧ isSkewed o = false

/-- The events of messages, marked one by one. -/
def batchEvents (componentId : String) :
    Option ComponentIngestState → List (List CanonicalObservation) → List SequenceEvent
  | _, [] => []
  | state, accepted :: messages =>
    classifyComponentSequence state (pairsOf accepted) ++
      batchEvents componentId
        (advanceObserved state ((bestPairs accepted).lookup componentId).join) messages

/-- The greater of two pairs. -/
theorem raisePair_some (a b : Time × Nat) :
    raisePair (some (toPair a)) (toPair b) = some (toPair (if pairLt a b then b else a)) := by
  have hlt : pairLt a b = true ↔ a.1 < b.1 ∨ a.1 = b.1 ∧ a.2 < b.2 := by simp [pairLt]
  simp only [raisePair, toPair, Option.all_some, decide_eq_true_eq, Int.ofNat_lt, ← hlt]
  split <;> rfl

/-- The mark of a message is its greatest pair. -/
theorem bestPairs_eq {accepted : List CanonicalObservation} (h : Sequenced componentId accepted) :
    bestPairs accepted = [] ∧ pairsOf accepted = [] ∨
      ∃ best, bestPairs accepted = [(componentId, some best)] ∧
        ((pairsOf accepted).map toPair).foldl raisePair none = some (toPair best) := by
  induction accepted using List.reverseRecOn with
  | nil => exact .inl ⟨rfl, rfl⟩
  | append_singleton accepted o ih =>
    obtain ⟨hcomp, hseq, hskewed⟩ := h o (by simp)
    obtain ⟨sequence, hseq⟩ := Option.isSome_iff_exists.mp hseq
    have hpairs : pairsOf (accepted ++ [o]) =
        pairsOf accepted ++ [(o.observation.observedAt, sequence)] := by
      simp [pairsOf, hseq]
    rw [hpairs, bestPairs, List.foldl_append, ← bestPairs, List.map_append, List.foldl_append]
    rcases ih fun other hother => h other (by simp [hother]) with ⟨hnone, hempty⟩ | ⟨best, hsome, hfold⟩
    · rw [hnone, hempty]
      refine .inr ⟨(o.observation.observedAt, sequence), ?_, rfl⟩
      simp [upsert, hseq, hskewed, hcomp]
    · rw [hsome, hfold]
      refine .inr ⟨_, ?_, raisePair_some best (o.observation.observedAt, sequence)⟩
      by_cases hlt : pairLt best (o.observation.observedAt, sequence) = true <;>
        simp [upsert, hlt, hseq, hskewed, hcomp]

/-- A message raises the stored pair to its greatest one. -/
theorem observedPair_message {accepted : List CanonicalObservation}
    (h : Sequenced componentId accepted) (state : Option ComponentIngestState) :
    observedPair (advanceObserved state ((bestPairs accepted).lookup componentId).join) =
      ((pairsOf accepted).map toPair).foldl raisePair (observedPair state) := by
  rw [foldl_raisePair]
  rcases bestPairs_eq h with ⟨hnone, hempty⟩ | ⟨best, hsome, hfold⟩
  · rw [hnone, hempty]
    rfl
  · rw [hsome, hfold, List.lookup_cons_self]
    exact observedPair_advanceObserved state best

/-! ## Events -/

/-- The last pair that was not late. -/
def latest (previous : Option (Time × Int)) (pairs : List (Time × Int)) : Option (Time × Int) :=
  pairs.foldl (fun previous pair =>
    if sequenceEvent previous pair = .late then previous else some pair) previous

/-- Events go on from the last pair. -/
theorem sequenceEvents_append (later : List (Time × Int)) :
    ∀ (pairs : List (Time × Int)) (previous : Option (Time × Int)),
      sequenceEvents previous (pairs ++ later) =
        sequenceEvents previous pairs ++ sequenceEvents (latest previous pairs) later
  | [], _ => rfl
  | pair :: pairs, previous => by
    simp only [List.cons_append, sequenceEvents, latest, List.foldl_cons]
    rw [sequenceEvents_append later pairs, latest]

/-- No second pair at an instant, nor at the previous one. -/
structure OnePerInstant (previous : Option (Time × Int)) (pairs : List (Time × Int)) : Prop where
  distinct : pairs.Pairwise fun a b => a.1 ≠ b.1
  previous_ge : ∀ held, previous = some held → ∀ pair ∈ pairs, pair.1 = held.1 → pair.2 ≤ held.2

/-- One pair: what is not late is the greater one. -/
theorem OnePerInstant.step {pairs : List (Time × Int)} (h : OnePerInstant previous (pair :: pairs)) :
    (if sequenceEvent previous pair = .late then previous else some pair) = raisePair previous pair ∧
      OnePerInstant (raisePair previous pair) pairs := by
  obtain ⟨hlater, hdistinct⟩ := List.pairwise_cons.mp h.distinct
  refine ⟨?_, hdistinct, fun held hheld other hother => ?_⟩
  · cases previous with
    | none => rfl
    | some held =>
      have hge := h.previous_ge held rfl pair List.mem_cons_self
      grind [sequenceEvent, raisePair]
  · have hge := fun held hprev => h.previous_ge held hprev other (List.mem_cons_of_mem _ hother)
    have hne := hlater other hother
    grind [raisePair]

/-- The last pair that was not late is the greatest. -/
theorem latest_eq_raise : ∀ {pairs later : List (Time × Int)} {previous : Option (Time × Int)},
    OnePerInstant previous (pairs ++ later) →
      latest previous pairs = pairs.foldl raisePair previous ∧
        OnePerInstant (pairs.foldl raisePair previous) later
  | [], _, _, h => ⟨rfl, h⟩
  | pair :: pairs, later, previous, h => by
    obtain ⟨hstep, hrest⟩ := OnePerInstant.step h
    obtain ⟨hlatest, hlater⟩ := latest_eq_raise hrest
    refine ⟨?_, hlater⟩
    rw [latest, List.foldl_cons, List.foldl_cons, hstep]
    exact hlatest

/-- Sorted pairs stay as they are. -/
theorem classify_eq {state : Option ComponentIngestState} {pairs : List (Time × Nat)}
    (h : pairs.Pairwise fun a b => pairLt a b = true) :
    classifyComponentSequence state pairs =
      sequenceEvents (observedPair state) (pairs.map toPair) := by
  have hnodup : pairs.Nodup := by
    refine h.imp ?_
    rintro a b hlt rfl
    simp [pairLt] at hlt
  have hmerge : pairs.mergeSort (fun a b => !pairLt b a) = pairs :=
    List.mergeSort_of_pairwise (h.imp fun hlt => by grind [pairLt])
  simp only [classifyComponentSequence, hnodup.dedup, hmerge]
  rfl

/-- The events of a component's sorted pairs do not depend on how they are split into messages, if
no instant has a second, greater pair. -/
theorem classify_batches {state : Option ComponentIngestState}
    {messages : List (List CanonicalObservation)}
    (hmessages : ∀ accepted ∈ messages, Sequenced componentId accepted)
    (hsorted : (messages.flatMap pairsOf).Pairwise fun a b => pairLt a b = true)
    (hinstants : OnePerInstant (observedPair state) ((messages.flatMap pairsOf).map toPair)) :
    classifyComponentSequence state (messages.flatMap pairsOf) =
      batchEvents componentId state messages := by
  induction messages generalizing state with
  | nil => exact classify_eq hsorted
  | cons accepted messages ih =>
    have hobserved := observedPair_message (hmessages accepted List.mem_cons_self) state
    rw [List.flatMap_cons, List.map_append] at hinstants
    obtain ⟨hlatest, hlater⟩ := latest_eq_raise hinstants
    rw [List.flatMap_cons] at hsorted
    obtain ⟨hfirst, hlast, -⟩ := List.pairwise_append.mp hsorted
    have hrest := ih (fun other hother => hmessages other (List.mem_cons_of_mem _ hother)) hlast
      (hobserved ▸ hlater)
    rw [batchEvents, ← hrest, List.flatMap_cons, classify_eq hsorted, List.map_append,
      sequenceEvents_append, hlatest, classify_eq hfirst, classify_eq hlast, hobserved]

namespace SampleSequence

/-- A component. -/
def probe : String := "cmp_00000000000000000000000000000001"

/-- An accepted observation, of the instant 0 or later. -/
def observation (later : Bool) (sequence : Nat) : CanonicalObservation where
  eventId := "event"
  sourceEventId := none
  source := ⟨none, "https_direct", .https, none, 0⟩
  resolved := ⟨"t", "site_00000000000000000000000000000001", "ast_00000000000000000000000000000001",
    "dep_00000000000000000000000000000001", "dev", probe, none⟩
  observation := ⟨"water.dissolved_oxygen", 7, .float, "mg/L", "mg/L", if later then 1 else 0,
    some sequence⟩
  delivery := ⟨0, false, false⟩
  quality := ⟨.valid, [], []⟩
  mapping := {}
  sourceMetadata := []
  valid := by cases later <;> simp only [CanonicalFields.valid] <;> decide

end SampleSequence

/-- Two messages with one pair each. -/
theorem classify_batches_of_two :
    batchEvents SampleSequence.probe none
      [[SampleSequence.observation false 1], [SampleSequence.observation true 2]] =
        [.first, .contiguous] := by
  have hsorted : ([[SampleSequence.observation false 1],
      [SampleSequence.observation true 2]].flatMap pairsOf).Pairwise
        fun a b => pairLt a b = true := by decide
  refine (classify_batches ?_ hsorted ⟨by decide, by rintro held ⟨⟩⟩).symm.trans
    (classify_eq hsorted)
  simp [Sequenced, SampleSequence.observation, isSkewed]

/-- The second pair of an instant is late, but the next message follows it. -/
theorem classify_batches_same_instant :
    let messages := [[SampleSequence.observation false 1, SampleSequence.observation false 5],
      [SampleSequence.observation true 6]]
    messages.flatMap pairsOf = [(0, 1), (0, 5), (1, 6)] ∧
      classifyComponentSequence none (messages.flatMap pairsOf) = [.first, .late, .gap] ∧
      batchEvents SampleSequence.probe none messages = [.first, .late, .contiguous] := by
  refine ⟨rfl, classify_eq (by decide), ?_⟩
  rw [batchEvents, batchEvents, classify_eq (by decide), classify_eq (by decide)]
  decide +kernel

end LimnoPulse.Ingestion
