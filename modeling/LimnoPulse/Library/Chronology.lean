import Mathlib.Data.List.Basic
import Mathlib.Order.Lattice

/-!
# Chronologies of half-open intervals

A chronology is a list of records, newest first, each of which covers a
half-open interval of instants.  The newest record may be open; every older one
has ended before the next one starts.

Main results:

- Theorem `Chronological.disjoint`: no instant lies in two records.
- Theorem `Chronological.head_of_open`: only the newest record can be open.
- Theorem `Chronological.start_le_of_contains`: the record that contains an instant
  starts last among those that start by then.
-/

namespace Chronology

variable {ρ τ : Type} [LinearOrder τ] (start : ρ → τ) (stop : ρ → Option τ)

/-- The instant lies in the record's interval. -/
def Contains (record : ρ) (t : τ) : Prop :=
  start record ≤ t ∧ ∀ e, stop record = some e → t < e

/-- Intervals are nonempty, and each starts at or after all older ends. -/
structure Chronological (records : List ρ) : Prop where
  proper : ∀ record ∈ records, ∀ e, stop record = some e → start record < e
  ordered : records.Pairwise fun newer older => ∃ e, stop older = some e ∧ e ≤ start newer

/-- The end of the newest ended record. -/
def newestStop (records : List ρ) : Option τ := records.findSome? stop

variable {start stop}

namespace Chronological

variable {record a b : ρ} {records : List ρ}

/-- No records. -/
theorem nil : Chronological start stop [] where
  proper := by simp
  ordered := List.Pairwise.nil

theorem tail (h : Chronological start stop (record :: records)) :
    Chronological start stop records where
  proper older holder := h.proper older (List.mem_cons_of_mem _ holder)
  ordered := (List.pairwise_cons.mp h.ordered).2

/-- A newest record after all others have ended. -/
theorem cons (h : Chronological start stop records)
    (hproper : ∀ e, stop record = some e → start record < e)
    (hafter : ∀ older ∈ records, ∃ e, stop older = some e ∧ e ≤ start record) :
    Chronological start stop (record :: records) where
  proper := by
    intro other hother
    rcases List.mem_cons.mp hother with rfl | hother
    · exact hproper
    · exact h.proper other hother
  ordered := List.pairwise_cons.mpr ⟨hafter, h.ordered⟩

/-- Replace the newest record by one with the same start. -/
theorem replace_head {old new : ρ} (h : Chronological start stop (old :: records))
    (hstart : start new = start old) (hproper : ∀ e, stop new = some e → start new < e) :
    Chronological start stop (new :: records) := by
  refine h.tail.cons hproper ?_
  intro older holder
  rw [hstart]
  exact (List.pairwise_cons.mp h.ordered).1 older holder

section

variable (h : Chronological start stop records)
include h

/-- No instant lies in two records. -/
theorem disjoint :
    records.Pairwise fun a b => ∀ t, ¬ (Contains start stop a t ∧ Contains start stop b t) := by
  refine h.ordered.imp ?_
  rintro newer older ⟨e, hstop, hle⟩ t ⟨hnewer, holder⟩
  have hlt : t < e := holder.2 e hstop
  exact absurd (lt_of_lt_of_le hlt hle) (not_lt_of_ge hnewer.1)

/-- Only the newest record can be open. -/
theorem head_of_open (hmem : record ∈ records)
    (hopen : stop record = none) : records.head? = some record := by
  cases records with
  | nil => cases hmem
  | cons =>
    rcases List.mem_cons.mp hmem with rfl | hmem
    · rfl
    · obtain ⟨e, hstop, -⟩ := (List.pairwise_cons.mp h.ordered).1 record hmem
      rw [hopen] at hstop
      cases hstop

/-- Two records are the same, or one ends before the other starts. -/
theorem eq_or_separated (ha : a ∈ records) (hb : b ∈ records) :
    a = b ∨ (∃ e, stop a = some e ∧ e ≤ start b) ∨ (∃ e, stop b = some e ∧ e ≤ start a) := by
  induction records with
  | nil => cases ha
  | cons newest older ih =>
    have hnewest := (List.pairwise_cons.mp h.ordered).1
    rcases List.mem_cons.mp ha with hanew | haold <;>
      rcases List.mem_cons.mp hb with hbnew | hbold
    · exact .inl (hanew.trans hbnew.symm)
    · rw [hanew]
      exact .inr (.inr (hnewest b hbold))
    · rw [hbnew]
      exact .inr (.inl (hnewest a haold))
    · exact ih h.tail haold hbold

/-- The record containing an instant is the last that starts by then. -/
theorem start_le_of_contains (ha : a ∈ records)
    (hb : b ∈ records) {t : τ} (hcontains : Contains start stop a t) (hstart : start b ≤ t) :
    b = a ∨ start b < start a := by
  rcases h.eq_or_separated ha hb with rfl | ⟨e, hstop, hle⟩ | ⟨e, hstop, hle⟩
  · exact .inl rfl
  · have hlt : t < e := hcontains.2 e hstop
    exact absurd (lt_of_lt_of_le hlt (le_trans hle hstart)) (lt_irrefl t)
  · exact .inr (lt_of_lt_of_le (h.proper b hb e hstop) hle)

/-- Records with the same start are the same. -/
theorem eq_of_start_eq (ha : a ∈ records) (hb : b ∈ records)
    (hstart : start a = start b) : a = b := by
  rcases h.eq_or_separated ha hb with heq | ⟨e, hstop, hle⟩ | ⟨e, hstop, hle⟩
  · exact heq
  · have hlt := h.proper a ha e hstop
    exact absurd (lt_of_lt_of_le hlt hle) (by rw [hstart]; exact lt_irrefl _)
  · have hlt := h.proper b hb e hstop
    exact absurd (lt_of_lt_of_le hlt hle) (by rw [hstart]; exact lt_irrefl _)

/-- No record ended later than the newest ended one. -/
theorem stop_le_newestStop (hmem : record ∈ records) {e : τ}
    (hstop : stop record = some e) : ∃ last, newestStop stop records = some last ∧ e ≤ last := by
  induction records with
  | nil => cases hmem
  | cons newest older ih =>
    rcases hnewest : stop newest with _ | last
    · -- An open newest record does not count.
      rcases List.mem_cons.mp hmem with rfl | hmem
      · rw [hnewest] at hstop
        cases hstop
      · obtain ⟨last, hlast, hle⟩ := ih h.tail hmem
        exact ⟨last, by simpa [newestStop, List.findSome?_cons, hnewest] using hlast, hle⟩
    · refine ⟨last, by simp [newestStop, hnewest], ?_⟩
      rcases List.mem_cons.mp hmem with rfl | hmem
      · rw [hnewest] at hstop
        cases hstop
        exact le_refl _
      · obtain ⟨e', hstop', hle⟩ := (List.pairwise_cons.mp h.ordered).1 record hmem
        rw [hstop] at hstop'
        cases hstop'
        exact le_trans hle (le_of_lt (h.proper newest List.mem_cons_self last hnewest))

end

end Chronological

end Chronology
