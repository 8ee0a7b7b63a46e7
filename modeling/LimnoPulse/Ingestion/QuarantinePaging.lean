import LimnoPulse.Ingestion.ReplayFidelity

/-!
# Paging through the quarantine

A list of quarantine rows is read by queries whose pages end where the store decides, and is
filtered afterwards.  The next query goes on after the last row read, the next call after the
last row returned.

Main results:

- Theorem `listLoop_lists`: a call returns the next visible rows, and its cursor leaves the
  others.
- Theorem `listings_complete`: the calls end, and their pages are the visible rows in order.
-/

namespace LimnoPulse.Ingestion

/-- `_FIRST_KEY` -/
def firstKey : String := "0"

/-- The rows of a tenant by sort key, which begins with a timestamp. -/
structure Partition (sortKey : EntryKey → String) where
  rows : List QuarantineFields
  sorted : rows.Pairwise fun row later => sortKey row.entryKey < sortKey later.entryKey
  first : ∀ row ∈ rows, firstKey < sortKey row.entryKey

/-- How many rows end a page, and whether the end is told. -/
structure Boundary where
  rows : Nat
  final : Bool

/-- Rows and a cursor. -/
structure QuarantinePage where
  entries : List QuarantineFields
  nextAfterSk : Option String

/-- What a listing asks for. -/
structure QuarantineListing where
  now : Time
  status : Option QuarantineEntryStatus
  reason : Option String
  limit : Nat

/-- `_visible` with `_matches`. -/
def QuarantineListing.visible (listing : QuarantineListing) (entry : QuarantineFields) : Bool :=
  isLive entry listing.now && listing.status.all (entry.status = ·) &&
    listing.reason.all (entry.reason = ·)

section Listing

variable {sortKey : EntryKey → String} (partition : Partition sortKey)

/-- The rows after a sort key. -/
def Partition.after (key : String) : List QuarantineFields :=
  partition.rows.filter fun row => key < sortKey row.entryKey

/-- `_page_sync`: rows after the cursor, and the last sort key unless the end is told. -/
def pageSync (boundary : Boundary) (cursor : Option String) (limit : Nat) :
    List QuarantineFields × Option String :=
  let lower := cursor.getD firstKey
  let rest := partition.after lower
  let items := rest.take (min boundary.rows limit)
  (items, if boundary.final && items.length == rest.length then none
    else some ((items.getLast?.map fun row => sortKey row.entryKey).getD lower))

/-- The page to return, or the rows so far. -/
def collectPage (listing : QuarantineListing) (sortKey : EntryKey → String) (resume : Option String) :
    List QuarantineFields → List QuarantineFields → QuarantinePage ⊕ List QuarantineFields
  | [], entries => .inr entries
  | entry :: items, entries =>
    if listing.visible entry then
      if entries.length + 1 = listing.limit then
        let remaining := resume.isSome || items.any listing.visible
        .inl ⟨entries ++ [entry], if remaining then some (sortKey entry.entryKey) else none⟩
      else collectPage listing sortKey resume items (entries ++ [entry])
    else collectPage listing sortKey resume items entries

/-- The queries of a call, and the boundaries that are left. -/
def listLoop (listing : QuarantineListing) : (fuel : Nat) → List Boundary → (cursor : Option String) →
    (entries : List QuarantineFields) → Option (QuarantinePage × List Boundary)
  | 0, _, _, _ => none
  | fuel + 1, boundaries, cursor, entries =>
    let (items, resume) := pageSync partition (boundaries.headD ⟨listing.limit + 1, true⟩) cursor
      (listing.limit + 1)
    match collectPage listing sortKey resume items entries with
    | .inl page => some (page, boundaries.tail)
    | .inr entries =>
      if resume.isNone then some (⟨entries, none⟩, boundaries.tail)
      else listLoop listing fuel boundaries.tail resume entries

/-- `list_quarantine_entries`, or the error of a bad limit. -/
def listQuarantineEntries (listing : QuarantineListing) (fuel : Nat) (boundaries : List Boundary)
    (afterSk : Option String) : Option (Except String (QuarantinePage × List Boundary)) :=
  if listing.limit < 1 then some (.error "limit must be at least 1")
  else (listLoop partition listing fuel boundaries afterSk []).map .ok

/-- Calls from cursor to cursor. -/
def listings (listing : QuarantineListing) : (fuel : Nat) → List Boundary → (afterSk : Option String) →
    Option (Except String (List (List QuarantineFields)))
  | 0, _, _ => none
  | fuel + 1, boundaries, afterSk =>
    match listQuarantineEntries partition listing (fuel + 1) boundaries afterSk with
    | none => none
    | some (.error failure) => some (.error failure)
    | some (.ok (⟨entries, none⟩, _)) => some (.ok [entries])
    | some (.ok (⟨entries, some sk⟩, boundaries)) =>
      (listings listing fuel boundaries (some sk)).map (·.map (entries :: ·))

variable {partition} {boundary : Boundary} {listing : QuarantineListing} {cursor : Option String}

/-- What comes after a row are the rows that follow it. -/
theorem Partition.after_of_append {key : String} {row : QuarantineFields}
    {before rest : List QuarantineFields} (h : partition.after key = before ++ row :: rest) :
    partition.after (sortKey row.entryKey) = rest := by
  have hlower : key < sortKey row.entryKey := by
    have hmem : row ∈ partition.after key := by simp [h]
    simpa [Partition.after] using (List.mem_filter.mp hmem).2
  have hafter : partition.after (sortKey row.entryKey) =
      (partition.after key).filter fun later => sortKey row.entryKey < sortKey later.entryKey := by
    rw [Partition.after, Partition.after, List.filter_filter]
    refine List.filter_congr fun later _ => ?_
    by_cases hlater : sortKey row.entryKey < sortKey later.entryKey
    · simp [hlater, hlower.trans hlater]
    · simp [hlater]
  have hsorted : (before ++ row :: rest).Pairwise fun row later =>
      sortKey row.entryKey < sortKey later.entryKey := h ▸ partition.sorted.filter _
  obtain ⟨-, hrow, hbefore⟩ := List.pairwise_append.mp hsorted
  rw [hafter, h, List.filter_append, List.filter_cons_of_neg (by simp),
    List.filter_eq_nil_iff.mpr fun other hother => ?_, List.nil_append]
  · exact List.filter_eq_self.mpr fun later hlater =>
      decide_eq_true ((List.pairwise_cons.mp hrow).1 later hlater)
  · rw [decide_eq_true_eq]
    exact (hbefore other hother row List.mem_cons_self).not_gt

/-- The rows that a cursor leaves. -/
def Partition.remaining (partition : Partition sortKey) (cursor : Option String) :
    List QuarantineFields :=
  cursor.elim [] partition.after

/-- A page and what its cursor leaves are what there was. -/
theorem pageSync_reads (boundary : Boundary) (cursor : Option String) (limit : Nat) :
    partition.after (cursor.getD firstKey) = (pageSync partition boundary cursor limit).1 ++
      partition.remaining (pageSync partition boundary cursor limit).2 := by
  simp only [pageSync]
  generalize hrest : partition.after (cursor.getD firstKey) = rest
  generalize min boundary.rows limit = count
  split
  next hfinal =>
    simp only [Bool.and_eq_true, beq_iff_eq, List.length_take] at hfinal
    rw [List.take_of_length_le (by omega), Partition.remaining, Option.elim_none, List.append_nil]
  next =>
    rcases (rest.take count).eq_nil_or_concat with hnil | ⟨before, row, hrow⟩
    · simp [hnil, Partition.remaining, hrest]
    · have hsplit : partition.after (cursor.getD firstKey) = before ++ row :: rest.drop count := by
        rw [hrest]
        conv_lhs => rw [← List.take_append_drop count rest, hrow]
        simp
      rw [hrow]
      simpa [Partition.remaining, Partition.after_of_append hsplit] using (hrest ▸ hsplit)

/-- All rows are collected, or one reaches the limit. -/
theorem collectPage_cases (resume : Option String) : ∀ items entries : List QuarantineFields,
    entries.length < listing.limit →
    (collectPage listing sortKey resume items entries = .inr (entries ++ items.filter listing.visible) ∧
      (entries ++ items.filter listing.visible).length < listing.limit) ∨
    ∃ before entry later, items = before ++ entry :: later ∧ listing.visible entry = true ∧
      collectPage listing sortKey resume items entries =
        .inl ⟨entries ++ (before ++ [entry]).filter listing.visible,
          if resume.isSome || later.any listing.visible then some (sortKey entry.entryKey) else none⟩
  | [], entries, hlimit => .inl ⟨by simp [collectPage], by simpa⟩
  | entry :: items, entries, hlimit => by
    unfold collectPage
    split
    next hvisible =>
      split
      next hfull => exact .inr ⟨[], entry, items, rfl, hvisible, by simp [hvisible]⟩
      next hfull =>
        have hnext : (entries ++ [entry]).length < listing.limit := by
          rw [List.length_append, List.length_singleton]
          omega
        rcases collectPage_cases resume items (entries ++ [entry]) hnext with
          h | ⟨before, last, later, rfl, hlast, h⟩
        · exact .inl (by simpa [hvisible] using h)
        · exact .inr ⟨entry :: before, last, later, rfl, hlast, by simp [h, hvisible]⟩
    next hhidden =>
      rcases collectPage_cases resume items entries hlimit with h | ⟨before, last, later, rfl, hlast, h⟩
      · exact .inl (by simpa [hhidden] using h)
      · exact .inr ⟨entry :: before, last, later, rfl, hlast, by simp [h, hhidden]⟩

/-- The visible rows up to the cursor, which leaves fewer. -/
structure QuarantinePage.Lists (page : QuarantinePage) (partition : Partition sortKey)
    (listing : QuarantineListing) (entries rest : List QuarantineFields) : Prop where
  entries : page.entries ++ (partition.remaining page.nextAfterSk).filter listing.visible =
    entries ++ rest.filter listing.visible
  fewer : ∀ sk, page.nextAfterSk = some sk → (partition.after sk).length < rest.length

/-- A query whose page reaches the limit ends the call. -/
theorem collectPage_lists {resume : Option String} {before later entries : List QuarantineFields}
    {entry : QuarantineFields} (hvisible : listing.visible entry = true)
    (hreads : partition.after (cursor.getD firstKey) =
      before ++ entry :: (later ++ partition.remaining resume)) :
    QuarantinePage.Lists ⟨entries ++ (before ++ [entry]).filter listing.visible,
      if resume.isSome || later.any listing.visible then some (sortKey entry.entryKey) else none⟩
      partition listing entries (partition.after (cursor.getD firstKey)) := by
  have hafter := Partition.after_of_append hreads
  constructor
  · split
    next => simp [Partition.remaining, hafter, hreads, hvisible]
    next hnone =>
      simp only [Bool.or_eq_true, not_or, Bool.not_eq_true, Option.isSome_eq_false_iff,
        Option.isNone_iff_eq_none] at hnone
      have hlater : later.filter listing.visible = [] := by
        simpa [List.filter_eq_nil_iff] using hnone.2
      simp [Partition.remaining, hreads, hnone.1, hlater, hvisible]
  · intro sk hsk
    split at hsk <;> cases hsk
    simp only [hafter, hreads, List.length_append, List.length_cons]
    omega

/-- A query takes a boundary, reads a row, or finds the end. -/
theorem query_moves (boundaries : List Boundary) {items : List QuarantineFields} {key : String}
    (hpage : pageSync partition (boundaries.headD ⟨listing.limit + 1, true⟩) cursor
      (listing.limit + 1) = (items, some key)) :
    boundaries.tail.length + (partition.after key).length <
      boundaries.length + (partition.after (cursor.getD firstKey)).length := by
  have hreads := @pageSync_reads _ partition (boundaries.headD ⟨listing.limit + 1, true⟩) cursor
    (listing.limit + 1)
  rw [hpage] at hreads
  rw [hreads, List.length_append]
  cases boundaries with
  | cons boundary boundaries =>
    simp only [Partition.remaining, Option.elim_some, List.tail_cons, List.length_cons]
    omega
  | nil =>
    cases items with
    | cons item items => simp [Partition.remaining]
    | nil =>
      simp only [pageSync, List.headD_nil, Nat.min_self, Prod.mk.injEq, List.take_eq_nil_iff] at hpage
      simp [hpage.1.resolve_left (by omega)] at hpage

/-- A call ends and lists the next visible rows. -/
theorem listLoop_lists : ∀ {fuel : Nat} {boundaries : List Boundary} {cursor : Option String}
    {entries : List QuarantineFields}, entries.length < listing.limit →
    boundaries.length + (partition.after (cursor.getD firstKey)).length < fuel →
    ∃ page left, listLoop partition listing fuel boundaries cursor entries = some (page, left) ∧
      left.length ≤ boundaries.length ∧
      page.Lists partition listing entries (partition.after (cursor.getD firstKey))
  | fuel + 1, boundaries, cursor, entries, hlimit, hfuel => by
    have htail := boundaries.length_tail
    have hreads := @pageSync_reads _ partition (boundaries.headD ⟨listing.limit + 1, true⟩) cursor
      (listing.limit + 1)
    have hmoves := @query_moves _ partition listing cursor boundaries
    rw [listLoop]
    generalize pageSync partition (boundaries.headD ⟨listing.limit + 1, true⟩) cursor
      (listing.limit + 1) = answer at hreads hmoves ⊢
    obtain ⟨items, resume⟩ := answer
    rcases @collectPage_cases sortKey listing resume items entries hlimit with
      ⟨hcollect, hlen⟩ | ⟨before, entry, later, rfl, hvisible, hcollect⟩
    · simp only [hcollect]
      cases resume with
      | none =>
        refine ⟨_, boundaries.tail, rfl, by omega, ?_, nofun⟩
        simp [hreads, Partition.remaining]
      | some key =>
        have hmoves := hmoves rfl
        obtain ⟨page, left, hloop, hleft, hlists⟩ :=
          @listLoop_lists fuel boundaries.tail (some key) _ hlen
            (show _ + (partition.after key).length < fuel by omega)
        refine ⟨page, left, hloop, by omega, ?_, fun sk hsk => ?_⟩
        · rw [hlists.entries, hreads, List.filter_append, List.append_assoc]
          rfl
        · have hfewer := hlists.fewer sk hsk
          rw [hreads, List.length_append]
          exact Nat.lt_add_left _ hfewer
    · simp only [hcollect]
      rw [List.append_assoc, List.cons_append] at hreads
      exact ⟨_, boundaries.tail, rfl, by omega, collectPage_lists hvisible hreads⟩

/-- The calls end, and list the visible rows after the cursor. -/
theorem listings_lists (hlimit : 1 ≤ listing.limit) : ∀ {fuel : Nat} {boundaries : List Boundary}
    {cursor : Option String}, boundaries.length + (partition.after (cursor.getD firstKey)).length < fuel →
    ∃ pages, listings partition listing fuel boundaries cursor = some (.ok pages) ∧
      pages.flatten = (partition.after (cursor.getD firstKey)).filter listing.visible
  | fuel + 1, boundaries, cursor, hfuel => by
    obtain ⟨⟨entries, next⟩, left, hloop, hleft, hentries, hfewer⟩ :=
      @listLoop_lists _ partition listing _ boundaries cursor [] hlimit hfuel
    rw [listings, listQuarantineEntries, if_neg (by omega), hloop]
    cases next with
    | none => exact ⟨[entries], rfl, by simpa [Partition.remaining] using hentries⟩
    | some sk =>
      have hfewer := hfewer sk rfl
      obtain ⟨pages, hpages, hflatten⟩ := @listings_lists hlimit fuel left (some sk)
        (show _ + (partition.after sk).length < fuel by omega)
      refine ⟨entries :: pages, by simp [hpages, Except.map], ?_⟩
      rw [List.flatten_cons, hflatten]
      simpa [Partition.remaining] using hentries

end Listing

/-- Whatever the boundaries, calls with the cursor of the call before end, and together return the
visible rows of the partition, each once and in the order of their sort keys. -/
theorem listings_complete {sortKey : EntryKey → String} (partition : Partition sortKey)
    (listing : QuarantineListing) (boundaries : List Boundary) (more : Nat) :
    if listing.limit < 1 then
      listings partition listing (boundaries.length + partition.rows.length + 1 + more) boundaries none =
        some (.error "limit must be at least 1")
    else ∃ pages, listings partition listing (boundaries.length + partition.rows.length + 1 + more)
        boundaries none = some (.ok pages) ∧ pages.flatten = partition.rows.filter listing.visible := by
  have hall : partition.after firstKey = partition.rows :=
    List.filter_eq_self.mpr fun row hrow => decide_eq_true (partition.first row hrow)
  split
  next hlimit => simp [Nat.add_right_comm _ 1, listings, listQuarantineEntries, hlimit]
  next hlimit =>
    rw [← hall]
    exact listings_lists (by omega) (show _ + (partition.after firstKey).length < _ by omega)

namespace SamplePages

/-- The summary row of a fenced message of some time. -/
def row (receivedAt : Time) (status : QuarantineEntryStatus) : QuarantineFields :=
  let envelope := SampleFence.envelope false
  { quarantineFields SampleFence.encoding envelope 0 (-1)
      (summaryContent SampleFence.encoding envelope ⟨.accountRevoked, true⟩) with
    receivedAt, status }

/-- Time and message. -/
def sortKey (key : EntryKey) : String := formatUtcTimestamp key.1 ++ "#" ++ key.2.ingressId

/-- Four rows. -/
def partition : Partition sortKey where
  rows := [row 1 .opened, row 2 .opened, row 3 .replayed, row 4 .opened]
  sorted := by decide +kernel
  first := by decide +kernel

/-- A page of one row, an empty one and one of two rows. -/
def boundaries : List Boundary := [⟨1, false⟩, ⟨0, false⟩, ⟨2, false⟩]

end SamplePages

open SamplePages

/-- The open rows among four, two at a time. -/
theorem listings_complete_of_four_rows : ∃ pages,
    listings partition ⟨0, some .opened, none, 2⟩ 8 boundaries none = some (.ok pages) ∧
      pages.flatten = [row 1 .opened, row 2 .opened, row 4 .opened] :=
  listings_complete partition ⟨0, some .opened, none, 2⟩ boundaries 0

end LimnoPulse.Ingestion
