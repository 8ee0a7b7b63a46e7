import LimnoPulse.Ingestion.ReplayFidelity

/-!
# The identities of quarantine rows

Every text of a quarantine row passes the row's validators, so building the rows of a
message never fails.  Their identifiers count how often a text came before, so they
are different, and the same for every order of the observations and every time.

Main results:

- Theorem `boundedExcerpt_size`: an excerpt stays within its bound, cut or not.
- Theorem `quarantineRows_identified`: the rows of processed and of fenced messages.
-/

namespace LimnoPulse.Ingestion

open StoreProgram JsonText

/-- A cut stays within its bound. -/
theorem takeBytes_size : ∀ (limit : Nat) (chars : List Char),
    (String.ofList (takeBytes limit chars)).utf8ByteSize ≤ limit
  | _, [] => by simp [takeBytes]
  | limit, c :: cs => by
    have hrest := takeBytes_size (limit - c.utf8Size) cs
    rw [takeBytes]
    split
    next hfits =>
      have hcons : String.ofList (c :: takeBytes (limit - c.utf8Size) cs) =
          String.singleton c ++ String.ofList (takeBytes (limit - c.utf8Size) cs) := by
        rw [String.singleton_eq_ofList, ← String.ofList_append]
        rfl
      rw [hcons, String.utf8ByteSize_append, String.utf8ByteSize_singleton]
      omega
    next => simp

theorem boundedPrefix_size (text : String) :
    (boundedPrefix text).1.utf8ByteSize ≤ maxEnvelopeExcerptBytes := by
  unfold boundedPrefix
  split
  next hsize => exact hsize
  next => exact takeBytes_size _ _

/-- The search ends at a length that fits. -/
theorem longestPrefix_fits {fits : Nat → Bool} : ∀ {fuel low high : Nat}, fits low = true →
    fits (longestPrefix fits fuel low high) = true
  | 0, _, _, h => h
  | fuel + 1, low, high, h => by
    simp only [longestPrefix]
    split
    · split
      next hmiddle => exact longestPrefix_fits hmiddle
      next => exact longestPrefix_fits h
    · exact h

/-- An excerpt stays within its bound. -/
theorem boundedExcerpt_size (texts : PythonText) (source : Value Float) :
    (boundedExcerpt texts source).1.utf8ByteSize ≤ maxQuarantineExcerptBytes := by
  simp only [boundedExcerpt]
  generalize print texts.floats .spaced (copy texts 0 source {}).1.sortKeys = text
  split
  next hsize => exact hsize
  next =>
    -- The search starts from the empty prefix, a literal of two quotes.
    have hempty : prefixLiteral text 0 = "\"\"" := rfl
    have hfits := @longestPrefix_fits
      (fun n => decide ((prefixLiteral text n).utf8ByteSize ≤ maxQuarantineExcerptBytes))
      (text.length + 1) 0 text.length (by rw [hempty]; decide)
    exact of_decide_eq_true hfits

/-- `_require_excerpt_bytes`. -/
def QuarantinedObservation.excerptBounded (item : QuarantinedObservation) : Bool :=
  decide (item.sourceExcerptJson.utf8ByteSize ≤ maxQuarantineExcerptBytes)

section Rows

variable {encoding : TelemetryEncoding} {envelope : IngressEnvelope} {now : Time}

/-- What the validators of a row ask of its content. -/
def RowContent.valid (content : RowContent) : Bool :=
  decide (content.kind = .observation ↔ content.observation.isSome = true) &&
    decide (content.kind = .fencedMessage ↔ content.envelopeJson.isSome = true) &&
    !(content.kind = .fencedMessage && content.sourceJson.any (· ≠ "")) &&
    utf8Bounded content.sourceJson && utf8Bounded content.envelopeJson

/-- Validators ignore time, ordinal and message. -/
theorem quarantineFields_valid (ordinal : Int) (content : RowContent) :
    (quarantineFields encoding envelope now ordinal content).valid encoding = content.valid := by
  simp only [QuarantineFields.valid, quarantineFields, reduceCtorEq, Option.isSome_none,
    Bool.false_eq_true, decide_true, Bool.true_and, Int.le_refl, Option.all_none, beq_self_eq_true,
    Bool.and_true]
  rfl

/-- A valid content has a row. -/
theorem addRow_total {content : RowContent} (h : content.valid = true) (ordinal : Int) :
    addRow encoding envelope now ordinal content =
      some (quarantineFields encoding envelope now ordinal content) :=
  if_pos ((quarantineFields_valid ordinal content).trans h)

/-- Valid contents have rows. -/
theorem addRows_total {contents : List RowContent} (h : ∀ content ∈ contents, content.valid = true) :
    ∃ rows, addRows encoding envelope now contents = some rows :=
  exists_mapM_eq_some fun row hrow =>
    ⟨_, addRow_total (h row.1 (List.of_mem_zip hrow).1) row.2.1⟩

/-- The identifiers of the rows of some texts. -/
def IngressEnvelope.quarantineIds (envelope : IngressEnvelope) (texts : List String) :
    List QuarantineId :=
  (ordinalsFrom [] texts).map fun (ordinal, text) =>
    quarantineEntryId envelope.ingressId ordinal text

/-- Keys from identifiers. -/
theorem map_quarantineIds (envelope : IngressEnvelope) (texts : List String) :
    (envelope.quarantineIds texts).map (fun id => (envelope.tenantId, envelope.receivedAt, id)) =
      envelope.rowKeys texts := by
  rw [IngressEnvelope.quarantineIds, List.map_map]
  rfl

/-- An identifier counts a text. -/
theorem mem_quarantineIds {id : QuarantineId} {texts : List String} :
    id ∈ envelope.quarantineIds texts ↔ envelope.ingressId = id.ingressId ∧
      0 ≤ id.ordinal ∧ id.ordinal < texts.count id.excerptJson := by
  have hmem := @mem_ordinalsFrom (id.ordinal, id.excerptJson) texts []
  simp only [List.count_nil, Int.natCast_zero, Int.zero_add] at hmem
  rw [← hmem, IngressEnvelope.quarantineIds, List.mem_map]
  constructor
  · rintro ⟨p, hp, rfl⟩
    exact ⟨rfl, hp⟩
  · rintro ⟨hingress, hp⟩
    exact ⟨_, hp, congrArg (QuarantineId.mk · id.ordinal id.excerptJson) hingress⟩

/-- The order of the texts does not matter. -/
theorem quarantineIds_perm {texts texts' : List String} (h : texts.Perm texts') :
    (envelope.quarantineIds texts).Perm (envelope.quarantineIds texts') := by
  have hnodup : ∀ texts, (envelope.quarantineIds texts).Nodup := fun texts =>
    .of_map _ (map_quarantineIds envelope texts ▸ rowKeys_nodup envelope texts)
  refine (List.perm_ext_iff_of_nodup (hnodup texts) (hnodup texts')).mpr fun id => ?_
  rw [mem_quarantineIds, mem_quarantineIds, h.count_eq]

/-! ## The rows of a message -/

/-- What was set aside is valid. -/
theorem outcomeContent_valid {item : QuarantinedObservation} (h : item.excerptBounded = true) :
    (outcomeContent item).valid = true := by
  have hsize : item.sourceExcerptJson.utf8ByteSize ≤ maxEnvelopeExcerptBytes := of_decide_eq_true h
  simp [outcomeContent, RowContent.valid, utf8Bounded, hsize]

theorem fencedContent_valid {observation : SourceObservation} (fence : IngressFence)
    (h : (encoding.payloadExcerpt observation).utf8ByteSize ≤ maxEnvelopeExcerptBytes) :
    (fencedContent encoding fence observation).valid = true := by
  have hsize : (observationExcerpt encoding observation).1.utf8ByteSize ≤
      maxEnvelopeExcerptBytes := by
    simp only [observationExcerpt]
    split
    next hcomplete => exact hcomplete
    next => exact h
  simp [fencedContent, RowContent.valid, utf8Bounded, hsize]

theorem summaryContent_valid (fence : IngressFence) :
    (summaryContent encoding envelope fence).valid = true := by
  simp [summaryContent, RowContent.valid, utf8Bounded, boundedPrefix_size]

/-- One row for each content, with these distinct identifiers. -/
structure RowsOf (encoding : TelemetryEncoding) (envelope : IngressEnvelope) (now : Time)
    (contents : List RowContent) (ids : List QuarantineId) (rows : List QuarantineFields) : Prop where
  each : List.Forall₂ (fun content row => ∃ ordinal,
    row = quarantineFields encoding envelope now ordinal content) contents rows
  distinct : (rows.map (·.quarantineId)).Nodup
  ids : (rows.map (·.quarantineId)).Perm ids

/-- Different keys are different identifiers. -/
theorem RowsOf.of_keys {contents : List RowContent} {ids : List QuarantineId}
    {rows : List QuarantineFields} {keys : List RowKey}
    (heach : List.Forall₂ (fun content row => ∃ ordinal,
      row = quarantineFields encoding envelope now ordinal content) contents rows)
    (hkeys : rows.map (·.rowKey) = keys) (hdistinct : keys.Nodup)
    (hids : (keys.map (·.2.2)).Perm ids) :
    RowsOf encoding envelope now contents ids rows := by
  have hmsg : rows.map (·.rowKey) =
      (rows.map (·.quarantineId)).map fun id => (envelope.tenantId, envelope.receivedAt, id) := by
    rw [List.map_map]
    refine List.map_congr_left fun row hrow => ?_
    obtain ⟨content, -, ordinal, rfl⟩ := exists_of_forall₂ heach hrow
    rfl
  rw [← hkeys, hmsg] at hdistinct
  rw [← hkeys, List.map_map] at hids
  exact ⟨heach, .of_map _ hdistinct, hids⟩

/-- The rows of a processed message. -/
theorem outcomeRows_identified {quarantined permuted : List QuarantinedObservation}
    (hbounded : ∀ item ∈ quarantined, item.excerptBounded = true)
    (hperm : permuted.Perm quarantined) :
    ∃ rows, outcomeRows encoding envelope permuted now = some rows ∧
      RowsOf encoding envelope now (permuted.map outcomeContent)
        (envelope.quarantineIds (quarantined.map (·.sourceExcerptJson))) rows := by
  have hvalid : ∀ content ∈ permuted.map outcomeContent, content.valid = true := by
    intro content hcontent
    obtain ⟨item, hitem, rfl⟩ := List.mem_map.mp hcontent
    exact outcomeContent_valid (hbounded item (hperm.mem_iff.mp hitem))
  obtain ⟨rows, hrows⟩ := @addRows_total encoding envelope now _ hvalid
  refine ⟨rows, hrows, .of_keys (addRows_forall₂ hrows) (outcomeRows_spec hrows)
    (rowKeys_nodup _ _) ?_⟩
  rw [← map_quarantineIds, List.map_map]
  exact (List.map_id _).symm ▸ quarantineIds_perm (hperm.map _)

/-- The rows of a fenced message. -/
theorem fencedRows_identified (texts : PythonText) (base : TelemetryEncoding)
    (envelope : IngressEnvelope) (fence : IngressFence) (now : Time) :
    ∃ rows, fencedRows (texts.encode base) envelope fence now = some rows ∧
      RowsOf (texts.encode base) envelope now
        (envelope.observations.map (fencedContent (texts.encode base) fence) ++
          [summaryContent (texts.encode base) envelope fence])
        ((fencedKeys (texts.encode base) envelope).map (·.2.2)) rows := by
  have hvalid : ∀ content ∈ envelope.observations.map (fencedContent (texts.encode base) fence),
      content.valid = true := by
    intro content hcontent
    obtain ⟨observation, -, rfl⟩ := List.mem_map.mp hcontent
    refine fencedContent_valid fence ?_
    rw [encode_payloadExcerpt]
    exact boundedExcerpt_size texts _
  obtain ⟨observed, hobs⟩ := @addRows_total (texts.encode base) envelope now _ hvalid
  obtain ⟨summary, hsummary⟩ : ∃ summary, summary = quarantineFields (texts.encode base) envelope now
      (-1) (summaryContent (texts.encode base) envelope fence) := ⟨_, rfl⟩
  have hrows : fencedRows (texts.encode base) envelope fence now = some (observed ++ [summary]) := by
    rw [fencedRows, hobs, addRow_total (summaryContent_valid fence), ← hsummary]
    rfl
  exact ⟨_, hrows, .of_keys (List.rel_append (addRows_forall₂ hobs) (.cons ⟨-1, hsummary⟩ .nil))
    (fencedRows_spec hrows) (fencedKeys_nodup _ _) (.refl _)⟩

end Rows

/-- The rows of what processing set aside and of a verified fence are always built, one for each
observation and one more for the fence, with different identifiers that depend neither on the order
of the observations nor on the time. -/
theorem quarantineRows_identified (texts : PythonText) (base : TelemetryEncoding)
    (envelope : IngressEnvelope) :
    (∀ quarantined : List QuarantinedObservation,
      (∀ item ∈ quarantined, item.excerptBounded = true) →
      ∃ ids, ∀ permuted, permuted.Perm quarantined → ∀ now,
        ∃ rows, outcomeRows (texts.encode base) envelope permuted now = some rows ∧
          RowsOf (texts.encode base) envelope now (permuted.map outcomeContent) ids rows) ∧
    ∀ fence, ∃ ids, ∀ now,
      ∃ rows, fencedRows (texts.encode base) envelope fence now = some rows ∧
        RowsOf (texts.encode base) envelope now
          (envelope.observations.map (fencedContent (texts.encode base) fence) ++
            [summaryContent (texts.encode base) envelope fence]) ids rows :=
  ⟨fun _ hbounded => ⟨_, fun _ hperm _ => outcomeRows_identified hbounded hperm⟩,
    fun fence => ⟨_, fun now => fencedRows_identified texts base envelope fence now⟩⟩

open SampleTexts

namespace SampleTexts

/-- An observation of an unknown metric. -/
def setAside : QuarantinedObservation where
  reason := .metricUnknown
  tenantId := "t"
  deviceId := "pond-probe"
  componentId := some observation.componentId
  metricKey := some observation.metricKey
  observedAt := some observation.observedAt
  receivedAt := envelope.receivedAt
  sourceEventId := none
  detail := "unknown metric"
  sourceExcerptJson := "\x7b\x7d"
  truncated := false

end SampleTexts

/-- Two observations with the same text have rows with different identifiers. -/
theorem quarantineRows_identified_of_pair : ∃ rows,
    outcomeRows (texts.encode SampleFence.encoding) envelope [setAside, setAside] 0 = some rows ∧
      rows.length = 2 ∧ (rows.map (·.quarantineId)).Nodup := by
  have hbounded : ∀ item ∈ [setAside, setAside], item.excerptBounded = true := by decide +kernel
  obtain ⟨ids, hids⟩ :=
    (quarantineRows_identified texts SampleFence.encoding envelope).1 _ hbounded
  obtain ⟨rows, hrows, hof⟩ := hids _ (.refl _) 0
  exact ⟨rows, hrows, hof.each.length_eq.symm, hof.distinct⟩

end LimnoPulse.Ingestion
