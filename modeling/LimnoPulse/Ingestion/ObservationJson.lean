import LimnoPulse.Ingestion.Quarantine
import LimnoPulse.Library.Json
import LimnoPulse.Library.JsonText
import Mathlib.Data.Nat.Size

/-!
# The JSON texts of an observation

How an observation is written into a quarantine row and read back.  A fenced
observation is written compactly without nulls and defaults; one that the pipeline set
aside is written in full, through a copy that is safe for strict JSON, and cut after
2048 bytes.  The texts of doubles and the printable characters are parameters.

Main results:

- Theorem `readTelemetryTime_format`: an instant of the window is read back.
- Theorem `modelValidate_modelDump`: a dump is read back from its fields in any order.
- Theorem `observationJson_exact`: a compact text is read back as its observation.
- Theorem `boundedExcerpt_exact`: so is a whole excerpt, or not at all.
-/

namespace LimnoPulse.Ingestion

open CivilTime JsonText

variable {t : Int} {excludeDefaults : Bool} {value : Value Float} {o : SourceObservation} {n : Nat}
  {name : String} {metadata : List (String × String)} {found : SourceObservation} {φ : Type}
  {x : Float}

/-- What Python and its JSON reader decide. -/
structure PythonText where
  /-- `float.__repr__`, and the reading of a JSON number with a point or an exponent. -/
  floats : FloatText Float
  /-- `str.isprintable` of one character. -/
  isPrintable : Char → Bool

/-! ## Instants -/

/-- A day in microseconds. -/
def dayUs : Int := 86400000000

/-- The UTC text with this fraction. -/
def telemetryTimeText (t : Time) (fraction : List Char) : String :=
  String.ofList (dateChars (Date.ofDays (t / dayUs)) ++
    'T' :: (clockChars ((t % dayUs).toNat / 10 ^ 6) ++ (fraction ++ ['Z'])))

/-- The UTC text of a dump, with six digits or none. -/
def formatTelemetryTime (t : Time) : String :=
  telemetryTimeText t (fixedFractionChars 6 ((t % dayUs).toNat % 10 ^ 6))

/-- `_require_exact_timestamp_input`: zeros after the sixth digit. -/
def requireExactTimestamp (text : List Char) : Option (List Char) :=
  let fraction :=
    if text[19]? = some '.' ∨ text[19]? = some ',' then (text.drop 20).takeWhile isDigit else []
  if (fraction.drop 6).all (· = '0') then
    some (if text[19]? = some ',' then text.set 19 '.' else text)
  else none

/-- The reading of a `TelemetryDatetime` from a text. -/
def readTelemetryTime (text : String) : Option Time :=
  (requireExactTimestamp text.toList).bind fun text =>
    (parseTimestamp (String.ofList text)).bind fun t =>
      if isTelemetryTime (t / 1000) then some (t / 1000) else none

/-- Six digits or none after the seconds. -/
structure SixDigits (n : Nat) (fraction : List Char) : Prop where
  reads : readFraction (fraction ++ ['Z']) = some (n * 1000, ['Z'])
  exact : ∀ head : List Char, head.length = 19 →
    requireExactTimestamp (head ++ (fraction ++ ['Z'])) = some (head ++ (fraction ++ ['Z']))

/-- Six digits. -/
theorem SixDigits.digits (h : n < 10 ^ 6) : SixDigits n ('.' :: digitChars 6 n) := by
  constructor
  · rw [List.cons_append]
    refine readFraction_digits (fun d hd => isDigit_of_mem_digitChars hd) (fun hnil => ?_) ?_ ?_ [] (by decide)
    · have hlen := length_digitChars 6 n
      rw [hnil] at hlen
      contradiction
    · rw [length_digitChars]
      exact (digitChars_append_zeros 6 n 3).symm
    · omega
  · intro head hlen
    have hmark : (head ++ ('.' :: digitChars 6 n ++ ['Z']))[19]? = some '.' := by
      rw [List.getElem?_append_right (by omega), hlen]
      rfl
    have hrest : (head ++ ('.' :: digitChars 6 n ++ ['Z'])).drop 20 = digitChars 6 n ++ ['Z'] := by
      rw [List.drop_append, List.drop_eq_nil_of_le (by omega), hlen, List.nil_append]
      rfl
    have hdigits : (digitChars 6 n ++ ['Z']).takeWhile isDigit = digitChars 6 n := by
      rw [List.takeWhile_append_of_pos fun d hd => isDigit_of_mem_digitChars hd,
        List.takeWhile_cons_of_neg (by decide), List.append_nil]
    have hsix : (digitChars 6 n).drop 6 = [] := List.drop_eq_nil_of_le (by rw [length_digitChars])
    simp only [requireExactTimestamp, hmark, hrest, true_or, if_true, hdigits, hsix, List.all_nil]
    simp

theorem SixDigits.none : SixDigits 0 [] := by
  constructor
  · rfl
  · intro head hlen
    have hmark : (head ++ ([] ++ ['Z']))[19]? = some 'Z' := by
      rw [List.getElem?_append_right (by omega), hlen]
      rfl
    simp only [requireExactTimestamp, hmark]
    simp

/-- A date has ten characters. -/
theorem length_dateChars (date : Date) : (dateChars date).length = 10 := by
  simp [dateChars]

/-- A time of day has eight. -/
theorem length_clockChars (seconds : Nat) : (clockChars seconds).length = 8 := by
  simp [clockChars]

/-- An instant is read back with six digits or none. -/
theorem readTelemetryTime_chars (h : isTelemetryTime t = true) {fraction : List Char}
    (hfraction : SixDigits ((t % dayUs).toNat % 10 ^ 6) fraction) :
    readTelemetryTime (telemetryTimeText t fraction) = some t := by
  obtain ⟨hlow, hhigh⟩ : (0 : Int) ≤ t ∧ t < 9214646400000000 := by
    simp only [isTelemetryTime, Bool.and_eq_true, decide_eq_true_eq] at h
    exact h
  obtain ⟨days, hdays⟩ : ∃ days, days = t / dayUs := ⟨_, rfl⟩
  obtain ⟨ofDay, hofDay⟩ : ∃ ofDay, ofDay = (t % dayUs).toNat := ⟨_, rfl⟩
  have hsplit : t = days * 86400000000 + ofDay := by
    simp only [dayUs] at hdays hofDay
    omega
  have hbound : ofDay < 86400000000 := by
    simp only [dayUs] at hofDay
    omega
  rw [← hofDay] at hfraction
  obtain ⟨htoDays, -, hmonth, -, hday⟩ := Date.ofDays_spec days
  obtain ⟨hyear, hyear'⟩ := Date.ofDays_year (show 0 ≤ days by omega) (by omega)
  have hparse := parseTimestamp_chars hyear hyear' hmonth hday (by rw [htoDays])
    (show ofDay / 10 ^ 6 < 86400 by omega) hfraction.reads
  have hhead : (dateChars (Date.ofDays days) ++ 'T' :: clockChars (ofDay / 10 ^ 6)).length = 19 := by
    rw [List.length_append, List.length_cons, length_dateChars, length_clockChars]
  have hexact := hfraction.exact _ hhead
  rw [List.append_assoc, List.cons_append] at hexact
  have hmicros : (days * day + ((ofDay / 10 ^ 6 : Nat) * second +
      (ofDay % 10 ^ 6 * 1000 : Nat))) / 1000 = t := by
    simp only [day, second]
    omega
  simp only [telemetryTimeText, ← hdays, ← hofDay, readTelemetryTime, String.toList_ofList, hexact,
    Option.bind_some, hparse, htoDays, hmicros, h, if_true]

/-- An instant of the window is read back from its text. -/
theorem readTelemetryTime_format (h : isTelemetryTime t = true) :
    readTelemetryTime (formatTelemetryTime t) = some t := by
  refine readTelemetryTime_chars h ?_
  have hlt : (t % dayUs).toNat % 10 ^ 6 < 10 ^ 6 := Nat.mod_lt _ (by decide)
  unfold fixedFractionChars
  split
  next hzero =>
    rw [hzero]
    exact SixDigits.none
  next => exact SixDigits.digits hlt

/-- `format_utc_timestamp`: always six digits. -/
def formatUtcTimestamp (t : Time) : String :=
  telemetryTimeText t ('.' :: digitChars 6 ((t % dayUs).toNat % 10 ^ 6))

/-- A UTC time is read back. -/
theorem readTelemetryTime_formatUtc (h : isTelemetryTime t = true) :
    readTelemetryTime (formatUtcTimestamp t) = some t :=
  readTelemetryTime_chars h (SixDigits.digits (Nat.mod_lt _ (by decide)))

/-! ## Dumps -/

/-- The fields of an object. -/
abbrev JsonFields := List (String × Value Float)

/-- A number in JSON. -/
def SourceValue.json : SourceValue → Value Float
  | .int n => .int n
  | .float x => .float x

/-- The compact form leaves a null out. -/
def optionalField (excludeDefaults : Bool) (key : String) : Option (Value Float) → JsonFields
  | some value => [(key, value)]
  | none => if excludeDefaults then [] else [(key, .null)]

/-- The metadata, left out when empty. -/
def metadataField (excludeDefaults : Bool) (metadata : List (String × String)) : JsonFields :=
  if excludeDefaults && metadata.isEmpty then []
  else [("source_metadata", .object (metadata.map fun entry => (entry.1, .string entry.2)))]

/-- Another key. -/
theorem lookup_optionalField_of_ne {key : String} (h : name ≠ key)
    (value : Option (Value Float)) (rest : JsonFields) :
    (optionalField excludeDefaults key value ++ rest).lookup name = rest.lookup name := by
  cases value with
  | some => simp [optionalField, Json.lookup_cons, h]
  | none => cases excludeDefaults <;> simp [optionalField, Json.lookup_cons, h]

theorem lookup_metadataField_of_ne (h : name ≠ "source_metadata")
    (metadata : List (String × String)) :
    (metadataField excludeDefaults metadata).lookup name = none := by
  unfold metadataField
  split
  · rfl
  · simp [Json.lookup_cons, h]

namespace SourceObservation

/-- The fields of an observation with this number. -/
def dumpWith (excludeDefaults : Bool) (value : Value Float) (o : SourceObservation) : JsonFields :=
  [("component_id", .string o.componentId), ("metric_key", .string o.metricKey), ("value", value),
    ("source_unit", .string o.sourceUnit),
    ("observed_at", .string (formatTelemetryTime o.observedAt))] ++
  (optionalField excludeDefaults "sequence" (o.sequence.map fun n : Nat => .int n) ++
    (optionalField excludeDefaults "source_event_id" (o.sourceEventId.map .string) ++
      metadataField excludeDefaults o.sourceMetadata))

/-- `model_dump(mode="json")`, in full or compact. -/
def modelDump (excludeDefaults : Bool) (o : SourceObservation) : JsonFields :=
  o.dumpWith excludeDefaults o.value.json

end SourceObservation

/-! ## Validation -/

/-- The largest sequence. -/
def maxSequence : Nat := 2 ^ 63 - 1

/-- A short printable text. -/
def isPrintableText (texts : PythonText) (limit : Nat) (text : String) : Bool :=
  decide (1 ≤ text.length) && decide (text.length ≤ limit) && text.toList.all texts.isPrintable

/-- A dictionary of allowed keys with short values. -/
def isMetadata (metadata : List (String × String)) : Bool :=
  decide (metadata.map Prod.fst).Nodup &&
    metadata.all fun entry => entry.1 = "firmware_version" && decide (entry.2.length ≤ 64)

/-- A finite number. -/
def SourceValue.isFinite : SourceValue → Bool
  | .int _ => true
  | .float x => x.isFinite

/-- The constraints of the model `SourceObservation`. -/
def SourceObservation.valid (texts : PythonText) (o : SourceObservation) : Bool :=
  isCanonicalId o.componentId "cmp" &&
    (decide (1 ≤ o.metricKey.length) && decide (o.metricKey.length ≤ 64)) &&
    o.value.isFinite && isPrintableText texts 16 o.sourceUnit && isTelemetryTime o.observedAt &&
    o.sequence.all (fun n => decide (n ≤ maxSequence)) &&
    o.sourceEventId.all (isPrintableText texts 128) && isMetadata o.sourceMetadata

/-- The last field with a key. -/
def field (fields : JsonFields) (key : String) : Option (Value Float) := fields.reverse.lookup key

/-- A text. -/
def textOf : Option (Value Float) → Option String
  | some (.string s) => some s
  | _ => none

/-- A number. -/
def numberOf : Option (Value Float) → Option SourceValue
  | some (.int n) => some (.int n)
  | some (.float x) => some (.float x)
  | _ => none

/-- A sequence, or none. -/
def sequenceOf : Option (Value Float) → Option (Option Nat)
  | none | some .null => some none
  | some (.int n) => if 0 ≤ n then some (some n.toNat) else none
  | _ => none

/-- A text, or none. -/
def optionalTextOf : Option (Value Float) → Option (Option String)
  | none | some .null => some none
  | some (.string s) => some (some s)
  | _ => none

/-- A dictionary of texts; repeated keys keep the last. -/
def metadataOf : Option (Value Float) → Option (List (String × String))
  | none => some []
  | some (.object fields) =>
    (fields.mapM fun entry => (textOf (some entry.2)).map fun text => (entry.1, text)).map
      fun entries => entries.foldl (fun found entry => upsert entry.1 (fun _ => entry.2) found) []
  | _ => none

/-- The fields of an observation. -/
def observationKeys : List String :=
  ["component_id", "metric_key", "value", "source_unit", "observed_at", "sequence", "source_event_id",
    "source_metadata"]

namespace SourceObservation

variable {fields : JsonFields}

/-- Validation of fields; unknown keys are refused. -/
def modelValidate (texts : PythonText) (fields : JsonFields) : Option SourceObservation :=
  if fields.all fun entry => entry.1 ∈ observationKeys then do
    let componentId ← textOf (field fields "component_id")
    let metricKey ← textOf (field fields "metric_key")
    let value ← numberOf (field fields "value")
    let sourceUnit ← textOf (field fields "source_unit")
    let observedAt ← (textOf (field fields "observed_at")).bind readTelemetryTime
    let sequence ← sequenceOf (field fields "sequence")
    let sourceEventId ← optionalTextOf (field fields "source_event_id")
    let sourceMetadata ← metadataOf (field fields "source_metadata")
    let observation : SourceObservation :=
      { componentId, metricKey, value, sourceUnit, observedAt, sequence, sourceEventId, sourceMetadata }
    if observation.valid texts then some observation else none
  else none

/-- Read an observation. -/
def modelValidateJson (texts : PythonText) (text : String) : Option SourceObservation :=
  (parse texts.floats text).bind fun
    | .object fields => modelValidate texts fields
    | _ => none

/-! ## Reading a dump back -/

/-- The keys of a dump. -/
theorem keys_dumpWith (excludeDefaults : Bool) (value : Value Float) (o : SourceObservation) :
    ((o.dumpWith excludeDefaults value).map Prod.fst).Sublist observationKeys := by
  have hopt : ∀ (key : String) (value : Option (Value Float)),
      ((optionalField excludeDefaults key value).map Prod.fst).Sublist [key] := by
    intro key value
    cases value with
    | some => exact List.Sublist.refl _
    | none => cases excludeDefaults <;> simp [optionalField]
  have hmeta : ((metadataField excludeDefaults o.sourceMetadata).map Prod.fst).Sublist
      ["source_metadata"] := by
    unfold metadataField
    split <;> simp
  simp only [dumpWith, List.map_append]
  exact (List.Sublist.refl _).append ((hopt _ _).append ((hopt _ _).append hmeta))

/-- The fields of a dump can be read in any order. -/
theorem field_of_perm (hperm : fields.Perm (o.dumpWith excludeDefaults value)) (key : String) :
    field fields key = (o.dumpWith excludeDefaults value).lookup key := by
  have hkeys : ((o.dumpWith excludeDefaults value).map Prod.fst).Nodup :=
    (keys_dumpWith excludeDefaults value o).nodup (by decide)
  exact (Json.lookup_perm ((List.reverse_perm fields).trans hperm).symm hkeys key).symm

/-- At most the firmware. -/
theorem isMetadata_cases (h : isMetadata metadata = true) :
    metadata = [] ∨ ∃ text, metadata = [("firmware_version", text)] := by
  simp only [isMetadata, Bool.and_eq_true, decide_eq_true_eq, List.all_eq_true] at h
  obtain ⟨hnodup, hall⟩ := h
  match metadata with
  | [] => exact .inl rfl
  | [entry] =>
    have hkey := (hall entry List.mem_cons_self).1
    exact .inr ⟨entry.2, by rw [← hkey]⟩
  | first :: second :: rest =>
    have hfirst := (hall first List.mem_cons_self).1
    have hsecond := (hall second (by simp)).1
    exact absurd (by simp [hfirst, hsecond]) (List.nodup_cons.mp hnodup).1

variable {rest : JsonFields}

/-- The sequence is read back. -/
theorem sequenceOf_lookup (excludeDefaults : Bool) (sequence : Option Nat)
    (hrest : rest.lookup "sequence" = none) :
    sequenceOf ((optionalField excludeDefaults "sequence" (sequence.map fun n : Nat => .int n) ++
      rest).lookup "sequence") = some sequence := by
  cases sequence with
  | some => simp [optionalField, sequenceOf]
  | none => cases excludeDefaults <;> simp [optionalField, sequenceOf, hrest]

theorem optionalTextOf_lookup (excludeDefaults : Bool) (eventId : Option String)
    (hrest : rest.lookup "source_event_id" = none) :
    optionalTextOf ((optionalField excludeDefaults "source_event_id" (eventId.map .string) ++
      rest).lookup "source_event_id") = some eventId := by
  cases eventId with
  | some => simp [optionalField, optionalTextOf]
  | none => cases excludeDefaults <;> simp [optionalField, optionalTextOf, hrest]

theorem metadataOf_lookup (excludeDefaults : Bool) (h : isMetadata metadata = true) :
    metadataOf ((metadataField excludeDefaults metadata).lookup "source_metadata") = some metadata := by
  rcases isMetadata_cases h with rfl | ⟨text, rfl⟩
  · cases excludeDefaults <;> simp [metadataField, metadataOf]
  · simp [metadataField, metadataOf, textOf, upsert]

/-- What validation finds under the keys of a dump. -/
theorem fields_of_perm (hperm : fields.Perm (o.dumpWith excludeDefaults value))
    (hmeta : isMetadata o.sourceMetadata = true) :
    field fields "component_id" = some (.string o.componentId) ∧
      field fields "metric_key" = some (.string o.metricKey) ∧ field fields "value" = some value ∧
      field fields "source_unit" = some (.string o.sourceUnit) ∧
      field fields "observed_at" = some (.string (formatTelemetryTime o.observedAt)) ∧
      sequenceOf (field fields "sequence") = some o.sequence ∧
      optionalTextOf (field fields "source_event_id") = some o.sourceEventId ∧
      metadataOf (field fields "source_metadata") = some o.sourceMetadata := by
  simp only [field_of_perm hperm, dumpWith, List.cons_append, Json.lookup_cons, String.reduceEq, if_true,
    if_false, true_and, List.nil_append]
  refine ⟨?_, ?_, ?_⟩
  · refine sequenceOf_lookup excludeDefaults o.sequence ?_
    rw [lookup_optionalField_of_ne (by decide), lookup_metadataField_of_ne (by decide)]
  · rw [lookup_optionalField_of_ne (by decide)]
    exact optionalTextOf_lookup excludeDefaults o.sourceEventId (lookup_metadataField_of_ne (by decide) _)
  · rw [lookup_optionalField_of_ne (by decide), lookup_optionalField_of_ne (by decide)]
    exact metadataOf_lookup excludeDefaults hmeta

variable {texts : PythonText}

/-- A dump is read back from its fields in any order. -/
theorem modelValidate_modelDump
    (hperm : fields.Perm (o.modelDump excludeDefaults)) (hvalid : o.valid texts = true) :
    modelValidate texts fields = some o := by
  have hvalid' := hvalid
  simp only [valid, Bool.and_eq_true] at hvalid'
  obtain ⟨⟨⟨⟨-, htime⟩, -⟩, -⟩, hmetadata⟩ := hvalid'
  obtain ⟨hcomp, hmetric, hvalue, hunit, hobs, hseq, hevent, hmeta⟩ :=
    fields_of_perm hperm hmetadata
  have hkeys : fields.all (fun entry => entry.1 ∈ observationKeys) = true := by
    rw [List.all_eq_true]
    intro entry hentry
    have hmem := (keys_dumpWith excludeDefaults o.value.json o).subset
      (List.mem_map_of_mem (hperm.mem_iff.mp hentry))
    exact decide_eq_true hmem
  have hnumber : numberOf (some o.value.json) = some o.value := by
    cases o.value <;> rfl
  simp only [modelValidate, hkeys, if_true, hcomp, hmetric, hvalue, hunit, hobs, hseq,
    hevent, hmeta, hnumber, textOf, readTelemetryTime_format htime, Option.bind_eq_bind,
    Option.bind_some, hvalid]

/-- A dump that is read at all has a number for its value. -/
theorem numberOf_of_modelValidate (hperm : fields.Perm (o.dumpWith excludeDefaults value))
    (hmeta : isMetadata o.sourceMetadata = true) (h : modelValidate texts fields = some found) :
    (numberOf (some value)).isSome = true := by
  obtain ⟨-, -, hvalue, -⟩ := fields_of_perm hperm hmeta
  unfold modelValidate at h
  split at h
  · obtain ⟨_, -, h⟩ := Option.bind_eq_some_iff.mp h
    obtain ⟨_, -, h⟩ := Option.bind_eq_some_iff.mp h
    obtain ⟨number, hnumber, -⟩ := Option.bind_eq_some_iff.mp h
    rw [hvalue] at hnumber
    rw [hnumber]
    rfl
  · contradiction

end SourceObservation

/-! ## Excerpts -/

/-- The depth of a copy. -/
def maxExcerptDepth : Nat := 32

/-- The nodes of a copy. -/
def maxExcerptNodes : Nat := 4096

/-- The bits of its integers. -/
def maxExcerptIntegerBits : Nat := 256

/-- What was counted, and whether something is left out. -/
structure Excerpter where
  nodes : Nat := 0
  cut : Bool := false
deriving DecidableEq

/-- `int.bit_length`. -/
def bitLength (n : Int) : Nat := n.natAbs.size

/-- A huge integer in short. -/
def intText (n : Int) : String :=
  "<integer of " ++ String.ofList (natChars (bitLength n)) ++ " bits>"

section Copy

variable (texts : PythonText)

/-- An integer, or its text. -/
def copyInt (n : Int) : Value Float :=
  if bitLength n ≤ maxExcerptIntegerBits then .int n else .string (intText n)

/-- A float, or its text. -/
def copyFloat (x : Float) : Value Float :=
  if x.isFinite then .float x else .string (String.ofList (texts.floats.repr x))

/-- A marker in a value's place. -/
def Excerpter.marker (state : Excerpter) (text : String) : Value Float × Excerpter :=
  (.string text, { state with cut := true })

mutual

/-- A bounded copy; huge integers and infinite floats become texts. -/
def copy (depth : Nat) (value : Value Float) (state : Excerpter) : Value Float × Excerpter :=
  let state := { state with nodes := state.nodes + 1 }
  if maxExcerptNodes < state.nodes then state.marker "<truncated>"
  else if maxExcerptDepth < depth then state.marker "<nested too deeply>"
  else
    match value with
    | .int n => (copyInt n, state)
    | .float x => (copyFloat texts x, state)
    | .array items =>
      let (items, state) := copyItems (depth + 1) items state
      (.array items, state)
    | .object fields =>
      let (fields, state) := copyFields (depth + 1) fields state
      (.object fields, state)
    | .null => (.null, state)
    | .bool b => (.bool b, state)
    | .string s => (.string s, state)

/-- A copy of items. -/
def copyItems (depth : Nat) : List (Value Float) → Excerpter → List (Value Float) × Excerpter
  | [], state => ([], state)
  | item :: items, state =>
    let (item, state) := copy depth item state
    let (items, state) := copyItems depth items state
    (item :: items, state)

/-- A copy of fields. -/
def copyFields (depth : Nat) : JsonFields → Excerpter → JsonFields × Excerpter
  | [], state => ([], state)
  | (key, value) :: fields, state =>
    let (value, state) := copy depth value state
    let (fields, state) := copyFields depth fields state
    ((key, value) :: fields, state)

end

/-- The longest excerpt. -/
def maxQuarantineExcerptBytes : Nat := 2048

/-- The binary search for the longest prefix that fits. -/
def longestPrefix (fits : Nat → Bool) : (fuel low high : Nat) → Nat
  | 0, low, _ => low
  | fuel + 1, low, high =>
    if low < high then
      let middle := (low + high + 1) / 2
      if fits middle then longestPrefix fits fuel middle high
      else longestPrefix fits fuel low (middle - 1)
    else low

/-- The JSON string of the first characters of a text. -/
def prefixLiteral (text : String) (n : Nat) : String :=
  String.ofList (stringChars (String.ofList (text.toList.take n)))

/-- `bounded_excerpt`: the text of a sorted copy, or its longest prefix that fits, and whether
something was left out. -/
def boundedExcerpt (source : Value Float) : String × Bool :=
  let (safe, state) := copy texts 0 source {}
  let text := print texts.floats .spaced safe.sortKeys
  if text.utf8ByteSize ≤ maxQuarantineExcerptBytes then (text, state.cut)
  else
    let fits n := decide ((prefixLiteral text n).utf8ByteSize ≤ maxQuarantineExcerptBytes)
    (prefixLiteral text (longestPrefix fits (text.length + 1) 0 text.length), true)

/-! ## Copies within the bounds -/

mutual

/-- The nodes of a value. -/
def nodeCount : Value Float → Nat
  | .array items => 1 + itemNodes items
  | .object fields => 1 + fieldNodes fields
  | _ => 1

/-- The nodes of items. -/
def itemNodes : List (Value Float) → Nat
  | [] => 0
  | item :: items => nodeCount item + itemNodes items

/-- The nodes of fields. -/
def fieldNodes : JsonFields → Nat
  | [] => 0
  | (_, value) :: fields => nodeCount value + fieldNodes fields

end

mutual

/-- The copy of a value of which nothing is left out. -/
def plain : Value Float → Value Float
  | .int n => copyInt n
  | .float x => copyFloat texts x
  | .array items => .array (plainItems items)
  | .object fields => .object (plainFields fields)
  | .null => .null
  | .bool b => .bool b
  | .string s => .string s

/-- Items without bounds. -/
def plainItems : List (Value Float) → List (Value Float)
  | [] => []
  | item :: items => plain item :: plainItems items

/-- Fields without bounds. -/
def plainFields : JsonFields → JsonFields
  | [] => []
  | (key, value) :: fields => (key, plain value) :: plainFields fields

end

variable {texts}

/-- A value is a node. -/
theorem nodeCount_pos (value : Value Float) : 1 ≤ nodeCount value := by
  cases value <;> simp [nodeCount]

mutual

/-- Nothing is left out of a value with few nodes. -/
theorem copy_eq_plain (value : Value Float) (depth : Nat) (state : Excerpter)
    (hdepth : depth + nodeCount value ≤ maxExcerptDepth + 1)
    (hnodes : state.nodes + nodeCount value ≤ maxExcerptNodes) :
    copy texts depth value state =
      (plain texts value, { state with nodes := state.nodes + nodeCount value }) := by
  have hpositive := nodeCount_pos value
  have hcount : ¬ maxExcerptNodes < state.nodes + 1 := by omega
  have hlevel : ¬ maxExcerptDepth < depth := by omega
  match value with
  | .array items =>
    simp only [nodeCount] at hdepth hnodes
    have hitems := copyItems_eq_plain items (depth + 1) { state with nodes := state.nodes + 1 }
      (by omega) (by simp only; omega)
    simp only [copy, hcount, hlevel, if_false, hitems, plain, nodeCount, Nat.add_assoc]
  | .object fields =>
    simp only [nodeCount] at hdepth hnodes
    have hfields := copyFields_eq_plain fields (depth + 1) { state with nodes := state.nodes + 1 }
      (by omega) (by simp only; omega)
    simp only [copy, hcount, hlevel, if_false, hfields, plain, nodeCount, Nat.add_assoc]
  | .int n | .float x | .null
  | .bool b | .string s => simp only [copy, hcount, hlevel, if_false, plain, nodeCount]

/-- Few items are copied whole. -/
theorem copyItems_eq_plain (items : List (Value Float)) (depth : Nat) (state : Excerpter)
    (hdepth : depth + itemNodes items ≤ maxExcerptDepth + 1)
    (hnodes : state.nodes + itemNodes items ≤ maxExcerptNodes) :
    copyItems texts depth items state =
      (plainItems texts items, { state with nodes := state.nodes + itemNodes items }) := by
  match items with
  | [] => simp only [copyItems, plainItems, itemNodes, Nat.add_zero]
  | item :: items =>
    simp only [itemNodes] at hdepth hnodes
    have hitem := copy_eq_plain item depth state (by omega) (by omega)
    have hitems := copyItems_eq_plain items depth
      { state with nodes := state.nodes + nodeCount item } (by omega) (by simp only; omega)
    simp only [copyItems, hitem, hitems, plainItems, itemNodes, Nat.add_assoc]

theorem copyFields_eq_plain (fields : JsonFields) (depth : Nat) (state : Excerpter)
    (hdepth : depth + fieldNodes fields ≤ maxExcerptDepth + 1)
    (hnodes : state.nodes + fieldNodes fields ≤ maxExcerptNodes) :
    copyFields texts depth fields state =
      (plainFields texts fields, { state with nodes := state.nodes + fieldNodes fields }) := by
  match fields with
  | [] => simp only [copyFields, plainFields, fieldNodes, Nat.add_zero]
  | (key, value) :: fields =>
    simp only [fieldNodes] at hdepth hnodes
    have hvalue := copy_eq_plain value depth state (by omega) (by omega)
    have hfields := copyFields_eq_plain fields depth
      { state with nodes := state.nodes + nodeCount value } (by omega) (by simp only; omega)
    simp only [copyFields, hvalue, hfields, plainFields, fieldNodes, Nat.add_assoc]

end

/-- Keys stay. -/
theorem plainFields_eq_map (fields : JsonFields) :
    plainFields texts fields = fields.map fun entry => (entry.1, plain texts entry.2) := by
  induction fields with
  | nil => rw [plainFields, List.map_nil]
  | cons entry fields ih => rw [plainFields, ih, List.map_cons]

end Copy

/-! ## Exact texts -/

/-- The floats of fields. -/
theorem mem_fieldFloats {x : φ} {fields : List (String × Value φ)} :
    x ∈ fieldFloats fields ↔ ∃ entry ∈ fields, x ∈ floatsOf entry.2 := by
  induction fields with
  | nil => simp [fieldFloats]
  | cons entry fields ih => simp [fieldFloats, ih]

/-- Floats of both parts. -/
theorem fieldFloats_append (a b : List (String × Value φ)) :
    fieldFloats (a ++ b) = fieldFloats a ++ fieldFloats b := by
  induction a with
  | nil => simp [fieldFloats]
  | cons entry a ih => simp [fieldFloats, ih]

/-- A field without floats. -/
theorem fieldFloats_optionalField (excludeDefaults : Bool) (key : String) (value : Option (Value Float))
    (hvalue : ∀ v ∈ value, floatsOf v = []) :
    fieldFloats (optionalField excludeDefaults key value) = [] := by
  cases value with
  | some value => simp [optionalField, fieldFloats, hvalue value rfl]
  | none => cases excludeDefaults <;> simp [optionalField, fieldFloats, floatsOf]

/-- Sequences are not huge. -/
theorem bitLength_of_le_maxSequence (h : n ≤ maxSequence) :
    bitLength (n : Int) ≤ maxExcerptIntegerBits := by
  have hbits : n < 2 ^ 256 := Nat.lt_of_le_of_lt h (by decide)
  rw [bitLength, Int.natAbs_natCast]
  exact Nat.size_le.mpr hbits

namespace SourceObservation

variable {texts : PythonText} {o : SourceObservation}

/-- The double is printed and read without loss. -/
def Exact (texts : PythonText) (o : SourceObservation) : Prop :=
  ∀ x, o.value = .float x → texts.floats.Exact x

/-- Only the number of a dump changes. -/
theorem map_dumpWith {change : Value Float → Value Float} (excludeDefaults : Bool)
    (value : Value Float) (htext : ∀ s, change (.string s) = .string s)
    (hnull : change .null = .null) (hseq : ∀ n ∈ o.sequence, change (.int n) = .int n)
    (hmetadata : change (.object (o.sourceMetadata.map fun entry => (entry.1, .string entry.2))) =
      .object (o.sourceMetadata.map fun entry => (entry.1, .string entry.2))) :
    (o.dumpWith excludeDefaults value).map (fun entry => (entry.1, change entry.2)) =
      o.dumpWith excludeDefaults (change value) := by
  have hopt : ∀ (key : String) (value : Option (Value Float)), (∀ v ∈ value, change v = v) →
      (optionalField excludeDefaults key value).map (fun entry => (entry.1, change entry.2)) =
        optionalField excludeDefaults key value := by
    intro key value hvalue
    cases value with
    | some value => simp [optionalField, hvalue value rfl]
    | none => cases excludeDefaults <;> simp [optionalField, hnull]
  have hmeta : (metadataField excludeDefaults o.sourceMetadata).map
      (fun entry => (entry.1, change entry.2)) = metadataField excludeDefaults o.sourceMetadata := by
    unfold metadataField
    split
    · rfl
    · rw [List.map_singleton, hmetadata]
  have hnumber := hopt "sequence" (o.sequence.map fun n : Nat => .int n) (by simpa using hseq)
  have hevent := hopt "source_event_id" (o.sourceEventId.map .string) (by simp [htext])
  simp only [dumpWith, List.map_append, List.map_cons, List.map_nil, htext, hnumber, hevent, hmeta]

/-- Only the value of a dump changes. -/
theorem plainFields_modelDump (excludeDefaults : Bool) (hvalid : o.valid texts = true) :
    plainFields texts (o.modelDump excludeDefaults) =
      o.dumpWith excludeDefaults (plain texts o.value.json) := by
  simp only [valid, Bool.and_eq_true] at hvalid
  obtain ⟨⟨⟨-, hseq⟩, -⟩, -⟩ := hvalid
  rw [plainFields_eq_map]
  refine map_dumpWith excludeDefaults o.value.json (fun s => by rw [plain]) (by rw [plain]) ?_ ?_
  · intro n hn
    have hle : n ≤ maxSequence := by
      rw [Option.mem_def.mp hn] at hseq
      simpa using hseq
    rw [plain, copyInt, if_pos (bitLength_of_le_maxSequence hle)]
  · rw [plain, plainFields_eq_map, List.map_map]
    simp only [Function.comp_def, plain]

/-- The keys of a dump, sorted. -/
theorem sortFields_dumpWith (excludeDefaults : Bool) (hvalue : value.sortKeys = value)
    (hvalid : o.valid texts = true) :
    sortFields (o.dumpWith excludeDefaults value) = o.dumpWith excludeDefaults value := by
  simp only [valid, Bool.and_eq_true] at hvalid
  have hsorted : (o.dumpWith excludeDefaults value).map (fun entry => (entry.1, entry.2.sortKeys)) =
      o.dumpWith excludeDefaults value.sortKeys := by
    refine map_dumpWith excludeDefaults value (fun s => by rw [Value.sortKeys])
      (by rw [Value.sortKeys]) (fun n _ => by rw [Value.sortKeys]) ?_
    rcases isMetadata_cases hvalid.2 with hmeta | ⟨text, hmeta⟩
    · simp [hmeta, Value.sortKeys, sortFields]
    · simp [hmeta, Value.sortKeys, sortFields]
  rw [sortFields_eq_map, hsorted, hvalue]

/-- The number of a dump is a leaf. -/
theorem plain_json_sorted (value : SourceValue) :
    (plain texts value.json).sortKeys = plain texts value.json := by
  cases value with
  | int =>
    rw [SourceValue.json, plain, copyInt]
    split <;> rw [Value.sortKeys]
  | float =>
    rw [SourceValue.json, plain, copyFloat]
    split <;> rw [Value.sortKeys]

/-- The excerpt of a dump is sorted by keys. -/
theorem sortKeys_plain_modelDump (excludeDefaults : Bool) (hvalid : o.valid texts = true) :
    (plain texts (.object (o.modelDump excludeDefaults))).sortKeys =
      .object ((o.dumpWith excludeDefaults (plain texts o.value.json)).insertionSort
        fun a b => a.1 ≤ b.1) := by
  rw [plain, plainFields_modelDump excludeDefaults hvalid, Value.sortKeys,
    sortFields_dumpWith excludeDefaults (plain_json_sorted o.value) hvalid]

/-- The only double of a dump is its number. -/
theorem mem_floats_dumpWith (hx : x ∈ fieldFloats (o.dumpWith excludeDefaults value)) :
    x ∈ floatsOf value := by
  have hmeta : fieldFloats (metadataField excludeDefaults o.sourceMetadata) = [] := by
    have htexts : ∀ metadata : List (String × String),
        fieldFloats (metadata.map fun entry => (entry.1, (.string entry.2 : Value Float))) = [] := by
      intro metadata
      induction metadata with
      | nil => rw [List.map_nil, fieldFloats]
      | cons entry metadata ih => simp [fieldFloats, floatsOf, ih]
    unfold metadataField
    split
    · rw [fieldFloats]
    · simp only [fieldFloats, floatsOf, htexts, List.append_nil]
  have hseq := fieldFloats_optionalField excludeDefaults "sequence"
    (o.sequence.map fun n : Nat => .int n) (by simp [floatsOf])
  have hevent := fieldFloats_optionalField excludeDefaults "source_event_id"
    (o.sourceEventId.map .string) (by simp [floatsOf])
  simpa [dumpWith, fieldFloats_append, fieldFloats, floatsOf, hseq, hevent, hmeta] using hx

/-- A compact text is read back as its observation. -/
theorem observationJson_exact (hvalid : o.valid texts = true) (hexact : o.Exact texts) :
    modelValidateJson texts (print texts.floats .compact (.object (o.modelDump true))) = some o := by
  have hfloats : ∀ x ∈ floatsOf (.object (o.modelDump true)), texts.floats.Exact x := by
    intro x hx
    rw [floatsOf] at hx
    have hx := mem_floats_dumpWith hx
    cases hvalue : o.value with
    | int => simp [hvalue, SourceValue.json, floatsOf] at hx
    | float y =>
      rw [hvalue, SourceValue.json, floatsOf, List.mem_singleton] at hx
      rw [hx]
      exact hexact y hvalue
  rw [modelValidateJson, parse_print .compact _ hfloats, Option.bind_some]
  exact modelValidate_modelDump (List.Perm.refl _) hvalid

/-- A copied number is the number itself if it is a number. -/
theorem plain_json_eq {value : SourceValue}
    (h : (numberOf (some (plain texts value.json))).isSome = true) :
    plain texts value.json = value.json := by
  cases value with
  | int =>
    rw [SourceValue.json, plain, copyInt] at h ⊢
    split at h
    · rw [if_pos ‹_›]
    · cases h
  | float =>
    rw [SourceValue.json, plain, copyFloat] at h ⊢
    split at h
    · rw [if_pos ‹_›]
    · cases h

/-- The only float is the value. -/
theorem plain_json_floats {value : SourceValue}
    (hx : x ∈ floatsOf (plain texts value.json)) : value = .float x := by
  cases value with
  | int =>
    rw [SourceValue.json, plain, copyInt] at hx
    split at hx <;> simp [floatsOf] at hx
  | float =>
    rw [SourceValue.json, plain, copyFloat] at hx
    split at hx
    · rw [floatsOf, List.mem_singleton] at hx
      rw [hx]
    · simp [floatsOf] at hx

/-- A dump has few nodes. -/
theorem nodeCount_modelDump (excludeDefaults : Bool) (hvalid : o.valid texts = true) :
    nodeCount (.object (o.modelDump excludeDefaults)) ≤ 10 := by
  have happend : ∀ a b : JsonFields, fieldNodes (a ++ b) = fieldNodes a + fieldNodes b := by
    intro a b
    induction a with
    | nil => simp [fieldNodes]
    | cons entry a ih => simp [fieldNodes, ih, Nat.add_assoc]
  have hopt : ∀ (key : String) (value : Option (Value Float)), (∀ v ∈ value, nodeCount v = 1) →
      fieldNodes (optionalField excludeDefaults key value) ≤ 1 := by
    intro key value hvalue
    cases value with
    | some value => simp [optionalField, fieldNodes, hvalue value rfl]
    | none => cases excludeDefaults <;> simp [optionalField, fieldNodes, nodeCount]
  have hmeta : fieldNodes (metadataField excludeDefaults o.sourceMetadata) ≤ 2 := by
    simp only [valid, Bool.and_eq_true] at hvalid
    unfold metadataField
    split
    · simp [fieldNodes]
    · rcases isMetadata_cases hvalid.2 with hmetadata | ⟨text, hmetadata⟩
      · simp [hmetadata, fieldNodes, nodeCount]
      · simp [hmetadata, fieldNodes, nodeCount]
  have hseq := hopt "sequence" (o.sequence.map fun n : Nat => .int n) (by simp [nodeCount])
  have hevent := hopt "source_event_id" (o.sourceEventId.map .string) (by simp [nodeCount])
  have hnumber : nodeCount o.value.json = 1 := by
    cases o.value <;> simp [SourceValue.json, nodeCount]
  simp only [modelDump, dumpWith, nodeCount, happend, fieldNodes, hnumber]
  omega

/-- A whole excerpt is read as its observation or not at all. -/
theorem boundedExcerpt_exact {text : String}
    (hvalid : o.valid texts = true) (hexact : o.Exact texts)
    (htext : boundedExcerpt texts (.object (o.modelDump excludeDefaults)) = (text, false))
    (hfound : modelValidateJson texts text = some found) : found = o := by
  have hnodes := nodeCount_modelDump excludeDefaults hvalid
  have hcopy : copy texts 0 (.object (o.modelDump excludeDefaults)) {} = _ :=
    copy_eq_plain _ 0 {} (by simp only [maxExcerptDepth]; omega) (by simp only [maxExcerptNodes]; omega)
  simp only [boundedExcerpt, hcopy, sortKeys_plain_modelDump excludeDefaults hvalid] at htext
  split at htext
  · obtain ⟨rfl, -⟩ := Prod.mk.inj htext
    have hperm := List.perm_insertionSort (fun a b : String × Value Float => a.1 ≤ b.1)
      (o.dumpWith excludeDefaults (plain texts o.value.json))
    have hfloats : ∀ x ∈ floatsOf (.object ((o.dumpWith excludeDefaults
        (plain texts o.value.json)).insertionSort fun a b => a.1 ≤ b.1)), texts.floats.Exact x := by
      intro x hx
      rw [floatsOf, mem_fieldFloats] at hx
      obtain ⟨entry, hentry, hx⟩ := hx
      have hmem := mem_fieldFloats.mpr ⟨entry, hperm.mem_iff.mp hentry, hx⟩
      exact hexact x (plain_json_floats (mem_floats_dumpWith hmem))
    rw [modelValidateJson, parse_print .spaced _ hfloats, Option.bind_some] at hfound
    simp only at hfound
    have hmeta : isMetadata o.sourceMetadata = true := by
      simp only [valid, Bool.and_eq_true] at hvalid
      exact hvalid.2
    -- A number that became a text is refused, so this one was copied as it is.
    have hplain := plain_json_eq (numberOf_of_modelValidate hperm hmeta hfound)
    rw [hplain] at hperm hfound
    rw [modelValidate_modelDump hperm hvalid] at hfound
    exact (Option.some.inj hfound).symm
  · cases (Prod.mk.inj htext).2

end SourceObservation

end LimnoPulse.Ingestion
