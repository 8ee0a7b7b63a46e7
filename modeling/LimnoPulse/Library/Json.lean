import Mathlib.Data.List.Sort
import Mathlib.Data.Rat.Init
import Mathlib.Data.String.Basic

/-!
# JSON documents

JSON values with exact numbers, and the changes a program makes to an object it has
loaded: overwriting fields and writing the fields in the order of their keys.  The
writers of documents write no key twice.

Main results:

- Theorem `lookup_perm`: the fields of an object can be read in any order.
- Theorem `lookup_sortFields`: the fields of an object that is written in the order of
  its keys.
- Theorem `TextMap.ofList_entries`: a map is read back from its entries.
-/

/-- JSON values with exact numbers. -/
inductive Json where
  | null
  | bool (value : Bool)
  | number (value : Rat)
  | string (value : String)
  | array (items : List Json)
  | object (fields : List (String × Json))

namespace Json

/-- The fields of an object. -/
abbrev Fields := List (String × Json)

/-- Whether a field holds this text. -/
def isText (text : String) : Option Json → Bool
  | some (.string value) => value = text
  | _ => false

/-- Overwrite a field, or add it. -/
def setField (key : String) (value : Json) : Fields → Fields
  | [] => [(key, value)]
  | (k, v) :: rest => if k = key then (k, value) :: rest else (k, v) :: setField key value rest

/-- Overwrite fields one after the other. -/
def update (fields changes : Fields) : Fields :=
  changes.foldl (fun fields change => setField change.1 change.2 fields) fields

/-- The first field, or a later one. -/
theorem lookup_cons (name key : String) (value : β) (rest : List (String × β)) :
    List.lookup name ((key, value) :: rest) = if name = key then some value else rest.lookup name := by
  rw [List.lookup_cons]
  by_cases h : name = key
  · simp [h]
  · rw [if_neg h, beq_eq_false_iff_ne.mpr h]

/-- Without repeated keys every field is found. -/
theorem lookup_eq_some_iff_mem {name : String} {value : β} {fields : List (String × β)}
    (hnodup : (fields.map Prod.fst).Nodup) :
    fields.lookup name = some value ↔ (name, value) ∈ fields := by
  induction fields with
  | nil => simp
  | cons field rest ih =>
    obtain ⟨k, v⟩ := field
    obtain ⟨hnot, hrest⟩ := List.nodup_cons.mp hnodup
    by_cases h : name = k
    · subst h
      have habsent : (name, value) ∉ rest := fun hmem => hnot (List.mem_map.mpr ⟨_, hmem, rfl⟩)
      simp [habsent, eq_comm]
    · simp [lookup_cons, h, ih hrest]

/-- The fields of an object can be read in any order. -/
theorem lookup_perm {a b : List (String × β)} (hperm : a.Perm b) (hnodup : (a.map Prod.fst).Nodup)
    (name : String) : a.lookup name = b.lookup name := by
  ext value
  rw [lookup_eq_some_iff_mem hnodup, lookup_eq_some_iff_mem ((hperm.map _).nodup hnodup),
    hperm.mem_iff]

/-- Lookup of changed values. -/
theorem lookup_map (f : Json → Json) (name : String) : ∀ fields : Fields,
    (fields.map fun field => (field.1, f field.2)).lookup name = (fields.lookup name).map f
  | [] => rfl
  | (k, v) :: rest => by
    by_cases h : name = k <;> simp [lookup_cons, h, lookup_map f name rest]

/-- Write the fields of all objects in the order of their keys. -/
def sortKeys : Json → Json
  | .object fields =>
    .object ((fields.attach.map fun field => (field.1.1, sortKeys field.1.2)).insertionSort
      fun a b => a.1 ≤ b.1)
  | .array items => .array (items.attach.map fun item => sortKeys item.1)
  | .null => .null
  | .bool value => .bool value
  | .number value => .number value
  | .string value => .string value
termination_by json => sizeOf json
decreasing_by
  · have := List.sizeOf_lt_of_mem field.2
    have hpair : sizeOf field.1 = 1 + sizeOf field.1.1 + sizeOf field.1.2 := by
      cases field.1
      rfl
    simp only [object.sizeOf_spec]
    omega
  · have := List.sizeOf_lt_of_mem item.2
    simp only [array.sizeOf_spec]
    omega

/-- The fields of an object, with their values sorted as well. -/
def sortFields (fields : Fields) : Fields :=
  (fields.map fun field => (field.1, field.2.sortKeys)).insertionSort fun a b => a.1 ≤ b.1

/-- The fields of a sorted object. -/
theorem sortKeys_object (fields : Fields) : sortKeys (.object fields) = .object (sortFields fields) := by
  rw [sortKeys, sortFields]
  congr 2
  exact List.attach_map_val (f := fun field : String × Json => (field.1, sortKeys field.2))

/-- The fields of an object that is written in the order of its keys. -/
theorem lookup_sortFields {fields : Fields} (hnodup : (fields.map Prod.fst).Nodup) (name : String) :
    (sortFields fields).lookup name = (fields.lookup name).map sortKeys := by
  rw [← lookup_map]
  refine lookup_perm (List.perm_insertionSort _ _) ?_ name
  refine ((List.perm_insertionSort _ _).map Prod.fst).symm.nodup ?_
  rw [List.map_map]
  exact hnodup

/-! ## Objects as maps -/

/-- Enter a text under a key; the entries stay in the order of their keys. -/
def insertEntry (key value : String) : List (String × String) → List (String × String)
  | [] => [(key, value)]
  | (k, v) :: rest =>
    if key < k then (key, value) :: (k, v) :: rest
    else if key = k then (key, value) :: rest
    else (k, v) :: insertEntry key value rest

/-- An entry is the new one or an old one. -/
theorem mem_insertEntry {entry : String × String} :
    ∀ {entries : List (String × String)}, entry ∈ insertEntry key value entries →
      entry = (key, value) ∨ entry ∈ entries
  | [], h => .inl (List.mem_singleton.mp h)
  | (k, v) :: rest, h => by
    unfold insertEntry at h
    split_ifs at h
    · exact List.mem_cons.mp h
    · exact (List.mem_cons.mp h).imp_right (List.mem_cons_of_mem _)
    · rcases List.mem_cons.mp h with h | h
      · exact .inr (h ▸ List.mem_cons_self)
      · exact (mem_insertEntry h).imp_right (List.mem_cons_of_mem _)

/-- Insertion keeps the order. -/
theorem sorted_insertEntry : ∀ {entries : List (String × String)},
    entries.Pairwise (fun a b => a.1 < b.1) →
      (insertEntry key value entries).Pairwise (fun a b => a.1 < b.1)
  | [], _ => List.pairwise_singleton _ _
  | (k, v) :: rest, h => by
    obtain ⟨hhead, hrest⟩ := List.pairwise_cons.mp h
    unfold insertEntry
    split_ifs with hless heq
    · refine List.pairwise_cons.mpr ⟨fun entry hmem => ?_, h⟩
      rcases List.mem_cons.mp hmem with rfl | hmem
      · exact hless
      · exact hless.trans (hhead entry hmem)
    · exact List.pairwise_cons.mpr ⟨fun entry hmem => heq ▸ hhead entry hmem, hrest⟩
    · refine List.pairwise_cons.mpr ⟨fun entry hmem => ?_, sorted_insertEntry hrest⟩
      rcases mem_insertEntry hmem with rfl | hmem
      · exact lt_of_le_of_ne (not_lt.mp hless) (Ne.symm heq)
      · exact hhead entry hmem

/-- A last key is appended. -/
theorem insertEntry_of_last : ∀ {entries : List (String × String)},
    (∀ entry ∈ entries, entry.1 < key) → insertEntry key value entries = entries ++ [(key, value)]
  | [], _ => rfl
  | (k, v) :: rest, h => by
    have hk : k < key := h _ List.mem_cons_self
    have ih : insertEntry key value rest = rest ++ [(key, value)] :=
      insertEntry_of_last fun entry hmem => h entry (List.mem_cons_of_mem _ hmem)
    rw [insertEntry, if_neg hk.asymm, if_neg hk.ne', ih]
    rfl

/-- A map from texts to texts: its entries in the order of their keys. -/
structure TextMap where
  entries : List (String × String)
  sorted : entries.Pairwise fun a b => a.1 < b.1
deriving DecidableEq

/-- Enter a text; a later one under the same key replaces it. -/
def TextMap.insert (map : TextMap) (entry : String × String) : TextMap :=
  ⟨insertEntry entry.1 entry.2 map.entries, sorted_insertEntry map.sorted⟩

/-- The map of some entries. -/
def TextMap.ofList (entries : List (String × String)) : TextMap :=
  entries.foldl TextMap.insert ⟨[], List.Pairwise.nil⟩

/-- Entries that come in the order of their keys are kept as they are. -/
theorem TextMap.foldl_insert_entries : ∀ (later : List (String × String)) (map : TextMap),
    (map.entries ++ later).Pairwise (fun a b => a.1 < b.1) →
      (later.foldl TextMap.insert map).entries = map.entries ++ later
  | [], map, _ => (List.append_nil _).symm
  | (key, value) :: later, map, h => by
    obtain ⟨-, -, hcross⟩ := List.pairwise_append.mp h
    have hlast : (map.insert (key, value)).entries = map.entries ++ [(key, value)] :=
      insertEntry_of_last fun entry hmem => hcross entry hmem _ List.mem_cons_self
    have hassoc : (map.insert (key, value)).entries ++ later = map.entries ++ (key, value) :: later := by
      rw [hlast, List.append_assoc]
      rfl
    rw [List.foldl_cons, foldl_insert_entries later _ (hassoc ▸ h), hassoc]

/-- A map is read back from its entries. -/
theorem TextMap.ofList_entries (map : TextMap) : TextMap.ofList map.entries = map := by
  have h := foldl_insert_entries map.entries ⟨[], List.Pairwise.nil⟩ map.sorted
  cases map
  exact TextMap.mk.injEq .. ▸ h

/-- A map as an object of texts. -/
def TextMap.fields (map : TextMap) : Fields :=
  map.entries.map fun entry => (entry.1, .string entry.2)

/-- A map is written in the order of its keys. -/
theorem TextMap.sortFields_fields (map : TextMap) : sortFields map.fields = map.fields := by
  have hvalues : (map.fields.map fun field => (field.1, field.2.sortKeys)) = map.fields := by
    simp [TextMap.fields, sortKeys]
  rw [sortFields, hvalues]
  refine List.Pairwise.insertionSort_eq ?_
  exact List.pairwise_map.mpr (map.sorted.imp fun h => le_of_lt h)

end Json
