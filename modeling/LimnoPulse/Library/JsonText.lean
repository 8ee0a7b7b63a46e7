import LimnoPulse.Library.Timestamp
import Mathlib.Data.List.Forall2
import Mathlib.Data.List.Sort
import Mathlib.Data.Nat.Log

/-!
# JSON texts

Printing JSON values and reading the texts back.  Integers have any size and are kept
apart from floats; how a float is printed and read is a parameter.  A reader takes
the longest run of number characters, so a printed number is read back only in front
of a text that does not continue it.

Main results:

- Theorem `readInt_intChars`: an integer is read back from its digits.
- Theorem `readString_stringChars`: a string is read back from its escapes.
- Theorem `parse_print`: a value is read back from its text if its floats are.
-/

namespace JsonText

open CivilTime

variable {c : Char} {rest : List Char} {n : Nat} {token : List Char} {φ : Type}

/-- JSON values. -/
inductive Value (φ : Type) where
  | null
  | bool (value : Bool)
  | int (value : Int)
  | float (value : φ)
  | string (value : String)
  | array (items : List (Value φ))
  | object (fields : List (String × Value φ))

section KeyOrder

variable {φ : Type}

mutual

/-- The fields of all objects in the order of their keys. -/
def Value.sortKeys : Value φ → Value φ
  | .array items => .array (sortItems items)
  | .object fields => .object ((sortFields fields).insertionSort fun a b => a.1 ≤ b.1)
  | .null => .null
  | .bool b => .bool b
  | .int n => .int n
  | .float x => .float x
  | .string s => .string s

/-- The items of an array, sorted within. -/
def sortItems : List (Value φ) → List (Value φ)
  | [] => []
  | item :: items => item.sortKeys :: sortItems items

/-- The fields of an object, sorted within. -/
def sortFields : List (String × Value φ) → List (String × Value φ)
  | [] => []
  | (key, value) :: fields => (key, value.sortKeys) :: sortFields fields

end

/-- Fields are sorted one by one. -/
theorem sortFields_eq_map (fields : List (String × Value φ)) :
    sortFields fields = fields.map fun field => (field.1, field.2.sortKeys) := by
  induction fields with
  | nil => rw [sortFields, List.map_nil]
  | cons field fields ih => rw [sortFields, ih, List.map_cons]

end KeyOrder

/-! ## Numbers -/

/-- A mark that makes a number a float. -/
def isFloatMark (c : Char) : Bool := c = '.' || c = 'e' || c = 'E'

/-- A character of a number. -/
def isNumberChar (c : Char) : Bool := isDigit c || isFloatMark c || c = '-' || c = '+'

/-- How floats are printed and read. -/
structure FloatText (φ : Type) where
  repr : φ → List Char
  parse : List Char → Option φ

/-- A float that is printed as a number with a mark and read back. -/
structure FloatText.Exact {φ : Type} (floats : FloatText φ) (x : φ) : Prop where
  number : ∀ c ∈ floats.repr x, isNumberChar c = true
  marked : (floats.repr x).any isFloatMark = true
  parse_repr : floats.parse (floats.repr x) = some x

/-- The digits of a number. -/
def natChars (n : Nat) : List Char := digitChars (Nat.log 10 n + 1) n

/-- The digits of an integer, with its sign. -/
def intChars (n : Int) : List Char :=
  if n < 0 then '-' :: natChars n.natAbs else natChars n.natAbs

/-- A natural number without leading zeros. -/
def readNat (token : List Char) : Option Nat :=
  if token = [] ∨ token.head? = some '0' ∧ token.length ≠ 1 then none
  else (readDigits token.length 0 token).map Prod.fst

/-- An integer from all characters of a token. -/
def readInt : List Char → Option Int
  | '-' :: token => (readNat token).map fun n : Nat => -(n : Int)
  | token => (readNat token).map fun n : Nat => (n : Int)

theorem length_natChars (n : Nat) : (natChars n).length = Nat.log 10 n + 1 := length_digitChars _ _

/-- A number has a digit. -/
theorem natChars_ne_nil (n : Nat) : natChars n ≠ [] := by
  intro hnil
  have hlen := length_natChars n
  rw [hnil] at hlen
  simp at hlen

/-- The first digit of a number with two digits or more is not zero. -/
theorem head_natChars (hlog : Nat.log 10 n ≠ 0) : (natChars n).head? ≠ some '0' := by
  intro hhead
  have hdigit : digitChar (n / 10 ^ Nat.log 10 n % 10) = '0' := Option.some.inj hhead
  have hzero := digitValue_digitChar (Nat.mod_lt (n / 10 ^ Nat.log 10 n) (show 0 < 10 by decide))
  rw [hdigit] at hzero
  have hmod : n / 10 ^ Nat.log 10 n % 10 = 0 := (Option.some.inj hzero).symm
  have hpositive : n ≠ 0 := by
    rintro rfl
    exact hlog (Nat.log_zero_right 10)
  have hlow : 1 ≤ n / 10 ^ Nat.log 10 n :=
    Nat.div_pos (Nat.pow_log_le_self 10 hpositive) (Nat.pow_pos (by decide))
  have hhigh : n / 10 ^ Nat.log 10 n < 10 := by
    refine Nat.div_lt_of_lt_mul ?_
    rw [← Nat.pow_succ]
    exact Nat.lt_pow_succ_log_self (by decide) n
  omega

/-- A number is read back from its digits. -/
theorem readNat_natChars (n : Nat) : readNat (natChars n) = some n := by
  have hshape : ¬ (natChars n = [] ∨ (natChars n).head? = some '0' ∧ (natChars n).length ≠ 1) := by
    rintro (hnil | ⟨hhead, hlen⟩)
    · exact natChars_ne_nil n hnil
    · rw [length_natChars] at hlen
      exact head_natChars (fun hlog => hlen (by rw [hlog])) hhead
  have hread := readDigits_of_lt (Nat.lt_pow_succ_log_self (by decide : 1 < 10) n) []
  rw [List.append_nil] at hread
  rw [readNat, if_neg hshape, length_natChars, natChars, hread]
  rfl

/-- Numbers are made of digits. -/
theorem isDigit_of_mem_natChars (h : c ∈ natChars n) : isDigit c = true :=
  isDigit_of_mem_digitChars h

theorem ne_of_isDigit {d : Char} (hc : isDigit c = true) (hd : isDigit d = false) : c ≠ d := by
  rintro rfl
  rw [hc] at hd
  cases hd

/-- A number is read back as an integer. -/
theorem readInt_natChars (n : Nat) : readInt (natChars n) = some (n : Int) := by
  rw [readInt.eq_def]
  split
  next token heq =>
    have hminus : '-' ∈ natChars n := by
      rw [heq]
      exact List.mem_cons_self
    exact absurd rfl (ne_of_isDigit (isDigit_of_mem_natChars hminus) (by decide))
  next => rw [readNat_natChars, Option.map_some]

/-- An integer is read back from its digits. -/
theorem readInt_intChars (n : Int) : readInt (intChars n) = some n := by
  unfold intChars
  by_cases hneg : n < 0
  · rw [if_pos hneg, readInt, readNat_natChars, Option.map_some]
    congr 1
    omega
  · rw [if_neg hneg, readInt_natChars]
    congr 1
    omega

/-- An integer has no mark of a float. -/
theorem intChars_number {n : Int} (h : c ∈ intChars n) :
    isNumberChar c = true ∧ isFloatMark c = false := by
  have hdigit : ∀ d ∈ natChars n.natAbs, isNumberChar d = true ∧ isFloatMark d = false := by
    intro d hd
    have hd := isDigit_of_mem_natChars hd
    refine ⟨by simp [isNumberChar, hd], ?_⟩
    have hdot := ne_of_isDigit hd (show isDigit '.' = false by decide)
    have hlower := ne_of_isDigit hd (show isDigit 'e' = false by decide)
    have hupper := ne_of_isDigit hd (show isDigit 'E' = false by decide)
    simp [isFloatMark, hdot, hlower, hupper]
  unfold intChars at h
  split at h
  · rcases List.mem_cons.mp h with rfl | h
    · decide
    · exact hdigit c h
  · exact hdigit c h

/-- An integer has a digit. -/
theorem intChars_ne_nil (n : Int) : intChars n ≠ [] := by
  unfold intChars
  split
  · exact List.cons_ne_nil _ _
  · exact natChars_ne_nil _

/-- A text that does not continue a number. -/
def Ends (rest : List Char) : Prop := ∀ c ∈ rest.head?, isNumberChar c = false

/-- Nothing continues a number at the end. -/
theorem Ends.nil : Ends [] := by simp [Ends]

/-- A character that continues no number. -/
theorem Ends.cons (h : isNumberChar c = false) (rest : List Char) : Ends (c :: rest) := by
  simpa [Ends] using h

/-- The longest run of number characters. -/
theorem span_token (htoken : ∀ c ∈ token, isNumberChar c = true) (hrest : Ends rest) :
    (token ++ rest).takeWhile isNumberChar = token ∧ (token ++ rest).dropWhile isNumberChar = rest := by
  rw [List.takeWhile_append_of_pos htoken, List.dropWhile_append_of_pos htoken]
  cases rest with
  | nil => simp
  | cons c =>
    have hc : ¬ isNumberChar c = true := by simp [hrest c rfl]
    rw [List.takeWhile_cons_of_neg hc, List.dropWhile_cons_of_neg hc, List.append_nil]
    exact ⟨rfl, rfl⟩

/-- The number at the front of a text. -/
def readNumber {φ : Type} (floats : FloatText φ) (text : List Char) : Option (Value φ × List Char) :=
  let token := text.takeWhile isNumberChar
  let rest := text.dropWhile isNumberChar
  if token.any isFloatMark then (floats.parse token).map fun x => (.float x, rest)
  else (readInt token).map fun n => (.int n, rest)

/-- An integer is read back. -/
theorem readNumber_intChars (floats : FloatText φ) (n : Int)
    (hrest : Ends rest) : readNumber floats (intChars n ++ rest) = some (.int n, rest) := by
  obtain ⟨htake, hdrop⟩ := span_token (fun c hc => (intChars_number (n := n) hc).1) hrest
  have hplain : (intChars n).any isFloatMark = false :=
    List.any_eq_false.mpr fun c hc => by simp [(intChars_number hc).2]
  simp only [readNumber, htake, hdrop, hplain, readInt_intChars, Option.map_some]
  rfl

/-- A float is read back. -/
theorem readNumber_repr {floats : FloatText φ} {x : φ} (hx : floats.Exact x) (hrest : Ends rest) :
    readNumber floats (floats.repr x ++ rest) = some (.float x, rest) := by
  obtain ⟨htake, hdrop⟩ := span_token hx.number hrest
  simp only [readNumber, htake, hdrop, hx.marked, if_true, hx.parse_repr, Option.map_some]

/-! ## Strings -/

/-- A hexadecimal digit. -/
def hexChar (d : Nat) : Char := if d < 10 then digitChar d else Char.ofNat (87 + d)

/-- The value of a hexadecimal digit. -/
def hexValue (c : Char) : Option Nat :=
  if 97 ≤ c.toNat ∧ c.toNat ≤ 102 then some (c.toNat - 87)
  else if 65 ≤ c.toNat ∧ c.toNat ≤ 70 then some (c.toNat - 55)
  else digitValue c

/-- A digit is read back. -/
theorem hexValue_hexChar {d : Nat} (h : d < 16) : hexValue (hexChar d) = some d := by
  interval_cases d <;> rfl

/-- The characters with an escape of one letter. -/
def escapes : List (Char × Char) :=
  [('"', '"'), ('\\', '\\'), (Char.ofNat 8, 'b'), (Char.ofNat 12, 'f'), ('\n', 'n'), ('\r', 'r'),
    ('\t', 't')]

/-- Other control characters are written with four hexadecimal digits. -/
def escapeChar (c : Char) : List Char :=
  match escapes.lookup c with
  | some letter => ['\\', letter]
  | none =>
    if c.toNat < 32 then
      ['\\', 'u', '0', '0', hexChar (c.toNat / 16), hexChar (c.toNat % 16)]
    else [c]

/-- A string in quotes. -/
def stringChars (s : String) : List Char := '"' :: (s.toList.flatMap escapeChar ++ ['"'])

/-- The character of a short escape. -/
def unescape (letter : Char) : Option Char :=
  if letter = '/' then some '/' else (escapes.find? (·.2 = letter)).map Prod.fst

/-- Four hexadecimal digits. -/
def readHex (a b c d : Char) : Option Nat := do
  some (4096 * (← hexValue a) + 256 * (← hexValue b) + 16 * (← hexValue c) + (← hexValue d))

/-- The character after `\u`; a pair of surrogates is one character. -/
def readUnicode : List Char → Option (Char × List Char)
  | a :: b :: c :: d :: rest => do
    let n ← readHex a b c d
    if n < 0xD800 ∨ 0xE000 ≤ n then some (Char.ofNat n, rest)
    else
      match rest with
      | '\\' :: 'u' :: a :: b :: c :: d :: rest => do
        let m ← readHex a b c d
        if n < 0xDC00 ∧ 0xDC00 ≤ m ∧ m < 0xE000 then
          some (Char.ofNat (0x10000 + (n - 0xD800) * 0x400 + (m - 0xDC00)), rest)
        else none
      | _ => none
  | _ => none

/-- The next character of a string, or its end. -/
def readChar : List Char → Option (Option Char × List Char)
  | [] => none
  | c :: rest =>
    if c = '"' then some (none, rest)
    else if c = '\\' then
      match rest with
      | [] => none
      | letter :: rest =>
        if letter = 'u' then (readUnicode rest).map fun (c, rest) => (some c, rest)
        else (unescape letter).map fun c => (some c, rest)
    else if c.toNat < 32 then none
    else some (some c, rest)

/-- The characters of a string up to its end. -/
def readString : Nat → List Char → Option (List Char × List Char)
  | 0, _ => none
  | fuel + 1, text =>
    match readChar text with
    | none => none
    | some (none, rest) => some ([], rest)
    | some (some c, rest) => (readString fuel rest).map fun (cs, rest) => (c :: cs, rest)

/-- Short escapes are read back. -/
theorem unescape_of_mem : ∀ p ∈ escapes, p.2 ≠ 'u' ∧ unescape p.2 = some p.1 := by decide

/-- A character is read back from its escape. -/
theorem readChar_escapeChar (c : Char) (rest : List Char) :
    readChar (escapeChar c ++ rest) = some (some c, rest) := by
  unfold escapeChar
  split
  next letter hlookup =>
    have hmem : (c, letter) ∈ escapes := by
      obtain ⟨before, after, hsplit, -⟩ := List.lookup_eq_some_iff.mp hlookup
      rw [hsplit]
      simp
    obtain ⟨hu, hread⟩ := unescape_of_mem _ hmem
    simp only [List.cons_append, List.nil_append, readChar, if_neg hu, hread, Option.map_some]
    rfl
  next hlookup =>
    have hplain : c ≠ '"' ∧ c ≠ '\\' := by
      constructor <;>
      · rintro rfl
        revert hlookup
        decide
    by_cases hcontrol : c.toNat < 32
    · have hhigh := hexValue_hexChar (show c.toNat / 16 < 16 by omega)
      have hlow := hexValue_hexChar (Nat.mod_lt c.toNat (show 0 < 16 by decide))
      have hcode : readHex '0' '0' (hexChar (c.toNat / 16)) (hexChar (c.toNat % 16)) = some c.toNat := by
        have hzero : hexValue '0' = some 0 := rfl
        simp only [readHex, hzero, hhigh, hlow, Option.bind_eq_bind, Option.bind_some]
        congr 1
        omega
      have hsmall : c.toNat < 0xD800 ∨ 0xE000 ≤ c.toNat := by omega
      rw [if_pos hcontrol]
      simp only [List.cons_append, List.nil_append, readChar, readUnicode, hcode, hsmall, if_true,
        Option.bind_eq_bind, Option.bind_some, Option.map_some, Char.ofNat_toNat]
      rfl
    · rw [if_neg hcontrol]
      simp only [List.cons_append, List.nil_append, readChar, if_neg hplain.1, if_neg hplain.2,
        if_neg hcontrol]

/-- A string is read back from its escapes. -/
theorem readString_stringChars (cs rest : List Char) :
    ∀ fuel, cs.length < fuel →
      readString fuel (cs.flatMap escapeChar ++ '"' :: rest) = some (cs, rest) := by
  induction cs with
  | nil =>
    rintro (_ | fuel) hfuel
    · contradiction
    · simp [readString, readChar]
  | cons c cs ih =>
    rintro (_ | fuel) hfuel
    · contradiction
    · have hrest := ih fuel (Nat.lt_of_succ_lt_succ hfuel)
      rw [List.flatMap_cons, List.append_assoc, readString, readChar_escapeChar]
      simp only [hrest, Option.map_some]

/-! ## Lists in brackets -/

/-- White space. -/
def isSpace (c : Char) : Bool := c = ' ' || c = '\n' || c = '\r' || c = '\t'

/-- The text after white space. -/
def skipSpace (text : List Char) : List Char := text.dropWhile isSpace

/-- A gap is skipped. -/
theorem skipSpace_append {gap : List Char} (hgap : ∀ c ∈ gap, isSpace c = true) (text : List Char) :
    skipSpace (gap ++ text) = skipSpace text := List.dropWhile_append_of_pos hgap

theorem skipSpace_cons (h : isSpace c = false) (text : List Char) :
    skipSpace (c :: text) = c :: text := List.dropWhile_cons_of_neg (by simp [h])

section Brackets

variable {α : Type} (element : List Char → Option (α × List Char)) (close : Char)

/-- The elements after the first. -/
def parseRest : Nat → List Char → Option (List α × List Char)
  | 0, _ => none
  | fuel + 1, text =>
    match skipSpace text with
    | [] => none
    | c :: rest =>
      if c = close then some ([], rest)
      else if c = ',' then
        (element rest).bind fun (x, rest) =>
          (parseRest fuel rest).map fun (xs, rest) => (x :: xs, rest)
      else none

/-- The elements up to a closing bracket. -/
def parseElements (fuel : Nat) (text : List Char) : Option (List α × List Char) :=
  match skipSpace text with
  | [] => none
  | c :: rest =>
    if c = close then some ([], rest)
    else
      (element (c :: rest)).bind fun (x, rest) =>
        (parseRest element close fuel rest).map fun (xs, rest) => (x :: xs, rest)

/-- Texts with a separator between them. -/
def separated (comma : List Char) : List (List Char) → List Char
  | [] => []
  | text :: texts => text ++ texts.flatMap (comma ++ ·)

/-- A text that is read as an element, with any space in front of it. -/
structure Reads (x : α) (text : List Char) : Prop where
  opens : ∃ c cs, text = c :: cs ∧ isSpace c = false ∧ c ≠ close
  reads : ∀ gap rest, (∀ c ∈ gap, isSpace c = true) → Ends rest →
    element (gap ++ (text ++ rest)) = some (x, rest)

/-- A bracket is no part of an element. -/
structure Closes : Prop where
  space : isSpace close = false
  number : isNumberChar close = false
  comma : close ≠ ','

variable {element close}

/-- No number goes on into the next item. -/
theorem ends_rest (hclose : Closes close) (gap rest : List Char) (texts : List (List Char)) :
    Ends (texts.flatMap (',' :: gap ++ ·) ++ close :: rest) := by
  cases texts with
  | nil => exact Ends.cons hclose.number rest
  | cons => exact Ends.cons (by decide) _

section

variable {gap : List Char} {xs : List α} {texts : List (List Char)} (hclose : Closes close)
  (hgap : ∀ c ∈ gap, isSpace c = true) (rest : List Char)
  (h : List.Forall₂ (Reads element close) xs texts)
include hclose hgap h

/-- The rest of a sequence is read back. -/
theorem parseRest_texts :
    ∀ fuel, xs.length < fuel →
      parseRest element close fuel (texts.flatMap (',' :: gap ++ ·) ++ close :: rest) =
        some (xs, rest) := by
  induction h with
  | nil =>
    rintro (_ | fuel) hfuel
    · contradiction
    · simp [parseRest, skipSpace_cons hclose.space]
  | @cons x text xs texts hx _ ih =>
    rintro (_ | fuel) hfuel
    · contradiction
    · have htail := ih fuel (Nat.lt_of_succ_lt_succ hfuel)
      have hfirst := hx.reads gap _ hgap (ends_rest hclose gap rest texts)
      have hcomma : skipSpace (',' :: (gap ++ (text ++ (texts.flatMap (',' :: gap ++ ·) ++
          close :: rest)))) = _ := skipSpace_cons (by decide) _
      simp only [List.flatMap_cons, List.cons_append, List.append_assoc] at hcomma hfirst htail ⊢
      rw [parseRest, hcomma]
      simp only [if_neg hclose.comma.symm, if_true, hfirst, Option.bind_some, htail, Option.map_some]

/-- Elements are read back from their separated texts. -/
theorem parseElements_separated {fuel : Nat} (hfuel : xs.length ≤ fuel) :
    parseElements element close fuel (separated (',' :: gap) texts ++ close :: rest) =
      some (xs, rest) := by
  cases h with
  | nil => simp [parseElements, separated, skipSpace_cons hclose.space]
  | @cons x text xs texts hx hxs =>
    obtain ⟨c, cs, hopen, hspace, hne⟩ := hx.opens
    have hfirst := hx.reads [] _ (by simp) (ends_rest hclose gap rest texts)
    have htail := parseRest_texts hclose hgap rest hxs fuel hfuel
    simp only [parseElements, separated, List.append_assoc]
    rw [hopen] at hfirst ⊢
    simp only [List.nil_append, List.cons_append] at hfirst htail ⊢
    rw [skipSpace_cons hspace]
    simp only [if_neg hne, hfirst, Option.bind_some, htail, Option.map_some]

end

end Brackets

/-! ## Values -/

/-- Separators with or without a space after them. -/
inductive Style where
  | compact
  | spaced
deriving DecidableEq

/-- What stands after a comma or colon. -/
def Style.gap : Style → List Char
  | .compact => []
  | .spaced => [' ']

/-- It is white space. -/
theorem Style.gap_space (style : Style) : ∀ c ∈ style.gap, isSpace c = true := by
  cases style <;> simp [Style.gap, isSpace]

section Values

variable {φ : Type} (floats : FloatText φ)

section Print

variable (style : Style)

mutual

/-- The text of a value. -/
def chars : Value φ → List Char
  | .null => ['n', 'u', 'l', 'l']
  | .bool true => ['t', 'r', 'u', 'e']
  | .bool false => ['f', 'a', 'l', 's', 'e']
  | .int n => intChars n
  | .float x => floats.repr x
  | .string s => stringChars s
  | .array items => '[' :: (separated (',' :: style.gap) (itemTexts items) ++ [']'])
  | .object fields => '{' :: (separated (',' :: style.gap) (fieldTexts fields) ++ ['}'])

/-- The texts of items. -/
def itemTexts : List (Value φ) → List (List Char)
  | [] => []
  | item :: items => chars item :: itemTexts items

/-- The texts of fields. -/
def fieldTexts : List (String × Value φ) → List (List Char)
  | [] => []
  | (key, value) :: fields => (stringChars key ++ ':' :: (style.gap ++ chars value)) :: fieldTexts fields

end

end Print

/-- The text of a value. -/
def print (style : Style) (value : Value φ) : String := String.ofList (chars floats style value)

/-- Read a word. -/
def literal (word text : List Char) : Option (List Char) :=
  if word <+: text then some (text.drop word.length) else none

/-- Read a key and its value. -/
def parseField (value : List Char → Option (Value φ × List Char)) (fuel : Nat) (text : List Char) :
    Option ((String × Value φ) × List Char) :=
  (expect '"' (skipSpace text)).bind fun rest =>
    (readString fuel rest).bind fun (key, rest) =>
      (expect ':' (skipSpace rest)).bind fun rest =>
        (value rest).map fun (value, rest) => ((String.ofList key, value), rest)

/-- Read a value in front of a text. -/
def parseValue : Nat → List Char → Option (Value φ × List Char)
  | 0, _ => none
  | fuel + 1, text =>
    match skipSpace text with
    | [] => none
    | c :: rest =>
      if c = '"' then (readString fuel rest).map fun (cs, rest) => (.string (String.ofList cs), rest)
      else if c = '[' then
        (parseElements (parseValue fuel) ']' fuel rest).map fun (items, rest) => (.array items, rest)
      else if c = '{' then
        (parseElements (parseField (parseValue fuel) fuel) '}' fuel rest).map
          fun (fields, rest) => (.object fields, rest)
      else if c = 't' then (literal ['r', 'u', 'e'] rest).map fun rest => (.bool true, rest)
      else if c = 'f' then (literal ['a', 'l', 's', 'e'] rest).map fun rest => (.bool false, rest)
      else if c = 'n' then (literal ['u', 'l', 'l'] rest).map fun rest => (.null, rest)
      else readNumber floats (c :: rest)

/-- Read a whole text as one value. -/
def parse (text : String) : Option (Value φ) :=
  (parseValue floats (text.toList.length + 1) text.toList).bind fun (value, rest) =>
    if skipSpace rest = [] then some value else none

mutual

/-- The floats in a value. -/
def floatsOf : Value φ → List φ
  | .float x => [x]
  | .array items => itemFloats items
  | .object fields => fieldFloats fields
  | _ => []

/-- The floats in items. -/
def itemFloats : List (Value φ) → List φ
  | [] => []
  | item :: items => floatsOf item ++ itemFloats items

/-- The floats in fields. -/
def fieldFloats : List (String × Value φ) → List φ
  | [] => []
  | (_, value) :: fields => floatsOf value ++ fieldFloats fields

end

/-! ## Reading back -/

/-- The first character of a value: no space and no closing bracket. -/
def Starts (c : Char) : Prop := isSpace c = false ∧ c ≠ ']' ∧ c ≠ '}'

/-- A number is not taken for anything else. -/
theorem isNumberChar_start (h : isNumberChar c = true) :
    Starts c ∧ c ≠ '"' ∧ c ≠ '[' ∧ c ≠ '{' ∧ c ≠ 't' ∧ c ≠ 'f' ∧ c ≠ 'n' := by
  have hne : ∀ d, isNumberChar d = false → c ≠ d := by
    rintro d hd rfl
    rw [h] at hd
    cases hd
  have hspace : isSpace c = false := by
    have h₁ := hne ' ' (by decide)
    have h₂ := hne '\n' (by decide)
    have h₃ := hne '\r' (by decide)
    have h₄ := hne '\t' (by decide)
    simp [isSpace, h₁, h₂, h₃, h₄]
  exact ⟨⟨hspace, hne _ (by decide), hne _ (by decide)⟩, hne _ (by decide), hne _ (by decide),
    hne _ (by decide), hne _ (by decide), hne _ (by decide), hne _ (by decide)⟩

variable {floats}

/-- White space in front is skipped. -/
theorem parseValue_gap {gap : List Char} (hgap : ∀ c ∈ gap, isSpace c = true) (fuel : Nat)
    (text : List Char) : parseValue floats fuel (gap ++ text) = parseValue floats fuel text := by
  cases fuel with
  | zero => rfl
  | succ => simp only [parseValue, skipSpace_append hgap]

/-- A text of number characters is read as a number. -/
theorem parseValue_number (htoken : ∀ c ∈ token, isNumberChar c = true)
    (hsome : token ≠ []) (fuel : Nat) (rest : List Char) :
    parseValue floats (fuel + 1) (token ++ rest) = readNumber floats (token ++ rest) := by
  obtain ⟨c, cs, rfl⟩ := List.exists_cons_of_ne_nil hsome
  obtain ⟨⟨hspace, -, -⟩, hquote, hsquare, hbrace, ht, hf, hn⟩ :=
    isNumberChar_start (htoken c List.mem_cons_self)
  simp only [List.cons_append, parseValue, skipSpace_cons hspace, hquote, hsquare, hbrace, ht, hf, hn,
    if_false]

/-- A float has a character. -/
theorem Exact.repr_ne_nil {x : φ} (hx : floats.Exact x) : floats.repr x ≠ [] := by
  intro hnil
  have hmark := hx.marked
  rw [hnil] at hmark
  contradiction

variable {value : Value φ}

/-- How the text of a value starts. -/
theorem chars_starts (style : Style) (h : ∀ x ∈ floatsOf value, floats.Exact x) :
    ∃ c cs, chars floats style value = c :: cs ∧ Starts c := by
  have hnumber : ∀ token : List Char, (∀ c ∈ token, isNumberChar c = true) → token ≠ [] →
      ∃ c cs, token = c :: cs ∧ Starts c := by
    intro token htoken hsome
    obtain ⟨c, cs, rfl⟩ := List.exists_cons_of_ne_nil hsome
    exact ⟨c, cs, rfl, (isNumberChar_start (htoken c List.mem_cons_self)).1⟩
  have hplain : ∀ c, isSpace c = false → c ≠ ']' → c ≠ '}' → Starts c := fun _ h₁ h₂ h₃ => ⟨h₁, h₂, h₃⟩
  cases value with
  | int n =>
    rw [chars]
    exact hnumber _ (fun c hc => (intChars_number hc).1) (intChars_ne_nil n)
  | float x =>
    have hx := h x (by simp [floatsOf])
    rw [chars]
    exact hnumber _ hx.number (Exact.repr_ne_nil hx)
  | bool b =>
    cases b <;> exact ⟨_, _, by rw [chars], hplain _ (by decide) (by decide) (by decide)⟩
  | string => exact ⟨_, _, by rw [chars, stringChars], hplain _ (by decide) (by decide) (by decide)⟩
  | null | array _ | object _ =>
    exact ⟨_, _, by rw [chars], hplain _ (by decide) (by decide) (by decide)⟩

/-- The fuel of the text suffices for its parts. -/
theorem length_le_separated (c : Char) (gap : List Char) (texts : List (List Char)) :
    texts.length ≤ (separated (c :: gap) texts).length + 1 ∧
      ∀ text ∈ texts, text.length ≤ (separated (c :: gap) texts).length := by
  cases texts with
  | nil => simp
  | cons first rest =>
    have hrest : rest.length ≤ (rest.flatMap (c :: gap ++ ·)).length ∧
        ∀ text ∈ rest, text.length ≤ (rest.flatMap (c :: gap ++ ·)).length := by
      induction rest with
      | nil => simp
      | cons second rest ih =>
        simp only [List.flatMap_cons, List.length_append, List.length_cons, List.forall_mem_cons]
        refine ⟨by omega, by omega, fun text htext => ?_⟩
        have hlen := ih.2 text htext
        omega
    simp only [separated, List.length_append, List.length_cons, List.forall_mem_cons]
    refine ⟨by omega, by omega, fun text htext => ?_⟩
    have hlen := hrest.2 text htext
    omega

theorem closes_square : Closes ']' := ⟨by decide, by decide, by decide⟩

theorem closes_brace : Closes '}' := ⟨by decide, by decide, by decide⟩

/-- A quoted string takes less fuel than its text has characters. -/
theorem length_le_stringChars (s : String) : s.toList.length + 2 ≤ (stringChars s).length := by
  have hescapes : ∀ cs : List Char, cs.length ≤ (cs.flatMap escapeChar).length := by
    intro cs
    induction cs with
    | nil => simp
    | cons c =>
      have hone : 1 ≤ (escapeChar c).length := by
        unfold escapeChar
        split
        · simp
        · split <;> simp
      simp only [List.flatMap_cons, List.length_append, List.length_cons]
      omega
  have := hescapes s.toList
  simp only [stringChars, List.length_cons, List.length_append, List.length_nil]
  omega

variable (style : Style)

/-- A field is read back if its value is. -/
theorem reads_field {fuel : Nat} {key : String} {text : List Char}
    (hvalue : Reads (parseValue floats fuel) '}' value text)
    (hfuel : (stringChars key).length < fuel) :
    Reads (parseField (parseValue floats fuel) fuel) '}' (key, value)
      (stringChars key ++ ':' :: (style.gap ++ text)) := by
  refine ⟨⟨_, _, by rw [stringChars]; rfl, by decide, by decide⟩, fun gap rest hgap hrest => ?_⟩
  have hkey := readString_stringChars key.toList (':' :: (style.gap ++ (text ++ rest))) fuel (by
    have := length_le_stringChars key
    omega)
  have htext := hvalue.reads style.gap rest style.gap_space hrest
  have hquote : isSpace '"' = false := by decide
  have hcolon : isSpace ':' = false := by decide
  simp only [parseField, skipSpace_append hgap, stringChars, List.cons_append, List.append_assoc,
    List.nil_append, skipSpace_cons hquote, expect_cons, Option.bind_some, hkey, skipSpace_cons hcolon,
    htext, Option.map_some, String.ofList_toList]

mutual

/-- A value is read back. -/
theorem parseValue_chars (value : Value φ) (h : ∀ x ∈ floatsOf value, floats.Exact x) (fuel : Nat)
    (hfuel : (chars floats style value).length < fuel) (rest : List Char) (hrest : Ends rest) :
    parseValue floats fuel (chars floats style value ++ rest) = some (value, rest) := by
  obtain _ | fuel := fuel
  · exact absurd hfuel (Nat.not_lt_zero _)
  match value with
  | .null | .bool true | .bool false => simp [chars, parseValue, skipSpace_cons, isSpace, literal]
  | .int n =>
    rw [chars, parseValue_number (fun c hc => (intChars_number hc).1) (intChars_ne_nil n),
      readNumber_intChars floats n hrest]
  | .float x =>
    have hx := h x (by simp [floatsOf])
    rw [chars, parseValue_number hx.number (Exact.repr_ne_nil hx), readNumber_repr hx hrest]
  | .string s =>
    have hlen := length_le_stringChars s
    rw [chars] at hfuel
    have hread := readString_stringChars s.toList rest fuel (by omega)
    have hquote : isSpace '"' = false := by decide
    simp only [chars, stringChars, List.cons_append, List.append_assoc, List.nil_append, parseValue,
      skipSpace_cons hquote, if_true, hread, Option.map_some, String.ofList_toList]
  | .array items =>
    have hsize := length_le_separated ',' style.gap (itemTexts floats style items)
    simp only [chars, List.length_cons, List.length_append, List.length_nil] at hfuel
    have hitems := reads_items items (by simpa only [floatsOf] using h) fuel (fun text htext => by
      have := hsize.2 text htext
      omega)
    have hlen : items.length ≤ fuel := by
      have := hitems.length_eq
      omega
    have hread := parseElements_separated closes_square style.gap_space rest hitems hlen
    have hsquare : isSpace '[' = false := by decide
    simp only [chars, List.cons_append, List.append_assoc, List.nil_append, parseValue,
      skipSpace_cons hsquare, if_true, hread, Option.map_some]
    rfl
  | .object fields =>
    have hsize := length_le_separated ',' style.gap (fieldTexts floats style fields)
    simp only [chars, List.length_cons, List.length_append, List.length_nil] at hfuel
    have hfields := reads_fields fields (by simpa only [floatsOf] using h) fuel (fun text htext => by
      have := hsize.2 text htext
      omega)
    have hlen : fields.length ≤ fuel := by
      have := hfields.length_eq
      omega
    have hread := parseElements_separated closes_brace style.gap_space rest hfields hlen
    have hbrace : isSpace '{' = false := by decide
    simp only [chars, List.cons_append, List.append_assoc, List.nil_append, parseValue,
      skipSpace_cons hbrace, if_true, hread, Option.map_some]
    rfl

/-- Items are read back. -/
theorem reads_items (items : List (Value φ)) (h : ∀ x ∈ itemFloats items, floats.Exact x) (fuel : Nat)
    (hfuel : ∀ text ∈ itemTexts floats style items, text.length < fuel) :
    List.Forall₂ (Reads (parseValue floats fuel) ']') items (itemTexts floats style items) := by
  match items with
  | [] =>
    rw [itemTexts]
    exact .nil
  | item :: items =>
    simp only [itemFloats, List.mem_append] at h
    simp only [itemTexts, List.forall_mem_cons] at hfuel ⊢
    obtain ⟨c, cs, hchars, hspace, hclose, -⟩ := chars_starts style (fun x hx => h x (.inl hx))
    refine .cons ⟨⟨c, cs, hchars, hspace, hclose⟩, fun gap rest hgap hrest => ?_⟩
      (reads_items items (fun x hx => h x (.inr hx)) fuel hfuel.2)
    rw [parseValue_gap hgap]
    exact parseValue_chars item (fun x hx => h x (.inl hx)) fuel hfuel.1 rest hrest

/-- Fields are read back. -/
theorem reads_fields (fields : List (String × Value φ))
    (h : ∀ x ∈ fieldFloats fields, floats.Exact x) (fuel : Nat)
    (hfuel : ∀ text ∈ fieldTexts floats style fields, text.length < fuel) :
    List.Forall₂ (Reads (parseField (parseValue floats fuel) fuel) '}') fields
      (fieldTexts floats style fields) := by
  match fields with
  | [] =>
    rw [fieldTexts]
    exact .nil
  | (key, value) :: fields =>
    simp only [fieldFloats, List.mem_append] at h
    simp only [fieldTexts, List.forall_mem_cons, List.length_append, List.length_cons] at hfuel ⊢
    obtain ⟨c, cs, hchars, hspace, -, hclose⟩ := chars_starts style (fun x hx => h x (.inl hx))
    refine .cons (reads_field style ⟨⟨c, cs, hchars, hspace, hclose⟩, fun gap rest hgap hrest => ?_⟩
      (by omega)) (reads_fields fields (fun x hx => h x (.inr hx)) fuel hfuel.2)
    rw [parseValue_gap hgap]
    exact parseValue_chars value (fun x hx => h x (.inl hx)) fuel (by omega) rest hrest

end

/-- A value is read back from its text. -/
theorem parse_print (value : Value φ) (h : ∀ x ∈ floatsOf value, floats.Exact x) :
    parse floats (print floats style value) = some value := by
  have hread := parseValue_chars style value h _ (Nat.lt_succ_self _) [] Ends.nil
  rw [List.append_nil] at hread
  rw [parse, print, String.toList_ofList, hread]
  rfl

end Values

end JsonText
