import LimnoPulse.Library.JsonText

/-!
# Flux string literals

Queries write texts as Flux string literals.  The evaluator and the API write them apart: both
start from JSON, and JSON escapes what Flux cannot read.

Main result:

- Theorem `fluxV2String_agrees`: both write the same literal, and Flux reads the text back
  from it without interpolation.
-/

namespace LimnoPulse.Flux

open JsonText

/-- Controls that Flux cannot read. -/
def fluxRejectedControl (code : Nat) : Bool :=
  code ≤ 8 || code = 11 || code = 12 || (14 ≤ code && code ≤ 31)

/-- The name of a control. -/
def controlName (code : Nat) : String :=
  "U+00" ++ String.ofList [hexChar (code / 16), (hexChar (code % 16)).toUpper]

/-- A dollar is escaped, so that nothing is interpolated. -/
def replaceDollar (c : Char) : List Char := if c = '$' then ['\\', 'x', '2', '4'] else [c]

/-- A Python text is a list of code points. -/
def fluxStringLiteral (value : List Nat) : Except String String :=
  match value.find? fluxRejectedControl with
  | some control => .error ("Flux string literal holds control character " ++ controlName control)
  | none =>
    if value.all fun code => decide code.isValidChar then
      .ok (String.ofList ((stringChars (String.ofList (value.map Char.ofNat))).flatMap replaceDollar))
    else .error "Flux string literal is not valid Unicode text"

/-- Control characters that `fluxV2String` rejects. -/
def rejectedFluxControl (char : Char) : Bool :=
  char.toNat < 32 && char ≠ '\n' && char ≠ '\r' && char ≠ '\t'

/-- Go's JSON encoder escapes the two separators as well. -/
def encodeChar (c : Char) : List Char :=
  if c = '\u2028' then ['\\', 'u', '2', '0', '2', '8']
  else if c = '\u2029' then ['\\', 'u', '2', '0', '2', '9']
  else escapeChar c

/-- The replacer takes its first pattern at each position. -/
def fluxV2Finish : List Char → List Char
  | '\\' :: '\\' :: rest => '\\' :: '\\' :: fluxV2Finish rest
  | '\\' :: 'u' :: '2' :: '0' :: '2' :: '8' :: rest => '\u2028' :: fluxV2Finish rest
  | '\\' :: 'u' :: '2' :: '0' :: '2' :: '9' :: rest => '\u2029' :: fluxV2Finish rest
  | '$' :: rest => '\\' :: 'x' :: '2' :: '4' :: fluxV2Finish rest
  | c :: rest => c :: fluxV2Finish rest
  | [] => []

/-- A text of Go is any sequence of bytes. -/
def fluxV2String (value : ByteArray) : Except String String :=
  match String.fromUTF8? value with
  | none => .error "flux string literal is not valid UTF-8"
  | some text =>
    match text.toList.find? rejectedFluxControl with
    | some control =>
      .error ("flux string literal holds control character " ++ controlName control.toNat)
    | none =>
      .ok (String.ofList (fluxV2Finish ('"' :: (text.toList.flatMap encodeChar ++ ['"']))))

/-- What is read, and the text behind the closing quote. -/
inductive Reading where
  | text (bytes : List UInt8) (rest : List Char)
  | interpolated
  | malformed

/-- Bytes before the rest. -/
def Reading.push (bytes : List UInt8) : Reading → Reading
  | .text later rest => .text (bytes ++ later) rest
  | reading => reading

/-- The short escapes. -/
def byteEscapes : List (Char × UInt8) := [('n', 10), ('r', 13), ('t', 9), ('\\', 92), ('"', 34)]

/-- What follows the quote. -/
def readBody : List Char → Reading
  | '"' :: rest => .text [] rest
  | '$' :: '{' :: _ => .interpolated
  | '\\' :: 'x' :: a :: b :: rest =>
    match hexValue a, hexValue b with
    | some high, some low => (readBody rest).push [UInt8.ofNat (16 * high + low)]
    | _, _ => .malformed
  | '\\' :: letter :: rest =>
    match byteEscapes.lookup letter with
    | some byte => (readBody rest).push [byte]
    | none => .malformed
  | ['\\'] | [] => .malformed
  | c :: rest => (readBody rest).push (String.utf8EncodeChar c)

/-- Read a literal. -/
def readLiteral : List Char → Reading
  | '"' :: body => readBody body
  | _ => .malformed

/-- The characters that are treated in a special way. -/
def marks : List Char := ['"', '\\', '\n', '\r', '\t', '$', '\u2028', '\u2029']

section

variable {c : Char} (hcontrol : rejectedFluxControl c = false)
include hcontrol

/-- Every other character stands for itself. -/
theorem escapeChar_plain (hmarks : c ∉ marks) : escapeChar c = [c] := by
  have hcode : ¬ c.toNat < 32 := by
    intro hlow
    simp_all [rejectedFluxControl, marks]
  have htable : ∀ p ∈ escapes, p.1 ∈ marks ∨ p.1.toNat < 32 := by decide
  have hlookup : escapes.lookup c = none := by
    refine List.lookup_eq_none_iff.mpr fun p hp => bne_iff_ne.mpr ?_
    rintro rfl
    exact (htable p hp).elim hmarks hcode
  rw [escapeChar, hlookup, if_neg hcode]

/-- A character in Go. -/
theorem finish_encodeChar (rest : List Char) :
    fluxV2Finish (encodeChar c ++ rest) =
      (escapeChar c).flatMap replaceDollar ++ fluxV2Finish rest := by
  by_cases hmarks : c ∈ marks
  · revert hmarks
    simp only [marks, List.mem_cons, List.not_mem_nil, or_false]
    rintro (rfl | rfl | rfl | rfl | rfl | rfl | rfl | rfl) <;> rfl
  · have hplain := escapeChar_plain hcontrol hmarks
    simp only [marks, List.mem_cons, List.not_mem_nil, or_false, not_or] at hmarks
    obtain ⟨-, hbackslash, -, -, -, hdollar, hline, hparagraph⟩ := hmarks
    rw [encodeChar, if_neg hline, if_neg hparagraph, hplain]
    simp [replaceDollar, hdollar, fluxV2Finish, hbackslash]

/-- A character is read back. -/
theorem readBody_literal (rest : List Char) :
    readBody ((escapeChar c).flatMap replaceDollar ++ rest) =
      (readBody rest).push (String.utf8EncodeChar c) := by
  by_cases hmarks : c ∈ marks
  · revert hmarks
    simp only [marks, List.mem_cons, List.not_mem_nil, or_false]
    rintro (rfl | rfl | rfl | rfl | rfl | rfl | rfl | rfl) <;> rfl
  · have hplain := escapeChar_plain hcontrol hmarks
    simp only [marks, List.mem_cons, List.not_mem_nil, or_false, not_or] at hmarks
    obtain ⟨hquote, hbackslash, -, -, -, hdollar, -⟩ := hmarks
    simp [hplain, replaceDollar, hdollar, readBody, hbackslash]

end

/-- Both reject the same controls. -/
theorem rejectedFluxControl_eq (c : Char) :
    rejectedFluxControl c = fluxRejectedControl c.toNat := by
  have hnewline : c = '\n' ↔ c.toNat = 10 := Char.toNat_inj.symm
  have hreturn : c = '\r' ↔ c.toNat = 13 := Char.toNat_inj.symm
  have htab : c = '\t' ↔ c.toNat = 9 := Char.toNat_inj.symm
  rw [Bool.eq_iff_iff]
  simp only [rejectedFluxControl, fluxRejectedControl, Bool.and_eq_true, Bool.or_eq_true,
    decide_eq_true_eq, ne_eq, hnewline, hreturn, htab]
  omega

/-- A text in Go. -/
theorem finish_text {cs : List Char} (hcontrols : ∀ c ∈ cs, rejectedFluxControl c = false) :
    fluxV2Finish (cs.flatMap encodeChar ++ ['"']) =
      (cs.flatMap escapeChar).flatMap replaceDollar ++ ['"'] := by
  induction cs with
  | nil => rfl
  | cons c cs ih =>
    rw [List.forall_mem_cons] at hcontrols
    rw [List.flatMap_cons, List.append_assoc, finish_encodeChar hcontrols.1, ih hcontrols.2,
      List.flatMap_cons, List.flatMap_append, List.append_assoc]

/-- A text is read back. -/
theorem readBody_text {cs : List Char} (hcontrols : ∀ c ∈ cs, rejectedFluxControl c = false) :
    readBody ((cs.flatMap escapeChar).flatMap replaceDollar ++ ['"']) =
      .text (cs.flatMap String.utf8EncodeChar) [] := by
  induction cs with
  | nil => rfl
  | cons c cs ih =>
    rw [List.forall_mem_cons] at hcontrols
    rw [List.flatMap_cons, List.flatMap_append, List.append_assoc,
      readBody_literal hcontrols.1, ih hcontrols.2]
    rfl

/-- The API sees the same rejected controls. -/
theorem find_codes (cs : List Char) :
    (cs.map Char.toNat).find? fluxRejectedControl =
      (cs.find? rejectedFluxControl).map Char.toNat := by
  rw [List.find?_map]
  exact congrArg _ (congrArg (List.find? · cs) (funext fun c => (rejectedFluxControl_eq c).symm))

/-- A text has no literal, or one that Flux reads back. -/
theorem literals_cases (v : String) :
    (∀ text, fluxV2String v.toUTF8 ≠ .ok text ∧
      fluxStringLiteral (v.toList.map Char.toNat) ≠ .ok text) ∨
    ∃ text, fluxV2String v.toUTF8 = .ok text ∧
      fluxStringLiteral (v.toList.map Char.toNat) = .ok text ∧
      readLiteral text.toList = .text (v.toList.flatMap String.utf8EncodeChar) [] := by
  have hdec : String.fromUTF8? v.toUTF8 = some v := dif_pos v.isValidUTF8
  have hcodes := find_codes v.toList
  cases hfind : v.toList.find? rejectedFluxControl with
  | some control =>
    rw [hfind, Option.map_some] at hcodes
    refine .inl fun text => ⟨?_, ?_⟩
    · simp only [fluxV2String, hdec, hfind]
      exact nofun
    · simp only [fluxStringLiteral, hcodes]
      exact nofun
  | none =>
    rw [hfind, Option.map_none] at hcodes
    have hcontrols : ∀ c ∈ v.toList, rejectedFluxControl c = false :=
      fun c hc => Bool.eq_false_iff.mpr (List.find?_eq_none.mp hfind c hc)
    have hvalid : (v.toList.map Char.toNat).all (fun code => decide code.isValidChar) = true := by
      simp only [List.all_map, List.all_eq_true, Function.comp_apply, decide_eq_true_eq]
      exact fun c _ => c.valid
    have hchars : (v.toList.map Char.toNat).map Char.ofNat = v.toList := by
      simp [Function.comp_def, Char.ofNat_toNat]
    refine .inr ⟨String.ofList
      ('"' :: ((v.toList.flatMap escapeChar).flatMap replaceDollar ++ ['"'])), ?_, ?_, ?_⟩
    · simp only [fluxV2String, hdec, hfind]
      rw [← finish_text hcontrols]
      rfl
    · simp only [fluxStringLiteral, hcodes, hvalid, if_true, hchars, String.ofList_toList,
        stringChars, List.flatMap_cons, List.flatMap_append]
      rfl
    · rw [String.toList_ofList, readLiteral, readBody_text hcontrols]

/-- The two literals of a text are the same, and Flux reads them back whole. -/
theorem fluxV2String_agrees :
    (∀ v text : String, fluxV2String v.toUTF8 = .ok text ↔
      fluxStringLiteral (v.toList.map Char.toNat) = .ok text) ∧
    (∀ v text : String, fluxV2String v.toUTF8 = .ok text →
      ∃ bytes, readLiteral text.toList = .text bytes [] ∧
        String.fromUTF8? bytes.toByteArray = some v) ∧
    ∀ value : ByteArray, ¬ value.IsValidUTF8 → ∀ text, fluxV2String value ≠ .ok text := by
  refine ⟨fun v text => ?_, fun v text htext => ?_, fun value hinvalid text => ?_⟩
  · rcases literals_cases v with hnone | ⟨same, hgo, hpython, -⟩
    · exact iff_of_false (hnone text).1 (hnone text).2
    · rw [hgo, hpython]
  · rcases literals_cases v with hnone | ⟨same, hgo, -, hread⟩
    · exact absurd htext (hnone text).1
    · cases hgo.symm.trans htext
      refine ⟨_, hread, ?_⟩
      rw [← List.utf8Encode, ← String.toByteArray_ofList, String.ofList_toList]
      exact dif_pos v.isValidUTF8
  · simp [fluxV2String, String.fromUTF8?, hinvalid]

theorem fluxV2String_agrees_dollar : fluxV2String "$\x7b".toUTF8 = .ok "\"\\x24\x7b\"" ∧
    ∃ bytes, readLiteral "\"\\x24\x7b\"".toList = .text bytes [] ∧
      String.fromUTF8? bytes.toByteArray = some "$\x7b" := by
  have hgo : fluxV2String "$\x7b".toUTF8 = .ok "\"\\x24\x7b\"" :=
    (fluxV2String_agrees.1 "$\x7b" _).mpr rfl
  exact ⟨hgo, fluxV2String_agrees.2.1 _ _ hgo⟩

end LimnoPulse.Flux
