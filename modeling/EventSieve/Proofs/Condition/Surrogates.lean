import EventSieve.Condition.Surrogates
import EventSieve.Proofs.Condition.Form
import EventSieve.Proofs.Text.CodePoint

/-!
# Compiling texts without surrogates

A row of characters may be compiled as a text that holds no surrogates, and it comes to the same:
the same condition, or the same fault.
-/

namespace EventSieve

open Text WideText

/-! ## Literals -/

theorem Text.quotedWide_ofString (s : String) : quotedWide (ofString s) = (quoted s).toList := by
  rw [quotedWide, shadow_ofString, quoted, quotedChars, String.toList_ofList, ofString,
    List.flatMap_map]
  rfl

namespace Literal

theorem unquoteWide?_map_char (cs : List Char) :
    unquoteWide? (cs.map CodePoint.char) = (unquote? cs).map (List.map CodePoint.char) := by
  cases cs with
  | nil => rfl
  | cons c cs =>
      by_cases hc : c = '"'
      · subst hc
        have hlast : (cs.map CodePoint.char).getLast? = some (.char '"') ↔
            cs.getLast? = some '"' := by
          rw [List.getLast?_map, Option.map_eq_some_iff]
          simp
        rw [List.map_cons, unquoteWide?, unquote?]
        by_cases h : cs.getLast? = some '"'
        · rw [if_pos (hlast.mpr h), if_pos h, Option.map_some, List.map_dropLast]
        · rw [if_neg (mt hlast.mp h), if_neg h, Option.map_none]
      · have hwide : unquoteWide? (CodePoint.char c :: cs.map CodePoint.char) = none := by
          unfold unquoteWide?
          split
          · next heq =>
            cases heq
            exact absurd rfl hc
          · rfl
        have hplain : unquote? (c :: cs) = none := by
          unfold unquote?
          split
          · next heq =>
            cases heq
            exact absurd rfl hc
          · rfl
        rw [List.map_cons, hwide, hplain, Option.map_none]

theorem readWide_ofString (token : String) :
    readWide (ofString token) = (read token).map Value.widen := by
  rw [readWide, shadow_ofString, String.ofList_toList, ofString, unquoteWide?_map_char]
  cases h : unquote? token.toList with
  | none => rfl
  | some cs =>
      have hempty : token.isEmpty = false := by
        rw [Bool.eq_false_iff, Ne, String.isEmpty_iff]
        rintro rfl
        cases h
      rw [read, hempty, h, Option.map_some, ← ofString_ofList]
      rfl

theorem eq_of_readInBase_eq_notInteger {base other : Nat} {text numeral : String}
    {fault : NumeralFault} (h : readInBase base text = .error (.notInteger other numeral fault)) :
    base = other ∧ text = numeral := by
  rw [readInBase] at h
  split at h
  · cases h
    exact ⟨rfl, rfl⟩
  · split at h
    · cases h
    · cases h

/-- In a base that the token does not announce by a zero, the numeral is the token. -/
theorem eq_of_read_eq_notInteger {token numeral : String} {fault : NumeralFault}
    (h : read token = .error (.notInteger 0 numeral fault)) : token = numeral := by
  have hinteger : readInteger token = .error (.notInteger 0 numeral fault) := by
    rw [read] at h
    split at h
    · cases h
    · split at h
      · cases h
      · split at h
        · split at h
          · cases h
          · cases h
        · cases hread : readInteger token with
          | ok n =>
              rw [hread] at h
              cases h
          | error other =>
              rw [hread] at h
              cases h
              rfl
  obtain ⟨hbase, htext⟩ := eq_of_readInBase_eq_notInteger hinteger
  cases hoctal : zeroOctal? token.toList with
  | none =>
      rw [Literal.numeral, hoctal] at htext
      exact htext
  | some digits =>
      rw [Literal.numeral, hoctal] at hbase
      cases hbase

end Literal

theorem Problem.widen_literal (message : String) (details : Fields) :
    (Problem.literal (some message) (some details)).widen =
      (Problem.literal none none).retold (ofString message) (Value.widenFields details) := rfl

theorem LiteralFault.wideProblem_ofString {token : String} {fault : LiteralFault}
    (h : Literal.read token = .error fault) :
    fault.wideProblem (ofString token) = (fault.problem token).widen := by
  cases fault with
  | empty => rfl
  | outOfRange =>
      rw [wideProblem, LiteralFault.problem, Problem.widen_literal]
      simp only [ofString_append]
      rfl
  | notDouble =>
      rw [wideProblem, LiteralFault.problem, Problem.widen_literal]
      simp only [ofString_append, quotedWide_ofString, ← String.toList_append]
      rfl
  | notInteger base numeral fault =>
      have hshown : (if base = 0 then quotedWide (ofString token) else (quoted numeral).toList) =
          (quoted numeral).toList := by
        split
        · next hbase =>
          subst hbase
          rw [Literal.eq_of_read_eq_notInteger h, quotedWide_ofString]
        · rfl
      rw [wideProblem, LiteralFault.problem, Problem.widen_literal]
      simp only [ofString_append, hshown]
      rfl

theorem LiteralFault.family_wideProblem (fault : LiteralFault) (token : WideText) :
    (fault.wideProblem token).family = .literal := by
  cases fault with
  | empty => rfl
  | notDouble => rfl
  | notInteger base numeral fault => rfl
  | outOfRange => rfl

namespace Condition

theorem wideArguments?_map_char (body : List Char) :
    wideArguments? (body.map CodePoint.char) = (arguments? body).map (List.map ofString) := by
  have htrim : (List.map CodePoint.char) ∘ trimChars = WideText.trim ∘ List.map CodePoint.char := by
    funext part
    exact (trim_map_char part).symm
  have hparts : ((body.map CodePoint.char).splitOn (.char ',')).map WideText.trim =
      ((body.splitOn ',').map trimChars).map (List.map CodePoint.char) := by
    rw [splitOn_map_char, List.map_map, List.map_map, htrim]
  rw [wideArguments?, arguments?, hparts]
  generalize (body.splitOn ',').map trimChars = arguments
  have hempty : [] ∈ arguments.map (List.map CodePoint.char) ↔ [] ∈ arguments := by simp
  have htexts : ofString ∘ String.ofList = List.map CodePoint.char := funext ofString_ofList
  simp only [hempty]
  by_cases h : [] ∈ arguments
  · rw [if_pos h, if_pos h, Option.map_none]
  · rw [if_neg h, if_neg h, Option.map_some, List.map_map, htexts]

theorem inner_ofString {opening : String} {cs body : List Char} {close : Char}
    (h : cs = opening.toList ++ (body ++ [close])) :
    WideText.inner opening (cs.map CodePoint.char) = body.map CodePoint.char := by
  have hlength : opening.length = (opening.toList.map CodePoint.char).length := by
    rw [List.length_map, String.length_toList]
  rw [WideText.inner, h, List.map_append, hlength, List.drop_left, List.map_append,
    List.map_singleton, List.dropLast_concat]

theorem wideExistOf_ofString (text : String) (body : List Char) :
    wideExistOf (ofString text) (body.map CodePoint.char) =
      widenResult (existOf text body) := by
  rw [wideExistOf, existOf, wideArguments?_map_char]
  cases arguments? body with
  | none => rfl
  | some path => rfl

theorem wideEqOf_ofString (text : String) (body : List Char) :
    wideEqOf (ofString text) (body.map CodePoint.char) =
      widenResult (eqOf text body) := by
  rw [wideEqOf, eqOf, wideArguments?_map_char]
  cases arguments? body with
  | none => rfl
  | some arguments =>
      dsimp only [Option.map_some]
      rw [← List.map_dropLast, List.getLast?_map]
      cases arguments.dropLast with
      | nil => rfl
      | cons segment path =>
          cases arguments.getLast? with
          | none => rfl
          | some token =>
              rw [List.map_cons, Option.map_some]
              dsimp only
              rw [Literal.readWide_ofString]
              cases hread : Literal.read token with
              | ok v => rfl
              | error fault =>
                  dsimp only [Except.map]
                  rw [LiteralFault.wideProblem_ofString hread]
                  rfl

theorem wideTemplateOf_ofString (w : Wording) (text : String) :
    wideTemplateOf w (ofString text) =
      widenResult (templateOf (.standard w) text) := by
  rw [wideTemplateOf, string?_ofString]

/-- A text without surrogates is compiled as the row of characters that it is. -/
theorem ofWideText_ofString (w : Wording) (text : String) :
    ofWideText w (ofString text) =
      widenResult (ofText (.standard w) text) := by
  rw [ofWideText, ofText, trim_ofString]
  generalize Text.trim text = trimmed
  rw [ofWideTrimmed, ofTrimmed, shadow_ofString]
  cases hform : form trimmed.toList with
  | template => exact wideTemplateOf_ofString w trimmed
  | exist body =>
      dsimp only
      rw [ofString, inner_ofString (form_eq_exist_iff.mp hform).1]
      exact wideExistOf_ofString trimmed body
  | eq body =>
      dsimp only
      rw [ofString, inner_ofString (form_eq_eq_iff.mp hform).1]
      exact wideEqOf_ofString trimmed body
  | unknown =>
      dsimp only
      rw [← ofString_append]
      rfl

end Condition

end EventSieve
