import EventSieve.Proofs.Text.Trimming
import EventSieve.Text.CodePoint
import Mathlib.Tactic.ByContra

/-!
# Texts and their shadows

A text without surrogates is a row of characters, and what is done to the one is done to the
other. A text with surrogates has the blanks and the marks of its shadow, in the same places.
-/

namespace EventSieve.Text

def WideText.IsBlanks (cs : WideText) : Prop := ∀ p ∈ cs, p.isBlank = true

namespace WideText

/-! ## Texts without surrogates -/

@[simp] theorem ofString_append (s t : String) :
    ofString (s ++ t) = ofString s ++ ofString t := by
  rw [ofString, String.toList_append, List.map_append]
  rfl

theorem ofString_ofList (cs : List Char) :
    ofString (String.ofList cs) = cs.map CodePoint.char := by
  rw [ofString, String.toList_ofList]

@[simp] theorem shadow_map_char (cs : List Char) : shadow (cs.map CodePoint.char) = cs := by
  rw [shadow, List.map_map]
  exact List.map_id'' (fun _ => rfl) cs

theorem shadow_ofString (s : String) : (ofString s).shadow = s.toList := shadow_map_char s.toList

theorem shadow_append (cs ds : WideText) : shadow (cs ++ ds) = cs.shadow ++ ds.shadow :=
  List.map_append

theorem trim_map_char (cs : List Char) :
    trim (cs.map CodePoint.char) = (trimChars cs).map CodePoint.char := by
  have hblank : CodePoint.isBlank ∘ CodePoint.char = Text.isBlank := rfl
  rw [trim, List.dropWhile_map, ← List.map_reverse, List.dropWhile_map, ← List.map_reverse,
    hblank]
  rfl

theorem trim_ofString (s : String) : (ofString s).trim = ofString (Text.trim s) := by
  rw [ofString, trim_map_char, ofString, toList_trim]

theorem mapM_char?_eq_some_iff {cs : WideText} {ds : List Char} :
    cs.mapM CodePoint.char? = some ds ↔ cs = ds.map CodePoint.char := by
  induction cs generalizing ds with
  | nil =>
      cases ds with
      | nil => exact iff_of_true rfl rfl
      | cons d ds => exact iff_of_false nofun nofun
  | cons p cs ih =>
      cases p with
      | surrogate i =>
          cases ds with
          | nil => exact iff_of_false nofun nofun
          | cons d ds => exact iff_of_false nofun nofun
      | char c =>
          rw [List.mapM_cons]
          cases ds with
          | nil => cases h : cs.mapM CodePoint.char? <;> simp [CodePoint.char?]
          | cons d ds =>
              rw [List.map_cons, List.cons.injEq, CodePoint.char.injEq, ← ih]
              cases h : cs.mapM CodePoint.char? <;> simp [CodePoint.char?]

theorem string?_eq_some_iff {cs : WideText} {s : String} :
    cs.string? = some s ↔ cs = ofString s := by
  rw [string?, Option.map_eq_some_iff]
  constructor
  · rintro ⟨ds, hds, rfl⟩
    rw [mapM_char?_eq_some_iff.mp hds, ofString_ofList]
  · rintro rfl
    exact ⟨s.toList, mapM_char?_eq_some_iff.mpr rfl, String.ofList_toList⟩

theorem string?_ofString (s : String) : (ofString s).string? = some s :=
  string?_eq_some_iff.mpr rfl

theorem string?_eq_none_iff {cs : WideText} :
    cs.string? = none ↔ ∃ i, CodePoint.surrogate i ∈ cs := by
  constructor
  · intro h
    by_contra hnone
    have hchars : ∀ p ∈ cs, (CodePoint.char ∘ CodePoint.shadow) p = id p := by
      intro p hp
      cases p with
      | char c => rfl
      | surrogate i => exact absurd ⟨i, hp⟩ hnone
    have hsome : cs.string? = some (String.ofList cs.shadow) := by
      rw [string?_eq_some_iff, ofString_ofList, shadow, List.map_map, List.map_congr_left hchars,
        List.map_id]
    rw [h] at hsome
    cases hsome
  · rintro ⟨i, hi⟩
    rw [Option.eq_none_iff_forall_ne_some]
    intro s hs
    rw [string?_eq_some_iff.mp hs, ofString] at hi
    obtain ⟨c, -, hc⟩ := List.mem_map.mp hi
    cases hc

/-! ## Shadows -/

theorem shadow_eq_iff {p : CodePoint} {c : Char} (hc : c ≠ '\uFFFD') :
    p.shadow = c ↔ p = .char c := by
  cases p with
  | char d => exact CodePoint.char.injEq d c ▸ Iff.rfl
  | surrogate i => exact iff_of_false hc.symm nofun

theorem mem_shadow_iff {cs : WideText} {c : Char} (hc : c ≠ '\uFFFD') :
    c ∈ cs.shadow ↔ .char c ∈ cs := by
  rw [shadow, List.mem_map]
  constructor
  · rintro ⟨p, hp, hshadow⟩
    rwa [← (shadow_eq_iff hc).mp hshadow]
  · intro h
    exact ⟨_, h, rfl⟩

/-- A text whose shadow has no replacement character is its shadow. -/
theorem eq_map_char_of_shadow {cs : WideText} {ds : List Char} (hds : '\uFFFD' ∉ ds)
    (h : cs.shadow = ds) : cs = ds.map CodePoint.char := by
  subst h
  induction cs with
  | nil => rfl
  | cons p cs ih =>
      obtain ⟨hp, hcs⟩ := not_or.mp (mt List.mem_cons.mpr hds)
      rw [shadow, List.map_cons, List.map_cons, ← (shadow_eq_iff (Ne.symm hp)).mp rfl]
      exact congrArg _ (ih hcs)

theorem shadow_trim (cs : WideText) : cs.trim.shadow = trimChars cs.shadow := by
  have hblank : Text.isBlank ∘ CodePoint.shadow = CodePoint.isBlank := rfl
  rw [trimChars, trimEnd, trimStart, shadow, shadow, List.dropWhile_map, ← List.map_reverse,
    List.dropWhile_map, ← List.map_reverse, hblank]
  rfl

theorem trim_eq_nil_iff {cs : WideText} : cs.trim = [] ↔ IsBlanks cs := by
  rw [← List.map_eq_nil_iff (f := CodePoint.shadow), ← shadow, shadow_trim, trimChars_eq_nil_iff,
    shadow, Text.IsBlanks, List.forall_mem_map]
  rfl

end WideText

theorem splitOn_map_char (sep : Char) (cs : List Char) :
    (cs.map CodePoint.char).splitOn (.char sep) =
      (cs.splitOn sep).map (List.map CodePoint.char) := by
  rw [List.splitOn_eq_splitOnP, List.splitOn_eq_splitOnP]
  induction cs with
  | nil => rfl
  | cons c cs ih =>
      rw [List.map_cons, List.splitOnP_cons_eq_if_modifyHead,
        List.splitOnP_cons_eq_if_modifyHead, ih]
      by_cases hc : c = sep
      · simp [hc]
      · cases h : List.splitOnP (· == sep) cs with
        | nil => simp [hc]
        | cons part parts => simp [hc]

end EventSieve.Text
