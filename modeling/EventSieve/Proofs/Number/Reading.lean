import EventSieve.Number.Reading
import EventSieve.Proofs.Number.Binary64
import EventSieve.Proofs.Number.Numeral

/-!
# Numerals with a point

A foreign character is neither a blank nor an underscore nor a sign, so it stays where it
is until the digits are read. A point is one: a text with a point in it is therefore not
the name of anything, and the double that it denotes has been rounded from a decimal. Any
other foreign character is still there when the exponent is read, and then there is no
double.
-/

namespace EventSieve.Decimal

open Numeral

theorem mem_of_dropUnderscores? {last c : Char} {cs ds : List Char}
    (h : dropUnderscores? last cs = some ds) (hc : c ≠ '_') (hmem : c ∈ cs) : c ∈ ds := by
  induction cs generalizing last ds with
  | nil => cases hmem
  | cons d cs ih =>
      rw [dropUnderscores?] at h
      split at h
      · next hd =>
        split at h
        · have hrest : c ∈ cs := by
            rcases List.mem_cons.mp hmem with rfl | hrest
            · exact absurd hd hc
            · exact hrest
          exact ih h hrest
        · cases h
      · split at h
        · cases h
        · obtain ⟨es, hes, rfl⟩ := Option.map_eq_some_iff.mp h
          rcases List.mem_cons.mp hmem with rfl | hrest
          · exact List.mem_cons_self
          · exact List.mem_cons_of_mem d (ih hes hrest)

section Foreign

variable {c : Char} (hc : IsForeign c)

include hc

theorem mem_trimAscii {cs : List Char} (h : c ∈ cs) : c ∈ trimAscii cs := by
  rw [trimAscii, List.mem_reverse]
  apply mem_dropWhile_of_not _ hc.blank
  rw [List.mem_reverse]
  exact mem_dropWhile_of_not h hc.blank

theorem named?_eq_none {negative : Bool} {cs : List Char} (h : c ∈ cs) :
    named? negative cs = none := by
  have hmem : c.toLower ∈ (String.ofList (cs.map Char.toLower)).toList := by
    rw [String.toList_ofList]
    exact List.mem_map.mpr ⟨c, h, rfl⟩
  have hne : ∀ name : String, (name.toList.all fun d => (digitValue? d).isSome) = true →
      String.ofList (cs.map Char.toLower) ≠ name := by
    rintro name hname rfl
    have hletter := List.all_eq_true.mp hname _ hmem
    rw [digitValue?_toLower, hc.digit] at hletter
    cases hletter
  simp only [named?]
  rw [if_neg (not_or.mpr ⟨hne "inf" (by decide), hne "infinity" (by decide)⟩),
    if_neg (hne "nan" (by decide))]

theorem readExponent?_eq_none {cs : List Char} (h : c ∈ cs) : readExponent? cs = none := by
  cases cs with
  | nil => cases h
  | cons d cs =>
      rw [readExponent?]
      split
      · next hd =>
        have hne : c ≠ d := by
          rintro rfl
          rcases hd with rfl | rfl
          · exact absurd hc.digit (by decide)
          · exact absurd hc.digit (by decide)
        have hmem := hc.mem_takeSign (List.mem_of_ne_of_mem hne h)
        have hdigits : (takeSign cs).2.all (isDigitOf 10) = false := by
          rw [List.all_eq_false]
          exact ⟨c, hmem, by rw [isDigitOf, hc.digit]; exact Bool.false_ne_true⟩
        simp [hdigits]
      · rfl

theorem readUnsigned?_eq_none (hpoint : c ≠ '.') {cs : List Char} (h : c ∈ cs) :
    readUnsigned? cs = none := by
  have hdigit : isDigitOf 10 c = false := by rw [isDigitOf, hc.digit]
  have hdrop := mem_dropWhile_of_not h hdigit
  rw [readUnsigned?, drop_length_takeWhile]
  cases hrest : cs.dropWhile (isDigitOf 10) with
  | nil =>
      rw [hrest] at hdrop
      cases hdrop
  | cons d rest =>
      rw [hrest] at hdrop
      by_cases hd : d = '.'
      · subst hd
        have hpart := mem_dropWhile_of_not (List.mem_of_ne_of_mem hpoint hdrop) hdigit
        simp only [drop_length_takeWhile, readExponent?_eq_none hc hpart, Option.map_none, ite_self]
      · have hexponent := readExponent?_eq_none hc hdrop
        split
        next part rest' hmatch =>
          have hrest' : rest' = d :: rest := by
            split at hmatch
            · next hcons =>
              exact absurd (List.cons.inj hcons).1 hd
            · exact (Prod.mk.inj hmatch).2.symm
          rw [hrest', hexponent]
          simp

/-- A text with a foreign character in it, other than a point, denotes no double. -/
theorem read?_eq_none (hpoint : c ≠ '.') {s : String} (h : c ∈ s.toList) : read? s = none := by
  rw [read?, readPlain?]
  cases hcs : dropUnderscores? ' ' (trimAscii (plain s.toList)) with
  | none => rfl
  | some cs =>
      have hmem := mem_of_dropUnderscores? hcs hc.underscore (mem_trimAscii hc (hc.mem_plain h))
      have hbody := hc.mem_takeSign hmem
      simp only [Option.bind_eq_bind, Option.bind_some, named?_eq_none hc hbody,
        readUnsigned?_eq_none hc hpoint hbody, Option.map_none]

end Foreign

theorem isUndefined_nearest (negative : Bool) (d : Decimal) :
    Binary64.isUndefined (nearest negative d) = false := by
  rw [nearest]
  split
  · exact Binary64.isUndefined_ofRatio _ _ _
  · split
    · exact Binary64.isUndefined_infinity _
    · exact Binary64.isUndefined_ofRatio _ _ _

/-- What a text with a point in it denotes is not undefined. -/
theorem isUndefined_of_read?_of_point {s : String} {x : Float} (hread : read? s = some x)
    (hpoint : '.' ∈ s.toList) : Binary64.isUndefined x = false := by
  rw [read?, readPlain?] at hread
  obtain ⟨cs, hcs, hread⟩ := Option.bind_eq_some_iff.mp hread
  have hmem := mem_of_dropUnderscores? hcs isForeign_point.underscore
    (mem_trimAscii isForeign_point (isForeign_point.mem_plain hpoint))
  simp only [named?_eq_none isForeign_point (isForeign_point.mem_takeSign hmem)] at hread
  obtain ⟨d, -, rfl⟩ := Option.map_eq_some_iff.mp hread
  exact isUndefined_nearest _ d

end EventSieve.Decimal
