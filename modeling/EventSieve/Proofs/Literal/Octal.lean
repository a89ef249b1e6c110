import EventSieve.Proofs.Literal.Reading

/-!
# Two notations for base eight

Octal digits stand after `0o`, or after a zero alone. Both are read as the same digits in
base eight, with one exception: the announcement `0o` takes an underscore that follows it,
while a zero alone leaves it in front of the digits, where no underscore may stand. So the
notations agree on all digits that do not start with an underscore, and the zero alone
refuses all that do.
-/

namespace EventSieve.Literal

open Numeral

/-- Two readings with the same outcome: one integer, or a fault of each. -/
def SameOutcome (r s : Except LiteralFault Value) : Prop :=
  (∃ n, r = .ok (.int n) ∧ s = .ok (.int n)) ∨ ∃ fault other, r = .error fault ∧ s = .error other

def IsOctalRow (d : String) : Prop := d ≠ "" ∧ ∀ c ∈ d.toList, '0' ≤ c ∧ c ≤ '7' ∨ c = '_'

theorem IsOctalRow.isOctalChar {d : String} (h : IsOctalRow d) :
    ∀ c ∈ d.toList, isOctalChar c = true := by
  intro c hc
  rw [Literal.isOctalChar, Bool.or_eq_true, Bool.and_eq_true, decide_eq_true_eq,
    decide_eq_true_eq, beq_iff_eq]
  exact h.2 c hc

theorem IsOctalRow.toList_ne_nil {d : String} (h : IsOctalRow d) : d.toList ≠ [] := by
  rw [ne_eq, String.toList_eq_nil_iff]
  exact h.1

theorem announcedBase?_of_isOctalChar {c : Char} (h : isOctalChar c = true) :
    announcedBase? c = none := by
  have hne : ∀ d, isOctalChar d = false → c ≠ d := by
    rintro d hd rfl
    rw [h] at hd
    cases hd
  rw [announcedBase?, if_neg, if_neg, if_neg]
  · exact not_or.mpr ⟨hne 'b' (by decide), hne 'B' (by decide)⟩
  · exact not_or.mpr ⟨hne 'o' (by decide), hne 'O' (by decide)⟩
  · exact not_or.mpr ⟨hne 'x' (by decide), hne 'X' (by decide)⟩

theorem detectBase_of_octal {base : Nat} (hbase : base ≠ 0) {cs : List Char}
    (h : ∀ c ∈ cs, isOctalChar c = true) : detectBase base cs = (base, cs, false) := by
  rw [detectBase.eq_def]
  split
  · next c rest =>
    rw [announcedBase?_of_isOctalChar (h c (by simp))]
    simp [hbase]
  · simp [hbase]
  · simp [hbase]

theorem magnitude_zero_cons {digits : List Char} (hne : digits ≠ [])
    (h : ∀ c ∈ digits, isOctalChar c = true) :
    magnitude ('0' :: digits) = readUnsigned 8 digits := by
  rw [magnitude, afterZero?_zero_cons hne h]

theorem magnitude_announced {letter : Char} {base : Nat} (h : announcedBase? letter = some base)
    (digits : List Char) :
    magnitude ('0' :: letter :: digits) = readUnsigned 0 ('0' :: letter :: digits) := by
  have hoctal : isOctalChar letter = false := by
    rw [← Bool.not_eq_true]
    intro hletter
    rw [announcedBase?_of_isOctalChar hletter] at h
    cases h
  have hbreak : letter ≠ '\n' := by
    rintro rfl
    cases h
  rw [magnitude, afterZero?_eq_none hoctal hbreak (by simp)]

/-- The announcement is taken off, with one underscore behind it if there is one. -/
theorem detectBase_announced {letter : Char} {base : Nat} (h : announcedBase? letter = some base)
    (digits : List Char) :
    detectBase 0 ('0' :: letter :: digits) = (base, afterAnnouncement digits, false) := by
  rw [detectBase]
  simp [h]

theorem afterAnnouncement_of_head? {digits : List Char} (h : digits.head? ≠ some '_') :
    afterAnnouncement digits = digits := by
  rw [afterAnnouncement.eq_def]
  split
  · exact absurd rfl h
  · rfl

/-- Without an underscore in front, the digits are the same in both notations. -/
theorem magnitude_zero_eq_announced {digits : List Char} (hne : digits ≠ [])
    (h : ∀ c ∈ digits, isOctalChar c = true) (hhead : digits.head? ≠ some '_') :
    magnitude ('0' :: digits) = magnitude ('0' :: 'o' :: digits) := by
  have height : announcedBase? 'o' = some 8 := by decide
  rw [magnitude_zero_cons hne h, magnitude_announced height]
  apply readUnsigned_congr
  rw [detectBase_of_octal (by decide) h, detectBase_announced height,
    afterAnnouncement_of_head? hhead]

/-- No numeral starts with an underscore. -/
theorem magnitude_zero_underscore {digits : List Char}
    (h : ∀ c ∈ '_' :: digits, isOctalChar c = true) :
    magnitude ('0' :: '_' :: digits) = .error .malformed := by
  rw [magnitude_zero_cons (List.cons_ne_nil _ _) h, readUnsigned,
    detectBase_of_octal (by decide) h]
  rfl

/-! ## Outcomes -/

theorem sameOutcome_of_forall {r s : Except LiteralFault Value}
    (hr : ∀ v, r = .ok v → ∃ n, v = .int n) (h : ∀ v, r = .ok v ↔ s = .ok v) :
    SameOutcome r s := by
  cases r with
  | ok v =>
      obtain ⟨n, rfl⟩ := hr v rfl
      exact .inl ⟨n, rfl, (h (.int n)).mp rfl⟩
  | error fault =>
      cases s with
      | ok v => cases (h v).mpr rfl
      | error other => exact .inr ⟨fault, other, rfl, rfl⟩

theorem sameOutcome_error_iff {fault : LiteralFault} {s : Except LiteralFault Value} :
    SameOutcome (.error fault) s ↔ ∃ other, s = .error other := by
  simp [SameOutcome]

/-- A sign, an announcement and octal digits are read by the magnitude that they denote. -/
theorem read_marked_eq_ok_iff {sign marker d : String} (hsign : sign ∈ signs)
    (hmarker : ∀ c ∈ marker.toList, isWordChar c = true) (hd : IsOctalRow d) {v : Value} :
    read (sign ++ marker ++ d) = .ok v ↔
      ∃ m, magnitude (marker.toList ++ d.toList) = .ok m ∧ InRange (signed sign m) ∧
        v = .int (signed sign m) := by
  have htoken : sign ++ marker ++ d = sign ++ String.ofList (marker.toList ++ d.toList) := by
    rw [← String.toList_inj]
    simp
  rw [htoken]
  apply read_signed_eq_ok_iff hsign
  · rw [List.forall_mem_append]
    exact ⟨hmarker, fun c hc => isWordChar_of_isOctalChar (hd.isOctalChar c hc)⟩
  · simp [hd.toList_ne_nil]

/-- A zero and `0o` announce the same numerals, except those that start with an underscore: a
zero refuses all of them, also those that `0o` accepts. -/
theorem octal_notations_agree_iff {sign d : String} (hsign : sign ∈ signs) (hd : IsOctalRow d) :
    SameOutcome (read (sign ++ "0" ++ d)) (read (sign ++ "0o" ++ d)) ↔
      ¬ (d.toList.head? = some '_' ∧ ∃ n, read (sign ++ "0o" ++ d) = .ok (.int n)) := by
  have hzero : ∀ v, read (sign ++ "0" ++ d) = .ok v ↔ _ :=
    fun _ => read_marked_eq_ok_iff hsign (by simp [isWordChar]) hd
  have hletter : ∀ v, read (sign ++ "0o" ++ d) = .ok v ↔ _ :=
    fun _ => read_marked_eq_ok_iff hsign (by simp [isWordChar]) hd
  by_cases hhead : d.toList.head? = some '_'
  · obtain ⟨rest, hrest⟩ := List.head?_eq_some_iff.mp hhead
    have hmagnitude : magnitude ("0".toList ++ d.toList) = .error .malformed := by
      rw [hrest]
      exact magnitude_zero_underscore (by rw [← hrest]; exact hd.isOctalChar)
    cases hr : read (sign ++ "0" ++ d) with
    | ok v =>
        obtain ⟨m, hm, -⟩ := (hzero v).mp hr
        rw [hmagnitude] at hm
        cases hm
    | error fault =>
        rw [sameOutcome_error_iff]
        simp only [hhead, true_and, not_exists]
        cases hs : read (sign ++ "0o" ++ d) with
        | error other => simp
        | ok v =>
            obtain ⟨m, -, -, rfl⟩ := (hletter v).mp hs
            simp
  · have hmagnitude : magnitude ("0".toList ++ d.toList) = magnitude ("0o".toList ++ d.toList) :=
      magnitude_zero_eq_announced hd.toList_ne_nil hd.isOctalChar hhead
    simp only [hhead, false_and, not_false_eq_true, iff_true]
    apply sameOutcome_of_forall
    · intro v hv
      obtain ⟨m, -, -, rfl⟩ := (hzero v).mp hv
      exact ⟨signed sign m, rfl⟩
    · intro v
      rw [hzero, hletter, hmagnitude]

theorem octal_notations_agree_inside :
    IsOctalRow "7_5" ∧ SameOutcome (read ("-" ++ "0" ++ "7_5")) (read ("-" ++ "0o" ++ "7_5")) := by
  have hd : IsOctalRow "7_5" := ⟨by decide, by simp⟩
  have hhead : "7_5".toList.head? ≠ some '_' := by decide
  refine ⟨hd, (octal_notations_agree_iff (by decide) hd).mpr ?_⟩
  exact fun h => hhead h.1

/-- An underscore after the announcement is accepted in one notation only. -/
theorem underscore_after_zero_disagrees :
    IsOctalRow "_7" ∧
      ¬ SameOutcome (read ("" ++ "0" ++ "_7")) (read ("" ++ "0o" ++ "_7")) := by
  have hzero : read ("" ++ "0" ++ "_7") = .error (.notInteger 8 "_7" .malformed) := by rfl
  have hletter : read ("" ++ "0o" ++ "_7") = .ok (.int 7) := by rfl
  refine ⟨⟨by decide, by simp⟩, ?_⟩
  rw [hzero, hletter, sameOutcome_error_iff]
  rintro ⟨other, hother⟩
  cases hother

end EventSieve.Literal
