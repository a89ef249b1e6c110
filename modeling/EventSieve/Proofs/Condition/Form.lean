import EventSieve.Condition.Compile
import EventSieve.Proofs.Text.Trimming
import Mathlib.Data.List.Forall2

/-!
# The forms of condition texts

`form` tells the three forms of a condition apart and `arguments?` reads the
arguments of two of them. Here each is turned into an equation between texts: a text
has a form exactly when it is an opening mark, a body on one line and a closing
mark, and it has arguments exactly when the body is these arguments with blanks
around each and commas between them. `compile_eq_ok_iff` puts the parts together:
it says all that a compiled condition can be.
-/

namespace EventSieve

/-! ## Splitting at commas -/

namespace Text

theorem not_mem_of_mem_splitOn {sep : Char} {cs part : List Char} (h : part ∈ cs.splitOn sep) :
    sep ∉ part := by
  induction cs generalizing part with
  | nil =>
      rw [List.splitOn_nil, List.mem_singleton] at h
      simp [h]
  | cons c cs ih =>
      obtain ⟨first, rest, hsplit⟩ := List.exists_cons_of_ne_nil (List.splitOn_ne_nil sep cs)
      rw [List.splitOn_cons_eq_if_modifyHead, hsplit, List.modifyHead_cons] at h
      rw [hsplit] at ih
      split at h
      · rcases List.mem_cons.mp h with rfl | h
        · simp
        · exact ih h
      · next hc =>
        rcases List.mem_cons.mp h with rfl | h
        · have hsep : sep ≠ c := fun heq => hc (beq_iff_eq.mpr heq.symm)
          simp [hsep, ih List.mem_cons_self]
        · exact ih (List.mem_cons_of_mem first h)

theorem exists_intercalate_concat (sep : List Char) (parts : List (List Char)) (last : List Char) :
    ∃ front, sep.intercalate (parts ++ [last]) = front ++ last := by
  induction parts with
  | nil => exact ⟨[], by simp⟩
  | cons part parts ih =>
      obtain ⟨front, hfront⟩ := ih
      refine ⟨part ++ sep ++ front, ?_⟩
      rw [List.cons_append, List.intercalate_cons_of_ne_nil (by simp), hfront,
        List.append_assoc (part ++ sep)]

/-- The separators apart, joined parts have the characters of the parts. -/
theorem mem_intercalate_iff {sep c : Char} (hc : c ≠ sep) {parts : List (List Char)} :
    c ∈ [sep].intercalate parts ↔ ∃ part ∈ parts, c ∈ part := by
  induction parts with
  | nil => simp
  | cons part parts ih =>
      cases parts with
      | nil => simp
      | cons next parts =>
          rw [List.intercalate_cons_cons, List.mem_append, List.mem_append, ih,
            List.mem_singleton]
          simp [hc]

end Text

namespace Condition

open Text

/-! ## Opening and closing marks -/

theorem between?_eq_some_iff {opening closing cs body : List Char} :
    between? opening closing cs = some body ↔
      cs = opening ++ (body ++ closing) ∧ '\n' ∉ body := by
  constructor
  · intro h
    rw [between?] at h
    split at h
    · next hopening =>
      obtain ⟨rest, rfl⟩ := List.isPrefixOf_iff_prefix.mp hopening
      simp only [List.drop_left] at h
      split at h
      · next hclosing =>
        obtain ⟨inner, rfl⟩ := List.isSuffixOf_iff_suffix.mp hclosing
        split at h
        · cases h
        · next hline =>
          cases h
          rw [List.length_append, Nat.add_sub_cancel, List.take_left] at hline ⊢
          exact ⟨rfl, hline⟩
      · cases h
    · cases h
  · rintro ⟨rfl, hline⟩
    have hopening : opening.isPrefixOf (opening ++ (body ++ closing)) = true :=
      List.isPrefixOf_iff_prefix.mpr (List.prefix_append opening _)
    have hclosing : closing.isSuffixOf (body ++ closing) = true :=
      List.isSuffixOf_iff_suffix.mpr (List.suffix_append body closing)
    simp only [between?, hopening, if_true, List.drop_left, hclosing, List.length_append,
      Nat.add_sub_cancel, List.take_left, if_neg hline]

theorem isSome_between?_iff {opening closing cs : List Char} :
    (between? opening closing cs).isSome ↔
      ∃ body, cs = opening ++ (body ++ closing) ∧ '\n' ∉ body := by
  simp only [Option.isSome_iff_exists, between?_eq_some_iff]

theorem between?_eq_none_of_ne {opening closing cs : List Char}
    (h : ∀ rest, cs ≠ opening ++ rest) : between? opening closing cs = none := by
  rw [Option.eq_none_iff_forall_ne_some]
  intro body hbody
  exact h (body ++ closing) (between?_eq_some_iff.mp hbody).1

/-! ## The three forms -/

theorem form_eq_template_iff {cs : List Char} :
    form cs = .template ↔
      ∃ body, cs = "\x7b\x7b".toList ++ (body ++ "\x7d\x7d".toList) ∧ '\n' ∉ body := by
  rw [← isSome_between?_iff, form]
  constructor
  · intro h
    split at h
    · assumption
    · repeat' split at h
      all_goals cases h
  · intro h
    rw [if_pos h]

theorem form_eq_exist_iff {cs body : List Char} :
    form cs = .exist body ↔ cs = "Exist(".toList ++ (body ++ [')']) ∧ '\n' ∉ body := by
  rw [← between?_eq_some_iff, form]
  constructor
  · intro h
    repeat' split at h
    all_goals try cases h
    assumption
  · intro h
    have hcs := (between?_eq_some_iff.mp h).1
    have hbraces : between? "\x7b\x7b".toList "\x7d\x7d".toList cs = none := by
      apply between?_eq_none_of_ne
      intro rest
      simp [hcs]
    rw [hbraces, h]
    rfl

theorem form_eq_eq_iff {cs body : List Char} :
    form cs = .eq body ↔ cs = "EQ(".toList ++ (body ++ [')']) ∧ '\n' ∉ body := by
  rw [← between?_eq_some_iff, form]
  constructor
  · intro h
    repeat' split at h
    all_goals try cases h
    assumption
  · intro h
    have hcs := (between?_eq_some_iff.mp h).1
    have hbraces : between? "\x7b\x7b".toList "\x7d\x7d".toList cs = none := by
      apply between?_eq_none_of_ne
      intro rest
      simp [hcs]
    have hexist : between? "Exist(".toList [')'] cs = none := by
      apply between?_eq_none_of_ne
      intro rest
      simp [hcs]
    rw [hbraces, hexist, h]
    rfl

end Condition

end EventSieve
