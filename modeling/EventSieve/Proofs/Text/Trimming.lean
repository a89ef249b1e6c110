import EventSieve.Text.Blank

/-!
# What trimming leaves

`trimChars` takes blanks off both ends and nothing else: a text is blanks, its
trimmed part, and blanks again, and the trimmed part neither starts nor ends with a
blank. These two facts determine the result, which `trimChars_eq_iff` states as an
equivalence; the lemmas about layouts of conditions read it in both directions.
-/

namespace EventSieve.Text

def IsBlanks (cs : List Char) : Prop := ∀ c ∈ cs, isBlank c = true

def IsTrimmed (cs : List Char) : Prop :=
  (∀ c, cs.head? = some c → isBlank c = false) ∧
    ∀ c, cs.getLast? = some c → isBlank c = false

theorem isBlanks_nil : IsBlanks [] := by simp [IsBlanks]

theorem IsBlanks.reverse {cs : List Char} (h : IsBlanks cs) : IsBlanks cs.reverse := by
  intro c hc
  exact h c (List.mem_reverse.mp hc)

/-- The end of a text is trimmed as the start of the reversed text. -/
theorem trimEnd_eq_reverse (cs : List Char) : trimEnd cs = (trimStart cs.reverse).reverse := rfl

/-! ## Blanks are taken off -/

theorem trimStart_blanks_append {left : List Char} (h : IsBlanks left) (cs : List Char) :
    trimStart (left ++ cs) = trimStart cs := by
  rw [trimStart, List.dropWhile_append_of_pos h, trimStart]

theorem trimEnd_append_blanks {right : List Char} (h : IsBlanks right) (cs : List Char) :
    trimEnd (cs ++ right) = trimEnd cs := by
  rw [trimEnd_eq_reverse, List.reverse_append, trimStart_blanks_append h.reverse,
    ← trimEnd_eq_reverse]

theorem exists_blanks_trimStart (cs : List Char) :
    ∃ left, IsBlanks left ∧ cs = left ++ trimStart cs := by
  refine ⟨cs.takeWhile isBlank, ?_, List.takeWhile_append_dropWhile.symm⟩
  intro c hc
  exact List.all_eq_true.mp List.all_takeWhile c hc

theorem exists_blanks_trimEnd (cs : List Char) :
    ∃ right, IsBlanks right ∧ cs = trimEnd cs ++ right := by
  obtain ⟨left, hleft, h⟩ := exists_blanks_trimStart cs.reverse
  refine ⟨left.reverse, hleft.reverse, ?_⟩
  rw [trimEnd_eq_reverse, ← List.reverse_append, ← h, List.reverse_reverse]

theorem exists_blanks_trimChars (cs : List Char) :
    ∃ left right, IsBlanks left ∧ IsBlanks right ∧ cs = left ++ (trimChars cs ++ right) := by
  obtain ⟨left, hleft, hl⟩ := exists_blanks_trimStart cs
  obtain ⟨right, hright, hr⟩ := exists_blanks_trimEnd (trimStart cs)
  refine ⟨left, right, hleft, hright, ?_⟩
  rw [trimChars, ← hr, ← hl]

/-! ## Nothing else is taken off -/

theorem trimStart_eq_self {cs : List Char} (h : ∀ c, cs.head? = some c → isBlank c = false) :
    trimStart cs = cs := by
  cases cs with
  | nil => rfl
  | cons c cs =>
      have hc := h c rfl
      rw [trimStart, List.dropWhile_cons_of_neg (by simp [hc])]

theorem trimEnd_eq_self {cs : List Char}
    (h : ∀ c, cs.getLast? = some c → isBlank c = false) : trimEnd cs = cs := by
  have hrev : trimStart cs.reverse = cs.reverse := by
    apply trimStart_eq_self
    intro c hc
    rw [List.head?_reverse] at hc
    exact h c hc
  rw [trimEnd_eq_reverse, hrev, List.reverse_reverse]

theorem IsTrimmed.trimChars_eq {cs : List Char} (h : IsTrimmed cs) : trimChars cs = cs := by
  rw [trimChars, trimStart_eq_self h.1, trimEnd_eq_self h.2]

theorem head?_trimStart {cs : List Char} {c : Char} (h : (trimStart cs).head? = some c) :
    isBlank c = false := by
  have hstop := List.head?_dropWhile_not isBlank cs
  rw [trimStart] at h
  simpa [h] using hstop

theorem getLast?_trimEnd {cs : List Char} {c : Char} (h : (trimEnd cs).getLast? = some c) :
    isBlank c = false := by
  rw [trimEnd_eq_reverse, List.getLast?_reverse] at h
  exact head?_trimStart h

theorem head?_trimEnd {cs : List Char} {c : Char} (h : (trimEnd cs).head? = some c) :
    cs.head? = some c := by
  obtain ⟨right, -, hcs⟩ := exists_blanks_trimEnd cs
  rw [hcs, List.head?_append, h, Option.some_or]

theorem isTrimmed_trimChars (cs : List Char) : IsTrimmed (trimChars cs) := by
  constructor
  · intro c hc
    exact head?_trimStart (head?_trimEnd hc)
  · intro c hc
    exact getLast?_trimEnd hc

theorem IsTrimmed.trimChars_between {left cs right : List Char} (h : IsTrimmed cs)
    (hleft : IsBlanks left) (hright : IsBlanks right) :
    trimChars (left ++ (cs ++ right)) = cs := by
  rw [trimChars, trimStart_blanks_append hleft]
  cases cs with
  | nil =>
      have hnil : trimStart right = [] := by
        simpa using trimStart_blanks_append hright []
      rw [List.nil_append, hnil, trimEnd_nil]
  | cons c cs =>
      have hstart : trimStart (c :: cs ++ right) = c :: cs ++ right := by
        apply trimStart_eq_self
        intro d hd
        exact h.1 d hd
      rw [hstart, trimEnd_append_blanks hright, trimEnd_eq_self h.2]

/-- Trimming is determined by what it leaves: a trimmed text with blanks around it. -/
theorem trimChars_eq_iff {cs ds : List Char} :
    trimChars cs = ds ↔
      IsTrimmed ds ∧
        ∃ left right, IsBlanks left ∧ IsBlanks right ∧ cs = left ++ (ds ++ right) := by
  constructor
  · rintro rfl
    exact ⟨isTrimmed_trimChars cs, exists_blanks_trimChars cs⟩
  · rintro ⟨hds, left, right, hleft, hright, rfl⟩
    exact hds.trimChars_between hleft hright

theorem trimChars_trimChars (cs : List Char) : trimChars (trimChars cs) = trimChars cs :=
  (isTrimmed_trimChars cs).trimChars_eq

theorem isTrimmed_iff_trimChars_eq {cs : List Char} : IsTrimmed cs ↔ trimChars cs = cs := by
  constructor
  · exact IsTrimmed.trimChars_eq
  · intro h
    rw [← h]
    exact isTrimmed_trimChars cs

instance (cs : List Char) : Decidable (IsTrimmed cs) :=
  decidable_of_iff _ isTrimmed_iff_trimChars_eq.symm

theorem trimChars_eq_nil_iff {cs : List Char} : trimChars cs = [] ↔ IsBlanks cs := by
  constructor
  · intro h c hc
    obtain ⟨left, right, hleft, hright, hcs⟩ := exists_blanks_trimChars cs
    rw [h, List.nil_append] at hcs
    rw [hcs, List.mem_append] at hc
    exact hc.elim (hleft c) (hright c)
  · intro h
    rw [trimChars_eq_iff]
    exact ⟨⟨by simp, by simp⟩, cs, [], h, isBlanks_nil, by simp⟩

/-! ## Characters of the trimmed part -/

theorem mem_of_mem_trimChars {cs : List Char} {c : Char} (h : c ∈ trimChars cs) : c ∈ cs := by
  obtain ⟨left, right, -, -, hcs⟩ := exists_blanks_trimChars cs
  rw [hcs]
  simp [h]

theorem mem_trimChars_iff_of_not_blank {cs : List Char} {c : Char} (hc : isBlank c = false) :
    c ∈ trimChars cs ↔ c ∈ cs := by
  constructor
  · exact mem_of_mem_trimChars
  · intro h
    obtain ⟨left, right, hleft, hright, hcs⟩ := exists_blanks_trimChars cs
    rw [hcs, List.mem_append, List.mem_append] at h
    rcases h with h | h | h
    · rw [hleft c h] at hc
      cases hc
    · exact h
    · rw [hright c h] at hc
      cases hc

end EventSieve.Text
