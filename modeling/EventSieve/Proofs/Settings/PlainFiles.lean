import EventSieve.Proofs.Results
import EventSieve.Proofs.Settings.Dotenv
import Mathlib.Data.List.Basic

/-!
# Plain environment files

A plain file has one line for each name, with the name, an equals sign and the value as it is.
Such a line reads as the binding of its name to its value, and the file as these bindings, one
after the other.
-/

namespace EventSieve.Dotenv

open Text

/-- A name that stands for itself at the front of a line. -/
def IsPlainName (name : String) : Prop :=
  name ≠ "" ∧ ∀ c ∈ name.toList, c ≠ '=' ∧ c ≠ '#' ∧ c ≠ '\x27' ∧ isBlank c = false

/-- A text that stands for itself behind an equals sign. -/
def IsPlainText (s : String) : Prop :=
  ∀ c ∈ s.toList, c ≠ '\x27' ∧ c ≠ '"' ∧ c ≠ '$' ∧ isBlank c = false

def plainLine (b : String × String) : List Char := b.1.toList ++ '=' :: b.2.toList ++ ['\n']

def plainFile (bs : List (String × String)) : String := String.ofList (bs.flatMap plainLine)

theorem isInlineBlank_of_isBlank {c : Char} (h : isBlank c = false) : isInlineBlank c = false := by
  rw [isInlineBlank, h, Bool.false_and]

/-- What follows `export` at the front of a line begins with a character of the name, or with the
equals sign. -/
theorem head?_behind_export {cs rest left : List Char}
    (h : "export".toList ++ left = cs ++ '=' :: rest) {c : Char} (hc : left.head? = some c) :
    c ∈ cs ∨ c = '=' := by
  rcases List.append_eq_append_iff.mp h with ⟨behind, rfl, rfl⟩ | ⟨behind, hcs, hrest⟩
  · cases behind with
    | nil => exact .inr (Option.some.inj hc).symm
    | cons d ds => exact .inl (by simp [Option.some.inj hc])
  · cases behind with
    | nil =>
        rw [List.nil_append] at hrest
        rw [← hrest] at hc
        exact .inr (Option.some.inj hc).symm
    | cons d ds =>
        cases hrest
        have hmem : '=' ∈ "export".toList := by simp [hcs]
        exact absurd hmem (by decide)

theorem dropExport_plain {cs : List Char} (h : ∀ c ∈ cs, isBlank c = false) (rest : List Char) :
    dropExport (cs ++ '=' :: rest) = cs ++ '=' :: rest := by
  rw [dropExport]
  split
  · next hprefix =>
    obtain ⟨left, hleft⟩ := List.isPrefixOf_iff_prefix.mp hprefix
    have hdrop : (cs ++ '=' :: rest).drop 6 = left := by
      rw [← hleft]
      exact List.drop_left' rfl
    dsimp only
    rw [hdrop, if_neg]
    cases hhead : left.head? with
    | none => simp
    | some c =>
        have hblank : isInlineBlank c = false := by
          apply isInlineBlank_of_isBlank
          rcases head?_behind_export hleft hhead with hc | rfl
          · exact h c hc
          · decide
        simp [hblank]
  · rfl

theorem eq_or_mem_of_append_eq_cons {cs rest ds : List Char} {c d : Char}
    (h : cs ++ d :: rest = c :: ds) : c = d ∨ c ∈ cs := by
  cases cs with
  | nil =>
      cases h
      exact .inl rfl
  | cons e cs =>
      cases h
      exact .inr List.mem_cons_self

theorem name_plain {n : String} (h : IsPlainName n) (rest : List Char) :
    name (n.toList ++ '=' :: rest) = .ok (some n.toList, '=' :: rest) := by
  have hword : (n.toList ++ '=' :: rest).takeWhile (fun c => c ≠ '=' ∧ c ≠ '#' ∧ !isBlank c) =
      n.toList := by
    rw [List.takeWhile_append_of_pos, List.takeWhile_cons_of_neg (by simp), List.append_nil]
    intro c hc
    obtain ⟨hequals, hmark, -, hblank⟩ := h.2 c hc
    simp [hequals, hmark, hblank]
  unfold name
  split
  · next cs hcs =>
    rcases eq_or_mem_of_append_eq_cons hcs with hequals | hmem
    · exact absurd hequals (by decide)
    · exact absurd rfl (h.2 _ hmem).2.1
  · next cs hcs =>
    rcases eq_or_mem_of_append_eq_cons hcs with hequals | hmem
    · exact absurd hequals (by decide)
    · exact absurd rfl (h.2 _ hmem).2.2.1
  · dsimp only
    rw [hword, if_neg (by simpa using h.1), List.drop_left]

theorem cutComment_of_not_blank {cs : List Char} (h : ∀ c ∈ cs, isBlank c = false) :
    cutComment cs = cs := by
  induction cs with
  | nil => rfl
  | cons c cs ih =>
      obtain ⟨hc, hcs⟩ := List.forall_mem_cons.mp h
      rw [cutComment, if_neg (by simp [hc]), ih hcs]

theorem value_plain {s : String} (h : IsPlainText s) (rest : List Char) :
    value (s.toList ++ '\n' :: rest) = .ok (s.toList, '\n' :: rest) := by
  have hblank : ∀ c ∈ s.toList, isBlank c = false := fun c hc => (h c hc).2.2.2
  have hline : (s.toList ++ '\n' :: rest).takeWhile (· ≠ '\n') = s.toList := by
    rw [List.takeWhile_append_of_pos, List.takeWhile_cons_of_neg (by simp), List.append_nil]
    rintro c hc
    rw [decide_eq_true_iff]
    rintro rfl
    exact absurd (hblank _ hc) (by decide)
  unfold value
  split
  · next cs hcs =>
    rcases eq_or_mem_of_append_eq_cons hcs with hbreak | hmem
    · exact absurd hbreak (by decide)
    · exact absurd rfl (h _ hmem).1
  · next cs hcs =>
    rcases eq_or_mem_of_append_eq_cons hcs with hbreak | hmem
    · exact absurd hbreak (by decide)
    · exact absurd rfl (h _ hmem).2.1
  · dsimp only
    rw [hline, cutComment_of_not_blank hblank, List.drop_left, trimEnd_eq_self]
    exact fun c hc => hblank c (List.mem_of_getLast? hc)

theorem bound_plain {s : String} (h : IsPlainText s) (rest : List Char) :
    bound ('=' :: (s.toList ++ '\n' :: rest)) = .ok (some s.toList, '\n' :: rest) := by
  have hskip : (s.toList ++ '\n' :: rest).dropWhile isInlineBlank = s.toList ++ '\n' :: rest := by
    cases htext : s.toList with
    | nil => exact List.dropWhile_cons_of_neg (by decide)
    | cons c cs =>
        have hc : isBlank c = false := (h c (htext ▸ List.mem_cons_self)).2.2.2
        exact List.dropWhile_cons_of_neg (by simp [isInlineBlank_of_isBlank hc])
  rw [bound, List.dropWhile_cons_of_neg (by decide)]
  change (value ((s.toList ++ '\n' :: rest).dropWhile isInlineBlank)).map _ = _
  rw [hskip, value_plain h]
  rfl

theorem line_plain {b : String × String} (hname : IsPlainName b.1) (htext : IsPlainText b.2)
    (rest : List Char) : line (plainLine b ++ rest) = .ok (some (b.1, some b.2), rest) := by
  have hline : plainLine b ++ rest = b.1.toList ++ '=' :: (b.2.toList ++ '\n' :: rest) := by
    simp [plainLine]
  have hend : lineEnd ('\n' :: rest) = .ok rest := by
    rw [lineEnd, List.dropWhile_cons_of_neg (by decide)]
    rfl
  rw [hline, line, dropExport_plain (fun c hc => (hname.2 c hc).2.2.2), name_plain hname,
    Except.ok_bind]
  dsimp only
  rw [bound_plain htext, Except.ok_bind]
  dsimp only
  rw [hend, Except.ok_bind]
  simp

theorem exists_plainLine_eq_cons {b : String × String} (h : IsPlainName b.1) :
    ∃ c cs, plainLine b = c :: cs ∧ isBlank c = false := by
  obtain ⟨c, cs, hcs⟩ := List.exists_cons_of_ne_nil (show b.1.toList ≠ [] by simpa using h.1)
  refine ⟨c, cs ++ '=' :: b.2.toList ++ ['\n'], ?_, (h.2 c (hcs ▸ List.mem_cons_self)).2.2.2⟩
  rw [plainLine, hcs]
  rfl

theorem lines_plain {bs : List (String × String)}
    (h : ∀ b ∈ bs, IsPlainName b.1 ∧ IsPlainText b.2) {fuel : Nat} (hfuel : bs.length < fuel) :
    lines fuel (bs.flatMap plainLine) = bs.map fun b => (b.1, some b.2) := by
  induction bs generalizing fuel with
  | nil =>
      obtain ⟨fuel, rfl⟩ : ∃ n, fuel = n + 1 := ⟨fuel - 1, by omega⟩
      rfl
  | cons b bs ih =>
      obtain ⟨fuel, rfl⟩ : ∃ n, fuel = n + 1 := ⟨fuel - 1, by omega⟩
      obtain ⟨⟨hname, htext⟩, hbs⟩ := List.forall_mem_cons.mp h
      rw [List.length_cons, Nat.add_lt_add_iff_right] at hfuel
      obtain ⟨c, cs, hcs, hc⟩ := exists_plainLine_eq_cons hname
      have hline := line_plain hname htext (bs.flatMap plainLine)
      rw [hcs, List.cons_append] at hline
      rw [List.flatMap_cons, hcs, List.cons_append, lines,
        List.dropWhile_cons_of_neg (by simp [hc])]
      dsimp only
      rw [hline]
      dsimp only
      rw [ih hbs hfuel]
      rfl

/-! A text without a dollar sign has no names to be replaced. -/

theorem expand_of_not_mem {lookup : String → Option (Option String)} {cs : List Char}
    (h : '$' ∉ cs) (fuel : Nat) : expand lookup fuel cs = cs := by
  induction cs generalizing fuel with
  | nil => cases fuel <;> rfl
  | cons c cs ih =>
      rw [List.mem_cons, not_or] at h
      cases fuel with
      | zero => rfl
      | succ fuel =>
          unfold expand
          split
          · next heq => cases heq
          · next heq =>
            cases heq
            exact absurd rfl h.1
          · next d ds _ heq =>
            cases heq
            rw [ih h.2]

theorem plainLines_of_not_mem {cs : List Char} (h : '\r' ∉ cs) : plainLines cs = cs := by
  induction cs with
  | nil => rfl
  | cons c cs ih =>
      rw [List.mem_cons, not_or] at h
      unfold plainLines
      split
      · next heq => cases heq
      · next heq =>
        cases heq
        exact absurd rfl h.1
      · next heq =>
        cases heq
        exact absurd rfl h.1
      · next d ds _ _ heq =>
        cases heq
        rw [ih h.2]

theorem isBlank_of_mem_plainLine {b : String × String} (hname : IsPlainName b.1)
    (htext : IsPlainText b.2) {c : Char} (hc : c ∈ plainLine b) :
    isBlank c = false ∨ c = '\n' := by
  rw [plainLine, List.mem_append, List.mem_append, List.mem_cons, List.mem_singleton] at hc
  rcases hc with (hc | rfl | hc) | rfl
  · exact .inl (hname.2 c hc).2.2.2
  · exact .inl (by decide)
  · exact .inl (htext c hc).2.2.2
  · exact .inr rfl

theorem length_le_length_plainLines (bs : List (String × String)) :
    bs.length ≤ (bs.flatMap plainLine).length := by
  induction bs with
  | nil => exact Nat.le_refl _
  | cons b bs ih =>
      rw [List.flatMap_cons, List.length_append, List.length_cons, plainLine, List.length_append,
        List.length_singleton]
      omega

theorem bind_of_not_mem {bindings : List Binding} {name : String}
    (h : name ∉ bindings.map Prod.fst) (v : Option String) :
    bind bindings name v = bindings ++ [(name, v)] := by
  induction bindings with
  | nil => rfl
  | cons binding bindings ih =>
      obtain ⟨k, w⟩ := binding
      rw [List.map_cons, List.mem_cons, not_or] at h
      rw [bind, if_neg (Ne.symm h.1), ih h.2, List.cons_append]

theorem read_plainFile {bs : List (String × String)}
    (h : ∀ b ∈ bs, IsPlainName b.1 ∧ IsPlainText b.2) (env : List (String × String)) :
    read env (plainFile bs) = bs.foldl (fun found b => bind found b.1 (some b.2)) [] := by
  have hreturn : '\r' ∉ bs.flatMap plainLine := by
    intro hmem
    obtain ⟨b, hb, hc⟩ := List.mem_flatMap.mp hmem
    rcases isBlank_of_mem_plainLine (h b hb).1 (h b hb).2 hc with hblank | hbreak
    · exact absurd hblank (by decide)
    · exact absurd hbreak (by decide)
  have hlines := lines_plain h (Nat.lt_succ_of_le (length_le_length_plainLines bs))
  rw [read, plainFile, String.toList_ofList, plainLines_of_not_mem hreturn, hlines, resolve,
    List.foldl_map]
  apply List.foldl_ext
  intro found b hb
  have hdollar : '$' ∉ b.2.toList := fun hmem => absurd rfl ((h b hb).2 _ hmem).2.2.1
  dsimp only
  rw [Option.map_some, expand_of_not_mem hdollar, String.ofList_toList]

/-- A plain file that sets each name once is read as its lines. -/
theorem read_plainFile_of_nodup {bs : List (String × String)}
    (h : ∀ b ∈ bs, IsPlainName b.1 ∧ IsPlainText b.2) (hnames : (bs.map Prod.fst).Nodup)
    (env : List (String × String)) :
    read env (plainFile bs) = bs.map fun b => (b.1, some b.2) := by
  have hfold : ∀ found : List Binding, (found.map Prod.fst ++ bs.map Prod.fst).Nodup →
      bs.foldl (fun found b => bind found b.1 (some b.2)) found =
        found ++ bs.map fun b => (b.1, some b.2) := by
    clear h hnames
    induction bs with
    | nil => simp
    | cons b bs ih =>
        intro found hfound
        have hb : b.1 ∉ found.map Prod.fst := by
          intro hmem
          exact (List.nodup_append.mp hfound).2.2 _ hmem _ List.mem_cons_self rfl
        rw [List.foldl_cons, bind_of_not_mem hb, ih, List.append_assoc]
        · rfl
        · rwa [List.map_append, List.append_assoc]
  rw [read_plainFile h, hfold [] hnames, List.nil_append]

end EventSieve.Dotenv
