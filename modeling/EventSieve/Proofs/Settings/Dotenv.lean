import EventSieve.Proofs.Results
import EventSieve.Proofs.Text.Trimming
import EventSieve.Settings.Dotenv

/-!
# What environment files set

`bind` sets one name and leaves the others as they are, so that a file sets each name once, to
what the last line with it says. Each step of reading uses up text, so that the fuel never runs
out before the text does.
-/

namespace EventSieve.Dotenv

open Text

/-! ## Binding names -/

theorem lookup_bind (bindings : List Binding) (name : String) (v : Option String) (key : String) :
    (bind bindings name v).lookup key = if name = key then some v else bindings.lookup key := by
  induction bindings with
  | nil =>
      by_cases hkey : name = key
      · simp [bind, hkey]
      · simp [bind, hkey, Ne.symm hkey]
  | cons binding rest ih =>
      obtain ⟨k, w⟩ := binding
      rw [bind]
      by_cases hk : k = name
      · subst hk
        by_cases hkey : k = key
        · simp [hkey]
        · simp [List.lookup_cons, hkey, beq_eq_false_iff_ne.mpr (Ne.symm hkey)]
      · rw [if_neg hk, List.lookup_cons, List.lookup_cons, ih]
        by_cases hkey : key = k
        · subst hkey
          simp [Ne.symm hk]
        · simp [beq_eq_false_iff_ne.mpr hkey]

theorem map_fst_bind (bindings : List Binding) (name : String) (v : Option String) :
    (bind bindings name v).map Prod.fst =
      if name ∈ bindings.map Prod.fst then bindings.map Prod.fst
      else bindings.map Prod.fst ++ [name] := by
  induction bindings with
  | nil => rfl
  | cons binding rest ih =>
      obtain ⟨k, w⟩ := binding
      rw [bind]
      by_cases hk : k = name
      · simp [hk]
      · rw [if_neg hk, List.map_cons, List.map_cons, ih]
        by_cases hname : name ∈ rest.map Prod.fst
        · rw [if_pos hname, if_pos (List.mem_cons_of_mem _ hname)]
        · have hcons : name ∉ k :: rest.map Prod.fst := by
            rw [List.mem_cons, not_or]
            exact ⟨Ne.symm hk, hname⟩
          rw [if_neg hname, if_neg hcons, List.cons_append]

theorem nodup_bind {bindings : List Binding} (h : (bindings.map Prod.fst).Nodup) (name : String)
    (v : Option String) : ((bind bindings name v).map Prod.fst).Nodup := by
  rw [map_fst_bind]
  split
  · exact h
  · next hname =>
    rw [List.nodup_append]
    refine ⟨h, List.pairwise_singleton _ name, ?_⟩
    rintro a ha b hb rfl
    exact hname (List.mem_singleton.mp hb ▸ ha)

section Fold

variable {α : Type} (name : α → String) (value : List Binding → α → Option String)

theorem nodup_foldl_bind (items : List α) {found : List Binding}
    (h : (found.map Prod.fst).Nodup) :
    ((items.foldl (fun found a => bind found (name a) (value found a)) found).map
      Prod.fst).Nodup := by
  induction items generalizing found with
  | nil => exact h
  | cons a items ih => exact ih (nodup_bind h (name a) (value found a))

theorem lookup_foldl_bind (value : α → Option String) (items : List α) (found : List Binding)
    (key : String) :
    (items.foldl (fun found a => bind found (name a) (value a)) found).lookup key =
      ((items.reverse.find? fun a => name a = key).map value).or (found.lookup key) := by
  induction items generalizing found with
  | nil => simp
  | cons a items ih =>
      rw [List.foldl_cons, ih, lookup_bind, List.reverse_cons, List.find?_append]
      by_cases ha : name a = key
      · cases items.reverse.find? fun a => name a = key <;> simp [ha]
      · cases items.reverse.find? fun a => name a = key <;> simp [ha]

end Fold

theorem nodup_read (env : List (String × String)) (text : String) :
    ((read env text).map Prod.fst).Nodup :=
  nodup_foldl_bind Prod.fst _ _ List.nodup_nil

/-! ## Enough fuel -/

/-- What is left of a text after a step of reading, whether it comes to something or not. -/
def remainder {α : Type} : Except (List Char) (α × List Char) → List Char
  | .ok (_, rest) => rest
  | .error rest => rest

theorem length_of_untilQuote? {quote last : Char} {cs body rest : List Char}
    (h : untilQuote? quote last cs = some (body, rest)) : rest.length < cs.length := by
  induction cs generalizing last body with
  | nil => cases h
  | cons c cs ih =>
      rw [untilQuote?] at h
      split at h
      · cases h
        exact Nat.lt_succ_self _
      · obtain ⟨⟨inner, after⟩, hinner, hbody⟩ := Option.map_eq_some_iff.mp h
        cases hbody
        exact Nat.lt_succ_of_lt (ih hinner)

theorem length_of_untilLastQuote? {quote : Char} {cs body rest : List Char}
    (h : untilLastQuote? quote cs = some (body, rest)) : rest.length < cs.length := by
  induction cs generalizing body with
  | nil => cases h
  | cons c cs ih =>
      rw [untilLastQuote?] at h
      split at h
      · next inner after hinner =>
        cases h
        exact Nat.lt_succ_of_lt (ih hinner)
      · split at h
        · cases h
          exact Nat.lt_succ_self _
        · cases h

theorem length_of_quoted? {quote : Char} {cs body rest : List Char}
    (h : quoted? quote cs = some (body, rest)) : rest.length < cs.length := by
  rw [quoted?] at h
  split at h
  · next found hfound =>
    cases h
    exact length_of_untilQuote? hfound
  · exact length_of_untilLastQuote? h

theorem length_remainder_between {cs rest : List Char} (h : rest.length ≤ cs.length) (quote : Char)
    (escape : Char → Option Char) :
    (remainder (between cs quote escape rest)).length ≤ cs.length := by
  rw [between]
  split
  · next body after hquoted => exact Nat.le_trans (Nat.le_of_lt (length_of_quoted? hquoted)) h
  · exact Nat.le_refl _

theorem length_remainder_value (cs : List Char) : (remainder (value cs)).length ≤ cs.length := by
  unfold value
  split
  · exact length_remainder_between (Nat.le_succ _) _ _
  · exact length_remainder_between (Nat.le_succ _) _ _
  · rw [remainder, List.length_drop]
    exact Nat.sub_le _ _

theorem length_remainder_name (cs : List Char) : (remainder (name cs)).length ≤ cs.length := by
  unfold name
  split
  · exact Nat.le_refl _
  · next rest =>
    dsimp only
    split
    · next hrest =>
      have hlength := congrArg List.length hrest
      rw [List.length_drop, List.length_cons] at hlength
      rw [remainder, List.length_cons]
      omega
    · exact Nat.le_refl _
  · dsimp only
    split
    · exact Nat.le_refl _
    · rw [remainder, List.length_drop]
      exact Nat.sub_le _ _

theorem length_dropExport_le (cs : List Char) : (dropExport cs).length ≤ cs.length := by
  rw [dropExport]
  split
  · dsimp only
    split
    · exact ((List.dropWhile_suffix _).trans (List.drop_suffix 6 cs)).length_le
    · exact Nat.le_refl _
  · exact Nat.le_refl _

theorem length_of_lineEnd {cs rest : List Char} (h : lineEnd cs = .ok rest) :
    rest = [] ∨ rest.length < cs.length := by
  rw [lineEnd] at h
  split at h
  · cases h
    exact .inl rfl
  · next after hafter =>
    cases h
    right
    have hsuffix : ('\n' :: rest) <:+ cs := by
      rw [← hafter]
      split
      · exact (List.dropWhile_suffix _).trans (List.dropWhile_suffix _)
      · exact List.dropWhile_suffix _
    exact hsuffix.length_le
  · cases h

theorem lineEnd_eq_error {cs rest : List Char} (h : lineEnd cs = .error rest) : rest = cs := by
  rw [lineEnd] at h
  split at h
  · cases h
  · cases h
  · cases h
    rfl

theorem length_remainder_bound (cs : List Char) : (remainder (bound cs)).length ≤ cs.length := by
  have hblanks : (cs.dropWhile isInlineBlank).length ≤ cs.length :=
    (List.dropWhile_suffix _).length_le
  rw [bound]
  split
  · next rest hrest =>
    have hvalue := length_remainder_value (rest.dropWhile isInlineBlank)
    have hdrop : (rest.dropWhile isInlineBlank).length ≤ rest.length :=
      (List.dropWhile_suffix _).length_le
    rw [hrest, List.length_cons] at hblanks
    cases hv : value (rest.dropWhile isInlineBlank) with
    | error left =>
        rw [hv, remainder] at hvalue
        rw [Except.map, remainder]
        omega
    | ok found =>
        rw [hv, remainder] at hvalue
        rw [Except.map, remainder]
        omega
  · exact hblanks

/-- A line uses up text if it can be read, and what is left is a part of the text if not. -/
theorem length_of_line {cs : List Char} (hcs : cs ≠ []) :
    (∀ binding rest, line cs = .ok (binding, rest) → rest.length < cs.length) ∧
      ∀ rest, line cs = .error rest → rest.length ≤ cs.length := by
  have hpos : 0 < cs.length := List.length_pos_iff.mpr hcs
  have hexport := length_dropExport_le cs
  have hname := length_remainder_name (dropExport cs)
  unfold line
  cases hkey : name (dropExport cs) with
  | error left =>
      rw [hkey, remainder] at hname
      refine ⟨nofun, ?_⟩
      rintro rest ⟨⟩
      exact Nat.le_trans hname hexport
  | ok found =>
      obtain ⟨key, behind⟩ := found
      rw [hkey, remainder] at hname
      have hbound := length_remainder_bound behind
      rw [Except.ok_bind]
      dsimp only
      cases hv : bound behind with
      | error left =>
          rw [hv, remainder] at hbound
          refine ⟨nofun, ?_⟩
          rintro rest ⟨⟩
          omega
      | ok found =>
          obtain ⟨v, after⟩ := found
          rw [hv, remainder] at hbound
          rw [Except.ok_bind]
          dsimp only
          cases hend : lineEnd after with
          | error left =>
              refine ⟨nofun, ?_⟩
              rintro rest ⟨⟩
              rw [lineEnd_eq_error hend]
              omega
          | ok rest =>
              refine ⟨?_, nofun⟩
              rintro binding rest ⟨⟩
              rcases length_of_lineEnd hend with rfl | hshorter
              · exact hpos
              · omega

theorem length_dropLine_le (cs : List Char) : (dropLine cs).length ≤ cs.length - 1 := by
  rw [dropLine, List.length_drop]
  exact Nat.sub_le_sub_right (List.dropWhile_suffix _).length_le 1

/-- The lines are the same whatever the fuel is, if it is more than the characters. -/
theorem lines_eq_of_length_lt {fuel more : Nat} {cs : List Char} (hfuel : cs.length < fuel)
    (hmore : cs.length < more) : lines fuel cs = lines more cs := by
  induction fuel generalizing more cs with
  | zero => exact absurd hfuel (Nat.not_lt_zero _)
  | succ fuel ih =>
      obtain ⟨more, rfl⟩ : ∃ n, more = n + 1 := ⟨more - 1, by omega⟩
      have hsuffix : (cs.dropWhile isBlank).length ≤ cs.length :=
        (List.dropWhile_suffix _).length_le
      rw [lines, lines]
      split
      · rfl
      · next hne =>
        have hpos : 0 < (cs.dropWhile isBlank).length := List.length_pos_iff.mpr hne
        obtain ⟨hok, herror⟩ := length_of_line hne
        cases hline : line (cs.dropWhile isBlank) with
        | ok found =>
            obtain ⟨binding, rest⟩ := found
            have hrest := hok binding rest hline
            have hlines : lines fuel rest = lines more rest := ih (by omega) (by omega)
            dsimp only
            rw [hlines]
        | error rest =>
            have hrest := herror rest hline
            have hdrop := length_dropLine_le rest
            exact ih (by omega) (by omega)

theorem length_of_reference? {cs name default rest : List Char}
    (h : reference? cs = some (name, default, rest)) : rest.length ≤ cs.length := by
  rw [reference?] at h
  have hdrop : ∀ n, (cs.drop n).length ≤ cs.length := fun n => (List.drop_suffix n cs).length_le
  split at h
  · next after hafter =>
    cases h
    have hlength := hdrop (cs.takeWhile fun c => c ≠ '\x7d' ∧ c ≠ ':').length
    rw [hafter, List.length_cons] at hlength
    exact Nat.le_of_succ_le hlength
  · next after hafter =>
    have hlength := hdrop (cs.takeWhile fun c => c ≠ '\x7d' ∧ c ≠ ':').length
    rw [hafter, List.length_cons, List.length_cons] at hlength
    dsimp only at h
    split at h
    · next c found hfound =>
      cases h
      have hfoundlength := congrArg List.length hfound
      rw [List.length_drop, List.length_cons] at hfoundlength
      omega
    · cases h
  · cases h

theorem expand_eq_of_length_lt (lookup : String → Option (Option String)) {fuel more : Nat}
    {cs : List Char} (hfuel : cs.length < fuel) (hmore : cs.length < more) :
    expand lookup fuel cs = expand lookup more cs := by
  induction fuel generalizing more cs with
  | zero => exact absurd hfuel (Nat.not_lt_zero _)
  | succ fuel ih =>
      obtain ⟨more, rfl⟩ : ∃ n, more = n + 1 := ⟨more - 1, by omega⟩
      have hshorter : ∀ rest : List Char, rest.length < cs.length →
          expand lookup fuel rest = expand lookup more rest :=
        fun rest hrest => ih (by omega) (by omega)
      unfold expand
      split
      · rfl
      · next rest =>
        cases hreference : reference? rest with
        | none =>
            dsimp only
            rw [hshorter]
            exact Nat.lt_succ_self _
        | some found =>
            obtain ⟨name, default, after⟩ := found
            have hafter := length_of_reference? hreference
            dsimp only
            rw [hshorter]
            rw [List.length_cons, List.length_cons]
            omega
      · next c rest _ =>
        rw [hshorter]
        exact Nat.lt_succ_self _

end EventSieve.Dotenv
