import EventSieve.Journal
import EventSieve.Proofs.Settings.PlainFiles
import EventSieve.Settings
import Mathlib.Data.List.Nodup

/-!
# Loading settings

Only an explicit value can be no text, and settings load unless one of them has such a value:
each of these is then reported under its name. A setting has its explicit value, or else what
the environment or the file last binds to its name in letters of either case, or its default.
What is kept beside the settings has none of their names.
-/

namespace EventSieve.Settings

open Dotenv

def defaults : Settings := ⟨"local", "info", "filter", "default", "if", []⟩

theorem load_nothing : load [] [] "" = .ok defaults := rfl

theorem opened?_logLevel_defaults : Journal.opened? none defaults.logLevel = some .info := rfl

/-! ## Environments -/

theorem exists_text_of_bound? {bindings : List Binding} {name : String} {v : Value}
    (h : bound? bindings name = some v) : ∃ s, v = .str s := by
  rw [bound?] at h
  split at h
  · next s _ =>
    cases h
    exact ⟨s, rfl⟩
  · cases h

theorem nodup_lowered (bindings : List Binding) : ((lowered bindings).map Prod.fst).Nodup :=
  nodup_foldl_bind (fun b : Binding => Text.lower b.1) (fun _ b => b.2) bindings List.nodup_nil

/-- A setting is given by the last binding of its marked name, in letters of either case. -/
theorem bound?_lowered (bindings : List Binding) (name : String) :
    bound? (lowered bindings) name =
      ((bindings.reverse.find? fun b => Text.lower b.1 = mark ++ name).bind Prod.snd).map
        Value.str := by
  have hlookup : (lowered bindings).lookup (mark ++ name) =
      (bindings.reverse.find? fun b => Text.lower b.1 = mark ++ name).map Prod.snd := by
    have hfold := lookup_foldl_bind (fun b : Binding => Text.lower b.1) Prod.snd bindings []
      (mark ++ name)
    rwa [List.lookup_nil, Option.or_none] at hfold
  rw [bound?, hlookup]
  cases bindings.reverse.find? fun b => Text.lower b.1 = mark ++ name with
  | none => rfl
  | some b =>
      obtain ⟨key, v⟩ := b
      cases v with
      | none => rfl
      | some s => rfl

variable {overrides : Fields} {env : List (String × String)} {file name : String}

/-- The environment and the file give a setting nothing but a text. -/
theorem get?_of_found? {v : Value} (h : found? overrides env file name = some v)
    (hv : ∀ s, v ≠ .str s) : overrides.get? name = some v := by
  rw [found?] at h
  cases hexplicit : overrides.get? name with
  | some w =>
      rw [hexplicit] at h
      exact h
  | none =>
      rw [hexplicit] at h
      cases henv : bound? (lowered (bindingsOf env)) name with
      | some w =>
          rw [henv] at h
          cases h
          obtain ⟨s, rfl⟩ := exists_text_of_bound? henv
          exact absurd rfl (hv s)
      | none =>
          rw [henv] at h
          obtain ⟨s, rfl⟩ := exists_text_of_bound? h
          exact absurd rfl (hv s)

/-! ## Errors -/

theorem misfit?_eq_some_iff {v? : Option Value} {e : Invalid} :
    misfit? name v? = some e ↔
      ∃ v, v? = some v ∧ (∀ s, v ≠ .str s) ∧ e = ⟨.text, some name, none, v⟩ := by
  cases v? with
  | none => simp [misfit?]
  | some v => cases v <;> simp [misfit?, eq_comm]

/-- Every error names the setting that it is about, and shows the explicit value of it. -/
theorem mem_misfits_iff {e : Invalid} :
    e ∈ misfits overrides env file ↔
      ∃ name ∈ names, ∃ v, overrides.get? name = some v ∧ (∀ s, v ≠ .str s) ∧
        e = ⟨.text, some name, none, v⟩ := by
  rw [misfits, List.mem_filterMap]
  constructor
  · rintro ⟨name, hname, h⟩
    obtain ⟨v, hfound, hv, he⟩ := misfit?_eq_some_iff.mp h
    exact ⟨name, hname, v, get?_of_found? hfound hv, hv, he⟩
  · rintro ⟨name, hname, v, hexplicit, hv, he⟩
    have hfound : found? overrides env file name = some v := by
      rw [found?, hexplicit]
      rfl
    exact ⟨name, hname, misfit?_eq_some_iff.mpr ⟨v, hfound, hv, he⟩⟩

theorem load_eq_ok_iff {s : Settings} :
    load overrides env file = .ok s ↔
      misfits overrides env file = [] ∧ s = loaded overrides env file := by
  rw [load]
  split
  · next h =>
    rw [and_iff_right h]
    exact ⟨fun hs => (Except.ok.inj hs).symm, fun hs => hs ▸ rfl⟩
  · next h => exact iff_of_false nofun fun hs => h hs.1

theorem load_eq_error_iff {errors : List Invalid} :
    load overrides env file = .error errors ↔
      errors ≠ [] ∧ errors = misfits overrides env file := by
  rw [load]
  split
  · next h =>
    rw [h]
    exact iff_of_false nofun fun hne => hne.1 hne.2
  · next h =>
    constructor
    · rintro ⟨⟩
      exact ⟨h, rfl⟩
    · rintro ⟨-, rfl⟩
      rfl

/-- Settings load if every explicit value of a setting is a text. -/
theorem exists_load_iff :
    (∃ s, load overrides env file = .ok s) ↔
      ∀ name ∈ names, ∀ v, overrides.get? name = some v → ∃ s, v = .str s := by
  have hload : (∃ s, load overrides env file = .ok s) ↔ misfits overrides env file = [] :=
    ⟨fun ⟨_, hs⟩ => (load_eq_ok_iff.mp hs).1, fun h => ⟨_, load_eq_ok_iff.mpr ⟨h, rfl⟩⟩⟩
  rw [hload, List.eq_nil_iff_forall_not_mem]
  constructor
  · intro h name hname v hv
    by_contra hs
    exact h _ (mem_misfits_iff.mpr ⟨name, hname, v, hv, not_exists.mp hs, rfl⟩)
  · intro h e he
    obtain ⟨name, hname, v, hv, hs, -⟩ := mem_misfits_iff.mp he
    obtain ⟨s, rfl⟩ := h name hname v hv
    exact hs s rfl

/-! ## Values -/

theorem some_textOr_of_misfit? {v? : Option Value} {default : String}
    (h : misfit? name v? = none) :
    some (.str (textOr default v?)) = v?.or (some (.str default)) := by
  cases v? with
  | none => rfl
  | some v =>
      cases v with
      | str s => rfl
      | _ => cases h

/-- A setting is what is found for it, and its default if nothing is. -/
theorem get?_fields_of_load {s : Settings} (h : load overrides env file = .ok s)
    (hname : name ∈ names) :
    s.fields.get? name = (found? overrides env file name).or (defaults.fields.get? name) := by
  obtain ⟨hmisfits, rfl⟩ := load_eq_ok_iff.mp h
  have hnone : misfit? name (found? overrides env file name) = none :=
    List.filterMap_eq_nil_iff.mp hmisfits name hname
  simp only [names, List.mem_cons, List.not_mem_nil, or_false] at hname
  rcases hname with rfl | rfl | rfl | rfl | rfl <;> exact some_textOr_of_misfit? hnone

theorem get?_keepExtra (hname : name ∈ names) {extras : Fields} (h : extras.get? name = none)
    (b : Binding) : (keepExtra extras b).get? name = none := by
  obtain ⟨key, v⟩ := b
  cases v with
  | none => exact h
  | some v =>
      rw [keepExtra]
      split
      · exact h
      · next htaken =>
        have hne : withoutMark key ≠ name := by
          rintro rfl
          simp [isTaken, hname] at htaken
        rw [Fields.get?_set_of_ne _ hne, h]

theorem get?_extrasOf (hname : name ∈ names) (bindings : List Binding) :
    (extrasOf bindings).get? name = none := by
  have hfold : ∀ extras : Fields, extras.get? name = none →
      (bindings.foldl keepExtra extras).get? name = none := by
    induction bindings with
    | nil => exact fun extras hextras => hextras
    | cons b bindings ih => exact fun extras hextras => ih _ (get?_keepExtra hname hextras b)
  exact hfold [] rfl

theorem get?_besides (hname : name ∈ names) : (besides overrides env file).get? name = none := by
  rw [besides, Fields.get?_merge_of_forall_ne, get?_extrasOf hname]
  rintro ⟨key, v⟩ hfield rfl
  rw [List.mem_filter] at hfield
  simp [hname] at hfield

/-! ## Plain files -/

/-- A plain file that sets each name once gives a setting that nothing else sets. -/
theorem found?_plainFile {bs : List (String × String)}
    (hplain : ∀ b ∈ bs, IsPlainName b.1 ∧ IsPlainText b.2)
    (hnames : (bs.map fun b => Text.lower b.1).Nodup) {b : String × String} (hb : b ∈ bs)
    (hkey : Text.lower b.1 = mark ++ name) (hoverrides : overrides.get? name = none)
    (henv : ∀ e ∈ env, Text.lower e.1 ≠ mark ++ name) :
    found? overrides env (plainFile bs) name = some (.str b.2) := by
  have hfirsts : (bs.map Prod.fst).Nodup := by
    have hlowered : ((bs.map Prod.fst).map Text.lower).Nodup := by rwa [List.map_map]
    exact hlowered.of_map
  have henvironment : bound? (lowered (bindingsOf env)) name = none := by
    rw [bound?_lowered, List.find?_eq_none.mpr]
    · rfl
    · rintro ⟨key, v⟩ hmem
      rw [List.mem_reverse, bindingsOf, List.mem_map] at hmem
      obtain ⟨e, he, heq⟩ := hmem
      cases heq
      simpa using henv e he
  have hfile : bound? (lowered (read env (plainFile bs))) name = some (.str b.2) := by
    rw [bound?_lowered, read_plainFile_of_nodup hplain hfirsts]
    cases hfind : (bs.map fun b => (b.1, some b.2)).reverse.find?
        fun b => Text.lower b.1 = mark ++ name with
    | none =>
        have hb' := List.find?_eq_none.mp hfind (b.1, some b.2)
          (List.mem_reverse.mpr (List.mem_map_of_mem hb))
        exact absurd (decide_eq_true hkey) hb'
    | some e =>
        have hmem := List.mem_of_find?_eq_some hfind
        have hlower : Text.lower e.1 = mark ++ name := by simpa using List.find?_some hfind
        rw [List.mem_reverse, List.mem_map] at hmem
        obtain ⟨c, hc, rfl⟩ := hmem
        -- no other line has the name of the setting
        obtain rfl := List.inj_on_of_nodup_map hnames hb hc (hkey.trans hlower.symm)
        rfl
  rw [found?, hoverrides, henvironment, hfile]
  rfl

end EventSieve.Settings
