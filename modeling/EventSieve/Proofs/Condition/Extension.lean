import EventSieve.Proofs.Condition.Distinction

/-!
# Paths that go on

A path that is cut in two is followed in two steps: the second part starts from the map
that the first one leads to, and there is nothing to find where the first part leads to
no map. So a condition about a path says something about each path that goes on from it:
what leads on to a value leads to a map on the way, and a value that a literal denotes is
no map.
-/

namespace EventSieve

namespace Path

/-! ## A path in two parts -/

theorem find?_cons_of_ne_nil {rest : List String} (h : rest ≠ []) (root : Fields) (key : String) :
    find? root (key :: rest) =
      ((root.get? key).bind Value.fields?).bind fun fields => find? fields rest := by
  obtain ⟨next, more, rfl⟩ := List.exists_cons_of_ne_nil h
  rw [find?_cons_cons]
  cases root.get? key with
  | none => rfl
  | some v =>
      cases v with
      | map fields => rfl
      | _ => rfl

/-- A path in two parts is followed part by part, whatever the root. -/
theorem find?_append {p q : List String} (hp : p ≠ []) (hq : q ≠ []) (root : Fields) :
    find? root (p ++ q) =
      ((find? root p).bind Value.fields?).bind fun fields => find? fields q := by
  induction p generalizing root with
  | nil => exact absurd rfl hp
  | cons key rest ih =>
      cases rest with
      | nil => rw [List.singleton_append, find?_cons_of_ne_nil hq, find?_singleton]
      | cons next more =>
          have hrest : next :: more ≠ [] := List.cons_ne_nil next more
          have happend : next :: more ++ q ≠ [] := List.cons_ne_nil next (more ++ q)
          rw [List.cons_append, find?_cons_of_ne_nil happend, find?_cons_of_ne_nil hrest]
          cases (root.get? key).bind Value.fields? with
          | none => rfl
          | some fields => exact ih hrest fields

theorem find?_append_of_map {p q : List String} (hp : p ≠ []) (hq : q ≠ []) {root fields : Fields}
    (h : find? root p = some (.map fields)) : find? root (p ++ q) = find? fields q := by
  rw [find?_append hp hq, h]
  rfl

/-- There is nothing to find behind what is no map. -/
theorem find?_append_of_not_map {p q : List String} (hp : p ≠ []) (hq : q ≠ []) {root : Fields}
    (h : ∀ fields, find? root p ≠ some (.map fields)) : find? root (p ++ q) = none := by
  rw [find?_append hp hq]
  cases hfind : find? root p with
  | none => rfl
  | some v =>
      cases v with
      | map fields => exact absurd hfind (h fields)
      | _ => rfl

theorem exists_map_of_isSome_append {p q : List String} (hp : p ≠ []) (hq : q ≠ [])
    {root : Fields} (h : (find? root (p ++ q)).isSome) :
    ∃ fields, find? root p = some (.map fields) := by
  by_contra hmap
  rw [find?_append_of_not_map hp hq (not_exists.mp hmap)] at h
  cases h

theorem resolve_of_ne_nil {path : List String} (h : path ≠ []) (root : Fields) :
    resolve root path = some (find? root path) := by
  obtain ⟨key, rest, rfl⟩ := List.exists_cons_of_ne_nil h
  exact resolve_cons root key rest

end Path

open Expression

namespace Condition

/-! ## Conditions about a path and one that goes on from it -/

/-- A condition of a kind about a path, as some text compiles to. -/
def IsCompiledAs (kind : ConditionKind) (path : List String) (c : Condition) : Prop :=
  c.kind = kind ∧ c.path = path ∧
    ∃ factory text, (compile factory (.str text)).1 = .ok c

def Passes (m : Memory) (c : Condition) (event : Event) : Prop := (c.evaluate m event).1 = .ok true

namespace IsCompiledAs

variable {path : List String} {c : Condition} {m : Memory} {event : Event}

theorem isLookup {kind : ConditionKind} (h : IsCompiledAs kind path c)
    (hkind : kind = .exist ∨ kind = .eq) : c.IsLookup := by
  obtain ⟨hc, -, factory, text, hcompile⟩ := h
  rw [← hc] at hkind
  exact (wellFormed_of_compile hcompile).isLookup hkind

theorem evaluate_exist (h : IsCompiledAs .exist path c) (m : Memory) (event : Event) :
    (c.evaluate m event).1 = .ok (Path.find? event path).isSome := by
  rw [(h.isLookup (.inl rfl)).evaluate, h.2.1]
  cases Path.find? event path with
  | none => rfl
  | some v => rw [Option.any_some, accepts_of_exist h.1, Option.isSome_some]

theorem passes_exist_iff (h : IsCompiledAs .exist path c) :
    c.Passes m event ↔ (Path.find? event path).isSome := by
  rw [Passes, h.evaluate_exist, Except.ok.injEq]

/-- A condition about a value passes only where the path leads to something that is no map. -/
theorem exists_find?_of_passes_eq (h : IsCompiledAs .eq path c) (hpass : c.Passes m event) :
    ∃ v, Path.find? event path = some v ∧ v.isMap = false := by
  have hlookup := h.isLookup (.inr rfl)
  rw [Passes, hlookup.evaluate, h.2.1, Except.ok.injEq, Option.any_eq_true] at hpass
  obtain ⟨v, hv, haccepts⟩ := hpass
  refine ⟨v, hv, ?_⟩
  rw [accepts_of_eq h.1, Value.strictEqual_iff] at haccepts
  have hvalue := hlookup.isMap_value
  cases v with
  | map fields =>
      -- both would be of the kind of maps
      cases hw : c.value with
      | map others =>
          rw [hw] at hvalue
          cases hvalue
      | _ =>
          rw [hw] at haccepts
          cases haccepts.1
  | _ => rfl

end IsCompiledAs

/-- A path in two parts is looked up in the map that its first part leads to, and leads
nowhere if that is no map. So compiled conditions about a path and about one that goes on from
it are bound to each other: where the longer path leads to something, so does the shorter one,
and a value that is equal to a literal is there and leads no further. -/
theorem lookup_compositional {p q : List String} (hp : p ≠ []) (hq : q ≠ []) (m : Memory)
    (root : Fields) :
    (Path.resolve root (p ++ q) =
      match Path.resolve root p with
      | some (some (.map fields)) => Path.resolve fields q
      | _ => some none) ∧
    ∀ exist existLonger eq : Condition, IsCompiledAs .exist p exist →
      IsCompiledAs .exist (p ++ q) existLonger → IsCompiledAs .eq p eq →
        (existLonger.Passes m root → exist.Passes m root) ∧
        (eq.Passes m root → exist.Passes m root) ∧
        (eq.Passes m root → (existLonger.evaluate m root).1 = .ok false) := by
  have happend : p ++ q ≠ [] := List.append_ne_nil_of_left_ne_nil hp q
  constructor
  · rw [Path.resolve_of_ne_nil happend, Path.resolve_of_ne_nil hp]
    split
    · next fields hmap =>
      rw [Path.find?_append_of_map hp hq (Option.some.inj hmap), Path.resolve_of_ne_nil hq]
    · next hmap =>
      rw [Path.find?_append_of_not_map hp hq fun fields hfields => hmap fields (by rw [hfields])]
  · intro exist existLonger eq hexist hlonger heq
    refine ⟨?_, ?_, ?_⟩
    · intro hpass
      obtain ⟨fields, hfields⟩ :=
        Path.exists_map_of_isSome_append hp hq (hlonger.passes_exist_iff.mp hpass)
      rw [hexist.passes_exist_iff, hfields, Option.isSome_some]
    · intro hpass
      obtain ⟨v, hv, -⟩ := heq.exists_find?_of_passes_eq hpass
      rw [hexist.passes_exist_iff, hv, Option.isSome_some]
    · intro hpass
      obtain ⟨v, hv, hmap⟩ := heq.exists_find?_of_passes_eq hpass
      have hnone : Path.find? root (p ++ q) = none := by
        apply Path.find?_append_of_not_map hp hq
        intro fields hfields
        rw [hv, Option.some.injEq] at hfields
        rw [hfields] at hmap
        cases hmap
      rw [hlonger.evaluate_exist, hnone, Option.isSome_none]

theorem text_leads_no_further :
    ∃ exist existLonger eq, IsCompiledAs .exist ["a", "b"] exist ∧
      IsCompiledAs .exist (["a", "b"] ++ ["c"]) existLonger ∧ IsCompiledAs .eq ["a", "b"] eq ∧
      eq.Passes default [("a", .map [("b", .str "x")])] ∧
      exist.Passes default [("a", .map [("b", .str "x")])] ∧
      (existLonger.evaluate default [("a", .map [("b", .str "x")])]).1 = .ok false := by
  have hexist : IsCompiledAs .exist ["a", "b"] (ofPath "Exist(a, b)" ["a", "b"]) :=
    ⟨rfl, rfl, (.standard default), "Exist(a, b)", by rfl⟩
  have hlonger : IsCompiledAs .exist (["a", "b"] ++ ["c"])
      (ofPath "Exist(a, b, c)" ["a", "b", "c"]) :=
    ⟨rfl, rfl, (.standard default), "Exist(a, b, c)", by rfl⟩
  have heq : IsCompiledAs .eq ["a", "b"]
      (ofPathValue "EQ(a, b, \"x\")" ["a", "b"] (.str "x")) :=
    ⟨rfl, rfl, (.standard default), "EQ(a, b, \"x\")", by rfl⟩
  have hpass : (ofPathValue "EQ(a, b, \"x\")" ["a", "b"] (.str "x")).Passes default
      [("a", .map [("b", .str "x")])] := by rfl
  obtain ⟨-, hpasses, hnothing⟩ :=
    (lookup_compositional (by decide) (by decide) _ _).2 _ _ _ hexist hlonger heq
  exact ⟨_, _, _, hexist, hlonger, heq, hpass, hpasses hpass, hnothing hpass⟩

end Condition

end EventSieve
