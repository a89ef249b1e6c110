import EventSieve.Path

/-!
# Branches

The branch of a path is the event that has this path in it and nothing else: maps of
one key each, one inside the other, with a value at the end. A path leads to something
in a branch if it is an initial part of the path of the branch, and to the value at the
end only if it is the whole of it. So two paths are told apart by the branch of one of
them.
-/

namespace EventSieve.Path

/-- The event of nested maps with one key each along a path, and a value at the end. -/
def branch (v : Value) : List String → Event
  | [] => []
  | [last] => [(last, v)]
  | key :: next :: rest => [(key, .map (branch v (next :: rest)))]

@[simp] theorem branch_singleton (v : Value) (last : String) : branch v [last] = [(last, v)] := rfl

theorem branch_cons_cons (v : Value) (key next : String) (rest : List String) :
    branch v (key :: next :: rest) = [(key, .map (branch v (next :: rest)))] := rfl

/-! ## Paths that lead nowhere -/

theorem find?_cons_of_get?_eq_none {root : Fields} {key : String} (h : root.get? key = none)
    (rest : List String) : find? root (key :: rest) = none := by
  cases rest with
  | nil => rw [find?_singleton, h]
  | cons next rest => rw [find?_cons_cons, h]

@[simp] theorem find?_empty (path : List String) : find? [] path = none := by
  cases path with
  | nil => rfl
  | cons key rest => exact find?_cons_of_get?_eq_none (Fields.get?_nil key) rest

/-! ## Paths in a branch -/

theorem find?_branch_self (v : Value) {path : List String} (hpath : path ≠ []) :
    find? (branch v path) path = some v := by
  induction path with
  | nil => exact absurd rfl hpath
  | cons key rest ih =>
      cases rest with
      | nil => simp [Fields.get?_cons]
      | cons next rest =>
          rw [branch_cons_cons, find?_cons_cons, Fields.get?_cons, if_pos rfl]
          exact ih (List.cons_ne_nil next rest)

/-- A path that is no initial part of the path of a branch leads nowhere, if the value at the
end is no map. -/
theorem find?_branch_eq_none {v : Value} (hv : v.isMap = false) {path other : List String}
    (h : ¬ other <+: path) : find? (branch v path) other = none := by
  induction path generalizing other with
  | nil => exact find?_empty other
  | cons key rest ih =>
      cases other with
      | nil => rfl
      | cons first others =>
          by_cases hkey : key = first
          · subst hkey
            rw [List.cons_prefix_cons] at h
            have hothers : ¬ others <+: rest := fun hprefix => h ⟨rfl, hprefix⟩
            cases others with
            | nil => exact absurd List.nil_prefix hothers
            | cons second others =>
                cases rest with
                | nil =>
                    -- the branch ends here, and the path goes on
                    refine find?_cons_cons_of_not_map (v := v) (by simp [Fields.get?_cons]) ?_ _ _
                    rintro fields rfl
                    simp at hv
                | cons next rest =>
                    rw [branch_cons_cons, find?_cons_cons, Fields.get?_cons, if_pos rfl]
                    exact ih hothers
          · have hget : ∀ w : Value, Fields.get? [(key, w)] first = none := by
              intro w
              rw [Fields.get?_cons, if_neg hkey, Fields.get?_nil]
            cases rest with
            | nil => exact find?_cons_of_get?_eq_none (hget v) others
            | cons next rest => exact find?_cons_of_get?_eq_none (hget _) others

end EventSieve.Path
