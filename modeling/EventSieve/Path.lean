import EventSieve.Value

/-!
# Paths into an event

A path is a row of keys. `find?` follows it from one map to the next: every key but
the last has to lead to a map, and the last to any value, null included. What is
missing or has the wrong kind is never an error. Only the empty path is one.
-/

namespace EventSieve

/-- The value at the end of a path. No path is empty. -/
def Path.find? (root : Fields) : List String → Option Value
  | [] => none
  | [last] => root.get? last
  | key :: next :: rest =>
    match root.get? key with
    | some (.map fields) => find? fields (next :: rest)
    | _ => none

def Path.resolve (root : Fields) (path : List String) : Option (Option Value) :=
  if path.isEmpty then none else some (find? root path)

namespace Path

@[simp] theorem find?_singleton (root : Fields) (key : String) :
    find? root [key] = root.get? key := rfl

theorem find?_cons_cons (root : Fields) (key next : String) (rest : List String) :
    find? root (key :: next :: rest) =
      match root.get? key with
      | some (.map fields) => find? fields (next :: rest)
      | _ => none := rfl

theorem find?_cons_cons_of_not_map {root : Fields} {key : String} {v : Value}
    (hget : root.get? key = some v) (hv : ∀ fields, v ≠ .map fields) (next : String)
    (rest : List String) : find? root (key :: next :: rest) = none := by
  rw [find?_cons_cons, hget]
  cases v with
  | map fields => exact absurd rfl (hv fields)
  | null => rfl
  | bool b => rfl
  | int n => rfl
  | float x => rfl
  | str s => rfl
  | list items => rfl

@[simp] theorem resolve_nil (root : Fields) : resolve root [] = none := rfl

@[simp] theorem resolve_cons (root : Fields) (key : String) (rest : List String) :
    resolve root (key :: rest) = some (find? root (key :: rest)) := rfl

end Path

end EventSieve
