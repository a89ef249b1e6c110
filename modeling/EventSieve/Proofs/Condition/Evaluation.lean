import EventSieve.Proofs.Condition.Compile

/-!
# Answers of compiled conditions

What a condition of each kind answers on an event. A path that is not empty is all that
the answer of a condition about it needs; the answer of a template is up to its renderer.
-/

namespace EventSieve

open Expression

/-- A failure can be reported: the key that is missing, if one is, can be written. -/
def Expression.Failure.isReportable (m : Memory) : Failure → Bool
  | .missingKey key => (key.written? m).isSome
  | .other => true

namespace Condition

theorem resolve_of_path_ne_nil {c : Condition} (hpath : c.path ≠ []) (event : Event) :
    c.resolve event = .ok (Path.find? event c.path) := by
  obtain ⟨key, path, hkey⟩ := List.exists_cons_of_ne_nil hpath
  rw [resolve, hkey, Path.resolve_cons]

theorem evaluate_ofRenderer (source : String) (r : Renderer) (m : Memory)
    (event : Event) :
    ((ofRenderer source r).evaluate m event).1 = answer "y" (r.render m event) := rfl

/-- The condition of a template fails where its evaluation does, and raises an error where that
failure cannot be reported. -/
theorem evaluate_ofTemplate (source : String) (w : Wording) (t : Template) (m : Memory)
    (event : Event) :
    ((ofRenderer source (.ofTemplate w t)).evaluate m event).1 =
      match t.tree.evaluate m event with
      | .ok o => .ok ((Rendering.result o).isText "y")
      | .error failure =>
        if failure.isReportable m then .ok false
        else .error (.renderer Value.unwritableMessage) := by
  rw [evaluate_ofRenderer]
  simp only [Renderer.ofTemplate]
  cases t.tree.evaluate m event with
  | ok o => rfl
  | error failure =>
      cases failure with
      | other => rfl
      | missingKey key =>
          simp only [Renderer.renderFailure, Failure.isReportable]
          rcases Option.eq_none_or_eq_some (key.written? m) with hkey | ⟨s, hkey⟩
          · simp [hkey, answer]
          · simp [hkey, answer, Rendering.isText]

theorem evaluate_ofPathValue (source : String) {path : List String} (hpath : path ≠ [])
    (v : Value) (m : Memory) (event : Event) :
    ((ofPathValue source path v).evaluate m event).1 =
      .ok ((Path.find? event path).any fun found => found.strictEqual v) := by
  have hresolve : (ofPathValue source path v).resolve event = .ok (Path.find? event path) :=
    resolve_of_path_ne_nil hpath event
  show ((ofPathValue source path v).resolve event).map _ = _
  rw [hresolve]
  cases Path.find? event path with
  | none => rfl
  | some found => rfl

end Condition

end EventSieve
