import EventSieve.Proofs.Condition.Evaluation
import EventSieve.Proofs.Expression.Coincidence

/-!
# What a template depends on

A template that does not read the event as a whole depends on the fields under the names that
it reads: events with the same values there render alike, and the condition of the template has
the same answer on them. A field under any other name is of no account, whatever the name. What
a template shows of an address depends on the memory as well.
-/

namespace EventSieve

def Fields.without (fields : Fields) (key : String) : Fields := fields.filter (·.1 ≠ key)

theorem Fields.get?_without_of_ne {key other : String} (h : key ≠ other) (fields : Fields) :
    get? (fields.without key) other = get? fields other := by
  induction fields with
  | nil => rfl
  | cons field fields ih =>
      obtain ⟨k, v⟩ := field
      rw [without] at ih
      by_cases hk : k = key
      · have hother : k ≠ other := hk ▸ h
        rw [without, List.filter_cons_of_neg (by simpa using hk), ih, get?_cons, if_neg hother]
      · rw [without, List.filter_cons_of_pos (by simpa using hk), get?_cons, get?_cons, ih]

theorem Expression.Failure.isReportable_eq (failure : Failure) (m₁ m₂ : Memory) :
    failure.isReportable m₁ = failure.isReportable m₂ := by
  cases failure with
  | other => rfl
  | missingKey key =>
      -- only a value may be impossible to write, and it is written without an address
      cases key with
      | function f => cases f <;> rfl
      | member k name callable =>
          simp only [Failure.isReportable, Operand.written?]
          split
          · rfl
          · split <;> rfl
      | _ => rfl

namespace Template

open Expression

variable {t : Template} {m₁ m₂ : Memory} {e₁ e₂ : Event}

theorem operand?_render_congr (w : Wording) (h : t.tree.evaluate m₁ e₁ = t.tree.evaluate m₂ e₂) :
    ((Renderer.ofTemplate w t).render m₁ e₁).operand? =
      ((Renderer.ofTemplate w t).render m₂ e₂).operand? := by
  simp only [Renderer.ofTemplate, h]
  cases t.tree.evaluate m₂ e₂ with
  | ok o => rfl
  | error failure =>
      cases failure with
      | other => rfl
      | missingKey key =>
          have hkey := (Failure.missingKey key).isReportable_eq m₁ m₂
          simp only [Failure.isReportable] at hkey
          simp only [Renderer.renderFailure]
          cases h₁ : key.written? m₁ <;> cases h₂ : key.written? m₂
          · rfl
          · simp [h₁, h₂] at hkey
          · simp [h₁, h₂] at hkey
          · rfl

theorem fst_evaluate_congr (w : Wording) (h : t.tree.evaluate m₁ e₁ = t.tree.evaluate m₂ e₂)
    (source : String) :
    ((Condition.ofRenderer source (.ofTemplate w t)).evaluate m₁ e₁).1 =
      ((Condition.ofRenderer source (.ofTemplate w t)).evaluate m₂ e₂).1 := by
  rw [Condition.evaluate_ofTemplate, Condition.evaluate_ofTemplate, h]
  cases t.tree.evaluate m₂ e₂ with
  | ok o => rfl
  | error failure => simp only [failure.isReportable_eq m₁ m₂]

theorem sameUnder_set {names : List String} {key : String} (hevent : "event" ∉ names)
    (hkey : key ∉ names) (event : Event) (v : Value) : SameUnder names (event.set key v) event :=
  .of_get? hevent fun _ hid => Fields.get?_set_of_ne v (ne_of_mem_of_not_mem hid hkey).symm

theorem sameUnder_without {names : List String} {key : String} (hevent : "event" ∉ names)
    (hkey : key ∉ names) (event : Event) : SameUnder names (event.without key) event :=
  .of_get? hevent fun _ hid =>
    Fields.get?_without_of_ne (ne_of_mem_of_not_mem hid hkey).symm event

/-- A template that does not read the event as a whole renders alike on events with the same
values, or none, under the names that it reads, and so does the condition of the template
answer: in one memory, and in two memories in which the same places are one object if the
template shows no address. A field under another key may be added, changed or taken away,
even one with the name `event` or that of a function that is called. -/
theorem depends_only_on_names_read (w : Wording) (t : Template)
    (hevent : "event" ∉ t.tree.readNames) :
    (∀ (m₁ m₂ : Memory) (e₁ e₂ : Event),
      m₁ = m₂ ∨ m₁.sharing = m₂.sharing ∧ t.tree.ShowsNoAddress →
      (∀ id ∈ t.tree.readNames, Fields.get? e₁ id = Fields.get? e₂ id) →
        t.tree.evaluate m₁ e₁ = t.tree.evaluate m₂ e₂ ∧
        ((Renderer.ofTemplate w t).render m₁ e₁).operand? =
          ((Renderer.ofTemplate w t).render m₂ e₂).operand? ∧
        ∀ source, ((Condition.ofRenderer source (.ofTemplate w t)).evaluate m₁ e₁).1 =
          ((Condition.ofRenderer source (.ofTemplate w t)).evaluate m₂ e₂).1) ∧
    ∀ key, key ∉ t.tree.readNames → ∀ (m : Memory) (event : Event),
      (∀ v, t.tree.evaluate m (event.set key v) = t.tree.evaluate m event) ∧
      t.tree.evaluate m (event.without key) = t.tree.evaluate m event := by
  constructor
  · intro m₁ m₂ e₁ e₂ hmemory hsame
    have hsharing : m₁.sharing = m₂.sharing := hmemory.elim (congrArg Memory.sharing) And.left
    have hevaluate :=
      Expr.evaluate_congr (.of_get? hevent hsame) hsharing (hmemory.imp_right And.right)
    exact ⟨hevaluate, operand?_render_congr w hevaluate, fst_evaluate_congr w hevaluate⟩
  · intro key hkey m event
    exact ⟨fun v => Expr.evaluate_congr (sameUnder_set hevent hkey event v) rfl (.inl rfl),
      Expr.evaluate_congr (sameUnder_without hevent hkey event) rfl (.inl rfl)⟩

/-- Fields that are named like the event and like a function that is called change nothing,
while the field that is read does. -/
theorem called_names_not_read :
    ∃ t, read "\x7b\x7b 'y' if len(items) == 2 else 'n' \x7d\x7d" = .ok t ∧
      t.tree.readNames = ["items"] ∧
      t.tree.evaluate default [("event", .int 1), ("items", .texts ["a", "b"])] =
        t.tree.evaluate default [("items", .texts ["a", "b"]), ("len", .str "c")] ∧
      ((Condition.ofRenderer t.source (.ofTemplate default t)).evaluate default
        [("items", .texts ["a", "b"]), ("len", .str "c")]).1 = .ok true ∧
      ((Condition.ofRenderer t.source (.ofTemplate default t)).evaluate default
        [("items", .texts ["a"])]).1 = .ok false := by
  have hread : (read "\x7b\x7b 'y' if len(items) == 2 else 'n' \x7d\x7d").toOption.map (fun t =>
      (t.tree.readNames,
        ((Condition.ofRenderer t.source (.ofTemplate default t)).evaluate default
          [("items", .texts ["a", "b"]), ("len", .str "c")]).1,
        ((Condition.ofRenderer t.source (.ofTemplate default t)).evaluate default
          [("items", .texts ["a"])]).1)) = some (["items"], .ok true, .ok false) := by
    decide +kernel
  obtain ⟨t, ht, hall⟩ := Except.exists_ok_of_map_toOption hread
  obtain ⟨hnames, hanswers⟩ := Prod.mk.inj hall
  obtain ⟨htwo, hone⟩ := Prod.mk.inj hanswers
  obtain ⟨hsame, -⟩ := depends_only_on_names_read default t (by simp [hnames])
  refine ⟨t, ht, hnames, (hsame _ _ _ _ (.inl rfl) ?_).1, htwo, hone⟩
  rw [hnames, List.forall_mem_singleton]
  rfl

def oneObject : Memory :=
  ⟨fun o => Memory.apart.address
    (if o = .place [.key (.ofString "b")] then .place [.key (.ofString "a")] else o)⟩

/-- The methods of two equal texts are shown with the addresses of the texts, so that the answer
depends on whether they are one object. -/
theorem shown_addresses_told_apart :
    ∃ t, read "\x7b\x7b 'y' if str(a.upper) == str(b.upper) else 'n' \x7d\x7d" = .ok t ∧
      "event" ∉ t.tree.readNames ∧
      ((Condition.ofRenderer t.source (.ofTemplate default t)).evaluate .apart
        [("a", .str "abc"), ("b", .str "abc")]).1 = .ok false ∧
      ((Condition.ofRenderer t.source (.ofTemplate default t)).evaluate oneObject
        [("a", .str "abc"), ("b", .str "abc")]).1 = .ok true := by
  have hread : (read "\x7b\x7b 'y' if str(a.upper) == str(b.upper) else 'n' \x7d\x7d").toOption.map
      (fun t => (decide ("event" ∉ t.tree.readNames),
        ((Condition.ofRenderer t.source (.ofTemplate default t)).evaluate .apart
          [("a", .str "abc"), ("b", .str "abc")]).1,
        ((Condition.ofRenderer t.source (.ofTemplate default t)).evaluate oneObject
          [("a", .str "abc"), ("b", .str "abc")]).1)) = some (true, .ok false, .ok true) := by
    decide +kernel
  obtain ⟨t, ht, hall⟩ := Except.exists_ok_of_map_toOption hread
  obtain ⟨hnames, hanswers⟩ := Prod.mk.inj hall
  obtain ⟨happart, hone⟩ := Prod.mk.inj hanswers
  exact ⟨t, ht, of_decide_eq_true hnames, happart, hone⟩

end Template

end EventSieve
