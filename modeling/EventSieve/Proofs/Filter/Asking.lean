import EventSieve.Proofs.Filter.Sources

/-!
# Asking conditions

A filter asks its conditions about an event in their order, up to the first that does
not hold. `snd_passesFrom` says that its notes are those of the conditions that are
asked, and one more if the event is rejected. So the renderers that are called are those
of the templates among these conditions, once each, and each event that is rejected
leaves one entry, with the index and the source of the condition that rejects it.
-/

namespace EventSieve

open Expression

/-! ## Calls of renderers -/

def Note.rendering? : Note → Option (String × Event)
  | .rendered template event => some (template, event)
  | _ => none

def renderings (notes : List Note) : List (String × Event) := notes.filterMap Note.rendering?

@[simp] theorem renderings_nil : renderings [] = [] := rfl

@[simp] theorem renderings_append (notes more : List Note) :
    renderings (notes ++ more) = renderings notes ++ renderings more := List.filterMap_append

theorem renderings_flatMap {α : Type} (xs : List α) (notes : α → List Note) :
    renderings (xs.flatMap notes) = xs.flatMap fun x => renderings (notes x) :=
  List.filterMap_flatMap

namespace Condition

def call? (c : Condition) (event : Event) : Option (String × Event) :=
  c.renderer.map fun r => (r.template, event)

theorem WellFormed.isSome_renderer_iff {c : Condition} (h : c.WellFormed) :
    c.renderer.isSome = true ↔ c.kind = .template := by
  obtain ⟨-, hfields⟩ := h
  cases hkind : c.kind with
  | template =>
      rw [hkind] at hfields
      simp [hfields.1]
  | exist =>
      rw [hkind] at hfields
      simp [Option.isNone_iff_eq_none.mp hfields.1]
  | eq =>
      rw [hkind] at hfields
      simp [Option.isNone_iff_eq_none.mp hfields.1]
  | other name =>
      rw [hkind] at hfields
      exact hfields.elim

theorem renderings_renderNotes (r : Renderer) (event : Event) (rendering : Rendering) :
    renderings (renderNotes r event rendering) = [(r.template, event)] := by
  cases rendering <;> rfl

/-- The answer of a well-formed condition takes the call of its renderer, if it has one. -/
theorem WellFormed.renderings_evaluate {c : Condition} (h : c.WellFormed) (m : Memory)
    (event : Event) : renderings (c.evaluate m event).2 = (c.call? event).toList := by
  have hrenderer := h.isSome_renderer_iff
  rw [evaluate, call?]
  cases hr : c.renderer with
  | none =>
      rw [hr] at hrenderer
      cases hkind : c.kind with
      | template => simp [hkind] at hrenderer
      | exist => rfl
      | eq => rfl
      | other name => rfl
  | some r =>
      rw [hr] at hrenderer
      rw [hrenderer.mp rfl]
      exact renderings_renderNotes r event (r.render m event)

theorem eq_failureEntry_of_mem_renderNotes {r : Renderer} {event : Event} {rendering : Rendering}
    {e : Entry} (h : e ∈ Journal.entries (renderNotes r event rendering)) :
    ∃ error, e = failureEntry r.template error := by
  cases rendering with
  | result o => cases h
  | failed error => exact ⟨error, List.mem_singleton.mp h⟩
  | raised error => cases h

theorem eq_failureEntry_of_mem_evaluate {c : Condition} {m : Memory} {event : Event} {e : Entry}
    (h : e ∈ Journal.entries (c.evaluate m event).2) :
    ∃ template error, e = failureEntry template error := by
  rw [evaluate] at h
  cases hkind : c.kind with
  | template =>
      rw [hkind] at h
      cases hr : c.renderer with
      | none =>
          rw [hr] at h
          cases h
      | some r =>
          rw [hr] at h
          exact ⟨r.template, eq_failureEntry_of_mem_renderNotes h⟩
  | exist =>
      rw [hkind] at h
      cases h
  | eq =>
      rw [hkind] at h
      cases h
  | other name =>
      rw [hkind] at h
      cases h

end Condition

namespace Filter

/-! ## One event -/

/-- How many conditions hold before the first that does not, of conditions of which the first
has a given index. -/
def firstFailing? (a : Arrival) (index : Nat) (cs : List Condition) : Option Nat :=
  (cs.zipIdx index).findIdx? fun p => !p.1.holds (a.memory p.2) a.event

/-- The conditions up to the first that does not hold. -/
def asked (a : Arrival) (index : Nat) (cs : List Condition) : List Condition :=
  match firstFailing? a index cs with
  | some i => cs.take (i + 1)
  | none => cs

def rejection? (a : Arrival) (index : Nat) (cs : List Condition) : Option Entry :=
  (firstFailing? a index cs).bind fun i => cs[i]?.map (rejectedEntry (index + i))

section Cons

variable {c : Condition} {a : Arrival} {index : Nat} (cs : List Condition)

section Fails

variable (h : c.holds (a.memory index) a.event = false)

include h

theorem firstFailing?_cons_of_fails : firstFailing? a index (c :: cs) = some 0 := by
  simp [firstFailing?, List.zipIdx_cons, List.findIdx?_cons, h]

theorem asked_cons_of_fails : asked a index (c :: cs) = [c] := by
  simp [asked, firstFailing?_cons_of_fails cs h]

theorem rejection?_cons_of_fails : rejection? a index (c :: cs) = some (rejectedEntry index c) := by
  simp [rejection?, firstFailing?_cons_of_fails cs h]

end Fails

section Holds

variable (h : c.holds (a.memory index) a.event = true)

include h

theorem firstFailing?_cons_of_holds :
    firstFailing? a index (c :: cs) = (firstFailing? a (index + 1) cs).map (· + 1) := by
  simp [firstFailing?, List.zipIdx_cons, List.findIdx?_cons, h]

theorem asked_cons_of_holds : asked a index (c :: cs) = c :: asked a (index + 1) cs := by
  rw [asked, asked, firstFailing?_cons_of_holds cs h]
  cases firstFailing? a (index + 1) cs with
  | none => rfl
  | some i => rfl

theorem rejection?_cons_of_holds :
    rejection? a index (c :: cs) = rejection? a (index + 1) cs := by
  rw [rejection?, rejection?, firstFailing?_cons_of_holds cs h, Option.bind_map]
  simp only [Function.comp_def, List.getElem?_cons_succ, Nat.add_assoc, Nat.add_comm 1]

end Holds

end Cons

/-- The notes on an event are those of the conditions that are asked, each in its own memory, and
the rejection if there is one. -/
theorem snd_passesFrom {a : Arrival} {index : Nat} {cs : List Condition}
    (h : ∀ c ∈ cs, c.Answers) :
    (passesFrom a index cs).2 =
      (((asked a index cs).zipIdx index).flatMap fun p =>
        (p.1.evaluate (a.memory p.2) a.event).2) ++
        (rejection? a index cs).toList.map .entry := by
  induction cs generalizing index with
  | nil => rfl
  | cons c cs ih =>
      rw [List.forall_mem_cons] at h
      have hc := h.1.fst_evaluate (a.memory index) a.event
      rw [passesFrom]
      rcases hev : c.evaluate (a.memory index) a.event with ⟨result, notes⟩
      rw [hev] at hc
      cases hholds : c.holds (a.memory index) a.event with
      | false =>
          rw [show result = .ok false from hholds ▸ hc, asked_cons_of_fails cs hholds,
            rejection?_cons_of_fails cs hholds, List.zipIdx_singleton, List.flatMap_singleton, hev]
          rfl
      | true =>
          rw [show result = .ok true from hholds ▸ hc, asked_cons_of_holds cs hholds,
            rejection?_cons_of_holds cs hholds, List.zipIdx_cons, List.flatMap_cons, hev,
            List.append_assoc, ← ih h.2]

theorem mem_of_mem_asked {a : Arrival} {index : Nat} {cs : List Condition} {c : Condition}
    (h : c ∈ asked a index cs) : c ∈ cs := by
  rw [asked] at h
  split at h
  · exact List.mem_of_mem_take h
  · exact h

theorem mem_of_mem_zipIdx_asked {a : Arrival} {index : Nat} {cs : List Condition}
    {p : Condition × Nat} (h : p ∈ (asked a index cs).zipIdx index) : p.1 ∈ cs :=
  mem_of_mem_asked (List.fst_mem_of_mem_zipIdx h)

theorem isSome_rejection? (a : Arrival) (index : Nat) (cs : List Condition) :
    (rejection? a index cs).isSome = (firstFailing? a index cs).isSome := by
  rw [rejection?]
  cases hfirst : firstFailing? a index cs with
  | none => rfl
  | some i =>
      obtain ⟨hi, -⟩ := List.findIdx?_eq_some_iff_getElem.mp hfirst
      rw [List.length_zipIdx] at hi
      simp [hi]

/-- The calls on an event are those of the templates that are asked, each once. -/
theorem renderings_passes {f : Filter} (h : ∀ c ∈ f.conditions, c.WellFormed)
    (hanswers : ∀ c ∈ f.conditions, c.Answers) (a : Arrival) :
    (renderings (f.passes a).2).map some =
      ((asked a 0 f.conditions).filter fun c => c.kind = .template).map fun c =>
        c.call? a.event := by
  have hasked : ∀ c ∈ asked a 0 f.conditions, c.WellFormed :=
    fun c hc => h c (mem_of_mem_asked hc)
  have hcalls : renderings (f.passes a).2 =
      (asked a 0 f.conditions).filterMap fun c => c.call? a.event := by
    have hrejection :
        renderings ((rejection? a 0 f.conditions).toList.map .entry) = [] := by
      cases rejection? a 0 f.conditions with
      | none => rfl
      | some e => rfl
    have hrow : (((asked a 0 f.conditions).zipIdx 0).flatMap fun p =>
        renderings (p.1.evaluate (a.memory p.2) a.event).2) =
          ((asked a 0 f.conditions).zipIdx 0).flatMap fun p => (p.1.call? a.event).toList :=
      List.flatMap_congr fun p hp =>
        (h p.1 (mem_of_mem_zipIdx_asked hp)).renderings_evaluate (a.memory p.2) a.event
    rw [passes, snd_passesFrom hanswers, renderings_append, renderings_flatMap, hrejection,
      List.append_nil, hrow, List.filterMap_eq_flatMap_toList]
    conv_rhs => rw [← List.zipIdx_map_fst 0 (asked a 0 f.conditions), List.flatMap_map]
  rw [hcalls, List.map_filterMap_some_eq_filter_map_isSome, List.filter_map]
  congr 1
  refine List.filter_congr fun c hc => ?_
  rw [Function.comp_apply, Condition.call?, Option.isSome_map, Bool.eq_iff_iff,
    (hasked c hc).isSome_renderer_iff, decide_eq_true_eq]

section Entries

variable {f : Filter} (h : ∀ c ∈ f.conditions, c.Answers)

include h

/-- What the journal is told on an event: of templates that could not be evaluated, and of the
rejection. -/
theorem entries_passes (a : Arrival) :
    Journal.entries (f.passes a).2 =
      (((asked a 0 f.conditions).zipIdx 0).flatMap fun p =>
        Journal.entries (p.1.evaluate (a.memory p.2) a.event).2) ++
        (rejection? a 0 f.conditions).toList := by
  rw [passes, snd_passesFrom h, Journal.entries_append, Journal.entries_flatMap]
  congr 1
  cases rejection? a 0 f.conditions with
  | none => rfl
  | some e => rfl

omit h in
theorem exists_rejected_of_rejection? {a : Arrival} {index : Nat} {cs : List Condition}
    {e : Entry} (he : e ∈ (rejection? a index cs).toList) :
    ∃ i c, cs[i]? = some c ∧ e = rejectedEntry (index + i) c := by
  rw [Option.mem_toList, rejection?, Option.bind_eq_some_iff] at he
  obtain ⟨i, -, hi⟩ := he
  obtain ⟨c, hc, rfl⟩ := Option.map_eq_some_iff.mp hi
  exact ⟨i, c, hc, rfl⟩

theorem failed_or_rejected_of_mem_entries {a : Arrival} {e : Entry}
    (he : e ∈ Journal.entries (f.passes a).2) :
    (∃ template error, e = Condition.failureEntry template error) ∨
      ∃ i c, e = rejectedEntry i c := by
  rw [entries_passes h, List.mem_append, List.mem_flatMap] at he
  rcases he with ⟨p, -, he⟩ | he
  · exact .inl (Condition.eq_failureEntry_of_mem_evaluate he)
  · obtain ⟨i, c, -, rfl⟩ := exists_rejected_of_rejection? he
    exact .inr ⟨_, c, rfl⟩

/-- The entries about rejections are those of the conditions that reject an event. -/
theorem filter_entries_passes (a : Arrival) :
    (Journal.entries (f.passes a).2).filter (·.message == "Event rejected") =
      (rejection? a 0 f.conditions).toList := by
  rw [entries_passes h, List.filter_append, List.filter_eq_nil_iff.mpr, List.nil_append,
    List.filter_eq_self]
  · intro e he
    obtain ⟨i, c, -, rfl⟩ := exists_rejected_of_rejection? he
    rfl
  · intro e he
    obtain ⟨p, -, he⟩ := List.mem_flatMap.mp he
    obtain ⟨template, error, rfl⟩ := Condition.eq_failureEntry_of_mem_evaluate he
    exact nofun

end Entries

/-! ## Rows of events -/

theorem fst_passesAll (f : Filter) (arrivals : List Arrival) :
    (f.passesAll arrivals).1 = arrivals.map fun a => (f.passes a).1 := by
  induction arrivals with
  | nil => rfl
  | cons a arrivals ih => rw [passesAll, List.map_cons, ← ih]

theorem snd_passesAll (f : Filter) (arrivals : List Arrival) :
    (f.passesAll arrivals).2 = arrivals.flatMap fun a => (f.passes a).2 := by
  induction arrivals with
  | nil => rfl
  | cons a arrivals ih => rw [passesAll, List.flatMap_cons, ← ih]

section Answering

variable {f : Filter} (h : ∀ c ∈ f.conditions, c.Answers)

include h

theorem fst_passes (a : Arrival) :
    (f.passes a).1 = .ok (firstFailing? a 0 f.conditions).isNone := by
  have hrow : ∀ cs : List Condition, (∀ c ∈ cs, c.Answers) → ∀ index,
      (passesFrom a index cs).1 = .ok (firstFailing? a index cs).isNone := by
    intro cs hcs
    induction cs with
    | nil => exact fun _ => rfl
    | cons c cs ih =>
        intro index
        rw [List.forall_mem_cons] at hcs
        rw [fst_passesFrom_cons, hcs.1.fst_evaluate]
        cases hholds : c.holds (a.memory index) a.event with
        | false =>
            rw [firstFailing?_cons_of_fails cs hholds]
            rfl
        | true =>
            rw [firstFailing?_cons_of_holds cs hholds, Option.isNone_map]
            exact ih hcs.2 (index + 1)
  exact hrow f.conditions h 0

theorem fst_select (arrivals : List Arrival) :
    (f.select arrivals).1 =
      .ok (arrivals.filter fun a => (firstFailing? a 0 f.conditions).isNone) := by
  rw [fst_select_eq_ok_iff]
  simp only [fst_passes h, Except.ok.injEq, exists_eq', implies_true, true_and, Bool.decide_eq_true]

theorem snd_select (arrivals : List Arrival) :
    (f.select arrivals).2 = (f.passesAll arrivals).2 := by
  induction arrivals with
  | nil => rfl
  | cons a arrivals ih =>
      have hpasses := fst_passes h a
      rw [select, passesAll]
      rcases hev : f.passes a with ⟨result, notes⟩
      rw [hev] at hpasses
      rw [show result = .ok _ from hpasses]
      show notes ++ (f.select arrivals).2 = notes ++ (f.passesAll arrivals).2
      rw [ih]

end Answering

end Filter

end EventSieve
