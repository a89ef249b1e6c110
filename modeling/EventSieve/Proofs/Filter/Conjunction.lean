import EventSieve.Proofs.Condition.WellFormed
import EventSieve.Proofs.Expression.Dependence
import EventSieve.Proofs.Filter.Building

/-!
# Filters as conjunctions

A filter stops at the first condition that does not hold, and at the first that has no
answer. So the filter of two rows joined asks the second row about what passes the
first, whatever the conditions come to. The order and the number of the conditions do
not matter where each of them has one answer: its renderer raises no error, and no
address is shown that differs from one memory to another.
-/

namespace EventSieve

open Expression

namespace Condition

def Answers (c : Condition) : Prop := ∀ m event, ∃ b, (c.evaluate m event).1 = .ok b

/-- A condition that has the same answer on an event in all memories of a set. -/
def IsSettled (c : Condition) (possible : Set Memory) (event : Event) : Prop :=
  ∃ b, ∀ m ∈ possible, (c.evaluate m event).1 = .ok b

def holds (c : Condition) (m : Memory) (event : Event) : Bool :=
  match (c.evaluate m event).1 with
  | .ok b => b
  | .error _ => false

theorem Answers.fst_evaluate {c : Condition} (h : c.Answers) (m : Memory) (event : Event) :
    (c.evaluate m event).1 = .ok (c.holds m event) := by
  obtain ⟨b, hb⟩ := h m event
  rw [holds, hb]

theorem IsSettled.fst_evaluate {c : Condition} {possible : Set Memory} {event : Event}
    (h : c.IsSettled possible event) {m m' : Memory} (hm : m ∈ possible) (hm' : m' ∈ possible) :
    (c.evaluate m' event).1 = .ok (c.holds m event) := by
  obtain ⟨b, hb⟩ := h
  rw [hb m' hm', holds, hb m hm]

theorem exists_text_of_compile {factory : RendererFactory} {v : Value} {c : Condition}
    (h : (compile factory v).1 = .ok c) : ∃ text, v = .str text := by
  cases v with
  | str text => exact ⟨text, rfl⟩
  | _ => cases h

section Standard

variable {w : Wording} {v : Value} {c : Condition} (h : (compile (.standard w) v).1 = .ok c)

include h

/-- A condition with a renderer of the library has one fault only. -/
theorem fault_of_compile_standard {m : Memory} {event : Event} {fault : ConditionFault}
    (hfault : (c.evaluate m event).1 = .error fault) :
    fault = .renderer Value.unwritableMessage := by
  obtain ⟨text, rfl⟩ := exists_text_of_compile h
  obtain ⟨error, hraises, rfl⟩ := (wellFormed_of_compile h).evaluate_eq_error_iff.mp hfault
  rw [((raises_iff_of_compile_standard h).mp hraises).1]

/-- In memories with the same sharing a condition whose template shows no address comes to the
same. -/
theorem fst_evaluate_congr_of_compile_standard
    (hplain : ∀ t, Template.read c.source = .ok t → t.tree.ShowsNoAddress) {m₁ m₂ : Memory}
    (hsharing : m₁.sharing = m₂.sharing) (event : Event) :
    (c.evaluate m₁ event).1 = (c.evaluate m₂ event).1 := by
  obtain ⟨text, rfl⟩ := exists_text_of_compile h
  rcases compile_eq_ok_iff.mp h with
    ⟨-, r, hr, rfl⟩ | ⟨body, path, -, -, rfl⟩ | ⟨body, path, token, v, -, -, -, -, rfl⟩
  · obtain ⟨t, ht, rfl⟩ := RendererFactory.standard_eq_ok_iff.mp hr
    have hsame : SameUnder t.tree.readNames event event := fun _ _ => rfl
    exact Template.fst_evaluate_congr w
      (Expr.evaluate_congr hsame hsharing (.inr (hplain t ht))) _
  · rfl
  · rfl

theorem isSettled_singleton_of_compile_standard {m : Memory} {event : Event}
    (hraises : ∀ error, ¬ c.Raises m event error) : c.IsSettled {m} event := by
  obtain ⟨text, rfl⟩ := exists_text_of_compile h
  obtain ⟨b, hb⟩ := (wellFormed_of_compile h).exists_answer_iff.mpr hraises
  exact ⟨b, fun m' hm' => hm' ▸ hb⟩

theorem isSettled_sharing_of_compile_standard {m : Memory} {event : Event}
    (hraises : ∀ error, ¬ c.Raises m event error)
    (hplain : ∀ t, Template.read c.source = .ok t → t.tree.ShowsNoAddress) :
    c.IsSettled {m' | m'.sharing = m.sharing} event := by
  obtain ⟨b, hb⟩ := isSettled_singleton_of_compile_standard h hraises
  refine ⟨b, fun m' hm' => ?_⟩
  rw [fst_evaluate_congr_of_compile_standard h hplain hm', hb m rfl]

end Standard

end Condition

namespace Filter

/-! ## One condition after the other -/

theorem fst_passesFrom_cons (a : Arrival) (index : Nat) (c : Condition) (cs : List Condition) :
    (passesFrom a index (c :: cs)).1 =
      (c.evaluate (a.memory index) a.event).1.bind fun holds =>
        if holds then (passesFrom a (index + 1) cs).1 else .ok false := by
  rw [passesFrom]
  rcases c.evaluate (a.memory index) a.event with ⟨fault | holds, notes⟩
  · rfl
  · cases holds with
    | false => rfl
    | true => rfl

theorem fst_passesFrom_append (a : Arrival) (index : Nat) (cs ds : List Condition) :
    (passesFrom a index (cs ++ ds)).1 =
      (passesFrom a index cs).1.bind fun passed =>
        if passed then (passesFrom a (index + cs.length) ds).1 else .ok false := by
  induction cs generalizing index with
  | nil => rfl
  | cons c cs ih =>
      rw [List.cons_append, fst_passesFrom_cons, fst_passesFrom_cons]
      cases (c.evaluate (a.memory index) a.event).1 with
      | error fault => rfl
      | ok holds =>
          cases holds with
          | false => rfl
          | true =>
              show (passesFrom a (index + 1) (cs ++ ds)).1 = Except.bind (passesFrom _ _ _).1 _
              rw [ih, List.length_cons, Nat.add_right_comm, Nat.add_assoc index]

theorem fst_passesFrom_shift (a : Arrival) (first index : Nat) (cs : List Condition) :
    (passesFrom (a.shift first) index cs).1 = (passesFrom a (first + index) cs).1 := by
  induction cs generalizing index with
  | nil => rfl
  | cons c cs ih =>
      rw [fst_passesFrom_cons, fst_passesFrom_cons, ih (index + 1)]
      rfl

theorem exists_mem_of_passesFrom_eq_error {a : Arrival} {index : Nat} {cs : List Condition}
    {fault : ConditionFault} (h : (passesFrom a index cs).1 = .error fault) :
    ∃ c ∈ cs, ∃ m, (c.evaluate m a.event).1 = .error fault := by
  induction cs generalizing index with
  | nil => cases h
  | cons c cs ih =>
      rw [fst_passesFrom_cons] at h
      cases hc : (c.evaluate (a.memory index) a.event).1 with
      | error other =>
          rw [hc] at h
          cases h
          exact ⟨c, List.mem_cons_self, _, hc⟩
      | ok holds =>
          rw [hc] at h
          cases holds with
          | false => cases h
          | true =>
              obtain ⟨d, hd, hfault⟩ := ih h
              exact ⟨d, List.mem_cons_of_mem c hd, hfault⟩

/-- An arrival of an event at conditions that are asked in memories of a set. -/
structure Arrives (possible : Set Memory) (event : Event) (a : Arrival) : Prop where
  event : a.event = event
  memory : ∀ i, a.memory i ∈ possible

theorem fst_passesFrom_of_isSettled {possible : Set Memory} {event : Event} {cs : List Condition}
    (h : ∀ c ∈ cs, c.IsSettled possible event) {m : Memory} (hm : m ∈ possible) {a : Arrival}
    (ha : Arrives possible event a) (index : Nat) :
    (passesFrom a index cs).1 = .ok (cs.all fun c => c.holds m event) := by
  induction cs generalizing index with
  | nil => rfl
  | cons c cs ih =>
      rw [List.forall_mem_cons] at h
      rw [fst_passesFrom_cons, ha.event, h.1.fst_evaluate hm (ha.memory index), List.all_cons]
      cases c.holds m event with
      | false => rfl
      | true => exact ih h.2 (index + 1)

theorem fst_select_cons (f : Filter) (a : Arrival) (arrivals : List Arrival) :
    (f.select (a :: arrivals)).1 =
      (f.passes a).1.bind fun passed => (f.select arrivals).1.map fun found =>
        if passed then a :: found else found := by
  rw [select]
  rcases f.passes a with ⟨fault | passed, notes⟩
  · rfl
  · rfl

theorem exists_passes_of_select_eq_error {f : Filter} {arrivals : List Arrival}
    {fault : ConditionFault} (h : (f.select arrivals).1 = .error fault) :
    ∃ a, (f.passes a).1 = .error fault := by
  induction arrivals with
  | nil => cases h
  | cons a arrivals ih =>
      rw [fst_select_cons] at h
      cases hpasses : (f.passes a).1 with
      | error other =>
          rw [hpasses] at h
          cases h
          exact ⟨a, hpasses⟩
      | ok passed =>
          rw [hpasses] at h
          cases hrest : (f.select arrivals).1 with
          | error other =>
              rw [hrest] at h
              cases h
              exact ih hrest
          | ok found =>
              rw [hrest] at h
              cases h

/-- The events that are selected are those that pass, in their order, if there is an answer on
each of them. -/
theorem fst_select_eq_ok_iff {f : Filter} {arrivals selected : List Arrival} :
    (f.select arrivals).1 = .ok selected ↔
      (∀ a ∈ arrivals, ∃ b, (f.passes a).1 = .ok b) ∧
        selected = arrivals.filter fun a => decide ((f.passes a).1 = .ok true) := by
  induction arrivals generalizing selected with
  | nil => simp [select, eq_comm]
  | cons a arrivals ih =>
      rw [fst_select_cons, List.forall_mem_cons, List.filter_cons]
      cases (f.passes a).1 with
      | error fault => simp [Except.bind]
      | ok passed =>
          have hrest : ∀ b : Bool, (Except.bind (Except.ok b) fun passed =>
              (f.select arrivals).1.map fun found => if passed then a :: found else found) =
                .ok selected ↔ ∃ found, (f.select arrivals).1 = .ok found ∧
                  (if b then a :: found else found) = selected :=
            fun b => Except.map_eq_ok_iff
          simp only [hrest, ih]
          cases passed with
          | false => simp [eq_comm]
          | true => simp [eq_comm]

/-! ## Filters that have been built -/

/-- Values denote a filter. -/
def Builds (factory : RendererFactory) (vs : List Value) (f : Filter) : Prop :=
  (ofValues factory vs).1 = .ok f

theorem builds_iff {factory : RendererFactory} {vs : List Value} {f : Filter} :
    Builds factory vs f ↔
      vs.map (fun v => (Condition.compile factory v).1) = f.conditions.map .ok := by
  rw [Builds, fst_ofValues, ← fst_compileAll_eq_ok_iff]
  cases (compileAll factory vs).1 with
  | error fault => simp [Except.map]
  | ok cs =>
      obtain ⟨conditions⟩ := f
      simp [Except.map]

theorem Builds.mem_conditions_iff {factory : RendererFactory} {vs : List Value} {f : Filter}
    (h : Builds factory vs f) {c : Condition} :
    c ∈ f.conditions ↔ ∃ v ∈ vs, (Condition.compile factory v).1 = .ok c := by
  have hmem : (.ok c : Except CompileFault Condition) ∈ f.conditions.map .ok ↔
      c ∈ f.conditions := by
    simp
  rw [← hmem, ← builds_iff.mp h, List.mem_map]

theorem exists_builds_iff {factory : RendererFactory} {vs : List Value} :
    (∃ f, Builds factory vs f) ↔ ∀ v ∈ vs, ∃ c, (Condition.compile factory v).1 = .ok c := by
  constructor
  · rintro ⟨f, hf⟩
    exact exists_compile_of_fst_compileAll (fst_compileAll_eq_ok_iff.mpr (builds_iff.mp hf))
  · intro h
    cases hall : (compileAll factory vs).1 with
    | ok cs => exact ⟨⟨cs⟩, by rw [Builds, fst_ofValues, hall]; rfl⟩
    | error fault =>
        obtain ⟨before, v, after, rfl, -, hv⟩ := fst_compileAll_eq_error_iff.mp hall
        obtain ⟨c, hc⟩ := h v (by simp)
        rw [hv] at hc
        cases hc

/-! ## Rows joined, reordered and repeated -/

theorem exists_builds_append_iff {factory : RendererFactory} {xs ys : List Value} :
    (∃ f, Builds factory (xs ++ ys) f) ↔
      (∃ g, Builds factory xs g) ∧ ∃ h, Builds factory ys h := by
  simp only [exists_builds_iff, List.forall_mem_append]

theorem Builds.conditions_append {factory : RendererFactory} {xs ys : List Value}
    {f g h : Filter} (hf : Builds factory (xs ++ ys) f) (hg : Builds factory xs g)
    (hh : Builds factory ys h) : f.conditions = g.conditions ++ h.conditions := by
  have hrows := builds_iff.mp hf
  rw [List.map_append, builds_iff.mp hg, builds_iff.mp hh, ← List.map_append] at hrows
  exact (List.map_injective_iff.mpr (fun _ _ => Except.ok.inj) hrows).symm

theorem Builds.length_conditions {factory : RendererFactory} {vs : List Value} {f : Filter}
    (h : Builds factory vs f) : f.conditions.length = vs.length := by
  simpa using (congrArg List.length (builds_iff.mp h)).symm

/-- Filters of the library have one fault only. -/
theorem Builds.fault_of_passes {w : Wording} {vs : List Value} {f : Filter}
    (h : Builds (.standard w) vs f) {a : Arrival} {fault : ConditionFault}
    (hfault : (f.passes a).1 = .error fault) : fault = .renderer Value.unwritableMessage := by
  obtain ⟨c, hc, m, hm⟩ := exists_mem_of_passesFrom_eq_error hfault
  obtain ⟨v, -, hv⟩ := h.mem_conditions_iff.mp hc
  exact Condition.fault_of_compile_standard hv hm

theorem Builds.fault_of_select {w : Wording} {vs : List Value} {f : Filter}
    (h : Builds (.standard w) vs f) {arrivals : List Arrival} {fault : ConditionFault}
    (hfault : (f.select arrivals).1 = .error fault) :
    fault = .renderer Value.unwritableMessage := by
  obtain ⟨a, ha⟩ := exists_passes_of_select_eq_error hfault
  exact h.fault_of_passes ha

section Joined

variable {w : Wording} {xs ys : List Value} {f g h : Filter}
  (hf : Builds (.standard w) (xs ++ ys) f) (hg : Builds (.standard w) xs g)
  (hh : Builds (.standard w) ys h)

include hf hg hh

/-- The second row is asked in the memories behind those of the first. -/
theorem fst_passes_append (a : Arrival) :
    (f.passes a).1 = (g.passes a).1.bind fun passed =>
      if passed then (h.passes (a.shift xs.length)).1 else .ok false := by
  rw [passes, hf.conditions_append hg hh, fst_passesFrom_append, hg.length_conditions]
  simp only [passes, fst_passesFrom_shift, Nat.add_comm]

/-- What is selected by both rows is what the second selects from what the first does. With the
fault that a renderer of the library has, it does not matter which event it comes from. -/
theorem fst_select_append (arrivals : List Arrival) :
    (f.select arrivals).1.map (·.map (·.shift xs.length)) =
      (g.select arrivals).1.bind fun kept => (h.select (kept.map (·.shift xs.length))).1 := by
  induction arrivals with
  | nil => rfl
  | cons a arrivals ih =>
      rw [fst_select_cons, fst_select_cons, fst_passes_append hf hg hh]
      cases hfirst : (g.passes a).1 with
      | error fault => rfl
      | ok passed =>
          cases passed with
          | false =>
              cases hall : (f.select arrivals).1 <;> cases hkept : (g.select arrivals).1 <;>
                rw [hall, hkept] at ih <;> exact ih
          | true =>
              cases hsecond : (h.passes (a.shift xs.length)).1 with
              | error fault =>
                  cases hkept : (g.select arrivals).1 with
                  | error other =>
                      rw [hh.fault_of_passes hsecond, hg.fault_of_select hkept]
                      rfl
                  | ok kept =>
                      show _ = (h.select (a.shift xs.length :: kept.map _)).1
                      rw [fst_select_cons, hsecond]
                      rfl
              | ok both =>
                  cases hkept : (g.select arrivals).1 with
                  | error other =>
                      cases hall : (f.select arrivals).1 <;> rw [hall, hkept] at ih
                      · exact ih
                      · cases ih
                  | ok kept =>
                      rw [hkept] at ih
                      show _ = (h.select (a.shift xs.length :: kept.map _)).1
                      rw [fst_select_cons, hsecond]
                      show _ = (h.select (kept.map _)).1.map _
                      rw [show (h.select (kept.map (·.shift xs.length))).1 = _ from ih.symm]
                      cases (f.select arrivals).1 with
                      | error other => rfl
                      | ok found => cases both <;> rfl

end Joined

/-! ## Rows reordered and repeated -/

/-- Rows with the same members are built in the same cases. -/
theorem exists_builds_congr {factory : RendererFactory} {xs zs : List Value}
    (hmem : ∀ v, v ∈ zs ↔ v ∈ xs) : (∃ f, Builds factory zs f) ↔ ∃ g, Builds factory xs g := by
  simp only [exists_builds_iff, hmem]

theorem Builds.mem_conditions_congr {factory : RendererFactory} {xs zs : List Value}
    {f g : Filter} (hf : Builds factory zs f) (hg : Builds factory xs g)
    (hmem : ∀ v, v ∈ zs ↔ v ∈ xs) (c : Condition) : c ∈ f.conditions ↔ c ∈ g.conditions := by
  rw [hf.mem_conditions_iff, hg.mem_conditions_iff]
  simp only [hmem]

/-- Filters of rows with the same members have the same answers, if each of the conditions has
one answer. -/
theorem exists_passes_congr {factory : RendererFactory} {xs zs : List Value} {f g : Filter}
    (hf : Builds factory zs f) (hg : Builds factory xs g) (hmem : ∀ v, v ∈ zs ↔ v ∈ xs)
    {possible : Set Memory} {event : Event}
    (hsettled : ∀ c ∈ g.conditions, c.IsSettled possible event) {a b : Arrival}
    (ha : Arrives possible event a) (hb : Arrives possible event b) :
    ∃ passed, (f.passes a).1 = .ok passed ∧ (g.passes b).1 = .ok passed := by
  have hm := hb.memory 0
  have hconditions := hf.mem_conditions_congr hg hmem
  have hall : (f.conditions.all fun c => c.holds (b.memory 0) event) =
      g.conditions.all fun c => c.holds (b.memory 0) event := by
    rw [Bool.eq_iff_iff, List.all_eq_true, List.all_eq_true]
    simp only [hconditions]
  refine ⟨_, ?_, fst_passesFrom_of_isSettled hsettled hm hb 0⟩
  rw [← hall]
  exact fst_passesFrom_of_isSettled (fun c hc => hsettled c ((hconditions c).mp hc)) hm ha 0

/-! ## Filters of the library -/

/-- The filter of two rows joined is built if those of both rows are; it asks the second row
about what passes the first, and selects what the second selects from what the first does.
The order and the number of the values do not matter where each of the conditions has one
answer, and what is selected are the events that pass, in their order. A condition has one
answer in one memory if its renderer raises no error there, and in all memories with the
same sharing if its template also shows no address. -/
theorem conjunction_of_settled_rows (w : Wording) (xs ys : List Value) :
    ((∃ f, Builds (.standard w) (xs ++ ys) f) ↔
      (∃ g, Builds (.standard w) xs g) ∧ ∃ h, Builds (.standard w) ys h) ∧
    (∀ f g h, Builds (.standard w) (xs ++ ys) f → Builds (.standard w) xs g →
      Builds (.standard w) ys h →
      (∀ a, (f.passes a).1 = (g.passes a).1.bind fun passed =>
        if passed then (h.passes (a.shift xs.length)).1 else .ok false) ∧
      ∀ arrivals, (f.select arrivals).1.map (·.map (·.shift xs.length)) =
        (g.select arrivals).1.bind fun kept => (h.select (kept.map (·.shift xs.length))).1) ∧
    (∀ zs : List Value, (∀ v, v ∈ zs ↔ v ∈ xs) →
      ((∃ f, Builds (.standard w) zs f) ↔ ∃ g, Builds (.standard w) xs g) ∧
      ∀ f g, Builds (.standard w) zs f → Builds (.standard w) xs g → ∀ possible event,
        (∀ c ∈ g.conditions, c.IsSettled possible event) →
        ∀ a b, Arrives possible event a → Arrives possible event b →
          ∃ passed, (f.passes a).1 = .ok passed ∧ (g.passes b).1 = .ok passed) ∧
    (∀ f, Builds (.standard w) xs f → ∀ arrivals selected, (f.select arrivals).1 = .ok selected ↔
      (∀ a ∈ arrivals, ∃ b, (f.passes a).1 = .ok b) ∧
        selected = arrivals.filter fun a => decide ((f.passes a).1 = .ok true)) ∧
    ∀ f, Builds (.standard w) xs f → ∀ c ∈ f.conditions, ∀ m event,
      (∀ error, ¬ c.Raises m event error) →
        c.IsSettled {m} event ∧
        ((∀ t, Template.read c.source = .ok t → t.tree.ShowsNoAddress) →
          c.IsSettled {m' | m'.sharing = m.sharing} event) := by
  refine ⟨exists_builds_append_iff, ?_, ?_, fun f _ _ _ => fst_select_eq_ok_iff, ?_⟩
  · intro f g h hf hg hh
    exact ⟨fst_passes_append hf hg hh, fst_select_append hf hg hh⟩
  · intro zs hmem
    refine ⟨exists_builds_congr hmem, ?_⟩
    intro f g hf hg possible event hsettled a b ha hb
    exact exists_passes_congr hf hg hmem hsettled ha hb
  · intro f hf c hc m event hraises
    obtain ⟨v, -, hv⟩ := hf.mem_conditions_iff.mp hc
    exact ⟨Condition.isSettled_singleton_of_compile_standard hv hraises,
      Condition.isSettled_sharing_of_compile_standard hv hraises⟩

theorem conjunction_of_path_and_template :
    ∃ f g h k,
      Builds (.standard default)
        ([.str "Exist(a)"] ++ [.str "\x7b\x7b'y' if a == 1 else 'n'\x7d\x7d"]) f ∧
      Builds (.standard default) [.str "Exist(a)"] g ∧
      Builds (.standard default) [.str "\x7b\x7b'y' if a == 1 else 'n'\x7d\x7d"] h ∧
      Builds (.standard default) [.str "Exist(a)", .str "Exist(a)"] k ∧
      (∀ a, (f.passes a).1 = (g.passes a).1.bind fun passed =>
        if passed then (h.passes (a.shift 1)).1 else .ok false) ∧
      (∀ a b : Arrival, a.event = b.event →
        ∃ passed, (k.passes a).1 = .ok passed ∧ (g.passes b).1 = .ok passed) ∧
      (f.passes ⟨[("a", .int 1)], fun _ => .apart⟩).1 = .ok true ∧
      (f.passes ⟨[("a", .int 2)], fun _ => .apart⟩).1 = .ok false := by
  have hpasses : (ofValues (.standard default)
      ([.str "Exist(a)"] ++ [.str "\x7b\x7b'y' if a == 1 else 'n'\x7d\x7d"])).1.toOption.map
        (fun f => ((f.passes ⟨[("a", .int 1)], fun _ => .apart⟩).1,
          (f.passes ⟨[("a", .int 2)], fun _ => .apart⟩).1)) =
      some (.ok true, .ok false) := by decide +kernel
  obtain ⟨hjoined, hconjunction, hrepeated, -, -⟩ := conjunction_of_settled_rows default
    [.str "Exist(a)"] [.str "\x7b\x7b'y' if a == 1 else 'n'\x7d\x7d"]
  obtain ⟨f, hf, hanswers⟩ := Except.exists_ok_of_map_toOption hpasses
  obtain ⟨htrue, hfalse⟩ := Prod.mk.inj hanswers
  obtain ⟨⟨g, hg⟩, h, hh⟩ := hjoined.mp ⟨f, hf⟩
  obtain ⟨hbuilds, hsame⟩ := hrepeated [.str "Exist(a)", .str "Exist(a)"] (by simp)
  obtain ⟨k, hk⟩ := hbuilds.mpr ⟨g, hg⟩
  refine ⟨f, g, h, k, hf, hg, hh, hk, (hconjunction f g h hf hg hh).1, ?_, htrue, hfalse⟩
  intro a b hevent
  refine hsame k g hk hg Set.univ b.event ?_ a b ⟨hevent, fun _ => trivial⟩
    ⟨rfl, fun _ => trivial⟩
  intro c hc
  obtain ⟨v, hv, hcompile⟩ := hg.mem_conditions_iff.mp hc
  rw [List.mem_singleton] at hv
  subst hv
  have hpath : (Condition.compile (.standard default) (.str "Exist(a)")).1 =
      .ok (.ofPath "Exist(a)" ["a"]) := by rfl
  rw [hpath] at hcompile
  cases hcompile
  exact ⟨_, fun m _ => rfl⟩

/-- A path and a template that asks an empty event for a key that cannot be written: the event is
rejected, but with the template in front an error is raised. -/
theorem reordered_row_raises :
    ∃ f g,
      Builds (.standard default) [.str "Exist(a)", .str "\x7b\x7b event[10**5000] \x7d\x7d"] f ∧
      Builds (.standard default) [.str "\x7b\x7b event[10**5000] \x7d\x7d", .str "Exist(a)"] g ∧
      (f.passes ⟨[], fun _ => .apart⟩).1 = .ok false ∧
      (g.passes ⟨[], fun _ => .apart⟩).1 = .error (.renderer Value.unwritableMessage) := by
  have hpath : (ofValues (.standard default)
      [.str "Exist(a)", .str "\x7b\x7b event[10**5000] \x7d\x7d"]).1.toOption.map
        (fun f => (f.passes ⟨[], fun _ => .apart⟩).1) = some (.ok false) := by decide +kernel
  have htemplate : (ofValues (.standard default)
      [.str "\x7b\x7b event[10**5000] \x7d\x7d", .str "Exist(a)"]).1.toOption.map
        (fun f => (f.passes ⟨[], fun _ => .apart⟩).1) =
          some (.error (.renderer Value.unwritableMessage)) := by decide +kernel
  obtain ⟨f, hf, hfalse⟩ := Except.exists_ok_of_map_toOption hpath
  obtain ⟨g, hg, hraised⟩ := Except.exists_ok_of_map_toOption htemplate
  exact ⟨f, g, hf, hg, hfalse, hraised⟩

end Filter

end EventSieve
