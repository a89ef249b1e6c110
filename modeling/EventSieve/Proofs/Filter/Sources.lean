import EventSieve.Proofs.Filter.Conjunction

/-!
# Filters and their sources

A filter keeps the trimmed texts that its conditions were compiled from. Trimming a
second time changes nothing, so these texts denote the same conditions again:
`builds_sources` says that a filter is built from what it reports as its sources. One
by one, a condition without a renderer is told from others by its source alone, since
the rest of it is read off the source, and no literal denotes a value that differs from
itself. A condition with a renderer is the same as none.
-/

namespace EventSieve

open Expression

theorem Text.trim_trim (s : String) : trim (trim s) = trim s := by
  rw [← String.toList_inj, toList_trim, toList_trim, trimChars_trimChars]

/-- A value that a literal denotes is equal to itself: it is no undefined double. -/
theorem Literal.equal_self_of_isDenoted {v : Value} (h : IsDenoted v) : v.equal v = true := by
  cases v with
  | str s => simp [Value.equal]
  | int n => simp [Value.equal, Value.numbersEqual, Value.number?, Exact.ofInt, Exact.equal]
  | float x =>
      have hdefined : Binary64.exact x ≠ .undefined := by
        intro hexact
        rw [IsDenoted, Binary64.isUndefined, hexact] at h
        cases h
      simp [Value.equal, Value.numbersEqual, Value.number?, Exact.equal_iff, hdefined]
  | null => exact h.elim
  | bool b => exact h.elim
  | list items => exact h.elim
  | map fields => exact h.elim

namespace Condition

variable {factory : RendererFactory}

/-- Compiling does not see the blanks around a text. -/
theorem compile_trim (factory : RendererFactory) (text : String) :
    compile factory (.str (Text.trim text)) = compile factory (.str text) := by
  rw [compile_str, compile_str, ofText, ofText, Text.trim_trim]

theorem source_of_compile {text : String} {c : Condition}
    (h : (compile factory (.str text)).1 = .ok c) : c.source = Text.trim text := by
  rcases compile_eq_ok_iff.mp h with
    ⟨-, r, -, rfl⟩ | ⟨body, path, -, -, rfl⟩ | ⟨body, path, token, v, -, -, -, -, rfl⟩
  · rfl
  · rfl
  · rfl

/-- A compiled condition is compiled from its source, too. -/
theorem compile_source {v : Value} {c : Condition} (h : (compile factory v).1 = .ok c) :
    (compile factory (.str c.source)).1 = .ok c := by
  obtain ⟨text, rfl⟩ := exists_text_of_compile h
  rw [source_of_compile h, compile_trim, h]

/-! ## Equality -/

theorem WellFormed.same_self_iff {c : Condition} (h : c.WellFormed) :
    c.same c = true ↔ c.kind ≠ .template := by
  obtain ⟨-, hfields⟩ := h
  cases hkind : c.kind with
  | template =>
      rw [hkind] at hfields
      have hrenderer : c.renderer.isNone = false := by
        rw [← Option.not_isSome, hfields.1, Bool.not_true]
      simp [same, hrenderer]
  | exist =>
      rw [hkind] at hfields
      obtain ⟨hrenderer, -, hvalue⟩ := hfields
      simp [same, Option.isNone_iff_eq_none.mp hrenderer, hvalue, Value.equal]
  | eq =>
      rw [hkind] at hfields
      obtain ⟨hrenderer, -, hvalue⟩ := hfields
      simp [same, Option.isNone_iff_eq_none.mp hrenderer, Literal.equal_self_of_isDenoted hvalue]
  | other name =>
      rw [hkind] at hfields
      exact hfields.elim

theorem source_eq_of_same {c d : Condition} (h : c.same d = true) : c.source = d.source := by
  simp only [same, Bool.and_eq_true, beq_iff_eq] at h
  obtain ⟨⟨⟨⟨⟨⟨-, hsource⟩, -⟩, -⟩, -⟩, -⟩, -⟩ := h
  exact hsource

/-- Compiled conditions are the same if they come from one text, blanks around it apart, and
have no renderer. -/
theorem same_iff_of_compile {a b : String} {c d : Condition}
    (hc : (compile factory (.str a)).1 = .ok c) (hd : (compile factory (.str b)).1 = .ok d) :
    c.same d = true ↔ Text.trim a = Text.trim b ∧ c.kind ≠ .template := by
  constructor
  · intro hsame
    have hsource : Text.trim a = Text.trim b := by
      rw [← source_of_compile hc, ← source_of_compile hd, source_eq_of_same hsame]
    rw [← compile_trim, hsource, compile_trim, hd] at hc
    obtain rfl : d = c := Except.ok.inj hc
    exact ⟨hsource, (wellFormed_of_compile hd).same_self_iff.mp hsame⟩
  · rintro ⟨hsource, hkind⟩
    rw [← compile_trim, ← hsource, compile_trim, hc] at hd
    obtain rfl : c = d := Except.ok.inj hd
    exact (wellFormed_of_compile hc).same_self_iff.mpr hkind

end Condition

namespace Filter

theorem builds_sources {factory : RendererFactory} {vs : List Value} {f : Filter}
    (h : Builds factory vs f) : Builds factory (f.stats.sources.map .str) f := by
  rw [builds_iff, stats, List.map_map, List.map_map]
  refine List.map_congr_left fun c hc => ?_
  obtain ⟨v, -, hv⟩ := h.mem_conditions_iff.mp hc
  exact Condition.compile_source hv

theorem Builds.unique {factory : RendererFactory} {vs : List Value} {f g : Filter}
    (hf : Builds factory vs f) (hg : Builds factory vs g) : f = g :=
  Except.ok.inj (hf.symm.trans hg)

theorem fst_passesFrom_congr {a b : Arrival} {cs : List Condition}
    (h : ∀ c ∈ cs, ∀ i, (c.evaluate (a.memory i) a.event).1 = (c.evaluate (b.memory i) b.event).1)
    (index : Nat) : (passesFrom a index cs).1 = (passesFrom b index cs).1 := by
  induction cs generalizing index with
  | nil => rfl
  | cons c cs ih =>
      rw [List.forall_mem_cons] at h
      rw [fst_passesFrom_cons, fst_passesFrom_cons, h.1 index, ih h.2]

/-- Where no address is shown, a filter has the same answer on an event in all memories with the
same sharing. -/
theorem Builds.fst_passes_congr {w : Wording} {vs : List Value} {f : Filter}
    (h : Builds (.standard w) vs f)
    (hplain : ∀ c ∈ f.conditions, ∀ t, Template.read c.source = .ok t → t.tree.ShowsNoAddress)
    {a b : Arrival} (hevent : a.event = b.event)
    (hsharing : ∀ i, (a.memory i).sharing = (b.memory i).sharing) :
    (f.passes a).1 = (f.passes b).1 := by
  refine fst_passesFrom_congr (fun c hc i => ?_) 0
  obtain ⟨v, -, hv⟩ := h.mem_conditions_iff.mp hc
  rw [hevent]
  exact Condition.fst_evaluate_congr_of_compile_standard hv (hplain c hc) (hsharing i) b.event

/-- The sources of a filter denote it: what is built from them has the same description, the
same paths and values in the same order, and the same answers in the same memories. In other
memories with the same sharing the answers are the same if no template shows an address. And
two texts denote the same condition exactly if they are one text, blanks around it apart, and
no template. -/
theorem determined_by_sources (w : Wording) :
    (∀ vs f, Builds (.standard w) vs f →
      (∃ g, Builds (.standard w) (f.stats.sources.map .str) g) ∧
      ∀ g, Builds (.standard w) (f.stats.sources.map .str) g →
        g.stats = f.stats ∧
        g.conditions.map (fun c => (c.path, c.value)) =
          f.conditions.map (fun c => (c.path, c.value)) ∧
        (∀ a, (g.passes a).1 = (f.passes a).1) ∧
        ((∀ s ∈ f.stats.sources, ∀ t, Template.read s = .ok t → t.tree.ShowsNoAddress) →
          ∀ a b : Arrival, a.event = b.event →
            (∀ i, (a.memory i).sharing = (b.memory i).sharing) →
              (g.passes a).1 = (f.passes b).1)) ∧
    ∀ a b c d, (Condition.compile (.standard w) (.str a)).1 = .ok c →
      (Condition.compile (.standard w) (.str b)).1 = .ok d →
      (c.same d = true ↔ Text.trim a = Text.trim b ∧ c.kind ≠ .template) := by
  constructor
  · intro vs f hf
    refine ⟨⟨f, builds_sources hf⟩, fun g hg => ?_⟩
    obtain rfl : f = g := (builds_sources hf).unique hg
    refine ⟨rfl, rfl, fun _ => rfl, fun hplain a b => hf.fst_passes_congr fun c hc => ?_⟩
    exact hplain c.source (List.mem_map_of_mem hc)
  · intro a b c d hc hd
    exact Condition.same_iff_of_compile hc hd

/-- A filter of texts with blanks around them and within them, built again from its sources;
and a literal in two spellings, which gives two conditions with equal values. -/
theorem blank_texts_determined_by_sources :
    ∃ f g, Builds (.standard default)
        [.str " Exist( a ,b )\n", .str "\tEQ(n, 0x10)", .str "\x7b\x7b 'y' \x7d\x7d "] f ∧
      Builds (.standard default)
        [.str "Exist( a ,b )", .str "EQ(n, 0x10)", .str "\x7b\x7b 'y' \x7d\x7d"] g ∧
      g.stats = f.stats ∧ (∀ a, (g.passes a).1 = (f.passes a).1) ∧
      ∃ c d, (Condition.compile (.standard default) (.str "EQ(n, 16)")).1 = .ok c ∧
        (Condition.compile (.standard default) (.str "EQ(n, 0x10)")).1 = .ok d ∧
        c.value.equal d.value = true ∧ c.same d = false := by
  have hsources : (ofValues (.standard default) [.str " Exist( a ,b )\n", .str "\tEQ(n, 0x10)",
      .str "\x7b\x7b 'y' \x7d\x7d "]).1.toOption.map (fun f => f.stats.sources) =
        some ["Exist( a ,b )", "EQ(n, 0x10)", "\x7b\x7b 'y' \x7d\x7d"] := by decide +kernel
  have hvalues : (Condition.compile (.standard default) (.str "EQ(n, 16)")).1.toOption.map
      (fun c => (Condition.compile (.standard default) (.str "EQ(n, 0x10)")).1.toOption.map
        fun d => c.value.equal d.value) = some (some true) := by decide +kernel
  obtain ⟨hrebuilt, hsame⟩ := determined_by_sources default
  obtain ⟨f, hf, hlist⟩ := Except.exists_ok_of_map_toOption hsources
  obtain ⟨⟨g, hg⟩, hall⟩ := hrebuilt _ f hf
  obtain ⟨hstats, -, hanswers, -⟩ := hall g hg
  rw [hlist] at hg
  obtain ⟨c, hc, hvalue⟩ := Except.exists_ok_of_map_toOption hvalues
  obtain ⟨d, hd, hequal⟩ := Except.exists_ok_of_map_toOption hvalue
  refine ⟨f, g, hf, hg, hstats, hanswers, c, d, hc, hd, hequal, ?_⟩
  rw [← Bool.not_eq_true, hsame _ _ c d hc hd]
  exact fun h => absurd h.1 (by decide)

def furtherOn : Memory := ⟨fun o => Memory.apart.address o + 1⟩

theorem sharing_furtherOn : furtherOn.sharing = Memory.apart.sharing := by
  funext o p
  cases o <;> cases p <;> simp [Memory.sharing, furtherOn]

/-- A template that compares a text of the event with the address of a text of its own: built
again from its source, the filter rejects the event that it let pass. -/
theorem shown_address_not_in_sources :
    ∃ f g s, Builds (.standard default)
        [.str "\x7b\x7b 'y' if str('abc'.upper) == s else 'n' \x7d\x7d"] f ∧
      Builds (.standard default) (f.stats.sources.map .str) g ∧
      furtherOn.sharing = Memory.apart.sharing ∧
      (f.passes ⟨[("s", .str s)], fun _ => .apart⟩).1 = .ok true ∧
      (g.passes ⟨[("s", .str s)], fun _ => furtherOn⟩).1 = .ok false := by
  let s := String.ofList (Operand.methodText .apart "upper" "str" (.node [0, 0, 0, 0]))
  have hpasses : (ofValues (.standard default)
      [.str "\x7b\x7b 'y' if str('abc'.upper) == s else 'n' \x7d\x7d"]).1.toOption.map
        (fun f => ((f.passes ⟨[("s", .str s)], fun _ => .apart⟩).1,
          (f.passes ⟨[("s", .str s)], fun _ => furtherOn⟩).1)) =
      some (.ok true, .ok false) := by decide +kernel
  obtain ⟨f, hf, hanswers⟩ := Except.exists_ok_of_map_toOption hpasses
  obtain ⟨htrue, hfalse⟩ := Prod.mk.inj hanswers
  exact ⟨f, f, s, hf, builds_sources hf, sharing_furtherOn, htrue, hfalse⟩

end Filter

end EventSieve
