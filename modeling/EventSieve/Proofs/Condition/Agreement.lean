import EventSieve.Proofs.Condition.Evaluation
import EventSieve.Proofs.Condition.Quotation
import EventSieve.Proofs.Expression.Lookup

/-!
# Two ways to ask for a text

Whether a path leads to a given text can be asked by a condition of the form `EQ`, or
by a template that compares a row of subscripts of the event with the text. Both
have the same answer on every event. The one follows the path and compares by kind
and value; in the other a subscript that fails leaves nothing to compare, and a value
of another kind is not equal to a text.
-/

namespace EventSieve

open Text Expression Evaluation

/-! ## The template -/

/-- The expression that is one text if subscripts of the event lead to a given text, and
another text if they do not. -/
def agreementTree (path : List WideText) (s : WideText) : Expr :=
  .choice
    (.compared ((Expr.name "event").subscripts path) [(.equal, .constant (.str s))])
    (.constant (.str (.ofString "y"))) (.constant (.str (.ofString "n")))

def subscriptKeys? : Expr → Option (List WideText)
  | .name id => if id = "event" then some [] else none
  | .subscript object (.constant (.str key)) => (subscriptKeys? object).map (· ++ [key])
  | _ => none

/-- The path and the text that a tree asks for, if it is the expression that does so. -/
def agreementParts? : Expr → Option (List WideText × WideText)
  | .choice (.compared object [(.equal, .constant (.str s))]) (.constant (.str yes))
      (.constant (.str no)) =>
    if yes = .ofString "y" ∧ no = .ofString "n" then (subscriptKeys? object).map (·, s) else none
  | _ => none

theorem eq_subscripts_of_subscriptKeys? {e : Expr} {path : List WideText}
    (h : subscriptKeys? e = some path) : e = (Expr.name "event").subscripts path := by
  fun_induction subscriptKeys? e generalizing path with
  | case1 =>
      cases h
      rfl
  | case2 => cases h
  | case3 object key ih =>
      obtain ⟨front, hfront, rfl⟩ := Option.map_eq_some_iff.mp h
      rw [ih hfront, Expr.subscripts, Expr.subscripts, List.foldl_append]
      rfl
  | case4 => cases h

theorem eq_agreementTree_of_agreementParts? {e : Expr} {path : List WideText} {s : WideText}
    (h : agreementParts? e = some (path, s)) : e = agreementTree path s := by
  unfold agreementParts? at h
  split at h
  · split at h
    · next hwords =>
      obtain ⟨keys, hkeys, hparts⟩ := Option.map_eq_some_iff.mp h
      cases hparts
      rw [hwords.1, hwords.2, eq_subscripts_of_subscriptKeys? hkeys]
      rfl
    · cases h
  · cases h

variable {m : Memory} {event : Event} {node : List Nat}

theorem eval_compared_str {object : Expr} {o : Except Failure Operand} {s : WideText}
    (hobject : object.eval m event (0 :: node) = ofResult o)
    (hs : s.length ≤ Operand.maxLength) :
    (Expr.compared object [(.equal, .constant (.str s))]).eval m event node =
      ofResult (o.map fun found => .ofBool (found.equal m.sharing (.ofText s))) := by
  rw [Expr.eval, hobject]
  cases o with
  | error failure => exact ofResult_error_bind failure _
  | ok found =>
      rw [ofResult_ok_bind, Expr.evalCompared, eval_constant_str _ hs, ofResult_ok_bind,
        Comparison.holds?, ofOption, ofResult_ok_bind, Expr.evalCompared, Except.map]
      cases found.equal m.sharing (.ofText s) with
      | true => rfl
      | false => rfl

theorem eval_choice_str {test : Expr} {o : Except Failure Bool}
    (htest : test.eval m event (0 :: node) = ofResult (o.map .ofBool)) {yes no : WideText}
    (hyes : yes.length ≤ Operand.maxLength) (hno : no.length ≤ Operand.maxLength) :
    (Expr.choice test (.constant (.str yes)) (.constant (.str no))).eval m event node =
      ofResult (o.map fun holds => .ofText (if holds then yes else no)) := by
  rw [Expr.eval, htest]
  cases o with
  | error failure => exact ofResult_error_bind failure _
  | ok holds =>
      rw [Except.map, ofResult_ok_bind, eval_constant_str _ hyes, eval_constant_str _ hno]
      cases holds with
      | true => rfl
      | false => rfl

theorem evaluate_agreementTree {path : List String} {s : String} (hpath : path ≠ [])
    (hkeys : ∀ key ∈ path, key.length ≤ Operand.maxLength) (hs : s.length ≤ Operand.maxLength)
    (m : Memory) (event : Event) :
    ∃ origin failure, failure.NamesText ∧
      (agreementTree (path.map .ofString) (.ofString s)).evaluate m event =
      match Path.find? event path with
      | some v =>
        .ok (.ofText (if (Operand.value v.widen origin).equal m.sharing (.ofText (.ofString s))
          then .ofString "y" else .ofString "n"))
      | none => .error failure := by
  have hevent : ∀ node, (Expr.name "event").eval m event node =
      ofResult (.ok (.value (.map (Value.widenFields event)) (.place []))) := by
    intro node
    rw [Expr.eval]
    rfl
  obtain ⟨origin, failure, hfailure, hfollow⟩ := Operand.follow_map event (.place []) hpath
  have hwide : ∀ key ∈ path.map WideText.ofString, key.length ≤ Operand.maxLength := by
    rw [List.forall_mem_map]
    intro key hkey
    rw [WideText.length_ofString]
    exact hkeys key hkey
  have hlookup : ((Expr.name "event").subscripts (path.map .ofString)).eval m event [0, 0] =
      ofResult (Operand.follow (.value (.map (Value.widenFields event)) (.place []))
        (path.map .ofString)) := eval_subscripts hevent hwide
  rw [hfollow] at hlookup
  rw [← WideText.length_ofString] at hs
  have hyes : (WideText.ofString "y").length ≤ Operand.maxLength := by decide
  have hno : (WideText.ofString "n").length ≤ Operand.maxLength := by decide
  refine ⟨origin, failure, hfailure, ?_⟩
  cases hfind : Path.find? event path with
  | none =>
      rw [hfind] at hlookup
      exact evaluate_of_eval (eval_choice_str (o := .error failure)
        (eval_compared_str hlookup hs) hyes hno)
  | some v =>
      rw [hfind] at hlookup
      exact evaluate_of_eval (eval_choice_str (o := .ok _)
        (eval_compared_str hlookup hs) hyes hno)

/-! ## The two equalities -/

theorem equal_ofText (sharing : Sharing) (v : Value) (origin : Origin) (s : String) :
    (Operand.value v.widen origin).equal sharing (.ofText (.ofString s)) =
      v.strictEqual (.str s) := by
  cases v with
  | str t =>
      simp [Operand.equal, Operand.ofText, Operand.new, Operand.equalValues, Value.equal,
        Value.widen, Value.mapTexts, Value.strictEqual, Value.kind]
  | null => rfl
  | bool b => rfl
  | int n => rfl
  | float x => rfl
  | list items => rfl
  | map fields => rfl

theorem isReportable_of_namesText {failure : Failure} (h : failure.NamesText) (m : Memory) :
    failure.isReportable m = true := by
  cases failure with
  | missingKey key =>
      obtain ⟨s, rfl⟩ := h
      rfl
  | other => rfl

/-! ## Agreement -/

namespace Condition

/-- A condition that a path leads to a text and the template that asks for the same have the
same answer on every event. -/
theorem text_equality_agrees (factory : RendererFactory) (w : Wording) {path : List String}
    {s : String} (hpath : IsPath path) (hkeys : ∀ key ∈ path, key.length ≤ Operand.maxLength)
    (hcomma : ',' ∉ s.toList) (hline : '\n' ∉ s.toList) (hs : s.length ≤ Operand.maxLength)
    {t : Template} (ht : t.tree = agreementTree (path.map .ofString) (.ofString s))
    (event : Event) :
    ∃ c b, (compile factory (.str (plainLayout "EQ" (path ++ [quoted s])))).1 = .ok c ∧
      ∀ m m' : Memory, (c.evaluate m event).1 = .ok b ∧
        ((ofRenderer t.source (.ofTemplate w t)).evaluate m' event).1 = .ok b := by
  have hcompile := compile_of_isLayout_eq factory hpath (isSegment_quoted hcomma hline)
    (read_quoted s) (isLayout_plainLayout "EQ" (path ++ [quoted s]))
  refine ⟨_, _, hcompile, fun m m' => ⟨evaluate_ofPathValue _ hpath.1 _ m event, ?_⟩⟩
  obtain ⟨origin, failure, hfailure, hevaluate⟩ :=
    evaluate_agreementTree hpath.1 hkeys hs m' event
  rw [evaluate_ofTemplate, ht, hevaluate]
  cases Path.find? event path with
  | none =>
      simp only [isReportable_of_namesText hfailure]
      rfl
  | some v =>
      simp only [equal_ofText, Option.any_some]
      cases v.strictEqual (.str s) with
      | true => rfl
      | false => rfl

/-- Keys that are named like the event and like a function are keys like any other. -/
theorem text_equality_agrees_on_shadowed_names :
    ∃ t c b,
      Template.read "\x7b\x7b'y' if event['event']['len'] == 'on' else 'n'\x7d\x7d" = .ok t ∧
      t.tree = agreementTree (["event", "len"].map .ofString) (.ofString "on") ∧
      (compile (.standard default) (.str "EQ(event, len, \"on\")")).1 = .ok c ∧
      (c.evaluate default [("event", .map [("len", .str "on")])]).1 = .ok b ∧
      ((ofRenderer t.source (.ofTemplate default t)).evaluate default
        [("event", .map [("len", .str "on")])]).1 = .ok b := by
  have htext : plainLayout "EQ" (["event", "len"] ++ [quoted "on"]) = "EQ(event, len, \"on\")" := by
    decide
  have hpath : IsPath ["event", "len"] := by decide
  have hread : (Template.read
      "\x7b\x7b'y' if event['event']['len'] == 'on' else 'n'\x7d\x7d").toOption.map
        (fun t => agreementParts? t.tree) =
          some (some (["event", "len"].map .ofString, .ofString "on")) := by
    decide +kernel
  obtain ⟨t, ht, hparts⟩ := Except.exists_ok_of_map_toOption hread
  have htree := eq_agreementTree_of_agreementParts? hparts
  obtain ⟨c, b, hcompile, hanswers⟩ := text_equality_agrees (.standard default) default hpath
    (by decide) (by decide) (by decide) (by decide) htree
    [("event", .map [("len", .str "on")])]
  rw [htext] at hcompile
  exact ⟨t, c, b, ht, htree, hcompile, hanswers default default⟩

end Condition

end EventSieve
