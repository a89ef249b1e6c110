import EventSieve.Value.Equality

/-!
# Equality with texts and numbers

Strict equality with a text or an integer leaves one value, and strict equality with a
double leaves the doubles that stand for the same number. The two zeros are one number,
and a double that stands for nothing is equal to no value, itself included.
-/

namespace EventSieve

theorem Exact.ofInt_injective {m n : Int} (h : Exact.ofInt m = Exact.ofInt n) : m = n := by
  simpa [Exact.ofInt] using h

namespace Value

theorem strictEqual_iff {v w : Value} :
    v.strictEqual w = true ↔ v.kind = w.kind ∧ equal v w = true := by
  rw [strictEqual, Bool.and_eq_true, beq_iff_eq]

theorem strictEqual_str_iff {v : Value} {s : String} :
    v.strictEqual (.str s) = true ↔ v = .str s := by
  cases v with
  | str t => simp [strictEqual, kind, equal]
  | _ => simp [strictEqual, kind]

theorem strictEqual_int_iff {v : Value} {n : Int} :
    v.strictEqual (.int n) = true ↔ v = .int n := by
  cases v with
  | int m =>
      rw [strictEqual_iff, equal, numbersEqual, number?, number?, int.injEq]
      constructor
      · rintro ⟨-, hequal⟩
        exact Exact.ofInt_injective (Exact.equal_iff.mp hequal).1
      · rintro rfl
        exact ⟨rfl, Exact.equal_iff.mpr ⟨rfl, by simp [Exact.ofInt]⟩⟩
  | _ => simp [strictEqual, kind]

theorem strictEqual_float_iff {v : Value} {x : Float} :
    v.strictEqual (.float x) = true ↔
      ∃ y, v = .float y ∧ Binary64.exact y = Binary64.exact x ∧
        Binary64.isUndefined x = false := by
  cases v with
  | float y =>
      rw [strictEqual_iff, equal, numbersEqual, number?, number?]
      simp only [kind, true_and, float.injEq, exists_eq_left', Exact.equal_iff,
        Binary64.isUndefined, beq_eq_false_iff_ne]
      constructor
      · rintro ⟨hexact, hdefined⟩
        exact ⟨hexact, hexact ▸ hdefined⟩
      · rintro ⟨hexact, hdefined⟩
        exact ⟨hexact, hexact ▸ hdefined⟩
  | _ => simp [strictEqual, kind]

end Value

end EventSieve
