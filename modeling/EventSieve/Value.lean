import EventSieve.Text.CodePoint

/-!
# Values

A `Value` is what a decoded event holds: null, a boolean, an integer of any size, a
double, a text, a list, or fields. Fields are kept in the order in which their
keys came; the first field with a key is the one that `get?` finds, and `set`
replaces it or adds a field at the end.
-/

namespace EventSieve

/-- A decoded value. Its texts are rows of characters, unless they are of another type. -/
inductive Value (τ : Type := String) where
  | null
  | bool (b : Bool)
  | int (n : Int)
  | float (x : Float)
  | str (s : τ)
  | list (items : List (Value τ))
  | map (fields : List (τ × Value τ))
deriving Inhabited

/-- Keys with their values, in the order in which they came. -/
abbrev Fields (τ : Type := String) := List (τ × Value τ)

abbrev Event := Fields

namespace Fields

variable {τ : Type} [DecidableEq τ]

def get? : Fields τ → τ → Option (Value τ)
  | [], _ => none
  | (k, v) :: fields, key => if k = key then some v else get? fields key

/-- The fields in which a key has a value: in the place of its field, or at the end. -/
def set : Fields τ → τ → Value τ → Fields τ
  | [], key, value => [(key, value)]
  | (k, v) :: fields, key, value =>
    if k = key then (k, value) :: fields else (k, v) :: set fields key value

/-- The fields of the first, with those of the second set one after the other. -/
def merge (fields more : Fields τ) : Fields τ := more.foldl (fun fs (k, v) => set fs k v) fields

@[simp] theorem get?_nil (key : τ) : get? [] key = none := rfl

theorem get?_cons (k : τ) (v : Value τ) (fields : Fields τ) (key : τ) :
    get? ((k, v) :: fields) key = if k = key then some v else get? fields key := rfl

theorem get?_append (fields more : Fields τ) (key : τ) :
    get? (fields ++ more) key = (get? fields key).or (get? more key) := by
  induction fields with
  | nil => rfl
  | cons field fields ih =>
    obtain ⟨k, v⟩ := field
    rw [List.cons_append, get?_cons, get?_cons]
    by_cases hk : k = key
    · rw [if_pos hk, if_pos hk, Option.some_or]
    · rw [if_neg hk, if_neg hk, ih]

@[simp] theorem get?_set_self (fields : Fields τ) (key : τ) (value : Value τ) :
    get? (set fields key value) key = some value := by
  induction fields with
  | nil => simp [set, get?]
  | cons field fields ih =>
    obtain ⟨k, v⟩ := field
    by_cases h : k = key <;> simp [set, get?, h, ih]

theorem get?_set_of_ne {fields : Fields τ} {key other : τ} (value : Value τ)
    (h : key ≠ other) : get? (set fields key value) other = get? fields other := by
  induction fields with
  | nil => simp [set, get?, h]
  | cons field fields ih =>
    obtain ⟨k, v⟩ := field
    by_cases hk : k = key
    · subst hk
      simp [set, get?, h]
    · rw [set, if_neg hk, get?_cons, get?_cons, ih]

theorem get?_merge_of_forall_ne {fields more : Fields τ} {key : τ}
    (h : ∀ field ∈ more, field.1 ≠ key) : (merge fields more).get? key = fields.get? key := by
  rw [merge]
  induction more generalizing fields with
  | nil => rfl
  | cons field more ih =>
    obtain ⟨hfield, hmore⟩ := List.forall_mem_cons.mp h
    rw [List.foldl_cons, ih hmore, get?_set_of_ne _ hfield]

end Fields

namespace Value

def texts (items : List String) : Value := .list (items.map .str)

def fields? : Value → Option Fields
  | map fields => some fields
  | _ => none

def isMap (v : Value) : Bool := v.fields?.isSome

@[simp] theorem isMap_map (fields : Fields) : isMap (.map fields) = true := rfl

section MapTexts

variable {τ σ : Type} (f : τ → σ)

mutual

def mapTexts : Value τ → Value σ
  | null => null
  | bool b => bool b
  | int n => int n
  | float x => float x
  | str s => str (f s)
  | list items => list (mapItems items)
  | map fields => map (mapFields fields)

def mapItems : List (Value τ) → List (Value σ)
  | [] => []
  | v :: items => mapTexts v :: mapItems items

def mapFields : List (τ × Value τ) → Fields σ
  | [] => []
  | (k, v) :: fields => (f k, mapTexts v) :: mapFields fields

end

theorem mapItems_eq_map (items : List (Value τ)) : mapItems f items = items.map (mapTexts f) := by
  induction items with
  | nil => rfl
  | cons v items ih => rw [mapItems, List.map_cons, ih]

theorem mapFields_eq_map (fields : Fields τ) :
    mapFields f fields = fields.map (Prod.map f (mapTexts f)) := by
  induction fields with
  | nil => rfl
  | cons field fields ih => rw [mapFields, List.map_cons, ih]; rfl

end MapTexts

/-- A value of characters, as one whose texts may hold surrogates. -/
def widen (v : Value) : Value Text.WideText := v.mapTexts Text.WideText.ofString

def widenFields (fields : Fields) : Fields Text.WideText := mapFields Text.WideText.ofString fields

theorem get?_widenFields (fields : Fields) (key : String) :
    (widenFields fields).get? (.ofString key) = (fields.get? key).map widen := by
  induction fields with
  | nil => rfl
  | cons field fields ih =>
    obtain ⟨k, v⟩ := field
    have hcons : widenFields ((k, v) :: fields) =
      (.ofString k, v.widen) :: widenFields fields := rfl
    rw [hcons, Fields.get?_cons, Fields.get?_cons, ih]
    simp only [Text.WideText.ofString_inj]
    by_cases hk : k = key
    · rw [if_pos hk, if_pos hk, Option.map_some]
    · rw [if_neg hk, if_neg hk]

end Value

end EventSieve
