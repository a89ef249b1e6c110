import EventSieve.Value

/-!
# Stage configurations

The part of the configuration of a stage that a filter reads is a list of texts. It
may be missing or null. Anything else is invalid, and so is each item of the list
that is no text; `Invalid` says what was expected, where, and what stands there.
-/

namespace EventSieve

inductive Expected where
  | list | text | settings
deriving DecidableEq

namespace Expected

def name : Expected → String
  | list => "list_type"
  | text => "string_type"
  | settings => "model_type"

def message : Expected → String
  | list => "Input should be a valid list"
  | text => "Input should be a valid string"
  | settings => "Input should be a valid dictionary or instance of FilterConfig"

end Expected

/-- A value that is not as expected, with the key under which it stands and its index in
the list there. -/
structure Invalid where
  expected : Expected
  key : Option String
  index : Option Nat
  input : Value

namespace Invalid

def location (e : Invalid) : List Value :=
  (e.key.map Value.str).toList ++ (e.index.map fun i => Value.int i).toList

def report (e : Invalid) : Fields :=
  [("type", .str e.expected.name), ("loc", .list e.location), ("msg", .str e.expected.message),
    ("input", e.input)] ++
    if e.expected = .settings then [("ctx", .map [("class_name", .str "FilterConfig")])] else []

end Invalid

namespace StageConfig

def invalidItems (key : String) : (index : Nat) → List Value → List Invalid
  | _, [] => []
  | index, .str _ :: items => invalidItems key (index + 1) items
  | index, v :: items => ⟨.text, some key, some index, v⟩ :: invalidItems key (index + 1) items

def textsOf (items : List Value) : List String :=
  items.filterMap fun v =>
    match v with
    | .str s => some s
    | _ => none

def texts (key : String) : Value → Except (List Invalid) (Option (List String))
  | .null => .ok none
  | .list items =>
    match invalidItems key 0 items with
    | [] => .ok (some (textsOf items))
    | errors => .error errors
  | v => .error [⟨.list, some key, none, v⟩]

/-- The condition texts of a configuration: those under `if`, or else those under
`conditions`. -/
def read : Value → Except (List Invalid) (Option (List String))
  | .map config =>
    match Fields.get? config "if", Fields.get? config "conditions" with
    | some v, _ => texts "if" v
    | none, some v => texts "conditions" v
    | none, none => .ok none
  | v => .error [⟨.settings, none, none, v⟩]

end StageConfig

end EventSieve
