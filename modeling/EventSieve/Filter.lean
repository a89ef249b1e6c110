import EventSieve.Condition.Compile
import EventSieve.StageConfig

/-!
# Filters

A filter is a row of conditions, all of which an event has to meet. They are asked
in order up to the first that does not hold. A filter without conditions lets every
event pass. Building a filter compiles the condition texts in order up to the first
that is at fault. An event arrives with the memories in which the conditions are asked.
-/

namespace EventSieve

open Expression

/-- An event, and for each index the memory in which the condition at this index of a filter
is asked about it. -/
structure Arrival where
  event : Event
  memory : Nat → Memory

def Arrival.shift (a : Arrival) (index : Nat) : Arrival where
  event := a.event
  memory i := a.memory (index + i)

structure Filter where
  conditions : List Condition

namespace Filter

/-! ## Building -/

/-- The conditions that values denote, up to the first fault. -/
def compileAll (factory : RendererFactory) :
    List Value → Noted (Except CompileFault (List Condition))
  | [] => (.ok [], [])
  | v :: vs =>
    match Condition.compile factory v with
    | (.error fault, notes) => (.error fault, notes)
    | (.ok c, notes) =>
      let (rest, more) := compileAll factory vs
      (rest.map (c :: ·), notes ++ more)

def builtEntry (f : Filter) : Entry :=
  ⟨"filter.engine", .info, "Condition filter built",
    [("conditions", .int f.conditions.length),
      ("sources", .texts (f.conditions.map Condition.source))]⟩

def ofValues (factory : RendererFactory) (vs : List Value) : Noted (Except CompileFault Filter) :=
  match compileAll factory vs with
  | (.ok conditions, notes) =>
    let f : Filter := ⟨conditions⟩
    (.ok f, notes ++ [.entry f.builtEntry])
  | (.error fault, notes) => (.error fault, notes)

/-- The values that stand for the conditions of a filter: the items of a list or the
characters of a text, and none for null. -/
def items : Value → List Value
  | .list vs => vs
  | .str s => s.toList.map fun c => .str (String.singleton c)
  | _ => []

def invalidConfig (key : String) (errors : List Invalid) : Problem :=
  .configuration (some s!"'{key}' must be a list of condition strings")
    (some [("key", .str key), ("errors", .list (errors.map fun e => .map e.report))]) none

/-- The filter that the configuration of a stage describes under a key. -/
def ofConfig (factory : RendererFactory) (config : Fields) (key : String) :
    Noted (Except CompileFault Filter) :=
  match StageConfig.texts "if" ((config.get? key).getD .null) with
  | .error errors => (.error (.problem (invalidConfig key errors)), [])
  | .ok texts => ofValues factory ((texts.getD []).map .str)

/-! ## Filtering -/

def rejectedEntry (index : Nat) (c : Condition) : Entry :=
  ⟨"filter.engine", .debug, "Event rejected",
    [("condition_index", .int index), ("condition", .str c.source)]⟩

/-- Whether an event meets conditions, of which the first has a given index. -/
def passesFrom (a : Arrival) :
    (index : Nat) → List Condition → Noted (Except ConditionFault Bool)
  | _, [] => (.ok true, [])
  | index, c :: cs =>
    match c.evaluate (a.memory index) a.event with
    | (.error fault, notes) => (.error fault, notes)
    | (.ok false, notes) => (.ok false, notes ++ [.entry (rejectedEntry index c)])
    | (.ok true, notes) =>
      let (result, more) := passesFrom a (index + 1) cs
      (result, notes ++ more)

def passes (f : Filter) (a : Arrival) : Noted (Except ConditionFault Bool) :=
  passesFrom a 0 f.conditions

def passesAll (f : Filter) : List Arrival → Noted (List (Except ConditionFault Bool))
  | [] => ([], [])
  | a :: arrivals =>
    let (result, notes) := f.passes a
    let (results, more) := passesAll f arrivals
    (result :: results, notes ++ more)

def select (f : Filter) : List Arrival → Noted (Except ConditionFault (List Arrival))
  | [] => (.ok [], [])
  | a :: arrivals =>
    match f.passes a with
    | (.error fault, notes) => (.error fault, notes)
    | (.ok passed, notes) =>
      let (rest, more) := select f arrivals
      (rest.map fun found => if passed then a :: found else found, notes ++ more)

/-! ## Describing -/

structure Stats where
  total : Nat
  kinds : List String
  sources : List String
deriving DecidableEq

def stats (f : Filter) : Stats where
  total := f.conditions.length
  kinds := f.conditions.map fun c => c.kind.name
  sources := f.conditions.map Condition.source

end Filter

end EventSieve
