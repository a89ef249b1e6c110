import EventSieve.Settings.Dotenv
import EventSieve.StageConfig
import EventSieve.Text.Case

/-!
# Settings

The settings of a stage are five names, each with a default. An explicit value comes
before the environment, the environment before the environment file, and the file
before the default. In both of these the names begin with `FILTER_`, in letters of
either case. What else is set explicitly or in the file is kept beside the settings.
-/

namespace EventSieve

structure Settings where
  env : String
  logLevel : String
  serviceName : String
  pipelineName : String
  conditionKey : String
  extras : Fields

namespace Settings

def names : List String := ["env", "log_level", "service_name", "pipeline_name", "condition_key"]

def mark : String := "filter_"

/-- The bindings of an environment under names in lower case, of which a later one takes
the place of an earlier one. -/
def lowered (bindings : List Dotenv.Binding) : List Dotenv.Binding :=
  bindings.foldl (fun found (name, v) => Dotenv.bind found (Text.lower name) v) []

def bound? (bindings : List Dotenv.Binding) (name : String) : Option Value :=
  match bindings.lookup (mark ++ name) with
  | some (some v) => some (.str v)
  | _ => none

def withoutMark (name : String) : String :=
  if mark.toList.isPrefixOf name.toList then String.ofList (name.toList.drop mark.length)
  else name

/-- Whether a name in lower case belongs to a setting, with or without its mark. -/
def isTaken (name : String) : Bool := names.contains name || names.contains (withoutMark name)

/-- The extras with the one that a binding under a name in lower case sets: a name that is
new, with a value that is not empty. -/
def keepExtra (extras : Fields) : Dotenv.Binding → Fields
  | (_, none) => extras
  | (name, some v) =>
    if v.isEmpty || isTaken name || (extras.get? name).isSome then extras
    else extras.set (withoutMark name) (.str v)

def extrasOf (bindings : List Dotenv.Binding) : Fields := bindings.foldl keepExtra []

def misfit? (name : String) : Option Value → Option Invalid
  | none => none
  | some (.str _) => none
  | some v => some ⟨.text, some name, none, v⟩

def textOr (default : String) : Option Value → String
  | some (.str s) => s
  | _ => default

def bindingsOf (env : List (String × String)) : List Dotenv.Binding :=
  env.map fun e => (e.1, some e.2)

section Sources

variable (overrides : Fields) (env : List (String × String)) (file : String)

def found? (name : String) : Option Value :=
  overrides.get? name <|> bound? (lowered (bindingsOf env)) name <|>
    bound? (lowered (Dotenv.read env file)) name

def misfits : List Invalid :=
  names.filterMap fun name => misfit? name (found? overrides env file name)

/-- What is set besides the settings: an explicit value comes before the file. -/
def besides : Fields :=
  (extrasOf (lowered (Dotenv.read env file))).merge
    (overrides.filter fun (name, _) => !names.contains name)

def loaded : Settings where
  env := textOr "local" (found? overrides env file "env")
  logLevel := textOr "info" (found? overrides env file "log_level")
  serviceName := textOr "filter" (found? overrides env file "service_name")
  pipelineName := textOr "default" (found? overrides env file "pipeline_name")
  conditionKey := textOr "if" (found? overrides env file "condition_key")
  extras := besides overrides env file

def load : Except (List Invalid) Settings :=
  match misfits overrides env file with
  | [] => .ok (loaded overrides env file)
  | errors => .error errors

end Sources

def fields (s : Settings) : Fields :=
  [("env", .str s.env), ("log_level", .str s.logLevel), ("service_name", .str s.serviceName),
    ("pipeline_name", .str s.pipelineName), ("condition_key", .str s.conditionKey)] ++ s.extras

end Settings

end EventSieve
