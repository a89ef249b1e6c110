import EventSieve.Condition
import EventSieve.Literal
import EventSieve.Text.Blank
import EventSieve.Text.Ranges
import EventSieve.Value.Text

/-!
# Compiling conditions

The text of a condition has one of three forms: a template, which stands between
double braces; `Exist(...)` with the segments of a path; and `EQ(...)` with the
segments of a path and a literal. Blanks around the text and around each argument
do not matter, and a text of any form stands on one line. A template goes to a
factory of renderers; the literal is read by its own form. `compile` gives the
condition or the fault, with the notes on the way.
-/

namespace EventSieve

open Expression

/-- Why a condition cannot be compiled: a problem, or one of two faults that no problem
reports. -/
inductive CompileFault (τ : Type := String) where
  | problem (p : Problem τ)
  /-- A template holds a null character. -/
  | nullCharacter
  /-- A value that is no text holds an integer that is too long to be written. -/
  | unwritable

/-- What makes renderers of the texts of templates. -/
abbrev RendererFactory := String → Except CompileFault Renderer

namespace RendererFactory

/-- The factory that accepts the templates of the library, and no others. -/
def standard (w : Wording) : RendererFactory := fun source =>
  match Template.read source with
  | .ok t => .ok (.ofTemplate w t)
  | .error fault =>
    match fault.problem? w source with
    | some p => .error (.problem p)
    | none => .error .nullCharacter

/-- The factory that accepts every text and gives renderers of set values, null where no
value is set. -/
def ofValues (values : Fields) : RendererFactory := fun source =>
  .ok (.constant source ((values.get? source).getD .null))

end RendererFactory

namespace Condition

/-- The text between an opening and a closing mark, if it stands on one line. -/
def between? (opening closing cs : List Char) : Option (List Char) :=
  if opening.isPrefixOf cs then
    let rest := cs.drop opening.length
    if closing.isSuffixOf rest then
      let body := rest.take (rest.length - closing.length)
      if '\n' ∈ body then none else some body
    else none
  else none

/-- The forms of conditions, with the text between the parentheses. -/
inductive Form where
  | template
  | exist (body : List Char)
  | eq (body : List Char)
  | unknown
deriving DecidableEq

/-- The form of a text without blanks around it. -/
def form (cs : List Char) : Form :=
  if (between? "\x7b\x7b".toList "\x7d\x7d".toList cs).isSome then .template
  else
    match between? "Exist(".toList [')'] cs with
    | some body => .exist body
    | none =>
      match between? "EQ(".toList [')'] cs with
      | some body => .eq body
      | none => .unknown

/-- The arguments between commas, each without blanks around it; none if one is empty. -/
def arguments? (body : List Char) : Option (List String) :=
  let arguments := (body.splitOn ',').map Text.trimChars
  if [] ∈ arguments then none else some (arguments.map String.ofList)

def syntaxProblem (message text : String) : CompileFault :=
  .problem (.conditionSyntax (some message) (some [("condition", .str text)]))

def emptyArgument (text : String) : CompileFault :=
  syntaxProblem "Empty argument in condition" text

def existOf (text : String) (body : List Char) : Except CompileFault Condition :=
  match arguments? body with
  | none => .error (emptyArgument text)
  | some path => .ok { kind := .exist, source := text, path := path }

/-- The condition that a path leads to a given value, whose literal is the last argument. -/
def eqOf (text : String) (body : List Char) : Except CompileFault Condition :=
  match arguments? body with
  | none => .error (emptyArgument text)
  | some arguments =>
    match arguments.dropLast, arguments.getLast? with
    | segment :: path, some token =>
      match Literal.read token with
      | .ok v => .ok { kind := .eq, source := text, path := segment :: path, value := v }
      | .error fault => .error (.problem (fault.problem token))
    | _, _ => .error (syntaxProblem "EQ needs at least one path segment and a value" text)

def templateOf (factory : RendererFactory) (text : String) : Except CompileFault Condition :=
  (factory text).map fun r => { kind := .template, source := text, renderer := some r }

def ofTrimmed (factory : RendererFactory) (text : String) : Except CompileFault Condition :=
  match form text.toList with
  | .template => templateOf factory text
  | .exist body => existOf text body
  | .eq body => eqOf text body
  | .unknown => .error (syntaxProblem ("could not build condition from " ++ text) text)

def compiledEntry (c : Condition) : Entry :=
  ⟨"filter.compiler", .debug, "Condition compiled",
    [("kind", .str c.kind.name), ("condition", .str c.source)]⟩

def factoryNotes (text : String) : List Note :=
  if form text.toList = .template then [.made text] else []

/-- The condition that a text denotes, or why it denotes none. -/
def ofText (factory : RendererFactory) (text : String) : Except CompileFault Condition :=
  ofTrimmed factory (Text.trim text)

/-- The fault of a value that is no text: the problem shows the value, if it can be
written. -/
def notText (v : Value) : CompileFault :=
  if v.isWritable then
    .problem (.conditionSyntax (some "Condition must be a string")
      (some [("condition", .str (String.ofList v.widen.written))]))
  else .unwritable

def compileNotes (text : String) (result : Except CompileFault Condition) : List Note :=
  factoryNotes text ++
    match result with
    | .ok c => [.entry (compiledEntry c)]
    | .error _ => []

/-- The condition that a value denotes, or why it denotes none, and the notes on the way
to it. -/
def compile (factory : RendererFactory) : Value → Noted (Except CompileFault Condition)
  | .str text => (ofText factory text, compileNotes (Text.trim text) (ofText factory text))
  | v => (.error (notText v), [])

theorem compile_str (factory : RendererFactory) (text : String) :
    compile factory (.str text) =
      (ofText factory text, compileNotes (Text.trim text) (ofText factory text)) := rfl

theorem compile_of_ne_str {factory : RendererFactory} {v : Value} (h : ∀ text, v ≠ .str text) :
    compile factory v = (.error (notText v), []) := by
  cases v with
  | str text => exact absurd rfl (h text)
  | null => rfl
  | bool b => rfl
  | int n => rfl
  | float x => rfl
  | list items => rfl
  | map fields => rfl

end Condition

end EventSieve
