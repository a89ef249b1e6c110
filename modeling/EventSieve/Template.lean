import EventSieve.Expression.Evaluation
import EventSieve.Expression.Statement
import EventSieve.Problem

/-!
# Templates

A template is an expression between double braces. It is accepted if it is a single
expression and every call in it, at any depth, has a plain name for its callee.
Rendering evaluates the expression on an event. The wording of two messages belongs to
the reader and the evaluator of expressions, and is left open.
-/

namespace EventSieve

open Expression

/-- Why a text is not a template. -/
inductive TemplateFault where
  | unwrapped
  | blank
  | nullCharacter
  | unreadable
  | noSingleExpression
  | computedCallee
deriving DecidableEq

/-- An accepted template: its text, the text of its expression, and the expression. -/
structure Template where
  source : String
  expression : String
  tree : Expr

namespace Template

def unwrap? (cs : List Char) : Option (List Char) :=
  match cs with
  | '\x7b' :: '\x7b' :: rest =>
    match rest.reverse with
    | '\x7d' :: '\x7d' :: body => some body.reverse
    | _ => none
  | _ => none

def single? : List Statement → Option Expr
  | [.expression e] => some e
  | _ => none

def read (source : String) : Except TemplateFault Template :=
  match unwrap? source.toList with
  | none => .error .unwrapped
  | some body =>
    let expression := String.ofList (Text.trimChars body)
    if expression.isEmpty then .error .blank
    else if '\x00' ∈ expression.toList then .error .nullCharacter
    else
      match Statement.readAll? expression with
      | none => .error .unreadable
      | some statements =>
        match single? statements with
        | none => .error .noSingleExpression
        | some tree =>
          if tree.callsPlainNames then .ok ⟨source, expression, tree⟩
          else .error .computedCallee

end Template

/-- How it is put that a text cannot be read, and that an evaluation fails for any reason
but a missing key. -/
structure Wording where
  unreadable : String → String
  failure : Template → Memory → Event → String
deriving Inhabited

namespace TemplateFault

def message : TemplateFault → String
  | unwrapped => "Template must be wrapped in \x7b\x7b \x7d\x7d"
  | blank => "Template expression is empty"
  | nullCharacter => "source code string cannot contain null bytes"
  | unreadable => "Template expression could not be parsed"
  | noSingleExpression => "Template must be a single expression"
  | computedCallee => "Template may only call plain functions"

def details (w : Wording) (source : String) (fault : TemplateFault) : Fields :=
  ("template", .str source) ::
    if fault = unreadable then [("error", .str (w.unreadable source))] else []

/-- The problem that a fault of a template is reported as. A null character is a fault
that no problem reports. -/
def problem? (w : Wording) (source : String) (fault : TemplateFault) : Option Problem :=
  match fault with
  | nullCharacter => none
  | fault => some (.template (some fault.message) (some (fault.details w source)))

end TemplateFault

end EventSieve
