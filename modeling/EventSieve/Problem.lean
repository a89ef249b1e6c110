import EventSieve.Value

/-!
# Problems

A `Problem` is what is reported when a component cannot be set up: its family, a
code, a message and details. Four of the five families concern the configuration
and have a message and a code of their own. A report puts the name of the stage
in front.
-/

namespace EventSieve

/-- The families of problems. All but the first concern the configuration. -/
inductive ProblemFamily where
  | pipeline | configuration | conditionSyntax | literal | template
deriving DecidableEq

structure Problem (τ : Type := String) where
  family : ProblemFamily
  code : String
  message : τ
  details : Fields τ

namespace Problem

def pipeline (code message : String) (details : Option Fields) : Problem :=
  ⟨.pipeline, code, message, details.getD []⟩

def configuration (message : Option String) (details : Option Fields) (code : Option String) :
    Problem :=
  ⟨.configuration, code.getD "CONFIGURATION_ERROR", message.getD "Invalid configuration",
    details.getD []⟩

def conditionSyntax (message : Option String) (details : Option Fields) : Problem :=
  ⟨.conditionSyntax, "CONDITION_SYNTAX_ERROR", message.getD "Invalid condition",
    details.getD []⟩

def literal (message : Option String) (details : Option Fields) : Problem :=
  ⟨.literal, "LITERAL_COERCION_ERROR", message.getD "Invalid literal", details.getD []⟩

def template (message : Option String) (details : Option Fields) : Problem :=
  ⟨.template, "TEMPLATE_ERROR", message.getD "Invalid template", details.getD []⟩

/-- A problem of the same family and code with another message and other details. -/
def retold {σ τ : Type} (p : Problem σ) (message : τ) (details : Fields τ) : Problem τ :=
  ⟨p.family, p.code, message, details⟩

def concernsConfiguration (p : Problem) : Bool := p.family != .pipeline

/-- The report of a problem, under the name of the stage if it has one. -/
def report (p : Problem) (stage : Option String) : Fields :=
  [("stage", match stage with | some name => .str name | none => .null),
   ("code", .str p.code), ("message", .str p.message), ("details", .map p.details)]

end Problem

end EventSieve
