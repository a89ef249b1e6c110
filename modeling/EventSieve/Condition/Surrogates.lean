import EventSieve.Condition.Compile

/-!
# Texts with surrogates

The text of a condition may hold surrogates. A text that does has the form of its shadow, and
its arguments and its literal are read in the same way; what is shown of it is the text itself.
Only a template is different: it is encoded before it is read, and a surrogate has no encoding.
That failure is reported as no problem.
-/

namespace EventSieve

open Text

/-- Why the text of a condition that may hold surrogates cannot be compiled. -/
inductive WideFault where
  | fault (f : CompileFault WideText)
  /-- The expression of a template cannot be encoded. -/
  | unencodable (error : String)

namespace Text.WideText

def inner (opening : String) (cs : WideText) : WideText := (cs.drop opening.length).dropLast

end Text.WideText

/-! ## Literals -/

namespace Literal

def unquoteWide? : WideText → Option WideText
  | .char '"' :: cs => if cs.getLast? = some (.char '"') then some cs.dropLast else none
  | _ => none

/-- The value that a token denotes. Where it is not quoted, a surrogate is as good as any other
character that no number has. -/
def readWide (token : WideText) : Except LiteralFault (Value WideText) :=
  match unquoteWide? token with
  | some cs => .ok (.str cs)
  | none => (read (String.ofList token.shadow)).map Value.widen

end Literal

namespace LiteralFault

/-- The problem that a fault of a token is reported as, with the token itself wherever its shadow
was read. -/
def wideProblem (token : WideText) (fault : LiteralFault) : Problem WideText :=
  let telling (message : WideText) (error : Option (List Char)) : Problem WideText :=
    (Problem.literal none none).retold message
      ((.ofString "token", .str token) ::
        match error with
        | some cs => [(.ofString "error", .str (cs.map .char))]
        | none => [])
  match fault with
  | empty => telling (.ofString "Empty literal") none
  | notDouble =>
    telling (token ++ .ofString " could not convert to float")
      (some ("could not convert string to float: ".toList ++ quotedWide token))
  | notInteger base numeral fault =>
    let shown := if base = 0 then quotedWide token else (quoted numeral).toList
    telling (token ++ .ofString " could not convert to int")
      (some (numeralReason base shown fault).toList)
  | outOfRange => telling (token ++ .ofString " is out of 32-bit integer range") none

end LiteralFault

namespace Condition

/-! ## Encoding -/

/-- The first row of surrogates in a text: the position of its first and of its last member. -/
def surrogates (cs : WideText) : Nat × Nat :=
  let first := (cs.takeWhile fun p => p.char?.isSome).length
  (first, first + ((cs.drop first).takeWhile fun p => p.char?.isNone).length - 1)

def encodingError (cs : WideText) : String :=
  let (first, last) := surrogates cs
  let place :=
    if first = last then
      let escape := ((cs.drop first).take 1).flatMap (quotedCodePoint '\x27')
      s!"character '{String.ofList escape}' in position {first}"
    else s!"characters in position {first}-{last}"
  s!"'utf-8' codec can't encode {place}: surrogates not allowed"

def expressionOf (template : WideText) : WideText :=
  WideText.trim (template.drop 2).dropLast.dropLast

/-! ## The three forms -/

def wideArguments? (body : WideText) : Option (List WideText) :=
  let arguments := (body.splitOn (.char ',')).map WideText.trim
  if [] ∈ arguments then none else some arguments

def wideSyntaxProblem (message text : WideText) : WideFault :=
  .fault (.problem ((Problem.conditionSyntax none none).retold message
    [(.ofString "condition", .str text)]))

def wideEmptyArgument (text : WideText) : WideFault :=
  wideSyntaxProblem (.ofString "Empty argument in condition") text

def wideExistOf (text body : WideText) : Except WideFault (Condition WideText) :=
  match wideArguments? body with
  | none => .error (wideEmptyArgument text)
  | some path => .ok { kind := .exist, source := text, path := path }

def wideEqOf (text body : WideText) : Except WideFault (Condition WideText) :=
  match wideArguments? body with
  | none => .error (wideEmptyArgument text)
  | some arguments =>
    match arguments.dropLast, arguments.getLast? with
    | segment :: path, some token =>
      match Literal.readWide token with
      | .ok v => .ok { kind := .eq, source := text, path := segment :: path, value := v }
      | .error fault => .error (.fault (.problem (fault.wideProblem token)))
    | _, _ =>
      .error (wideSyntaxProblem (.ofString "EQ needs at least one path segment and a value") text)

end Condition

/-! ## Widening -/

def Problem.widen (p : Problem) : Problem WideText :=
  p.retold (.ofString p.message) (Value.widenFields p.details)

namespace CompileFault

def widen : CompileFault → CompileFault WideText
  | problem p => .problem p.widen
  | nullCharacter => .nullCharacter
  | unwritable => .unwritable

end CompileFault

namespace Condition

/-- A condition on characters as one whose texts may hold surrogates. -/
def widen (c : Condition) : Condition WideText where
  kind := c.kind
  source := .ofString c.source
  path := c.path.map .ofString
  value := c.value.widen
  renderer := c.renderer
  expected := c.expected

def widenResult : Except CompileFault Condition → Except WideFault (Condition WideText)
  | .ok c => .ok c.widen
  | .error f => .error (.fault f.widen)

/-! ## Compiling -/

def wideTemplateOf (w : Wording) (text : WideText) : Except WideFault (Condition WideText) :=
  match text.string? with
  | some s => widenResult (templateOf (.standard w) s)
  | none => .error (.unencodable (encodingError (expressionOf text)))

def ofWideTrimmed (w : Wording) (text : WideText) : Except WideFault (Condition WideText) :=
  match form text.shadow with
  | .template => wideTemplateOf w text
  | .exist _ => wideExistOf text (text.inner "Exist(")
  | .eq _ => wideEqOf text (text.inner "EQ(")
  | .unknown =>
    .error (wideSyntaxProblem (.ofString "could not build condition from " ++ text) text)

/-- The condition that a text denotes, or why it denotes none. -/
def ofWideText (w : Wording) (text : WideText) : Except WideFault (Condition WideText) :=
  ofWideTrimmed w text.trim

end Condition

end EventSieve
