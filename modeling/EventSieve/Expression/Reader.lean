import EventSieve.Expression.Token
import EventSieve.Text.Normal

/-!
# Readers

A reader takes tokens off the front of a row and gives what they denote, or fails.
-/

namespace EventSieve.Expression

/-- What is read off the front of a row of tokens. -/
abbrev Reader (α : Type) := StateT (List Token) Option α

namespace Reader

def refuse {α : Type} : Reader α := fun _ => none

def nextIs (p : Token → Bool) : Reader Bool := fun ts => some ((ts.head?.map p).getD false, ts)

def isSign (sign : String) : Token → Bool
  | .sign text => text == sign
  | _ => false

def isWord (word : String) : Token → Bool
  | .word text => text == word
  | _ => false

/-- The next token is taken if it has a property; the answer says whether it was. -/
def accept (p : Token → Bool) : Reader Bool := fun ts =>
  match ts with
  | t :: rest => if p t then some (true, rest) else some (false, ts)
  | [] => some (false, [])

def expect (p : Token → Bool) : Reader Unit := fun ts =>
  match ts with
  | t :: rest => if p t then some ((), rest) else none
  | [] => none

def acceptSign (sign : String) : Reader Bool := accept (isSign sign)

def acceptWord (word : String) : Reader Bool := accept (isWord word)

def expectSign (sign : String) : Reader Unit := expect (isSign sign)

def expectWord (word : String) : Reader Unit := expect (isWord word)

/-- A name: a word that is no keyword, in its normal form. -/
def identifier : Reader String := fun ts =>
  match ts with
  | .word text :: rest =>
    if Token.isKeyword text then none else some (Text.normalForm text, rest)
  | _ => none

def nextIsNameThen (sign : String) : Reader Bool := fun ts =>
  match ts with
  | .word text :: .sign s :: _ => some (!Token.isKeyword text && s == sign, ts)
  | _ => some (false, ts)

/-- A step is repeated until it gives nothing more. The fuel bounds the repetitions. -/
def repeated {α : Type} (step : α → Reader (Option α)) : (fuel : Nat) → α → Reader α
  | 0, _ => refuse
  | fuel + 1, a => do
    match ← step a with
    | some b => repeated step fuel b
    | none => pure a

/-- Items with commas between them, after those already read, last first. Another item
follows a comma if the next token may begin one; the answer says whether a comma
came last. -/
def separated {α : Type} (begins : Token → Bool) (item : Reader α) :
    (fuel : Nat) → List α → Reader (List α × Bool)
  | 0, _ => refuse
  | fuel + 1, found => do
    let found := (← item) :: found
    if ← acceptSign "," then
      if ← nextIs begins then separated begins item fuel found
      else pure (found.reverse, true)
    else pure (found.reverse, false)

def orElse {α : Type} (first second : Reader α) : Reader α := fun ts =>
  match first ts with
  | some result => some result
  | none => second ts

end Reader

end EventSieve.Expression
