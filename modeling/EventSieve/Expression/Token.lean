import EventSieve.Expression.Tree

/-!
# Tokens

The words, numbers, texts and signs of a template, with the breaks and indents of
its lines.
-/

namespace EventSieve.Expression

/-- What the letters before a text say about it. -/
structure TextForm where
  raw : Bool
  bytes : Bool
  formatted : Bool
deriving DecidableEq

inductive Token where
  /-- A name or a keyword, as it is written. -/
  | word (text : String)
  /-- A number. -/
  | number (value : Constant)
  /-- The characters between quotes, with their escapes. -/
  | text (form : TextForm) (body : List Char)
  /-- An operator or a delimiter. -/
  | sign (text : String)
  /-- The end of a line. -/
  | lineEnd
  /-- A line begins further in than the one before. -/
  | indent
  /-- A line begins less far in than the one before. -/
  | dedent

namespace Token

def keywords : List String := [
  "False", "None", "True", "and", "as", "assert", "async", "await", "break", "class", "continue",
  "def", "del", "elif", "else", "except", "finally", "for", "from", "global", "if", "import", "in",
  "is", "lambda", "nonlocal", "not", "or", "pass", "raise", "return", "try", "while", "with",
  "yield"]

def isKeyword (word : String) : Bool := keywords.contains word

/-- The operators and delimiters, the longer before the shorter. -/
def signs : List String := [
  "**=", "//=", ">>=", "<<=", "...",
  "!=", "%=", "&=", "**", "*=", "+=", "-=", "->", "//", "/=", ":=", "<<", "<=", "<>", "==", ">=",
  ">>", "@=", "^=", "|=",
  "%", "&", "(", ")", "*", "+", ",", "-", ".", "/", ":", ";", "<", "=", ">", "@", "[", "]", "^",
  "\x7b", "|", "\x7d", "~"]

end Token

end EventSieve.Expression
