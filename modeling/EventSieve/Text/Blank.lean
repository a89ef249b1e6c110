/-!
# Blank characters and trimming

`isBlank` is the class of characters that count as white space around a
condition, a segment or a number: the spaces and separators of Unicode together
with the control characters that separate text. `trim` removes them from both ends of a text
and keeps all that stands between.
-/

namespace EventSieve.Text

/-- White space: the ASCII blanks and separators, the next-line and no-break
controls, and the space, line and paragraph separators of Unicode. -/
def isBlank (c : Char) : Bool :=
  let n := c.toNat
  (9 ≤ n && n ≤ 13) || (28 ≤ n && n ≤ 32) || n == 0x85 || n == 0xA0 || n == 0x1680
    || (0x2000 ≤ n && n ≤ 0x200A) || n == 0x2028 || n == 0x2029 || n == 0x202F
    || n == 0x205F || n == 0x3000

def trimStart (cs : List Char) : List Char := cs.dropWhile isBlank

def trimEnd (cs : List Char) : List Char := (cs.reverse.dropWhile isBlank).reverse

def trimChars (cs : List Char) : List Char := trimEnd (trimStart cs)

def trim (s : String) : String := String.ofList (trimChars s.toList)

@[simp] theorem trimStart_nil : trimStart [] = [] := rfl

@[simp] theorem trimEnd_nil : trimEnd [] = [] := rfl

@[simp] theorem trimChars_nil : trimChars [] = [] := rfl

theorem toList_trim (s : String) : (trim s).toList = trimChars s.toList := by
  simp [trim]

end EventSieve.Text
