/-! # Reading a text from the front, with a second try from the same place -/

namespace Compositing.Toml

abbrev Reader := StateT (List Char) Option

namespace Reader

def next : Reader Char := fun
  | [] => none
  | c :: cs => some (c, cs)

/-- The next character, which stays. -/
def peek? : Reader (Option Char) := do return (← get).head?

def one (p : Char → Bool) : Reader Char := do
  let c ← next
  guard (p c)
  return c

def char (c : Char) : Reader Unit := do let _ ← one (· == c)

def text (s : String) : Reader Unit := s.toList.forM char

def run (p : Char → Bool) : Reader (List Char) := fun cs => some (cs.span p)

def run1 (p : Char → Bool) : Reader (List Char) := do
  let cs ← run p
  guard !cs.isEmpty
  return cs

def exactly (n : Nat) (p : Char → Bool) : Reader (List Char) := fun cs =>
  let taken := (cs.take n).takeWhile p
  if taken.length = n then some (taken, cs.drop n) else none

def atEnd : Reader Unit := do guard (← get).isEmpty

def upTo (r : Reader α) : Nat → Reader (List α)
  | 0 => pure []
  | n + 1 => (do let a ← r; return a :: (← upTo r n)) <|> pure []

/-- As often as possible; the reader must take at least one character each time. -/
def many (r : Reader α) : Reader (List α) := do upTo r (← get).length

def separated (item : Reader α) (separator : Reader Unit) : Reader (List α) := do
  return (← item) :: (← many (separator *> item))

end Reader

/-- The characters that may stand in a line: all but the control characters other than the
tabulator. -/
def isVisible (c : Char) : Bool := c == '\t' || (0x20 ≤ c.val && c.val != 0x7f)

def isSpace (c : Char) : Bool := c == ' ' || c == '\t'

def spaces : Reader Unit := do let _ ← Reader.run isSpace

def newline : Reader Unit := Reader.char '\n' <|> Reader.text "\r\n"

def comment : Reader Unit := do
  Reader.char '#'
  let _ ← Reader.run isVisible

def lineEnd : Reader Unit := do
  spaces
  let _ ← optional comment
  newline <|> Reader.atEnd

def gap : Reader Unit := do
  let _ ← Reader.many ((do let _ ← Reader.run1 isSpace) <|> newline <|> comment)

end Compositing.Toml
