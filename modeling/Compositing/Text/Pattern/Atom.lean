import Compositing.Text.Character

/-!
# The smallest parts of a pattern

A pattern is matched without tables of characters, so letters of either case, kinds of characters
and ends of words are there only where a pattern speaks of bytes.
-/

namespace Compositing.Text

structure PatternFlags where
  anyCase : Bool
  unicode : Bool
  spaced : Bool
deriving DecidableEq

inductive PatternAtom where
  | char (c : Char) (asByte : Bool)
  | kind (negated : Bool)
  | named (negated : Bool)
  | edge (ofWord : Bool)
deriving DecidableEq

/-- The rest of a text behind blanks and comments; a comment goes to the end of its line. -/
def skipComments (inComment : Bool) : List Char → List Char
  | [] => []
  | c :: cs =>
    if inComment then skipComments (c != '\n') cs
    else if isBlank c then skipComments false cs
    else if c == '#' then skipComments true cs
    else c :: cs

namespace PatternFlags

def standard : PatternFlags := ⟨false, true, false⟩

/-- Whether some letters switch flags: each has a meaning, none stands twice, and a dash does
not come last. -/
def areSwitches (letters : List Char) : Bool :=
  letters.all (fun c => "imsUuRx-".contains c) && decide letters.Nodup && letters.getLast? != some '-'

/-- Switches flags on, and those behind a dash off. -/
def switch (f : PatternFlags) (letters : List Char) : PatternFlags :=
  let (on, off) := letters.span (· != '-')
  let value (letter : Char) (now : Bool) := on.contains letter || now && !off.contains letter
  ⟨value 'i' f.anyCase, value 'u' f.unicode, value 'x' f.spaced⟩

def skip (f : PatternFlags) (cs : List Char) : List Char :=
  if f.spaced then skipComments false cs else cs

/-- The next character that says something behind the current one; the mark of a comment is
passed over by itself. -/
def peek? (f : PatternFlags) (cs : List Char) : Option Char :=
  if f.spaced then
    match cs.dropWhile isBlank with
    | '#' :: rest => (rest.dropWhile isBlank).head?
    | rest => rest.head?
  else cs.head?

def allows (f : PatternFlags) : PatternAtom → Bool
  | .char c asByte => if f.unicode then !f.anyCase else !asByte || c.val < 0x80
  | .kind negated | .named negated => !f.unicode && !negated
  | .edge ofWord => !(ofWord && f.unicode)

def allowsMember (f : PatternFlags) : PatternAtom → Bool
  | .char c _ => if f.unicode then !f.anyCase else c.val < 0x80
  | .kind negated => !f.unicode && !negated
  | .named negated => if f.unicode then !f.anyCase else !negated
  | .edge _ => false

end PatternFlags

namespace PatternAtom

def digits (f : PatternFlags) : Nat → List Char → Option (List Char × List Char)
  | 0, cs => some ([], cs)
  | n + 1, cs =>
    match f.skip cs with
    | [] => none
    | c :: rest =>
      if (hexDigit? c).isSome then (digits f n rest).map fun (ds, rest) => (c :: ds, rest)
      else none

/-- What a backslash and the characters behind it stand for. Before a mark it takes away the
meaning of the mark, and a letter needs a meaning. -/
def escaped (f : PatternFlags) : List Char → Option (PatternAtom × List Char)
  | [] => none
  | c :: cs =>
    let numbered (count : Nat) : Option (PatternAtom × List Char) := do
      let (ds, rest) ← digits f count cs
      return (.char (← character? (number 16 ds)) (count == 2), rest)
    match c with
    | 'x' => numbered 2
    | 'u' => numbered 4
    | 'U' => numbered 8
    | 'a' => some (.char '\x07' false, cs)
    | 't' => some (.char '\t' false, cs)
    | 'n' => some (.char '\n' false, cs)
    | 'v' => some (.char '\x0b' false, cs)
    | 'f' => some (.char '\x0c' false, cs)
    | 'r' => some (.char '\r' false, cs)
    | 'd' | 's' | 'w' => some (.kind false, cs)
    | 'D' | 'S' | 'W' => some (.kind true, cs)
    | 'A' | 'z' => some (.edge false, cs)
    | 'b' | 'B' | '<' | '>' => some (.edge true, cs)
    | c => if c.val < 0x80 && !c.isAlphanum then some (.char c false, cs) else none

def read (f : PatternFlags) : List Char → Option (PatternAtom × List Char)
  | [] => none
  | '\\' :: cs => escaped f cs
  | c :: cs => some (.char c false, cs)

end PatternAtom

end Compositing.Text
