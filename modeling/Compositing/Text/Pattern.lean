import Compositing.Text.Alphanumeric
import Compositing.Text.Pattern.Atom

/-!
# Which texts are regular expressions

Of what is read, only the depths are kept, and what is open. Counts of repetitions are no part of
these patterns, so an opening brace stands for itself only behind a backslash or in a set.
-/

namespace Compositing.Text

/-- How deep things lie that stand in a row, where each has things below it to a depth. -/
def rowDepth : List Nat → Nat
  | [] => 0
  | [depth] => depth
  | depths => 1 + depths.foldl max 0

structure PatternSet where
  /-- Nothing but dashes stands behind its bracket. -/
  fresh : Bool
  /-- How deep the left side of an operator is, if there is one. -/
  left? : Option Nat
  /-- How deep its members are, or those on the right side, the last first. -/
  members : List Nat

namespace PatternSet

def opened : PatternSet := ⟨true, none, []⟩

def depth (s : PatternSet) : Nat :=
  match s.left? with
  | none => rowDepth s.members
  | some left => 1 + max left (rowDepth s.members)

def add (depth : Nat) (s : PatternSet) : PatternSet := { s with members := depth :: s.members }

def combine (s : PatternSet) : PatternSet := ⟨false, some s.depth, []⟩

end PatternSet

structure PatternScope where
  flags : PatternFlags
  /-- How deep the alternatives are that came before, the last first. -/
  alternatives : List Nat
  /-- How deep the parts of the present one are, the last first. -/
  parts : List Nat
  repeatable : Bool

namespace PatternScope

def opened (f : PatternFlags) : PatternScope := ⟨f, [], [], false⟩

def depth (s : PatternScope) : Nat := rowDepth (rowDepth s.parts :: s.alternatives)

def add (depth : Nat) (s : PatternScope) : PatternScope :=
  { s with parts := depth :: s.parts, repeatable := true }

def alternate (s : PatternScope) : PatternScope :=
  { opened s.flags with alternatives := rowDepth s.parts :: s.alternatives }

def repeat? (s : PatternScope) : Option PatternScope :=
  match s.repeatable, s.parts with
  | true, depth :: parts => some { s with parts := (1 + depth) :: parts }
  | _, _ => none

def switch (letters : List Char) (s : PatternScope) : PatternScope :=
  { s with flags := s.flags.switch letters, parts := 0 :: s.parts, repeatable := false }

end PatternScope

structure PatternOutline where
  scope : PatternScope
  /-- The scopes around it, the nearest first. -/
  outer : List PatternScope
  /-- The sets that are open, the innermost first. -/
  sets : List PatternSet
  names : List String

/-- What was read and what is left to read, unless that is no pattern. -/
abbrev PatternStep := Option (PatternOutline × List Char)

namespace PatternOutline

def start : PatternOutline := ⟨.opened .standard, [], [], []⟩

def flags (o : PatternOutline) : PatternFlags := o.scope.flags

def enter (o : PatternOutline) (f : PatternFlags) : PatternOutline :=
  { o with scope := .opened f, outer := o.scope :: o.outer }

def enterNamed (o : PatternOutline) (cs : List Char) : PatternStep := do
  let (name, rest) := cs.span (· != '>')
  let isNext (c : Char) : Bool := isAlphanumeric c || "_.[]".contains c
  guard (name.head?.any (fun c => c == '_' || isAlphabetic c) && name.all isNext)
  guard (!rest.isEmpty && !o.names.contains (String.ofList name))
  return (({ o with names := String.ofList name :: o.names }).enter o.flags, rest.tail)

def openGroup (o : PatternOutline) : List Char → PatternStep
  | '?' :: 'P' :: '<' :: cs => o.enterNamed cs
  | '?' :: '<' :: cs => o.enterNamed cs
  | '?' :: cs => do
    let (letters, rest) := cs.span fun c => c != ':' && c != ')'
    guard (PatternFlags.areSwitches letters)
    match rest with
    | ':' :: rest => return (o.enter (o.flags.switch letters), rest)
    | ')' :: rest =>
      guard !letters.isEmpty
      return ({ o with scope := o.scope.switch letters }, rest)
    | _ => none
  | cs => return (o.enter o.flags, cs)

def closeGroup (o : PatternOutline) : Option PatternOutline :=
  match o.outer with
  | [] => none
  | s :: outer => some { o with scope := s.add (1 + o.scope.depth), outer := outer }

def openSet (o : PatternOutline) (cs : List Char) : PatternStep :=
  let opened := { o with sets := .opened :: o.sets }
  match o.flags.skip cs with
  | '^' :: rest => if o.flags.unicode then some (opened, rest) else none
  | rest => some (opened, rest)

/-- The outline behind the end of the set `s`, which lies in the sets `around`. -/
def closeSet (o : PatternOutline) (s : PatternSet) (around : List PatternSet) : PatternOutline :=
  match around with
  | [] => { o with scope := o.scope.add (1 + s.depth), sets := [] }
  | t :: around => { o with sets := t.add (1 + s.depth) :: around }

def setNames : List String :=
  ["alnum", "alpha", "ascii", "blank", "cntrl", "digit", "graph", "lower", "print", "punct",
    "space", "upper", "word", "xdigit"]

def namedSet? : List Char → Option (PatternAtom × List Char)
  | ':' :: cs =>
    let negated := cs.head? == some '^'
    let (name, rest) := (if negated then cs.tail else cs).span (· != ':')
    match rest with
    | ':' :: ']' :: rest =>
      if setNames.contains (String.ofList name) then some (.named negated, rest) else none
    | _ => none
  | _ => none

/-- One member of a set, or a range of characters. A dash begins a range unless a bracket or
another dash follows it. -/
def member (f : PatternFlags) (cs : List Char) : Option (List Char) := do
  let (low, rest) ← PatternAtom.read f cs
  guard (f.allowsMember low)
  match f.skip rest with
  | '-' :: rest =>
    if (f.peek? rest).any fun c => c == ']' || c == '-' then return '-' :: rest
    let (high, rest) ← PatternAtom.read f (f.skip rest)
    guard (f.allowsMember high)
    match low, high with
    | .char low _, .char high _ =>
      guard (low ≤ high)
      return rest
    | _, _ => none
  | rest => return rest

def stepInSet (o : PatternOutline) (s : PatternSet) (around : List PatternSet) (c : Char)
    (cs : List Char) : PatternStep := do
  let put (s : PatternSet) : PatternOutline := { o with sets := s.add 0 :: around }
  if s.fresh && (c == '-' || c == ']' && s.members.isEmpty) then
    guard (o.flags.allowsMember (.char c false))
    return (put { s with fresh := c == '-' }, cs)
  let s := { s with fresh := false }
  if c == ']' then return (o.closeSet s around, cs)
  else if c == '[' then
    match namedSet? cs with
    | some (a, rest) =>
      guard (o.flags.allowsMember a)
      return (put s, rest)
    | none => ({ o with sets := s :: around }).openSet cs
  else if "&-~".contains c && cs.head? == some c then
    return ({ o with sets := s.combine :: around }, cs.tail)
  else return (put s, ← member o.flags (c :: cs))

def stepOutside (o : PatternOutline) (c : Char) (cs : List Char) : PatternStep := do
  match c with
  | '(' => o.openGroup (o.flags.skip cs)
  | ')' => return (← o.closeGroup, cs)
  | '|' => return ({ o with scope := o.scope.alternate }, cs)
  | '[' => o.openSet cs
  | '*' | '+' | '?' =>
    return ({ o with scope := ← o.scope.repeat? }, if cs.head? = some '?' then cs.tail else cs)
  | '{' => none
  | '.' =>
    guard o.flags.unicode
    return ({ o with scope := o.scope.add 0 }, cs)
  | '^' | '$' => return ({ o with scope := o.scope.add 0 }, cs)
  | c =>
    let (a, rest) ← PatternAtom.read o.flags (c :: cs)
    guard (o.flags.allows a)
    return ({ o with scope := o.scope.add 0 }, rest)

def finish? (o : PatternOutline) (cs : List Char) (limit : Nat) : Option PatternOutline :=
  match o.flags.skip cs, limit with
  | [], _ => some o
  | _, 0 => none
  | c :: cs, limit + 1 => do
    let (o, rest) ← match o.sets with
      | s :: around => o.stepInSet s around c cs
      | [] => o.stepOutside c cs
    o.finish? rest limit

def isComplete (o : PatternOutline) : Bool :=
  o.outer.isEmpty && o.sets.isEmpty && decide (o.scope.depth ≤ 250)

end PatternOutline

def isPattern (s : String) : Bool :=
  (PatternOutline.start.finish? s.toList s.length).any (·.isComplete)

end Compositing.Text
