import Compositing.Toml.Draft
import Compositing.Toml.Scalar

/-! # Documents, line by line -/

namespace Compositing.Toml

open Reader

def splitLast (key : List String) : List String × String := (key.dropLast, key.getLastD "")

def assignment (value : Reader Value) : Reader (List String × Value) := do
  let key ← dottedKey
  char '='
  spaces
  return (key, ← value)

/-- The items of an array may spread over lines, with a comma behind the last one too. -/
def arrayOf (value : Reader Value) : Reader Value := do
  char '['
  let items ← optional (separated (gap *> value <* gap) (char ','))
  if items.isSome then
    let _ ← optional (char ',')
  gap
  char ']'
  return .array (items.getD [])

/-- A table within a line: no key twice, no comma behind the last one. -/
def inlineTable (value : Reader Value) : Reader Value := do
  char '{'
  let pairs ← optional (separated (assignment value <* spaces) (char ','))
  spaces
  char '}'
  let add (m : Members) (pair : List String × Value) : Option Members :=
    let (path, key) := splitLast pair.1
    m.assign path key pair.2
  let members : Members ← ((pairs.getD []).foldlM add [] : Option Members)
  return .table (Draft.entriesOf members)

def nested : Nat → Reader Value
  | 0 => scalar
  | depth + 1 => scalar <|> arrayOf (nested depth) <|> inlineTable (nested depth)

def value : Reader Value := nested (depthLimit - 1)

inductive Line where
  | assign (key : List String) (v : Value)
  | table (key : List String)
  | item (key : List String)
  | empty

def line : Reader Line :=
  (do comment; newline <|> atEnd; return .empty) <|> (do newline; return .empty) <|>
  (do text "[["; let key ← dottedKey; text "]]"; lineEnd; return .item key) <|>
  (do char '['; let key ← dottedKey; char ']'; lineEnd; return .table key) <|>
  (do let (key, v) ← assignment value; lineEnd; return .assign key v)

def lines : Reader (List Line) := do
  let _ ← optional (char '\ufeff')
  spaces
  let all ← many (line <* spaces)
  atEnd
  return all

structure Assembly where
  root : Members
  current : Members
  header : Option (List String)
  isItem : Bool

namespace Assembly

def start : Assembly := ⟨[], [], none, false⟩

def finished (d : Assembly) : Option Members :=
  match d.header with
  | none => some d.current
  | some header =>
    let (path, key) := splitLast header
    if d.isItem then d.root.closeItem path key d.current
    else d.root.closeTable path key d.current

def add (d : Assembly) : Line → Option Assembly
  | .empty => some d
  | .assign key v => do
    let (path, key) := splitLast key
    return { d with current := ← d.current.assign path key v }
  | .table header => do
    let (path, key) := splitLast header
    let (root, current) ← (← d.finished).openTable path key
    return ⟨root, current, some header, false⟩
  | .item header => do
    let (path, key) := splitLast header
    return ⟨← (← d.finished).openItem path key, [], some header, true⟩

end Assembly

def Table.ofText? (s : String) : Option Table := do
  let (all, _) ← lines s.toList
  let d ← all.foldlM Assembly.add Assembly.start
  return Draft.entriesOf (← d.finished)

end Compositing.Toml
