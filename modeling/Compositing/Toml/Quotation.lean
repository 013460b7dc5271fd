import Compositing.Text.Character
import Compositing.Toml.Cursor

/-!
# Quoted strings and keys

A backslash begins an escape between double quotes, and not between apostrophes.
-/

namespace Compositing.Toml

open Reader
open Text (hexDigit? number character?)

def characterByNumber (n : Nat) : Reader Char := do
  let c ← (character? (number 16 (← exactly n fun c => (hexDigit? c).isSome)) : Option Char)
  return c

def escape : Reader Char := do
  char '\\'
  match ← next with
  | 'b' => return '\x08'
  | 't' => return '\t'
  | 'n' => return '\n'
  | 'f' => return '\x0c'
  | 'r' => return '\r'
  | '"' => return '"'
  | '\\' => return '\\'
  | 'u' => characterByNumber 4
  | 'U' => characterByNumber 8
  | _ => failure

/-- A backslash at the end of a line hides the blanks and ends of lines behind it. -/
def hiddenBreak : Reader Unit := do
  char '\\'
  spaces
  newline
  let _ ← many ((do let _ ← run1 isSpace) <|> newline)

def piece (quote : Char) : Reader (List Char) :=
  if quote == '"' then
    run1 (fun c => isVisible c && c != '"' && c != '\\') <|> (do return [← escape])
  else run1 fun c => isVisible c && c != quote

def lineString (quote : Char) : Reader String := do
  char quote
  let pieces ← many (piece quote)
  char quote
  return String.ofList pieces.flatten

def innerQuotes (quote : Char) : Reader (List Char) := do
  let quotes ← run1 (· == quote)
  guard (quotes.length ≤ 2)
  return quotes

/-- A string of several lines. A line end at its very beginning does not count; up to two quotes
may stand right before the closing three. -/
def blockString (quote : Char) : Reader String := do
  let _ ← exactly 3 (· == quote)
  let _ ← optional newline
  let broken : Reader (List Char) := do newline; return ['\n']
  let joined : Reader (List Char) := do guard (quote == '"'); hiddenBreak; return []
  let pieces ← many (joined <|> piece quote <|> broken <|> innerQuotes quote)
  let closing ← run (· == quote)
  guard (3 ≤ closing.length && closing.length ≤ 5)
  return String.ofList (pieces.flatten ++ closing.drop 3)

def anyString : Reader String :=
  blockString '"' <|> lineString '"' <|> blockString '\'' <|> lineString '\''

def bareKey : Reader String := do
  return String.ofList (← run1 fun c => c.isAlphanum || c == '-' || c == '_')

def simpleKey : Reader String := do
  match ← peek? with
  | some '"' => lineString '"'
  | some '\'' => lineString '\''
  | _ => bareKey

/-- How deep values may be nested and how many parts a key may have, plus one. -/
def depthLimit : Nat := 80

def dottedKey : Reader (List String) := do
  let parts ← separated (spaces *> simpleKey <* spaces) (char '.')
  guard (parts.length < depthLimit)
  return parts

end Compositing.Toml
