import Compositing.Log.Record
import Compositing.Text.Alphanumeric
import Compositing.Text.Character
import Compositing.Text.Pattern

/-!
# Directives of a log filter

A directive is a text of the form `origin[span{field=value}]=level`, in which most parts may be
missing. Records are kept outside spans, so a directive that names a span or a value concerns none,
but it still has to be well formed.
-/

namespace Compositing

/-- The lowest level kept, or none at all. -/
abbrev Threshold := Option LogLevel

namespace Threshold

def all : List Threshold := [none, some .error, some .warn, some .info, some .debug, some .trace]

def name (t : Threshold) : String := (t.map LogLevel.name).getD "off"

def keeps (t : Threshold) (l : LogLevel) : Bool := t.any (·.keeps l)

def number? (s : String) : Option Nat :=
  let digits := match s.toList with
    | '+' :: cs => cs
    | cs => cs
  if digits.isEmpty || !digits.all Char.isDigit then none
  else some (digits.foldl (fun n c => 10 * n + (c.toNat - '0'.toNat)) 0)

def ofText? (s : String) : Option Threshold :=
  match number? s with
  | some n => all[n]?
  | none => all.find? (·.name == s.map Char.toLower)

end Threshold

structure LogDirective where
  origin : String
  field? : Option String
  spansOnly : Bool
  threshold : Threshold
deriving DecidableEq

namespace LogDirective

def general (t : Threshold) : LogDirective := ⟨"", none, false, t⟩

def isInitial (c : Char) : Bool := c == '-' || c == ':' || c == '_' || Text.isAlphanumeric c

/-- The first one of the given characters in a text: how many bytes stand before it, which one it
is, and what stands behind it. -/
def split? (marks : List Char) : List Char → Option (Nat × Char × List Char)
  | [] => none
  | c :: cs =>
    if marks.contains c then some (0, c, cs)
    else (split? marks cs).map fun (n, mark, rest) => (c.utf8Size + n, mark, rest)

def isNumeral (cs : List Char) : Bool :=
  let isExponent : List Char → Bool
    | [] => true
    | c :: cs =>
      let digits := if cs.head? = some '+' || cs.head? = some '-' then cs.drop 1 else cs
      (c == 'e' || c == 'E') && !digits.isEmpty && digits.all Char.isDigit
  let (mantissa, rest) := cs.span fun c => c.isDigit || c == '.'
  ["inf", "infinity", "nan"].contains ((String.ofList cs).map Char.toLower) ||
    (mantissa.any Char.isDigit && mantissa.count '.' ≤ 1 && isExponent rest)

/-- Whether a text can be the value of a field: a pattern, or a numeral with a plus sign, which is
none. -/
def isValue (s : String) : Bool :=
  Text.isPattern s || (s.startsWith "+" && isNumeral (s.toList.drop 1))

def fieldOfText? (s : String) : Option (String × Bool) :=
  match s.splitOn "=" with
  | name :: value :: _ => if isValue value then some (name, true) else none
  | _ => if s.isEmpty then none else some (s, false)

/-- The directive that a text stands for. Blanks around it count only in that its parts are cut out
of the text with the blanks, at the places that they have in the text without. -/
def ofText? (given : String) : Option LogDirective := do
  let part (start stop : Nat) : Option String :=
    String.fromUTF8? (given.toUTF8.extract start stop)
  let threshold (start : Nat) : Option Threshold := do
    let s ← part start given.utf8ByteSize
    if s.isEmpty then some (some .trace) else Threshold.ofText? s
  -- the end of a directive with brackets, from the place behind them on
  let ending (place : Nat) : List Char → Option Threshold
    | [] => some (some .trace)
    | c :: _ => if c = '=' then threshold (place + 1) else none
  let cs := (Text.trim given).toList
  let first ← cs.head?
  guard (first == '[' || isInitial first)
  let some (n, mark, cs) := split? ['=', '['] cs
    | match Threshold.ofText? given with
      | some t => return general t
      | none => return ⟨given, none, false, some .trace⟩
  let origin ← part 0 n
  if mark = '=' then return ⟨origin, none, false, ← threshold (n + 1)⟩
  let start := n + 1
  let (n, mark, cs) ← split? [']', '\x7b'] cs
  let span ← part start (start + n)
  if mark = ']' then return ⟨origin, none, true, ← ending (start + n + 1) cs⟩
  let start := start + n + 1
  let (n, _, cs) ← split? ['\x7d'] cs
  let (name, hasValue) ← fieldOfText? (← part start (start + n))
  guard (cs.head? = some ']')
  let t ← ending (start + n + 2) (cs.drop 1)
  return ⟨origin, some name, hasValue || !span.isEmpty, t⟩

def concerns (d : LogDirective) (r : LogRecord) : Bool :=
  !d.spansOnly && d.origin.isPrefixOf r.origin &&
    d.field?.all fun name => r.object.any (·.1 == name)

def saysLess : Option String → Option String → Bool
  | _, none => false
  | none, some _ => true
  | some a, some b => a < b

/-- Of two directives that concern a record the one that decides: the second one, unless it says
less about the record. -/
def stronger (a b : LogDirective) : LogDirective :=
  if b.origin.length < a.origin.length then a
  else if b.origin.length = a.origin.length && saysLess b.field? a.field? then a
  else b

/-- The directives that a text with commas between them stands for. None at all are one that keeps
errors only. -/
def listOfText? (s : String) : Option (List LogDirective) := do
  match ← ((s.splitOn ",").filter (!·.isEmpty)).mapM ofText? with
  | [] => return [general (some .error)]
  | ds => return ds

end LogDirective

end Compositing
