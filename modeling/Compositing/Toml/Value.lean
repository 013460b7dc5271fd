/-! # Values of a settings document, whose tables list their keys as written -/

namespace Compositing.Toml

structure Date where
  year : Nat
  month : Nat
  day : Nat
deriving DecidableEq

structure Time where
  hour : Nat
  minute : Nat
  second : Nat
  nanosecond : Nat
deriving DecidableEq

inductive Offset where
  | zero
  /-- In minutes, eastward. -/
  | by (minutes : Int)
deriving DecidableEq

inductive Moment where
  | date (d : Date)
  | time (t : Time)
  | dateTime (d : Date) (t : Time) (o : Option Offset)
deriving DecidableEq

inductive Value where
  | string (s : String)
  | integer (n : Int)
  | float (f : Float)
  | boolean (b : Bool)
  | moment (m : Moment)
  | array (items : List Value)
  /-- An array of tables, each written under a header of its own. -/
  | tables (items : List (List (String × Value)))
  | table (entries : List (String × Value))

abbrev Table := List (String × Value)

def padded (width n : Nat) : String :=
  let digits := Nat.toDigits 10 n
  String.ofList (List.replicate (width - digits.length) '0' ++ digits)

def Date.text (d : Date) : String :=
  padded 4 d.year ++ "-" ++ padded 2 d.month ++ "-" ++ padded 2 d.day

/-- Parts of a second are written without zeros at the end. -/
def Time.text (t : Time) : String :=
  let fraction := ((padded 9 t.nanosecond).toList.reverse.dropWhile (· == '0')).reverse
  padded 2 t.hour ++ ":" ++ padded 2 t.minute ++ ":" ++ padded 2 t.second ++
    if t.nanosecond = 0 then "" else "." ++ String.ofList fraction

def Offset.text : Offset → String
  | .zero => "Z"
  | .by minutes =>
    (if minutes < 0 then "-" else "+") ++ padded 2 (minutes.natAbs / 60) ++ ":" ++
      padded 2 (minutes.natAbs % 60)

def Moment.text : Moment → String
  | .date d => d.text
  | .time t => t.text
  | .dateTime d t o => d.text ++ "T" ++ t.text ++ (o.map Offset.text).getD ""

def Value.kind : Value → String
  | .string _ => "string"
  | .integer _ => "integer"
  | .float _ => "float"
  | .boolean _ => "boolean"
  | .moment _ => "datetime"
  | .array _ | .tables _ => "array"
  | .table _ => "table"

end Compositing.Toml
