import Compositing.Log.Level
import Compositing.Text.Quoted

/-! # Log records, as lines of text and as objects -/

namespace Compositing

inductive LogValue where
  | number (n : Nat)
  | truth (b : Bool)
  | quoted (s : String)
  | plain (s : String)
deriving DecidableEq

structure LogRecord where
  level : LogLevel
  origin : String
  message : String
  fields : List (String × LogValue)
deriving DecidableEq

namespace LogRecord

def shown : LogValue → String
  | .number n => toString n
  | .truth b => if b then "true" else "false"
  | .quoted s => Text.quoted s
  | .plain s => s

def line (r : LogRecord) : String :=
  r.message ++ String.join (r.fields.map fun (name, value) => " " ++ name ++ "=" ++ shown value)

def object (r : LogRecord) : List (String × LogValue) := ("message", .plain r.message) :: r.fields

def objectLine (r : LogRecord) : String :=
  let entry (e : String × LogValue) : String := Text.escaped e.1 ++ ":" ++
    match e.2 with
    | .quoted s | .plain s => Text.escaped s
    | value => shown value
  "\x7b" ++ ",".intercalate (r.object.map entry) ++ "\x7d"

end LogRecord

end Compositing
