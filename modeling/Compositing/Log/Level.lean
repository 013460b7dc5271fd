import Compositing.Text.Lowercase

/-! # How grave a log record is -/

namespace Compositing

inductive LogLevel where
  | trace
  | debug
  | info
  | warn
  | error
deriving DecidableEq, Inhabited

namespace LogLevel

def all : List LogLevel := [.trace, .debug, .info, .warn, .error]

def name : LogLevel → String
  | .trace => "trace"
  | .debug => "debug"
  | .info => "info"
  | .warn => "warn"
  | .error => "error"

def label : LogLevel → String
  | .trace => "TRACE"
  | .debug => "DEBUG"
  | .info => "INFO"
  | .warn => "WARN"
  | .error => "ERROR"

def ofName? (s : String) : Option LogLevel := all.find? (·.name == s)

def ofText? (s : String) : Option LogLevel := ofName? (Text.lowercase s)

def gravity : LogLevel → Nat
  | .trace => 0
  | .debug => 1
  | .info => 2
  | .warn => 3
  | .error => 4

def keeps (least l : LogLevel) : Bool := least.gravity ≤ l.gravity

end LogLevel

inductive LogFormat where
  | text
  | json
deriving DecidableEq, Inhabited

namespace LogFormat

def all : List LogFormat := [.text, .json]

def name : LogFormat → String
  | .text => "text"
  | .json => "json"

def ofName? (s : String) : Option LogFormat := all.find? (·.name == s)

end LogFormat

end Compositing
