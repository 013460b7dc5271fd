import Compositing.Log.Directive
import Compositing.Settings.Options

/-!
# Where log records go

Of the directives that concern a record the one with the longest origin decides; of several such
one that wants a field, and of those the last.
-/

namespace Compositing

inductive LogStream where
  | output
  | error
deriving DecidableEq

structure LogSink where
  stream : LogStream
  format : LogFormat
  directives : List LogDirective

namespace LogSink

def ofOptions (o : LoggingOptions) : LogSink where
  stream := .output
  format := (LogFormat.ofName? o.format).getD .text
  directives := [.general (some ((LogLevel.ofName? o.level).getD .info))]

/-- The directives of a filter. One that cannot be read, or none, keeps records from `info` on. -/
def filter (text? : Option String) : List LogDirective :=
  (text?.bind LogDirective.listOfText?).getD [.general (some .info)]

def minimal (filter? : Option String) : LogSink := ⟨.error, .text, filter filter?⟩

def keeps (s : LogSink) (r : LogRecord) : Bool :=
  match s.directives.filter (·.concerns r) with
  | [] => false
  | d :: ds => (ds.foldl LogDirective.stronger d).threshold.keeps r.level

end LogSink

end Compositing
