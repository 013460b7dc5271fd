import Compositing.Files.Tree
import Compositing.Log.Level
import Compositing.Settings.Options

/-! # Setting up the log -/

namespace Compositing

inductive LogFault where
  | noDirectory
  | nameTooLong
deriving DecidableEq

namespace LogFault

def context : LogFault → String
  | .noDirectory => "failed to create log directory"
  | .nameTooLong => "failed to create initial log file"

def cause : LogFault → String
  | .noDirectory => "code: 17, kind: AlreadyExists, message: \"File exists\""
  | .nameTooLong => "code: 36, kind: InvalidFilename, message: \"File name too long\""

def message (f : LogFault) : String :=
  "initializing rolling file appender failed: InitError \x7b context: \"" ++ f.context ++
    "\", source: Os \x7b " ++ f.cause ++ " \x7d \x7d"

end LogFault

/-- What keeps the log file of a day from being opened, given the path that the options name: the
day is written behind the name. -/
def FileTree.logFault? (t : FileTree) (p : String) : Option LogFault :=
  match Path.parent? p with
  | none => none
  | some above =>
    let name := (Path.name? p).getD "compositor.log" ++ ".0000-00-00"
    if !t.isDirectory above then some .noDirectory
    else if nameable name && isUsable (Path.join above name) then none
    else some .nameTooLong

namespace LoggingOptions

/-- Directs the log to where the options say. A second log is refused unless it replaces the first
on purpose; the directory for its file is made before that turns out. -/
def setUp (o : LoggingOptions) (replacing present : Bool) (t : FileTree) :
    Except GroundError Unit × FileTree :=
  let refuse (reason : String) : Except GroundError Unit := .error (.log (.setup reason))
  match LogLevel.ofText? o.level with
  | none => (refuse ("Invalid log level in config: " ++ Text.lowercase o.level), t)
  | some _ =>
    match (o.file?.map t.prepareFile).getD (.ok (), t) with
    | (.error e, t) => (.error e, t)
    | (.ok (), t) =>
      if present && !replacing then
        (refuse ("Failed to set global tracing subscriber. Was it already initialized? " ++
          "Error: a global default trace dispatcher has already been set"), t)
      else (.ok (), t)

def fault? (o : LoggingOptions) (t : FileTree) : Option LogFault := do
  let file ← o.file?
  guard (LogLevel.ofText? o.level).isSome
  match t.prepareFile file with
  | (.ok (), t) => t.logFault? file
  | (.error _, _) => none

end LoggingOptions

end Compositing
