import Compositing.Log.Setup
import Compositing.Service
import Compositing.Settings.Loading

/-! # The command, which turns the loop for each line of the standard input -/

namespace Compositing.Command

def environment : IO Surroundings := do
  return {
    home := (← IO.getEnv "HOME").getD "/"
    configHome? := ← IO.getEnv "XDG_CONFIG_HOME"
    stateHome? := ← IO.getEnv "XDG_STATE_HOME"
    systemSettings := (← IO.getEnv "NOVADE_SYSTEM_CONFIG").getD "/etc/novade/config.toml" }

def look (t : FileTree) (p : String) : IO FileTree := do
  try
    return t.put p (← IO.FS.readBinFile p)
  catch
    | .noFileOrDirectory .. => return t
    | .inappropriateType .. => return t.withDirectory p
    | _ => return t.put p (ByteArray.mk #[0xff])

def options (e : Surroundings) : IO (Except GroundError Settings) := do
  let before ← look (← look FileTree.empty e.systemSettings) e.userSettings
  let (loaded, after) := Settings.load e before
  for directory in after.directoriesBelow [] do
    unless (before.directoriesBelow []).contains directory do
      try
        IO.FS.createDirAll ("/" ++ directory)
      catch error =>
        return .error (.files "Failed to create directory" ("/" ++ directory) (toString error))
  return loaded

def write (s : Service) (records : List LogRecord) : IO Unit := do
  let stream ← match s.sink.stream with
    | .output => IO.getStdout
    | .error => IO.getStderr
  for r in s.kept records do
    let text := match s.sink.format with
      | .text => r.line
      | .json => r.objectLine
    stream.putStrLn (r.level.label ++ " " ++ text)
  stream.flush

partial def loop (input : IO.FS.Stream) (s : Service) : IO Service := do
  let (s, records) := s.settle 500
  write s records
  if (← input.getLine).isEmpty then return s
  loop input s

def run : IO Unit := do
  let (s, records) := Service.start (← options (← environment)) (← IO.getEnv "RUST_LOG")
  write s records
  let (s, records) := (← loop (← IO.getStdin) s).stop
  write s records

end Compositing.Command

def main : IO Unit := Compositing.Command.run
