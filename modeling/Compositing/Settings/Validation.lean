import Compositing.Log.Level
import Compositing.Settings.Options
import Compositing.Text.Character

/-! # Which options make sense, and the form they are brought into -/

namespace Compositing

inductive InvalidOption where
  | level (given : String)
  | format (given : String)
  | maxFps (given : UInt32)
  | refreshRate (given : UInt32)
  | blankTime (given : UInt32)
deriving DecidableEq

def InvalidOption.message : InvalidOption → String
  | .level given =>
    "Invalid log level: '" ++ given ++ "'. Must be one of trace, debug, info, warn, error."
  | .format given => "Invalid log format: '" ++ given ++ "'. Must be one of text, json."
  | .maxFps given => "Invalid max_fps: " ++ toString given ++ ". Must be within 1..=1000."
  | .refreshRate given =>
    "Invalid refresh_rate: " ++ toString given ++ ". Must be 0 (auto) or at most 1000."
  | .blankTime given =>
    "Invalid vblank_time_us: " ++ toString given ++ ". Must be below one second."

namespace Settings

def validate (o : Settings) : Except InvalidOption Settings := do
  let level := Text.lowercase o.logging.level
  let format := Text.lowercase o.logging.format
  unless (LogLevel.ofName? level).isSome do throw (.level o.logging.level)
  unless (LogFormat.ofName? format).isSome do throw (.format o.logging.format)
  let c := o.compositing
  unless 1 ≤ c.maxFps ∧ c.maxFps ≤ 1000 do throw (.maxFps c.maxFps)
  unless c.refreshRate ≤ 1000 do throw (.refreshRate c.refreshRate)
  unless c.blankTimeMicros < 1000000 do throw (.blankTime c.blankTimeMicros)
  let shortcut? := c.suspendShortcut?.filter (!Text.allBlank ·)
  return {
    logging := { o.logging with level := level, format := format }
    compositing := { c with suspendShortcut? := shortcut? } }

end Settings

end Compositing
