import Compositing.Renderer.Scene
import Compositing.Settings.Mismatch

/-! # What can go wrong, with a message and the messages of its causes -/

namespace Compositing

inductive StartError where
  | display (cause : DisplayError)
  | scene (cause : SceneError)
  | selectionClaim (selection : String) (cause : DisplayError)
deriving DecidableEq

namespace StartError

def message : StartError → String
  | .display cause => "Display error: " ++ cause.message
  | .scene cause => "Scene error: " ++ cause.message
  | .selectionClaim selection _ =>
    "Could not claim compositing manager selection " ++ selection

def causes : StartError → List String
  | .display cause => [cause.message]
  | .scene cause => [cause.message]
  | .selectionClaim _ cause => [cause.message]

end StartError

inductive SettingsError where
  | unreadable (path cause : String)
  | malformed
  | mismatch (m : Mismatch)
  | invalid (reason : String)
  | noBaseDirectory (purpose : String)
deriving DecidableEq

namespace SettingsError

def message : SettingsError → String
  | .unreadable path _ => "Failed to read configuration file from " ++ Text.quoted path
  | .malformed => "Failed to parse configuration file"
  | .mismatch m => "Failed to parse configuration file: " ++ m.message
  | .invalid reason => "Configuration validation failed: " ++ reason
  | .noBaseDirectory purpose => "Could not determine base directory for " ++ purpose

def causes : SettingsError → List String
  | .unreadable _ cause => [cause]
  | .mismatch m => [m.message]
  | _ => []

end SettingsError

inductive LogError where
  | setup (reason : String)
  | filter (reason : String)
  | io (cause : String)
deriving DecidableEq

namespace LogError

def message : LogError → String
  | .setup reason => "Failed to initialize logging: " ++ reason
  | .filter reason => "Failed to set log filter: " ++ reason
  | .io cause => "Logging I/O error: " ++ cause

def causes : LogError → List String
  | .io cause => [cause]
  | _ => []

end LogError

/-- Why the ground that the compositor stands on could not be prepared. -/
inductive GroundError where
  | settings (cause : SettingsError)
  | log (cause : LogError)
  | files (what path cause : String)
  | io (cause : String)
deriving DecidableEq

namespace GroundError

def message : GroundError → String
  | .settings cause => "Configuration Error: " ++ cause.message
  | .log cause => "Logging Initialization Failed: " ++ cause.message
  | .files what path _ => "Filesystem Error: " ++ what ++ " (Path: " ++ Text.quoted path ++ ")"
  | .io cause => "I/O Error: " ++ cause

def causes : GroundError → List String
  | .settings cause => cause.message :: cause.causes
  | .log cause => cause.message :: cause.causes
  | .files _ _ cause => [cause]
  | .io cause => [cause]

end GroundError

inductive Failure where
  | start (cause : StartError)
  | ground (cause : GroundError)
  | io (cause : String)
deriving DecidableEq

namespace Failure

def message : Failure → String
  | .start cause => cause.message
  | .ground cause => "Core error: " ++ cause.message
  | .io cause => "I/O error: " ++ cause

def causes : Failure → List String
  | .start cause => cause.causes
  | .ground cause => cause.message :: cause.causes
  | .io cause => [cause]

end Failure

end Compositing
