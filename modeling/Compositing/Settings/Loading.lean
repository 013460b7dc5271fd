import Compositing.Files.Tree
import Compositing.Settings.Decoding
import Compositing.Settings.Validation
import Compositing.Toml.Document
import Compositing.Toml.Overlay
import Compositing.Toml.Written

/-!
# Loading the options

The document of the user is laid over that of the system. A file that is missing or blank says
nothing.
-/

namespace Compositing

open Toml (Table Value)

structure Surroundings where
  home : String
  configHome? : Option String
  stateHome? : Option String
  systemSettings : String

namespace Surroundings

def base (e : Surroundings) (named? : Option String) (usual : String) : String :=
  (named?.bind Path.absolute?).getD (Path.join e.home usual)

def configDirectory (e : Surroundings) : String :=
  Path.join (e.base e.configHome? ".config") "novade"

def stateDirectory (e : Surroundings) : String :=
  Path.join (e.base e.stateHome? ".local/state") "NovaDE"

def userSettings (e : Surroundings) : String := Path.join e.configDirectory "config.toml"

end Surroundings

def FileTree.settings? (t : FileTree) (p : String) : Except SettingsError (Option Value) :=
  match t.find? p with
  | .error .missing => .ok none
  | .error _ => .error (.unreadable p "not a directory")
  | .ok .directory => .error (.unreadable p "is a directory")
  | .ok (.file content) =>
    match String.fromUTF8? content with
    | none => .error (.unreadable p "no valid text")
    | some s =>
      if Text.allBlank s then .ok none
      else match Table.ofText? s with
        | none => .error .malformed
        | some table => match (Value.table table).settled with
          | .ok v => .ok (some v)
          | .error e => .error (.mismatch (.ofNoMoment e))

namespace Settings

def checked (o : Except Mismatch Settings) : Except SettingsError Settings :=
  match o with
  | .error m => .error (.mismatch m)
  | .ok o => match o.validate with
    | .error e => .error (.invalid e.message)
    | .ok o => .ok o

def ofText (s : String) : Except SettingsError Settings :=
  match Table.ofText? s with
  | some table => checked (ofValue .document (.table table))
  | none => .error .malformed

def ofLayers (system user : Option Value) : Except SettingsError Settings :=
  checked (match Value.overlay? system user with
    | some v => ofValue .layers v
    | none => .ok .standard)

def text (o : Settings) : String := o.toTable.written

def resolveLogFile (o : Settings) (e : Surroundings) (t : FileTree) :
    Except GroundError Settings × FileTree :=
  match o.logging.file? with
  | none => (.ok o, t)
  | some file =>
    let file := Path.join e.stateDirectory file
    match t.prepareFile file with
    | (.ok (), t) => (.ok { o with logging := { o.logging with file? := some file } }, t)
    | (.error e, t) => (.error e, t)

def load (e : Surroundings) (t : FileTree) : Except GroundError Settings × FileTree :=
  let read : Except SettingsError Settings := do
    let system ← t.settings? e.systemSettings
    let user ← t.settings? e.userSettings
    ofLayers system user
  match read with
  | .error e => (.error (.settings e), t)
  | .ok o => o.resolveLogFile e t

end Settings

end Compositing
