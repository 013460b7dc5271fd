import Compositing.Renderer.Scene
import Compositing.Suspension

/-! # The options of compositing and of the log, with their defaults -/

namespace Compositing

structure CompositingOptions where
  /-- Otherwise compositing is suspended on behalf of the user from the start. -/
  enabled : Bool
  backend : Backend
  maxFps : UInt32
  /-- In hertz; 0 stands for the rate that the display reports. -/
  refreshRate : UInt32
  /-- How long before the vertical blank a paint should begin, in microseconds. -/
  blankTimeMicros : UInt32
  bypassFullscreen : Bool
  /-- The shortcut that the user is told of when compositing was suspended remotely. -/
  suspendShortcut? : Option String
deriving DecidableEq, Inhabited

namespace CompositingOptions

def standard : CompositingOptions where
  enabled := true
  backend := .xrender
  maxFps := 60
  refreshRate := 0
  blankTimeMicros := 6000
  bypassFullscreen := false
  suspendShortcut? := some "Alt+Shift+F12"

def frameInterval (o : CompositingOptions) : Nanos := 1000000000 / max 1 o.maxFps.toNat

def blankTime (o : CompositingOptions) : Nanos := o.blankTimeMicros.toNat * 1000

def initialSuspension (o : CompositingOptions) : Suspension :=
  if o.enabled then Suspension.none else Suspension.byUser

end CompositingOptions

structure LoggingOptions where
  level : String
  file? : Option String
  format : String
deriving DecidableEq, Inhabited

def LoggingOptions.standard : LoggingOptions := ⟨"info", none, "text"⟩

structure Settings where
  logging : LoggingOptions
  compositing : CompositingOptions
deriving DecidableEq, Inhabited

def Settings.standard : Settings := ⟨.standard, .standard⟩

end Compositing
