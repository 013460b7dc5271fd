import Compositing.Display.Server

/-! # Whether a display can be composited -/

namespace Compositing

inductive MissingCapability where
  | regionFixes
  | damageReporting
  | redirection
  | renderer
deriving DecidableEq

def MissingCapability.name : MissingCapability → String
  | .regionFixes => "RegionFixes"
  | .damageReporting => "DamageReporting"
  | .redirection => "Redirection"
  | .renderer => "Renderer"

def MissingCapability.message : MissingCapability → String
  | .regionFixes => "Required X extension (XFixes) is not available."
  | .damageReporting | .redirection =>
    "Required X extensions (XComposite and XDamage) are not available."
  | .renderer => "GLX/OpenGL and XRender are not available."

def missingCapability? (has : Extension → Bool) : Option MissingCapability :=
  if !has .fixes then some .regionFixes
  else if !has .damage then some .damageReporting
  else if !has .composite then some .redirection
  else if !(has .glx || has .render) then some .renderer
  else none

end Compositing
