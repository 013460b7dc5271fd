import Compositing.Geometry.Region
import Compositing.Opacity

/-!
# The display server

The region of a damage object is fetched in two steps, so that all requests of a frame go out
before the first reply is waited for.
-/

namespace Compositing

structure Layout where
  full : Rect
  screens : List Rect
deriving DecidableEq, Inhabited

namespace Layout

def single (width height : Extent) : Layout :=
  let full := Rect.ofCoords 0 0 width height
  ⟨full, [full]⟩

def screenAt? (layout : Layout) (p : Point) : Option Rect := layout.screens.find? (·.contains p)

end Layout

structure WindowId where
  number : UInt32
deriving DecidableEq, Inhabited

structure Atom where
  number : UInt32
deriving DecidableEq, Inhabited

structure DamageHandle where
  number : UInt32
deriving DecidableEq, Inhabited

/-- The ticket for the reply to a damage request. -/
structure DamageFetch where
  number : UInt32
deriving DecidableEq, Inhabited

inductive Extension where
  | fixes
  | damage
  | composite
  | render
  | glx
deriving DecidableEq, Inhabited

def Extension.all : List Extension := [.fixes, .damage, .composite, .render, .glx]

def Extension.name : Extension → String
  | .fixes => "Fixes"
  | .damage => "Damage"
  | .composite => "Composite"
  | .render => "Render"
  | .glx => "Glx"

inductive DisplayError where
  | missingExtension (extension : Extension)
  | selectionOwned (selection : String)
  | unknownDamage (damage : DamageHandle)
deriving DecidableEq

def DisplayError.message : DisplayError → String
  | .missingExtension e => "Display extension " ++ e.name ++ " is not available"
  | .selectionOwned s => "Selection " ++ s ++ " is owned by another client"
  | .unknownDamage d => "Unknown damage object DamageHandle(" ++ toString d.number.toNat ++ ")"

/-- The pixels taken from a damage object, and the smallest rectangle around them. -/
structure DamageReply where
  extents : Rect
  rects : List Rect
deriving DecidableEq, Inhabited

inductive DisplayEvent where
  | damaged (window : WindowId)
  | selectionCleared
deriving DecidableEq

def DisplayEvent.describe : DisplayEvent → String
  | .damaged w =>
    "DamageNotify \x7b window: WindowId(" ++ toString w.number.toNat ++ ") \x7d"
  | .selectionCleared => "SelectionCleared"

class DisplayServer (δ : Type) where
  hasExtension : δ → Extension → Bool
  screenNumber : δ → UInt32
  layout : δ → Layout
  refreshRate? : δ → Option UInt32
  claimSelection : String → δ → Except DisplayError Unit × δ
  releaseSelection : String → δ → δ
  redirectSubwindows : δ → Except DisplayError Unit × δ
  unredirectSubwindows : δ → δ
  redirectWindow : WindowId → δ → δ
  unredirectWindow : WindowId → δ → δ
  createDamage : WindowId → δ → Except DisplayError DamageHandle × δ
  destroyDamage : DamageHandle → δ → δ
  requestDamage : DamageHandle → δ → Except DisplayError DamageFetch × δ
  damageReply : DamageFetch → δ → Option DamageReply × δ
  discardReply : DamageFetch → δ → δ
  flush : δ → δ
  deleteRootProperty : Atom → δ → δ
  setOpacity : WindowId → Opacity → δ → δ
  takeEvents : δ → List DisplayEvent × δ

end Compositing
