import Compositing.Display.Server
import Compositing.Pace.Timers

/-!
# Renderers and their scenes

One scene is shown at a time, and begins when the renderer is started. Pixels are the renderer's own
affair.
-/

namespace Compositing

inductive Backend where
  | xrender
  | opengl
  | none
deriving DecidableEq, Inhabited

def Backend.all : List Backend := [.xrender, .opengl, .none]

def Backend.name : Backend → String
  | .xrender => "xrender"
  | .opengl => "opengl"
  | .none => "none"

inductive SceneError where
  | unsupported (backend : String)
  | initFailed (reason : String)
deriving DecidableEq

def SceneError.message : SceneError → String
  | .unsupported b => "Scene backend '" ++ b ++ "' is not supported"
  | .initFailed r => "Scene initialization failed: " ++ r

structure WindowPaint where
  id : WindowId
  geometry : Rect
  opacity : Opacity
  /-- In the window's own coordinates. -/
  damage : Region
  /-- In screen coordinates. -/
  repaints : Region
  unredirected : Bool
deriving Inhabited

/-- A renderer with states of type `σ`. The operations behind `start` act on the scene
that the last start has begun. -/
class Renderer (σ : Type) where
  start : Backend → Layout → Option UInt32 → σ → Except SceneError Unit × σ
  backend : σ → Backend
  syncsToBlank : σ → Bool
  /-- Draws windows from bottom to top and gives the time since the last blank. -/
  paint : Region → List WindowPaint → σ → Nanos × σ
  windowAdded : WindowId → σ → σ
  /-- The flag tells whether the window stays as a placeholder. -/
  windowClosed : WindowId → Bool → σ → σ
  windowDeleted : WindowId → σ → σ
  /-- What the renderer holds of the window is out of date. -/
  pixmapDiscarded : WindowId → σ → σ
  idle : σ → σ
  elevatedWindows : σ → List WindowId
  fullscreenEffect : σ → Bool
  overlayWindow? : σ → Option WindowId
  overlayVisible : σ → Bool
  setOverlayVisible : Bool → σ → σ
  /-- Outside its shape the overlay lets through what is drawn directly to the screen. -/
  setOverlayShape : Region → σ → σ

end Compositing
