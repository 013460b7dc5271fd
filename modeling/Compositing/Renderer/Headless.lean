import Compositing.Renderer.Scene

/-!
# A renderer that draws nothing

How long each of its paints takes is given from outside, whichever scene is painted.
-/

namespace Compositing

structure HeadlessScene where
  backend : Backend
  overlay : WindowId
  visible : Bool
  shape : Region
  windows : List WindowId
  frames : Nat
deriving Inhabited

namespace HeadlessScene

def new (backend : Backend) (overlay : WindowId) (bounds : Rect) : HeadlessScene where
  backend := backend
  overlay := overlay
  visible := true
  shape := Region.ofRect bounds
  windows := []
  frames := 0

def windowAdded (w : WindowId) (s : HeadlessScene) : HeadlessScene :=
  if s.windows.contains w then s else { s with windows := s.windows ++ [w] }

def windowDeleted (w : WindowId) (s : HeadlessScene) : HeadlessScene :=
  { s with windows := s.windows.filter (· != w) }

/-- A placeholder stays in the scene. -/
def windowClosed (w : WindowId) (placeholder : Bool) (s : HeadlessScene) : HeadlessScene :=
  if placeholder then s else s.windowDeleted w

def create (overlay : WindowId) (backend : Backend) (layout : Layout) :
    Except SceneError HeadlessScene :=
  if backend == .none then .error (.unsupported backend.name)
  else if layout.full.isEmpty then .error (.initFailed "display has no visible area")
  else .ok (new backend overlay layout.full)

end HeadlessScene

structure HeadlessRenderer where
  overlay : WindowId
  /-- The time that the paint with the given number reports. Paints are counted through all
  scenes. -/
  paintTime : Nat → Nanos
  paints : Nat
  scene : HeadlessScene
deriving Inhabited

namespace HeadlessRenderer

def new (overlay : WindowId) (paintTime : Nat → Nanos) : HeadlessRenderer :=
  ⟨overlay, paintTime, 0, HeadlessScene.new .none overlay Rect.empty⟩

def onScene (f : HeadlessScene → HeadlessScene) (r : HeadlessRenderer) : HeadlessRenderer :=
  { r with scene := f r.scene }

def start (backend : Backend) (layout : Layout) (r : HeadlessRenderer) :
    Except SceneError Unit × HeadlessRenderer :=
  match HeadlessScene.create r.overlay backend layout with
  | .error e => (.error e, r)
  | .ok scene => (.ok (), { r with scene := scene })

def paint (r : HeadlessRenderer) : Nanos × HeadlessRenderer :=
  (r.paintTime r.paints,
    { r with paints := r.paints + 1, scene.frames := r.scene.frames + 1 })

end HeadlessRenderer

instance : Renderer HeadlessRenderer where
  start backend layout _ := HeadlessRenderer.start backend layout
  backend r := r.scene.backend
  syncsToBlank _ := false
  paint _ _ := HeadlessRenderer.paint
  windowAdded w := HeadlessRenderer.onScene (·.windowAdded w)
  windowClosed w placeholder := HeadlessRenderer.onScene (·.windowClosed w placeholder)
  windowDeleted w := HeadlessRenderer.onScene (·.windowDeleted w)
  pixmapDiscarded _ r := r
  idle r := r
  elevatedWindows _ := []
  fullscreenEffect _ := false
  overlayWindow? r := some r.scene.overlay
  overlayVisible r := r.scene.visible
  setOverlayVisible on := HeadlessRenderer.onScene fun s => { s with visible := on }
  setOverlayShape shape := HeadlessRenderer.onScene fun s => { s with shape := shape }

end Compositing
