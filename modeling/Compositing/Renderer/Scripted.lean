import Compositing.Renderer.Headless

/-! # A renderer that follows a script and logs what it is told -/

namespace Compositing

inductive SceneCall where
  | created
  | added (window : WindowId)
  | closed (window : WindowId) (placeholder : Bool)
  | deleted (window : WindowId)
  | discarded (window : WindowId)
  | idle
  | painted (damage : Region) (windows : List WindowPaint)

structure ScriptedRenderer where
  scene : HeadlessScene
  /-- The overlay's window, or none to hide it. -/
  overlay? : Option WindowId
  syncs : Bool
  paintTime : Nanos
  fails : Bool
  effect : Bool
  elevated : List WindowId
  calls : List SceneCall
deriving Inhabited

namespace ScriptedRenderer

def new : ScriptedRenderer where
  scene := HeadlessScene.new .none ⟨900⟩ Rect.empty
  overlay? := some ⟨900⟩
  syncs := false
  paintTime := 4000000
  fails := false
  effect := false
  elevated := []
  calls := []

def tell (call : SceneCall) (f : HeadlessScene → HeadlessScene) (r : ScriptedRenderer) :
    ScriptedRenderer :=
  { r with scene := f r.scene, calls := r.calls ++ [call] }

def start (backend : Backend) (layout : Layout) (r : ScriptedRenderer) :
    Except SceneError Unit × ScriptedRenderer :=
  if r.fails then (.error (.initFailed "renderer refused to start"), r)
  else
    match HeadlessScene.create (r.overlay?.getD ⟨900⟩) backend layout with
    | .error e => (.error e, r)
    | .ok scene => (.ok (), r.tell .created fun _ => scene)

def overlayWindow? (r : ScriptedRenderer) : Option WindowId :=
  r.overlay?.map fun _ => r.scene.overlay

def paint (damage : Region) (windows : List WindowPaint) (r : ScriptedRenderer) :
    Nanos × ScriptedRenderer :=
  (r.paintTime, r.tell (.painted damage windows) fun s => { s with frames := s.frames + 1 })

end ScriptedRenderer

instance : Renderer ScriptedRenderer where
  start backend layout _ := ScriptedRenderer.start backend layout
  backend r := r.scene.backend
  syncsToBlank := ScriptedRenderer.syncs
  paint := ScriptedRenderer.paint
  windowAdded w := ScriptedRenderer.tell (.added w) (·.windowAdded w)
  windowClosed w placeholder :=
    ScriptedRenderer.tell (.closed w placeholder) (·.windowClosed w placeholder)
  windowDeleted w := ScriptedRenderer.tell (.deleted w) (·.windowDeleted w)
  pixmapDiscarded w := ScriptedRenderer.tell (.discarded w) id
  idle := ScriptedRenderer.tell .idle id
  elevatedWindows := ScriptedRenderer.elevated
  fullscreenEffect := ScriptedRenderer.effect
  overlayWindow? := ScriptedRenderer.overlayWindow?
  overlayVisible r := r.scene.visible
  setOverlayVisible on r := { r with scene := { r.scene with visible := on } }
  setOverlayShape shape r := { r with scene := { r.scene with shape := shape } }

end Compositing
