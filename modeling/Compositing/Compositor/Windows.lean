import Compositing.Compositor.Lifecycle

/-! # Windows that come, change and go -/

namespace Compositing.Compositor

variable {δ σ : Type} [DisplayServer δ] [Renderer σ]

def blockFor (id : WindowId) (c : Compositor δ σ) : Compositor δ σ :=
  let blocks := match c.windows.get? id with
    | some w => w.blocks
    | none => false
  if blocks && !c.suspended.holds Suspension.byRule then c.defer (.suspend Suspension.byRule) else c

def unblock (c : Compositor δ σ) : Compositor δ σ :=
  if c.suspended.holds Suspension.byRule && !c.windows.windows.any (·.blocks) then
    c.defer (.resume Suspension.byRule)
  else c

/-- Takes in a window on top of the stack. A window with a known id is left out. -/
def addWindow (w : Toplevel) (c : Compositor δ σ) : Compositor δ σ :=
  if c.windows.contains w.id then c
  else
    let (w, display, renderer) :=
      if c.hasScene then trackStep w (c.display, c.renderer) else (w, c.display, c.renderer)
    let c := { c with
      windows := c.windows.insert w
      display := display
      renderer := renderer }
    let c := (c.checkBypass true).scheduleRepaint
    if w.blocks then c.blockFor w.id else c

/-- Lets a window go. If it is to stay as a placeholder, it does so as long as there is a
scene. The flag tells whether there was such a window. -/
def removeWindow (id : WindowId) (keepPlaceholder : Bool) (c : Compositor δ σ) :
    Bool × Compositor δ σ :=
  match c.windows.get? id with
  | none => (false, c)
  | some w =>
    if w.isPlaceholder then (false, c)
    else
      let stays := keepPlaceholder && c.hasScene
      let (gone, display, renderer) :=
        if c.hasScene then
          untrackStep w (c.display, Renderer.windowClosed id stays c.renderer)
        else (w, c.display, c.renderer)
      let windows :=
        if stays then c.windows.modify id fun _ => gone.becomePlaceholder else c.windows.remove id
      let c := { c with windows := windows, display := display, renderer := renderer }
      let c := (c.addRepaint (Region.ofRect w.geometry)).checkBypass true
      (true, if w.blocks then c.unblock else c)

def discardPlaceholder (id : WindowId) (c : Compositor δ σ) : Bool × Compositor δ σ :=
  match c.windows.get? id with
  | none => (false, c)
  | some w =>
    if w.isPlaceholder then
      let c := { c with
        windows := c.windows.remove id
        renderer := if c.hasScene then Renderer.windowDeleted id c.renderer else c.renderer }
      (true, c.addRepaint (Region.ofRect w.geometry))
    else (false, c)

/-- Moves or resizes a window; the old place and the new one are painted. With another size
what the renderer holds of the window is out of date. -/
def setGeometry (id : WindowId) (geometry : Rect) (c : Compositor δ σ) : Compositor δ σ :=
  match c.windows.get? id with
  | none => c
  | some old =>
    if old.geometry = geometry then c
    else
      let w := { old with geometry := geometry }
      let (w, renderer) :=
        if old.geometry.size ≠ geometry.size ∧ c.hasScene then w.discardPixmap c.renderer
        else (w, c.renderer)
      let c := { c with windows := c.windows.modify id fun _ => w, renderer := renderer }
      (c.addRepaint (Region.ofRects [old.geometry, geometry])).checkBypass true

def setStackingOrder (order : List WindowId) (c : Compositor δ σ) : Compositor δ σ :=
  (({ c with windows := c.windows.restack order }).addRepaintFull).checkBypass true

def raiseWindow (id : WindowId) (c : Compositor δ σ) : Compositor δ σ :=
  if c.windows.contains id then
    (({ c with windows := c.windows.raise id }).addRepaintFull).checkBypass true
  else c

def changeWindow (id : WindowId) (f : Toplevel → Toplevel)
    (next : Compositor δ σ → Compositor δ σ) (c : Compositor δ σ) : Compositor δ σ :=
  if c.windows.contains id then next { c with windows := c.windows.modify id f } else c

def setWindowOpacity (id : WindowId) (o : Opacity) (c : Compositor δ σ) : Compositor δ σ :=
  c.changeWindow id (fun w => (w.setOpacity o).addRepaintFull)
    fun c => c.scheduleRepaint.checkBypass false

def setShaped (id : WindowId) (shaped : Bool) (c : Compositor δ σ) : Compositor δ σ :=
  c.changeWindow id (fun w => { w with shaped := shaped }) (checkBypass false)

def suspendBypass (id : WindowId) (suspended : Bool) (c : Compositor δ σ) : Compositor δ σ :=
  c.changeWindow id (fun w => { w with bypassSuspended := suspended }) (checkBypass false)

/-- Adds to what is to be painted of a window, in its own coordinates. -/
def addWindowRepaint (id : WindowId) (g : Region) (c : Compositor δ σ) : Compositor δ σ :=
  c.changeWindow id (Toplevel.addRepaint g) scheduleRepaint

def addWindowRepaintFull (id : WindowId) (c : Compositor δ σ) : Compositor δ σ :=
  c.changeWindow id Toplevel.addRepaintFull scheduleRepaint

/-- Adds to what is to be painted for a window, in screen coordinates. -/
def addWindowLayerRepaint (id : WindowId) (g : Region) (c : Compositor δ σ) : Compositor δ σ :=
  c.changeWindow id (Toplevel.addLayerRepaint g) scheduleRepaint

def setClientState (id : WindowId) (state : ClientState) (c : Compositor δ σ) :
    Bool × Compositor δ σ :=
  match (c.windows.get? id).bind (·.clientState?) with
  | none => (false, c)
  | some old =>
    let c := { c with
      windows := c.windows.modify id fun w => { w with kind := .client state } }
    let c := c.checkBypass false
    (true,
      if state.blocksCompositing && !old.blocksCompositing then c.blockFor id
      else if old.blocksCompositing && !state.blocksCompositing then c.unblock
      else c)

def setOverlayVisible (visible : Bool) (c : Compositor δ σ) : Compositor δ σ :=
  if c.hasScene then
    let c := { c with renderer := Renderer.setOverlayVisible visible c.renderer }
    if visible then c.addRepaintFull else c
  else c

def keepSupportProperty (a : Atom) (c : Compositor δ σ) : Compositor δ σ :=
  { c with support := c.support.keep a }

def removeSupportProperty (a : Atom) (c : Compositor δ σ) : Compositor δ σ :=
  let (support, timers) := c.support.remove a c.timers
  { c with support := support, timers := timers }

end Compositing.Compositor
