import Compositing.Compositor.State

/-! # Frames -/

namespace Compositing.Compositor

variable {δ σ : Type} [DisplayServer δ] [Renderer σ]

def scheduleRepaint (c : Compositor δ σ) : Compositor δ σ :=
  if c.hasScene then { c with timers := c.frame.schedule c.timers } else c

def addRepaint (g : Region) (c : Compositor δ σ) : Compositor δ σ :=
  if c.hasScene then ({ c with repaints := c.repaints.union g }).scheduleRepaint else c

def addRepaintFull (c : Compositor δ σ) : Compositor δ σ :=
  if c.hasScene then
    ({ c with repaints := Region.ofRect (DisplayServer.layout c.display).full }).scheduleRepaint
  else c

def requestStep (w : Toplevel) (t : List WindowId × δ) : Toplevel × List WindowId × δ :=
  match w.requestDamage t.2 with
  | (true, w, d) => (w, t.1 ++ [w.id], d)
  | (false, w, d) => (w, t.1, d)

def collectStep (w : Toplevel) (d : δ) : Toplevel × δ := (w.collectDamage d).2

/-- Fetches the damage of all damaged windows: every request is sent before the first reply is
collected. -/
def fetchDamage (c : Compositor δ σ) : Compositor δ σ :=
  let (windows, asked, display) := c.windows.visit c.windows.ids requestStep ([], c.display)
  let display := if asked.isEmpty then display else DisplayServer.flush display
  let (windows, display) := windows.visit asked collectStep display
  { c with windows := windows, display := display }

/-- Moves the elevated ids that are in the order to its end, one after the other. -/
def elevate (elevated order : List WindowId) : List WindowId :=
  elevated.foldl (fun o id => if o.contains id then o.filter (· != id) ++ [id] else o) order

def paintList (c : Compositor δ σ) : List WindowPaint :=
  let order := elevate (Renderer.elevatedWindows c.renderer) c.windows.ids
  ((order.filterMap c.windows.get?).filter (·.readyForPainting)).map (·.paintInfo)

/-- A window after a frame. Damage stays as long as the window is not ready for painting. -/
def painted (w : Toplevel) : Toplevel :=
  if w.readyForPainting then w.resetRepaints.resetDamage else w.resetRepaints

def paint (c : Compositor δ σ) : Compositor δ σ :=
  let (time, renderer) := Renderer.paint c.repaints c.paintList c.renderer
  scheduleRepaint { c with
    renderer := renderer
    repaints := Region.empty
    frame := c.frame.recordPaint time
    windows := ⟨c.windows.windows.map painted⟩
    timers := c.timers.stop .repaint }

def goIdle (c : Compositor δ σ) : Compositor δ σ :=
  { c with
    renderer := Renderer.idle c.renderer
    frame := c.frame.startNow
    timers := c.timers.stop .repaint }

/-- One frame. After a paint the timer is armed again even with nothing left to paint, so that
the renderer learns that it is idle. -/
def performCompositing (c : Compositor δ σ) : Compositor δ σ :=
  if c.overlayVisible then
    let c := c.fetchDamage
    if c.repaints.isEmpty && !c.windowRepaintsPending then c.goIdle else c.paint
  else c

end Compositing.Compositor
