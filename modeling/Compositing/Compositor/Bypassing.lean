import Compositing.Compositor.Repainting

/-!
# Passes over the windows that may bypass compositing

A pass decides for all windows first and then switches them. When something changed, the overlay
is cut out around the windows that are drawn directly.
-/

namespace Compositing.Compositor

variable {δ σ : Type} [DisplayServer δ] [Renderer σ]

def bypassApplies (c : Compositor δ σ) : Bool :=
  c.hasScene && (Renderer.overlayWindow? c.renderer).isSome &&
    (c.options.bypassFullscreen || c.bypass.optionChanged)

/-- Asks for a pass. With `force` the pass counts as one that changed something. -/
def checkBypass (force : Bool) (c : Compositor δ σ) : Compositor δ σ :=
  if c.bypassApplies then
    { c with
      bypass := if force then c.bypass.force else c.bypass
      timers := if c.timers.isArmed .bypassCheck then c.timers else c.timers.start .bypassCheck 0 }
  else c

def bypassContext (c : Compositor δ σ) : BypassContext :=
  ⟨c.options.bypassFullscreen, Renderer.fullscreenEffect c.renderer⟩

def isEligible (c : Compositor δ σ) (w : Toplevel) : Bool :=
  c.windows.isEligible (DisplayServer.layout c.display) c.bypassContext w

structure BypassPass (δ σ : Type) where
  bypass : BypassState
  display : δ
  renderer : σ
  toggled : Bool
  debounced : Bool

def bypassStep (now : Nanos) (eligible : List WindowId) (w : Toplevel) (p : BypassPass δ σ) :
    Toplevel × BypassPass δ σ :=
  let (change, bypass, w, display, renderer) :=
    p.bypass.update w (eligible.contains w.id) now p.display p.renderer
  (w, ⟨bypass, display, renderer, p.toggled || change.toggled, p.debounced || change == .debounced⟩)

def overlayShape (c : Compositor δ σ) : Region :=
  c.windows.unredirectedGeometries.foldl Region.subtractRect
    (Region.ofRect (DisplayServer.layout c.display).full)

/-- Switches the windows and arms the retry. The flag tells whether the pass counts as one
that changed something. -/
def switchWindows (c : Compositor δ σ) : Bool × Compositor δ σ :=
  let candidates := c.windows.windows.filter fun w => !w.isPlaceholder
  let eligible := (candidates.filter c.isEligible).map (·.id)
  let (windows, pass) := c.windows.visit (candidates.map (·.id))
    (bypassStep c.timers.now eligible) ⟨c.bypass, c.display, c.renderer, false, false⟩
  let timers :=
    if pass.debounced && !c.timers.isArmed .bypassRetry then
      c.timers.start .bypassRetry bypassDebounce
    else c.timers
  let (changed, bypass) := pass.bypass.finishPass pass.toggled pass.debounced
  (changed, { c with
    windows := windows
    display := pass.display
    renderer := pass.renderer
    timers := timers
    bypass := bypass })

def bypassPass (c : Compositor δ σ) : Compositor δ σ :=
  if c.bypassApplies then
    match c.switchWindows with
    | (false, c) => c
    | (true, c) =>
      ({ c with renderer := Renderer.setOverlayShape c.overlayShape c.renderer }).addRepaintFull
  else c

def setBypassFullscreen (on : Bool) (c : Compositor δ σ) : Compositor δ σ :=
  if c.options.bypassFullscreen = on then c
  else
    ({ c with
      options := { c.options with bypassFullscreen := on }
      bypass := c.bypass.noteOptionChanged }).checkBypass true

end Compositing.Compositor
