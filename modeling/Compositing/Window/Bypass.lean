import Compositing.Window.Stack
import Compositing.Window.Tracking

/-!
# Windows that bypass compositing

All windows share one rule: after a switch, none follows for 100 ms.
-/

namespace Compositing

def bypassDebounce : Nanos := 100000000

inductive BypassChange where
  | unchanged
  | unredirected
  | redirected
  /-- The switch comes too early. -/
  | debounced
deriving DecidableEq

def BypassChange.name : BypassChange → String
  | .unchanged => "Unchanged"
  | .unredirected => "Unredirected"
  | .redirected => "Redirected"
  | .debounced => "Debounced"

def BypassChange.toggled : BypassChange → Bool
  | .unredirected | .redirected => true
  | .unchanged | .debounced => false

structure BypassContext where
  optionEnabled : Bool
  fullscreenEffect : Bool
deriving DecidableEq

namespace WindowStack

/-- Whether the window's kind and place let it bypass compositing: an active full-screen
client, or an unmanaged window that fills the display or the monitor it is on, and in
either case uncovered. -/
def shouldBypass (s : WindowStack) (layout : Layout) (w : Toplevel) : Bool :=
  match w.kind with
  | .client state => state.active && state.fullscreen && s.isUncovered w
  | .unmanaged =>
    (w.geometry == layout.full || layout.screenAt? w.geometry.center == some w.geometry) &&
      s.isUncovered w
  | .placeholder _ => false

def isEligible (s : WindowStack) (layout : Layout) (context : BypassContext) (w : Toplevel) :
    Bool :=
  context.optionEnabled && !context.fullscreenEffect && !w.bypassSuspended && !w.shaped &&
    !w.hasAlpha && w.opacity.isFull && s.shouldBypass layout w

end WindowStack

structure BypassState where
  lastToggle? : Option Nanos
  /-- The next pass counts as one that changed something. -/
  forced : Bool
  /-- The option was switched, so the next pass takes place even if it is off now. -/
  optionChanged : Bool
deriving DecidableEq, Inhabited

namespace BypassState

def new : BypassState := ⟨none, false, false⟩

def force (b : BypassState) : BypassState := { b with forced := true }

def noteOptionChanged (b : BypassState) : BypassState :=
  { b with optionChanged := true, forced := true }

/-- Nothing is composited any more. The time of the last switch stays. -/
def reset (b : BypassState) : BypassState := { b with forced := false, optionChanged := false }

/-- Ends a pass. The flag tells whether it counts as one that changed something. A switched
option stays noted as long as a window waits for its switch. -/
def finishPass (toggled debounced : Bool) (b : BypassState) : Bool × BypassState :=
  (toggled || b.forced, { b with
    forced := false
    optionChanged := b.optionChanged && debounced })

variable {δ σ : Type} [DisplayServer δ] [Renderer σ]

def tooEarly (b : BypassState) (now : Nanos) : Bool :=
  match b.lastToggle? with
  | none => false
  | some last => decide (now - last < bypassDebounce)

def update (b : BypassState) (w : Toplevel) (wanted : Bool) (now : Nanos) (d : δ) (r : σ) :
    BypassChange × BypassState × Toplevel × δ × σ :=
  if wanted = w.unredirected then (.unchanged, b, w, d, r)
  else if b.tooEarly now then (.debounced, b, w, d, r)
  else
    let b := { b with lastToggle? := some now }
    let w := { w with unredirected := wanted }
    if wanted then
      (.unredirected, b, w, DisplayServer.unredirectWindow w.id d, Renderer.pixmapDiscarded w.id r)
    else
      let (w, r) := w.discardPixmap r
      (.redirected, b, w, DisplayServer.redirectWindow w.id d, r)

end BypassState

end Compositing
