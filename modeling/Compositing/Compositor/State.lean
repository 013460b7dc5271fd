import Compositing.Display.Capability
import Compositing.Pace.FrameBudget
import Compositing.Settings.Options
import Compositing.SupportProperties
import Compositing.Window.Bypass

/-!
# The state of the compositor

It is driven from one loop, by calls, events of the display and timers that go off.
-/

namespace Compositing

inductive Phase where
  | inactive
  | starting
  | active
  | finishing
deriving DecidableEq, Inhabited

def Phase.name : Phase → String
  | .inactive => "Inactive"
  | .starting => "Starting"
  | .active => "Active"
  | .finishing => "Finishing"

inductive Event where
  | toggled (active : Bool)
  | suspendedNotice (message : String)
deriving DecidableEq

inductive DeferredAction where
  | suspend (reason : Suspension)
  | resume (reason : Suspension)
  | setup
deriving DecidableEq

structure Compositor (δ σ : Type) where
  display : δ
  renderer : σ
  hasScene : Bool
  timers : Timers
  options : CompositingOptions
  phase : Phase
  suspended : Suspension
  /-- What is to be painted of the whole screen, besides what windows ask for. -/
  repaints : Region
  frame : FrameBudget
  windows : WindowStack
  bypass : BypassState
  support : SupportProperties
  deferred : List DeferredAction
  events : List Event
  selection? : Option String
  /-- What broke the last start off; nothing the compositor does afterwards counts. -/
  fault? : Option Fault
deriving Inhabited

namespace Compositor

variable {δ σ : Type}

def new (display : δ) (renderer : σ) (options : CompositingOptions) : Compositor δ σ where
  display := display
  renderer := renderer
  hasScene := false
  timers := Timers.new
  options := options
  phase := .inactive
  suspended := options.initialSuspension
  repaints := Region.empty
  frame := FrameBudget.standard
  windows := WindowStack.empty
  bypass := BypassState.new
  support := SupportProperties.empty
  deferred := []
  events := []
  selection? := none
  fault? := none

def isActive (c : Compositor δ σ) : Bool := c.hasScene && c.phase != .finishing

def takeEvents (c : Compositor δ σ) : List Event × Compositor δ σ :=
  (c.events, { c with events := [] })

def windowRepaintsPending (c : Compositor δ σ) : Bool :=
  c.windows.windows.any (·.hasPendingRepaints)

def emit (e : Event) (c : Compositor δ σ) : Compositor δ σ :=
  { c with events := c.events ++ [e] }

def defer (a : DeferredAction) (c : Compositor δ σ) : Compositor δ σ :=
  { c with
    deferred := c.deferred ++ [a]
    timers := if c.timers.isArmed .deferred then c.timers else c.timers.start .deferred 0 }

section Renderer
variable [Renderer σ]

def rendererName (c : Compositor δ σ) : String :=
  if c.hasScene then (Renderer.backend c.renderer).name else "none"

def overlayWindow? (c : Compositor δ σ) : Option WindowId :=
  if c.hasScene then Renderer.overlayWindow? c.renderer else none

def isOverlayWindow (c : Compositor δ σ) (w : WindowId) : Bool := c.overlayWindow? == some w

def overlayVisible (c : Compositor δ σ) : Bool :=
  c.hasScene && Renderer.overlayVisible c.renderer

def describe (c : Compositor δ σ) : String :=
  "Compositor \x7b state: " ++ c.phase.name ++ ", suspended: " ++ c.suspended.describe ++
    ", compositing_type: \"" ++ c.rendererName ++ "\", windows: " ++
    toString c.windows.windows.length ++ " \x7d"

end Renderer

section Display
variable [DisplayServer δ]

def missingCapability? (c : Compositor δ σ) : Option MissingCapability :=
  Compositing.missingCapability? (DisplayServer.hasExtension c.display)

def isPossible (c : Compositor δ σ) : Bool := c.missingCapability?.isNone

def impossibilityReason (c : Compositor δ σ) : String :=
  match c.missingCapability? with
  | none => ""
  | some m => m.message

end Display

end Compositor

end Compositing
