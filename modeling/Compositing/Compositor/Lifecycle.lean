import Compositing.Compositor.Bypassing
import Compositing.Failure

/-!
# Starting and stopping

What setting up has acquired, finishing gives back.
-/

namespace Compositing.Compositor

variable {δ σ : Type} [DisplayServer δ] [Renderer σ]

def selectionName (screen : UInt32) : String := "_NET_WM_CM_S" ++ toString screen.toNat

def releaseSelection (c : Compositor δ σ) : Compositor δ σ :=
  match c.selection? with
  | none => c
  | some s =>
    { c with selection? := none, display := DisplayServer.releaseSelection s c.display }

def acquire (c : Compositor δ σ) : Except StartError Unit × Compositor δ σ :=
  let selection := selectionName (DisplayServer.screenNumber c.display)
  match DisplayServer.claimSelection selection c.display with
  | (.error e, display) => (.error (.selectionClaim selection e), { c with display := display })
  | (.ok (), display) =>
    let c := { c with
      display := display
      selection? := some selection
      windows := c.windows.discardPlaceholders }
    match Renderer.start c.options.backend (DisplayServer.layout display)
        (DisplayServer.refreshRate? display) c.renderer with
    | (.error e, renderer) => (.error (.scene e), { c with renderer := renderer })
    | (.ok (), renderer) =>
      let c := { c with renderer := renderer, hasScene := true }
      match DisplayServer.redirectSubwindows display with
      | (.error e, display) => (.error (.display e), { c with display := display })
      | (.ok (), display) => (.ok (), { c with display := display })

def refreshRate (c : Compositor δ σ) : UInt32 :=
  if 0 < c.options.refreshRate then c.options.refreshRate
  else (DisplayServer.refreshRate? c.display).getD 60

def trackStep (w : Toplevel) (t : δ × σ) : Toplevel × δ × σ := (w.track t.1 t.2).2

def untrackStep (w : Toplevel) (t : δ × σ) : Toplevel × δ × σ := (w.untrack t.1 t.2).2

def visitWindows (step : Toplevel → δ × σ → Toplevel × δ × σ) (ids : List WindowId)
    (c : Compositor δ σ) : Compositor δ σ :=
  let (windows, display, renderer) := c.windows.visit ids step (c.display, c.renderer)
  { c with windows := windows, display := display, renderer := renderer }

def withFrameBudget (c : Compositor δ σ) : Except Fault (Compositor δ σ) :=
  (fun frame => { c with frame := frame }) <$>
    c.frame.configure c.options.frameInterval c.refreshRate (Renderer.syncsToBlank c.renderer)
      c.options.blankTime

/-- Becomes active. The windows are tracked in the given enumeration of the stack. -/
def enable (enumerate : List WindowId → List WindowId) (c : Compositor δ σ) : Compositor δ σ :=
  let c := c.scheduleRepaint.addRepaintFull
  let c := (c.visitWindows trackStep (enumerate c.windows.ids)).checkBypass true
  ({ c with phase := .active }).emit (.toggled true)

def activate (enumerate : List WindowId → List WindowId) (c : Compositor δ σ) : Compositor δ σ :=
  match c.withFrameBudget with
  | .error fault => { c with fault? := some fault }
  | .ok c => (c.enable enumerate).performCompositing

/-- Starts compositing unless there is a scene, a reason to keep it suspended or something
missing. A start that fails is undone. -/
def setupBy (enumerate : List WindowId → List WindowId) (c : Compositor δ σ) : Compositor δ σ :=
  if c.hasScene then c
  else if !c.suspended.isEmpty || !c.isPossible then { c with phase := .inactive }
  else
    match acquire { c with phase := .starting } with
    | (.error _, c) => { ({ c with hasScene := false }).releaseSelection with phase := .inactive }
    | (.ok (), c) => c.activate enumerate

def setup (c : Compositor δ σ) : Compositor δ σ := c.setupBy id

def closeWindow (r : σ) (w : Toplevel) : σ :=
  if w.isPlaceholder then Renderer.windowDeleted w.id r else Renderer.windowClosed w.id false r

/-- A translucent client stays translucent when nothing composites it. -/
def forwardOpacity (d : δ) (w : Toplevel) : δ :=
  if w.isClient && decide (w.opacity < 1) then DisplayServer.setOpacity w.id w.opacity d else d

/-- Stops compositing and gives back what setting up has acquired. The windows are let go in
the given enumeration of the stack. -/
def finishBy (enumerate : List WindowId → List WindowId) (c : Compositor δ σ) : Compositor δ σ :=
  if c.hasScene then
    let renderer := c.windows.windows.foldl closeWindow c.renderer
    let c := ({ c with phase := .finishing, renderer := renderer }).visitWindows untrackStep
      (enumerate c.windows.ids)
    let display := DisplayServer.unredirectSubwindows c.display
    ({ c with
      hasScene := false
      timers := ((c.timers.stop .repaint).stop .bypassCheck).stop .bypassRetry
      repaints := Region.empty
      bypass := c.bypass.reset
      display := c.windows.windows.foldl forwardOpacity display
      windows := c.windows.discardPlaceholders
      phase := .inactive }).emit (.toggled false) |>.releaseSelection
  else c

def finish (c : Compositor δ σ) : Compositor δ σ := c.finishBy id

def suspend (reason : Suspension) (c : Compositor δ σ) : Compositor δ σ :=
  ({ c with suspended := c.suspended.union reason }).finish

def resume (reason : Suspension) (c : Compositor δ σ) : Compositor δ σ :=
  ({ c with suspended := c.suspended.without reason }).setup

def toggle (c : Compositor δ σ) : Compositor δ σ :=
  if c.suspended.isEmpty then c.suspend Suspension.byUser else c.resume Suspension.all

def suspendedMessage (shortcut : String) : String :=
  "Compositing has been suspended by another application. You can resume using the '" ++
    shortcut ++ "' shortcut."

/-- Another application toggles. If that suspends, the user is told of the shortcut. -/
def toggleRemote (c : Compositor δ σ) : Compositor δ σ :=
  let c := c.toggle
  if c.suspended.isEmpty then c
  else
    match c.options.suspendShortcut? with
    | none => c
    | some shortcut => c.emit (.suspendedNotice (suspendedMessage shortcut))

def setCompositing (active : Bool) (c : Compositor δ σ) : Compositor δ σ :=
  if active then c.resume Suspension.byScript else c.suspend Suspension.byScript

/-- Takes new options. What is read only at the start changes with the next start. -/
def reconfigure (options : CompositingOptions) (c : Compositor δ σ) : Compositor δ σ :=
  let switched := options.bypassFullscreen != c.options.bypassFullscreen
  let c := { c with
    options := options
    bypass := if switched then c.bypass.noteOptionChanged else c.bypass }
  if c.suspended.isEmpty then
    let c := c.setup.addRepaintFull
    if switched then c.checkBypass true else c
  else c.finish

/-- Starts from scratch with new options and forgets every reason to be suspended. -/
def startOver (options : CompositingOptions) (c : Compositor δ σ) : Compositor δ σ :=
  ({ c.finish with suspended := options.initialSuspension, options := options }).setup

/-- Stops now and starts on the next turn of the loop; in between there is no scene. -/
def restart (c : Compositor δ σ) : Compositor δ σ :=
  if c.hasScene then ({ c.finish with phase := .starting }).defer .setup else c

def scheduleRestart (after : Nanos) (c : Compositor δ σ) : Compositor δ σ :=
  { c with timers := c.timers.start .restart after }

def sweepSupport (busy : Bool) (c : Compositor δ σ) : Compositor δ σ :=
  let (_, support, display, timers) := c.support.sweep busy c.display c.timers
  { c with support := support, display := display, timers := timers }

def shutdown (c : Compositor δ σ) : Compositor δ σ :=
  let c := c.finish
  ({ c with timers := c.timers.stop .supportSweep }).sweepSupport false

def runAction (c : Compositor δ σ) : DeferredAction → Compositor δ σ
  | .suspend reason => c.suspend reason
  | .resume reason => c.resume reason
  | .setup => c.setup

def runDeferred (c : Compositor δ σ) : Compositor δ σ :=
  c.deferred.foldl runAction { c with deferred := [] }

end Compositing.Compositor
