import Compositing.Compositor.Windows

/-! # Events of the display and timers that go off -/

namespace Compositing.Compositor

variable {δ σ : Type} [DisplayServer δ] [Renderer σ]

/-- Damage marks its window and leads to a frame. Losing the selection stops compositing,
and nothing is given back that is not held any more. -/
def handleDisplayEvent (c : Compositor δ σ) : DisplayEvent → Compositor δ σ
  | .damaged id =>
    match c.windows.get? id with
    | none => c
    | some w =>
      match w.damageNotify with
      | (false, _) => c
      | (true, w) => scheduleRepaint { c with windows := c.windows.modify id fun _ => w }
  | .selectionCleared =>
    match c.selection? with
    | none => c
    | some _ => ({ c with selection? := none }).finish

def dispatchDisplayEvents (c : Compositor δ σ) : Nat × Compositor δ σ :=
  let (events, display) := DisplayServer.takeEvents c.display
  (events.length, events.foldl handleDisplayEvent { c with display := display })

def isBusy (c : Compositor δ σ) : Bool := c.phase == .starting || c.phase == .finishing

def handleTimer (id : TimerId) (c : Compositor δ σ) : Compositor δ σ :=
  match id with
  | .repaint => c.performCompositing
  | .bypassCheck => c.bypassPass
  | .bypassRetry => c.checkBypass false
  | .supportSweep => c.sweepSupport c.isBusy
  | .restart => c.restart
  | .deferred => c.runDeferred

def fireNext (target : Nanos) (c : Compositor δ σ) : Option (TimerId × Compositor δ σ) :=
  (c.timers.popDue target).map fun (id, timers) =>
    (id, ((handleTimer id { c with timers := timers }).dispatchDisplayEvents).2)

def fireDue (target : Nanos) (limit : Nat) (c : Compositor δ σ) :
    List TimerId × Compositor δ σ :=
  match limit with
  | 0 => ([], c)
  | limit + 1 =>
    match c.fireNext target with
    | none => ([], c)
    | some (id, c) =>
      let (fired, c) := c.fireDue target limit
      (id :: fired, c)

def advance (time : Nanos) (limit : Nat) (c : Compositor δ σ) :
    List TimerId × Compositor δ σ :=
  let target := c.timers.now + time
  let (fired, c) := (c.dispatchDisplayEvents).2.fireDue target limit
  (fired, { c with timers := c.timers.advanceTo target })

end Compositing.Compositor
