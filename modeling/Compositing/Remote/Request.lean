import Compositing.Compositor.Dispatch

/-! # Requests from outside, whatever way they come, and the answers to them -/

namespace Compositing

inductive ControlRequest where
  | toggleCompositing
  | setCompositing (active : Bool)
  | suspend (reason : Suspension)
  | resume (reason : Suspension)
  | isActive
  | compositingType
  | isCompositingPossible
  | notPossibleReason
  | startOver
deriving DecidableEq

inductive ControlReply where
  | done
  | bool (value : Bool)
  | text (value : String)
deriving DecidableEq

namespace Compositor

variable {δ σ : Type} [DisplayServer δ] [Renderer σ]

def handleRequest (request : ControlRequest) (c : Compositor δ σ) :
    ControlReply × Compositor δ σ :=
  match request with
  | .toggleCompositing => (.done, c.toggleRemote)
  | .setCompositing active => (.done, c.setCompositing active)
  | .suspend reason => (.done, c.suspend reason)
  | .resume reason => (.done, c.resume reason)
  | .isActive => (.bool c.isActive, c)
  | .compositingType => (.text c.rendererName, c)
  | .isCompositingPossible => (.bool c.isPossible, c)
  | .notPossibleReason => (.text c.impossibilityReason, c)
  | .startOver => (.done, c.startOver c.options)

end Compositor

end Compositing
