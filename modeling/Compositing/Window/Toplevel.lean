import Compositing.Renderer.Scene

/-! # Managed clients, unmanaged windows and placeholders -/

namespace Compositing

structure ClientState where
  active : Bool
  fullscreen : Bool
  /-- A rule asks that nothing is composited while the client is there. -/
  blocksCompositing : Bool
deriving DecidableEq, Inhabited

def ClientState.letters (s : ClientState) : String :=
  (if s.active then "a" else "") ++ (if s.fullscreen then "f" else "") ++
    (if s.blocksCompositing then "b" else "")

def ClientState.ofLetters (letters : String) : ClientState :=
  ⟨letters.toList.contains 'a', letters.toList.contains 'f', letters.toList.contains 'b'⟩

inductive WindowKind where
  | client (state : ClientState)
  | unmanaged
  | placeholder (wasClient : Bool)
deriving DecidableEq, Inhabited

def WindowKind.describe : WindowKind → String
  | .client state => "client:" ++ state.letters
  | .unmanaged => "unmanaged"
  | .placeholder true => "deleted:client"
  | .placeholder false => "deleted:unmanaged"

structure Toplevel where
  id : WindowId
  kind : WindowKind
  geometry : Rect
  opacity : Opacity
  shaped : Bool
  hasAlpha : Bool
  /-- The window stays redirected whatever else holds. -/
  bypassSuspended : Bool
  damage? : Option DamageHandle
  /-- Damage since the last paint, in the window's own coordinates. -/
  damageRegion : Region
  /-- In the window's own coordinates. -/
  windowRepaints : Region
  /-- In screen coordinates. -/
  layerRepaints : Region
  /-- Damage was reported and not fetched yet. -/
  isDamaged : Bool
  pendingFetch? : Option DamageFetch
  /-- The window is drawn directly to the screen. -/
  unredirected : Bool
  readyForPainting : Bool
deriving Inhabited

namespace Toplevel

/-- A window as it is first seen. A client is ready for painting once it was drawn to. -/
def new (id : WindowId) (kind : WindowKind) (geometry : Rect) : Toplevel where
  id := id
  kind := kind
  geometry := geometry
  opacity := 1
  shaped := false
  hasAlpha := false
  bypassSuspended := false
  damage? := none
  damageRegion := Region.empty
  windowRepaints := Region.empty
  layerRepaints := Region.empty
  isDamaged := false
  pendingFetch? := none
  unredirected := false
  readyForPainting := match kind with
    | .client _ => false
    | _ => true

def client (id : WindowId) (geometry : Rect) (state : ClientState) : Toplevel :=
  new id (.client state) geometry

def unmanaged (id : WindowId) (geometry : Rect) : Toplevel := new id .unmanaged geometry

def clientState? (w : Toplevel) : Option ClientState :=
  match w.kind with
  | .client state => some state
  | _ => none

def isClient (w : Toplevel) : Bool := w.clientState?.isSome

def isPlaceholder (w : Toplevel) : Bool :=
  match w.kind with
  | .placeholder _ => true
  | _ => false

def blocks (w : Toplevel) : Bool :=
  match w.clientState? with
  | some state => state.blocksCompositing
  | none => false

def setOpacity (o : Opacity) (w : Toplevel) : Toplevel := { w with opacity := o.clamp }

def localRect (w : Toplevel) : Rect := w.geometry.atOrigin

/-- The window becomes its own placeholder. Its damage object must be gone by then. -/
def becomePlaceholder (w : Toplevel) : Toplevel :=
  { w with
    kind := .placeholder w.isClient
    unredirected := false
    readyForPainting := true }

end Toplevel

end Compositing
