import Compositing.Display.Server

/-!
# A display server in memory

Damage objects and fetches are numbered by one counter.
-/

namespace Compositing

structure DamageObject where
  handle : DamageHandle
  window : WindowId
  pending : Region
deriving Inhabited

structure HeadlessDisplay where
  extensions : List Extension
  layout : Layout
  refreshRate? : Option UInt32
  selectionOwner? : Option String
  refusesSelection : Bool
  claimAttempts : Nat
  subwindowsRedirected : Bool
  unredirected : List WindowId
  nextNumber : UInt32
  damages : List DamageObject
  replies : List (DamageFetch × DamageReply)
  rootProperties : List Atom
  opacities : List (WindowId × Opacity)
  events : List DisplayEvent
  damagesCreated : Nat
  damagesDestroyed : Nat
  fetchRequests : Nat
  flushes : Nat
deriving Inhabited

namespace HeadlessDisplay

def new (extensions : List Extension) (layout : Layout) : HeadlessDisplay where
  extensions := extensions
  layout := layout
  refreshRate? := some 60
  selectionOwner? := none
  refusesSelection := false
  claimAttempts := 0
  subwindowsRedirected := false
  unredirected := []
  nextNumber := 1
  damages := []
  replies := []
  rootProperties := []
  opacities := []
  events := []
  damagesCreated := 0
  damagesDestroyed := 0
  fetchRequests := 0
  flushes := 0

def hasExtension (d : HeadlessDisplay) (e : Extension) : Bool := d.extensions.contains e

def hasDamageFor (d : HeadlessDisplay) (w : WindowId) : Bool := d.damages.any (·.window == w)

def isUnredirected (d : HeadlessDisplay) (w : WindowId) : Bool := d.unredirected.contains w

def opacityOf? (d : HeadlessDisplay) (w : WindowId) : Option Opacity := d.opacities.lookup w

def hasRootProperty (d : HeadlessDisplay) (a : Atom) : Bool := d.rootProperties.contains a

/-! What other clients do. -/

/-- Rectangles are drawn to a window. Its first damage object collects them, and an event
follows if it was empty before. Nothing happens if no object watches the window. -/
def reportDamage (w : WindowId) (rects : List Rect) (d : HeadlessDisplay) : Bool × HeadlessDisplay :=
  match d.damages.find? (·.window == w) with
  | none => (false, d)
  | some object =>
    let pending := rects.foldl Region.addRect object.pending
    let events :=
      if object.pending.isEmpty && !pending.isEmpty then d.events ++ [.damaged w] else d.events
    (true, { d with
      damages := d.damages.map (fun o =>
        if o.handle == object.handle then { o with pending := pending } else o)
      events := events })

def stealSelection (d : HeadlessDisplay) : HeadlessDisplay :=
  match d.selectionOwner? with
  | none => d
  | some _ => { d with selectionOwner? := none, events := d.events ++ [.selectionCleared] }

def setRootProperty (a : Atom) (d : HeadlessDisplay) : HeadlessDisplay :=
  if d.rootProperties.contains a then d else { d with rootProperties := d.rootProperties ++ [a] }

/-! What the compositor asks for. -/

/-- The number after `n`, where 0 is left out. -/
def succNumber (n : UInt32) : UInt32 := if n + 1 == 0 then 1 else n + 1

def claimSelection (s : String) (d : HeadlessDisplay) : Except DisplayError Unit × HeadlessDisplay :=
  let d := { d with claimAttempts := d.claimAttempts + 1 }
  if d.refusesSelection then (.error (.selectionOwned s), d)
  else (.ok (), { d with selectionOwner? := some s })

def releaseSelection (s : String) (d : HeadlessDisplay) : HeadlessDisplay :=
  if d.selectionOwner? == some s then { d with selectionOwner? := none } else d

def redirectSubwindows (d : HeadlessDisplay) : Except DisplayError Unit × HeadlessDisplay :=
  if d.hasExtension .composite then (.ok (), { d with subwindowsRedirected := true })
  else (.error (.missingExtension .composite), d)

def unredirectSubwindows (d : HeadlessDisplay) : HeadlessDisplay :=
  { d with subwindowsRedirected := false, unredirected := [] }

def redirectWindow (w : WindowId) (d : HeadlessDisplay) : HeadlessDisplay :=
  { d with unredirected := d.unredirected.filter (· != w) }

def unredirectWindow (w : WindowId) (d : HeadlessDisplay) : HeadlessDisplay :=
  if d.unredirected.contains w then d else { d with unredirected := d.unredirected ++ [w] }

def createDamage (w : WindowId) (d : HeadlessDisplay) :
    Except DisplayError DamageHandle × HeadlessDisplay :=
  if d.hasExtension .damage then
    let handle : DamageHandle := ⟨d.nextNumber⟩
    (.ok handle, { d with
      nextNumber := succNumber d.nextNumber
      damages := d.damages.filter (·.handle != handle) ++ [⟨handle, w, Region.empty⟩]
      damagesCreated := d.damagesCreated + 1 })
  else (.error (.missingExtension .damage), d)

def destroyDamage (h : DamageHandle) (d : HeadlessDisplay) : HeadlessDisplay :=
  if d.damages.any (·.handle == h) then
    { d with
      damages := d.damages.filter (·.handle != h)
      damagesDestroyed := d.damagesDestroyed + 1 }
  else d

def requestDamage (h : DamageHandle) (d : HeadlessDisplay) :
    Except DisplayError DamageFetch × HeadlessDisplay :=
  match d.damages.find? (·.handle == h) with
  | none => (.error (.unknownDamage h), d)
  | some object =>
    let fetch : DamageFetch := ⟨d.nextNumber⟩
    let reply : DamageReply := ⟨object.pending.bounds, object.pending.rects⟩
    (.ok fetch, { d with
      nextNumber := succNumber d.nextNumber
      damages := d.damages.map (fun o =>
        if o.handle == h then { o with pending := Region.empty } else o)
      replies := d.replies.filter (·.1 != fetch) ++ [(fetch, reply)]
      fetchRequests := d.fetchRequests + 1 })

def discardReply (f : DamageFetch) (d : HeadlessDisplay) : HeadlessDisplay :=
  { d with replies := d.replies.filter (·.1 != f) }

/-- A reply is handed out once. -/
def damageReply (f : DamageFetch) (d : HeadlessDisplay) : Option DamageReply × HeadlessDisplay :=
  (d.replies.lookup f, d.discardReply f)

def tally (d : HeadlessDisplay) : List Nat :=
  [d.damages.length, d.damagesCreated, d.damagesDestroyed, d.fetchRequests, d.flushes]

def flush (d : HeadlessDisplay) : HeadlessDisplay := { d with flushes := d.flushes + 1 }

def deleteRootProperty (a : Atom) (d : HeadlessDisplay) : HeadlessDisplay :=
  { d with rootProperties := d.rootProperties.filter (· != a) }

def setOpacity (w : WindowId) (o : Opacity) (d : HeadlessDisplay) : HeadlessDisplay :=
  { d with opacities := d.opacities.filter (·.1 != w) ++ [(w, o)] }

def pollEvent (d : HeadlessDisplay) : Option DisplayEvent × HeadlessDisplay :=
  match d.events with
  | [] => (none, d)
  | e :: es => (some e, { d with events := es })

def takeEvents (d : HeadlessDisplay) : List DisplayEvent × HeadlessDisplay :=
  (d.events, { d with events := [] })

end HeadlessDisplay

instance : DisplayServer HeadlessDisplay where
  hasExtension := HeadlessDisplay.hasExtension
  screenNumber _ := 0
  layout := HeadlessDisplay.layout
  refreshRate? := HeadlessDisplay.refreshRate?
  claimSelection := HeadlessDisplay.claimSelection
  releaseSelection := HeadlessDisplay.releaseSelection
  redirectSubwindows := HeadlessDisplay.redirectSubwindows
  unredirectSubwindows := HeadlessDisplay.unredirectSubwindows
  redirectWindow := HeadlessDisplay.redirectWindow
  unredirectWindow := HeadlessDisplay.unredirectWindow
  createDamage := HeadlessDisplay.createDamage
  destroyDamage := HeadlessDisplay.destroyDamage
  requestDamage := HeadlessDisplay.requestDamage
  damageReply := HeadlessDisplay.damageReply
  discardReply := HeadlessDisplay.discardReply
  flush := HeadlessDisplay.flush
  deleteRootProperty := HeadlessDisplay.deleteRootProperty
  setOpacity := HeadlessDisplay.setOpacity
  takeEvents := HeadlessDisplay.takeEvents

end Compositing
