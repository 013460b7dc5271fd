import Compositing.Display.Headless

/-! # A display server that fails on demand, with a log of the damage requests it sees -/

namespace Compositing

/-- One entry of the damage traffic; a window is missing where the handle or the ticket was
never given out. -/
inductive DamageTraffic where
  | request (window : Option WindowId)
  | reply (window : Option WindowId)
  | discard (window : Option WindowId)
  | flush

structure FaultyDisplay where
  server : HeadlessDisplay
  screenNumber : UInt32
  failsRedirect : Bool
  failsRequest : Bool
  dropsReplies : Bool
  failsCreate : List WindowId
  handles : List (DamageHandle × WindowId)
  fetches : List (DamageFetch × WindowId)
  traffic : List DamageTraffic
deriving Inhabited

namespace FaultyDisplay

def ofServer (server : HeadlessDisplay) : FaultyDisplay where
  server := server
  screenNumber := 0
  failsRedirect := false
  failsRequest := false
  dropsReplies := false
  failsCreate := []
  handles := []
  fetches := []
  traffic := []

def modify (f : HeadlessDisplay → HeadlessDisplay) (d : FaultyDisplay) : FaultyDisplay :=
  { d with server := f d.server }

def log (t : DamageTraffic) (d : FaultyDisplay) : FaultyDisplay :=
  { d with traffic := d.traffic ++ [t] }

def claimSelection (s : String) (d : FaultyDisplay) : Except DisplayError Unit × FaultyDisplay :=
  let (result, server) := d.server.claimSelection s
  (result, { d with server := server })

def redirectSubwindows (d : FaultyDisplay) : Except DisplayError Unit × FaultyDisplay :=
  if d.failsRedirect then (.error (.missingExtension .composite), d)
  else
    let (result, server) := d.server.redirectSubwindows
    (result, { d with server := server })

def createDamage (w : WindowId) (d : FaultyDisplay) :
    Except DisplayError DamageHandle × FaultyDisplay :=
  if d.failsCreate.contains w then (.error (.missingExtension .damage), d)
  else
    match d.server.createDamage w with
    | (.error e, server) => (.error e, { d with server := server })
    | (.ok h, server) =>
      (.ok h, { d with server := server, handles := (h, w) :: d.handles })

def requestDamage (h : DamageHandle) (d : FaultyDisplay) :
    Except DisplayError DamageFetch × FaultyDisplay :=
  let window := d.handles.lookup h
  let d := d.log (.request window)
  if d.failsRequest then (.error (.unknownDamage h), d)
  else
    match d.server.requestDamage h with
    | (.error e, server) => (.error e, { d with server := server })
    | (.ok f, server) =>
      let fetches := match window with
        | none => d.fetches
        | some w => (f, w) :: d.fetches
      (.ok f, { d with server := server, fetches := fetches })

def damageReply (f : DamageFetch) (d : FaultyDisplay) : Option DamageReply × FaultyDisplay :=
  let (reply, server) := d.server.damageReply f
  (if d.dropsReplies then none else reply,
    { d with server := server }.log (.reply (d.fetches.lookup f)))

def discardReply (f : DamageFetch) (d : FaultyDisplay) : FaultyDisplay :=
  (d.modify (·.discardReply f)).log (.discard (d.fetches.lookup f))

def takeEvents (d : FaultyDisplay) : List DisplayEvent × FaultyDisplay :=
  let (events, server) := d.server.takeEvents
  (events, { d with server := server })

end FaultyDisplay

instance : DisplayServer FaultyDisplay where
  hasExtension d := d.server.hasExtension
  screenNumber := FaultyDisplay.screenNumber
  layout d := d.server.layout
  refreshRate? d := d.server.refreshRate?
  claimSelection := FaultyDisplay.claimSelection
  releaseSelection s := FaultyDisplay.modify (·.releaseSelection s)
  redirectSubwindows := FaultyDisplay.redirectSubwindows
  unredirectSubwindows := FaultyDisplay.modify (·.unredirectSubwindows)
  redirectWindow w := FaultyDisplay.modify (·.redirectWindow w)
  unredirectWindow w := FaultyDisplay.modify (·.unredirectWindow w)
  createDamage := FaultyDisplay.createDamage
  destroyDamage h := FaultyDisplay.modify (·.destroyDamage h)
  requestDamage := FaultyDisplay.requestDamage
  damageReply := FaultyDisplay.damageReply
  discardReply := FaultyDisplay.discardReply
  flush d := (d.modify (·.flush)).log .flush
  deleteRootProperty a := FaultyDisplay.modify (·.deleteRootProperty a)
  setOpacity w o := FaultyDisplay.modify (·.setOpacity w o)
  takeEvents := FaultyDisplay.takeEvents

end Compositing
