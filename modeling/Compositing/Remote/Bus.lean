import Compositing.Remote.Request

/-! # The message bus, on which requests are members and news are signals -/

namespace Compositing

inductive BusValue where
  | truth (b : Bool)
  | text (s : String)
deriving DecidableEq

inductive BusError where
  | unknownMethod
  | invalidArguments (reason : String)
  | failed (reason : String)
deriving DecidableEq

inductive ServeError where
  | noBus
  | nameTaken
deriving DecidableEq

namespace Bus

def name : String := "org.novade.Compositing"

def object : String := "/Compositor"

inductive NameReply where
  | owner
  | queued
  | taken
deriving DecidableEq

def NameReply.ofNumber (n : Nat) : NameReply :=
  if n = 3 then .taken else if n = 2 then .queued else .owner

def serve (reply? : Option NameReply) : Except ServeError Unit × List String :=
  match reply? with
  | none => (.error .noBus, [])
  | some .taken => (.error .nameTaken, [name])
  | some _ => (.ok (), [name])

def reason (argument? : Option BusValue) : Except BusError Suspension :=
  match argument? with
  | some (.text s) =>
    match Suspension.ofControlName? s with
    | some r => .ok r
    | none => .error (.invalidArguments ("unknown suspend reason '" ++ s ++ "'"))
  | _ => .error (.invalidArguments "a text is wanted")

def truth (argument? : Option BusValue) : Except BusError Bool :=
  match argument? with
  | some (.truth b) => .ok b
  | _ => .error (.invalidArguments "a truth value is wanted")

def request (member : String) (argument? : Option BusValue) : Except BusError ControlRequest :=
  match member with
  | "ToggleCompositing" => .ok .toggleCompositing
  | "SetCompositing" => ControlRequest.setCompositing <$> truth argument?
  | "Suspend" => ControlRequest.suspend <$> reason argument?
  | "Resume" => ControlRequest.resume <$> reason argument?
  | "IsActive" => .ok .isActive
  | "CompositingType" => .ok .compositingType
  | "IsCompositingPossible" => .ok .isCompositingPossible
  | "CompositingNotPossibleReason" => .ok .notPossibleReason
  | "Reinitialize" => .ok .startOver
  | _ => .error .unknownMethod

def withoutLoop (member : String) (argument? : Option BusValue) : BusError :=
  match request member argument? with
  | .ok _ => .failed "compositor is not running"
  | .error e => e

def signal : Event → String × BusValue
  | .toggled active => ("CompositingToggled", .truth active)
  | .suspendedNotice message => ("SuspendedNotice", .text message)

end Bus

end Compositing
