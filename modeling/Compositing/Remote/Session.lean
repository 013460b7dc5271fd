import Compositing.Remote.Request

/-!
# The loop around the compositor

In a turn the requests are answered, then the timers go off that were due when it began and still
are armed as they were. A turn takes a moment, so what is armed during it without any delay goes off
in the next one.
-/

namespace Compositing

structure Session (δ σ : Type) where
  compositor : Compositor δ σ
  requests : List ControlRequest
  replies : List ControlReply
  subscribers : List (String × List Event)
deriving Inhabited

namespace Session

variable {δ σ : Type} [DisplayServer δ] [Renderer σ]

def new (c : Compositor δ σ) : Session δ σ := ⟨c, [], [], []⟩

def send (r : ControlRequest) (s : Session δ σ) : Session δ σ :=
  { s with requests := s.requests ++ [r] }

def unsubscribe (name : String) (s : Session δ σ) : Session δ σ :=
  { s with subscribers := s.subscribers.filter (·.1 != name) }

/-- From now on the subscriber receives all news; what it had received is gone. -/
def subscribe (name : String) (s : Session δ σ) : Session δ σ :=
  { s with subscribers := (s.unsubscribe name).subscribers ++ [(name, [])] }

def publish (s : Session δ σ) : Session δ σ :=
  let (events, c) := s.compositor.takeEvents
  { s with
    compositor := c
    subscribers := s.subscribers.map fun (name, received) => (name, received ++ events) }

def answer (s : Session δ σ) (r : ControlRequest) : Session δ σ :=
  let (reply, c) := s.compositor.handleRequest r
  { s with compositor := c, replies := s.replies ++ [reply] }

def requestLimit : Nat := 1024

def answerAll (s : Session δ σ) : Session δ σ :=
  (s.requests.take requestLimit).foldl answer { s with requests := s.requests.drop requestLimit }

def fireBy (moment : Nanos) (limit : Nat) (c : Compositor δ σ) :
    List (TimerId × Compositor δ σ) × Compositor δ σ :=
  match limit, c.timers.popDue moment with
  | 0, _ | _, none => ([], c)
  | limit + 1, some (id, timers) =>
    let c := { c with timers := timers }
    let (fired, last) := fireBy moment limit (c.handleTimer id)
    ((id, c) :: fired, last)

def answered (s : Session δ σ) : Session δ σ :=
  let timers := s.compositor.timers.advanceTo (s.compositor.timers.now + 1)
  ({ s with compositor := { s.compositor with timers := timers } }).answerAll

/-- What goes off in a turn: the timers that were due when it began. -/
def firings (s : Session δ σ) : List (TimerId × Compositor δ σ) × Compositor δ σ :=
  fireBy s.compositor.timers.now TimerId.all.length s.answered.compositor

def turned (s : Session δ σ) : Session δ σ :=
  { s.answered with compositor := s.firings.2.dispatchDisplayEvents.2 }

def turnOnce (s : Session δ σ) : Session δ σ := s.turned.publish

def isQuiet (s : Session δ σ) : Bool :=
  s.requests.isEmpty && (s.compositor.timers.popDue s.compositor.timers.now).isNone

def turn (s : Session δ σ) : Nat → Session δ σ
  | 0 => s
  | limit + 1 =>
    let s := s.turnOnce
    if s.isQuiet then s else s.turn limit

def skipTime (s : Session δ σ) : Session δ σ :=
  match s.isQuiet, s.compositor.timers.first? with
  | true, some (_, moment) =>
    let timers := s.compositor.timers.advanceTo moment
    { s with compositor := { s.compositor with timers := timers } }
  | _, _ => s

def runUntil (done : Session δ σ → Bool) (s : Session δ σ) : Nat → Session δ σ
  | 0 => s
  | limit + 1 =>
    let s := s.skipTime.turnOnce
    if done s then s else s.runUntil done limit

def turnPast (moment : Nanos) (s : Session δ σ) : Nat → Session δ σ
  | 0 => s
  | limit + 1 =>
    let s := s.turnOnce
    let waiting := s.skipTime
    if s.isQuiet && (waiting.isQuiet || moment < waiting.compositor.timers.now) then
      let timers := s.compositor.timers.advanceTo moment
      { s with compositor := { s.compositor with timers := timers } }
    else waiting.turnPast moment limit

def turnFor (time : Nanos) (s : Session δ σ) (limit : Nat) : Session δ σ :=
  s.turnPast (s.compositor.timers.now + time) limit

def stop (s : Session δ σ) : Session δ σ :=
  ({ s with compositor := s.compositor.shutdown }).publish

end Session

end Compositing
