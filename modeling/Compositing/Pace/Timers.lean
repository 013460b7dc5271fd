/-!
# Named timers on a virtual clock

Timers armed for the same moment go off in the order in which they were armed, which is the order
of the list.
-/

namespace Compositing

/-- A length of time, or a moment after the clock's start, in nanoseconds. -/
abbrev Nanos := Nat

inductive TimerId where
  | repaint
  | bypassCheck
  | bypassRetry
  | supportSweep
  | restart
  | deferred
deriving DecidableEq, Inhabited

def TimerId.all : List TimerId :=
  [.repaint, .bypassCheck, .bypassRetry, .supportSweep, .restart, .deferred]

def TimerId.name : TimerId → String
  | .repaint => "Repaint"
  | .bypassCheck => "UnredirectCheck"
  | .bypassRetry => "UnredirectRetry"
  | .supportSweep => "SupportSweep"
  | .restart => "Restart"
  | .deferred => "Deferred"

structure Timers where
  now : Nanos
  armed : List (TimerId × Nanos)
deriving Inhabited

namespace Timers

def new : Timers := ⟨0, []⟩

def stop (t : Timers) (id : TimerId) : Timers :=
  { t with armed := t.armed.filter (fun e => e.1 != id) }

def start (t : Timers) (id : TimerId) (after : Nanos) : Timers :=
  { t with armed := (t.stop id).armed ++ [(id, t.now + after)] }

def deadline? (t : Timers) (id : TimerId) : Option Nanos :=
  (t.armed.find? (fun e => e.1 == id)).map (·.2)

def isArmed (t : Timers) (id : TimerId) : Bool := (t.deadline? id).isSome

def remaining? (t : Timers) (id : TimerId) : Option Nanos := (t.deadline? id).map (· - t.now)

/-- Of two timers the one that goes off first: the later in the list only if its moment
is strictly before. -/
def sooner (a b : TimerId × Nanos) : TimerId × Nanos := if b.2 < a.2 then b else a

def first? (t : Timers) : Option (TimerId × Nanos) :=
  match t.armed with
  | [] => none
  | e :: es => some (es.foldl sooner e)

/-- Takes off the first timer due at or before `target` and moves the clock to its moment,
if that lies ahead. -/
def popDue (t : Timers) (target : Nanos) : Option (TimerId × Timers) :=
  match t.first? with
  | none => none
  | some (id, moment) =>
    if moment ≤ target then some (id, { t.stop id with now := max t.now moment }) else none

def take (t : Timers) (target : Nanos) : Option TimerId × Timers :=
  match t.popDue target with
  | none => (none, t)
  | some (id, t) => (some id, t)

def advanceTo (t : Timers) (target : Nanos) : Timers := { t with now := max t.now target }

end Timers

end Compositing
