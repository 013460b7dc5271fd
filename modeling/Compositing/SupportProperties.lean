import Compositing.Display.Server
import Compositing.Pace.Timers

/-!
# Support properties of the root window

A property that is let go is deleted by a sweep two seconds later, unless something claims it again
until then.
-/

namespace Compositing

def supportSweepDelay : Nanos := 2000000000

inductive SweepOutcome where
  | postponed
  | swept (count : Nat)
deriving DecidableEq

def SweepOutcome.describe : SweepOutcome → String
  | .postponed => "Deferred"
  | .swept count => "Swept(" ++ toString count ++ ")"

structure SupportProperties where
  pending : List Atom
deriving DecidableEq, Inhabited

namespace SupportProperties

def empty : SupportProperties := ⟨[]⟩

def keep (a : Atom) (s : SupportProperties) : SupportProperties :=
  ⟨s.pending.filter (· != a)⟩

def remove (a : Atom) (s : SupportProperties) (t : Timers) : SupportProperties × Timers :=
  (if s.pending.contains a then s else ⟨s.pending ++ [a]⟩, t.start .supportSweep supportSweepDelay)

/-- Deletes the waiting properties, or puts the sweep off while the compositor is busy. -/
def sweep {δ : Type} [DisplayServer δ] (busy : Bool) (s : SupportProperties) (d : δ) (t : Timers) :
    SweepOutcome × SupportProperties × δ × Timers :=
  if busy then (.postponed, s, d, t.start .supportSweep supportSweepDelay)
  else
    (.swept s.pending.length, empty,
      s.pending.foldl (fun d a => DisplayServer.deleteRootProperty a d) d, t)

end SupportProperties

end Compositing
