import Compositing.Pace.Timers

/-!
# The time budget of a frame

No vertical blank is waited for. The budget keeps the interval between frames and the time that the
last paint reports to have used up, in 64-bit words of nanoseconds.
-/

namespace Compositing

inductive Fault where
  /-- The refresh rate exceeds 10^9, so its period is no whole nanosecond. -/
  | divisionByZero
deriving DecidableEq

def Fault.message : Fault → String
  | .divisionByZero => "attempt to divide by zero"

def Nanos.toWord (n : Nanos) : Int64 := Int64.ofInt (min (n : Int) 9223372036854775807)

/-- The wait in milliseconds that is left of an interval, at least 1 and at most 250. -/
def waitMillis (interval consumed : Int64) : Nat :=
  if consumed < interval then
    let left := min (interval.toInt - consumed.toInt) 9223372036854775807
    min 250 (max 1 (left / 1000000).toNat)
  else 1

structure FrameBudget where
  interval : Int64
  refreshPeriod : Int64
  blankTime : Int64
  consumed : Int64
deriving DecidableEq, Inhabited

namespace FrameBudget

def intervalNanos (b : FrameBudget) : Nanos := b.interval.toInt.toNat

/-- As if the last paint ended so that the blank is just ahead. -/
def startNow (b : FrameBudget) : FrameBudget :=
  { b with consumed := b.interval - (b.blankTime + 1) }

def standard : FrameBudget := startNow ⟨1000000000 / 60, 1000000, 6000000, 0⟩

def periodAt (rate : UInt32) : Int64 :=
  1000000000 / (if rate == 0 then 60 else rate.toUInt64.toInt64)

/-- Sets the interval; a renderer that waits for the blank has it rounded down to whole
refresh periods, at least one. -/
def configure (b : FrameBudget) (interval : Nanos) (rate : UInt32) (syncs : Bool)
    (blankTime : Nanos) : Except Fault FrameBudget :=
  let wanted := max interval.toWord 1
  if syncs then
    let period := periodAt rate
    if period == 0 then .error .divisionByZero
    else
      .ok (startNow { b with
        interval := max (wanted / period * period) period
        refreshPeriod := period
        blankTime := blankTime.toWord })
  else
    .ok (startNow { b with
      interval := wanted
      refreshPeriod := 1000000
      blankTime := blankTime.toWord })

def nextWait (b : FrameBudget) : Nat := waitMillis b.interval b.consumed

def schedule (b : FrameBudget) (t : Timers) : Timers :=
  if t.isArmed .repaint then t else t.start .repaint (b.nextWait * 1000000)

def recordPaint (b : FrameBudget) (sinceBlank : Nanos) : FrameBudget :=
  { b with consumed := sinceBlank.toWord }

end FrameBudget

end Compositing
