import Compositing.Decimal.Binary

/-!
# Opacity

An opacity comes as a binary number of 64 bits and is kept as the rational that it stands for.
-/

namespace Compositing

/-- How much a window covers what lies below it: 0 lets everything through, 1 nothing. Opacities
are numbers; what is no number has no counterpart here. -/
abbrev Opacity := Rat

namespace Opacity

def clamp (o : Opacity) : Opacity := if o < 0 then 0 else if 1 < o then 1 else o

def isFull (o : Opacity) : Bool := decide (1 ≤ o)

/-- The value of a finite binary number, which is all that comes from outside. -/
def ofFloat (f : Float) : Opacity := (Decimal.BinaryParts.ofFloat f).value

/-- The value of the binary number nearest to the decimal one `digits` · 10 ^ (-`places`). -/
def ofDecimal (digits : Int) (places : Nat) : Opacity :=
  let magnitude := ofFloat (Float.ofScientific digits.natAbs true places)
  if digits < 0 then -magnitude else magnitude

/-- The opacity in millionths, multiplied as a binary number and rounded to the nearest whole,
a half going away from zero. -/
def millionths (o : Opacity) : Int :=
  let scaled := ((Float.ofInt o.num).scaleB (-(Nat.log2 o.den : Int)) * 1000000).round
  if scaled < 0 then -((-scaled).toUInt64.toNat : Int) else (scaled.toUInt64.toNat : Int)

end Opacity

end Compositing
