import Compositing.Decimal.Binary

/-!
# The shortest decimal text of a binary number

Of the decimal numbers that are nearer to it than to any other, one with the fewest digits is
taken, of two such the nearer one, and of two that are equally near the greater.
-/

namespace Compositing.Decimal

def tenTo (n : Int) : Rat :=
  if 0 ≤ n then (Nat.pow 10 n.toNat : Rat) else mkRat 1 (Nat.pow 10 (-n).toNat)

/-- A decimal number, `digits` · 10 ^ `exponent`. -/
structure Scaled where
  digits : Nat
  exponent : Int
deriving DecidableEq

namespace Scaled

def value (s : Scaled) : Rat := s.digits * tenTo s.exponent

def positional (s : Scaled) : String :=
  let digits := Nat.toDigits 10 s.digits
  if 0 ≤ s.exponent then
    String.ofList (digits ++ List.replicate s.exponent.toNat '0') ++ ".0"
  else
    let places := (-s.exponent).toNat
    let padded := List.replicate (places + 1 - digits.length) '0' ++ digits
    let whole := padded.length - places
    String.ofList (padded.take whole ++ '.' :: padded.drop whole)

end Scaled

/-- The reals that a binary number stands for. -/
structure Neighbourhood where
  low : Rat
  value : Rat
  high : Rat
  /-- Whether the ends belong to it. -/
  closed : Bool

namespace Neighbourhood

def holds (n : Neighbourhood) (x : Rat) : Bool :=
  (n.low < x && x < n.high) || (n.closed && (x == n.low || x == n.high))

def magnitude (n : Neighbourhood) : Int :=
  let k := ((Nat.toDigits 10 n.value.num.natAbs).length : Int) - (Nat.toDigits 10 n.value.den).length
  if n.value < tenTo k then k - 1 else k

/-- The better one of the two numbers next to the value that have `count` digits, if it lies in the
neighbourhood. -/
def withDigits? (n : Neighbourhood) (count : Nat) : Option Scaled :=
  let exponent := n.magnitude - count + 1
  let lower := (n.value / tenTo exponent).floor.toNat
  let below : Scaled := ⟨lower, exponent⟩
  let above : Scaled := if lower + 1 = Nat.pow 10 count then ⟨1, exponent + count⟩ else ⟨lower + 1, exponent⟩
  let order :=
    if n.value - below.value < above.value - n.value then [below, above] else [above, below]
  order.find? fun s => n.holds s.value

/-- Seventeen digits always suffice. -/
def shortest (n : Neighbourhood) : Scaled :=
  ((List.range 17).findSome? fun k => n.withDigits? (k + 1)).getD ⟨0, 0⟩

def ofParts (b : BinaryParts) : Neighbourhood :=
  -- just above a power of two the gap below is half the gap above
  let below := if b.fraction = 0 && 1 < b.exponent then b.unit / 4 else b.unit / 2
  { low := b.magnitude - below
    value := b.magnitude
    high := b.magnitude + b.unit / 2
    closed := b.mantissa % 2 == 0 }

end Neighbourhood

def text (f : Float) : String :=
  let b := BinaryParts.ofFloat f
  if !b.isFinite && b.fraction != 0 then "NaN"
  else
    (if b.negative then "-" else "") ++
      if !b.isFinite then "inf"
      else if b.mantissa = 0 then "0.0"
      else (Neighbourhood.ofParts b).shortest.positional

end Compositing.Decimal
