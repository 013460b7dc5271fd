/-! # The parts of a binary number of 64 bits -/

namespace Compositing.Decimal

def twoTo (n : Int) : Rat :=
  if 0 ≤ n then (Nat.pow 2 n.toNat : Rat) else mkRat 1 (Nat.pow 2 (-n).toNat)

structure BinaryParts where
  negative : Bool
  exponent : Nat
  fraction : Nat
deriving DecidableEq

namespace BinaryParts

/-- What the leading digit of a mantissa counts, which is not among the bits that are kept. -/
def leading : Nat := 0x10000000000000

def ofFloat (f : Float) : BinaryParts :=
  let bits := f.toBits.toNat
  let magnitude := bits % 0x8000000000000000
  { negative := 0x8000000000000000 ≤ bits
    exponent := magnitude / leading
    fraction := magnitude % leading }

def isFinite (b : BinaryParts) : Bool := b.exponent != 2047

def mantissa (b : BinaryParts) : Nat := if b.exponent = 0 then b.fraction else b.fraction + leading

def unit (b : BinaryParts) : Rat := twoTo ((max 1 b.exponent : Nat) - 1075)

def magnitude (b : BinaryParts) : Rat := (b.mantissa : Rat) * b.unit

def value (b : BinaryParts) : Rat := if b.negative then -b.magnitude else b.magnitude

end BinaryParts

end Compositing.Decimal
