import Compositing.Toml.Quotation
import Compositing.Toml.Value

/-! # Numbers, truth values and points in time -/

namespace Compositing.Toml

open Reader
open Text (hexDigit? number)

/-- Digits, between any two of which an underscore may stand. -/
def digits (p : Char → Bool) : Reader (List Char) := do
  let first ← one p
  return first :: (← many (one p <|> (char '_' *> one p)))

def sign : Reader Bool := (do char '-'; return true) <|> (do char '+'; return false) <|> pure false

/-- Decimal digits that do not begin with a zero, or a single zero. -/
def decimalDigits : Reader (List Char) :=
  (do guard ((← peek?) != some '0'); digits Char.isDigit) <|> (do return [← one (· == '0')])

def signed (negative : Bool) (n : Nat) : Int := if negative then -(n : Int) else n

def inBase (mark : String) (base : Nat) (p : Char → Bool) : Reader Int := do
  text mark
  return number base (← digits p)

def integer : Reader Int := do
  let n ← inBase "0x" 16 (fun c => (hexDigit? c).isSome) <|>
    inBase "0o" 8 (fun c => '0' ≤ c && c ≤ '7') <|>
    inBase "0b" 2 (fun c => c == '0' || c == '1') <|>
    (do let negative ← sign; return signed negative (number 10 (← decimalDigits)))
  guard (-9223372036854775808 ≤ n && n ≤ 9223372036854775807)
  return n

def nearest (mantissa : Nat) (exponent : Int) : Float :=
  let size : Int := (Nat.toDigits 10 mantissa).length + exponent
  if mantissa = 0 || size < -400 then 0
  else if 400 < size then 1 / 0
  else Float.ofScientific mantissa (decide (exponent < 0)) exponent.natAbs

def exponent : Reader Int := do
  let _ ← one fun c => c == 'e' || c == 'E'
  let negative ← sign
  return signed negative (number 10 (← digits Char.isDigit))

/-- A number with a fraction, an exponent or both. One that is too large is refused, unless it is
negative. -/
def fractional : Reader Float := do
  let negative ← sign
  let whole ← decimalDigits
  let fraction ← optional (char '.' *> digits Char.isDigit)
  let power ← optional exponent
  guard (fraction.isSome || power.isSome)
  let fraction := fraction.getD []
  let magnitude := nearest (number 10 (whole ++ fraction)) (power.getD 0 - fraction.length)
  guard (negative || magnitude.isFinite)
  return if negative then -magnitude else magnitude

def specialFloat : Reader Float := do
  let negative ← sign
  let magnitude : Float ← (do text "inf"; return 1 / 0) <|> (do text "nan"; return 0 / 0)
  return if negative then -magnitude else magnitude

def float : Reader Float := fractional <|> specialFloat

def field (count low high : Nat) : Reader Nat := do
  let n := number 10 (← exactly count Char.isDigit)
  guard (low ≤ n && n ≤ high)
  return n

def daysInMonth (year month : Nat) : Nat :=
  if month = 2 then
    if year % 4 = 0 && (year % 100 != 0 || year % 400 = 0) then 29 else 28
  else if month = 4 || month = 6 || month = 9 || month = 11 then 30
  else 31

def date : Reader Date := do
  let year ← field 4 0 9999
  char '-'
  let month ← field 2 1 12
  char '-'
  let day ← field 2 1 31
  guard (day ≤ daysInMonth year month)
  return ⟨year, month, day⟩

/-- Digits of a second beyond the ninth are left out. -/
def nanoseconds (fraction : List Char) : Nat :=
  let kept := fraction.take 9
  number 10 kept * Nat.pow 10 (9 - kept.length)

def time : Reader Time := do
  let hour ← field 2 0 23
  char ':'
  let minute ← field 2 0 59
  char ':'
  let second ← field 2 0 60
  let fraction ← optional (char '.' *> run1 Char.isDigit)
  return ⟨hour, minute, second, nanoseconds (fraction.getD [])⟩

def offset : Reader Offset :=
  (do let _ ← one fun c => c == 'Z' || c == 'z'; return .zero) <|> do
    let mark ← one fun c => c == '+' || c == '-'
    let hour ← field 2 0 23
    char ':'
    let minute ← field 2 0 59
    return .by (signed (mark == '-') (hour * 60 + minute))

def moment : Reader Moment :=
  (do
    let d ← date
    let rest ← optional do
      let _ ← one fun c => c == 'T' || c == 't' || c == ' '
      return (← time, ← optional offset)
    return match rest with
      | some (t, o) => .dateTime d t o
      | none => .date d) <|> Moment.time <$> time

def scalar : Reader Value :=
  Value.string <$> anyString <|> Value.moment <$> moment <|> Value.float <$> float <|>
    Value.integer <$> integer <|> (do text "true"; return .boolean true) <|>
    (do text "false"; return .boolean false)

end Compositing.Toml
