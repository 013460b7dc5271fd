import Compositing.Toml.Scalar

/-!
# Texts that state a point in time

In each part the order of digits and marks is looked at first, then the counts of digits, and then
their values.
-/

namespace Compositing.Toml

/-- What keeps a text from stating a point in time: the part that is wrong and, where one thing
was missing, what that is. -/
structure MomentFlaw where
  part : String
  wanted? : Option String
deriving DecidableEq

abbrev MomentReader := StateT (List Char) (Except MomentFlaw)

namespace MomentReader

def demand (holds : Bool) (part wanted : String) : MomentReader Unit :=
  unless holds do throw ⟨part, some wanted⟩

/-- The digits from here on, of which there must be one. -/
def digits (part wanted : String) : MomentReader (List Char) := do
  let (taken, rest) := (← get).span Char.isDigit
  demand (!taken.isEmpty) part wanted
  set rest
  return taken

def mark (c : Char) (part wanted : String) : MomentReader Unit := do
  let rest ← get
  demand (rest.head? == some c) part wanted
  set rest.tail

def value (digits : List Char) : Nat := Text.number 10 digits

def date : MomentReader Date := do
  let year ← digits "datetime" "year or hour"
  mark '-' "datetime" "`-` (YYYY-MM) or `:` (HH:MM)"
  let month ← digits "date" "month"
  mark '-' "date" "`-` (MM-DD)"
  let day ← digits "date" "day"
  demand (year.length = 4) "date" "a four-digit year (YYYY)"
  demand (month.length = 2) "date" "a two-digit month (MM)"
  demand (day.length = 2) "date" "a two-digit day (DD)"
  let d : Date := ⟨value year, value month, value day⟩
  let last := daysInMonth d.year d.month
  demand (1 ≤ d.month && d.month ≤ 12) "date" "month between 01 and 12"
  demand (1 ≤ d.day && d.day ≤ last) "date" ("day between 01 and " ++ toString last)
  return d

def fraction : MomentReader (List Char) := do
  if (← get).head? = some '.' then
    set (← get).tail
    digits "time" "nanosecond"
  else return []

def time : MomentReader Time := do
  let hour ← digits "time" "hour"
  mark ':' "time" "`:` (HH:MM)"
  let minute ← digits "time" "minute"
  mark ':' "time" "`:` (MM:SS)"
  let second ← digits "time" "second"
  let fraction ← fraction
  demand (hour.length = 2) "time" "a two-digit hour (HH)"
  demand (minute.length = 2) "time" "a two-digit minute (MM)"
  demand (second.length = 2) "time" "a two-digit second (SS)"
  let t : Time := ⟨value hour, value minute, value second, nanoseconds fraction⟩
  demand (t.hour ≤ 23) "time" "hour between 00 and 23"
  demand (t.minute ≤ 59) "time" "minute between 00 and 59"
  demand (t.second ≤ 60) "time" "second between 00 and 60"
  return t

def distance : MomentReader Nat := do
  let hour ← digits "offset" "hour"
  mark ':' "offset" "`:` (HH:MM)"
  let minute ← digits "offset" "minute"
  demand (hour.length = 2) "offset" "a two-digit hour (HH)"
  demand (minute.length = 2) "offset" "a two-digit minute (MM)"
  demand (value hour ≤ 23) "offset" "hours between 00 and 23"
  demand (value minute ≤ 59) "offset" "minutes between 00 and 59"
  return value hour * 60 + value minute

def offset : MomentReader (Option Offset) := do
  match ← get with
  | [] => return none
  | c :: rest =>
    set rest
    demand (['Z', 'z', '+', '-'].contains c) "offset" "`Z`, +OFFSET, -OFFSET"
    if c = '+' || c = '-' then return some (.by (signed (c = '-') (← distance)))
    else return some .zero

def clock (d : Date) : MomentReader Moment := do
  match ← get with
  | [] => return .date d
  | c :: rest =>
    set rest
    demand (['T', 't', ' '].contains c) "date-time" "`T` between date and time"
    let t ← time
    return .dateTime d t (← offset)

/-- Digits before a colon begin a time, and a time alone has no offset. -/
def moment : MomentReader Moment := do
  if ((← get).dropWhile Char.isDigit).head? = some ':' && (← get).head? ≠ some ':' then
    return .time (← time)
  else clock (← date)

end MomentReader

def Moment.ofText (s : String) : Except MomentFlaw Moment := do
  let (m, rest) ← MomentReader.moment s.toList
  if rest.isEmpty then return m else throw ⟨"datetime", none⟩

end Compositing.Toml
