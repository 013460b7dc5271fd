import Compositing.Toml.Document
import Compositing.Toml.MomentText

/-!
# Tables that stand for points in time

A table whose first key is `momentKey` has the text of the point under it, and its other keys say
nothing.
-/

namespace Compositing.Toml

def momentKey : String := "$__toml_private_datetime"

inductive NoMoment where
  | noText (found : Value)
  | flawed (flaw : MomentFlaw)

def Value.toMoment : Value → Except NoMoment Value
  | .string s => (Moment.ofText s).mapError .flawed |>.map .moment
  | v => throw (.noText v)

def Table.settle (entries : Table) (settled : Except NoMoment Table) : Except NoMoment Value :=
  match entries with
  | (key, v) :: _ => if key = momentKey then v.toMoment else .table <$> settled
  | [] => .table <$> settled

mutual

/-- The value with points in time in the places of the tables that stand for them, and each array of
tables as a plain array. -/
def Value.settled : Value → Except NoMoment Value
  | .table entries => Table.settle entries (settledEntries entries)
  | .array items => .array <$> settledItems items
  | .tables items => .array <$> settledTables items
  | v => return v

def settledEntries : Table → Except NoMoment Table
  | [] => return []
  | (key, v) :: rest => return (key, ← v.settled) :: (← settledEntries rest)

def settledItems : List Value → Except NoMoment (List Value)
  | [] => return []
  | v :: rest => return (← v.settled) :: (← settledItems rest)

def settledTables : List Table → Except NoMoment (List Value)
  | [] => return []
  | t :: rest => return (← Table.settle t (settledEntries t)) :: (← settledTables rest)

end

def isSound (s : String) : Bool :=
  match Table.ofText? s with
  | some t => (settledEntries t).isOk
  | none => false

end Compositing.Toml
