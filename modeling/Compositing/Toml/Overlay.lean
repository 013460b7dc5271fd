import Compositing.Toml.Value

/-! # One table laid over another -/

namespace Compositing.Toml

mutual

def Value.overlay : Value → Value → Value
  | .table lower, .table upper =>
    .table (overlayEntries lower upper ++ upper.filter fun e => (lower.lookup e.1).isNone)
  | _, upper => upper

def overlayEntries : Table → Table → Table
  | [], _ => []
  | (key, value) :: lower, upper =>
    (key, match upper.lookup key with
      | some top => value.overlay top
      | none => value) :: overlayEntries lower upper

end

def Value.overlay? : Option Value → Option Value → Option Value
  | some lower, some upper => some (lower.overlay upper)
  | some v, none => some v
  | none, v? => v?

end Compositing.Toml
