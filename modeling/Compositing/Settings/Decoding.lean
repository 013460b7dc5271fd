import Compositing.Settings.Mismatch
import Compositing.Settings.Options

/-!
# Settings from a table

A single document is read in its own order. Layers that were merged are read in the order of their
keys, a point in time in them counts as its text, and an array may have no surplus items.
-/

namespace Compositing

open Toml (Value Table)

inductive Reading where
  | document
  | layers
deriving DecidableEq

namespace Reading

/-- What a value counts as where no choice is read. -/
def seen (r : Reading) : Value → Value
  | .moment m =>
    match r with
    | .document => .table [(Toml.momentKey, .string m.text)]
    | .layers => .string m.text
  | .tables items => .array (items.map .table)
  | v => v

def ordered (r : Reading) (t : Table) : Table :=
  match r with
  | .document => t
  | .layers => t.mergeSort fun a b => decide (a.1 ≤ b.1)

def wrong (r : Reading) (v : Value) (wanted : String) : Except Mismatch α :=
  throw (.wrongType (Mismatch.described (r.seen v)) wanted)

def text (r : Reading) (wanted : String) (v : Value) : Except Mismatch String :=
  match r.seen v with
  | .string s => return s
  | _ => r.wrong v wanted

def truth (r : Reading) (v : Value) : Except Mismatch Bool :=
  match v with
  | .boolean b => return b
  | _ => r.wrong v "a boolean"

def word (r : Reading) (v : Value) : Except Mismatch UInt32 :=
  match v with
  | .integer n =>
    if 0 ≤ n ∧ n < 4294967296 then return UInt32.ofNat n.toNat else throw (.outOfRange n "u32")
  | _ => r.wrong v "u32"

/-- What goes with a choice must be empty. -/
def noContent (r : Reading) : Value → Except Mismatch Unit
  | .table [] | .array [] | .tables [] => return ()
  | .table _ => throw (.contentInChoice "table")
  | .array _ => throw (.contentInChoice (if r = .document then "table" else "array"))
  | .tables _ => throw (.contentInChoice "array")
  | v => throw (.valueInChoice v.kind)

def choice (r : Reading) (named : List (String × α)) (v : Value) : Except Mismatch α :=
  let find (name : String) : Except Mismatch α :=
    match named.lookup name with
    | some a => return a
    | none => throw (.unknownChoice name (named.map (·.1)))
  match v with
  | .string name => find name
  | .table [] => throw .emptyChoice
  | .table [(name, content)] => do
    let a ← find name
    r.noContent content
    return a
  | .table _ => throw .severalChoices
  | _ => throw (if r = .document then .noChoice else .wrongType "unit variant" "string only")

def record (r : Reading) (name : String) (keys : List String)
    (set : α → String → Value → Except Mismatch α) (standard : α) (v : Value) :
    Except Mismatch α :=
  match r.seen v with
  | .table entries =>
    (r.ordered entries).foldlM (fun a e =>
      if keys.contains e.1 then set a e.1 e.2 else throw (.unknownKey e.1 keys)) standard
  | .array items => do
    let a ← (keys.zip items).foldlM (fun a e => set a e.1 e.2) standard
    if r = .layers ∧ keys.length < items.length then throw (.surplusItems items.length)
    return a
  | _ => r.wrong v ("struct " ++ name)

end Reading

namespace LoggingOptions

def keys : List String := ["level", "file_path", "format"]

def set (r : Reading) (o : LoggingOptions) (key : String) (v : Value) :
    Except Mismatch LoggingOptions := do
  match key with
  | "level" => return { o with level := ← r.text "a string" v }
  | "file_path" => return { o with file? := some (← r.text "path string" v) }
  | _ => return { o with format := ← r.text "a string" v }

def ofValue (r : Reading) (v : Value) : Except Mismatch LoggingOptions :=
  r.record "LoggingConfig" keys (set r) .standard v

def toTable (o : LoggingOptions) : Table :=
  [("level", .string o.level)] ++ (o.file?.map fun f => ("file_path", .string f)).toList ++
    [("format", .string o.format)]

end LoggingOptions

namespace CompositingOptions

def keys : List String :=
  ["enabled", "backend", "max_fps", "refresh_rate", "vblank_time_us", "unredirect_fullscreen",
    "suspend_shortcut"]

def set (r : Reading) (o : CompositingOptions) (key : String) (v : Value) :
    Except Mismatch CompositingOptions := do
  match key with
  | "enabled" => return { o with enabled := ← r.truth v }
  | "backend" =>
    return { o with backend := ← r.choice (Backend.all.map fun b => (b.name, b)) v }
  | "max_fps" => return { o with maxFps := ← r.word v }
  | "refresh_rate" => return { o with refreshRate := ← r.word v }
  | "vblank_time_us" => return { o with blankTimeMicros := ← r.word v }
  | "unredirect_fullscreen" => return { o with bypassFullscreen := ← r.truth v }
  | _ => return { o with suspendShortcut? := some (← r.text "a string" v) }

def ofValue (r : Reading) (v : Value) : Except Mismatch CompositingOptions :=
  r.record "CompositingConfig" keys (set r) .standard v

def toTable (o : CompositingOptions) : Table :=
  [("enabled", .boolean o.enabled), ("backend", .string o.backend.name),
    ("max_fps", .integer o.maxFps.toNat), ("refresh_rate", .integer o.refreshRate.toNat),
    ("vblank_time_us", .integer o.blankTimeMicros.toNat),
    ("unredirect_fullscreen", .boolean o.bypassFullscreen)] ++
    (o.suspendShortcut?.map fun s => ("suspend_shortcut", .string s)).toList

end CompositingOptions

namespace Settings

def keys : List String := ["logging", "compositing"]

def set (r : Reading) (o : Settings) (key : String) (v : Value) : Except Mismatch Settings := do
  match key with
  | "logging" => return { o with logging := ← LoggingOptions.ofValue r v }
  | _ => return { o with compositing := ← CompositingOptions.ofValue r v }

def ofValue (r : Reading) (v : Value) : Except Mismatch Settings :=
  r.record "CoreConfig" keys (set r) .standard v

/-- An option without a value is left out. -/
def toTable (o : Settings) : Table :=
  [("logging", .table o.logging.toTable), ("compositing", .table o.compositing.toTable)]

end Settings

end Compositing
