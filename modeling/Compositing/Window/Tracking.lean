import Compositing.Window.Toplevel

/-!
# Damage of a window

A report of damage marks the window and nothing else; the pixels are fetched once for each frame.
Operations on a window that is not tracked do nothing.
-/

namespace Compositing

namespace Toplevel

variable {δ σ : Type} [DisplayServer δ] [Renderer σ]

def addDamageFull (w : Toplevel) : Toplevel :=
  if w.damage?.isNone then w
  else { w with
    damageRegion := Region.ofRect w.localRect
    windowRepaints := w.windowRepaints.addRect w.localRect }

def discardPixmap (w : Toplevel) (r : σ) : Toplevel × σ :=
  (w.addDamageFull, Renderer.pixmapDiscarded w.id r)

/-- Starts to track a window that is neither tracked nor a placeholder. All of it counts as
damaged, since it may have been drawn to before. The flag tells whether tracking began. -/
def track (w : Toplevel) (d : δ) (r : σ) : Bool × Toplevel × δ × σ :=
  if w.damage?.isSome || w.isPlaceholder then (false, w, d, r)
  else
    match DisplayServer.createDamage w.id d with
    | (.error _, d) => (false, w, d, r)
    | (.ok handle, d) =>
      let w := { w with
        damage? := some handle
        damageRegion := Region.ofRect w.localRect
        unredirected := false }
      let r := Renderer.windowAdded w.id r
      (true, if w.kind = .unmanaged then w.addDamageFull else w, d, r)

def untrack (w : Toplevel) (d : δ) (r : σ) : Bool × Toplevel × δ × σ :=
  match w.damage? with
  | none => (false, w, d, r)
  | some handle =>
    let (w, r) := w.discardPixmap r
    let d := match w.pendingFetch? with
      | none => d
      | some fetch => DisplayServer.discardReply fetch d
    (true,
      { w with
        damage? := none
        damageRegion := Region.empty
        windowRepaints := Region.empty
        layerRepaints := Region.empty
        isDamaged := false
        pendingFetch? := none
        unredirected := false },
      DisplayServer.destroyDamage handle d, r)

def damageNotify (w : Toplevel) : Bool × Toplevel :=
  if w.damage?.isNone then (false, w)
  else (true, { w with
    isDamaged := true
    readyForPainting := w.readyForPainting || w.isClient })

/-- Asks for the damage of a window that is damaged, unless a reply is still awaited. The flag
tells whether there is a reply to collect; a request that fails is not repeated. -/
def requestDamage (w : Toplevel) (d : δ) : Bool × Toplevel × δ :=
  if !w.isDamaged || w.pendingFetch?.isSome then (false, w, d)
  else
    let w := { w with isDamaged := false }
    match w.damage? with
    | none => (false, w, d)
    | some handle =>
      match DisplayServer.requestDamage handle d with
      | (.error _, d) => (false, w, d)
      | (.ok fetch, d) => (true, { w with pendingFetch? := some fetch }, d)

/-- The pixels that a reply stands for: its rectangles if there are from 2 to 15 of them, else
the rectangle around them. -/
def replyRegion (reply : DamageReply) : Region :=
  if 2 ≤ reply.rects.length ∧ reply.rects.length < 16 then Region.ofRects reply.rects
  else Region.ofRect reply.extents

/-- Adds fetched damage to what is damaged and to what is to be painted. The flag tells whether
there was any. -/
def collectDamage (w : Toplevel) (d : δ) : Bool × Toplevel × δ :=
  match w.pendingFetch? with
  | none => (false, w, d)
  | some fetch =>
    let w := { w with pendingFetch? := none }
    match DisplayServer.damageReply fetch d with
    | (none, d) => (false, w, d)
    | (some reply, d) =>
      let region := replyRegion reply
      if region.isEmpty then (false, w, d)
      else
        (true, { w with
          damageRegion := w.damageRegion.union region
          windowRepaints := w.windowRepaints.union region }, d)

def addRepaint (g : Region) (w : Toplevel) : Toplevel :=
  if w.damage?.isNone then w else { w with windowRepaints := w.windowRepaints.union g }

def addRepaintFull (w : Toplevel) : Toplevel :=
  if w.damage?.isNone then w else { w with windowRepaints := Region.ofRect w.localRect }

/-- Adds a region in screen coordinates. -/
def addLayerRepaint (g : Region) (w : Toplevel) : Toplevel :=
  if w.damage?.isNone then w else { w with layerRepaints := w.layerRepaints.union g }

def repaints (w : Toplevel) : Region :=
  (w.windowRepaints.translate w.geometry.origin).union w.layerRepaints

def hasPendingRepaints (w : Toplevel) : Bool :=
  !w.windowRepaints.isEmpty || !w.layerRepaints.isEmpty

def resetRepaints (w : Toplevel) : Toplevel :=
  { w with windowRepaints := Region.empty, layerRepaints := Region.empty }

def resetDamage (w : Toplevel) : Toplevel := { w with damageRegion := Region.empty }

/-- A letter for each thing that holds of the window: a handle, damage, a pending reply, being
unredirected, ready for painting, shaped, with an alpha channel, kept from bypassing, and not
painted yet. -/
def flags (w : Toplevel) : String :=
  String.ofList ([(w.damage?.isSome, 'H'), (w.isDamaged, 'D'), (w.pendingFetch?.isSome, 'P'),
    (w.unredirected, 'U'), (w.readyForPainting, 'R'), (w.shaped, 'S'), (w.hasAlpha, 'A'),
    (w.bypassSuspended, 'X'), (w.hasPendingRepaints, 'N')].filterMap
      fun e => if e.1 then some e.2 else none)

def paintInfo (w : Toplevel) : WindowPaint where
  id := w.id
  geometry := w.geometry
  opacity := w.opacity
  damage := w.damageRegion
  repaints := w.repaints
  unredirected := w.unredirected

end Toplevel

end Compositing
