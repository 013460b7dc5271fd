import Compositing.Window.Bypass

/-!
# What the operations on one window come to

Each operation of the damage pipeline and of the bypass on one window has few outcomes.
They are listed here once, with all that each of them changes.
-/

namespace Compositing

namespace Opacity

theorem clamp_le_one (o : Opacity) : o.clamp ≤ 1 := by
  rw [clamp]
  split
  · decide
  · split
    · exact Rat.le_refl
    · rename_i within
      exact Rat.not_lt.mp within

end Opacity

namespace Toplevel

variable {δ σ : Type} [DisplayServer δ] [Renderer σ]

def released (w : Toplevel) : Toplevel :=
  { w with
    damage? := none
    damageRegion := Region.empty
    windowRepaints := Region.empty
    layerRepaints := Region.empty
    isDamaged := false
    pendingFetch? := none
    unredirected := false }

/-- The pixels that the collected reply to a request brings: those of its rectangles if there are
from 2 to 15 of them, else all within its extents. -/
def received (fetch : DamageFetch) (d : δ) : Region :=
  match (DisplayServer.damageReply fetch d).1 with
  | none => Region.empty
  | some reply =>
    if 2 ≤ reply.rects.length ∧ reply.rects.length < 16 then Region.ofRects reply.rects
    else Region.ofRect reply.extents

theorem received_eq {fetch : DamageFetch} {d : δ} {reply : DamageReply}
    (answer : (DisplayServer.damageReply fetch d).1 = some reply) :
    received fetch d = replyRegion reply := by
  rw [received, answer]
  rfl

theorem hasPendingRepaints_iff {w : Toplevel} : w.hasPendingRepaints = true ↔
    w.windowRepaints.isEmpty = false ∨ w.layerRepaints.isEmpty = false := by
  simp [hasPendingRepaints]

/-- The two differ at most in looks and in what is to be painted of them. No opacity comes out of
bounds. -/
structure Same (w w' : Toplevel) : Prop where
  id : w'.id = w.id
  kind : w'.kind = w.kind
  damage : w'.damage? = w.damage?
  awaited : w'.pendingFetch? = w.pendingFetch?
  dirty : w'.isDamaged = w.isDamaged
  direct : w'.unredirected = w.unredirected
  bounded : w.opacity ≤ 1 → w'.opacity ≤ 1

theorem Same.refl (w : Toplevel) : Same w w :=
  ⟨rfl, rfl, rfl, rfl, rfl, rfl, fun most => most⟩

def SameRepaints (w w' : Toplevel) : Prop :=
  w'.windowRepaints = w.windowRepaints ∧ w'.layerRepaints = w.layerRepaints

/-- As much is damaged of the one as of the other, and they cover the same place. -/
def SameDamage (w w' : Toplevel) : Prop :=
  w'.geometry = w.geometry ∧ w'.damageRegion = w.damageRegion

theorem addDamageFull_same (w : Toplevel) : Same w w.addDamageFull := by
  rw [addDamageFull]
  split <;> exact ⟨rfl, rfl, rfl, rfl, rfl, rfl, fun most => most⟩

theorem addRepaint_same (g : Region) (w : Toplevel) : Same w (w.addRepaint g) := by
  rw [addRepaint]
  split <;> exact ⟨rfl, rfl, rfl, rfl, rfl, rfl, fun most => most⟩

theorem addRepaintFull_same (w : Toplevel) : Same w w.addRepaintFull := by
  rw [addRepaintFull]
  split <;> exact ⟨rfl, rfl, rfl, rfl, rfl, rfl, fun most => most⟩

theorem addLayerRepaint_same (g : Region) (w : Toplevel) : Same w (w.addLayerRepaint g) := by
  rw [addLayerRepaint]
  split <;> exact ⟨rfl, rfl, rfl, rfl, rfl, rfl, fun most => most⟩

theorem addRepaint_sameDamage (g : Region) (w : Toplevel) : SameDamage w (w.addRepaint g) := by
  rw [addRepaint]
  split <;> exact ⟨rfl, rfl⟩

theorem addRepaintFull_sameDamage (w : Toplevel) : SameDamage w w.addRepaintFull := by
  rw [addRepaintFull]
  split <;> exact ⟨rfl, rfl⟩

theorem addLayerRepaint_sameDamage (g : Region) (w : Toplevel) :
    SameDamage w (w.addLayerRepaint g) := by
  rw [addLayerRepaint]
  split <;> exact ⟨rfl, rfl⟩

theorem addDamageFull_cases (w : Toplevel) :
    (w.damage? = none ∧ w.addDamageFull = w) ∨
      (w.damage?.isSome = true ∧ w.addDamageFull = { w with
        damageRegion := Region.ofRect w.localRect
        windowRepaints := w.windowRepaints.addRect w.localRect }) := by
  rw [addDamageFull]
  cases w.damage? with
  | none => exact Or.inl ⟨rfl, rfl⟩
  | some handle => exact Or.inr ⟨rfl, rfl⟩

theorem track_cases (w : Toplevel) (d : δ) (r : σ) :
    ((w.damage?.isSome || w.isPlaceholder) = true ∧ w.track d r = (false, w, d, r)) ∨
      (w.damage? = none ∧ w.isPlaceholder = false ∧
        ((∃ e d', DisplayServer.createDamage w.id d = (.error e, d') ∧
            w.track d r = (false, w, d', r)) ∨
          ∃ handle d', DisplayServer.createDamage w.id d = (.ok handle, d') ∧
            w.track d r = (true, { w with
              damage? := some handle
              damageRegion := Region.ofRect w.localRect
              unredirected := false
              windowRepaints := if w.kind = .unmanaged then w.windowRepaints.addRect w.localRect
                else w.windowRepaints }, d', Renderer.windowAdded w.id r))) := by
  rw [track]
  split
  · exact Or.inl ⟨by assumption, rfl⟩
  · rename_i free
    simp only [Bool.or_eq_true, not_or, Bool.not_eq_true, Option.isSome_eq_false_iff,
      Option.isNone_iff_eq_none] at free
    refine Or.inr ⟨free.1, free.2, ?_⟩
    rcases DisplayServer.createDamage w.id d with ⟨e | handle, d'⟩
    · exact Or.inl ⟨e, d', rfl, rfl⟩
    · refine Or.inr ⟨handle, d', rfl, ?_⟩
      by_cases h : w.kind = .unmanaged
      · simp [h, addDamageFull, localRect]
      · simp [h]

def trackedBy (handle : DamageHandle) (w : Toplevel) : Toplevel :=
  { w with
    damage? := some handle
    damageRegion := Region.ofRect w.localRect
    unredirected := false
    windowRepaints := if w.kind = .unmanaged then w.windowRepaints.addRect w.localRect
      else w.windowRepaints }

/-- A new window for which the server makes an object. -/
theorem track_of_created {w : Toplevel} (real : w.isPlaceholder = false)
    (untracked : w.damage? = none) {d d' : δ} {handle : DamageHandle}
    (made : DisplayServer.createDamage w.id d = (.ok handle, d')) (r : σ) :
    w.track d r = (true, w.trackedBy handle, d', Renderer.windowAdded w.id r) := by
  rcases w.track_cases d r with ⟨skip, _⟩ | ⟨_, _, ⟨_, _, failed, _⟩ | ⟨_, _, answer, e⟩⟩
  · simp [real, untracked] at skip
  · simp [made] at failed
  · obtain ⟨same, rfl⟩ := Prod.mk.inj (made.symm.trans answer)
    obtain rfl := Except.ok.inj same
    exact e

theorem untrack_cases (w : Toplevel) (d : δ) (r : σ) :
    (w.damage? = none ∧ w.untrack d r = (false, w, d, r)) ∨
      ∃ handle, w.damage? = some handle ∧
        w.untrack d r = (true, w.released,
          DisplayServer.destroyDamage handle (match w.pendingFetch? with
            | none => d
            | some fetch => DisplayServer.discardReply fetch d),
          Renderer.pixmapDiscarded w.id r) := by
  rw [untrack]
  cases h : w.damage? with
  | none => exact Or.inl ⟨rfl, rfl⟩
  | some handle =>
    refine Or.inr ⟨handle, rfl, ?_⟩
    cases h' : w.pendingFetch? with
    | none => simp [discardPixmap, addDamageFull, h, h', released]
    | some fetch => simp [discardPixmap, addDamageFull, h, h', released]

def marked (w : Toplevel) : Toplevel :=
  { w with isDamaged := true, readyForPainting := w.readyForPainting || w.isClient }

theorem damageNotify_cases (w : Toplevel) :
    (w.damage? = none ∧ w.damageNotify = (false, w)) ∨
      (w.damage?.isSome = true ∧ w.damageNotify = (true, w.marked)) := by
  cases h : w.damage? with
  | none => exact Or.inl ⟨rfl, by simp [damageNotify, h]⟩
  | some handle => exact Or.inr ⟨rfl, by simp [damageNotify, h, marked]⟩

theorem requestDamage_cases (w : Toplevel) (d : δ) :
    ((!w.isDamaged || w.pendingFetch?.isSome) = true ∧ w.requestDamage d = (false, w, d)) ∨
      (w.isDamaged = true ∧ w.pendingFetch? = none ∧
        ((w.damage? = none ∧ w.requestDamage d = (false, { w with isDamaged := false }, d)) ∨
          (∃ handle e d', w.damage? = some handle ∧
            DisplayServer.requestDamage handle d = (.error e, d') ∧
            w.requestDamage d = (false, { w with isDamaged := false }, d')) ∨
          ∃ handle fetch d', w.damage? = some handle ∧
            DisplayServer.requestDamage handle d = (.ok fetch, d') ∧
            w.requestDamage d =
              (true, { w with isDamaged := false, pendingFetch? := some fetch }, d'))) := by
  rw [requestDamage]
  split
  · exact Or.inl ⟨by assumption, rfl⟩
  · rename_i due
    simp only [Bool.or_eq_true, Bool.not_eq_true', not_or, Bool.not_eq_false, Bool.not_eq_true,
      Option.isSome_eq_false_iff, Option.isNone_iff_eq_none] at due
    refine Or.inr ⟨due.1, due.2, ?_⟩
    cases h : w.damage? with
    | none => exact Or.inl ⟨rfl, rfl⟩
    | some handle =>
      rcases h' : DisplayServer.requestDamage handle d with ⟨e | fetch, d'⟩
      · exact Or.inr (Or.inl ⟨handle, e, d', rfl, h', by simp [h']⟩)
      · exact Or.inr (Or.inr ⟨handle, fetch, d', rfl, h', by simp [h']⟩)

theorem collectDamage_cases (w : Toplevel) (d : δ) :
    (w.pendingFetch? = none ∧ (w.collectDamage d).2 = (w, d)) ∨
      ∃ fetch, w.pendingFetch? = some fetch ∧
        (w.collectDamage d).2 = ({ w with
          pendingFetch? := none
          damageRegion := w.damageRegion.union (received fetch d)
          windowRepaints := w.windowRepaints.union (received fetch d) },
          (DisplayServer.damageReply fetch d).2) := by
  rcases awaited : w.pendingFetch? with _ | fetch
  · exact Or.inl ⟨rfl, by simp [collectDamage, awaited]⟩
  · refine Or.inr ⟨fetch, rfl, ?_⟩
    rcases answer : DisplayServer.damageReply fetch d with ⟨_ | reply, d'⟩
    · simp [collectDamage, received, awaited, answer, Region.union, Region.empty]
    · rw [received_eq (congrArg Prod.fst answer)]
      by_cases nothing : (replyRegion reply).rects = []
      · simp [collectDamage, awaited, answer, Region.isEmpty, Region.union, nothing]
      · simp [collectDamage, awaited, answer, Region.isEmpty, nothing]

end Toplevel

namespace BypassState

variable {δ σ : Type} [DisplayServer δ] [Renderer σ]

theorem update_cases (b : BypassState) (w : Toplevel) (wanted : Bool) (now : Nanos) (d : δ)
    (r : σ) :
    (wanted = w.unredirected ∧ b.update w wanted now d r = (.unchanged, b, w, d, r)) ∨
      (wanted ≠ w.unredirected ∧ b.tooEarly now = true ∧
        b.update w wanted now d r = (.debounced, b, w, d, r)) ∨
      (wanted = true ∧ w.unredirected = false ∧ b.tooEarly now = false ∧
        b.update w wanted now d r = (.unredirected, { b with lastToggle? := some now },
          { w with unredirected := true }, DisplayServer.unredirectWindow w.id d,
          Renderer.pixmapDiscarded w.id r)) ∨
      (wanted = false ∧ w.unredirected = true ∧ b.tooEarly now = false ∧
        b.update w wanted now d r = (.redirected, { b with lastToggle? := some now },
          { w with unredirected := false }.addDamageFull, DisplayServer.redirectWindow w.id d,
          Renderer.pixmapDiscarded w.id r)) := by
  rw [update]
  by_cases same : wanted = w.unredirected
  · exact Or.inl ⟨same, by simp [same]⟩
  · cases early : b.tooEarly now with
    | true => exact Or.inr (Or.inl ⟨same, rfl, by simp [same]⟩)
    | false =>
      cases wanted with
      | true =>
        have off : w.unredirected = false := by simpa using Ne.symm same
        exact Or.inr (Or.inr (Or.inl ⟨rfl, off, rfl, by simp [off]⟩))
      | false =>
        have on : w.unredirected = true := by simpa using Ne.symm same
        refine Or.inr (Or.inr (Or.inr ⟨rfl, on, rfl, ?_⟩))
        rcases Toplevel.addDamageFull_cases { w with unredirected := false } with ⟨_, h⟩ | ⟨_, h⟩
        · simp [on, Toplevel.discardPixmap, h]
        · simp [on, Toplevel.discardPixmap, h]

end BypassState

end Compositing
