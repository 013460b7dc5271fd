import Compositing.Proofs.Run
import Compositing.Proofs.Tracking

/-!
# What the operations leave alone

For each operation, the parts of the compositor that are after it as they were before.
-/

namespace Compositing.Compositor

variable {δ σ : Type}

section Plain

variable (c : Compositor δ σ)

@[simp] theorem emit_frame (e : Event) :
    (c.emit e).display = c.display ∧ (c.emit e).renderer = c.renderer ∧
      (c.emit e).hasScene = c.hasScene ∧ (c.emit e).windows = c.windows ∧
      (c.emit e).suspended = c.suspended ∧ (c.emit e).deferred = c.deferred ∧
      (c.emit e).repaints = c.repaints ∧ (c.emit e).timers = c.timers ∧
      (c.emit e).fault? = c.fault? :=
  ⟨rfl, rfl, rfl, rfl, rfl, rfl, rfl, rfl, rfl⟩

@[simp] theorem defer_frame (a : DeferredAction) :
    (c.defer a).display = c.display ∧ (c.defer a).renderer = c.renderer ∧
      (c.defer a).hasScene = c.hasScene ∧ (c.defer a).windows = c.windows ∧
      (c.defer a).suspended = c.suspended ∧ (c.defer a).deferred = c.deferred ++ [a] ∧
      (c.defer a).repaints = c.repaints ∧ (c.defer a).fault? = c.fault? :=
  ⟨rfl, rfl, rfl, rfl, rfl, rfl, rfl, rfl⟩

@[simp] theorem scheduleRepaint_frame :
    c.scheduleRepaint.display = c.display ∧ c.scheduleRepaint.renderer = c.renderer ∧
      c.scheduleRepaint.hasScene = c.hasScene ∧ c.scheduleRepaint.windows = c.windows ∧
      c.scheduleRepaint.suspended = c.suspended ∧ c.scheduleRepaint.deferred = c.deferred ∧
      c.scheduleRepaint.repaints = c.repaints ∧ c.scheduleRepaint.fault? = c.fault? := by
  rw [scheduleRepaint]
  split <;> simp

@[simp] theorem addRepaint_frame (g : Region) :
    (c.addRepaint g).display = c.display ∧ (c.addRepaint g).renderer = c.renderer ∧
      (c.addRepaint g).hasScene = c.hasScene ∧ (c.addRepaint g).windows = c.windows ∧
      (c.addRepaint g).suspended = c.suspended ∧ (c.addRepaint g).deferred = c.deferred ∧
      (c.addRepaint g).fault? = c.fault? := by
  rw [addRepaint]
  split <;> simp

@[simp] theorem blockFor_frame (id : WindowId) :
    (c.blockFor id).display = c.display ∧ (c.blockFor id).renderer = c.renderer ∧
      (c.blockFor id).hasScene = c.hasScene ∧ (c.blockFor id).windows = c.windows ∧
      (c.blockFor id).suspended = c.suspended ∧ (c.blockFor id).repaints = c.repaints ∧
      (c.blockFor id).fault? = c.fault? := by
  rw [blockFor]
  cases c.windows.get? id with
  | none => simp
  | some w => dsimp only; split <;> simp

@[simp] theorem unblock_frame :
    c.unblock.display = c.display ∧ c.unblock.renderer = c.renderer ∧
      c.unblock.hasScene = c.hasScene ∧ c.unblock.windows = c.windows ∧
      c.unblock.suspended = c.suspended ∧ c.unblock.repaints = c.repaints ∧
      c.unblock.fault? = c.fault? := by
  rw [unblock]
  split <;> simp

end Plain

section Display

variable [DisplayServer δ] (c : Compositor δ σ)

@[simp] theorem addRepaintFull_frame :
    c.addRepaintFull.display = c.display ∧ c.addRepaintFull.renderer = c.renderer ∧
      c.addRepaintFull.hasScene = c.hasScene ∧ c.addRepaintFull.windows = c.windows ∧
      c.addRepaintFull.suspended = c.suspended ∧ c.addRepaintFull.deferred = c.deferred ∧
      c.addRepaintFull.fault? = c.fault? := by
  rw [addRepaintFull]
  split <;> simp

@[simp] theorem releaseSelection_frame :
    c.releaseSelection.renderer = c.renderer ∧ c.releaseSelection.hasScene = c.hasScene ∧
      c.releaseSelection.windows = c.windows ∧ c.releaseSelection.suspended = c.suspended ∧
      c.releaseSelection.deferred = c.deferred ∧ c.releaseSelection.repaints = c.repaints ∧
      c.releaseSelection.fault? = c.fault? := by
  rw [releaseSelection]
  split <;> simp

@[simp] theorem sweepSupport_frame (busy : Bool) :
    (c.sweepSupport busy).renderer = c.renderer ∧ (c.sweepSupport busy).hasScene = c.hasScene ∧
      (c.sweepSupport busy).windows = c.windows ∧ (c.sweepSupport busy).suspended = c.suspended ∧
      (c.sweepSupport busy).deferred = c.deferred ∧ (c.sweepSupport busy).repaints = c.repaints ∧
      (c.sweepSupport busy).fault? = c.fault? :=
  ⟨rfl, rfl, rfl, rfl, rfl, rfl, rfl⟩

end Display

section Renderer

variable [Renderer σ] (c : Compositor δ σ)

@[simp] theorem checkBypass_frame (force : Bool) :
    (c.checkBypass force).display = c.display ∧ (c.checkBypass force).renderer = c.renderer ∧
      (c.checkBypass force).hasScene = c.hasScene ∧
      (c.checkBypass force).windows = c.windows ∧
      (c.checkBypass force).suspended = c.suspended ∧
      (c.checkBypass force).deferred = c.deferred ∧
      (c.checkBypass force).repaints = c.repaints ∧
      (c.checkBypass force).fault? = c.fault? := by
  rw [checkBypass]
  split <;> simp

end Renderer

/-- A window's turn in a pass leaves all as it is, or switches the window one way or the other. -/
theorem bypassStep_induction [DisplayServer δ] [Renderer σ] {P : Toplevel → δ → σ → Prop}
    (now : Nanos) (eligible : List WindowId) (w : Toplevel) (p : BypassPass δ σ)
    (still : P w p.display p.renderer)
    (off : P { w with unredirected := true } (DisplayServer.unredirectWindow w.id p.display)
      (Renderer.pixmapDiscarded w.id p.renderer))
    (on : P { w with unredirected := false }.addDamageFull
      (DisplayServer.redirectWindow w.id p.display) (Renderer.pixmapDiscarded w.id p.renderer)) :
    P (bypassStep now eligible w p).1 (bypassStep now eligible w p).2.display
      (bypassStep now eligible w p).2.renderer := by
  rw [bypassStep]
  rcases p.bypass.update_cases w (eligible.contains w.id) now p.display p.renderer with
    ⟨_, e⟩ | ⟨_, _, e⟩ | ⟨_, _, _, e⟩ | ⟨_, _, _, e⟩
  · rw [e]
    exact still
  · rw [e]
    exact still
  · rw [e]
    exact off
  · rw [e]
    exact on

/-- A window's turn when tracking begins leaves it alone, or asks for a damage object, which may be
refused. -/
theorem trackStep_induction [DisplayServer δ] [Renderer σ] {P : Toplevel → δ → σ → Prop}
    (w : Toplevel) (t : δ × σ) (still : P w t.1 t.2)
    (refused : ∀ e d, DisplayServer.createDamage w.id t.1 = (.error e, d) → P w d t.2)
    (made : ∀ handle d, w.isPlaceholder = false →
      DisplayServer.createDamage w.id t.1 = (.ok handle, d) →
        P (w.trackedBy handle) d (Renderer.windowAdded w.id t.2)) :
    P (trackStep w t).1 (trackStep w t).2.1 (trackStep w t).2.2 := by
  rw [trackStep]
  rcases w.track_cases t.1 t.2 with
    ⟨_, h⟩ | ⟨_, real, ⟨e, d, answer, h⟩ | ⟨handle, d, answer, h⟩⟩
  · rw [h]
    exact still
  · rw [h]
    exact refused e d answer
  · rw [h]
    exact made handle d real answer

/-- A window's turn when tracking ends gives its damage object back, if it has one, and drops the
reply that it awaits. -/
theorem untrackStep_induction [DisplayServer δ] [Renderer σ] {P : Toplevel → δ → σ → Prop}
    (w : Toplevel) (t : δ × σ) (still : w.damage? = none → P w t.1 t.2)
    (released : ∀ handle d, (w.pendingFetch? = none ∧ d = t.1) ∨
        (∃ fetch, w.pendingFetch? = some fetch ∧ d = DisplayServer.discardReply fetch t.1) →
      P w.released (DisplayServer.destroyDamage handle d) (Renderer.pixmapDiscarded w.id t.2)) :
    P (untrackStep w t).1 (untrackStep w t).2.1 (untrackStep w t).2.2 := by
  rw [untrackStep]
  rcases w.untrack_cases t.1 t.2 with ⟨none, h⟩ | ⟨handle, _, h⟩
  · rw [h]
    exact still none
  · rw [h]
    refine released handle _ ?_
    cases w.pendingFetch? with
    | none => exact Or.inl ⟨rfl, rfl⟩
    | some fetch => exact Or.inr ⟨fetch, rfl, rfl⟩

/-! Frames, passes, starting and stopping leave the reasons of the suspension and the deferred
work alone. -/

section Renderer

variable [Renderer σ] (c : Compositor δ σ)

@[simp] theorem paint_frame :
    c.paint.display = c.display ∧ c.paint.hasScene = c.hasScene ∧
      c.paint.suspended = c.suspended ∧ c.paint.deferred = c.deferred ∧
      c.paint.fault? = c.fault? := by
  simp [paint]

end Renderer

variable [DisplayServer δ] [Renderer σ] (c : Compositor δ σ)

/-- No frame is made while the overlay is hidden. -/
theorem performCompositing_hidden (hidden : c.overlayVisible = false) :
    c.performCompositing = c := by
  rw [performCompositing, hidden]
  rfl

@[simp] theorem performCompositing_frame :
    c.performCompositing.hasScene = c.hasScene ∧
      c.performCompositing.suspended = c.suspended ∧
      c.performCompositing.deferred = c.deferred ∧
      c.performCompositing.fault? = c.fault? := by
  rw [performCompositing]
  split
  · dsimp only
    split <;> simp [goIdle, fetchDamage]
  · simp

@[simp] theorem switchWindows_frame :
    c.switchWindows.2.hasScene = c.hasScene ∧ c.switchWindows.2.suspended = c.suspended ∧
      c.switchWindows.2.deferred = c.deferred ∧ c.switchWindows.2.repaints = c.repaints ∧
      c.switchWindows.2.fault? = c.fault? :=
  ⟨rfl, rfl, rfl, rfl, rfl⟩

theorem bypassPass_eq :
    c.bypassPass =
      if c.bypassApplies then
        if c.switchWindows.1 then
          ({ c.switchWindows.2 with
            renderer := Renderer.setOverlayShape c.switchWindows.2.overlayShape
              c.switchWindows.2.renderer }).addRepaintFull
        else c.switchWindows.2
      else c := by
  rw [bypassPass]
  rcases c.switchWindows with ⟨_ | _, c'⟩ <;> rfl

@[simp] theorem bypassPass_frame :
    c.bypassPass.hasScene = c.hasScene ∧ c.bypassPass.suspended = c.suspended ∧
      c.bypassPass.deferred = c.deferred ∧ c.bypassPass.fault? = c.fault? := by
  rw [bypassPass_eq]
  split
  · split <;> simp
  · simp

omit [DisplayServer δ] [Renderer σ] in
@[simp] theorem visitWindows_frame (f : Toplevel → δ × σ → Toplevel × δ × σ)
    (ids : List WindowId) :
    (c.visitWindows f ids).hasScene = c.hasScene ∧
      (c.visitWindows f ids).suspended = c.suspended ∧
      (c.visitWindows f ids).deferred = c.deferred ∧
      (c.visitWindows f ids).repaints = c.repaints ∧
      (c.visitWindows f ids).timers = c.timers ∧
      (c.visitWindows f ids).fault? = c.fault? :=
  ⟨rfl, rfl, rfl, rfl, rfl, rfl⟩

variable (enumerate : List WindowId → List WindowId)

@[simp] theorem enable_frame :
    (c.enable enumerate).hasScene = c.hasScene ∧
      (c.enable enumerate).suspended = c.suspended ∧
      (c.enable enumerate).deferred = c.deferred ∧
      (c.enable enumerate).fault? = c.fault? := by
  simp [enable]

omit enumerate in
/-- Only a budget that cannot be set up keeps a compositor that has all it needs from painting
its first frame, in whatever order it tracks the windows. -/
theorem budget_cases :
    (∃ fault, ∀ enumerate, c.activate enumerate = { c with fault? := some fault }) ∨
      ∃ frame, ∀ enumerate, c.activate enumerate =
        (({ c with frame := frame } : Compositor δ σ).enable enumerate).performCompositing := by
  simp only [activate, withFrameBudget]
  cases c.frame.configure c.options.frameInterval c.refreshRate
    (Renderer.syncsToBlank c.renderer) c.options.blankTime with
  | error fault => exact Or.inl ⟨fault, fun _ => rfl⟩
  | ok frame => exact Or.inr ⟨frame, fun _ => rfl⟩

theorem activate_cases :
    (∃ fault, c.activate enumerate = { c with fault? := some fault }) ∨
      ∃ frame, c.activate enumerate =
        (({ c with frame := frame } : Compositor δ σ).enable enumerate).performCompositing :=
  c.budget_cases.imp (fun ⟨fault, e⟩ => ⟨fault, e enumerate⟩) fun ⟨frame, e⟩ => ⟨frame, e enumerate⟩

@[simp] theorem activate_frame :
    (c.activate enumerate).hasScene = c.hasScene ∧
      (c.activate enumerate).suspended = c.suspended ∧
      (c.activate enumerate).deferred = c.deferred := by
  rcases c.activate_cases enumerate with ⟨fault, h⟩ | ⟨frame, h⟩
  · simp [h]
  · simp [h]

def claimed (c : Compositor δ σ) : δ :=
  (DisplayServer.claimSelection (selectionName (DisplayServer.screenNumber c.display))
    c.display).2

/-- All that can have changed once a compositor has tried to acquire what it needs. -/
theorem acquire_shape : ∃ d r scene selection s,
    c.acquire.2 = { c with
      display := d, renderer := r, hasScene := scene, selection? := selection, windows := s } ∧
    (d = c.claimed ∨ d = (DisplayServer.redirectSubwindows c.claimed).2) ∧
    (s = c.windows ∨ s = c.windows.discardPlaceholders) ∧
    (c.acquire.1 = .ok () → scene = true) := by
  rw [acquire, claimed]
  dsimp only
  rcases DisplayServer.claimSelection _ c.display with ⟨e | ⟨⟩, d⟩
  · exact ⟨d, c.renderer, c.hasScene, c.selection?, c.windows, rfl, Or.inl rfl, Or.inl rfl, nofun⟩
  dsimp only
  rcases Renderer.start c.options.backend (DisplayServer.layout d)
    (DisplayServer.refreshRate? d) c.renderer with ⟨e | ⟨⟩, r⟩
  · exact ⟨d, r, c.hasScene, _, _, rfl, Or.inl rfl, Or.inr rfl, nofun⟩
  dsimp only
  rcases DisplayServer.redirectSubwindows d with ⟨e | ⟨⟩, d'⟩
  · exact ⟨d', r, true, _, _, rfl, Or.inr rfl, Or.inr rfl, fun _ => rfl⟩
  · exact ⟨d', r, true, _, _, rfl, Or.inr rfl, Or.inr rfl, fun _ => rfl⟩

/-- What is there after an attempt to start was there before. -/
theorem mem_acquire {w : Toplevel} (hw : w ∈ c.acquire.2.windows.windows) :
    w ∈ c.windows.windows := by
  obtain ⟨d, r, scene, selection, s, shape, _, rfl | rfl, _⟩ := c.acquire_shape
  · rwa [shape] at hw
  · rw [shape] at hw
    exact (List.mem_filter.mp hw).1

theorem acquire_scene (acquired : c.acquire.1 = .ok ()) : c.acquire.2.hasScene = true := by
  obtain ⟨d, r, scene, selection, s, shape, _, _, started⟩ := c.acquire_shape
  rw [shape]
  exact started acquired

omit [Renderer σ] in
/-- Where compositing is possible, damage objects are offered. -/
theorem hasExtension_of_isPossible (possible : c.isPossible = true) :
    DisplayServer.hasExtension c.display .damage = true := by
  by_contra missing
  have off : DisplayServer.hasExtension c.display .damage = false := by simpa using missing
  rw [isPossible, missingCapability?, Compositing.missingCapability?, off] at possible
  split at possible <;> simp at possible

/-- What starting comes to: nothing, a start that is undone, or a compositor that has all it
needs and goes on to its first frame. -/
theorem setup_cases :
    (c.hasScene = true ∧ c.setup = c) ∨
      (c.hasScene = false ∧ c.setup = { c with phase := .inactive }) ∨
      (c.hasScene = false ∧
        c.setup = { ({ ({ c with phase := .starting } : Compositor δ σ).acquire.2 with
          hasScene := false }).releaseSelection with phase := .inactive }) ∨
      (c.hasScene = false ∧ c.isPossible = true ∧
        ({ c with phase := .starting } : Compositor δ σ).acquire.1 = .ok () ∧
        c.setup = ({ c with phase := .starting } : Compositor δ σ).acquire.2.activate id) := by
  rw [setup, setupBy]
  split
  · exact Or.inl ⟨by assumption, rfl⟩
  · rename_i scene
    have scene : c.hasScene = false := by simpa using scene
    split
    · exact Or.inr (Or.inl ⟨scene, rfl⟩)
    · rename_i free
      rcases h : ({ c with phase := .starting } : Compositor δ σ).acquire with ⟨e | ⟨⟩, a⟩
      · exact Or.inr (Or.inr (Or.inl ⟨scene, rfl⟩))
      · exact Or.inr (Or.inr (Or.inr ⟨scene, by simp_all, rfl, rfl⟩))

@[simp] theorem setup_frame :
    c.setup.suspended = c.suspended ∧ c.setup.deferred = c.deferred := by
  obtain ⟨d, r, scene, selection, s, shape, -⟩ :=
    acquire_shape ({ c with phase := .starting } : Compositor δ σ)
  rcases c.setup_cases with ⟨_, h⟩ | ⟨_, h⟩ | ⟨_, h⟩ | ⟨_, _, _, h⟩
  · simp [h]
  · simp [h]
  · simp [h, shape]
  · simp [h, shape]

@[simp] theorem finish_frame :
    c.finish.hasScene = false ∧ c.finish.suspended = c.suspended ∧
      c.finish.deferred = c.deferred ∧ c.finish.fault? = c.fault? := by
  rw [finish, finishBy]
  split
  · simp
  · rename_i h
    simpa using h

/-! What a change of one window comes to. -/

/-- Damage of a window that is not tracked is passed over. -/
theorem damaged_cases (id : WindowId) :
    ((∀ w, c.windows.get? id = some w → w.damage? = none) ∧
        c.handleDisplayEvent (.damaged id) = c) ∨
      ∃ w, c.windows.get? id = some w ∧ w.damage?.isSome = true ∧
        c.handleDisplayEvent (.damaged id) =
          ({ c with windows := c.windows.modify id fun _ => w.marked } :
            Compositor δ σ).scheduleRepaint := by
  cases h : c.windows.get? id with
  | none => exact Or.inl ⟨by simp, by simp [handleDisplayEvent, h]⟩
  | some w =>
    rcases w.damageNotify_cases with ⟨untracked, e⟩ | ⟨tracked, e⟩
    · refine Or.inl ⟨?_, by simp [handleDisplayEvent, h, e]⟩
      rintro _ ⟨⟩
      exact untracked
    · exact Or.inr ⟨w, rfl, tracked, by simp [handleDisplayEvent, h, e]⟩

/-- A compositor without the selection has nothing to lose. -/
theorem selectionCleared_cases :
    c.handleDisplayEvent .selectionCleared = c ∨
      c.handleDisplayEvent .selectionCleared =
        ({ c with selection? := none } : Compositor δ σ).finish := by
  simp only [handleDisplayEvent]
  cases c.selection? with
  | none => exact Or.inl rfl
  | some s => exact Or.inr rfl

omit [DisplayServer δ] in
theorem setGeometry_cases (id : WindowId) (geometry : Rect) :
    c.setGeometry id geometry = c ∨
      ∃ old w r, c.windows.get? id = some old ∧ Toplevel.Same old w ∧
        (r = c.renderer ∨ r = Renderer.pixmapDiscarded old.id c.renderer) ∧
        c.setGeometry id geometry =
          (({ c with windows := c.windows.modify id fun _ => w, renderer := r } :
            Compositor δ σ).addRepaint (Region.ofRects [old.geometry, geometry])).checkBypass
              true := by
  rw [setGeometry]
  cases h : c.windows.get? id with
  | none => exact Or.inl rfl
  | some old =>
    by_cases there : old.geometry = geometry
    · exact Or.inl (by simp [there])
    · by_cases resized : old.geometry.size ≠ geometry.size ∧ c.hasScene = true
      · have same := Toplevel.addDamageFull_same { old with geometry := geometry }
        refine Or.inr ⟨old, ({ old with geometry := geometry } : Toplevel).addDamageFull,
          Renderer.pixmapDiscarded old.id c.renderer, rfl, ?_, Or.inr rfl, ?_⟩
        · exact ⟨same.id, same.kind, same.damage, same.awaited, same.dirty, same.direct,
            same.bounded⟩
        · dsimp only
          rw [if_neg there, if_pos resized, Toplevel.discardPixmap]
      · refine Or.inr ⟨old, { old with geometry := geometry }, c.renderer, rfl,
          ⟨rfl, rfl, rfl, rfl, rfl, rfl, fun most => most⟩, Or.inl rfl, ?_⟩
        dsimp only
        rw [if_neg there, if_neg resized]

omit [DisplayServer δ] in
theorem discardPlaceholder_cases (id : WindowId) :
    (c.discardPlaceholder id).2 = c ∨
      ∃ w r, c.windows.get? id = some w ∧ w.isPlaceholder = true ∧
        (r = c.renderer ∨ r = Renderer.windowDeleted id c.renderer) ∧
        (c.discardPlaceholder id).2 =
          ({ c with windows := c.windows.remove id, renderer := r } :
            Compositor δ σ).addRepaint (Region.ofRect w.geometry) := by
  rw [discardPlaceholder]
  cases h : c.windows.get? id with
  | none => exact Or.inl rfl
  | some w =>
    dsimp only
    split
    · rename_i placeholder
      refine Or.inr ⟨w, _, rfl, placeholder, ?_, rfl⟩
      split
      · exact Or.inr rfl
      · exact Or.inl rfl
    · exact Or.inl rfl

theorem setOverlayVisible_cases (visible : Bool) :
    (c.hasScene = false ∧ c.setOverlayVisible visible = c) ∨
      (c.hasScene = true ∧ visible = true ∧ c.setOverlayVisible visible =
        ({ c with renderer := Renderer.setOverlayVisible true c.renderer } :
          Compositor δ σ).addRepaintFull) ∨
      (c.hasScene = true ∧ visible = false ∧ c.setOverlayVisible visible =
        { c with renderer := Renderer.setOverlayVisible false c.renderer }) := by
  rw [setOverlayVisible]
  split
  · rename_i scene
    cases visible with
    | true => exact Or.inr (Or.inl ⟨scene, rfl, rfl⟩)
    | false => exact Or.inr (Or.inr ⟨scene, rfl, rfl⟩)
  · rename_i h
    exact Or.inl ⟨by simpa using h, rfl⟩

end Compositing.Compositor
