import Compositing.Proofs.Turnover

/-!
# Leaving out what no answer depends on

A map from the states of one server to those of another forgets something if every request can
be made before or after it, with the same answer; so for renderers. What the compositor does
through such maps is what it does without them, step by step. So notes may be taken beside a
server or a renderer, and what is proved of the run with the notes is said of the run itself.
-/

namespace Compositing

section Maps

variable {δ δ' σ σ' : Type}

/-- The map leaves out of a server something that none of its answers depends on. -/
structure DisplayServer.Forgets [DisplayServer δ] [DisplayServer δ'] (f : δ → δ') : Prop where
  hasExtension : ∀ e d, DisplayServer.hasExtension (f d) e = DisplayServer.hasExtension d e
  screenNumber : ∀ d, DisplayServer.screenNumber (f d) = DisplayServer.screenNumber d
  layout : ∀ d, DisplayServer.layout (f d) = DisplayServer.layout d
  refreshRate? : ∀ d, DisplayServer.refreshRate? (f d) = DisplayServer.refreshRate? d
  claimSelection : ∀ s d, DisplayServer.claimSelection s (f d) =
    Prod.map id f (DisplayServer.claimSelection s d)
  releaseSelection : ∀ s d, DisplayServer.releaseSelection s (f d) =
    f (DisplayServer.releaseSelection s d)
  redirectSubwindows : ∀ d, DisplayServer.redirectSubwindows (f d) =
    Prod.map id f (DisplayServer.redirectSubwindows d)
  unredirectSubwindows : ∀ d, DisplayServer.unredirectSubwindows (f d) =
    f (DisplayServer.unredirectSubwindows d)
  redirectWindow : ∀ w d, DisplayServer.redirectWindow w (f d) =
    f (DisplayServer.redirectWindow w d)
  unredirectWindow : ∀ w d, DisplayServer.unredirectWindow w (f d) =
    f (DisplayServer.unredirectWindow w d)
  createDamage : ∀ w d, DisplayServer.createDamage w (f d) =
    Prod.map id f (DisplayServer.createDamage w d)
  destroyDamage : ∀ h d, DisplayServer.destroyDamage h (f d) = f (DisplayServer.destroyDamage h d)
  requestDamage : ∀ h d, DisplayServer.requestDamage h (f d) =
    Prod.map id f (DisplayServer.requestDamage h d)
  damageReply : ∀ t d, DisplayServer.damageReply t (f d) =
    Prod.map id f (DisplayServer.damageReply t d)
  discardReply : ∀ t d, DisplayServer.discardReply t (f d) = f (DisplayServer.discardReply t d)
  flush : ∀ d, DisplayServer.flush (f d) = f (DisplayServer.flush d)
  deleteRootProperty : ∀ a d, DisplayServer.deleteRootProperty a (f d) =
    f (DisplayServer.deleteRootProperty a d)
  setOpacity : ∀ w o d, DisplayServer.setOpacity w o (f d) = f (DisplayServer.setOpacity w o d)
  takeEvents : ∀ d, DisplayServer.takeEvents (f d) = Prod.map id f (DisplayServer.takeEvents d)

theorem DisplayServer.Forgets.id [DisplayServer δ] : DisplayServer.Forgets (id : δ → δ) := by
  constructor
  all_goals intros; rfl

structure Renderer.Forgets [Renderer σ] [Renderer σ'] (g : σ → σ') : Prop where
  start : ∀ b l rate? r, Renderer.start b l rate? (g r) =
    Prod.map id g (Renderer.start b l rate? r)
  backend : ∀ r, Renderer.backend (g r) = Renderer.backend r
  syncsToBlank : ∀ r, Renderer.syncsToBlank (g r) = Renderer.syncsToBlank r
  paint : ∀ damage windows r, Renderer.paint damage windows (g r) =
    Prod.map id g (Renderer.paint damage windows r)
  windowAdded : ∀ w r, Renderer.windowAdded w (g r) = g (Renderer.windowAdded w r)
  windowClosed : ∀ w stays r, Renderer.windowClosed w stays (g r) =
    g (Renderer.windowClosed w stays r)
  windowDeleted : ∀ w r, Renderer.windowDeleted w (g r) = g (Renderer.windowDeleted w r)
  pixmapDiscarded : ∀ w r, Renderer.pixmapDiscarded w (g r) = g (Renderer.pixmapDiscarded w r)
  idle : ∀ r, Renderer.idle (g r) = g (Renderer.idle r)
  elevatedWindows : ∀ r, Renderer.elevatedWindows (g r) = Renderer.elevatedWindows r
  fullscreenEffect : ∀ r, Renderer.fullscreenEffect (g r) = Renderer.fullscreenEffect r
  overlayWindow? : ∀ r, Renderer.overlayWindow? (g r) = Renderer.overlayWindow? r
  overlayVisible : ∀ r, Renderer.overlayVisible (g r) = Renderer.overlayVisible r
  setOverlayVisible : ∀ on r, Renderer.setOverlayVisible on (g r) =
    g (Renderer.setOverlayVisible on r)
  setOverlayShape : ∀ shape r, Renderer.setOverlayShape shape (g r) =
    g (Renderer.setOverlayShape shape r)

theorem Renderer.Forgets.id [Renderer σ] : Renderer.Forgets (id : σ → σ) := by
  constructor
  all_goals intros; rfl

structure World.Forgets {ω : Type} (W : World ω δ σ) (W' : World ω δ' σ') (f : δ → δ')
    (g : σ → σ') : Prop where
  display : ∀ o d, W'.display o (f d) = f (W.display o d)
  renderer : ∀ o r, W'.renderer o (g r) = g (W.renderer o r)

def Compositor.forget (f : δ → δ') (g : σ → σ') (c : Compositor δ σ) : Compositor δ' σ' :=
  { c with display := f c.display, renderer := g c.renderer }

end Maps

namespace Toplevel

variable {δ δ' σ σ' : Type} [DisplayServer δ] [DisplayServer δ'] [Renderer σ] [Renderer σ']
  {f : δ → δ'} {g : σ → σ'} (F : DisplayServer.Forgets f) (G : Renderer.Forgets g) (w : Toplevel)
include F

theorem requestDamage_forget (d : δ) : w.requestDamage (f d) =
    ((w.requestDamage d).1, (w.requestDamage d).2.1, f (w.requestDamage d).2.2) := by
  simp only [requestDamage]
  split
  · rfl
  · cases w.damage? with
    | none => rfl
    | some handle =>
      simp only [F.requestDamage]
      rcases DisplayServer.requestDamage handle d with ⟨e | fetch, d'⟩
      · rfl
      · rfl

theorem collectDamage_forget (d : δ) : w.collectDamage (f d) =
    ((w.collectDamage d).1, (w.collectDamage d).2.1, f (w.collectDamage d).2.2) := by
  simp only [collectDamage]
  cases w.pendingFetch? with
  | none => rfl
  | some fetch =>
    simp only [F.damageReply]
    rcases DisplayServer.damageReply fetch d with ⟨_ | reply, d'⟩
    · rfl
    · dsimp only [Prod.map, id_eq]
      split
      · rfl
      · rfl

include G

theorem track_forget (d : δ) (r : σ) : w.track (f d) (g r) =
    ((w.track d r).1, (w.track d r).2.1, f (w.track d r).2.2.1, g (w.track d r).2.2.2) := by
  simp only [track]
  split
  · rfl
  · simp only [F.createDamage]
    rcases DisplayServer.createDamage w.id d with ⟨e | handle, d'⟩
    · rfl
    · simp only [Prod.map, id_eq, G.windowAdded]

theorem untrack_forget (d : δ) (r : σ) : w.untrack (f d) (g r) =
    ((w.untrack d r).1, (w.untrack d r).2.1, f (w.untrack d r).2.2.1,
      g (w.untrack d r).2.2.2) := by
  cases tracked : w.damage? with
  | none => simp only [untrack, tracked]
  | some handle =>
    simp only [untrack, tracked, discardPixmap, G.pixmapDiscarded]
    cases w.addDamageFull.pendingFetch? with
    | none => simp only [F.destroyDamage]
    | some fetch => simp only [F.discardReply, F.destroyDamage]

end Toplevel

namespace Compositor

variable {ω δ δ' σ σ' : Type} {f : δ → δ'} {g : σ → σ'} (c : Compositor δ σ)

/-! Painting. -/

theorem scheduleRepaint_forget :
    (c.forget f g).scheduleRepaint = c.scheduleRepaint.forget f g := by
  cases scene : c.hasScene <;> simp [scheduleRepaint, forget, scene]

theorem addRepaint_forget (region : Region) :
    (c.forget f g).addRepaint region = (c.addRepaint region).forget f g := by
  cases scene : c.hasScene
  · simp [addRepaint, forget, scene]
  · simp [addRepaint, scheduleRepaint, forget, scene]

theorem blockFor_forget (id : WindowId) :
    (c.forget f g).blockFor id = (c.blockFor id).forget f g := by
  rw [blockFor, blockFor, apply_ite (forget f g)]
  rfl

theorem unblock_forget : (c.forget f g).unblock = c.unblock.forget f g := by
  rw [unblock, unblock, apply_ite (forget f g)]
  rfl

section Server

variable [DisplayServer δ] [DisplayServer δ'] (F : DisplayServer.Forgets f)
include F

theorem addRepaintFull_forget : (c.forget f g).addRepaintFull = c.addRepaintFull.forget f g := by
  cases scene : c.hasScene
  · simp [addRepaintFull, forget, scene]
  · simp [addRepaintFull, scheduleRepaint, forget, scene, F.layout]

theorem requestStep_forget (w : Toplevel) (t : List WindowId × δ) :
    requestStep w (Prod.map id f t) =
      ((requestStep w t).1, Prod.map id f (requestStep w t).2) := by
  simp only [requestStep, Prod.map_snd, w.requestDamage_forget F t.2]
  rcases w.requestDamage t.2 with ⟨_ | _, v, d⟩ <;> rfl

theorem collectStep_forget (w : Toplevel) (d : δ) :
    collectStep w (f d) = ((collectStep w d).1, f (collectStep w d).2) := by
  simp only [collectStep, w.collectDamage_forget F d]

theorem fetchDamage_forget : (c.forget f g).fetchDamage = c.fetchDamage.forget f g := by
  have request := WindowStack.visit_hom (Prod.map id f) (requestStep_forget F)
    c.windows.ids c.windows ([], c.display)
  have collect (ids : List WindowId) := WindowStack.visit_hom f (collectStep_forget F) ids
  simp only [Prod.map, id_eq] at request
  simp only [fetchDamage, forget, request]
  rcases WindowStack.visit c.windows.ids requestStep c.windows ([], c.display) with ⟨s, asked, d⟩
  cases none : asked.isEmpty
  · have replies := collect asked s (DisplayServer.flush d)
    rw [← F.flush] at replies
    simp [replies]
  · have replies := collect asked s d
    simp [replies]

theorem releaseSelection_forget :
    (c.forget f g).releaseSelection = c.releaseSelection.forget f g := by
  cases held : c.selection? with
  | none => simp [releaseSelection, forget, held]
  | some s => simp [releaseSelection, forget, held, F.releaseSelection]

theorem sweepSupport_forget (busy : Bool) :
    (c.forget f g).sweepSupport busy = (c.sweepSupport busy).forget f g := by
  have deleted (atoms : List Atom) (d : δ) :
      atoms.foldl (fun d a => DisplayServer.deleteRootProperty a d) (f d) =
        f (atoms.foldl (fun d a => DisplayServer.deleteRootProperty a d) d) := by
    induction atoms generalizing d with
    | nil => rfl
    | cons a rest ih => rw [List.foldl_cons, F.deleteRootProperty, ih, List.foldl_cons]
  cases busy with
  | true => rfl
  | false => simp [sweepSupport, SupportProperties.sweep, forget, deleted]

theorem isPossible_forget : (c.forget f g).isPossible = c.isPossible := by
  have offers : DisplayServer.hasExtension (f c.display) = DisplayServer.hasExtension c.display :=
    funext fun e => F.hasExtension e c.display
  simp only [isPossible, missingCapability?, forget, offers]

end Server

section Renderer

variable [Renderer σ] [Renderer σ'] (G : Renderer.Forgets g)
include G

theorem overlayVisible_forget : (c.forget f g).overlayVisible = c.overlayVisible := by
  simp only [overlayVisible, forget, G.overlayVisible]

theorem paintList_forget : (c.forget f g).paintList = c.paintList := by
  simp only [paintList, forget, G.elevatedWindows]

theorem paint_forget : (c.forget f g).paint = c.paint.forget f g := by
  rw [paint, paint, ← scheduleRepaint_forget, paintList_forget c G]
  simp only [forget, G.paint, Prod.map, id_eq]

theorem bypassApplies_forget : (c.forget f g).bypassApplies = c.bypassApplies := by
  simp only [bypassApplies, forget, G.overlayWindow?]

theorem checkBypass_forget (force : Bool) :
    (c.forget f g).checkBypass force = (c.checkBypass force).forget f g := by
  simp only [checkBypass, bypassApplies_forget c G]
  split
  · rfl
  · rfl

theorem setGeometry_forget (id : WindowId) (geometry : Rect) :
    (c.forget f g).setGeometry id geometry = (c.setGeometry id geometry).forget f g := by
  have same : (c.forget f g).windows = c.windows := rfl
  simp only [setGeometry]
  rw [same]
  cases c.windows.get? id with
  | none => rfl
  | some old =>
    dsimp only
    split
    · rfl
    · rw [← checkBypass_forget _ G, ← addRepaint_forget]
      simp only [forget, Toplevel.discardPixmap, G.pixmapDiscarded]
      split <;> rfl

theorem discardPlaceholder_forget (id : WindowId) :
    ((c.forget f g).discardPlaceholder id).2 = (c.discardPlaceholder id).2.forget f g := by
  have same : (c.forget f g).windows = c.windows := rfl
  simp only [discardPlaceholder]
  rw [same]
  cases c.windows.get? id with
  | none => rfl
  | some w =>
    dsimp only
    split
    · rw [← addRepaint_forget]
      simp only [forget, G.windowDeleted, apply_ite g]
    · rfl

omit [Renderer σ] [Renderer σ'] G in
theorem changeWindow_forget (id : WindowId) (change : Toplevel → Toplevel)
    (next : Compositor δ σ → Compositor δ σ) (next' : Compositor δ' σ' → Compositor δ' σ')
    (after : ∀ c : Compositor δ σ, next' (c.forget f g) = (next c).forget f g) :
    (c.forget f g).changeWindow id change next' = (c.changeWindow id change next).forget f g := by
  rw [changeWindow, changeWindow, apply_ite (forget f g), ← after]
  rfl

theorem setClientState_forget (id : WindowId) (state : ClientState) :
    ((c.forget f g).setClientState id state).2 = (c.setClientState id state).2.forget f g := by
  have same : (c.forget f g).windows = c.windows := rfl
  have restated : (c.restated id state).forget f g = (c.forget f g).restated id state := rfl
  simp only [setClientState]
  rw [same]
  cases (c.windows.get? id).bind (·.clientState?) with
  | none => rfl
  | some old =>
    dsimp only
    rw [apply_ite (forget f g), apply_ite (forget f g), ← blockFor_forget, ← unblock_forget,
      ← checkBypass_forget _ G]
    rfl

end Renderer

variable [DisplayServer δ] [DisplayServer δ'] [Renderer σ] [Renderer σ']
  (F : DisplayServer.Forgets f) (G : Renderer.Forgets g)
include F G

theorem performCompositing_forget :
    (c.forget f g).performCompositing = c.performCompositing.forget f g := by
  have pending : (c.fetchDamage.forget f g).windowRepaintsPending =
    c.fetchDamage.windowRepaintsPending := rfl
  have repaints : (c.fetchDamage.forget f g).repaints = c.fetchDamage.repaints := rfl
  simp only [performCompositing, overlayVisible_forget c G, fetchDamage_forget c F, pending,
    repaints]
  split
  · split
    · simp only [goIdle, forget, G.idle]
    · exact paint_forget _ G
  · rfl

/-! Passes. -/

def BypassPass.forget (f : δ → δ') (g : σ → σ') (p : BypassPass δ σ) : BypassPass δ' σ' :=
  { p with display := f p.display, renderer := g p.renderer }

theorem update_forget (b : BypassState) (w : Toplevel) (wanted : Bool) (now : Nanos) (d : δ)
    (r : σ) :
    b.update w wanted now (f d) (g r) =
      ((b.update w wanted now d r).1, (b.update w wanted now d r).2.1,
        (b.update w wanted now d r).2.2.1, f (b.update w wanted now d r).2.2.2.1,
        g (b.update w wanted now d r).2.2.2.2) := by
  unfold BypassState.update
  split
  · rfl
  · split
    · rfl
    · dsimp only
      split
      · simp only [F.unredirectWindow, G.pixmapDiscarded]
      · simp only [F.redirectWindow, Toplevel.discardPixmap, G.pixmapDiscarded]

theorem bypassStep_forget (now : Nanos) (eligible : List WindowId) (w : Toplevel)
    (p : BypassPass δ σ) :
    bypassStep now eligible w (BypassPass.forget f g p) =
      ((bypassStep now eligible w p).1, BypassPass.forget f g (bypassStep now eligible w p).2) := by
  have updated := update_forget F G p.bypass w (eligible.contains w.id) now p.display p.renderer
  simp only [bypassStep, BypassPass.forget, updated]

theorem switchWindows_forget :
    (c.forget f g).switchWindows = (c.switchWindows.1, c.switchWindows.2.forget f g) := by
  have turn (w : Toplevel) (p : BypassPass δ σ) := bypassStep_forget F G c.timers.now
    (((c.windows.windows.filter fun w => !w.isPlaceholder).filter c.isEligible).map (·.id)) w p
  have visited := WindowStack.visit_hom (BypassPass.forget f g) turn
    ((c.windows.windows.filter fun w => !w.isPlaceholder).map (·.id)) c.windows
    ⟨c.bypass, c.display, c.renderer, false, false⟩
  have eligible : (c.forget f g).isEligible = c.isEligible := by
    funext w
    simp only [isEligible, bypassContext, forget, F.layout, G.fullscreenEffect]
  simp only [switchWindows]
  rw [eligible]
  dsimp only [forget, BypassPass.forget] at visited ⊢
  simp only [visited]

theorem bypassPass_forget : (c.forget f g).bypassPass = c.bypassPass.forget f g := by
  have shape (c : Compositor δ σ) : (c.forget f g).overlayShape = c.overlayShape := by
    simp only [overlayShape, forget, F.layout]
  rw [bypassPass_eq, bypassPass_eq, bypassApplies_forget c G, switchWindows_forget c F G]
  split
  · dsimp only
    split
    · rw [← addRepaintFull_forget _ F, shape]
      simp only [forget, G.setOverlayShape]
    · rfl
  · rfl

/-! Starting and stopping. -/

theorem acquire_forget :
    (c.forget f g).acquire = (c.acquire.1, c.acquire.2.forget f g) := by
  simp only [acquire, forget, F.screenNumber, F.claimSelection]
  rcases DisplayServer.claimSelection (selectionName (DisplayServer.screenNumber c.display))
    c.display with ⟨e | ⟨⟩, d⟩
  · rfl
  simp only [Prod.map, id_eq, F.layout, F.refreshRate?, G.start]
  rcases Renderer.start c.options.backend (DisplayServer.layout d) (DisplayServer.refreshRate? d)
    c.renderer with ⟨e | ⟨⟩, r⟩
  · rfl
  simp only [F.redirectSubwindows]
  rcases DisplayServer.redirectSubwindows d with ⟨e | ⟨⟩, d'⟩
  · rfl
  · rfl

theorem trackStep_forget (w : Toplevel) (t : δ × σ) :
    trackStep w (Prod.map f g t) = ((trackStep w t).1, Prod.map f g (trackStep w t).2) := by
  simp only [trackStep, w.track_forget F G t.1 t.2, Prod.map]

theorem untrackStep_forget (w : Toplevel) (t : δ × σ) :
    untrackStep w (Prod.map f g t) = ((untrackStep w t).1, Prod.map f g (untrackStep w t).2) := by
  simp only [untrackStep, w.untrack_forget F G t.1 t.2, Prod.map]

omit [DisplayServer δ] [DisplayServer δ'] [Renderer σ] [Renderer σ'] F G in
theorem visitWindows_forget {turn : Toplevel → δ × σ → Toplevel × δ × σ}
    {turn' : Toplevel → δ' × σ' → Toplevel × δ' × σ'}
    (same : ∀ w t, turn' w (Prod.map f g t) = ((turn w t).1, Prod.map f g (turn w t).2))
    (ids : List WindowId) :
    (c.forget f g).visitWindows turn' ids = (c.visitWindows turn ids).forget f g := by
  have visited := WindowStack.visit_hom (Prod.map f g) same ids c.windows (c.display, c.renderer)
  simp only [Prod.map] at visited
  simp only [visitWindows, forget, visited]

variable (enumerate : List WindowId → List WindowId)

theorem enable_forget : (c.forget f g).enable enumerate = (c.enable enumerate).forget f g := by
  have same (c : Compositor δ σ) : (c.forget f g).windows = c.windows := rfl
  simp only [enable]
  rw [scheduleRepaint_forget, addRepaintFull_forget _ F, same,
    visitWindows_forget _ (trackStep_forget F G), checkBypass_forget _ G]
  rfl

theorem activate_forget :
    (c.forget f g).activate enumerate = (c.activate enumerate).forget f g := by
  have budget : (c.forget f g).withFrameBudget = c.withFrameBudget.map (forget f g) := by
    have rate : (c.forget f g).refreshRate = c.refreshRate := by
      simp only [refreshRate, forget, F.refreshRate?]
    simp only [withFrameBudget]
    rw [rate]
    dsimp only [forget]
    rw [G.syncsToBlank]
    rcases c.frame.configure c.options.frameInterval c.refreshRate
      (Renderer.syncsToBlank c.renderer) c.options.blankTime with fault | frame
    · rfl
    · rfl
  simp only [activate, budget]
  cases c.withFrameBudget with
  | error fault => rfl
  | ok c' =>
    dsimp only [Except.map]
    rw [enable_forget c' F G, performCompositing_forget _ F G]

theorem setupBy_forget :
    (c.forget f g).setupBy enumerate = (c.setupBy enumerate).forget f g := by
  have scene : (c.forget f g).hasScene = c.hasScene := rfl
  have held : (c.forget f g).suspended = c.suspended := rfl
  have acquired : acquire { c.forget f g with phase := .starting } =
      ((acquire { c with phase := .starting }).1,
        (acquire { c with phase := .starting }).2.forget f g) :=
    acquire_forget { c with phase := .starting } F G
  simp only [setupBy]
  rw [acquired, scene, held, isPossible_forget c F]
  split
  · rfl
  · split
    · rfl
    · rcases acquire ({ c with phase := .starting } : Compositor δ σ) with ⟨e | ⟨⟩, a⟩
      · exact congrArg (fun c => { c with phase := .inactive })
          (releaseSelection_forget { a with hasScene := false } F)
      · exact activate_forget a F G enumerate

theorem setup_forget : (c.forget f g).setup = c.setup.forget f g := setupBy_forget c F G id

omit [DisplayServer δ] [DisplayServer δ'] F in
theorem closeWindows_forget (windows : List Toplevel) (r : σ) :
    windows.foldl closeWindow (g r) = g (windows.foldl closeWindow r) := by
  induction windows generalizing r with
  | nil => rfl
  | cons w rest ih =>
    have one : closeWindow (g r) w = g (closeWindow r w) := by
      simp only [closeWindow, G.windowDeleted, G.windowClosed, apply_ite g]
    rw [List.foldl_cons, List.foldl_cons, one, ih]

omit [Renderer σ] [Renderer σ'] G in
theorem forwardOpacities_forget (windows : List Toplevel) (d : δ) :
    windows.foldl forwardOpacity (f d) = f (windows.foldl forwardOpacity d) := by
  induction windows generalizing d with
  | nil => rfl
  | cons w rest ih =>
    have one : forwardOpacity (f d) w = f (forwardOpacity d w) := by
      simp only [forwardOpacity, F.setOpacity, apply_ite f]
    rw [List.foldl_cons, List.foldl_cons, one, ih]

theorem finishBy_forget :
    (c.forget f g).finishBy enumerate = (c.finishBy enumerate).forget f g := by
  have let_go := visitWindows_forget ({ c with
      phase := .finishing
      renderer := c.windows.windows.foldl closeWindow c.renderer } : Compositor δ σ)
    (untrackStep_forget F G) (enumerate c.windows.ids)
  have scene : (c.forget f g).hasScene = c.hasScene := rfl
  simp only [finishBy, scene]
  split
  · rw [← releaseSelection_forget _ F]
    refine congrArg releaseSelection ?_
    dsimp only [forget] at let_go ⊢
    rw [closeWindows_forget G, let_go]
    simp only [emit, F.unredirectSubwindows, forwardOpacities_forget F]
  · rfl

theorem finish_forget : (c.forget f g).finish = c.finish.forget f g := finishBy_forget c F G id

theorem suspend_forget (reason : Suspension) :
    (c.forget f g).suspend reason = (c.suspend reason).forget f g :=
  finish_forget { c with suspended := c.suspended.union reason } F G

theorem resume_forget (reason : Suspension) :
    (c.forget f g).resume reason = (c.resume reason).forget f g :=
  setup_forget { c with suspended := c.suspended.without reason } F G

theorem toggle_forget : (c.forget f g).toggle = c.toggle.forget f g := by
  rw [toggle, toggle, suspend_forget c F G, resume_forget c F G, apply_ite (forget f g)]
  rfl

theorem toggleRemote_forget : (c.forget f g).toggleRemote = c.toggleRemote.forget f g := by
  have held (c : Compositor δ σ) : (c.forget f g).suspended = c.suspended := rfl
  have shortcut (c : Compositor δ σ) : (c.forget f g).options = c.options := rfl
  unfold toggleRemote
  dsimp only
  rw [toggle_forget c F G, held, shortcut]
  split
  · rfl
  · cases c.toggle.options.suspendShortcut? with
    | none => rfl
    | some _ => rfl

theorem setCompositing_forget (active : Bool) :
    (c.forget f g).setCompositing active = (c.setCompositing active).forget f g := by
  cases active with
  | true => exact resume_forget c F G _
  | false => exact suspend_forget c F G _

theorem reconfigure_forget (options : CompositingOptions) :
    (c.forget f g).reconfigure options = (c.reconfigure options).forget f g := by
  have begun (b : BypassState) :
      addRepaintFull (setup { c.forget f g with options := options, bypass := b }) =
        (addRepaintFull (setup { c with options := options, bypass := b })).forget f g := by
    rw [← addRepaintFull_forget _ F, ← setup_forget _ F G]
    rfl
  have ended (b : BypassState) : finish { c.forget f g with options := options, bypass := b } =
      (finish { c with options := options, bypass := b }).forget f g :=
    finish_forget { c with options := options, bypass := b } F G
  unfold reconfigure
  dsimp only
  rw [begun, ended, apply_ite (forget f g), apply_ite (forget f g), ← checkBypass_forget _ G]
  rfl

theorem startOver_forget (options : CompositingOptions) :
    (c.forget f g).startOver options = (c.startOver options).forget f g := by
  simp only [startOver]
  rw [finish_forget c F G]
  exact setup_forget { c.finish with suspended := options.initialSuspension, options := options }
    F G

theorem restart_forget : (c.forget f g).restart = c.restart.forget f g := by
  simp only [restart]
  rw [finish_forget c F G, apply_ite (forget f g)]
  rfl

theorem shutdown_forget : (c.forget f g).shutdown = c.shutdown.forget f g := by
  simp only [shutdown]
  rw [finish_forget c F G]
  exact sweepSupport_forget { c.finish with timers := c.finish.timers.stop .supportSweep } F false

theorem runAction_forget (a : DeferredAction) :
    (c.forget f g).runAction a = (c.runAction a).forget f g := by
  cases a with
  | suspend reason => exact suspend_forget c F G reason
  | resume reason => exact resume_forget c F G reason
  | setup => exact setup_forget c F G

theorem runDeferred_forget : (c.forget f g).runDeferred = c.runDeferred.forget f g := by
  have all (actions : List DeferredAction) (c : Compositor δ σ) :
      actions.foldl runAction (c.forget f g) = (actions.foldl runAction c).forget f g := by
    induction actions generalizing c with
    | nil => rfl
    | cons a rest ih => rw [List.foldl_cons, runAction_forget c F G, ih, List.foldl_cons]
  exact all c.deferred { c with deferred := [] }

/-! Windows that come and go. -/

theorem entered_forget (w : Toplevel) :
    (c.forget f g).entered w = (c.entered w).forget f g := by
  have tracked := trackStep_forget F G w (c.display, c.renderer)
  have scene : (c.forget f g).hasScene = c.hasScene := rfl
  have entering : (c.forget f g).entering w =
      ((c.entering w).1, f (c.entering w).2.1, g (c.entering w).2.2) := by
    simp only [Compositor.entering, scene]
    split
    · exact tracked
    · rfl
  simp only [entered]
  rw [entering]
  rfl

theorem addWindow_forget (w : Toplevel) :
    (c.forget f g).addWindow w = (c.addWindow w).forget f g := by
  have same : (c.forget f g).windows = c.windows := rfl
  rcases c.addWindow_cases w with ⟨known, h⟩ | ⟨fresh, h⟩
  · rcases (c.forget f g).addWindow_cases w with ⟨_, h'⟩ | ⟨fresh', _⟩
    · rw [h, h']
    · simp [same, known] at fresh'
  · rcases (c.forget f g).addWindow_cases w with ⟨known', _⟩ | ⟨_, h'⟩
    · simp [same, fresh] at known'
    · rw [h, h', entered_forget c F G, checkBypass_forget _ G, scheduleRepaint_forget,
        blockFor_forget, apply_ite (forget f g)]

theorem left_forget (w : Toplevel) (keepPlaceholder : Bool) :
    (c.forget f g).left w keepPlaceholder = (c.left w keepPlaceholder).forget f g := by
  have scene : (c.forget f g).hasScene = c.hasScene := rfl
  have leaving (stays : Bool) : (c.forget f g).leaving w stays =
      ((c.leaving w stays).1, f (c.leaving w stays).2.1, g (c.leaving w stays).2.2) := by
    have untracked := untrackStep_forget F G w
      (c.display, Renderer.windowClosed w.id stays c.renderer)
    simp only [Prod.map, ← G.windowClosed] at untracked
    simp only [Compositor.leaving, scene]
    split
    · exact untracked
    · rfl
  simp only [left]
  rw [scene, leaving]
  rfl

theorem removeWindow_forget (id : WindowId) (keepPlaceholder : Bool) :
    ((c.forget f g).removeWindow id keepPlaceholder).2 =
      (c.removeWindow id keepPlaceholder).2.forget f g := by
  have same : (c.forget f g).windows = c.windows := rfl
  have cases := (c.forget f g).removeWindow_cases id keepPlaceholder
  rcases c.removeWindow_cases id keepPlaceholder with ⟨gone, h⟩ | ⟨w, found, real, h⟩
  · rcases cases with ⟨_, h'⟩ | ⟨w', found', real', _⟩
    · rw [h, h']
    · simp [gone w' found'] at real'
  · rcases cases with ⟨gone', _⟩ | ⟨w', found', _, h'⟩
    · simp [gone' w found] at real
    · rw [same, found, Option.some.injEq] at found'
      subst found'
      rw [h, h', left_forget c F G, addRepaint_forget, checkBypass_forget _ G, unblock_forget,
        apply_ite (forget f g)]

/-! Events, timers and requests. -/

theorem handleDisplayEvent_forget (e : DisplayEvent) :
    (c.forget f g).handleDisplayEvent e = (c.handleDisplayEvent e).forget f g := by
  have same : (c.forget f g).windows = c.windows := rfl
  have held : (c.forget f g).selection? = c.selection? := rfl
  cases e with
  | damaged id =>
    simp only [handleDisplayEvent, same]
    cases c.windows.get? id with
    | none => rfl
    | some w =>
      dsimp only
      rcases w.damageNotify with ⟨_ | _, v⟩
      · rfl
      · exact scheduleRepaint_forget { c with windows := c.windows.modify id fun _ => v }
  | selectionCleared =>
    simp only [handleDisplayEvent, held]
    cases c.selection? with
    | none => rfl
    | some s => exact finish_forget { c with selection? := none } F G

theorem dispatchDisplayEvents_forget :
    (c.forget f g).dispatchDisplayEvents.2 = c.dispatchDisplayEvents.2.forget f g := by
  have all (events : List DisplayEvent) (c : Compositor δ σ) :
      events.foldl handleDisplayEvent (c.forget f g) =
        (events.foldl handleDisplayEvent c).forget f g := by
    induction events generalizing c with
    | nil => rfl
    | cons e rest ih => rw [List.foldl_cons, handleDisplayEvent_forget c F G, ih, List.foldl_cons]
  have taken := all (DisplayServer.takeEvents c.display).1
    { c with display := (DisplayServer.takeEvents c.display).2 }
  simpa only [dispatchDisplayEvents, forget, F.takeEvents, Prod.map, id_eq] using taken

theorem handleTimer_forget (id : TimerId) :
    (c.forget f g).handleTimer id = (c.handleTimer id).forget f g := by
  cases id with
  | repaint => exact performCompositing_forget c F G
  | bypassCheck => exact bypassPass_forget c F G
  | bypassRetry => exact checkBypass_forget c G false
  | supportSweep => exact sweepSupport_forget c F c.isBusy
  | restart => exact restart_forget c F G
  | deferred => exact runDeferred_forget c F G

theorem fireTimer_forget (target : Nanos) :
    (c.forget f g).fireTimer target = (c.fireTimer target).forget f g := by
  have same : (c.forget f g).timers = c.timers := rfl
  simp only [fireTimer]
  rw [same]
  rcases c.timers.popDue target with _ | ⟨id, timers⟩
  · rfl
  · exact handleTimer_forget { c with timers := timers } F G id

/-- The same timers go off. -/
theorem fireDue_forget (target : Nanos) (limit : Nat) :
    (c.forget f g).fireDue target limit =
      ((c.fireDue target limit).1, (c.fireDue target limit).2.forget f g) := by
  induction limit generalizing c with
  | zero => rfl
  | succ limit ih =>
    have same : (c.forget f g).timers = c.timers := rfl
    simp only [fireDue, fireNext, same]
    rcases c.timers.popDue target with _ | ⟨id, timers⟩
    · rfl
    · have handled : ((({ c.forget f g with timers := timers } :
          Compositor δ' σ').handleTimer id).dispatchDisplayEvents).2 =
          ((({ c with timers := timers } :
            Compositor δ σ).handleTimer id).dispatchDisplayEvents).2.forget f g :=
        (congrArg (fun c => (dispatchDisplayEvents c).2)
          (handleTimer_forget { c with timers := timers } F G id)).trans
          (dispatchDisplayEvents_forget _ F G)
      simp only [Option.map_some, handled, ih]

theorem handleRequest_forget (r : ControlRequest) :
    ((c.forget f g).handleRequest r).2 = (c.handleRequest r).2.forget f g := by
  cases r with
  | toggleCompositing => exact toggleRemote_forget c F G
  | setCompositing active => exact setCompositing_forget c F G active
  | suspend reason => exact suspend_forget c F G reason
  | resume reason => exact resume_forget c F G reason
  | startOver => exact startOver_forget c F G c.options
  | isActive | compositingType | isCompositingPossible | notPossibleReason => rfl

theorem setOverlayVisible_forget (visible : Bool) :
    (c.forget f g).setOverlayVisible visible = (c.setOverlayVisible visible).forget f g := by
  have scene : (c.forget f g).hasScene = c.hasScene := rfl
  have shown := addRepaintFull_forget
    ({ c with renderer := Renderer.setOverlayVisible visible c.renderer } : Compositor δ σ) F
    (g := g)
  rw [setOverlayVisible, setOverlayVisible, scene, apply_ite (forget f g), apply_ite (forget f g),
    ← shown]
  dsimp only [forget]
  rw [G.setOverlayVisible]

theorem step_forget {W : World ω δ σ} {W' : World ω δ' σ'} (outside : World.Forgets W W' f g)
    (k : Step ω) : (c.forget f g).step W' k = (c.step W k).forget f g := by
  cases k with
  | setup => exact setup_forget c F G
  | finish => exact finish_forget c F G
  | suspend reason => exact suspend_forget c F G reason
  | resume reason => exact resume_forget c F G reason
  | toggle => exact toggle_forget c F G
  | toggleRemote => exact toggleRemote_forget c F G
  | setCompositing active => exact setCompositing_forget c F G active
  | reconfigure options => exact reconfigure_forget c F G options
  | startOver options => exact startOver_forget c F G options
  | restart => exact restart_forget c F G
  | shutdown => exact shutdown_forget c F G
  | blockFor id => exact blockFor_forget c id
  | unblock => exact unblock_forget c
  | performCompositing => exact performCompositing_forget c F G
  | scheduleRepaint => exact scheduleRepaint_forget c
  | addRepaint region => exact addRepaint_forget c region
  | addRepaintFull => exact addRepaintFull_forget c F
  | addWindow w => exact addWindow_forget c F G w
  | removeWindow id keepPlaceholder => exact removeWindow_forget c F G id keepPlaceholder
  | discardPlaceholder id => exact discardPlaceholder_forget c G id
  | setGeometry id geometry => exact setGeometry_forget c G id geometry
  | setStackingOrder order =>
    dsimp only [step, setStackingOrder]
    rw [← checkBypass_forget _ G, ← addRepaintFull_forget _ F]
    rfl
  | raiseWindow id =>
    dsimp only [step, raiseWindow]
    rw [apply_ite (forget f g), ← checkBypass_forget _ G, ← addRepaintFull_forget _ F]
    rfl
  | setWindowOpacity id o =>
    refine changeWindow_forget c id (fun w => (w.setOpacity o).addRepaintFull)
      (fun c => c.scheduleRepaint.checkBypass false)
      (fun c => c.scheduleRepaint.checkBypass false) fun c => ?_
    rw [scheduleRepaint_forget, checkBypass_forget _ G]
  | setClientState id state => exact setClientState_forget c G id state
  | setShaped id shaped =>
    exact changeWindow_forget c id (fun w => { w with shaped := shaped }) (checkBypass false)
      (checkBypass false) fun c => checkBypass_forget c G false
  | suspendBypass id suspended =>
    exact changeWindow_forget c id (fun w => { w with bypassSuspended := suspended })
      (checkBypass false) (checkBypass false) fun c => checkBypass_forget c G false
  | addWindowRepaint id region =>
    exact changeWindow_forget c id (Toplevel.addRepaint region) scheduleRepaint scheduleRepaint
      scheduleRepaint_forget
  | addWindowRepaintFull id =>
    exact changeWindow_forget c id Toplevel.addRepaintFull scheduleRepaint scheduleRepaint
      scheduleRepaint_forget
  | addWindowLayerRepaint id region =>
    exact changeWindow_forget c id (Toplevel.addLayerRepaint region) scheduleRepaint
      scheduleRepaint scheduleRepaint_forget
  | handleDisplayEvent e => exact handleDisplayEvent_forget c F G e
  | dispatchDisplayEvents => exact dispatchDisplayEvents_forget c F G
  | handleTimer id => exact handleTimer_forget c F G id
  | fireTimer target => exact fireTimer_forget c F G target
  | checkBypass force => exact checkBypass_forget c G force
  | setBypassFullscreen on =>
    dsimp only [step, setBypassFullscreen]
    rw [apply_ite (forget f g), ← checkBypass_forget _ G]
    rfl
  | setOverlayVisible visible => exact setOverlayVisible_forget c F G visible
  | handleRequest r => exact handleRequest_forget c F G r
  | outside o =>
    dsimp only [step, forget]
    rw [outside.display, outside.renderer]
  | scheduleRestart | advanceClock | keepSupportProperty | removeSupportProperty | takeEvents => rfl

/-- A run is seen through the maps as the run of what is seen. -/
theorem run_forget {W : World ω δ σ} {W' : World ω δ' σ'} (outside : World.Forgets W W' f g)
    (steps : List (Step ω)) :
    (c.forget f g).run W' steps = (c.run W steps).forget f g := by
  simp only [run]
  induction steps generalizing c with
  | nil => rfl
  | cons k rest ih => rw [List.foldl_cons, step_forget c F G outside, ih, List.foldl_cons]

end Compositor

end Compositing
