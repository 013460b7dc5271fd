import Compositing.Proofs.Frames
import Compositing.Proofs.Stack

/-!
# What all steps preserve

Most steps are put together from a few operations. What these preserve is preserved by every
step but four: the coming and going of a window, news of a client's state, and what others
do. Whoever claims something of all runs has to look at the operations listed here and at
these four.
-/

namespace Compositing

namespace Timers

theorem isArmed_iff {t : Timers} {id : TimerId} :
    t.isArmed id = true ↔ ∃ moment, (id, moment) ∈ t.armed := by
  simp only [isArmed, deadline?, Option.isSome_map, List.find?_isSome, beq_iff_eq]
  constructor
  · rintro ⟨⟨_, moment⟩, h, rfl⟩
    exact ⟨moment, h⟩
  · rintro ⟨moment, h⟩
    exact ⟨(id, moment), h, rfl⟩

@[simp] theorem isArmed_stop {t : Timers} {stopped id : TimerId} :
    (t.stop stopped).isArmed id = true ↔ id ≠ stopped ∧ t.isArmed id = true := by
  simp [isArmed_iff, stop, and_comm]

@[simp] theorem isArmed_start {t : Timers} {started id : TimerId} {after : Nanos} :
    (t.start started after).isArmed id = true ↔ id = started ∨ t.isArmed id = true := by
  by_cases h : id = started
  · simp [isArmed_iff, start, h]
  · simp [isArmed_iff, start, stop, h]

/-- Taking a timer off disarms no other. -/
theorem isArmed_popDue {t t' : Timers} {target : Nanos} {popped : TimerId}
    (h : t.popDue target = some (popped, t')) {id : TimerId} (other : id ≠ popped)
    (armed : t.isArmed id = true) : t'.isArmed id = true := by
  rw [popDue] at h
  split at h
  · simp at h
  · split at h
    · simp only [Option.some.injEq, Prod.mk.injEq] at h
      obtain ⟨rfl, rfl⟩ := h
      exact isArmed_stop.mpr ⟨other, armed⟩
    · simp at h

end Timers

@[simp] theorem FrameBudget.isArmed_schedule (b : FrameBudget) (t : Timers) :
    (b.schedule t).isArmed .repaint = true := by
  rw [schedule]
  split
  · assumption
  · simp

/-- The steps that are made of the listed operations. -/
def Step.Inner {ω : Type} : Step ω → Prop
  | .addWindow _ | .removeWindow _ _ | .setClientState _ _ | .outside _ => False
  | _ => True

namespace Compositor

variable {ω δ σ : Type}

/-- The two differ at most in what decides about the next start and the next pass, in the
work that is put off, and in the timers. -/
structure SameWork (c c' : Compositor δ σ) : Prop where
  display : c'.display = c.display
  renderer : c'.renderer = c.renderer
  scene : c'.hasScene = c.hasScene
  windows : c'.windows = c.windows
  repaints : c'.repaints = c.repaints
  fault : c'.fault? = c.fault?

theorem SameWork.refl (c : Compositor δ σ) : SameWork c c := ⟨rfl, rfl, rfl, rfl, rfl, rfl⟩

variable [DisplayServer δ] [Renderer σ]

structure Preserved (P : Compositor δ σ → Prop) : Prop where
  still : ∀ {c c'}, P c → SameWork c c' →
    (c.timers.isArmed .repaint = true → c'.timers.isArmed .repaint = true) → P c'
  /-- The timer may have gone off just before. -/
  frame : ∀ {c c'}, P c → SameWork c c' → P c'.performCompositing
  addRepaint : ∀ {c} g, P c → P (c.addRepaint g)
  addRepaintFull : ∀ {c}, P c → P c.addRepaintFull
  sweepSupport : ∀ {c} busy, P c → P (c.sweepSupport busy)
  bypassPass : ∀ {c}, P c → P c.bypassPass
  setup : ∀ {c}, P c → P c.setup
  finish : ∀ {c}, P c → P c.finish
  discardPlaceholder : ∀ {c} id, P c → P (c.discardPlaceholder id).2
  setGeometry : ∀ {c} id geometry, P c → P (c.setGeometry id geometry)
  restack : ∀ {c} order, P c →
    P ({ c with windows := c.windows.restack order } : Compositor δ σ).addRepaintFull
  /-- A window changes its looks. -/
  reshape : ∀ {c} id {f}, (∀ w, Toplevel.Same w (f w) ∧ Toplevel.SameRepaints w (f w)) →
    (∀ w, Toplevel.SameDamage w (f w)) → P c → P { c with windows := c.windows.modify id f }
  /-- A window changes its looks or what is to be painted of it. -/
  retouch : ∀ {c} id {f}, (∀ w, Toplevel.Same w (f w)) → (∀ w, Toplevel.SameDamage w (f w)) →
    P c → P ({ c with windows := c.windows.modify id f } : Compositor δ σ).scheduleRepaint
  damaged : ∀ {c} id, P c → P (c.handleDisplayEvent (.damaged id))
  dispatch : ∀ {c}, P c → P c.dispatchDisplayEvents.2
  setOverlayVisible : ∀ {c} visible, P c → P (c.setOverlayVisible visible)

/-- What holds of the waiting events and survives the handling of each holds once all are
handled. -/
theorem dispatch_induction {Q : List DisplayEvent → Compositor δ σ → Prop} {c : Compositor δ σ}
    (start : Q (DisplayServer.takeEvents c.display).1
      { c with display := (DisplayServer.takeEvents c.display).2 })
    (handle : ∀ e rest c, Q (e :: rest) c → Q rest (c.handleDisplayEvent e)) :
    Q [] c.dispatchDisplayEvents.2 := by
  have handled (events : List DisplayEvent) (c : Compositor δ σ) (h : Q events c) :
      Q [] (events.foldl Compositor.handleDisplayEvent c) := by
    induction events generalizing c with
    | nil => exact h
    | cons e rest ih => exact ih _ (handle e rest c h)
  exact handled _ _ start

omit [DisplayServer δ] in
theorem checkBypass_armed {c : Compositor δ σ} (force : Bool)
    (armed : c.timers.isArmed .repaint = true) :
    (c.checkBypass force).timers.isArmed .repaint = true := by
  rw [checkBypass]
  split
  · dsimp only
    split
    · exact armed
    · simpa using armed
  · exact armed

omit [DisplayServer δ] [Renderer σ] in
theorem defer_armed {c : Compositor δ σ} (a : DeferredAction)
    (armed : c.timers.isArmed .repaint = true) : (c.defer a).timers.isArmed .repaint = true := by
  rw [defer]
  dsimp only
  split
  · exact armed
  · simpa using armed

omit [DisplayServer δ] in
theorem checkBypass_sameWork (c : Compositor δ σ) (force : Bool) :
    SameWork c (c.checkBypass force) := by
  constructor
  all_goals simp

namespace Preserved

variable {P : Compositor δ σ → Prop} (keeps : Preserved P) {c : Compositor δ σ}
include keeps

/-! Calls that only arm a timer or put work off. -/

theorem scheduleRepaint (h : P c) : P c.scheduleRepaint := by
  have same : SameWork c c.scheduleRepaint := by
    constructor
    all_goals simp
  apply keeps.still h same
  intro armed
  rw [Compositor.scheduleRepaint]
  split
  · simp
  · exact armed

theorem checkBypass (force : Bool) (h : P c) : P (c.checkBypass force) :=
  keeps.still h (c.checkBypass_sameWork force) (checkBypass_armed force)

theorem emit (e : Event) (h : P c) : P (c.emit e) :=
  keeps.still h ⟨rfl, rfl, rfl, rfl, rfl, rfl⟩ id

theorem defer (a : DeferredAction) (h : P c) : P (c.defer a) :=
  keeps.still h ⟨rfl, rfl, rfl, rfl, rfl, rfl⟩ (defer_armed a)

theorem blockFor (id : WindowId) (h : P c) : P (c.blockFor id) := by
  rw [Compositor.blockFor]
  cases c.windows.get? id with
  | none => exact h
  | some w =>
    dsimp only
    split
    · exact keeps.defer _ h
    · exact h

theorem unblock (h : P c) : P c.unblock := by
  rw [Compositor.unblock]
  split
  · exact keeps.defer _ h
  · exact h

/-! Starting and stopping for whatever reason. -/

theorem suspend (reason : Suspension) (h : P c) : P (c.suspend reason) :=
  keeps.finish (keeps.still h ⟨rfl, rfl, rfl, rfl, rfl, rfl⟩ id)

theorem resume (reason : Suspension) (h : P c) : P (c.resume reason) :=
  keeps.setup (keeps.still h ⟨rfl, rfl, rfl, rfl, rfl, rfl⟩ id)

theorem toggle (h : P c) : P c.toggle := by
  rw [Compositor.toggle]
  split
  · exact keeps.suspend _ h
  · exact keeps.resume _ h

theorem toggleRemote (h : P c) : P c.toggleRemote := by
  have toggled := keeps.toggle h
  unfold Compositor.toggleRemote
  dsimp only
  split
  · exact toggled
  · split
    · exact toggled
    · exact keeps.emit _ toggled

theorem setCompositing (active : Bool) (h : P c) : P (c.setCompositing active) := by
  rw [Compositor.setCompositing]
  split
  · exact keeps.resume _ h
  · exact keeps.suspend _ h

theorem reconfigure (options : CompositingOptions) (h : P c) : P (c.reconfigure options) := by
  have taken (b : BypassState) : P { c with options := options, bypass := b } :=
    keeps.still h ⟨rfl, rfl, rfl, rfl, rfl, rfl⟩ id
  rw [Compositor.reconfigure]
  dsimp only
  split
  · split
    · exact keeps.checkBypass _ (keeps.addRepaintFull (keeps.setup (taken _)))
    · exact keeps.addRepaintFull (keeps.setup (taken _))
  · exact keeps.finish (taken _)

theorem startOver (options : CompositingOptions) (h : P c) : P (c.startOver options) :=
  keeps.setup (keeps.still (keeps.finish h) ⟨rfl, rfl, rfl, rfl, rfl, rfl⟩ id)

theorem restart (h : P c) : P c.restart := by
  rw [Compositor.restart]
  split
  · exact keeps.defer _ (keeps.still (keeps.finish h) ⟨rfl, rfl, rfl, rfl, rfl, rfl⟩ id)
  · exact h

theorem shutdown (h : P c) : P c.shutdown := by
  have stopped :
      P { c.finish with timers := c.finish.timers.stop .supportSweep } :=
    keeps.still (keeps.finish h) ⟨rfl, rfl, rfl, rfl, rfl, rfl⟩ fun armed => by simpa using armed
  exact keeps.sweepSupport false stopped

theorem runAction (a : DeferredAction) (h : P c) : P (c.runAction a) := by
  cases a with
  | suspend reason => exact keeps.suspend reason h
  | resume reason => exact keeps.resume reason h
  | setup => exact keeps.setup h

theorem runDeferred (h : P c) : P c.runDeferred := by
  rw [Compositor.runDeferred]
  have emptied : P { c with deferred := [] } := keeps.still h ⟨rfl, rfl, rfl, rfl, rfl, rfl⟩ id
  generalize ({ c with deferred := [] } : Compositor δ σ) = c' at emptied
  induction c.deferred generalizing c' with
  | nil => exact emptied
  | cons a rest ih => exact ih _ (keeps.runAction a emptied)

theorem handleRequest (r : ControlRequest) (h : P c) : P (c.handleRequest r).2 := by
  cases r with
  | toggleCompositing => exact keeps.toggleRemote h
  | setCompositing active => exact keeps.setCompositing active h
  | suspend reason => exact keeps.suspend reason h
  | resume reason => exact keeps.resume reason h
  | startOver => exact keeps.startOver _ h
  | isActive | compositingType | isCompositingPossible | notPossibleReason => exact h

/-! Changes of one window, and events. -/

theorem changeShape (id : WindowId) {f : Toplevel → Toplevel}
    (same : ∀ w, Toplevel.Same w (f w) ∧ Toplevel.SameRepaints w (f w))
    (intact : ∀ w, Toplevel.SameDamage w (f w)) (h : P c) :
    P (c.changeWindow id f (Compositor.checkBypass false)) := by
  rw [changeWindow]
  split
  · exact keeps.checkBypass _ (keeps.reshape id same intact h)
  · exact h

theorem changePaint (id : WindowId) {f : Toplevel → Toplevel}
    (same : ∀ w, Toplevel.Same w (f w)) (intact : ∀ w, Toplevel.SameDamage w (f w)) (h : P c) :
    P (c.changeWindow id f Compositor.scheduleRepaint) := by
  rw [changeWindow]
  split
  · exact keeps.retouch id same intact h
  · exact h

theorem setWindowOpacity (id : WindowId) (o : Opacity) (h : P c) :
    P (c.setWindowOpacity id o) := by
  rw [Compositor.setWindowOpacity, changeWindow]
  split
  · refine keeps.checkBypass _
      (keeps.retouch id (fun w => ?_) (fun w => (w.setOpacity o).addRepaintFull_sameDamage) h)
    have same := (w.setOpacity o).addRepaintFull_same
    exact ⟨same.id, same.kind, same.damage, same.awaited, same.dirty, same.direct,
      fun _ => same.bounded o.clamp_le_one⟩
  · exact h

theorem handleDisplayEvent (e : DisplayEvent) (h : P c) : P (c.handleDisplayEvent e) := by
  cases e with
  | damaged id => exact keeps.damaged id h
  | selectionCleared =>
    rcases c.selectionCleared_cases with e | e
    · rw [e]
      exact h
    · rw [e]
      exact keeps.finish (keeps.still h ⟨rfl, rfl, rfl, rfl, rfl, rfl⟩ id)

theorem handleTimer (id : TimerId) (h : P c) : P (c.handleTimer id) := by
  cases id with
  | repaint => exact keeps.frame h (SameWork.refl c)
  | bypassCheck => exact keeps.bypassPass h
  | bypassRetry => exact keeps.checkBypass _ h
  | supportSweep => exact keeps.sweepSupport _ h
  | restart => exact keeps.restart h
  | deferred => exact keeps.runDeferred h

theorem fireTimer (target : Nanos) (h : P c) : P (c.fireTimer target) := by
  rw [Compositor.fireTimer]
  split
  · exact h
  · rename_i id timers popped
    -- the repaint timer is not armed any more while its frame is made
    by_cases repaint : id = .repaint
    · subst repaint
      exact keeps.frame h ⟨rfl, rfl, rfl, rfl, rfl, rfl⟩
    · refine keeps.handleTimer id (keeps.still h ⟨rfl, rfl, rfl, rfl, rfl, rfl⟩ ?_)
      exact Timers.isArmed_popDue popped (Ne.symm repaint)

end Preserved

theorem Preserved.and {P Q : Compositor δ σ → Prop} (first : Preserved P) (second : Preserved Q) :
    Preserved fun c => P c ∧ Q c where
  still := fun h same armed => ⟨first.still h.1 same armed, second.still h.2 same armed⟩
  frame := fun h same => ⟨first.frame h.1 same, second.frame h.2 same⟩
  addRepaint := fun g h => ⟨first.addRepaint g h.1, second.addRepaint g h.2⟩
  addRepaintFull := fun h => ⟨first.addRepaintFull h.1, second.addRepaintFull h.2⟩
  sweepSupport := fun busy h => ⟨first.sweepSupport busy h.1, second.sweepSupport busy h.2⟩
  bypassPass := fun h => ⟨first.bypassPass h.1, second.bypassPass h.2⟩
  setup := fun h => ⟨first.setup h.1, second.setup h.2⟩
  finish := fun h => ⟨first.finish h.1, second.finish h.2⟩
  discardPlaceholder := fun id h =>
    ⟨first.discardPlaceholder id h.1, second.discardPlaceholder id h.2⟩
  setGeometry := fun id geometry h =>
    ⟨first.setGeometry id geometry h.1, second.setGeometry id geometry h.2⟩
  restack := fun order h => ⟨first.restack order h.1, second.restack order h.2⟩
  reshape := fun id _ same intact h =>
    ⟨first.reshape id same intact h.1, second.reshape id same intact h.2⟩
  retouch := fun id _ same intact h =>
    ⟨first.retouch id same intact h.1, second.retouch id same intact h.2⟩
  damaged := fun id h => ⟨first.damaged id h.1, second.damaged id h.2⟩
  dispatch := fun h => ⟨first.dispatch h.1, second.dispatch h.2⟩
  setOverlayVisible := fun visible h =>
    ⟨first.setOverlayVisible visible h.1, second.setOverlayVisible visible h.2⟩

theorem Preserved.exists {ι : Type} {P : ι → Compositor δ σ → Prop}
    (keeps : ∀ i, Preserved (P i)) : Preserved fun c => ∃ i, P i c where
  still := fun ⟨i, h⟩ same armed => ⟨i, (keeps i).still h same armed⟩
  frame := fun ⟨i, h⟩ same => ⟨i, (keeps i).frame h same⟩
  addRepaint := fun g ⟨i, h⟩ => ⟨i, (keeps i).addRepaint g h⟩
  addRepaintFull := fun ⟨i, h⟩ => ⟨i, (keeps i).addRepaintFull h⟩
  sweepSupport := fun busy ⟨i, h⟩ => ⟨i, (keeps i).sweepSupport busy h⟩
  bypassPass := fun ⟨i, h⟩ => ⟨i, (keeps i).bypassPass h⟩
  setup := fun ⟨i, h⟩ => ⟨i, (keeps i).setup h⟩
  finish := fun ⟨i, h⟩ => ⟨i, (keeps i).finish h⟩
  discardPlaceholder := fun id ⟨i, h⟩ => ⟨i, (keeps i).discardPlaceholder id h⟩
  setGeometry := fun id geometry ⟨i, h⟩ => ⟨i, (keeps i).setGeometry id geometry h⟩
  restack := fun order ⟨i, h⟩ => ⟨i, (keeps i).restack order h⟩
  reshape := fun id _ same intact ⟨i, h⟩ => ⟨i, (keeps i).reshape id same intact h⟩
  retouch := fun id _ same intact ⟨i, h⟩ => ⟨i, (keeps i).retouch id same intact h⟩
  damaged := fun id ⟨i, h⟩ => ⟨i, (keeps i).damaged id h⟩
  dispatch := fun ⟨i, h⟩ => ⟨i, (keeps i).dispatch h⟩
  setOverlayVisible := fun visible ⟨i, h⟩ => ⟨i, (keeps i).setOverlayVisible visible h⟩

theorem Preserved.step {P : Compositor δ σ → Prop} (keeps : Preserved P) (W : World ω δ σ)
    {k : Step ω} (inner : k.Inner) {c : Compositor δ σ} (h : P c) : P (c.step W k) := by
  cases k with
  | addWindow | removeWindow | setClientState | outside => exact inner.elim
  | setup => exact keeps.setup h
  | finish => exact keeps.finish h
  | suspend reason => exact keeps.suspend reason h
  | resume reason => exact keeps.resume reason h
  | toggle => exact keeps.toggle h
  | toggleRemote => exact keeps.toggleRemote h
  | setCompositing active => exact keeps.setCompositing active h
  | reconfigure options => exact keeps.reconfigure options h
  | startOver options => exact keeps.startOver options h
  | restart => exact keeps.restart h
  | shutdown => exact keeps.shutdown h
  | blockFor id => exact keeps.blockFor id h
  | unblock => exact keeps.unblock h
  | performCompositing => exact keeps.frame h (SameWork.refl c)
  | scheduleRepaint => exact keeps.scheduleRepaint h
  | addRepaint g => exact keeps.addRepaint g h
  | addRepaintFull => exact keeps.addRepaintFull h
  | discardPlaceholder id => exact keeps.discardPlaceholder id h
  | setGeometry id geometry => exact keeps.setGeometry id geometry h
  | setStackingOrder order => exact keeps.checkBypass _ (keeps.restack order h)
  | raiseWindow id =>
    dsimp only [Compositor.step, raiseWindow]
    split
    · exact keeps.checkBypass _ (keeps.restack [id] h)
    · exact h
  | setWindowOpacity id o => exact keeps.setWindowOpacity id o h
  | setShaped id shaped =>
    exact keeps.changeShape id
      (fun w => ⟨⟨rfl, rfl, rfl, rfl, rfl, rfl, fun most => most⟩, rfl, rfl⟩)
      (fun w => ⟨rfl, rfl⟩) h
  | suspendBypass id suspended =>
    exact keeps.changeShape id
      (fun w => ⟨⟨rfl, rfl, rfl, rfl, rfl, rfl, fun most => most⟩, rfl, rfl⟩)
      (fun w => ⟨rfl, rfl⟩) h
  | addWindowRepaint id g =>
    exact keeps.changePaint id (Toplevel.addRepaint_same g) (Toplevel.addRepaint_sameDamage g) h
  | addWindowRepaintFull id =>
    exact keeps.changePaint id Toplevel.addRepaintFull_same Toplevel.addRepaintFull_sameDamage h
  | addWindowLayerRepaint id g =>
    exact keeps.changePaint id (Toplevel.addLayerRepaint_same g)
      (Toplevel.addLayerRepaint_sameDamage g) h
  | handleDisplayEvent e => exact keeps.handleDisplayEvent e h
  | dispatchDisplayEvents => exact keeps.dispatch h
  | handleTimer id => exact keeps.handleTimer id h
  | fireTimer target => exact keeps.fireTimer target h
  | checkBypass force => exact keeps.checkBypass force h
  | setBypassFullscreen on =>
    dsimp only [Compositor.step, setBypassFullscreen]
    split
    · exact h
    · exact keeps.checkBypass _ (keeps.still h ⟨rfl, rfl, rfl, rfl, rfl, rfl⟩ id)
  | setOverlayVisible visible => exact keeps.setOverlayVisible visible h
  | scheduleRestart | removeSupportProperty =>
    refine keeps.still h ⟨rfl, rfl, rfl, rfl, rfl, rfl⟩ ?_
    intro armed
    exact Timers.isArmed_start.mpr (Or.inr armed)
  | keepSupportProperty | takeEvents | advanceClock =>
    exact keeps.still h ⟨rfl, rfl, rfl, rfl, rfl, rfl⟩ id
  | handleRequest r => exact keeps.handleRequest r h

end Compositor

end Compositing
