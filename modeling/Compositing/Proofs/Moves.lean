import Compositing.Proofs.Asides
import Mathlib.Logic.Relation

/-!
# Moves

Every call, every event and every timer comes to a few moves, one after the other: asides,
starting and stopping, a pass, the turn on which deferred work is done, and the changes of
windows and options on which a pass has to follow. Whoever claims something of all runs has to
look at the moves only.
-/

namespace Compositing

/-- What some moves need an occasion for: a window comes or goes, or the display has news. -/
inductive Occasion where
  | arrival (w : Toplevel)
  | departure
  | news

/-- Every occasion, with windows that come as `ok` says. -/
def Occasion.Brings (ok : Toplevel → Prop) : Occasion → Prop
  | arrival w => ok w
  | departure | news => True

/-- The steps that the compositor takes itself, on the occasions that `ok` allows. -/
def Step.Own {ω : Type} (ok : Occasion → Prop) : Step ω → Prop
  | .addWindow w => ok (.arrival w)
  | .removeWindow _ _ => ok .departure
  | .handleDisplayEvent .selectionCleared | .dispatchDisplayEvents => ok .news
  | .takeEvents | .outside _ => False
  | _ => True

def Step.IsAside {ω : Type} : Step ω → Prop
  | .scheduleRestart _ | .blockFor _ | .unblock | .performCompositing | .scheduleRepaint
  | .addRepaint _ | .addRepaintFull | .discardPlaceholder _ | .setStackingOrder _
  | .raiseWindow _ | .setWindowOpacity _ _ | .setClientState _ _ | .setShaped _ _
  | .suspendBypass _ _ | .addWindowRepaint _ _ | .addWindowRepaintFull _
  | .addWindowLayerRepaint _ _ | .advanceClock _ | .checkBypass _ | .setOverlayVisible _
  | .keepSupportProperty _ | .removeSupportProperty _ => True
  | _ => False

namespace Compositor

open Relation (ReflTransGen)

variable {ω δ σ : Type}

/-- A timer is handled, whether it was not armed or has just gone off. -/
def GoesOff (id : TimerId) (c c' : Compositor δ σ) : Prop :=
  c' = c ∨ ∃ target t, c.timers.popDue target = some (id, t) ∧ c' = { c with timers := t }

def retune (s : Suspension) (o : CompositingOptions) (b : BypassState) (c : Compositor δ σ) :
    Compositor δ σ :=
  { c with suspended := s, options := o, bypass := b }

variable [DisplayServer δ] [Renderer σ]

/-- Compositing starts or stops, maybe with other reasons to be suspended and other options. -/
inductive Shift : Compositor δ σ → Compositor δ σ → Prop
  | start {c} (s : Suspension) (o : CompositingOptions) (b : BypassState) :
    c.hasScene = false → b = c.bypass ∨ b = c.bypass.noteOptionChanged →
      Shift c (c.retune s o b).setup
  | stop {c} (s : Suspension) (o : CompositingOptions) (b : BypassState) :
    b = c.bypass ∨ b = c.bypass.noteOptionChanged → Shift c (c.retune s o b).finish
  /-- Reasons are dropped while compositing goes on. -/
  | free {c} (reason : Suspension) : c.hasScene = true →
      Shift c { c with suspended := c.suspended.without reason }

/-- What becomes of a compositor in one move, on the occasions that `ok` allows. -/
inductive Move (ok : Occasion → Prop) : Compositor δ σ → Compositor δ σ → Prop
  | aside {c c'} : Aside c c' → Move ok c c'
  | shift {c c'} : Shift c c' → Move ok c c'
  /-- The selection was taken away. -/
  | lose {c} : ok .news → c.selection?.isSome = true →
      Move ok c (finish { c with selection? := none })
  | restart {c} : c.hasScene = true → Move ok c c.restart
  /-- The option to bypass compositing is switched. -/
  | switch {c c'} {o : CompositingOptions} :
    o.bypassFullscreen ≠ c.options.bypassFullscreen →
      Aside (c.retune c.suspended o c.bypass.noteOptionChanged) c' → Move ok c (c'.checkBypass true)
  | pass {c c'} : GoesOff .bypassCheck c c' → Move ok c c'.bypassPass
  | turn {c c'} : GoesOff .deferred c c' → Move ok c c'.runDeferred
  | enter {c w} : ok (.arrival w) → c.windows.contains w.id = false →
      Move ok c ((c.entered w).checkBypass true).scheduleRepaint
  | leave {c w} (keepPlaceholder : Bool) : ok .departure → c.windows.get? w.id = some w →
      w.isPlaceholder = false → Move ok c
        (((c.left w keepPlaceholder).addRepaint (Region.ofRect w.geometry)).checkBypass true)
  | reshape {c} (id : WindowId) (geometry : Rect) : Move ok c (c.setGeometry id geometry)
  /-- The events of the display are taken. -/
  | hear {c} : ok .news → Move ok c { c with display := (DisplayServer.takeEvents c.display).2 }

abbrev Moves (ok : Occasion → Prop) : Compositor δ σ → Compositor δ σ → Prop :=
  ReflTransGen (Move ok)

variable {ok : Occasion → Prop} {c c' : Compositor δ σ}

theorem Move.moves (h : Move ok c c') : Moves ok c c' := ReflTransGen.single h

theorem Aside.moves (h : Aside c c') : Moves ok c c' := (Move.aside h).moves

abbrev Shifts : Compositor δ σ → Compositor δ σ → Prop := ReflTransGen Shift

theorem Shift.shifts (h : Shift c c') : Shifts c c' := ReflTransGen.single h

theorem Shifts.moves (h : Shifts c c') : Moves ok c c' := by
  induction h with
  | refl => exact ReflTransGen.refl
  | tail _ shift ih => exact ih.tail (Move.shift shift)

/-! Starting and stopping for whatever reason. -/

theorem setup_of_scene (scene : c.hasScene = true) : c.setup = c := by
  rw [setup, setupBy, if_pos scene]

theorem setup_shifts (c : Compositor δ σ) : Shifts c c.setup := by
  cases scene : c.hasScene with
  | true => rw [setup_of_scene scene]
  | false => exact (Shift.start c.suspended c.options c.bypass scene (Or.inl rfl)).shifts

theorem finish_shifts (c : Compositor δ σ) : Shifts c c.finish :=
  (Shift.stop c.suspended c.options c.bypass (Or.inl rfl)).shifts

theorem suspend_shifts (c : Compositor δ σ) (reason : Suspension) : Shifts c (c.suspend reason) :=
  (Shift.stop (c.suspended.union reason) c.options c.bypass (Or.inl rfl)).shifts

theorem resume_shifts (c : Compositor δ σ) (reason : Suspension) : Shifts c (c.resume reason) := by
  cases scene : c.hasScene with
  | true =>
    rw [resume, setup_of_scene (by exact scene)]
    exact (Shift.free reason scene).shifts
  | false =>
    exact (Shift.start (c.suspended.without reason) c.options c.bypass scene (Or.inl rfl)).shifts

theorem toggle_shifts (c : Compositor δ σ) : Shifts c c.toggle := by
  rw [toggle]
  split
  · exact suspend_shifts c _
  · exact resume_shifts c _

/-- A toggle from outside may be followed by a notice. -/
theorem toggleRemote_shifts (c : Compositor δ σ) :
    ∃ b, Shifts c b ∧
      (c.toggleRemote = b ∨ ∃ message, c.toggleRemote = b.emit (.suspendedNotice message)) := by
  refine ⟨c.toggle, toggle_shifts c, ?_⟩
  unfold toggleRemote
  dsimp only
  split
  · exact Or.inl rfl
  · split
    · exact Or.inl rfl
    · exact Or.inr ⟨_, rfl⟩

theorem setCompositing_shifts (c : Compositor δ σ) (active : Bool) :
    Shifts c (c.setCompositing active) := by
  rw [setCompositing]
  split
  · exact resume_shifts c _
  · exact suspend_shifts c _

theorem startOver_shifts (c : Compositor δ σ) (o : CompositingOptions) :
    Shifts c (c.startOver o) := by
  have off : c.finish.hasScene = false := by simp
  have again : Shifts c.finish (c.finish.retune o.initialSuspension o c.finish.bypass).setup :=
    (Shift.start o.initialSuspension o c.finish.bypass off (Or.inl rfl)).shifts
  exact (finish_shifts c).trans again

/-- A request comes to starts and stops, and maybe a notice. -/
theorem handleRequest_shifts (c : Compositor δ σ) (r : ControlRequest) :
    ∃ b, Shifts c b ∧ ((c.handleRequest r).2 = b ∨
      ∃ message, (c.handleRequest r).2 = b.emit (.suspendedNotice message)) := by
  cases r with
  | toggleCompositing => exact toggleRemote_shifts c
  | setCompositing active => exact ⟨_, setCompositing_shifts c active, Or.inl rfl⟩
  | suspend reason => exact ⟨_, suspend_shifts c reason, Or.inl rfl⟩
  | resume reason => exact ⟨_, resume_shifts c reason, Or.inl rfl⟩
  | startOver => exact ⟨_, startOver_shifts c _, Or.inl rfl⟩
  | isActive | compositingType | isCompositingPossible | notPossibleReason =>
    exact ⟨c, ReflTransGen.refl, Or.inl rfl⟩

theorem Shifts.moves_noticed {b : Compositor δ σ} (shifts : Shifts c b)
    (noticed : c' = b ∨ ∃ message, c' = b.emit (.suspendedNotice message)) : Moves ok c c' := by
  rcases noticed with rfl | ⟨message, rfl⟩
  · exact shifts.moves
  · exact shifts.moves.tail (Move.aside (Aside.notice _ _))

theorem restart_moves (c : Compositor δ σ) : Moves ok c c.restart := by
  cases scene : c.hasScene with
  | true => exact (Move.restart scene).moves
  | false =>
    rw [restart, scene]
    exact ReflTransGen.refl

theorem shutdown_moves (c : Compositor δ σ) : Moves ok c c.shutdown := by
  have swept : Aside c.finish c.shutdown :=
    (Aside.stop (by simp) (by simp)).trans (Aside.sweepSupport _ false)
  exact (finish_shifts c).moves.trans swept.moves

/-- New options without and with a scene, or while compositing is suspended. -/
theorem reconfigure_moves (c : Compositor δ σ) (o : CompositingOptions) :
    Moves ok c (c.reconfigure o) := by
  rw [reconfigure]
  dsimp only
  by_cases switched : o.bypassFullscreen = c.options.bypassFullscreen
  · have still : (o.bypassFullscreen != c.options.bypassFullscreen) = false := by simp [switched]
    have taken : Moves ok c { c with options := o, bypass := c.bypass } :=
      (Aside.options switched).moves
    simp only [still, Bool.false_eq_true, if_false]
    split
    · exact (taken.trans (setup_shifts _).moves).trans (Aside.addRepaintFull _).moves
    · exact (Shift.stop c.suspended o c.bypass (Or.inl rfl)).shifts.moves
  · have noted : (o.bypassFullscreen != c.options.bypassFullscreen) = true := by
      simpa using switched
    simp only [noted, if_true]
    split
    · by_cases scene : c.hasScene = true
      · rw [setup_of_scene (by exact scene)]
        exact (Move.switch switched (Aside.addRepaintFull _)).moves
      · have started : Shifts c (c.retune c.suspended o c.bypass.noteOptionChanged).setup :=
          (Shift.start c.suspended o _ (by simpa using scene) (Or.inr rfl)).shifts
        exact started.moves.trans ((Aside.addRepaintFull _).trans (Aside.checkBypass _ true)).moves
    · exact (Shift.stop c.suspended o c.bypass.noteOptionChanged (Or.inr rfl)).shifts.moves

/-! Deferred work, timers and events. -/

theorem runAction_shifts (c : Compositor δ σ) (a : DeferredAction) : Shifts c (c.runAction a) := by
  cases a with
  | suspend reason => exact suspend_shifts c reason
  | resume reason => exact resume_shifts c reason
  | setup => exact setup_shifts c

theorem runDeferred_shifts (c : Compositor δ σ) :
    Shifts { c with deferred := [] } c.runDeferred := by
  rw [runDeferred]
  generalize ({ c with deferred := [] } : Compositor δ σ) = c'
  induction c.deferred generalizing c' with
  | nil => exact ReflTransGen.refl
  | cons a rest ih => exact (runAction_shifts c' a).trans (ih (c'.runAction a))

theorem handleTimer_moves (c : Compositor δ σ) (id : TimerId) :
    Moves ok c (c.handleTimer id) := by
  cases id with
  | repaint => exact (Aside.performCompositing c).moves
  | bypassCheck => exact (Move.pass (Or.inl rfl)).moves
  | bypassRetry => exact (Aside.checkBypass c false).moves
  | supportSweep => exact (Aside.sweepSupport c c.isBusy).moves
  | restart => exact restart_moves c
  | deferred => exact (Move.turn (Or.inl rfl)).moves

theorem fireTimer_moves (c : Compositor δ σ) (target : Nanos) :
    Moves ok c (c.fireTimer target) := by
  rw [fireTimer]
  split
  · exact ReflTransGen.refl
  · rename_i id t popped
    by_cases turn : id = .deferred
    · subst turn
      exact (Move.turn (Or.inr ⟨target, t, popped, rfl⟩)).moves
    · by_cases pass : id = .bypassCheck
      · subst pass
        exact (Move.pass (Or.inr ⟨target, t, popped, rfl⟩)).moves
      · exact (Aside.popDue popped turn pass).moves.trans (handleTimer_moves _ id)

theorem handleDisplayEvent_moves (c : Compositor δ σ) (e : DisplayEvent)
    (heard : e = .selectionCleared → ok .news) : Moves ok c (c.handleDisplayEvent e) := by
  cases e with
  | damaged id => exact (Aside.damaged c id).moves
  | selectionCleared =>
    simp only [handleDisplayEvent]
    cases held : c.selection? with
    | none => exact ReflTransGen.refl
    | some s => exact (Move.lose (heard rfl) (by simp [held])).moves

theorem dispatchDisplayEvents_moves (c : Compositor δ σ) (heard : ok .news) :
    Moves ok c c.dispatchDisplayEvents.2 := by
  refine dispatch_induction (Q := fun _ c' => Moves ok c c') (Move.hear heard).moves ?_
  intro e _ c' h
  exact h.trans (handleDisplayEvent_moves c' e fun _ => heard)

/-! Windows. -/

theorem addWindow_moves (c : Compositor δ σ) {w : Toplevel} (allowed : ok (.arrival w)) :
    Moves ok c (c.addWindow w) := by
  rcases c.addWindow_cases w with ⟨_, e⟩ | ⟨fresh, e⟩
  · rw [e]
  · have entered : Moves ok c ((c.entered w).checkBypass true).scheduleRepaint :=
      (Move.enter allowed fresh).moves
    rw [e]
    split
    · exact entered.trans (Aside.blockFor _ _).moves
    · exact entered

theorem removeWindow_moves (c : Compositor δ σ) (id : WindowId) (keepPlaceholder : Bool)
    (allowed : ok .departure) : Moves ok c (c.removeWindow id keepPlaceholder).2 := by
  rcases c.removeWindow_cases id keepPlaceholder with ⟨_, e⟩ | ⟨w, found, real, e⟩
  · rw [e]
  · obtain rfl := (WindowStack.mem_of_get? found).2
    have left : Moves ok c (((c.left w keepPlaceholder).addRepaint
        (Region.ofRect w.geometry)).checkBypass true) :=
      (Move.leave keepPlaceholder allowed found real).moves
    rw [e]
    split
    · exact left.trans (Aside.unblock _).moves
    · exact left

theorem step_aside (W : World ω δ σ) (c : Compositor δ σ) {k : Step ω} (aside : k.IsAside) :
    Aside c (c.step W k) := by
  cases k with
  | scheduleRestart after =>
    exact Aside.start c.support after (by simp) (by simp [TimerId.ofScene])
  | blockFor id => exact Aside.blockFor c id
  | unblock => exact Aside.unblock c
  | performCompositing => exact Aside.performCompositing c
  | scheduleRepaint => exact Aside.scheduleRepaint c
  | addRepaint g => exact Aside.addRepaint c g
  | addRepaintFull => exact Aside.addRepaintFull c
  | discardPlaceholder id => exact Aside.discardPlaceholder c id
  | setStackingOrder order =>
    exact (Aside.restack c order).trans
      ((Aside.addRepaintFull _).trans (Aside.checkBypass _ true))
  | raiseWindow id =>
    dsimp only [step, raiseWindow]
    split
    · exact (Aside.restack c [id]).trans
        ((Aside.addRepaintFull _).trans (Aside.checkBypass _ true))
    · exact Aside.refl c
  | setWindowOpacity id o =>
    have same (w : Toplevel) : Toplevel.InPlace w (w.setOpacity o).addRepaintFull := by
      have same := (w.setOpacity o).addRepaintFull_refreshed.inPlace
      exact ⟨same.id, same.placeholder, same.geometry, same.damage, same.direct⟩
    exact Aside.changeWindow id same
      fun c => (Aside.scheduleRepaint c).trans (Aside.checkBypass _ false)
  | setClientState id state => exact Aside.setClientState c id state
  | setShaped id shaped =>
    have same (w : Toplevel) : Toplevel.InPlace w { w with shaped := shaped } :=
      ⟨rfl, rfl, rfl, rfl, rfl⟩
    exact Aside.changeWindow id same fun c => Aside.checkBypass c false
  | suspendBypass id suspended =>
    have same (w : Toplevel) : Toplevel.InPlace w { w with bypassSuspended := suspended } :=
      ⟨rfl, rfl, rfl, rfl, rfl⟩
    exact Aside.changeWindow id same fun c => Aside.checkBypass c false
  | addWindowRepaint id g =>
    exact Aside.changeWindow id (fun w => (w.addRepaint_refreshed g).inPlace)
      Aside.scheduleRepaint
  | addWindowRepaintFull id =>
    exact Aside.changeWindow id (fun w => w.addRepaintFull_refreshed.inPlace)
      Aside.scheduleRepaint
  | addWindowLayerRepaint id g =>
    exact Aside.changeWindow id (fun w => (w.addLayerRepaint_refreshed g).inPlace)
      Aside.scheduleRepaint
  | advanceClock target => exact Aside.advanceTo c target
  | checkBypass force => exact Aside.checkBypass c force
  | setOverlayVisible visible => exact Aside.setOverlayVisible c visible
  | keepSupportProperty a =>
    exact Aside.retimed (c.support.keep a) (Timers.Touches.refl [] c.timers) (by simp) (by simp)
      fun _ _ armed => armed
  | removeSupportProperty a =>
    exact Aside.start (c.support.remove a c.timers).1 supportSweepDelay (by simp)
      (by simp [TimerId.ofScene])
  | _ => exact aside.elim

/-- Each step comes to a few moves. -/
theorem step_moves (W : World ω δ σ) (c : Compositor δ σ) {k : Step ω} (own : k.Own ok) :
    Moves ok c (c.step W k) := by
  by_cases aside : k.IsAside
  · exact (step_aside W c aside).moves
  · cases k with
    | takeEvents | outside => exact own.elim
    | setup => exact (setup_shifts c).moves
    | finish => exact (finish_shifts c).moves
    | suspend reason => exact (suspend_shifts c reason).moves
    | resume reason => exact (resume_shifts c reason).moves
    | toggle => exact (toggle_shifts c).moves
    | toggleRemote =>
      obtain ⟨b, shifts, noticed⟩ := toggleRemote_shifts c
      exact shifts.moves_noticed noticed
    | setCompositing active => exact (setCompositing_shifts c active).moves
    | reconfigure o => exact reconfigure_moves c o
    | startOver o => exact (startOver_shifts c o).moves
    | restart => exact restart_moves c
    | shutdown => exact shutdown_moves c
    | addWindow w => exact addWindow_moves c own
    | removeWindow id keepPlaceholder => exact removeWindow_moves c id keepPlaceholder own
    | setGeometry id geometry => exact (Move.reshape id geometry).moves
    | handleDisplayEvent e =>
      exact handleDisplayEvent_moves c e fun cleared => by rwa [cleared] at own
    | dispatchDisplayEvents => exact dispatchDisplayEvents_moves c own
    | handleTimer id => exact handleTimer_moves c id
    | fireTimer target => exact fireTimer_moves c target
    | setBypassFullscreen on =>
      dsimp only [step, setBypassFullscreen]
      split
      · exact ReflTransGen.refl
      · rename_i other
        exact (Move.switch (o := { c.options with bypassFullscreen := on }) (Ne.symm other)
          (Aside.refl _)).moves
    | handleRequest r =>
      obtain ⟨b, shifts, noticed⟩ := handleRequest_shifts c r
      exact shifts.moves_noticed noticed
    | _ => exact (aside trivial).elim

/-- What every start and stop preserves, a turn of deferred work preserves. -/
theorem Shifts.preserve {P : Compositor δ σ → Prop} (keeps : ∀ {c c'}, Shift c c' → P c → P c')
    (shifts : Shifts c c') (h : P c) : P c' := by
  induction shifts with
  | refl => exact h
  | tail _ shift ih => exact keeps shift ih

/-- What every move preserves, a step that the compositor takes itself preserves. -/
theorem Moves.preserve {P : Compositor δ σ → Prop} (keeps : ∀ {c c'}, Move ok c c' → P c → P c')
    (moves : Moves ok c c') (h : P c) : P c' := by
  induction moves with
  | refl => exact h
  | tail _ move ih => exact keeps move ih

end Compositor

end Compositing
