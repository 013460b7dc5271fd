import Compositing.Proofs.Clock

/-!
# Steps that have no part in switches and sweeps

Windows are switched in passes only, and support properties are the business of four things: of
those who let go of one or claim it again, of the sweep, and of shutting down. All other steps
leave the date of the last switch as it is, and the support properties and their timer alone; and
none of them arms the timer by which a pass tries again. So they keep every property that does not
concern these things.
-/

namespace Compositing

def TimerId.unswept : List TimerId := [.repaint, .bypassCheck, .bypassRetry, .restart, .deferred]

theorem TimerId.mem_unswept {id : TimerId} : id ∈ TimerId.unswept ↔ id ≠ .supportSweep := by
  cases id <;> simp [unswept]

def Step.Tends {ω : Type} : Step ω → Prop
  | .shutdown | .keepSupportProperty _ | .removeSupportProperty _ => True
  | _ => False

namespace Compositor

open Timers (Touches)

variable {ω δ σ : Type}

/-- The support properties are left alone, and so is the timer of their sweep. -/
structure Unswept (c c' : Compositor δ σ) : Prop where
  support : c'.support = c.support
  timers : Touches TimerId.unswept c.timers c'.timers

/-- Neither are the support properties concerned, nor is a window switched. -/
structure Aloof (c c' : Compositor δ σ) : Prop extends Unswept c c' where
  switched : c'.bypass.lastToggle? = c.bypass.lastToggle?

variable {b c c' c'' : Compositor δ σ}

theorem Unswept.trans (first : Unswept c c') (second : Unswept c' c'') : Unswept c c'' where
  support := second.support.trans first.support
  timers := first.timers.trans second.timers

theorem Unswept.of_touches {touched : List TimerId} (timers : Touches touched c.timers c'.timers)
    (free : .supportSweep ∉ touched) (support : c'.support = c.support) : Unswept c c' where
  support := support
  timers := timers.mono fun _ listed => TimerId.mem_unswept.mpr fun here => free (here ▸ listed)

theorem Aloof.trans (first : Aloof c c') (second : Aloof c' c'') : Aloof c c'' where
  toUnswept := first.toUnswept.trans second.toUnswept
  switched := second.switched.trans first.switched

theorem Aloof.of_touches {touched : List TimerId} (timers : Touches touched c.timers c'.timers)
    (free : .supportSweep ∉ touched) (support : c'.support = c.support)
    (switched : c'.bypass.lastToggle? = c.bypass.lastToggle?) : Aloof c c' :=
  ⟨Unswept.of_touches timers free support, switched⟩

theorem Aloof.refl (c : Compositor δ σ) : Aloof c c :=
  of_touches (Touches.refl [] c.timers) (by simp) rfl rfl

/-- A timer is handled that is not the one of the sweep. -/
theorem GoesOff.aloof {id : TimerId} (popped : GoesOff id c c') (other : id ≠ .supportSweep) :
    Aloof c c' := by
  rcases popped with rfl | ⟨target, t, popped, rfl⟩
  · exact Aloof.refl c'
  · exact Aloof.of_touches (Timers.touches_popDue popped) (by simpa using Ne.symm other) rfl rfl

variable [DisplayServer δ] [Renderer σ]

/-- The property does not concern the support properties, the date of the last switch and the
timers of sweeps and retries, or at least it puts up with what stopping does to them. -/
structure KeptAside (P : Compositor δ σ → Prop) : Prop where
  aside : ∀ {touched : List TimerId} {c c' : Compositor δ σ}, P c →
    Touches touched c.timers c'.timers → .supportSweep ∉ touched → .bypassRetry ∉ touched →
    c'.support = c.support → c'.bypass.lastToggle? = c.bypass.lastToggle? → P c'
  finish : ∀ {c : Compositor δ σ}, P c → P c.finish

namespace KeptAside

variable {P : Compositor δ σ → Prop} (keeps : KeptAside P)
include keeps

/-- What else changes does not matter. -/
theorem also (h : P c) (timers : c'.timers = c.timers) (support : c'.support = c.support)
    (switched : c'.bypass.lastToggle? = c.bypass.lastToggle?) : P c' := by
  have still : Touches [] c.timers c'.timers := by
    rw [timers]
    exact Touches.refl [] c.timers
  exact keeps.aside h still List.not_mem_nil List.not_mem_nil support switched

/-! Frames, passes that are asked for, and work that is put off. -/

theorem scheduleRepaint (h : P c) : P c.scheduleRepaint := by
  rw [Compositor.scheduleRepaint]
  split
  · exact keeps.aside h (Timers.touches_schedule c.frame c.timers) (by simp) (by simp) rfl rfl
  · exact h

theorem addRepaint (g : Region) (h : P c) : P (c.addRepaint g) := by
  rw [Compositor.addRepaint]
  split
  · exact keeps.scheduleRepaint (keeps.also h rfl rfl rfl)
  · exact h

theorem addRepaintFull (h : P c) : P c.addRepaintFull := by
  rw [Compositor.addRepaintFull]
  split
  · exact keeps.scheduleRepaint (keeps.also h rfl rfl rfl)
  · exact h

theorem checkBypass (force : Bool) (h : P c) : P (c.checkBypass force) := by
  rcases c.checkBypass_cases force with ⟨_, e⟩ | ⟨_, t, touches, _, e⟩
  · rw [e]
    exact h
  · rw [e]
    refine keeps.aside h touches (by simp) (by simp) rfl ?_
    cases force with
    | false => rfl
    | true => rfl

theorem performCompositing (h : P c) : P c.performCompositing := by
  have fetched : P { c.fetchDamage with timers := c.fetchDamage.timers.stop .repaint } :=
    keeps.aside h (Timers.touches_stop .repaint c.timers) (by simp) (by simp) rfl rfl
  rw [Compositor.performCompositing]
  split
  · dsimp only
    split
    · exact keeps.also fetched rfl rfl rfl
    · exact keeps.scheduleRepaint (keeps.also fetched rfl rfl rfl)
  · exact h

theorem defer (a : DeferredAction) (h : P c) : P (c.defer a) :=
  keeps.aside h (defer_touches (Touches.refl [.deferred] _) a (by simp)) (by simp) (by simp)
    rfl rfl

theorem blockFor (id : WindowId) (h : P c) : P (c.blockFor id) := by
  rw [Compositor.blockFor]
  cases c.windows.get? id with
  | none => exact h
  | some w =>
    dsimp only
    split
    · exact keeps.defer _ h
    · exact h

theorem unblock (h : P c) : P c.unblock := by
  rw [Compositor.unblock]
  split
  · exact keeps.defer _ h
  · exact h

/-! Starting and stopping. -/

theorem enable (h : P c) : P (c.enable id) := by
  have tracked : P (c.scheduleRepaint.addRepaintFull.visitWindows trackStep
      c.scheduleRepaint.addRepaintFull.windows.ids) :=
    keeps.also (keeps.addRepaintFull (keeps.scheduleRepaint h)) rfl rfl rfl
  exact keeps.also (keeps.checkBypass true tracked) rfl rfl rfl

theorem setup (h : P c) : P c.setup := by
  obtain ⟨d, r, scene, selection, s, shape, _⟩ :=
    ({ c with phase := .starting } : Compositor δ σ).acquire_shape
  have acquired : P ({ c with phase := .starting } : Compositor δ σ).acquire.2 := by
    rw [shape]
    exact keeps.also h rfl rfl rfl
  rcases c.setup_cases with ⟨_, e⟩ | ⟨_, e⟩ | ⟨_, e⟩ | ⟨_, _, _, e⟩
  · rw [e]
    exact h
  · rw [e]
    exact keeps.also h rfl rfl rfl
  · obtain ⟨_, _, _, undone, _⟩ := c.setup_undone
    rw [e, undone]
    exact keeps.also h rfl rfl rfl
  · rcases ({ c with phase := .starting } : Compositor δ σ).acquire.2.activate_cases id with
      ⟨fault, e'⟩ | ⟨frame, e'⟩
    · rw [e, e']
      exact keeps.also acquired rfl rfl rfl
    · rw [e, e']
      exact keeps.performCompositing (keeps.enable (keeps.also acquired rfl rfl rfl))

/-- Other reasons to be suspended and other options do not date a switch. -/
theorem retune (s : Suspension) (o : CompositingOptions) {b : BypassState}
    (noted : b = c.bypass ∨ b = c.bypass.noteOptionChanged) (h : P c) : P (c.retune s o b) := by
  rcases noted with rfl | rfl
  · exact keeps.also h rfl rfl rfl
  · exact keeps.also h rfl rfl rfl

theorem shift (shift : Shift c c') (h : P c) : P c' := by
  cases shift with
  | start s o b _ noted => exact keeps.setup (keeps.retune s o noted h)
  | stop s o b noted => exact keeps.finish (keeps.retune s o noted h)
  | free _ _ => exact keeps.also h rfl rfl rfl

theorem shifts (shifts : Shifts c c') (h : P c) : P c' := shifts.preserve keeps.shift h

theorem shifts_noticed (shifts : Shifts c b)
    (noticed : c' = b ∨ ∃ message, c' = b.emit (.suspendedNotice message)) (h : P c) : P c' := by
  rcases noticed with rfl | ⟨message, rfl⟩
  · exact keeps.shifts shifts h
  · exact keeps.also (keeps.shifts shifts h) rfl rfl rfl

theorem reconfigure (o : CompositingOptions) (h : P c) : P (c.reconfigure o) := by
  have plain := keeps.retune c.suspended o (Or.inl rfl) h
  have noted := keeps.retune c.suspended o (Or.inr rfl) h
  rw [Compositor.reconfigure]
  dsimp only
  generalize (o.bypassFullscreen != c.options.bypassFullscreen) = switched
  split
  · split
    · exact keeps.checkBypass true (keeps.addRepaintFull (keeps.setup noted))
    · exact keeps.addRepaintFull (keeps.setup plain)
  · cases switched with
    | false => exact keeps.finish plain
    | true => exact keeps.finish noted

theorem restart (h : P c) : P c.restart := by
  rw [Compositor.restart]
  split
  · have starting : P { c.finish with phase := .starting } :=
      keeps.also (keeps.finish h) rfl rfl rfl
    exact keeps.defer _ starting
  · exact h

theorem runDeferred (h : P c) : P c.runDeferred := by
  have emptied : P { c with deferred := [] } := keeps.also h rfl rfl rfl
  exact keeps.shifts (runDeferred_shifts c) emptied

/-! Windows, the overlay and events. -/

theorem changeWindow (id : WindowId) (f : Toplevel → Toplevel)
    {next : Compositor δ σ → Compositor δ σ} (after : ∀ {c}, P c → P (next c)) (h : P c) :
    P (c.changeWindow id f next) := by
  rw [Compositor.changeWindow]
  split
  · exact after (keeps.also h rfl rfl rfl)
  · exact h

theorem addWindow (w : Toplevel) (h : P c) : P (c.addWindow w) := by
  rcases c.addWindow_cases w with ⟨_, e⟩ | ⟨_, e⟩
  · rw [e]
    exact h
  · have entered : P (c.entered w) := keeps.also h rfl rfl rfl
    have scheduled := keeps.scheduleRepaint (keeps.checkBypass true entered)
    rw [e]
    split
    · exact keeps.blockFor _ scheduled
    · exact scheduled

theorem removeWindow (id : WindowId) (keepPlaceholder : Bool) (h : P c) :
    P (c.removeWindow id keepPlaceholder).2 := by
  rcases c.removeWindow_cases id keepPlaceholder with ⟨_, e⟩ | ⟨w, _, _, e⟩
  · rw [e]
    exact h
  · have left : P (c.left w keepPlaceholder) := keeps.also h rfl rfl rfl
    have checked := keeps.checkBypass true (keeps.addRepaint (Region.ofRect w.geometry) left)
    rw [e]
    split
    · exact keeps.unblock checked
    · exact checked

theorem setClientState (id : WindowId) (state : ClientState) (h : P c) :
    P (c.setClientState id state).2 := by
  rcases c.setClientState_cases id state with e | ⟨_, _, _, _, e⟩
  · rw [e]
    exact h
  · have restated : P (c.restated id state) := keeps.also h rfl rfl rfl
    have checked := keeps.checkBypass false restated
    rw [e]
    split
    · exact keeps.blockFor id checked
    · split
      · exact keeps.unblock checked
      · exact checked

theorem setGeometry (id : WindowId) (geometry : Rect) (h : P c) :
    P (c.setGeometry id geometry) := by
  rcases c.setGeometry_cases id geometry with e | ⟨_, w, r, _, _, _, e⟩
  · rw [e]
    exact h
  · have replaced : P { c with windows := c.windows.modify id fun _ => w, renderer := r } :=
      keeps.also h rfl rfl rfl
    rw [e]
    exact keeps.checkBypass true (keeps.addRepaint _ replaced)

theorem discardPlaceholder (id : WindowId) (h : P c) : P (c.discardPlaceholder id).2 := by
  rcases c.discardPlaceholder_cases id with e | ⟨w, r, _, _, _, e⟩
  · rw [e]
    exact h
  · have removed : P { c with windows := c.windows.remove id, renderer := r } :=
      keeps.also h rfl rfl rfl
    rw [e]
    exact keeps.addRepaint _ removed

theorem restack (order : List WindowId) (h : P c) :
    P (({ c with windows := c.windows.restack order } :
      Compositor δ σ).addRepaintFull.checkBypass true) := by
  have restacked : P { c with windows := c.windows.restack order } := keeps.also h rfl rfl rfl
  exact keeps.checkBypass true (keeps.addRepaintFull restacked)

theorem setOverlayVisible (visible : Bool) (h : P c) : P (c.setOverlayVisible visible) := by
  rcases c.setOverlayVisible_cases visible with ⟨_, e⟩ | ⟨_, _, e⟩ | ⟨_, _, e⟩
  · rw [e]
    exact h
  · rw [e]
    exact keeps.addRepaintFull (keeps.also h rfl rfl rfl)
  · rw [e]
    exact keeps.also h rfl rfl rfl

theorem handleDisplayEvent (e : DisplayEvent) (h : P c) : P (c.handleDisplayEvent e) := by
  cases e with
  | damaged id =>
    rcases c.damaged_cases id with ⟨_, e⟩ | ⟨w, _, _, e⟩
    · rw [e]
      exact h
    · rw [e]
      exact keeps.scheduleRepaint (keeps.also h rfl rfl rfl)
  | selectionCleared =>
    rcases c.selectionCleared_cases with e | e
    · rw [e]
      exact h
    · rw [e]
      exact keeps.finish (keeps.also h rfl rfl rfl)

theorem dispatchDisplayEvents (h : P c) : P c.dispatchDisplayEvents.2 :=
  dispatch_induction (Q := fun _ c => P c) (keeps.also h rfl rfl rfl)
    fun e _ _ h => keeps.handleDisplayEvent e h

/-- A timer that is neither the one of a pass nor that of the sweep. -/
theorem handleTimer {id : TimerId} (pass : id ≠ .bypassCheck) (sweep : id ≠ .supportSweep)
    (h : P c) : P (c.handleTimer id) := by
  cases id with
  | repaint => exact keeps.performCompositing h
  | bypassCheck => exact (pass rfl).elim
  | bypassRetry => exact keeps.checkBypass false h
  | supportSweep => exact (sweep rfl).elim
  | restart => exact keeps.restart h
  | deferred => exact keeps.runDeferred h

end KeptAside

def delivered (c : Compositor δ σ) : Step ω → Option (TimerId × Compositor δ σ)
  | .handleTimer id => some (id, c)
  | .fireTimer target =>
    (c.timers.popDue target).map fun (id, timers) => (id, { c with timers := timers })
  | _ => none

theorem step_of_delivered (W : World ω δ σ) {k : Step ω} {id : TimerId}
    (due : c.delivered k = some (id, b)) : GoesOff id c b ∧ c.step W k = b.handleTimer id := by
  cases k with
  | handleTimer id =>
    obtain ⟨rfl, rfl⟩ := Prod.mk.inj (Option.some.inj due)
    exact ⟨Or.inl rfl, rfl⟩
  | fireTimer target =>
    obtain ⟨⟨id, t⟩, popped, same⟩ := Option.map_eq_some_iff.mp due
    obtain ⟨rfl, rfl⟩ := Prod.mk.inj same
    exact ⟨Or.inr ⟨target, t, popped, rfl⟩, by rw [step, fireTimer, popped]⟩
  | _ => simp [delivered] at due

/-- A step that handles no timer keeps such a property, unless it is about the support
properties. -/
theorem KeptAside.step {P : Compositor δ σ → Prop} (keeps : KeptAside P) (W : World ω δ σ)
    {k : Step ω} (untimed : c.delivered k = none) (other : ¬ k.Tends) (h : P c) :
    P (c.step W k) := by
  cases k with
  | shutdown | keepSupportProperty | removeSupportProperty => exact (other trivial).elim
  | handleTimer id => simp [delivered] at untimed
  | fireTimer target =>
    have none_due : c.timers.popDue target = none := Option.map_eq_none_iff.mp untimed
    rw [Compositor.step, fireTimer, none_due]
    exact h
  | setup => exact keeps.setup h
  | finish => exact keeps.finish h
  | suspend reason => exact keeps.shifts (suspend_shifts c reason) h
  | resume reason => exact keeps.shifts (resume_shifts c reason) h
  | toggle => exact keeps.shifts (toggle_shifts c) h
  | toggleRemote =>
    obtain ⟨b, shifts, noticed⟩ := toggleRemote_shifts c
    exact keeps.shifts_noticed shifts noticed h
  | setCompositing active => exact keeps.shifts (setCompositing_shifts c active) h
  | reconfigure o => exact keeps.reconfigure o h
  | startOver o => exact keeps.shifts (startOver_shifts c o) h
  | restart => exact keeps.restart h
  | scheduleRestart after =>
    exact keeps.aside h (Timers.touches_start .restart after c.timers) (by simp) (by simp) rfl rfl
  | blockFor id => exact keeps.blockFor id h
  | unblock => exact keeps.unblock h
  | performCompositing => exact keeps.performCompositing h
  | scheduleRepaint => exact keeps.scheduleRepaint h
  | addRepaint g => exact keeps.addRepaint g h
  | addRepaintFull => exact keeps.addRepaintFull h
  | addWindow w => exact keeps.addWindow w h
  | removeWindow id keepPlaceholder => exact keeps.removeWindow id keepPlaceholder h
  | discardPlaceholder id => exact keeps.discardPlaceholder id h
  | setGeometry id geometry => exact keeps.setGeometry id geometry h
  | setStackingOrder order => exact keeps.restack order h
  | raiseWindow id =>
    dsimp only [Compositor.step, raiseWindow]
    split
    · exact keeps.restack [id] h
    · exact h
  | setWindowOpacity id o =>
    exact keeps.changeWindow id _ (fun h => keeps.checkBypass false (keeps.scheduleRepaint h)) h
  | setClientState id state => exact keeps.setClientState id state h
  | setShaped id shaped => exact keeps.changeWindow id _ (keeps.checkBypass false) h
  | suspendBypass id suspended => exact keeps.changeWindow id _ (keeps.checkBypass false) h
  | addWindowRepaint id g => exact keeps.changeWindow id _ keeps.scheduleRepaint h
  | addWindowRepaintFull id => exact keeps.changeWindow id _ keeps.scheduleRepaint h
  | addWindowLayerRepaint id g => exact keeps.changeWindow id _ keeps.scheduleRepaint h
  | handleDisplayEvent e => exact keeps.handleDisplayEvent e h
  | dispatchDisplayEvents => exact keeps.dispatchDisplayEvents h
  | advanceClock target =>
    have later : Touches [] c.timers (c.timers.advanceTo target) :=
      ⟨Nat.le_max_left _ _, fun _ _ _ => Iff.rfl⟩
    exact keeps.aside h later (by simp) (by simp) rfl rfl
  | checkBypass force => exact keeps.checkBypass force h
  | setBypassFullscreen on =>
    dsimp only [Compositor.step, setBypassFullscreen]
    split
    · exact h
    · have noted : P { c with
          options := { c.options with bypassFullscreen := on }
          bypass := c.bypass.noteOptionChanged } := keeps.also h rfl rfl rfl
      exact keeps.checkBypass true noted
  | setOverlayVisible visible => exact keeps.setOverlayVisible visible h
  | handleRequest r =>
    obtain ⟨b, shifts, noticed⟩ := handleRequest_shifts c r
    exact keeps.shifts_noticed shifts noticed h
  | takeEvents | outside => exact keeps.also h rfl rfl rfl

/-- The property does not concern the support properties either, and a timer that goes off does
not matter to it. -/
structure KeptElsewhere (P : Compositor δ σ → Prop) : Prop where
  aside : ∀ {touched : List TimerId} {c c' : Compositor δ σ}, P c →
    Touches touched c.timers c'.timers → .bypassRetry ∉ touched →
    c'.bypass.lastToggle? = c.bypass.lastToggle? → P c'
  goesOff : ∀ {id : TimerId} {c c' : Compositor δ σ}, GoesOff id c c' → P c → P c'
  finish : ∀ {c : Compositor δ σ}, P c → P c.finish

namespace KeptElsewhere

variable {P : Compositor δ σ → Prop} (keeps : KeptElsewhere P)
include keeps

theorem keptAside : KeptAside P where
  aside := fun h touches _ free _ switched => keeps.aside h touches free switched
  finish := keeps.finish

theorem sweepSupport (busy : Bool) (h : P c) : P (c.sweepSupport busy) := by
  cases busy with
  | true =>
    have restarted := Timers.touches_start .supportSweep supportSweepDelay c.timers
    exact keeps.aside h restarted (by simp) rfl
  | false => exact keeps.aside h (Touches.refl [] c.timers) (by simp) rfl

theorem shutdown (h : P c) : P c.shutdown := by
  have disarmed : P { c.finish with timers := c.finish.timers.stop .supportSweep } :=
    keeps.aside (keeps.finish h) (Timers.touches_stop .supportSweep _) (by simp) rfl
  exact keeps.sweepSupport false disarmed

/-- Every step that is no pass keeps such a property. -/
theorem step (W : World ω δ σ) {k : Step ω}
    (other : ∀ b, c.delivered k ≠ some (.bypassCheck, b)) (h : P c) : P (c.step W k) := by
  cases due : c.delivered k with
  | none =>
    by_cases tends : k.Tends
    · cases k with
      | shutdown => exact keeps.shutdown h
      | keepSupportProperty a => exact keeps.aside h (Touches.refl [] c.timers) (by simp) rfl
      | removeSupportProperty a =>
        have started := Timers.touches_start .supportSweep supportSweepDelay c.timers
        exact keeps.aside h started (by simp) rfl
      | _ => exact tends.elim
    · exact keeps.keptAside.step W due tends h
  | some delivered =>
    obtain ⟨id, b⟩ := delivered
    obtain ⟨popped, e⟩ := step_of_delivered W due
    have gone := keeps.goesOff popped h
    rw [e]
    by_cases sweep : id = .supportSweep
    · subst sweep
      exact keeps.sweepSupport b.isBusy gone
    · have pass : id ≠ .bypassCheck := by
        rintro rfl
        exact other b due
      exact keeps.keptAside.handleTimer pass sweep gone

end KeptElsewhere

/-! What is aloof. -/

theorem finish_aloof (c : Compositor δ σ) : Aloof c c.finish := by
  refine Aloof.of_touches (finish_touches c) (by simp [TimerId.ofScene]) ?_ (finish_lastToggle c)
  by_cases scene : c.hasScene = true
  · obtain ⟨d, r, s, e, _⟩ := c.finish_scene scene
    rw [e]
  · rw [c.finish_of_off (by simpa using scene)]

theorem aloof_kept (b : Compositor δ σ) : KeptAside (Aloof b) where
  aside := fun h touches free _ support switched =>
    h.trans (Aloof.of_touches touches free support switched)
  finish := fun {c} h => h.trans (finish_aloof c)

/-- A pass leaves the support properties alone. -/
theorem bypassPass_unswept (c : Compositor δ σ) : Unswept c c.bypassPass := by
  have switched : Unswept c c.switchWindows.2 :=
    Unswept.of_touches c.switchWindows_touches (by simp) rfl
  rw [bypassPass_eq]
  split
  · split
    · have shaped : Aloof c.switchWindows.2 { c.switchWindows.2 with
          renderer := Renderer.setOverlayShape c.switchWindows.2.overlayShape
            c.switchWindows.2.renderer } := (aloof_kept _).also (Aloof.refl _) rfl rfl rfl
      exact switched.trans ((aloof_kept _).addRepaintFull shaped).toUnswept
    · exact switched
  · exact (Aloof.refl c).toUnswept

theorem handleTimer_aloof (c : Compositor δ σ) {id : TimerId} (pass : id ≠ .bypassCheck)
    (sweep : id ≠ .supportSweep) : Aloof c (c.handleTimer id) :=
  (aloof_kept c).handleTimer pass sweep (Aloof.refl c)

theorem step_aloof (W : World ω δ σ) {k : Step ω} (untimed : c.delivered k = none)
    (other : ¬ k.Tends) : Aloof c (c.step W k) :=
  (aloof_kept c).step W untimed other (Aloof.refl c)

end Compositor

end Compositing
