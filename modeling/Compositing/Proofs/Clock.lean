import Compositing.Proofs.Overlay

/-!
# The clock and what it brings up

Starting, stopping and painting touch no timers but those of a scene, and only the server itself
brings up events. What is put off to the next turn is due at once, and no switch of a window is
dated ahead of the clock.
-/

namespace Compositing

namespace Timers

variable {t t' : Timers}

theorem Touches.mono {touched more : List TimerId} (h : Touches touched t t')
    (sub : ∀ id ∈ touched, id ∈ more) : Touches more t t' :=
  ⟨h.clock, fun id free => h.others id fun listed => free (sub id listed)⟩

end Timers

namespace Compositor

open WindowStack
open Timers (Touches)

variable {δ σ : Type} [DisplayServer δ] [Renderer σ] {c c' : Compositor δ σ}

/-! Timers that are touched, on the way from some moment to the end of each operation. -/

section Touched

variable {touched : List TimerId} {t : Timers}

omit [DisplayServer δ] [Renderer σ] in
theorem scheduleRepaint_touches (h : Touches touched t c.timers) (listed : .repaint ∈ touched) :
    Touches touched t c.scheduleRepaint.timers := by
  rw [scheduleRepaint]
  split
  · exact h.trans ((Timers.touches_schedule c.frame c.timers).mono (by simpa using listed))
  · exact h

omit [DisplayServer δ] [Renderer σ] in
theorem addRepaint_touches (h : Touches touched t c.timers) (g : Region)
    (listed : .repaint ∈ touched) : Touches touched t (c.addRepaint g).timers := by
  rw [addRepaint]
  split
  · exact scheduleRepaint_touches h listed
  · exact h

omit [Renderer σ] in
theorem addRepaintFull_touches (h : Touches touched t c.timers) (listed : .repaint ∈ touched) :
    Touches touched t c.addRepaintFull.timers := by
  rw [addRepaintFull]
  split
  · exact scheduleRepaint_touches h listed
  · exact h

omit [DisplayServer δ] in
theorem checkBypass_touches (force : Bool) (h : Touches touched t c.timers)
    (listed : .bypassCheck ∈ touched) : Touches touched t (c.checkBypass force).timers := by
  rcases c.checkBypass_cases force with ⟨_, e⟩ | ⟨_, t', touches, _, e⟩
  · rw [e]
    exact h
  · rw [e]
    exact h.trans (touches.mono (by simpa using listed))

theorem performCompositing_touches (h : Touches touched t c.timers)
    (listed : .repaint ∈ touched) : Touches touched t c.performCompositing.timers := by
  have stopped : Touches touched t (c.timers.stop .repaint) :=
    h.trans ((Timers.touches_stop .repaint c.timers).mono (by simpa using listed))
  rw [performCompositing]
  split
  · dsimp only
    split
    · exact stopped
    · exact scheduleRepaint_touches stopped listed
  · exact h

omit [DisplayServer δ] [Renderer σ] in
theorem defer_touches (h : Touches touched t c.timers) (a : DeferredAction)
    (listed : .deferred ∈ touched) : Touches touched t (c.defer a).timers := by
  dsimp only [defer]
  split
  · exact h
  · exact h.trans ((Timers.touches_start .deferred 0 c.timers).mono (by simpa using listed))

omit [DisplayServer δ] [Renderer σ] in
theorem blockFor_touches (h : Touches touched t c.timers) (id : WindowId)
    (listed : .deferred ∈ touched) : Touches touched t (c.blockFor id).timers := by
  rw [blockFor]
  cases c.windows.get? id with
  | none => exact h
  | some w =>
    dsimp only
    split
    · exact defer_touches h _ listed
    · exact h

omit [DisplayServer δ] [Renderer σ] in
theorem unblock_touches (h : Touches touched t c.timers) (listed : .deferred ∈ touched) :
    Touches touched t c.unblock.timers := by
  rw [unblock]
  split
  · exact defer_touches h _ listed
  · exact h

end Touched

theorem setup_touches (c : Compositor δ σ) :
    Touches [.repaint, .bypassCheck] c.timers c.setup.timers := by
  obtain ⟨d, r, scene, selection, s, shape, _⟩ :=
    ({ c with phase := .starting } : Compositor δ σ).acquire_shape
  have acquired : Touches [.repaint, .bypassCheck] c.timers
      ({ c with phase := .starting } : Compositor δ σ).acquire.2.timers := by
    rw [shape]
    exact Touches.refl _ _
  rcases c.setup_cases with ⟨_, e⟩ | ⟨_, e⟩ | ⟨_, e⟩ | ⟨_, _, _, e⟩
  · rw [e]
    exact Touches.refl _ _
  · rw [e]
    exact Touches.refl _ _
  · obtain ⟨_, _, _, undone, _⟩ := c.setup_undone
    rw [e, undone]
    exact Touches.refl _ _
  · rcases ({ c with phase := .starting } : Compositor δ σ).acquire.2.activate_cases id with
      ⟨fault, e'⟩ | ⟨frame, e'⟩
    · rw [e, e']
      exact acquired
    · rw [e, e']
      refine performCompositing_touches (checkBypass_touches true ?_ (by simp)) (by simp)
      exact addRepaintFull_touches (scheduleRepaint_touches acquired (by simp)) (by simp)

theorem finish_touches (c : Compositor δ σ) :
    Touches TimerId.ofScene c.timers c.finish.timers := by
  by_cases scene : c.hasScene = true
  · obtain ⟨d, r, s, e, _⟩ := c.finish_scene scene
    rw [e]
    have stopped (id : TimerId) (listed : id ∈ TimerId.ofScene) (t : Timers) :
        Touches TimerId.ofScene t (t.stop id) :=
      (Timers.touches_stop id t).mono (by simpa using listed)
    exact ((stopped .repaint (by simp [TimerId.ofScene]) _).trans
      (stopped .bypassCheck (by simp [TimerId.ofScene]) _)).trans
        (stopped .bypassRetry (by simp [TimerId.ofScene]) _)
  · rw [c.finish_of_off (by simpa using scene)]
    exact Touches.refl _ _

theorem Shift.touches (shift : Shift c c') : Touches TimerId.ofScene c.timers c'.timers := by
  cases shift with
  | start s o b off noted =>
    have started := setup_touches (c.retune s o b)
    exact started.mono (by simp [TimerId.ofScene])
  | stop s o b noted => exact finish_touches (c.retune s o b)
  | free reason scene => exact Touches.refl _ _

theorem runDeferred_touches (c : Compositor δ σ) :
    Touches TimerId.ofScene c.timers c.runDeferred.timers :=
  (runDeferred_shifts c).preserve (P := fun c' => Touches TimerId.ofScene c.timers c'.timers)
    (fun shift touches => touches.trans shift.touches) (Touches.refl _ _)

/-! What only the server itself changes. -/

theorem setup_steady {α : Type} {view : δ → α} (steady : DisplayServer.Steady view)
    (c : Compositor δ σ) : view c.setup.display = view c.display := by
  have acquired := ({ c with phase := .starting } : Compositor δ σ).acquire_steady steady
  rcases c.setup_cases with ⟨_, e⟩ | ⟨_, e⟩ | ⟨_, e⟩ | ⟨_, _, _, e⟩
  · rw [e]
  · rw [e]
  · obtain ⟨_, _, _, undone, _, same⟩ := c.setup_undone
    rw [e, undone]
    exact same steady
  · rcases ({ c with phase := .starting } : Compositor δ σ).acquire.2.activate_cases id with
      ⟨fault, e'⟩ | ⟨frame, e'⟩
    · rw [e, e']
      exact acquired
    · rw [e, e', (Aside.performCompositing _).served steady.toLasting, enable]
      simp only [emit_frame, checkBypass_frame, visitWindows]
      rw [visit_view (fun t : δ × σ => view t.1) (trackStep_lasting steady.toLasting)]
      simpa using acquired

theorem finish_fixed {α : Type} {view : δ → α} (fixed : DisplayServer.Fixed view)
    (c : Compositor δ σ) : view c.finish.display = view c.display := by
  by_cases scene : c.hasScene = true
  · obtain ⟨d, r, s, e, _, d₀, d₁, rfl, same⟩ := c.finish_scene scene
    obtain ⟨let_go, forwarded⟩ := same fixed.toLasting
    have unredirected : view d₁ = view c.display :=
      (forwarded fixed.setOpacity).trans ((fixed.unredirectSubwindows d₀).trans let_go)
    rw [e]
    cases c.selection? with
    | none => exact unredirected
    | some s => exact (fixed.releaseSelection s d₁).trans unredirected
  · rw [c.finish_of_off (by simpa using scene)]

theorem Shift.fixed {α : Type} {view : δ → α} (fixed : DisplayServer.Fixed view)
    (shift : Shift c c') : view c'.display = view c.display := by
  cases shift with
  | start s o b off noted => exact setup_steady fixed.toSteady _
  | stop s o b noted => exact finish_fixed fixed _
  | free reason scene => rfl

/-- A move changes nothing of this, unless it takes the events. -/
theorem Move.fixed {ok : Occasion → Prop} {α : Type} {view : δ → α}
    (fixed : DisplayServer.Fixed view) (move : Move ok c c') :
    view c'.display = view c.display ∨
      (ok .news ∧ c'.display = (DisplayServer.takeEvents c.display).2) := by
  rcases move.standing_cases fixed.toLasting fixed.toUnswitched with
    same | ⟨b, b', before, shifts, after⟩ | ⟨_, _, rfl⟩ | ⟨news, rfl⟩
  · exact Or.inl (congrArg (·.2.2) same)
  · left
    have kept : view b'.display = view b.display :=
      shifts.preserve (P := fun c => view c.display = view b.display)
        (fun shift same => (shift.fixed fixed).trans same) rfl
    rw [show c'.display = b'.display from congrArg (·.2.2) after, kept,
      show b.display = c.display from congrArg (·.2.2) before]
  · exact Or.inl (finish_fixed fixed { c with selection? := none })
  · exact Or.inr ⟨news, rfl⟩

/-! The date of the last switch. -/

theorem Aside.lastToggle (aside : Aside c c') :
    c'.bypass.lastToggle? = c.bypass.lastToggle? := by
  rcases aside.bypass with same | ⟨forced, _⟩
  · rw [same]
  · rw [forced]
    rfl

theorem setup_lastToggle (c : Compositor δ σ) :
    c.setup.bypass.lastToggle? = c.bypass.lastToggle? := by
  obtain ⟨d, r, scene, selection, s, shape, _, _, started⟩ :=
    ({ c with phase := .starting } : Compositor δ σ).acquire_shape
  rcases c.setup_cases with ⟨_, e⟩ | ⟨_, e⟩ | ⟨_, e⟩ | ⟨_, _, acquired, e⟩
  · rw [e]
  · rw [e]
  · obtain ⟨_, _, _, undone, _⟩ := c.setup_undone
    rw [e, undone]
  · rcases ({ c with phase := .starting } : Compositor δ σ).acquire.2.activate_cases id with
      ⟨fault, e'⟩ | ⟨frame, e'⟩
    · rw [e, e', shape]
    · obtain ⟨b, tracked, enabled⟩ := ({ ({ c with phase := .starting } :
        Compositor δ σ).acquire.2 with frame := frame } : Compositor δ σ).enable_aside
          (by rw [shape, started acquired])
      have asked := (Aside.checkBypass b true).lastToggle.trans tracked.lastToggle
      rw [e, e', enabled, (Aside.performCompositing _).lastToggle]
      simp only [emit]
      rw [asked]
      simp [visitWindows, shape]

theorem finish_lastToggle (c : Compositor δ σ) :
    c.finish.bypass.lastToggle? = c.bypass.lastToggle? := by
  by_cases scene : c.hasScene = true
  · obtain ⟨d, r, s, e, _⟩ := c.finish_scene scene
    rw [e]
    rfl
  · rw [c.finish_of_off (by simpa using scene)]

theorem Shift.lastToggle (shift : Shift c c') :
    c'.bypass.lastToggle? = c.bypass.lastToggle? := by
  have noted {b : BypassState} (noted : b = c.bypass ∨ b = c.bypass.noteOptionChanged) :
      b.lastToggle? = c.bypass.lastToggle? := by
    rcases noted with rfl | rfl
    · rfl
    · rfl
  cases shift with
  | start s o b off which => exact (setup_lastToggle _).trans (noted which)
  | stop s o b which => exact (finish_lastToggle _).trans (noted which)
  | free reason scene => rfl

/-! The clock has come to what is dated. -/

/-- What is put off is due, and the last switch has taken place. -/
structure Clocked (c : Compositor δ σ) : Prop where
  prompt : ∀ moment, (.deferred, moment) ∈ c.timers.armed → moment ≤ c.timers.now
  switched : ∀ last, c.bypass.lastToggle? = some last → last ≤ c.timers.now

omit [DisplayServer δ] [Renderer σ] in
theorem Clocked.of_touches (h : Clocked c) {touched : List TimerId}
    (touches : Touches touched c.timers c'.timers) (waits : .deferred ∉ touched)
    (same : c'.bypass.lastToggle? = c.bypass.lastToggle?) : Clocked c' where
  prompt := fun moment armed =>
    Nat.le_trans (h.prompt moment ((touches.others _ waits moment).mp armed)) touches.clock
  switched := fun last date => Nat.le_trans (h.switched last (same ▸ date)) touches.clock

theorem Clocked.aside (h : Clocked c) (aside : Aside c c') : Clocked c' where
  prompt := by
    intro moment armed
    rcases aside.prompt moment armed with before | due
    · exact Nat.le_trans (h.prompt moment before) aside.clock
    · exact due
  switched := fun last date =>
    Nat.le_trans (h.switched last (aside.lastToggle ▸ date)) aside.clock

omit [DisplayServer δ] [Renderer σ] in
/-- A timer that goes off leaves the others, and time goes by. -/
theorem Clocked.goesOff (h : Clocked c) {id : TimerId} (popped : GoesOff id c c') : Clocked c' := by
  rcases popped with rfl | ⟨target, t, popped, rfl⟩
  · exact h
  · obtain ⟨moment, _, _, rfl⟩ := Timers.popDue_cases popped
    refine ⟨fun m armed => ?_, fun last date => ?_⟩
    · exact Nat.le_trans (h.prompt m (Timers.mem_stop.mp armed).1) (Nat.le_max_left _ _)
    · exact Nat.le_trans (h.switched last date) (Nat.le_max_left _ _)

theorem Shift.clocked (shift : Shift c c') (h : Clocked c) : Clocked c' :=
  h.of_touches shift.touches (by simp [TimerId.ofScene]) shift.lastToggle

/-- A pass dates its switches by the clock. -/
theorem bypassPass_clocked (distinct : c.windows.Distinct) (h : Clocked c) :
    Clocked c.bypassPass := by
  have switched : Clocked c.switchWindows.2 := by
    have touches := c.switchWindows_touches
    refine ⟨fun m armed => ?_, fun last date => ?_⟩
    · have before := (touches.others .deferred (by simp) m).mp armed
      exact Nat.le_trans (h.prompt m before) touches.clock
    · refine Nat.le_trans ?_ touches.clock
      have date : (c.midPass c.candidates).2.bypass.lastToggle? = some last := date
      rcases (midPass_underway distinct).progress with ⟨_, _, bypass, _⟩ | ⟨_, bypass, _⟩
      · exact h.switched last (bypass ▸ date)
      · rw [bypass] at date
        simp only [Option.some.injEq] at date
        exact Nat.le_of_eq date.symm
  rw [bypassPass_eq]
  split
  · split
    · have shaped : Clocked { c.switchWindows.2 with
          renderer := Renderer.setOverlayShape c.switchWindows.2.overlayShape
            c.switchWindows.2.renderer } := ⟨switched.prompt, switched.switched⟩
      exact shaped.aside (Aside.addRepaintFull _)
    · exact switched
  · exact h

theorem Move.clocked {ok : Occasion → Prop} (move : Move ok c c') (distinct : c.windows.Distinct)
    (h : Clocked c) : Clocked c' := by
  cases move with
  | aside aside => exact h.aside aside
  | shift shift => exact shift.clocked h
  | lose _ held =>
    have lost : Clocked { c with selection? := none } := ⟨h.prompt, h.switched⟩
    exact lost.of_touches (finish_touches _) (by simp [TimerId.ofScene]) (finish_lastToggle _)
  | restart scene =>
    have stopped : Clocked c.finish :=
      h.of_touches (finish_touches c) (by simp [TimerId.ofScene]) (finish_lastToggle c)
    have starting : Clocked { c.finish with phase := .starting } :=
      ⟨stopped.prompt, stopped.switched⟩
    rw [Compositor.restart, if_pos scene]
    exact starting.aside (Aside.defer _ _)
  | switch _ asides =>
    rename_i o _
    have noted : Clocked (c.retune c.suspended o c.bypass.noteOptionChanged) :=
      ⟨h.prompt, h.switched⟩
    exact (noted.aside asides).aside (Aside.checkBypass _ true)
  | pass popped =>
    rename_i c₁
    have same : c₁.windows = c.windows := by
      rcases popped with rfl | ⟨_, _, _, rfl⟩
      · rfl
      · rfl
    exact bypassPass_clocked (same ▸ distinct) (h.goesOff popped)
  | turn popped =>
    rename_i c₁
    have before := h.goesOff popped
    have start : Clocked { c₁ with deferred := [] } := ⟨before.prompt, before.switched⟩
    exact (runDeferred_shifts c₁).preserve (P := Clocked) (fun shift h => shift.clocked h) start
  | enter _ _ =>
    rename_i w _ _
    have entered : Clocked (c.entered w) := ⟨h.prompt, h.switched⟩
    exact (entered.aside (Aside.checkBypass _ true)).aside (Aside.scheduleRepaint _)
  | leave keepPlaceholder _ _ _ =>
    rename_i w _ _ _
    have left : Clocked (c.left w keepPlaceholder) := ⟨h.prompt, h.switched⟩
    exact (left.aside (Aside.addRepaint _ _)).aside (Aside.checkBypass _ true)
  | reshape id geometry =>
    rcases c.setGeometry_cases id geometry with e | ⟨_, w, r, _, _, _, e⟩
    · rw [e]
      exact h
    · have replaced : Clocked { c with windows := c.windows.modify id fun _ => w, renderer := r } :=
        ⟨h.prompt, h.switched⟩
      rw [e]
      exact (replaced.aside (Aside.addRepaint _ _)).aside (Aside.checkBypass _ true)
  | hear _ => exact ⟨h.prompt, h.switched⟩

end Compositor

end Compositing
