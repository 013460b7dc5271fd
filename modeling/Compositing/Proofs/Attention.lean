import Compositing.Proofs.Progress

/-!
# Windows are seen to

A window that is other than a pass would decide for it is seen to as long as a pass or a retry is
to come. Passes themselves leave such windows to a retry. Of everything else it is enough to know
that it asks for a pass, if passes take place at all, or leaves alone what passes decide by. That
is shown here of starting and stopping, of frames, events and timers.
-/

namespace Compositing.Compositor

open WindowStack
open Toplevel (Refreshed)
open Timers (Touches)

variable {b c c' c'' : Compositor HeadlessDisplay HeadlessRenderer} {id : TimerId}

/-- With a scene, no window is other than was decided for it, or a pass is to come. -/
def Attended (c : Compositor HeadlessDisplay HeadlessRenderer) : Prop :=
  c.hasScene = true → c.disagreeing = 0 ∨ c.timers.isArmed .bypassCheck = true ∨
    c.timers.isArmed .bypassRetry = true

theorem Attended.of_off (off : c.hasScene = false) : Attended c := by
  intro on
  simp [off] at on

def Asked (c : Compositor HeadlessDisplay HeadlessRenderer) : Prop :=
  c.bypassApplies = true → c.timers.isArmed .bypassCheck = true

theorem Asked.of_off (off : c.hasScene = false) : Asked c := by
  intro applies
  simp [bypassApplies_eq, off] at applies

theorem checkBypass_asked (c : Compositor HeadlessDisplay HeadlessRenderer) (force : Bool) :
    Asked (c.checkBypass force) := by
  intro applies
  rcases c.checkBypass_cases force with ⟨none, e⟩ | ⟨_, t, _, armed, e⟩
  · rw [e] at applies
    simp [none] at applies
  · rw [e]
    exact armed

theorem Asked.aside (h : Asked c) (aside : Aside c c') : Asked c' := by
  intro applies
  exact aside.check (h (aside.applies.symm.trans applies))

/-- What a pass decides by is as it was, and no pass and no retry is taken back. -/
structure Level (c c' : Compositor HeadlessDisplay HeadlessRenderer) : Prop where
  scene : c'.hasScene = c.hasScene
  layout : c'.display.layout = c.display.layout
  option : c'.options.bypassFullscreen = c.options.bypassFullscreen
  changed : c'.bypass.optionChanged = c.bypass.optionChanged
  windows : Becomes Refreshed c.windows c'.windows
  check : c.timers.isArmed .bypassCheck = true → c'.timers.isArmed .bypassCheck = true
  retry : c.timers.isArmed .bypassRetry = true → c'.timers.isArmed .bypassRetry = true

theorem Level.refl (c : Compositor HeadlessDisplay HeadlessRenderer) : Level c c :=
  ⟨rfl, rfl, rfl, rfl, Becomes.refl Refreshed.refl c.windows, id, id⟩

theorem Level.trans (first : Level c c') (second : Level c' c'') : Level c c'' where
  scene := second.scene.trans first.scene
  layout := second.layout.trans first.layout
  option := second.option.trans first.option
  changed := second.changed.trans first.changed
  windows := first.windows.trans (fun _ _ _ before after => before.trans after) second.windows
  check := fun armed => second.check (first.check armed)
  retry := fun armed => second.retry (first.retry armed)

/-- An aside that touches neither a retry nor how the windows look. -/
theorem Aside.level (aside : Aside c c') (windows : Becomes Refreshed c.windows c'.windows)
    {touched : List TimerId} (touches : Touches touched c.timers c'.timers)
    (retry : .bypassRetry ∉ touched) : Level c c' where
  scene := aside.scene
  layout := aside.served HeadlessDisplay.fixed_layout.toLasting
  option := aside.option
  changed := aside.optionChanged
  windows := windows
  check := aside.check
  retry := (touches.isArmed retry).mpr

/-- A timer goes off that has nothing to do with passes. -/
theorem Level.of_touches {t : Timers} {touched : List TimerId}
    (touches : Touches touched c.timers t) (check : .bypassCheck ∉ touched)
    (retry : .bypassRetry ∉ touched) : Level c { c with timers := t } :=
  { Level.refl c with
    check := (touches.isArmed check).mpr
    retry := (touches.isArmed retry).mpr }

/-- Each window has become one for which as much is decided. -/
theorem Level.old (level : Level c c') {w' : Toplevel} (hw' : w' ∈ c'.windows.windows) :
    ∃ w ∈ c.windows.windows, Refreshed w w' ∧ c'.isEligible w' = c.isEligible w := by
  obtain ⟨g, shape, same⟩ := level.windows
  obtain ⟨w, hw, rfl⟩ := List.mem_map.mp (shape ▸ hw')
  refine ⟨w, hw, same w hw, ?_⟩
  have layout : DisplayServer.layout c'.display = DisplayServer.layout c.display := level.layout
  have context : c'.bypassContext = c.bypassContext := by
    rw [bypassContext, bypassContext, level.option]
    rfl
  rw [isEligible, isEligible, layout, context]
  exact isEligible_map shape (fun v hv => (same v hv).looks) _ _ hw

theorem Attended.level (h : Attended c) (level : Level c c') : Attended c' := by
  intro on
  rcases h (level.scene ▸ on) with agree | armed | armed
  · refine Or.inl (disagreeing_eq_zero_iff.mpr fun w' hw' real => ?_)
    obtain ⟨w, hw, same, alike⟩ := level.old hw'
    rw [same.direct, alike]
    exact disagreeing_eq_zero_iff.mp agree w hw (same.looks.isPlaceholder ▸ real)
  · exact Or.inr (Or.inl (level.check armed))
  · exact Or.inr (Or.inr (level.retry armed))

/-- Where no pass takes place, no window is to be drawn directly, and none is. -/
theorem Fits.agrees (h : Fits c) (scene : c.hasScene = true) (none : c.bypassApplies = false) :
    c.disagreeing = 0 := by
  refine disagreeing_eq_zero_iff.mpr fun w hw real => ?_
  have off : c.options.bypassFullscreen = false := by
    rw [bypassApplies_eq] at none
    simp [scene] at none
    exact none.1
  rw [h.plain none w hw, ← chosen_contains h.orderly.distinct hw real, chosen_of_off off]

theorem Asked.attended (h : Asked c) (fits : Fits c) : Attended c := by
  intro scene
  cases applies : c.bypassApplies with
  | false => exact Or.inl (fits.agrees scene applies)
  | true => exact Or.inr (Or.inl (h applies))

/-- A pass leaves no window other than was decided, or will be tried again. -/
theorem bypassPass_attended (h : Fits c) : Attended c.bypassPass := by
  intro scene
  cases applies : c.bypassApplies with
  | false =>
    have e : c.bypassPass = c := by rw [bypassPass_eq, if_neg (by simp [applies])]
    rw [e] at scene ⊢
    exact Or.inl (h.agrees scene applies)
  | true =>
    have distinct := h.orderly.distinct
    have approaches := bypassPass_approaches distinct applies
    obtain ⟨t, g, r, touches, e⟩ := bypassPass_shape applies
    cases debounced : (c.midPass c.candidates).2.debounced with
    | true =>
      have armed : c.switchWindows.2.timers.isArmed .bypassRetry = true := by
        rw [switchWindows_eq, debounced]
        exact c.retrying_armed
      rw [e]
      exact Or.inr (Or.inr ((touches.isArmed (by simp)).mpr armed))
    | false =>
      obtain ⟨f, shape, near⟩ := approaches.windows
      refine Or.inl ?_
      rw [disagreeing, shape, List.countP_map, List.countP_eq_zero]
      intro w hw counts
      obtain ⟨disagreed, other⟩ := (approaches.disagrees distinct shape near hw).mp counts
      have hw' : f w ∈ (c.midPass c.candidates).1.windows := by
        have after : f w ∈ c.bypassPass.windows.windows := shape ▸ List.mem_map_of_mem hw
        rw [e] at after
        exact after
      rcases midPass_decided distinct debounced _ hw' with placeholder | decided
      · rw [(near w hw).looks.isPlaceholder] at placeholder
        simp [disagrees, placeholder] at disagreed
      · rw [(near w hw).looks.id] at decided
        exact other decided

/-! What settles of itself. -/

/-- A pass is to come if passes take place, or there is as much reason for one as before. -/
def Settles (c c' : Compositor HeadlessDisplay HeadlessRenderer) : Prop :=
  Asked c' ∨ Level c c'

theorem Settles.refl (c : Compositor HeadlessDisplay HeadlessRenderer) : Settles c c :=
  Or.inr (Level.refl c)

theorem Asked.level (h : Asked c) (level : Level c c') : Asked c' := by
  intro applies
  refine level.check (h ?_)
  rw [bypassApplies_eq] at applies ⊢
  rwa [← level.scene, ← level.option, ← level.changed]

theorem Settles.trans (first : Settles b c) (second : Settles c c') : Settles b c' := by
  rcases second with asked | level
  · exact Or.inl asked
  · rcases first with asked | before
    · exact Or.inl (asked.level level)
    · exact Or.inr (before.trans level)

theorem Settles.attended (h : Attended c) (settles : Settles c c') (fits : Fits c') :
    Attended c' := by
  rcases settles with asked | level
  · exact asked.attended fits
  · exact h.level level

theorem Settles.of_off (off : c'.hasScene = false) : Settles c c' := Or.inl (Asked.of_off off)

/-- A pass is asked for, and what follows are asides. -/
theorem Settles.asked {force : Bool} (asides : Aside (c.checkBypass force) c') : Settles b c' :=
  Or.inl ((checkBypass_asked c force).aside asides)

theorem checkBypass_settles (c : Compositor HeadlessDisplay HeadlessRenderer) (force : Bool) :
    Settles b (c.checkBypass force) :=
  Settles.asked (Aside.refl (c.checkBypass force))

/-- An aside that changes no window. -/
theorem Aside.settles (aside : Aside c c') (windows : c'.windows = c.windows)
    {touched : List TimerId} (touches : Touches touched c.timers c'.timers)
    (retry : .bypassRetry ∉ touched) : Settles c c' := by
  refine Or.inr (aside.level ?_ touches retry)
  rw [windows]
  exact Becomes.refl Refreshed.refl c.windows

/-- A start asks for a pass, and a stop leaves none to ask for. -/
theorem Shift.settles (shift : Shift c c') (sound : c'.fault? = none) : Settles c c' := by
  cases shift with
  | start s o b off noted =>
    left
    intro applies
    have scene := (bypassApplies_cases applies).1
    obtain ⟨_, _, a, d, r, frame, b', _, _, asides⟩ :=
      (c.retune s o b).setup_begins off scene sound
    have active : Asked (({ b'.checkBypass true with phase := .active } :
        Compositor HeadlessDisplay HeadlessRenderer).emit (.toggled true)) :=
      checkBypass_asked b' true
    exact active.aside asides applies
  | stop s o b noted => exact Or.inl (Asked.of_off (finish_frame _).1)
  | free reason scene => exact Or.inr { Level.refl c with }

theorem Shifts.settles (shifts : Shifts c c') (sound : c'.fault? = none) : Settles c c' := by
  revert sound
  induction shifts with
  | refl => exact fun _ => Settles.refl c
  | tail _ shift ih =>
    intro sound
    exact (ih (shift.unbroken sound)).trans (shift.settles sound)

theorem Shifts.settles_noticed (shifts : Shifts c b) (sound : c'.fault? = none)
    (noticed : c' = b ∨ ∃ message, c' = b.emit (.suspendedNotice message)) : Settles c c' := by
  rcases noticed with rfl | ⟨message, rfl⟩
  · exact shifts.settles sound
  · exact (shifts.settles sound).trans
      ((Aside.notice b message).settles rfl (Touches.refl [] _) (by simp))

theorem restart_settles (c : Compositor HeadlessDisplay HeadlessRenderer) :
    Settles c c.restart := by
  rw [restart]
  split
  · exact Settles.of_off (by simp)
  · exact Settles.refl c

/-! Frames, sweeps, events and timers. -/

theorem marked_refreshed (w : Toplevel) : Refreshed w w.marked :=
  ⟨⟨rfl, rfl, rfl, rfl, rfl, rfl, rfl⟩, rfl, rfl⟩

/-- That a window is damaged has nothing to do with what is decided for it. -/
theorem damaged_level (distinct : c.windows.Distinct) (id : WindowId) :
    Level c (c.handleDisplayEvent (.damaged id)) := by
  have aside := Aside.damaged c id
  rcases c.damaged_cases id with ⟨_, e⟩ | ⟨w, found, _, e⟩
  · rw [e]
    exact Level.refl c
  · rw [e] at aside ⊢
    refine aside.level ?_ (scheduleRepaint_touches (Touches.refl [.repaint] _) (by simp)) (by simp)
    have marked : Becomes Refreshed c.windows (c.windows.modify id fun _ => w.marked) := by
      refine Becomes.modify Refreshed.refl c.windows id fun v hv here => ?_
      rw [eq_of_get? distinct found hv here]
      exact marked_refreshed w
    simpa using marked

theorem performCompositing_level (distinct : c.windows.Distinct) : Level c c.performCompositing :=
  (Aside.performCompositing c).level (performCompositing_refreshed distinct)
    (performCompositing_touches (Touches.refl [.repaint] _) (by simp)) (by simp)

theorem sweepSupport_level (c : Compositor HeadlessDisplay HeadlessRenderer) (busy : Bool) :
    Level c (c.sweepSupport busy) :=
  (Aside.sweepSupport c busy).level (Becomes.refl Refreshed.refl c.windows)
    (sweepSupport_touches c busy) (by simp)

theorem handleDisplayEvent_settles (distinct : c.windows.Distinct) (e : DisplayEvent) :
    Settles c (c.handleDisplayEvent e) := by
  cases e with
  | damaged id => exact Or.inr (damaged_level distinct id)
  | selectionCleared =>
    rcases c.selectionCleared_cases with e | e
    · rw [e]
      exact Settles.refl c
    · rw [e]
      exact Settles.of_off (by simp)

theorem dispatchDisplayEvents_settles (distinct : c.windows.Distinct) :
    Settles c c.dispatchDisplayEvents.2 := by
  let Q : List DisplayEvent → Compositor HeadlessDisplay HeadlessRenderer → Prop :=
    fun _ c' => c'.windows.Distinct ∧ Settles c c'
  have heard : Q (DisplayServer.takeEvents c.display).1
      { c with display := (DisplayServer.takeEvents c.display).2 } :=
    ⟨distinct, Or.inr { Level.refl c with }⟩
  refine (dispatch_induction (Q := Q) heard ?_).2
  rintro e _ c' ⟨distinct, h⟩
  have evolved := (evolves_preserved distinct).handleDisplayEvent e (Evolves.refl distinct)
  exact ⟨evolved.distinct, h.trans (handleDisplayEvent_settles distinct e)⟩

theorem handleTimer_settles (distinct : c.windows.Distinct) {id : TimerId}
    (pass : id ≠ .bypassCheck) (sound : (c.handleTimer id).fault? = none) :
    Settles c (c.handleTimer id) := by
  cases id with
  | repaint => exact Or.inr (performCompositing_level distinct)
  | bypassCheck => exact (pass rfl).elim
  | bypassRetry => exact checkBypass_settles c false
  | supportSweep => exact Or.inr (sweepSupport_level c c.isBusy)
  | restart => exact restart_settles c
  | deferred =>
    have emptied : Settles c { c with deferred := [] } := Or.inr { Level.refl c with }
    exact emptied.trans ((runDeferred_shifts c).settles sound)

/-- Whichever timer goes off, all windows are seen to, or there is as much to see to as before. -/
theorem GoesOff.attends (popped : GoesOff id c b) (fits : Fits c)
    (sound : (b.handleTimer id).fault? = none) (after : Fits (b.handleTimer id)) :
    Attended (b.handleTimer id) ∨ Level c (b.handleTimer id) := by
  have settled (settles : Settles c (b.handleTimer id)) :
      Attended (b.handleTimer id) ∨ Level c (b.handleTimer id) :=
    settles.imp_left fun asked => asked.attended after
  have same : Fits b := by
    rcases popped with rfl | ⟨_, _, _, rfl⟩
    · exact fits
    · exact { fits with }
  by_cases pass : id = .bypassCheck
  · subst pass
    exact Or.inl (bypassPass_attended same)
  · have handled := handleTimer_settles same.orderly.distinct pass sound
    by_cases again : id = .bypassRetry
    · -- the retry is gone, but a pass is asked for in its place
      subst again
      exact settled (checkBypass_settles b false)
    · rcases popped with rfl | ⟨target, t, popped, rfl⟩
      · exact settled handled
      · have timed : Level c { c with timers := t } :=
          Level.of_touches (Timers.touches_popDue popped) (by simpa using Ne.symm pass)
            (by simpa using Ne.symm again)
        exact settled (Settles.trans (Or.inr timed) handled)

end Compositing.Compositor
