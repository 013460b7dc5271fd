import Compositing.Proofs.Attention
import Compositing.Proofs.Bystanders
import Mathlib.Tactic.IntervalCases

/-!
# Windows that come to light

Whether a window may bypass compositing depends on its own state, on the option and on what is
stacked above it. Whatever changes one of these asks for a pass, with one exception: a placeholder
covers what is below it like any window, but no pass is asked for when it is discarded. A window
that nothing else covered stays composited then, until something else asks for a pass. The other
way round nothing is missed: whoever is drawn directly and may not be is seen to.
-/

namespace Compositing

namespace WindowStack

/-- Nothing is covered by a window that has gone. -/
theorem uncoveredFrom_filter {w : Toplevel} {p : Toplevel → Bool} {ws : List Toplevel}
    (own : ∀ v ∈ ws, v.id = w.id → p v = true) (uncovered : uncoveredFrom w ws = true) :
    uncoveredFrom w (ws.filter p) = true := by
  induction ws with
  | nil => exact uncovered
  | cons v rest ih =>
    rw [uncoveredFrom] at uncovered
    by_cases here : v.id = w.id
    · rw [List.filter_cons_of_pos (own v List.mem_cons_self here), uncoveredFrom, if_pos here]
    · rw [if_neg here] at uncovered
      split at uncovered
      · simp at uncovered
      · rename_i apart
        have later := ih (fun u hu => own u (List.mem_cons_of_mem v hu)) uncovered
        by_cases stays : p v = true
        · rw [List.filter_cons_of_pos stays, uncoveredFrom, if_neg here, if_neg apart]
          exact later
        · rwa [List.filter_cons_of_neg stays]

theorem isUncovered_remove {s : WindowStack} {id : WindowId} {w : Toplevel} (other : w.id ≠ id)
    (uncovered : s.isUncovered w = true) : (s.remove id).isUncovered w = true := by
  rw [isUncovered, remove, ← List.filter_reverse]
  refine uncoveredFrom_filter (fun v _ same => ?_) uncovered
  simpa [same] using other

/-- Whoever may bypass compositing still may when another window has gone. -/
theorem isEligible_remove {s : WindowStack} {layout : Layout} {context : BypassContext}
    {id : WindowId} {w : Toplevel} (other : w.id ≠ id)
    (eligible : s.isEligible layout context w = true) :
    (s.remove id).isEligible layout context w = true := by
  have uncovered := isUncovered_remove other (isEligible_uncovered eligible)
  rw [isEligible, Bool.and_eq_true] at eligible ⊢
  refine ⟨eligible.1, ?_⟩
  have should := eligible.2
  rw [shouldBypass] at should ⊢
  cases kind : w.kind with
  | client state =>
    simp only [kind, Bool.and_eq_true] at should
    simp [should.1, uncovered]
  | unmanaged =>
    simp only [kind, Bool.and_eq_true] at should
    simp only [should.1, uncovered, Bool.and_self]
  | placeholder former => simp [kind] at should

end WindowStack

namespace Compositor

open WindowStack
open Timers (Touches)
open Toplevel (Refreshed)

variable {ω : Type} {b c c' : Compositor HeadlessDisplay HeadlessRenderer}

/-! Starting, frames and windows. -/

theorem scheduleRepaint_settles (c : Compositor HeadlessDisplay HeadlessRenderer) :
    Settles c c.scheduleRepaint :=
  (Aside.scheduleRepaint c).settles (by simp)
    (scheduleRepaint_touches (Touches.refl [.repaint] _) (by simp)) (by simp)

theorem addRepaintFull_settles (c : Compositor HeadlessDisplay HeadlessRenderer) :
    Settles c c.addRepaintFull :=
  (Aside.addRepaintFull c).settles (by simp)
    (addRepaintFull_touches (Touches.refl [.repaint] _) (by simp)) (by simp)

theorem reconfigure_settles (o : CompositingOptions) (sound : (c.reconfigure o).fault? = none) :
    Settles c (c.reconfigure o) := by
  by_cases switched : o.bypassFullscreen = c.options.bypassFullscreen
  · have still : (o.bypassFullscreen != c.options.bypassFullscreen) = false := by simp [switched]
    simp only [reconfigure, still, Bool.false_eq_true, if_false] at sound ⊢
    have taken : Settles c { c with options := o, bypass := c.bypass } :=
      (Aside.options switched).settles rfl (Touches.refl [] _) (by simp)
    split at sound
    · rename_i free
      rw [if_pos free]
      have started := (setup_shifts ({ c with options := o, bypass := c.bypass } :
        Compositor HeadlessDisplay HeadlessRenderer)).settles (by simpa using sound)
      exact (taken.trans started).trans (addRepaintFull_settles _)
    · rename_i held
      rw [if_neg held]
      exact Settles.of_off (by simp)
  · have noted : (o.bypassFullscreen != c.options.bypassFullscreen) = true := by
      simpa using switched
    simp only [reconfigure, noted, if_true]
    split
    · exact checkBypass_settles _ true
    · exact Settles.of_off (by simp)

theorem changeWindow_asked (id : WindowId) (f : Toplevel → Toplevel)
    {next : Compositor HeadlessDisplay HeadlessRenderer →
      Compositor HeadlessDisplay HeadlessRenderer} (after : ∀ {b c}, Settles b (next c)) :
    Settles c (c.changeWindow id f next) := by
  rw [changeWindow]
  split
  · exact after
  · exact Settles.refl c

theorem changeWindow_settles (id : WindowId) {f : Toplevel → Toplevel}
    (same : ∀ w, Refreshed w (f w)) : Settles c (c.changeWindow id f scheduleRepaint) := by
  have aside := Aside.changeWindow (c := c) id (fun w => (same w).inPlace) Aside.scheduleRepaint
  rw [changeWindow] at aside ⊢
  split at aside
  · rename_i known
    have changed : Becomes Refreshed c.windows (c.windows.modify id f) :=
      Becomes.modify Refreshed.refl c.windows id fun w _ _ => same w
    rw [if_pos known]
    exact Or.inr (aside.level (by simpa using changed)
      (scheduleRepaint_touches (Touches.refl [.repaint] _) (by simp)) (by simp))
  · rename_i unknown
    rw [if_neg unknown]
    exact Settles.refl c

theorem addWindow_settles (w : Toplevel) : Settles c (c.addWindow w) := by
  rcases c.addWindow_cases w with ⟨_, e⟩ | ⟨_, e⟩
  · rw [e]
    exact Settles.refl c
  · rw [e]
    split
    · exact Settles.asked ((Aside.scheduleRepaint _).trans (Aside.blockFor _ _))
    · exact Settles.asked (Aside.scheduleRepaint _)

theorem removeWindow_settles (id : WindowId) (keepPlaceholder : Bool) :
    Settles c (c.removeWindow id keepPlaceholder).2 := by
  rcases c.removeWindow_cases id keepPlaceholder with ⟨_, e⟩ | ⟨w, _, _, e⟩
  · rw [e]
    exact Settles.refl c
  · rw [e]
    split
    · exact Settles.asked (Aside.unblock _)
    · exact checkBypass_settles _ true

theorem setClientState_settles (id : WindowId) (state : ClientState) :
    Settles c (c.setClientState id state).2 := by
  rcases c.setClientState_cases id state with e | ⟨_, _, _, _, e⟩
  · rw [e]
    exact Settles.refl c
  · rw [e]
    split
    · exact Settles.asked (Aside.blockFor _ id)
    · split
      · exact Settles.asked (Aside.unblock _)
      · exact checkBypass_settles _ false

theorem setGeometry_settles (id : WindowId) (geometry : Rect) :
    Settles c (c.setGeometry id geometry) := by
  rcases c.setGeometry_cases id geometry with e | ⟨_, _, _, _, _, _, e⟩
  · rw [e]
    exact Settles.refl c
  · rw [e]
    exact checkBypass_settles _ true

theorem setOverlayVisible_settles (visible : Bool) : Settles c (c.setOverlayVisible visible) := by
  have aside := Aside.setOverlayVisible c visible
  rcases c.setOverlayVisible_cases visible with ⟨_, e⟩ | ⟨_, _, e⟩ | ⟨_, _, e⟩
  · rw [e]
    exact Settles.refl c
  · rw [e] at aside ⊢
    exact aside.settles (by simp)
      (addRepaintFull_touches (Touches.refl [.repaint] _) (by simp)) (by simp)
  · rw [e] at aside ⊢
    exact aside.settles rfl (Touches.refl [] _) (by simp)

/-! Steps. -/

theorem step_settles (change : ω → DisplayChange) {k : Step ω} (distinct : c.windows.Distinct)
    (untimed : c.delivered k = none) (kept : ∀ id, k ≠ .discardPlaceholder id)
    (sound : (c.step (DisplayChange.world change fun _ r => r) k).fault? = none) :
    Settles c (c.step (DisplayChange.world change fun _ r => r) k) := by
  cases k with
  | discardPlaceholder id => exact (kept id rfl).elim
  | handleTimer id => simp [delivered] at untimed
  | fireTimer target =>
    have none_due : c.timers.popDue target = none := Option.map_eq_none_iff.mp untimed
    rw [step, fireTimer, none_due]
    exact Settles.refl c
  | setup => exact (setup_shifts c).settles sound
  | finish => exact (finish_shifts c).settles sound
  | suspend reason => exact (suspend_shifts c reason).settles sound
  | resume reason => exact (resume_shifts c reason).settles sound
  | toggle => exact (toggle_shifts c).settles sound
  | toggleRemote =>
    obtain ⟨b, shifts, noticed⟩ := toggleRemote_shifts c
    exact shifts.settles_noticed sound noticed
  | setCompositing active => exact (setCompositing_shifts c active).settles sound
  | reconfigure o => exact reconfigure_settles o sound
  | startOver o => exact (startOver_shifts c o).settles sound
  | restart => exact restart_settles c
  | scheduleRestart after =>
    exact (Aside.start c.support after (by simp) (by simp [TimerId.ofScene])).settles rfl
      (Timers.touches_start .restart after c.timers) (by simp)
  | shutdown => exact Settles.of_off (by simp [step, Compositor.shutdown])
  | blockFor id =>
    exact (Aside.blockFor c id).settles (by simp)
      (blockFor_touches (Touches.refl [.deferred] _) id (by simp)) (by simp)
  | unblock =>
    exact (Aside.unblock c).settles (by simp)
      (unblock_touches (Touches.refl [.deferred] _) (by simp)) (by simp)
  | performCompositing => exact Or.inr (performCompositing_level distinct)
  | scheduleRepaint => exact scheduleRepaint_settles c
  | addRepaint g =>
    exact (Aside.addRepaint c g).settles (by simp)
      (addRepaint_touches (Touches.refl [.repaint] _) g (by simp)) (by simp)
  | addRepaintFull => exact addRepaintFull_settles c
  | addWindow w => exact addWindow_settles w
  | removeWindow id keepPlaceholder => exact removeWindow_settles id keepPlaceholder
  | setGeometry id geometry => exact setGeometry_settles id geometry
  | setStackingOrder order => exact checkBypass_settles _ true
  | raiseWindow id =>
    dsimp only [step, raiseWindow]
    split
    · exact checkBypass_settles _ true
    · exact Settles.refl c
  | setWindowOpacity id o => exact changeWindow_asked id _ (checkBypass_settles _ false)
  | setClientState id state => exact setClientState_settles id state
  | setShaped id shaped => exact changeWindow_asked id _ (checkBypass_settles _ false)
  | suspendBypass id suspended => exact changeWindow_asked id _ (checkBypass_settles _ false)
  | addWindowRepaint id g => exact changeWindow_settles id (Toplevel.addRepaint_refreshed g)
  | addWindowRepaintFull id => exact changeWindow_settles id Toplevel.addRepaintFull_refreshed
  | addWindowLayerRepaint id g =>
    exact changeWindow_settles id (Toplevel.addLayerRepaint_refreshed g)
  | handleDisplayEvent e => exact handleDisplayEvent_settles distinct e
  | dispatchDisplayEvents => exact dispatchDisplayEvents_settles distinct
  | advanceClock target =>
    have later : Touches [] c.timers (c.timers.advanceTo target) :=
      ⟨Nat.le_max_left _ _, fun _ _ _ => Iff.rfl⟩
    exact (Aside.advanceTo c target).settles rfl later (by simp)
  | checkBypass force => exact checkBypass_settles c force
  | setBypassFullscreen on =>
    dsimp only [step, setBypassFullscreen]
    split
    · exact Settles.refl c
    · exact checkBypass_settles _ true
  | setOverlayVisible visible => exact setOverlayVisible_settles visible
  | keepSupportProperty a => exact Or.inr { Level.refl c with }
  | removeSupportProperty a =>
    exact (Aside.start (c.support.remove a c.timers).1 supportSweepDelay (by simp)
      (by simp [TimerId.ofScene])).settles rfl
      (Timers.touches_start .supportSweep supportSweepDelay c.timers) (by simp)
  | takeEvents => exact Or.inr { Level.refl c with }
  | handleRequest r =>
    obtain ⟨b, shifts, noticed⟩ := handleRequest_shifts c r
    exact shifts.settles_noticed sound noticed
  | outside o =>
    exact Or.inr { Level.refl c with layout := ((change o).apply_kept c.display).1 }

/-! Placeholders that are discarded. -/

/-- The step discards a placeholder, and a window that may bypass compositing only with it gone
comes to light while neither a pass nor a retry is to come. -/
def Exposes (c : Compositor HeadlessDisplay HeadlessRenderer) (k : Step ω) : Prop :=
  c.hasScene = true ∧ c.timers.isArmed .bypassCheck = false ∧
    c.timers.isArmed .bypassRetry = false ∧ ∃ id, k = .discardPlaceholder id ∧
      ∃ w ∈ c.windows.windows, w.isPlaceholder = false ∧ c.isEligible w = false ∧
        (c.discardPlaceholder id).2.isEligible w = true

/-- With a scene, no window is drawn directly that may not be, or a pass is to come. -/
def Warranted (c : Compositor HeadlessDisplay HeadlessRenderer) : Prop :=
  c.hasScene = true →
    (∀ w ∈ c.windows.windows, w.isPlaceholder = false → w.unredirected = true →
      c.isEligible w = true) ∨
    c.timers.isArmed .bypassCheck = true ∨ c.timers.isArmed .bypassRetry = true

theorem Attended.warranted (h : Attended c) : Warranted c := by
  intro scene
  rcases h scene with agree | coming
  · refine Or.inl fun w hw real direct => ?_
    rw [← disagreeing_eq_zero_iff.mp agree w hw real]
    exact direct
  · exact Or.inr coming

theorem Warranted.level (h : Warranted c) (level : Level c c') : Warranted c' := by
  intro on
  rcases h (level.scene ▸ on) with fair | armed | armed
  · refine Or.inl fun w' hw' real direct => ?_
    obtain ⟨w, hw, same, alike⟩ := level.old hw'
    rw [alike]
    exact fair w hw (same.looks.isPlaceholder ▸ real) (same.direct ▸ direct)
  · exact Or.inr (Or.inl (level.check armed))
  · exact Or.inr (Or.inr (level.retry armed))

theorem discardPlaceholder_touches (c : Compositor HeadlessDisplay HeadlessRenderer)
    (id : WindowId) : Touches [.repaint] c.timers (c.discardPlaceholder id).2.timers := by
  rcases c.discardPlaceholder_cases id with e | ⟨p, r, _, _, _, e⟩
  · rw [e]
    exact Touches.refl _ _
  · have removed : Touches [.repaint] c.timers ({ c with
        windows := c.windows.remove id, renderer := r } :
          Compositor HeadlessDisplay HeadlessRenderer).timers := Touches.refl _ _
    rw [e]
    exact addRepaint_touches removed _ (by simp)

/-- Whoever is left was there, and may bypass compositing if it might before. -/
theorem discardPlaceholder_old {id : WindowId} {w : Toplevel}
    (hw : w ∈ (c.discardPlaceholder id).2.windows.windows) :
    w ∈ c.windows.windows ∧
      (c.isEligible w = true → (c.discardPlaceholder id).2.isEligible w = true) := by
  rcases c.discardPlaceholder_cases id with e | ⟨p, r, _, _, _, e⟩
  · rw [e] at hw ⊢
    exact ⟨hw, fun eligible => eligible⟩
  · have option := (Aside.discardPlaceholder c id).option
    rw [e] at hw option ⊢
    have remains : w ∈ c.windows.windows ∧ w.id ≠ id := by
      simpa [WindowStack.remove] using hw
    refine ⟨remains.1, fun eligible => ?_⟩
    rw [isEligible, bypassContext, option]
    simp only [addRepaint_frame]
    exact isEligible_remove remains.2 eligible

theorem discardPlaceholder_stays (distinct : c.windows.Distinct) {id : WindowId} {w : Toplevel}
    (hw : w ∈ c.windows.windows) (real : w.isPlaceholder = false) :
    w ∈ (c.discardPlaceholder id).2.windows.windows := by
  rcases c.discardPlaceholder_cases id with e | ⟨p, r, found, placeholder, _, e⟩
  · rw [e]
    exact hw
  · have other : w.id ≠ id := by
      intro here
      rw [eq_of_get? distinct found hw here, placeholder] at real
      simp at real
    rw [e]
    simpa [WindowStack.remove] using ⟨hw, other⟩

theorem discardPlaceholder_warranted (id : WindowId) (h : Warranted c) :
    Warranted (c.discardPlaceholder id).2 := by
  have touches := discardPlaceholder_touches c id
  intro on
  rw [touches.isArmed (by simp), touches.isArmed (by simp)]
  rcases h ((Aside.discardPlaceholder c id).scene ▸ on) with fair | coming
  · refine Or.inl fun w hw real direct => ?_
    obtain ⟨before, still⟩ := discardPlaceholder_old hw
    exact still (fair w before real direct)
  · exact Or.inr coming

/-- Discarding a placeholder leaves a window unattended exactly if it exposes one. -/
theorem discardPlaceholder_attended_iff (distinct : c.windows.Distinct) (h : Attended c)
    (id : WindowId) :
    Attended (c.discardPlaceholder id).2 ↔ ¬ c.Exposes (.discardPlaceholder id : Step ω) := by
  have touches := discardPlaceholder_touches c id
  have scene := (Aside.discardPlaceholder c id).scene
  constructor
  · rintro after ⟨on, check, retry, other, here, w, hw, real, covered, eligible⟩
    obtain rfl := Step.discardPlaceholder.inj here
    have agree : c.disagreeing = 0 := by simpa [check, retry] using h on
    have agree' : (c.discardPlaceholder id).2.disagreeing = 0 := by
      have seen := after (scene.trans on)
      rw [touches.isArmed (by simp), touches.isArmed (by simp)] at seen
      simpa [check, retry] using seen
    have before := disagreeing_eq_zero_iff.mp agree w hw real
    have now := disagreeing_eq_zero_iff.mp agree' w (discardPlaceholder_stays distinct hw real) real
    simp [covered, eligible, before] at now
  · intro hidden on
    rw [touches.isArmed (by simp), touches.isArmed (by simp)]
    by_cases coming : c.timers.isArmed .bypassCheck = true ∨ c.timers.isArmed .bypassRetry = true
    · exact Or.inr coming
    · have agree := disagreeing_eq_zero_iff.mp ((h (scene ▸ on)).resolve_right coming)
      refine Or.inl (disagreeing_eq_zero_iff.mpr fun w hw real => ?_)
      obtain ⟨before, still⟩ := discardPlaceholder_old hw
      rw [agree w before real]
      cases eligible : c.isEligible w with
      | true => exact (still eligible).symm
      | false =>
        by_contra shown
        rw [not_or, Bool.not_eq_true, Bool.not_eq_true] at coming
        exact hidden ⟨scene ▸ on, coming.1, coming.2, id, rfl, w, before, real, eligible,
          by simpa using Ne.symm shown⟩

/-! Runs. -/

/-- Every other step leaves all windows seen to, or nothing for passes to decide otherwise. -/
theorem step_attends (change : ω → DisplayChange) {k : Step ω} (cut : Cut c)
    (after : (c.step (DisplayChange.world change fun _ r => r) k).fault? = none ∧
      Cut (c.step (DisplayChange.world change fun _ r => r) k))
    (kept : ∀ id, k ≠ .discardPlaceholder id) :
    Attended (c.step (DisplayChange.world change fun _ r => r) k) ∨
      Level c (c.step (DisplayChange.world change fun _ r => r) k) := by
  cases due : c.delivered k with
  | none =>
    have settles := step_settles change cut.orderly.distinct due kept after.1
    exact settles.imp_left fun asked => asked.attended after.2.toFits
  | some delivered =>
    obtain ⟨id, b⟩ := delivered
    obtain ⟨popped, handled⟩ := step_of_delivered (DisplayChange.world change fun _ r => r) due
    rw [handled] at after ⊢
    exact popped.attends cut.toFits after.1 after.2.toFits

/-- A window that is drawn directly and may not be is seen to after every step. -/
theorem step_warranted (change : ω → DisplayChange) {k : Step ω} (cut : Cut c)
    (after : (c.step (DisplayChange.world change fun _ r => r) k).fault? = none ∧
      Cut (c.step (DisplayChange.world change fun _ r => r) k)) (h : Warranted c) :
    Warranted (c.step (DisplayChange.world change fun _ r => r) k) := by
  by_cases discards : ∃ id, k = .discardPlaceholder id
  · obtain ⟨id, rfl⟩ := discards
    exact discardPlaceholder_warranted id h
  · rcases step_attends change cut after (fun id here => discards ⟨id, here⟩) with attended | level
    · exact attended.warranted
    · exact h.level level

/-- Where all windows are seen to, a step leaves one that is not exactly if it exposes one. -/
theorem step_attended_iff (change : ω → DisplayChange) {k : Step ω} (cut : Cut c)
    (after : (c.step (DisplayChange.world change fun _ r => r) k).fault? = none ∧
      Cut (c.step (DisplayChange.world change fun _ r => r) k)) (h : Attended c) :
    Attended (c.step (DisplayChange.world change fun _ r => r) k) ↔ ¬ c.Exposes k := by
  by_cases discards : ∃ id, k = .discardPlaceholder id
  · obtain ⟨id, rfl⟩ := discards
    exact discardPlaceholder_attended_iff cut.orderly.distinct h id
  · have attended : Attended (c.step (DisplayChange.world change fun _ r => r) k) := by
      rcases step_attends change cut after (fun id here => discards ⟨id, here⟩) with
        attended | level
      · exact attended
      · exact h.level level
    have hidden : ¬ c.Exposes k := by
      rintro ⟨_, _, _, id, here, _⟩
      exact discards ⟨id, here⟩
    exact ⟨fun _ => hidden, fun _ => attended⟩

/-- In every reachable compositor with a scene, a window that is drawn directly may be, or a pass
or a retry is to come. In all states of a run every window that is no placeholder is as a pass
would decide for it, or is seen to in this way, if and only if no step exposes a window. -/
theorem attended_iff_never_exposes {W : World ω HeadlessDisplay HeadlessRenderer}
    {change : ω → DisplayChange} (world : W = DisplayChange.world change fun _ r => r)
    {start : Compositor HeadlessDisplay HeadlessRenderer} {d : HeadlessDisplay}
    {r : HeadlessRenderer} {options : CompositingOptions}
    (new : start = Compositor.new d r options) {steps : List (Step ω)}
    (plain : ∀ k ∈ steps, k.Adds fun w => w.unredirected = false) :
    (start.run W steps).Warranted ∧
      ((∀ before, before <+: steps → (start.run W before).Attended) ↔
        ∀ before k, before ++ [k] <+: steps → ¬ (start.run W before).Exposes k) := by
  subst world new
  have cut (before : List (Step ω)) (reached : before <+: steps) :=
    run_cut change d r options fun k here => plain k (reached.subset here)
  have along {before : List (Step ω)} {k : Step ω} (reached : before ++ [k] <+: steps) :=
    And.intro (cut before ((List.prefix_append before [k]).trans reached)).2
      (by simpa [run_snoc] using cut _ reached)
  refine ⟨?_, fun attended before k reached => ?_, fun hidden before reached => ?_⟩
  · refine run_along _ (Attended.of_off rfl).warranted (fun before k reached h => ?_)
      List.prefix_rfl
    exact step_warranted change (along reached).1 (along reached).2 h
  · have earlier := attended before ((List.prefix_append before [k]).trans reached)
    have now := attended (before ++ [k]) reached
    rw [run_snoc] at now
    exact (step_attended_iff change (along reached).1 (along reached).2 earlier).mp now
  · refine run_along _ (Attended.of_off rfl) (fun before k next h => ?_) reached
    exact (step_attended_iff change (along next).1 (along next).2 h).mpr (hidden before k next)

def sheltering : Compositor HeadlessDisplay HeadlessRenderer :=
  Compositor.new (.new Extension.all (.single 20 10)) (.new ⟨1⟩ fun _ => 0)
    { CompositingOptions.standard with bypassFullscreen := true }

def shelteringSteps : List (Step DisplayChange) :=
  [.setup, .addWindow (.client ⟨1⟩ (.ofCoords 0 0 20 10) ⟨true, true, false⟩),
    .addWindow (.client ⟨2⟩ (.ofCoords 5 5 4 4) ⟨false, false, false⟩), .removeWindow ⟨2⟩ true]

/-- The placeholder goes while a pass is still to come, which then draws the client directly. -/
def placeholderGoes : List (Step DisplayChange) :=
  shelteringSteps ++ [.discardPlaceholder ⟨2⟩, .fireTimer 0]

theorem placeholderGoes_attended :
    (∀ before, before <+: placeholderGoes →
        (sheltering.run (DisplayChange.world id fun _ r => r) before).Attended) ∧
      (sheltering.run (DisplayChange.world id fun _ r => r)
        placeholderGoes).windows.windows.map (·.unredirected) = [true] := by
  refine ⟨?_, rfl⟩
  have plain : ∀ k ∈ placeholderGoes, k.Adds fun w => w.unredirected = false := by
    simp [placeholderGoes, shelteringSteps, Toplevel.client, Toplevel.new]
  refine (attended_iff_never_exposes (W := DisplayChange.world id fun _ r => r) rfl
    (show sheltering = Compositor.new _ _ _ from rfl) plain).2.mpr ?_
  intro before k reached
  obtain ⟨taken, next, short⟩ := Step.taken_at reached
  change before.length < 6 at short
  rw [taken]
  generalize before.length = n at short next
  interval_cases n
  all_goals obtain rfl := Option.some.inj next
  · simp [Exposes]
  · simp [Exposes]
  · simp [Exposes]
  · simp [Exposes]
  · -- a pass is on its way since the window above left
    rintro ⟨_, unarmed, _⟩
    cases unarmed
  · simp [Exposes]

/-- The placeholder goes after the pass that its window asked for. -/
def placeholderStays : List (Step DisplayChange) :=
  shelteringSteps ++ [.fireTimer 0, .discardPlaceholder ⟨2⟩]

/-- The client may be drawn directly and is not, and nothing will see to it. -/
theorem placeholderStays_exposed :
    (∀ k ∈ placeholderStays, k.Adds fun w => w.unredirected = false) ∧
      (sheltering.run (DisplayChange.world id fun _ r => r) placeholderStays).hasScene = true ∧
      (sheltering.run (DisplayChange.world id fun _ r => r) placeholderStays).timers.isArmed
        .bypassCheck = false ∧
      (sheltering.run (DisplayChange.world id fun _ r => r) placeholderStays).timers.isArmed
        .bypassRetry = false ∧
      ∃ w ∈ (sheltering.run (DisplayChange.world id fun _ r => r) placeholderStays).windows.windows,
        w.isPlaceholder = false ∧ w.unredirected = false ∧
          (sheltering.run (DisplayChange.world id fun _ r => r) placeholderStays).isEligible w =
            true := by
  refine ⟨?_, rfl, rfl, rfl, _, List.mem_singleton_self _, rfl, rfl, by decide +kernel⟩
  simp [placeholderStays, shelteringSteps, Toplevel.client, Toplevel.new]

end Compositor

end Compositing
