import Compositing.Proofs.Ownership

/-!
# No wake-up is lost

Whatever waits to be painted is painted in the end, because something is on its way that leads
to a frame: the event that reports damage, or the repaint timer. The server reports damage
only when it begins to wait, so a report must not get lost. The timer is armed as long as a
visible overlay has something to paint.
-/

namespace Compositing

namespace Toplevel

def HasWork (w : Toplevel) : Prop := w.hasPendingRepaints = true ∨ w.isDamaged = true

theorem SameRepaints.hasWork {w w' : Toplevel} (same : SameRepaints w w')
    (dirty : w'.isDamaged = w.isDamaged) : w'.HasWork ↔ w.HasWork := by
  simp only [HasWork, hasPendingRepaints, same.1, same.2, dirty]

end Toplevel

namespace Compositor

open WindowStack

variable {δ : Type} {c c' : Compositor δ HeadlessRenderer}

/-- Something is to be painted, or may be once damage is fetched. -/
def HasWork (c : Compositor δ HeadlessRenderer) : Prop :=
  c.repaints.isEmpty = false ∨ ∃ w ∈ c.windows.windows, w.HasWork

def Alert (c : Compositor δ HeadlessRenderer) : Prop :=
  c.hasScene = true → c.timers.isArmed .repaint = true

/-- As long as a visible overlay has work, the repaint timer is armed. -/
def Awake (c : Compositor δ HeadlessRenderer) : Prop :=
  c.overlayVisible = true → c.HasWork → c.timers.isArmed .repaint = true

theorem Alert.awake (h : c.Alert) : c.Awake := by
  intro visible _
  have both : c.hasScene = true ∧ Renderer.overlayVisible c.renderer = true := by
    simpa [overlayVisible] using visible
  exact h both.1

/-- Nothing is to be painted without a scene. -/
theorem awake_of_no_scene (off : c.hasScene = false) : c.Awake := by
  intro visible
  simp [overlayVisible, off] at visible

/-- No work is added and the timer is not disarmed. -/
theorem Awake.mono (h : c.Awake) (visible : c'.overlayVisible = true → c.overlayVisible = true)
    (work : c'.HasWork → c.HasWork)
    (armed : c.timers.isArmed .repaint = true → c'.timers.isArmed .repaint = true) : c'.Awake :=
  fun seen busy => armed (h (visible seen) (work busy))

theorem SameWork.overlayVisible (same : SameWork c c') : c'.overlayVisible = c.overlayVisible := by
  simp only [Compositor.overlayVisible, same.scene, same.renderer]

theorem SameWork.hasWork (same : SameWork c c') : c'.HasWork ↔ c.HasWork := by
  simp only [HasWork, same.repaints, same.windows]

/-! Calls that arm the timer. -/

theorem scheduleRepaint_alert : c.scheduleRepaint.Alert := by
  rw [scheduleRepaint]
  split
  · intro _
    exact FrameBudget.isArmed_schedule c.frame c.timers
  · rename_i off
    intro on
    exact (off on).elim

theorem addRepaint_alert (g : Region) : (c.addRepaint g).Alert := by
  rw [addRepaint]
  split
  · exact scheduleRepaint_alert
  · rename_i off
    intro on
    exact (off on).elim

theorem addRepaintFull_alert [DisplayServer δ] : c.addRepaintFull.Alert := by
  rw [addRepaintFull]
  split
  · exact scheduleRepaint_alert
  · rename_i off
    intro on
    exact (off on).elim

/-- A pass that is asked for disarms nothing. -/
theorem Alert.checkBypass (h : c.Alert) (force : Bool) : (c.checkBypass force).Alert := by
  intro on
  rw [(c.checkBypass_sameWork force).scene] at on
  exact checkBypass_armed force (h on)

/-! Frames. -/

/-- After the requests no window is damaged, if no reply was awaited before. -/
theorem requests_clean [DisplayServer δ] {s : WindowStack} (calm : s.Calm) (d : δ) :
    ∀ w ∈ (s.visit s.ids requestStep ([], d)).1.windows, w.isDamaged = false := by
  -- only a request makes a window await a reply, and the window is not damaged any more then
  let I : WindowStack → List WindowId × δ → Prop :=
    fun s _ => ∀ w ∈ s.windows, w.isDamaged = true → w.pendingFetch? = none
  have start : I s ([], d) := fun w hw _ => calm w hw
  refine visit_all start (fun w hw => Or.inr (List.mem_map_of_mem hw)) ?_
  intro id s t w found free
  have asked : (requestStep w t).1.isDamaged = false := by
    rw [requestStep]
    rcases w.requestDamage_cases t.2 with
      ⟨skip, e⟩ | ⟨_, _, ⟨_, e⟩ | ⟨_, _, _, _, _, e⟩ | ⟨_, _, _, _, _, e⟩⟩
    · rw [e]
      by_contra dirty
      have dirty : w.isDamaged = true := by simpa using dirty
      simp [dirty, free w (mem_of_get? found).1 dirty] at skip
    all_goals rw [e]
  refine ⟨fun v hv dirty => ?_, asked⟩
  rcases (mem_replace found).mp hv with rfl | ⟨hv, _⟩
  · simp [asked] at dirty
  · exact free v hv dirty

/-- Fetching leaves no window damaged. -/
theorem fetchDamage_clean [DisplayServer δ] (calm : c.windows.Calm) :
    ∀ w ∈ c.fetchDamage.windows.windows, w.isDamaged = false := by
  have turn (w : Toplevel) (d : δ) : (collectStep w d).1.isDamaged = w.isDamaged := by
    rw [collectStep]
    rcases w.collectDamage_cases d with ⟨_, e⟩ | ⟨_, _, e⟩
    all_goals rw [e]
  intro w hw
  obtain ⟨v, hv, same⟩ := visit_old (R := fun w w' => w'.isDamaged = w.isDamaged) (fun _ => rfl)
    (fun _ _ _ first second => second.trans first) turn _ _ _ w hw
  exact same.trans (requests_clean calm c.display v hv)

theorem performCompositing_awake [DisplayServer δ] (calm : c.windows.Calm) :
    c.performCompositing.Awake := by
  rw [performCompositing]
  split
  · rename_i visible
    dsimp only
    split
    · rename_i nothing
      simp only [Bool.and_eq_true, Bool.not_eq_true'] at nothing
      -- with nothing to paint and no window damaged there is no work
      rintro _ (repaints | ⟨w, hw, pending | dirty⟩)
      · have none : c.fetchDamage.repaints.isEmpty = true := nothing.1
        have some : c.fetchDamage.repaints.isEmpty = false := repaints
        simp [none] at some
      · have none := List.any_eq_false.mp nothing.2 w hw
        simp [pending] at none
      · have hw : w ∈ c.fetchDamage.windows.windows := hw
        simp [fetchDamage_clean calm w hw] at dirty
    · exact scheduleRepaint_alert.awake
  · rename_i hidden
    intro visible
    exact (hidden visible).elim

/-! Passes. -/

variable [DisplayServer δ]

/-- A turn that switches nothing leaves its window as it is. -/
theorem bypassStep_quiet (now : Nanos) (eligible : List WindowId) (w : Toplevel)
    (p : BypassPass δ HeadlessRenderer) :
    (bypassStep now eligible w p).2.renderer = p.renderer ∧
      (bypassStep now eligible w p).1.id = w.id ∧
      ((bypassStep now eligible w p).2.toggled = false →
        p.toggled = false ∧ (bypassStep now eligible w p).1 = w) := by
  rw [bypassStep]
  rcases p.bypass.update_cases w (eligible.contains w.id) now p.display p.renderer with
    ⟨_, h⟩ | ⟨_, _, h⟩ | ⟨_, _, _, h⟩ | ⟨_, _, _, h⟩
  · rw [h]
    simp [BypassChange.toggled]
  · rw [h]
    simp [BypassChange.toggled]
  · rw [h]
    exact ⟨rfl, rfl, by simp [BypassChange.toggled]⟩
  · rw [h]
    exact ⟨rfl, (Toplevel.addDamageFull_same _).id, by simp [BypassChange.toggled]⟩

/-- A pass that counts as one that changed nothing has switched nothing. -/
theorem switchWindows_quiet (distinct : c.windows.Distinct) :
    c.switchWindows.2.renderer = c.renderer ∧
      (c.switchWindows.1 = false → c.switchWindows.2.windows = c.windows) := by
  let P : List WindowId → WindowStack → BypassPass δ HeadlessRenderer → Prop := fun _ s p =>
    s.Distinct ∧ p.renderer = c.renderer ∧ (p.toggled = false → s = c.windows)
  have start (ids : List WindowId) :
      P ids c.windows ⟨c.bypass, c.display, c.renderer, false, false⟩ :=
    ⟨distinct, rfl, fun _ => rfl⟩
  have done (ids eligible : List WindowId) :
      P [] (c.windows.visit ids (bypassStep c.timers.now eligible)
          ⟨c.bypass, c.display, c.renderer, false, false⟩).1
        (c.windows.visit ids (bypassStep c.timers.now eligible)
          ⟨c.bypass, c.display, c.renderer, false, false⟩).2 := by
    refine visit_induction (start ids) (fun _ _ _ _ _ h => h) ?_
    rintro id rest s p w found ⟨distinct, same, quiet⟩
    obtain ⟨renderer, sameId, still⟩ := bypassStep_quiet c.timers.now eligible w p
    have hw := (mem_of_get? found).2
    refine ⟨distinct.modify fun _ _ _ => sameId.trans hw, renderer.trans same, fun untoggled => ?_⟩
    obtain ⟨before, unchanged⟩ := still untoggled
    rw [unchanged, replace_self distinct found]
    exact quiet before
  refine ⟨(done _ _).2.1, fun unchanged => (done _ _).2.2 ?_⟩
  exact (Bool.or_eq_false_iff.mp unchanged).1

theorem switchWindows_armed (armed : c.timers.isArmed .repaint = true) :
    c.switchWindows.2.timers.isArmed .repaint = true := by
  rw [switchWindows]
  dsimp only
  split
  · simpa using armed
  · exact armed

theorem bypassPass_awake (distinct : c.windows.Distinct) (h : c.Awake) : c.bypassPass.Awake := by
  obtain ⟨renderer, quiet⟩ := switchWindows_quiet distinct
  rw [bypassPass_eq]
  split
  · split
    · exact addRepaintFull_alert.awake
    · rename_i unchanged
      have windows := quiet (by simpa using unchanged)
      refine h.mono ?_ ?_ switchWindows_armed
      · simp [overlayVisible, renderer]
      · simp [HasWork, windows]
  · exact h

/-! Starting and stopping. -/

/-- The renderer that draws nothing does not wait for the blank, so no start breaks off. -/
theorem activate_headless (enumerate : List WindowId → List WindowId) :
    ∃ frame, c.activate enumerate =
      (({ c with frame := frame } : Compositor δ HeadlessRenderer).enable
        enumerate).performCompositing :=
  ⟨_, rfl⟩

theorem setup_awake (distinct : c.windows.Distinct) (calm : c.windows.Calm) (h : c.Awake) :
    c.setup.Awake := by
  have acquired := acquire_evolves (c := { c with phase := .starting }) distinct
  rcases c.setup_cases with ⟨_, e⟩ | ⟨off, e⟩ | ⟨_, e⟩ | ⟨_, _, _, e⟩
  · rw [e]
    exact h
  · rw [e]
    exact awake_of_no_scene off
  · rw [e]
    exact awake_of_no_scene (by simp)
  · obtain ⟨frame, e'⟩ := activate_headless
      (c := ({ c with phase := .starting } : Compositor δ HeadlessRenderer).acquire.2) id
    have enabled := enable_evolves (c := { ({ c with phase := .starting } :
      Compositor δ HeadlessRenderer).acquire.2 with frame := frame }) acquired.distinct
    rw [e, e']
    exact performCompositing_awake (enabled.calm (acquired.calm calm))

theorem finish_awake : c.finish.Awake := awake_of_no_scene c.finish_frame.1

/-! The steps. -/

/-- The windows are distinct and await no reply, and no wake-up is lost. -/
structure Alive (c : Compositor δ HeadlessRenderer) : Prop where
  distinct : c.windows.Distinct
  calm : c.windows.Calm
  awake : c.Awake

omit [DisplayServer δ] in
theorem Alive.evolve (h : c.Alive) (evolved : c.windows.Evolves c'.windows) (awake : c'.Awake) :
    c'.Alive :=
  ⟨evolved.distinct, evolved.calm h.calm, awake⟩

theorem damaged_alive (id : WindowId) (h : c.Alive) :
    (c.handleDisplayEvent (.damaged id)).Alive := by
  refine h.evolve (damaged_evolves id h.distinct) ?_
  rcases c.damaged_cases id with ⟨_, e⟩ | ⟨w, _, _, e⟩
  · rw [e]
    exact h.awake
  · rw [e]
    exact scheduleRepaint_alert.awake

theorem finish_alive (h : c.Alive) : c.finish.Alive :=
  h.evolve (finish_evolves h.distinct) finish_awake

theorem dispatchDisplayEvents_alive (h : c.Alive) : c.dispatchDisplayEvents.2.Alive := by
  have start : Alive { c with display := (DisplayServer.takeEvents c.display).2 } :=
    ⟨h.distinct, h.calm, h.awake⟩
  refine dispatch_induction (Q := fun _ c => c.Alive) start ?_
  intro e rest c alive
  cases e with
  | damaged id => exact damaged_alive id alive
  | selectionCleared =>
    rcases c.selectionCleared_cases with e | e
    · rw [e]
      exact alive
    · have kept : Alive { c with selection? := none } := ⟨alive.distinct, alive.calm, alive.awake⟩
      rw [e]
      exact finish_alive kept

omit [DisplayServer δ] in
theorem discardPlaceholder_awake (id : WindowId) (h : c.Awake) :
    (c.discardPlaceholder id).2.Awake := by
  rcases c.discardPlaceholder_cases id with e | ⟨w, r, _, _, _, e⟩
  · rw [e]
    exact h
  · rw [e]
    exact (addRepaint_alert _).awake

omit [DisplayServer δ] in
theorem setGeometry_awake (id : WindowId) (geometry : Rect) (h : c.Awake) :
    (c.setGeometry id geometry).Awake := by
  rcases c.setGeometry_cases id geometry with e | ⟨old, w, r, _, _, _, e⟩
  · rw [e]
    exact h
  · rw [e]
    exact ((addRepaint_alert _).checkBypass true).awake

omit [DisplayServer δ] in
/-- A window changes and brings no work. -/
theorem modify_awake (id : WindowId) {f : Toplevel → Toplevel}
    (work : ∀ w, (f w).HasWork → w.HasWork) (h : c.Awake) :
    Awake { c with windows := c.windows.modify id f } := by
  refine h.mono (fun visible => visible) ?_ (fun armed => armed)
  rintro (repaints | ⟨v, hv, busy⟩)
  · exact Or.inl repaints
  · rcases mem_modify.mp hv with ⟨w, hw, _, rfl⟩ | ⟨hv, _⟩
    · exact Or.inr ⟨w, hw, work w busy⟩
    · exact Or.inr ⟨v, hv, busy⟩

theorem setOverlayVisible_awake (visible : Bool) (h : c.Awake) :
    (c.setOverlayVisible visible).Awake := by
  rcases c.setOverlayVisible_cases visible with ⟨_, e⟩ | ⟨_, _, e⟩ | ⟨_, _, e⟩
  · rw [e]
    exact h
  · rw [e]
    exact addRepaintFull_alert.awake
  · rw [e]
    intro shown
    have hidden : Renderer.overlayVisible (Renderer.setOverlayVisible false c.renderer) = false :=
      rfl
    simp [overlayVisible, hidden] at shown

/-- All steps but the four that are looked at one by one. -/
theorem alive_preserved : Preserved fun c : Compositor δ HeadlessRenderer => c.Alive where
  still := fun h same armed =>
    ⟨same.windows ▸ h.distinct, same.windows ▸ h.calm,
      h.awake.mono (same.overlayVisible ▸ id) same.hasWork.mp armed⟩
  frame := fun {c c'} h same => by
    have distinct : c'.windows.Distinct := same.windows ▸ h.distinct
    have calm : c'.windows.Calm := same.windows ▸ h.calm
    have evolved := performCompositing_evolves distinct
    exact ⟨evolved.distinct, evolved.calm calm, performCompositing_awake calm⟩
  addRepaint := fun g h => ⟨by simpa using h.distinct, by simpa using h.calm,
    (addRepaint_alert g).awake⟩
  addRepaintFull := fun h => ⟨by simpa using h.distinct, by simpa using h.calm,
    addRepaintFull_alert.awake⟩
  sweepSupport := fun busy h => by
    refine ⟨h.distinct, h.calm, h.awake.mono id id fun armed => ?_⟩
    cases busy with
    | true => exact Timers.isArmed_start.mpr (Or.inr armed)
    | false => exact armed
  bypassPass := fun h =>
    h.evolve (bypassPass_evolves h.distinct) (bypassPass_awake h.distinct h.awake)
  setup := fun h => h.evolve (setup_evolves h.distinct) (setup_awake h.distinct h.calm h.awake)
  finish := finish_alive
  discardPlaceholder := fun id h =>
    h.evolve (discardPlaceholder_evolves id h.distinct) (discardPlaceholder_awake id h.awake)
  setGeometry := fun id geometry h =>
    h.evolve (setGeometry_evolves id geometry h.distinct) (setGeometry_awake id geometry h.awake)
  restack := fun order h => by
    refine h.evolve ?_ addRepaintFull_alert.awake
    simpa using Evolves.restack h.distinct order
  reshape := fun id f same _ h => by
    have work (w : Toplevel) := ((same w).2.hasWork (same w).1.dirty).mp
    refine h.evolve ?_ (modify_awake id work h.awake)
    exact Evolves.modify h.distinct id (fun w _ _ => (same w).1.kept)
      fun w _ _ free => (same w).1.awaited.trans free
  retouch := fun id f same _ h => by
    refine h.evolve ?_ scheduleRepaint_alert.awake
    simpa using Evolves.modify h.distinct id (fun w _ _ => (same w).kept)
      fun w _ _ free => (same w).awaited.trans free
  damaged := damaged_alive
  dispatch := dispatchDisplayEvents_alive
  setOverlayVisible := fun {c} visible h => by
    refine h.evolve ?_ (setOverlayVisible_awake visible h.awake)
    rcases c.setOverlayVisible_cases visible with ⟨_, e⟩ | ⟨_, _, e⟩ | ⟨_, _, e⟩
    · rw [e]
      exact Evolves.refl h.distinct
    · rw [e]
      simpa using Evolves.refl h.distinct
    · rw [e]
      exact Evolves.refl h.distinct

/-! Windows that come, go and change their state. -/

theorem addWindow_alive {w : Toplevel} (fresh : w.Fresh) (h : c.Alive) : (c.addWindow w).Alive := by
  rcases c.addWindow_cases w with ⟨_, e⟩ | ⟨unknown, e⟩
  · rw [e]
    exact h
  · have entered : ((c.entered w).checkBypass true).scheduleRepaint.Alive :=
      ⟨by simpa using entered_distinct unknown h.distinct,
        by simpa using entered_calm fresh.blank.2.1 h.calm, scheduleRepaint_alert.awake⟩
    rw [e]
    split
    · exact alive_preserved.blockFor w.id entered
    · exact entered

theorem removeWindow_alive (id : WindowId) (keepPlaceholder : Bool) (h : c.Alive) :
    (c.removeWindow id keepPlaceholder).2.Alive := by
  rcases c.removeWindow_cases id keepPlaceholder with ⟨_, e⟩ | ⟨w, found, _, e⟩
  · rw [e]
    exact h
  · have free := h.calm w (mem_of_get? found).1
    have left : ((c.left w keepPlaceholder).addRepaint (Region.ofRect w.geometry)).Alive :=
      ⟨by simpa using left_distinct w keepPlaceholder h.distinct,
        by simpa using left_calm free keepPlaceholder h.calm, (addRepaint_alert _).awake⟩
    have asked := alive_preserved.checkBypass true left
    rw [e]
    split
    · exact alive_preserved.unblock asked
    · exact asked

theorem setClientState_alive (id : WindowId) (state : ClientState) (h : c.Alive) :
    (c.setClientState id state).2.Alive := by
  rcases c.setClientState_cases id state with e | ⟨w, old, _, _, e⟩
  · rw [e]
    exact h
  · have restated : (c.restated id state).Alive :=
      ⟨h.distinct.modify fun _ _ same => same, restated_calm id state h.calm,
        modify_awake id (fun _ busy => busy) h.awake⟩
    have asked := alive_preserved.checkBypass false restated
    rw [e]
    split
    · exact alive_preserved.blockFor id asked
    · split
      · exact alive_preserved.unblock asked
      · exact asked

/-- What others do to the server changes nothing of this. -/
theorem step_alive {ω : Type} (server : ω → δ → δ) {k : Step ω} (fresh : k.AddsFresh)
    (h : c.Alive) : (c.step ⟨server, fun _ r => r⟩ k).Alive := by
  by_cases inner : k.Inner
  · exact alive_preserved.step _ inner h
  · cases k with
    | addWindow w => exact addWindow_alive fresh h
    | removeWindow id keepPlaceholder => exact removeWindow_alive id keepPlaceholder h
    | setClientState id state => exact setClientState_alive id state h
    | outside o => exact ⟨h.distinct, h.calm, h.awake⟩
    | _ => exact (inner trivial).elim

omit [DisplayServer δ] in
theorem new_alive (d : δ) (r : HeadlessRenderer) (options : CompositingOptions) :
    (Compositor.new d r options).Alive :=
  ⟨List.nodup_nil, by simp [Calm, Compositor.new, WindowStack.empty], awake_of_no_scene rfl⟩

theorem run_alive {ω : Type} (server : ω → δ → δ) (d : δ) (r : HeadlessRenderer)
    (options : CompositingOptions) {steps : List (Step ω)} (fresh : ∀ k ∈ steps, k.AddsFresh) :
    ((Compositor.new d r options).run ⟨server, fun _ r => r⟩ steps).Alive := by
  exact run_preserves _ (P := Alive) (fun c k adds h => step_alive server adds h)
    (new_alive d r options) fresh

/-- In every reachable compositor: what waits in a damage object was reported, and the report
is still to be handled or has marked its window; and whenever a visible overlay has something to
paint, or a window has damage to fetch, the repaint timer is armed. -/
theorem wake_up_never_lost {ω : Type} (change : ω → DisplayChange) (offers : List Extension)
    (layout : Layout) (r : HeadlessRenderer) (options : CompositingOptions)
    {steps : List (Step ω)} (fresh : ∀ k ∈ steps, k.AddsFresh)
    {c : Compositor HeadlessDisplay HeadlessRenderer}
    (reached : c = (Compositor.new (.new offers layout) r options).run
      (DisplayChange.world change fun _ r => r) steps)
    (left : c.display.damagesCreated + c.display.fetchRequests < UInt32.size - 1) :
    (∀ o ∈ c.display.damages, o.pending.isEmpty = false →
      .damaged o.window ∈ c.display.events ∨
        ∃ w ∈ c.windows.windows, w.id = o.window ∧ w.isDamaged = true) ∧
      (c.hasScene = true → Renderer.overlayVisible c.renderer = true →
        (c.repaints.isEmpty = false ∨
          ∃ w ∈ c.windows.windows, w.hasPendingRepaints = true ∨ w.isDamaged = true) →
        c.timers.isArmed .repaint = true) := by
  have alive : c.Alive := reached ▸ run_alive _ _ r options fresh
  have sound : Sound offers [] (auditedRun change (fun _ r => r) offers layout r options steps) :=
    (auditedRun_sound change _ layout r options fresh).1
  have same := auditedRun_erase change (fun _ r => r) offers layout r options steps
  rw [← reached] at same
  subst same
  refine ⟨(sound.booked.books left).announced, fun scene visible work => ?_⟩
  exact alive.awake (by simp [overlayVisible, scene, visible]) work

/-- A window is drawn to again after the first report was handled. The server does not report
it, since the object was not empty. -/
def redrawnSteps : List (Step DisplayChange) :=
  [.addWindow (.client ⟨1⟩ (.ofCoords 0 0 10 10) ⟨true, false, false⟩), .setup,
    .outside (.reportDamage ⟨1⟩ [.ofCoords 0 0 5 5]), .dispatchDisplayEvents,
    .outside (.reportDamage ⟨1⟩ [.ofCoords 5 5 5 5])]

def redrawn : Compositor HeadlessDisplay HeadlessRenderer :=
  (Compositor.new (.new Extension.all (.single 1920 1080)) (.new ⟨1⟩ fun _ => 0)
    CompositingOptions.standard).run (DisplayChange.world id fun _ r => r) redrawnSteps

/-- The window is marked by the first report, and the timer is armed for it. -/
theorem redrawn_awake :
    redrawn.display.events = [] ∧
      (∃ w ∈ redrawn.windows.windows, w.id = ⟨1⟩ ∧ w.isDamaged = true) ∧
      redrawn.timers.isArmed .repaint = true := by
  have fresh : ∀ k ∈ redrawnSteps, k.AddsFresh := by
    simp [redrawnSteps, Step.AddsFresh]
  have left : redrawn.display.damagesCreated + redrawn.display.fetchRequests < UInt32.size - 1 := by
    have few : redrawn.display.damagesCreated + redrawn.display.fetchRequests = 1 := rfl
    rw [few]
    decide
  obtain ⟨announced, armed⟩ := wake_up_never_lost id Extension.all (.single 1920 1080)
    (HeadlessRenderer.new ⟨1⟩ fun _ => 0) CompositingOptions.standard fresh (c := redrawn) rfl left
  have waits : (⟨⟨1⟩, ⟨1⟩, ⟨[.ofCoords 0 0 5 5, .ofCoords 5 5 5 5]⟩⟩ : DamageObject) ∈
      redrawn.display.damages := List.mem_singleton.mpr rfl
  have quiet : redrawn.display.events = [] := rfl
  have marked : ∃ w ∈ redrawn.windows.windows, w.id = ⟨1⟩ ∧ w.isDamaged = true := by
    simpa [quiet] using announced _ waits rfl
  refine ⟨quiet, marked, ?_⟩
  obtain ⟨w, hw, _, dirty⟩ := marked
  exact armed rfl rfl (Or.inr ⟨w, hw, Or.inr dirty⟩)

end Compositor

end Compositing
