import Compositing.Proofs.Fetching
import Compositing.Proofs.Overlap

/-!
# What a run makes of its server

A property of servers holds at every moment of a run if no single request breaks it, those about
fetching damage apart, and if no frame does. Frames are asked for it as a whole, since what they
ask of the server makes sense only in order, and since between two calls no reply is awaited.
-/

namespace Compositing

open WindowStack (visit_induction)

variable {ω δ σ : Type} [DisplayServer δ] [Renderer σ] {I : δ → Prop}

/-- No request breaks the property, those about fetching damage apart. -/
structure DisplayServer.Upholds (I : δ → Prop) : Prop where
  claimSelection : ∀ s {d}, I d → I (DisplayServer.claimSelection s d).2
  releaseSelection : ∀ s {d}, I d → I (DisplayServer.releaseSelection s d)
  redirectSubwindows : ∀ {d}, I d → I (DisplayServer.redirectSubwindows d).2
  unredirectSubwindows : ∀ {d}, I d → I (DisplayServer.unredirectSubwindows d)
  redirectWindow : ∀ w {d}, I d → I (DisplayServer.redirectWindow w d)
  unredirectWindow : ∀ w {d}, I d → I (DisplayServer.unredirectWindow w d)
  createDamage : ∀ w {d}, I d → I (DisplayServer.createDamage w d).2
  destroyDamage : ∀ h {d}, I d → I (DisplayServer.destroyDamage h d)
  deleteRootProperty : ∀ a {d}, I d → I (DisplayServer.deleteRootProperty a d)
  setOpacity : ∀ w o {d}, I d → I (DisplayServer.setOpacity w o d)
  takeEvents : ∀ {d}, I d → I (DisplayServer.takeEvents d).2

/-- No frame over windows that await no reply breaks the property. -/
def DisplayServer.UpheldByFrames (I : δ → Prop) : Prop :=
  ∀ (windows : List Toplevel) (d : δ), I d → I (harvest windows d).2

namespace Compositor

structure Served (I : δ → Prop) (c : Compositor δ σ) : Prop where
  distinct : c.windows.Distinct
  calm : c.windows.Calm
  server : I c.display

variable {c c' : Compositor δ σ} (upholds : DisplayServer.Upholds I)

omit [DisplayServer δ] [Renderer σ] in
theorem Served.of_evolves (h : c.Served I) (evolved : c.windows.Evolves c'.windows)
    (server : I c'.display) : c'.Served I :=
  ⟨evolved.distinct, evolved.calm h.calm, server⟩

omit [DisplayServer δ] [Renderer σ] in
theorem Served.of_eq (h : c.Served I) (windows : c'.windows = c.windows)
    (display : c'.display = c.display) : c'.Served I where
  distinct := windows ▸ h.distinct
  calm := windows ▸ h.calm
  server := display ▸ h.server

omit [DisplayServer δ] [Renderer σ] in
/-- What no turn breaks, a visit does not. -/
theorem visit_upholds {τ : Type} (view : τ → δ) {f : Toplevel → τ → Toplevel × τ}
    (turn : ∀ w t, I (view t) → I (view (f w t).2)) (ids : List WindowId) (s : WindowStack) {t : τ}
    (h : I (view t)) : I (view (s.visit ids f t).2) := by
  let P : List WindowId → WindowStack → τ → Prop := fun _ _ t => I (view t)
  have start : P ids s t := h
  exact visit_induction start (fun _ _ _ _ _ h => h) fun _ _ _ t w _ h => turn w t h

/-! The turns of a window. -/

include upholds

theorem trackStep_upholds (w : Toplevel) {t : δ × σ} (h : I t.1) : I (trackStep w t).2.1 := by
  have asked := upholds.createDamage w.id h
  refine trackStep_induction (P := fun _ d _ => I d) w t h (fun _ _ refused => ?_)
    fun _ _ _ made => ?_
  · rwa [refused] at asked
  · rwa [made] at asked

/-- A window that awaits no reply has none to be dropped. -/
theorem untrackStep_upholds {w : Toplevel} (free : w.pendingFetch? = none) {t : δ × σ}
    (h : I t.1) : I (untrackStep w t).2.1 := by
  refine untrackStep_induction (P := fun _ d _ => I d) w t (fun _ => h) fun handle d dropped => ?_
  rcases dropped with ⟨_, rfl⟩ | ⟨_, awaited, _⟩
  · exact upholds.destroyDamage handle h
  · simp [free] at awaited

theorem bypassStep_upholds (now : Nanos) (eligible : List WindowId) (w : Toplevel)
    {p : BypassPass δ σ} (h : I p.display) : I (bypassStep now eligible w p).2.display :=
  bypassStep_induction (P := fun _ d _ => I d) now eligible w p h
    (upholds.unredirectWindow w.id h) (upholds.redirectWindow w.id h)

theorem entering_upholds (w : Toplevel) (h : I c.display) : I (c.entering w).2.1 := by
  rw [entering]
  split
  · exact trackStep_upholds upholds w (t := (c.display, c.renderer)) h
  · exact h

theorem leaving_upholds {w : Toplevel} (free : w.pendingFetch? = none) (stays : Bool)
    (h : I c.display) : I (c.leaving w stays).2.1 := by
  rw [leaving]
  split
  · exact untrackStep_upholds upholds free
      (t := (c.display, Renderer.windowClosed w.id stays c.renderer)) h
  · exact h

/-! The steps. -/

omit upholds in
theorem performCompositing_served (frames : DisplayServer.UpheldByFrames I) (h : c.Served I) :
    c.performCompositing.Served I := by
  refine h.of_evolves (performCompositing_evolves h.distinct) ?_
  have fetched : I c.fetchDamage.display := by
    rw [fetchDamage_eq h.distinct h.calm]
    exact frames c.windows.windows c.display h.server
  rw [performCompositing]
  split
  · dsimp only
    split
    · exact fetched
    · simpa using fetched
  · exact h.server

theorem bypassPass_served (h : c.Served I) : c.bypassPass.Served I := by
  refine h.of_evolves (bypassPass_evolves h.distinct) ?_
  have switched : I c.switchWindows.2.display :=
    visit_upholds (fun p : BypassPass δ σ => p.display)
      (fun w _ h => bypassStep_upholds upholds c.timers.now c.chosen w h) c.candidates c.windows
      (t := ⟨c.bypass, c.display, c.renderer, false, false⟩) h.server
  rw [bypassPass_eq]
  split
  · split
    · simpa using switched
    · exact switched
  · exact h.server

omit [Renderer σ] in
theorem releaseSelection_upholds (h : I c.display) : I c.releaseSelection.display := by
  rw [releaseSelection]
  split
  · exact h
  · exact upholds.releaseSelection _ h

theorem acquire_upholds (h : I c.display) : I c.acquire.2.display := by
  have claimed : I c.claimed := upholds.claimSelection _ h
  obtain ⟨d, r, scene, selection, s, shape, server, _⟩ := c.acquire_shape
  rw [shape]
  rcases server with rfl | rfl
  · exact claimed
  · exact upholds.redirectSubwindows claimed

theorem enable_upholds (h : I c.display) : I (c.enable id).display := by
  have tracked : I (c.scheduleRepaint.addRepaintFull.visitWindows trackStep
      c.scheduleRepaint.addRepaintFull.windows.ids).display :=
    visit_upholds (fun t : δ × σ => t.1) (fun w _ h => trackStep_upholds upholds w h) _ _
      (t := (c.scheduleRepaint.addRepaintFull.display, c.scheduleRepaint.addRepaintFull.renderer))
      (by simpa using h)
  simpa [enable] using tracked

theorem setup_served (frames : DisplayServer.UpheldByFrames I) (h : c.Served I) :
    c.setup.Served I := by
  have acquired := acquire_upholds upholds (c := { c with phase := .starting }) h.server
  have evolved := acquire_evolves (c := { c with phase := .starting }) h.distinct
  rcases c.setup_cases with ⟨_, e⟩ | ⟨_, e⟩ | ⟨_, e⟩ | ⟨_, _, _, e⟩
  · rw [e]
    exact h
  · rw [e]
    exact h.of_eq rfl rfl
  · refine h.of_evolves (setup_evolves h.distinct) ?_
    rw [e]
    exact releaseSelection_upholds upholds acquired
  · rcases ({ c with phase := .starting } : Compositor δ σ).acquire.2.activate_cases id with
      ⟨fault, e'⟩ | ⟨frame, e'⟩
    · refine h.of_evolves (setup_evolves h.distinct) ?_
      rw [e, e']
      exact acquired
    · have enabled := enable_evolves (c := { ({ c with phase := .starting } :
        Compositor δ σ).acquire.2 with frame := frame }) evolved.distinct
      have ready : Served I ({ ({ c with phase := .starting } :
          Compositor δ σ).acquire.2 with frame := frame } : Compositor δ σ) :=
        ⟨evolved.distinct, evolved.calm h.calm, acquired⟩
      rw [e, e']
      exact performCompositing_served frames
        (ready.of_evolves enabled (enable_upholds upholds acquired))

theorem finish_served (h : c.Served I) : c.finish.Served I := by
  refine h.of_evolves (finish_evolves h.distinct) ?_
  -- until its turn comes a window awaits no reply, and afterwards it is not tracked
  have released (r : σ) : I (c.windows.visit c.windows.ids untrackStep (c.display, r)).2.1 := by
    let P : List WindowId → WindowStack → δ × σ → Prop := fun _ s t => s.Calm ∧ I t.1
    have start : P c.windows.ids c.windows (c.display, r) := ⟨h.calm, h.server⟩
    refine (visit_induction start (fun _ _ _ _ _ h => h) ?_).2
    rintro id rest s t w found ⟨calm, server⟩
    have free := calm w (WindowStack.mem_of_get? found).1
    refine ⟨fun v hv => ?_, untrackStep_upholds upholds free server⟩
    rcases (WindowStack.mem_replace found).mp hv with rfl | ⟨hv, _⟩
    · exact untrackStep_calm w t free
    · exact calm v hv
  have forwarded (windows : List Toplevel) {d : δ} (h : I d) :
      I (windows.foldl forwardOpacity d) := by
    induction windows generalizing d with
    | nil => exact h
    | cons w rest ih =>
      refine ih ?_
      rw [forwardOpacity]
      split
      · exact upholds.setOpacity w.id w.opacity h
      · exact h
  rw [finish, finishBy]
  split
  · refine releaseSelection_upholds upholds ?_
    exact forwarded _ (upholds.unredirectSubwindows (released _))
  · exact h.server

omit [Renderer σ] in
theorem sweepSupport_served (busy : Bool) (h : c.Served I) : (c.sweepSupport busy).Served I := by
  have deleted (properties : List Atom) {d : δ} (h : I d) :
      I (properties.foldl (fun d a => DisplayServer.deleteRootProperty a d) d) := by
    induction properties generalizing d with
    | nil => exact h
    | cons a rest ih => exact ih (upholds.deleteRootProperty a h)
  refine ⟨h.distinct, h.calm, ?_⟩
  cases busy with
  | true => exact h.server
  | false => exact deleted c.support.pending h.server

theorem handleDisplayEvent_served (e : DisplayEvent) (h : c.Served I) :
    (c.handleDisplayEvent e).Served I := by
  cases e with
  | damaged id =>
    refine h.of_evolves (damaged_evolves id h.distinct) ?_
    rcases c.damaged_cases id with ⟨_, e⟩ | ⟨w, _, _, e⟩
    · rw [e]
      exact h.server
    · rw [e]
      simpa using h.server
  | selectionCleared =>
    rcases c.selectionCleared_cases with e | e
    · rw [e]
      exact h
    · rw [e]
      exact finish_served upholds (h.of_eq rfl rfl)

theorem served_preserved (frames : DisplayServer.UpheldByFrames I) :
    Preserved fun c : Compositor δ σ => c.Served I where
  still := fun h same _ => h.of_eq same.windows same.display
  frame := fun h same => performCompositing_served frames (h.of_eq same.windows same.display)
  addRepaint := fun g h => h.of_eq (by simp) (by simp)
  addRepaintFull := fun h => h.of_eq (by simp) (by simp)
  sweepSupport := fun busy h => sweepSupport_served upholds busy h
  bypassPass := fun h => bypassPass_served upholds h
  setup := fun h => setup_served upholds frames h
  finish := fun h => finish_served upholds h
  discardPlaceholder := fun {c} id h => by
    refine h.of_evolves (discardPlaceholder_evolves id h.distinct) ?_
    rcases c.discardPlaceholder_cases id with e | ⟨w, r, _, _, _, e⟩
    · rw [e]
      exact h.server
    · rw [e]
      simpa using h.server
  setGeometry := fun {c} id geometry h => by
    refine h.of_evolves (setGeometry_evolves id geometry h.distinct) ?_
    rcases c.setGeometry_cases id geometry with e | ⟨old, w, r, _, _, _, e⟩
    · rw [e]
      exact h.server
    · rw [e]
      simpa using h.server
  restack := fun {c} order h => by
    refine h.of_evolves ?_ (by simpa using h.server)
    exact (evolves_preserved h.distinct).restack order (WindowStack.Evolves.refl h.distinct)
  reshape := fun id f same intact h =>
    h.of_evolves ((evolves_preserved (δ := δ) (σ := σ) h.distinct).reshape id same intact
      (WindowStack.Evolves.refl h.distinct)) h.server
  retouch := fun id f same intact h =>
    h.of_evolves ((evolves_preserved h.distinct).retouch id same intact
      (WindowStack.Evolves.refl h.distinct)) (by simpa using h.server)
  damaged := fun id h => handleDisplayEvent_served upholds (.damaged id) h
  dispatch := fun {c} h => by
    have taken : Served I { c with display := (DisplayServer.takeEvents c.display).2 } :=
      ⟨h.distinct, h.calm, upholds.takeEvents h.server⟩
    exact dispatch_induction (Q := fun _ c => c.Served I) taken
      fun e _ _ h => handleDisplayEvent_served upholds e h
  setOverlayVisible := fun {c} visible h => by
    rcases c.setOverlayVisible_cases visible with ⟨_, e⟩ | ⟨_, _, e⟩ | ⟨_, _, e⟩
    · rw [e]
      exact h
    · rw [e]
      exact h.of_eq (by simp) (by simp)
    · rw [e]
      exact h.of_eq rfl rfl

/-- What others do must not break the property either. -/
theorem step_served (frames : DisplayServer.UpheldByFrames I) (W : World ω δ σ)
    (others : ∀ o {d}, I d → I (W.display o d)) {k : Step ω} (fresh : k.AddsFresh)
    (h : c.Served I) : (c.step W k).Served I := by
  refine ⟨step_distinct W k h.distinct, step_calm W fresh h.distinct h.calm, ?_⟩
  by_cases inner : k.Inner
  · exact ((served_preserved upholds frames).step W inner h).server
  · cases k with
    | addWindow w =>
      rcases c.addWindow_cases w with ⟨_, e⟩ | ⟨_, e⟩
      · rw [step, e]
        exact h.server
      · have entered : I (c.entered w).display := entering_upholds upholds w h.server
        rw [step, e]
        split <;> simpa using entered
    | removeWindow id keepPlaceholder =>
      rcases c.removeWindow_cases id keepPlaceholder with ⟨_, e⟩ | ⟨w, found, _, e⟩
      · rw [step, e]
        exact h.server
      · have free := h.calm w (WindowStack.mem_of_get? found).1
        have left : I (c.left w keepPlaceholder).display :=
          leaving_upholds upholds free (keepPlaceholder && c.hasScene) h.server
        rw [step, e]
        split <;> simpa using left
    | setClientState id state =>
      have restated : I (c.restated id state).display := h.server
      rcases c.setClientState_cases id state with e | ⟨_, _, _, _, e⟩
      · rw [step, e]
        exact h.server
      · rw [step, e]
        split
        · simpa using restated
        · split <;> simpa using restated
    | outside o => exact others o h.server
    | _ => exact (inner trivial).elim

end Compositor

end Compositing
