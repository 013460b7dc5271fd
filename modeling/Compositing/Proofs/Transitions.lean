import Compositing.Proofs.Moves
import Mathlib.Data.List.Induction

/-!
# Starting, stopping and passes, by what they come to

Starting either leaves everything at rest, or breaks off at a budget that cannot be set up, or
acquires what is needed, tracks the windows and goes on with asides. Stopping takes back what
belongs to a scene. A pass and the coming and going of a window are quiet.
-/

namespace Compositing.Compositor

open WindowStack
open Timers (Touches)

variable {δ σ : Type} [DisplayServer δ] [Renderer σ] (c : Compositor δ σ)

/-! Starting. -/

omit [Renderer σ] in
theorem releaseSelection_eq :
    c.releaseSelection = { c with
      selection? := none
      display := c.selection?.elim c.display fun s =>
        DisplayServer.releaseSelection s c.display } := by
  rw [releaseSelection]
  cases held : c.selection? with
  | none =>
    have same : c = { c with selection? := none } := by rw [← held]
    exact same
  | some s => rfl

/-- What a compositor has acquired. -/
structure Acquires (c a : Compositor δ σ) (d : δ) (r : σ) : Prop where
  claims : ∃ d', DisplayServer.claimSelection
      (selectionName (DisplayServer.screenNumber c.display)) c.display = (.ok (), d') ∧
    Renderer.start c.options.backend (DisplayServer.layout d') (DisplayServer.refreshRate? d')
      c.renderer = (.ok (), r) ∧
    DisplayServer.redirectSubwindows d' = (.ok (), d)
  shape : a = { c with
    display := d
    renderer := r
    hasScene := true
    selection? := some (selectionName (DisplayServer.screenNumber c.display))
    windows := c.windows.discardPlaceholders }

theorem acquire_ok (acquired : c.acquire.1 = .ok ()) : ∃ d r, Acquires c c.acquire.2 d r := by
  revert acquired
  rw [acquire]
  rcases claimed : DisplayServer.claimSelection _ c.display with ⟨e | ⟨⟩, d'⟩
  · simp
  · dsimp only
    rcases started : Renderer.start c.options.backend (DisplayServer.layout d')
      (DisplayServer.refreshRate? d') c.renderer with ⟨e | ⟨⟩, r⟩
    · simp
    · dsimp only
      rcases redirected : DisplayServer.redirectSubwindows d' with ⟨e | ⟨⟩, d⟩
      · simp
      · exact fun _ => ⟨d, r, ⟨d', claimed, started, redirected⟩, rfl⟩

theorem Acquires.steady {c a : Compositor δ σ} {d : δ} {r : σ} (h : Acquires c a d r) {α : Type}
    {view : δ → α} (steady : DisplayServer.Steady view) : view d = view c.display := by
  obtain ⟨d', claimed, _, redirected⟩ := h.claims
  have first :=
    steady.claimSelection (selectionName (DisplayServer.screenNumber c.display)) c.display
  have second := steady.redirectSubwindows d'
  rw [claimed] at first
  rw [redirected] at second
  exact second.trans first

theorem acquire_steady {α : Type} {view : δ → α} (steady : DisplayServer.Steady view) :
    view c.acquire.2.display = view c.display := by
  obtain ⟨d, r, scene, selection, s, shape, display, _⟩ := c.acquire_shape
  have claimed : view c.claimed = view c.display := steady.claimSelection _ _
  rw [shape]
  rcases display with rfl | rfl
  · exact claimed
  · exact (steady.redirectSubwindows _).trans claimed

/-- A start that fails leaves the compositor inactive, without the selection and maybe without
its placeholders. -/
theorem setup_undone :
    ∃ d r s, { ({ ({ c with phase := .starting } : Compositor δ σ).acquire.2 with
          hasScene := false }).releaseSelection with phase := .inactive } =
        { c with
          display := d, renderer := r, hasScene := false, phase := .inactive, windows := s,
          selection? := none } ∧
      (s = c.windows ∨ s = c.windows.discardPlaceholders) ∧
      ∀ {α : Type} {view : δ → α}, DisplayServer.Steady view → view d = view c.display := by
  let a := ({ c with phase := .starting } : Compositor δ σ).acquire.2
  obtain ⟨d, r, scene, selection, s, shape, _, stack, _⟩ :=
    ({ c with phase := .starting } : Compositor δ σ).acquire_shape
  have released := ({ a with hasScene := false } : Compositor δ σ).releaseSelection_eq
  refine ⟨a.selection?.elim a.display fun s => DisplayServer.releaseSelection s a.display, r, s,
    ?_, stack, ?_⟩
  · rw [released, show a = _ from shape]
  · intro α view steady
    refine Eq.trans ?_ (acquire_steady { c with phase := .starting } steady)
    cases a.selection? with
    | none => rfl
    | some s => exact steady.releaseSelection s a.display

theorem trackStep_lasting {α : Type} {view : δ → α} (lasting : DisplayServer.Lasting view)
    (w : Toplevel) (t : δ × σ) : view (trackStep w t).2.1 = view t.1 := by
  have asked := lasting.createDamage w.id t.1
  refine trackStep_induction (P := fun _ d _ => view d = view t.1) w t rfl
    (fun _ _ refused => ?_) fun _ _ _ made => ?_
  · rwa [refused] at asked
  · rwa [made] at asked

theorem trackStep_shown {α : Type} {view : σ → α} (shown : Renderer.Shown view) (w : Toplevel)
    (t : δ × σ) : view (trackStep w t).2.2 = view t.2 :=
  trackStep_induction (P := fun _ _ r => view r = view t.2) w t rfl (fun _ _ _ => rfl)
    fun _ _ _ _ => shown.windowAdded w.id t.2

/-- Becoming active comes to tracking the windows and some asides. -/
theorem enable_aside (scene : c.hasScene = true) :
    ∃ b, Aside (c.visitWindows trackStep c.windows.ids) b ∧ c.enable id =
      ({ b.checkBypass true with phase := .active } : Compositor δ σ).emit (.toggled true) := by
  obtain ⟨t, g, painted, touches⟩ : ∃ t g, c.scheduleRepaint.addRepaintFull =
      { c with timers := t, repaints := g } ∧ Touches [.repaint] c.timers t := by
    refine ⟨_, Region.ofRect (DisplayServer.layout c.display).full, ?_,
      (Timers.touches_schedule c.frame c.timers).trans (Timers.touches_schedule c.frame _)⟩
    simp [addRepaintFull, scheduleRepaint, scene]
  have arranged : Aside (c.visitWindows trackStep c.windows.ids)
      (({ c with timers := t, repaints := g } : Compositor δ σ).visitWindows trackStep
        c.windows.ids) :=
    Aside.of_touches touches (by simp) (Or.inl (by simp)) (by simp [scene]) Keeps.refl
      (fun _ => rfl) (fun _ => rfl)
  refine ⟨_, arranged, ?_⟩
  rw [enable, painted]
  rfl

/-- A compositor that has started has acquired what it needs, and what followed came to tracking
the windows and some asides. -/
theorem setup_begins (off : c.hasScene = false) (on : c.setup.hasScene = true)
    (sound : c.setup.fault? = none) :
    c.suspended.isEmpty = true ∧ c.isPossible = true ∧ ∃ a d r frame b,
      Acquires ({ c with phase := .starting } : Compositor δ σ) a d r ∧
      Aside (({ a with frame := frame } : Compositor δ σ).visitWindows trackStep a.windows.ids) b ∧
      Aside (({ b.checkBypass true with phase := .active } : Compositor δ σ).emit
        (.toggled true)) c.setup := by
  have free : c.suspended.isEmpty = true := by
    by_contra held
    have held : c.suspended.isEmpty = false := by simpa using held
    have same : c.setup = { c with phase := .inactive } := by
      rw [setup, setupBy, if_neg (by simp [off]), if_pos (by simp [held])]
    rw [same] at on
    simp [off] at on
  refine ⟨free, ?_⟩
  rcases c.setup_cases with ⟨scene, _⟩ | ⟨_, e⟩ | ⟨_, e⟩ | ⟨_, possible, acquired, e⟩
  · simp [off] at scene
  · rw [e] at on
    simp [off] at on
  · rw [e] at on
    simp at on
  · refine ⟨possible, ?_⟩
    obtain ⟨d, r, a⟩ := ({ c with phase := .starting } : Compositor δ σ).acquire_ok acquired
    rcases ({ c with phase := .starting } : Compositor δ σ).acquire.2.activate_cases id with
      ⟨fault, e'⟩ | ⟨frame, e'⟩
    · rw [e, e'] at sound
      simp at sound
    · have scene : ({ c with phase := .starting } : Compositor δ σ).acquire.2.hasScene = true := by
        rw [a.shape]
      obtain ⟨b, asides, enabled⟩ := ({ ({ c with phase := .starting } : Compositor δ σ).acquire.2
        with frame := frame } : Compositor δ σ).enable_aside scene
      refine ⟨_, d, r, frame, b, a, asides, ?_⟩
      rw [e, e', enabled]
      exact Aside.performCompositing _

/-- A start that leads to no scene. -/
theorem setup_rests (off : c.hasScene = false) (still : c.setup.hasScene = false) :
    ∃ d r s selection, c.setup = { c with
        display := d, renderer := r, phase := .inactive, windows := s, selection? := selection } ∧
      (selection = none ∨ selection = c.selection?) ∧
      (s = c.windows ∨ s = c.windows.discardPlaceholders) ∧
      ∀ {α : Type} {view : δ → α}, DisplayServer.Steady view → view d = view c.display := by
  rcases c.setup_cases with ⟨scene, _⟩ | ⟨_, e⟩ | ⟨_, e⟩ | ⟨_, _, acquired, e⟩
  · simp [off] at scene
  · exact ⟨_, _, _, _, e, Or.inr rfl, Or.inl rfl, fun _ => rfl⟩
  · obtain ⟨d, r, s, undone, stack, same⟩ := c.setup_undone
    refine ⟨d, r, s, none, ?_, Or.inl rfl, stack, same⟩
    rw [e, undone, ← off]
  · obtain ⟨d, r, a⟩ := ({ c with phase := .starting } : Compositor δ σ).acquire_ok acquired
    rw [e, (activate_frame _ id).1, a.shape] at still
    simp at still

/-- A start that breaks off never returns. -/
theorem setup_sound (sound : c.setup.fault? = none) : c.fault? = none := by
  obtain ⟨d, r, scene, selection, s, shape, _⟩ :=
    ({ c with phase := .starting } : Compositor δ σ).acquire_shape
  rcases c.setup_cases with ⟨_, e⟩ | ⟨_, e⟩ | ⟨_, e⟩ | ⟨_, _, _, e⟩
  · rwa [e] at sound
  · rwa [e] at sound
  · rw [e, shape] at sound
    simpa using sound
  · rw [e] at sound
    rcases ({ c with phase := .starting } : Compositor δ σ).acquire.2.activate_cases id with
      ⟨fault, e'⟩ | ⟨frame, e'⟩
    · rw [e'] at sound
      simp at sound
    · rw [e', shape] at sound
      simpa using sound

/-! Stopping. -/

theorem untrackStep_lasting {α : Type} {view : δ → α} (lasting : DisplayServer.Lasting view)
    (w : Toplevel) (t : δ × σ) : view (untrackStep w t).2.1 = view t.1 := by
  refine untrackStep_induction (P := fun _ d _ => view d = view t.1) w t (fun _ => rfl)
    fun handle d dropped => (lasting.destroyDamage handle d).trans ?_
  rcases dropped with ⟨_, rfl⟩ | ⟨fetch, _, rfl⟩
  · rfl
  · exact lasting.discardReply fetch t.1

theorem untrackStep_shown {α : Type} {view : σ → α} (shown : Renderer.Shown view) (w : Toplevel)
    (t : δ × σ) : view (untrackStep w t).2.2 = view t.2 :=
  untrackStep_induction (P := fun _ _ r => view r = view t.2) w t (fun _ => rfl)
    fun _ _ _ => shown.pixmapDiscarded w.id t.2

omit [Renderer σ] in
theorem forwardOpacity_view {α : Type} {view : δ → α}
    (unset : ∀ w o d, view (DisplayServer.setOpacity w o d) = view d)
    (ws : List Toplevel) (d : δ) : view (ws.foldl forwardOpacity d) = view d := by
  induction ws generalizing d with
  | nil => rfl
  | cons w rest ih =>
    refine (ih _).trans ?_
    rw [forwardOpacity]
    split
    · exact unset _ _ _
    · rfl

/-- What stopping takes back, if there is a scene. The windows are let go, then the server draws
none of them directly, and at last the selection is released. -/
theorem finish_scene (scene : c.hasScene = true) :
    ∃ d r s, c.finish = { c with
        hasScene := false
        phase := .inactive
        timers := ((c.timers.stop .repaint).stop .bypassCheck).stop .bypassRetry
        repaints := Region.empty
        bypass := c.bypass.reset
        display := d
        renderer := r
        windows := s
        selection? := none
        events := c.events ++ [.toggled false] } ∧
      (∃ t : δ × σ, s = (c.windows.visit c.windows.ids untrackStep t).1.discardPlaceholders) ∧
      ∃ d₀ d₁, d = c.selection?.elim d₁ (fun s => DisplayServer.releaseSelection s d₁) ∧
        ∀ {α : Type} {view : δ → α}, DisplayServer.Lasting view →
          view d₀ = view c.display ∧
            ((∀ w o d, view (DisplayServer.setOpacity w o d) = view d) →
              view d₁ = view (DisplayServer.unredirectSubwindows d₀)) := by
  let stopped : Compositor δ σ := { ({ c with
      phase := .finishing,
      renderer := c.windows.windows.foldl closeWindow c.renderer }).visitWindows untrackStep
        c.windows.ids with
    hasScene := false }
  let forwarded : δ := stopped.windows.windows.foldl forwardOpacity
    (DisplayServer.unredirectSubwindows stopped.display)
  have released := (({ stopped with
      timers := ((c.timers.stop .repaint).stop .bypassCheck).stop .bypassRetry
      repaints := Region.empty
      bypass := c.bypass.reset
      display := forwarded
      windows := stopped.windows.discardPlaceholders
      phase := .inactive } : Compositor δ σ).emit (.toggled false)).releaseSelection_eq
  refine ⟨_, stopped.renderer, stopped.windows.discardPlaceholders, ?_, ⟨_, rfl⟩,
    stopped.display, forwarded, rfl, fun {α view} lasting => ⟨?_, fun unset => ?_⟩⟩
  · rw [finish, finishBy, if_pos scene]
    exact released
  · exact visit_view (fun t : δ × σ => view t.1) (untrackStep_lasting lasting) c.windows.ids
      c.windows (c.display, c.windows.windows.foldl closeWindow c.renderer)
  · exact forwardOpacity_view unset _ _

theorem finish_of_off (off : c.hasScene = false) : c.finish = c := by
  rw [finish, finishBy, off]
  simp

/-! Passes, and windows that come, go and change their place. -/

theorem bypassStep_id (now : Nanos) (eligible : List WindowId) (w : Toplevel)
    (p : BypassPass δ σ) : (bypassStep now eligible w p).1.id = w.id :=
  bypassStep_induction (P := fun u _ _ => u.id = w.id) now eligible w p rfl rfl
    (Toplevel.addDamageFull_same { w with unredirected := false }).id

omit [DisplayServer δ] [Renderer σ] in
theorem Quiet.popDue {target : Nanos} {id : TimerId} {t : Timers}
    (popped : c.timers.popDue target = some (id, t)) (waits : id ≠ .deferred) :
    Quiet c { c with timers := t } := by
  refine of_touches (d := c.display) (r := c.renderer) (o := c.options) (g := c.repaints)
    (f := c.frame) (s := c.windows) (b := c.bypass) (p := c.support)
    (Timers.touches_popDue popped) (by simpa using Ne.symm waits) fun _ resting => ?_
  refine ⟨fun other needs => ?_, resting.repaints, resting.windows⟩
  by_contra armed
  have before : c.timers.isArmed other = true :=
    Timers.isArmed_of_popDue popped (by simpa using armed)
  simp [resting.timers other needs] at before

omit [DisplayServer δ] [Renderer σ] in
theorem Quiet.goesOff {c c' : Compositor δ σ} {id : TimerId} (h : GoesOff id c c')
    (waits : id ≠ .deferred) : Quiet c c' := by
  rcases h with rfl | ⟨target, t, popped, rfl⟩
  · exact refl c'
  · exact popDue c popped waits

omit [DisplayServer δ] [Renderer σ] in
/-- Changing windows, display and renderer with a scene is quiet. -/
theorem Quiet.with_scene (scene : c.hasScene = true) {touched : List TimerId} {t : Timers}
    (touches : Touches touched c.timers t) (waits : .deferred ∉ touched) (d : δ) (r : σ)
    (s : WindowStack) (b : BypassState) :
    Quiet c { c with display := d, renderer := r, timers := t, windows := s, bypass := b } :=
  of_touches (o := c.options) (g := c.repaints) (f := c.frame) (p := c.support) touches waits
    (by simp [scene])

theorem switchWindows_touches : Touches [.bypassRetry] c.timers c.switchWindows.2.timers := by
  dsimp only [switchWindows]
  split
  · exact Timers.touches_start _ _ _
  · exact Touches.refl _ _

theorem Quiet.bypassPass : Quiet c c.bypassPass := by
  rw [bypassPass_eq]
  split
  · rename_i applies
    have scene := (bypassApplies_cases applies).1
    have switched : Quiet c c.switchWindows.2 :=
      with_scene c scene c.switchWindows_touches (by simp) _ _ _ _
    split
    · have shaped : Quiet c { c.switchWindows.2 with
          renderer := Renderer.setOverlayShape c.switchWindows.2.overlayShape
            c.switchWindows.2.renderer } :=
        with_scene c scene c.switchWindows_touches (by simp) _ _ _ _
      exact shaped.trans (Aside.addRepaintFull _).toQuiet
    · exact switched
  · exact refl c

theorem entering_lasting {α : Type} {view : δ → α} (lasting : DisplayServer.Lasting view)
    (w : Toplevel) : view (c.entering w).2.1 = view c.display := by
  rw [entering]
  split
  · exact trackStep_lasting lasting w (c.display, c.renderer)
  · rfl

theorem entering_shown {α : Type} {view : σ → α} (shown : Renderer.Shown view) (w : Toplevel) :
    view (c.entering w).2.2 = view c.renderer := by
  rw [entering]
  split
  · exact trackStep_shown shown w (c.display, c.renderer)
  · rfl

theorem leaving_lasting {α : Type} {view : δ → α} (lasting : DisplayServer.Lasting view)
    (w : Toplevel) (stays : Bool) : view (c.leaving w stays).2.1 = view c.display := by
  rw [leaving]
  split
  · exact untrackStep_lasting lasting w (c.display, _)
  · rfl

theorem leaving_shown {α : Type} {view : σ → α} (shown : Renderer.Shown view) (w : Toplevel)
    (stays : Bool) : view (c.leaving w stays).2.2 = view c.renderer := by
  rw [leaving]
  split
  · exact (untrackStep_shown shown w _).trans (shown.windowClosed w.id stays c.renderer)
  · rfl

/-- A window enters that is no placeholder. -/
theorem Quiet.entered {w : Toplevel} (real : w.isPlaceholder = false) : Quiet c (c.entered w) := by
  refine of_touches (o := c.options) (g := c.repaints) (f := c.frame) (b := c.bypass)
    (p := c.support) (Touches.refl [] c.timers) (by simp) fun off resting => ?_
  refine ⟨resting.timers, resting.repaints, fun v hv => ?_⟩
  rcases List.mem_append.mp hv with old | new
  · exact resting.windows v old
  · rw [List.mem_singleton.mp new, entering, off]
    exact real

/-- A window that leaves becomes a placeholder only with a scene. -/
theorem Quiet.left (w : Toplevel) (keepPlaceholder : Bool) :
    Quiet c (c.left w keepPlaceholder) := by
  refine of_touches (o := c.options) (g := c.repaints) (f := c.frame) (b := c.bypass)
    (p := c.support) (Touches.refl [] c.timers) (by simp) fun off resting => ?_
  refine ⟨resting.timers, resting.repaints, fun v hv => ?_⟩
  simp only [off, Bool.and_false, Bool.false_eq_true, if_false] at hv
  exact resting.windows v (List.mem_filter.mp hv).1

theorem Quiet.setGeometry (id : WindowId) (geometry : Rect) :
    Quiet c (c.setGeometry id geometry) := by
  rcases c.setGeometry_cases id geometry with e | ⟨old, w, r, found, same, _, e⟩
  · rw [e]
    exact refl c
  · have moved : Quiet c { c with windows := c.windows.modify id fun _ => w, renderer := r } := by
      refine of_touches (d := c.display) (o := c.options) (g := c.repaints) (f := c.frame)
        (b := c.bypass) (p := c.support) (Touches.refl [] c.timers) (by simp)
        fun _ resting => ⟨resting.timers, resting.repaints, fun v hv => ?_⟩
      rcases (mem_replace found).mp hv with rfl | ⟨hv, _⟩
      · have real := resting.windows old (mem_of_get? found).1
        rwa [Toplevel.isPlaceholder, same.kind]
      · exact resting.windows v hv
    rw [e]
    exact moved.trans ((Aside.addRepaint _ _).trans (Aside.checkBypass _ true)).toQuiet

/-! A start that breaks off never returns, so whatever has not broken off never did. -/

section Unbroken

variable {ω : Type} {ok : Occasion → Prop} {c c' : Compositor δ σ}

theorem Shift.unbroken (shift : Shift c c') (sound : c'.fault? = none) : c.fault? = none := by
  cases shift with
  | start s o b _ _ => exact setup_sound (c.retune s o b) sound
  | stop s o b _ =>
    rw [(finish_frame _).2.2.2] at sound
    exact sound
  | free _ _ => exact sound

theorem Shifts.unbroken (shifts : Shifts c c') (sound : c'.fault? = none) : c.fault? = none := by
  induction shifts with
  | refl => exact sound
  | tail _ shift ih => exact ih (shift.unbroken sound)

theorem Move.unbroken (move : Move ok c c') (sound : c'.fault? = none) : c.fault? = none := by
  cases move with
  | aside aside => exact aside.fault.symm.trans sound
  | shift shift => exact shift.unbroken sound
  | lose _ _ =>
    rw [(finish_frame _).2.2.2] at sound
    exact sound
  | restart scene =>
    rw [Compositor.restart, if_pos scene, (defer_frame _ _).2.2.2.2.2.2.2] at sound
    rw [← (finish_frame c).2.2.2]
    exact sound
  | switch _ asides =>
    have asked := asides.trans (Aside.checkBypass _ true)
    exact asked.fault.symm.trans sound
  | pass popped =>
    have quiet := (Quiet.goesOff popped (by simp)).trans (Quiet.bypassPass _)
    exact quiet.fault.symm.trans sound
  | turn popped =>
    have before := (runDeferred_shifts _).unbroken sound
    rcases popped with rfl | ⟨_, _, _, rfl⟩
    · exact before
    · exact before
  | enter _ _ =>
    rename_i w _ _
    have asked := (Aside.checkBypass (c.entered w) true).trans (Aside.scheduleRepaint _)
    exact asked.fault.symm.trans sound
  | leave keepPlaceholder _ _ _ =>
    rename_i w _ _ _
    have asked := (Aside.addRepaint (c.left w keepPlaceholder) (Region.ofRect w.geometry)).trans
      (Aside.checkBypass _ true)
    exact asked.fault.symm.trans sound
  | reshape id geometry => exact (Quiet.setGeometry c id geometry).fault.symm.trans sound
  | hear _ => exact sound

/-- What every move preserves that does not break off, a step that does not is sure to preserve. -/
theorem Moves.preserve_unbroken {P : Compositor δ σ → Prop}
    (keeps : ∀ {c c'}, Move ok c c' → c'.fault? = none → P c → P c') (moves : Moves ok c c')
    (sound : c'.fault? = none) (h : P c) : P c' := by
  induction moves with
  | refl => exact h
  | tail _ move ih => exact keeps move sound (ih (move.unbroken sound))

/-- What every start and stop preserves that does not break off, a turn of deferred work that
does not is sure to preserve. -/
theorem runDeferred_preserve_unbroken {P : Compositor δ σ → Prop}
    (keeps : ∀ {c c'}, Shift c c' → c'.fault? = none → P c → P c')
    (sound : c.runDeferred.fault? = none) (h : P { c with deferred := [] }) : P c.runDeferred := by
  have kept := (runDeferred_shifts c).preserve (P := fun c => c.fault? = none → P c)
    (fun shift before sound => keeps shift sound (before (shift.unbroken sound))) (fun _ => h)
  exact kept sound

theorem step_unbroken (W : World ω δ σ) (k : Step ω) (sound : (c.step W k).fault? = none) :
    c.fault? = none := by
  have own (own : k.Own fun _ => True) : c.fault? = none := by
    refine (step_moves W c own).preserve (P := fun c' => c'.fault? = none → c.fault? = none)
      (fun move before sound => before (move.unbroken sound)) (fun sound => sound) sound
  cases k with
  | takeEvents | outside => exact sound
  | handleDisplayEvent e => cases e <;> exact own trivial
  | _ => exact own trivial

theorem run_unbroken (W : World ω δ σ) {before steps : List (Step ω)} (reached : before <+: steps)
    (sound : (c.run W steps).fault? = none) : (c.run W before).fault? = none := by
  obtain ⟨after, rfl⟩ := reached
  rw [run_append] at sound
  revert sound
  induction after using List.reverseRecOn with
  | nil => exact fun sound => sound
  | append_singleton rest k ih =>
    intro sound
    rw [run_append] at sound
    exact ih (step_unbroken W k sound)

end Unbroken

end Compositing.Compositor
