import Compositing.Proofs.Pixels
import Compositing.Proofs.Recall
import Compositing.Proofs.WakeUp

/-!
# The overlay shows what is composited

The overlay covers the display except for the windows that are drawn directly to the screen.
Its shape is cut out anew only by a pass that counts as one that changed something. So whatever
changes which windows are drawn directly, or where they are, has to ask for such a pass, unless
no window is drawn directly before and after.

A pass takes place only as long as windows may bypass compositing or were just forbidden to.
Otherwise no window is drawn directly, and this is what carries the invariant. Windows are added
as they come from their builders, when none is drawn directly yet.
-/

namespace Compositing

/-- A shape stays until another one is set. -/
theorem HeadlessRenderer.shown_shape :
    Renderer.Shown fun r : HeadlessRenderer => r.scene.shape := by
  constructor
  case windowAdded =>
    intro w r
    dsimp only [Renderer.windowAdded, onScene, HeadlessScene.windowAdded]
    split <;> rfl
  case windowClosed =>
    intro w stays r
    dsimp only [Renderer.windowClosed, onScene, HeadlessScene.windowClosed]
    split <;> rfl
  all_goals intros; rfl

namespace Compositor

open WindowStack

/-! Windows that are drawn directly. -/

variable {c c' : Compositor HeadlessDisplay HeadlessRenderer}

/-- The overlay covers the display except for the windows that are drawn directly. -/
def Matches (c : Compositor HeadlessDisplay HeadlessRenderer) : Prop :=
  ∀ p, c.renderer.scene.shape.contains p = true ↔
    c.display.layout.full.contains p = true ∧
      ∀ w ∈ c.windows.windows, w.unredirected = true → w.geometry.contains p = false

theorem contains_overlayShape (c : Compositor HeadlessDisplay HeadlessRenderer) (p : Point) :
    c.overlayShape.contains p = true ↔
      c.display.layout.full.contains p = true ∧
        ∀ w ∈ c.windows.windows, w.unredirected = true → w.geometry.contains p = false := by
  rw [overlayShape, Region.contains_foldl_subtractRect, Region.contains_ofRect,
    unredirectedGeometries]
  simp [DisplayServer.layout]

/-- As long as no window is drawn directly, the same shape fits the same display. -/
theorem Matches.of_plain (h : c.Matches) (plain : c.windows.Plain) (plain' : c'.windows.Plain)
    (shape : c'.renderer.scene.shape = c.renderer.scene.shape)
    (layout : c'.display.layout = c.display.layout) : c'.Matches := by
  intro p
  have none {s : WindowStack} (plain : s.Plain) :
      ∀ w ∈ s.windows, w.unredirected = true → w.geometry.contains p = false := by
    intro w hw direct
    simp [plain w hw] at direct
  rw [shape, layout, h p]
  constructor
  · rintro ⟨inside, _⟩
    exact ⟨inside, none plain'⟩
  · rintro ⟨inside, _⟩
    exact ⟨inside, none plain⟩

/-- An aside draws the same windows directly, where they were. -/
theorem Matches.aside (h : c.Matches) (orderly : c.windows.Orderly) (aside : Aside c c') :
    c'.Matches := by
  have keeps := aside.windows orderly.distinct
  have shape : c'.renderer.scene.shape = c.renderer.scene.shape :=
    aside.shown HeadlessRenderer.shown_shape
  have layout : c'.display.layout = c.display.layout :=
    aside.served HeadlessDisplay.fixed_layout.toLasting
  intro p
  rw [shape, layout, h p]
  refine and_congr_right fun _ => ⟨fun clear w' hw' direct => ?_, fun clear w hw direct => ?_⟩
  · obtain ⟨w, hw, same⟩ := keeps.old w' hw'
    rw [same.geometry]
    exact clear w hw (same.direct ▸ direct)
  · have real : w.isPlaceholder = false := by
      by_contra placeholder
      simp [orderly.hidden w hw (by simpa using placeholder)] at direct
    obtain ⟨w', hw', same⟩ := keeps.stays w hw real
    rw [← same.geometry]
    exact clear w' hw' (same.direct.trans direct)

/-! The invariant. -/

/-- What holds whether or not a pass is on its way: with a scene all windows but placeholders are
tracked; windows are drawn directly only where passes take place; and a pass that is to count as
one that changed something takes place. -/
structure Fits (c : Compositor HeadlessDisplay HeadlessRenderer) : Prop extends Watches c where
  plain : c.bypassApplies = false → c.windows.Plain
  noted : c.bypass.forced = true →
    (c.hasScene = true ∧ c.options.bypassFullscreen = true) ∨ c.bypass.optionChanged = true

/-- A pass that counts as one that changed something is on its way, or the overlay is right. -/
structure Cut (c : Compositor HeadlessDisplay HeadlessRenderer) : Prop extends Fits c where
  armed : c.hasScene = true → c.bypass.forced = true → c.timers.isArmed .bypassCheck = true
  exact : c.hasScene = true → c.bypass.forced = false → c.Matches

/-- There is always an overlay. -/
theorem bypassApplies_eq (c : Compositor HeadlessDisplay HeadlessRenderer) :
    c.bypassApplies = (c.hasScene && (c.options.bypassFullscreen || c.bypass.optionChanged)) := by
  have overlay : (Renderer.overlayWindow? c.renderer).isSome = true := rfl
  rw [bypassApplies, overlay, Bool.and_true]

theorem Aside.applies (aside : Aside c c') : c'.bypassApplies = c.bypassApplies := by
  rw [bypassApplies_eq, bypassApplies_eq]
  exact aside.mayBypass

theorem Fits.recalls (h : Fits c) : Recalls c :=
  ⟨h.toWatches, fun none => h.plain ((bypassApplies_eq c).trans none)⟩

theorem Recalls.fits (h : Recalls c)
    (noted : c.bypass.forced = true →
      (c.hasScene = true ∧ c.options.bypassFullscreen = true) ∨ c.bypass.optionChanged = true) :
    Fits c :=
  ⟨h.toWatches, fun none => h.plain ((bypassApplies_eq c).symm.trans none), noted⟩

/-- A forced pass takes place. -/
theorem Fits.applies (h : Fits c) (scene : c.hasScene = true) (forced : c.bypass.forced = true) :
    c.bypassApplies = true := by
  rw [bypassApplies_eq]
  rcases h.noted forced with ⟨_, on⟩ | changed
  · simp [scene, on]
  · simp [scene, changed]

theorem Fits.aside (h : Fits c) (aside : Aside c c') : Fits c' := by
  refine (h.recalls.aside aside).fits fun forced => ?_
  rw [aside.scene, aside.option, aside.optionChanged]
  rcases aside.bypass with same | ⟨_, on, either, _⟩
  · exact h.noted (same ▸ forced)
  · rcases Bool.or_eq_true_iff.mp either with option | noted
    · exact Or.inl ⟨on, option⟩
    · exact Or.inr noted

theorem Cut.aside (h : Cut c) (aside : Aside c c') : Cut c' where
  toFits := h.toFits.aside aside
  armed := by
    intro scene forced
    rcases aside.bypass with same | ⟨_, _, _, armed⟩
    · exact aside.check (h.armed (aside.scene ▸ scene) (same ▸ forced))
    · exact armed
  exact := by
    intro scene forced
    rcases aside.bypass with same | ⟨asked, _⟩
    · exact (h.exact (aside.scene ▸ scene) (same ▸ forced)).aside h.orderly aside
    · rw [asked] at forced
      simp [BypassState.force] at forced

/-- Asking for a forced pass makes good what was changed, if none takes place because the overlay
is right anyway. -/
theorem Fits.force (h : Fits c)
    (right : c.hasScene = true → c.bypassApplies = false → c.Matches) :
    Cut (c.checkBypass true) := by
  rcases c.checkBypass_cases true with ⟨off, e⟩ | ⟨applies, t, _, armed, e⟩
  · rw [e]
    refine ⟨h, fun scene forced => ?_, fun scene _ => right scene off⟩
    simp [h.applies scene forced] at off
  · obtain ⟨scene, either⟩ := bypassApplies_cases applies
    rw [e]
    refine ⟨⟨{ h.toWatches with }, h.plain, fun _ => ?_⟩, fun _ _ => armed, fun _ => ?_⟩
    · rcases Bool.or_eq_true_iff.mp either with option | changed
      · exact Or.inl ⟨scene, option⟩
      · exact Or.inr changed
    · simp [BypassState.force]

/-- Windows change, and a forced pass is asked for. -/
theorem Cut.asked (h : Cut c) {b : Compositor HeadlessDisplay HeadlessRenderer} (fits : Fits b)
    (aside : Aside b c') (scene : b.hasScene = c.hasScene)
    (applies : b.bypassApplies = c.bypassApplies)
    (shape : b.renderer.scene.shape = c.renderer.scene.shape)
    (layout : b.display.layout = c.display.layout) : Cut (c'.checkBypass true) := by
  refine (fits.aside aside).force fun on off => ?_
  have on : c.hasScene = true := scene ▸ aside.scene ▸ on
  have still : b.bypassApplies = false := aside.applies.symm.trans off
  have off' : c.bypassApplies = false := applies.symm.trans still
  have unforced : c.bypass.forced = false := by
    by_contra forced
    simp [h.applies on (by simpa using forced)] at off'
  have before : b.Matches :=
    (h.exact on unforced).of_plain (h.plain off') (fits.plain still) shape layout
  exact before.aside fits.orderly aside

/-! Starting and stopping. -/

/-- A scene begins with an overlay that covers the display. -/
theorem start_shape {backend : Backend} {layout : Layout} {rate? : Option UInt32}
    {r r' : HeadlessRenderer} (started : Renderer.start backend layout rate? r = (.ok (), r')) :
    r'.scene.shape = Region.ofRect layout.full := by
  simp only [Renderer.start, HeadlessRenderer.start, HeadlessScene.create] at started
  split at started
  · simp at started
  · rename_i scene created
    obtain rfl := (Prod.mk.inj started).2
    split at created
    · simp at created
    · split at created
      · simp at created
      · obtain rfl := Except.ok.inj created
        rfl

/-- Where no window is drawn directly, the overlay has to cover the display. -/
theorem Matches.of_covering (plain : c.windows.Plain)
    (shape : c.renderer.scene.shape = Region.ofRect c.display.layout.full) : c.Matches := by
  intro p
  rw [shape, Region.contains_ofRect]
  refine ⟨fun inside => ⟨inside, fun w hw direct => ?_⟩, fun h => h.1⟩
  simp [plain w hw] at direct

/-- No start of the renderer that draws nothing breaks off. -/
theorem setup_fault {δ : Type} [DisplayServer δ] {c : Compositor δ HeadlessRenderer} :
    c.setup.fault? = c.fault? := by
  obtain ⟨d, r, scene, selection, s, shape, _⟩ :=
    ({ c with phase := .starting } : Compositor δ HeadlessRenderer).acquire_shape
  rcases c.setup_cases with ⟨_, e⟩ | ⟨_, e⟩ | ⟨_, e⟩ | ⟨_, _, _, e⟩
  · rw [e]
  · rw [e]
  · rw [e, shape]
    simp
  · obtain ⟨frame, e'⟩ := activate_headless
      (c := ({ c with phase := .starting } : Compositor δ HeadlessRenderer).acquire.2) id
    rw [e, e', shape]
    simp

/-- A start that succeeds forces a pass. -/
theorem begun_cut (h : Fits c) (off : c.hasScene = false) {s : Suspension}
    {o : CompositingOptions} {b : BypassState} (changed : b.forced = true → b.optionChanged = true)
    (possible : (c.retune s o b).isPossible = true)
    {a b' : Compositor HeadlessDisplay HeadlessRenderer} {d : HeadlessDisplay}
    {r : HeadlessRenderer} {frame : FrameBudget}
    (acquired : Acquires ({ c.retune s o b with phase := .starting } :
      Compositor HeadlessDisplay HeadlessRenderer) a d r)
    (tracked : Aside (({ a with frame := frame } :
      Compositor HeadlessDisplay HeadlessRenderer).visitWindows trackStep a.windows.ids) b') :
    Cut (b'.checkBypass true) := by
  have still : c.windows.Plain := h.recalls.resting off
  have layout : d.layout = c.display.layout := acquired.steady HeadlessDisplay.fixed_layout.toSteady
  obtain ⟨d', claimed, started, redirected⟩ := acquired.claims
  have claims := HeadlessDisplay.fixed_layout.claimSelection
    (selectionName (DisplayServer.screenNumber c.display)) c.display
  have layout' : d'.layout = c.display.layout := by
    have claimed : DisplayServer.claimSelection
        (selectionName (DisplayServer.screenNumber c.display)) c.display = (.ok (), d') := claimed
    rwa [claimed] at claims
  have shape : r.scene.shape = Region.ofRect d.layout.full := by
    rw [start_shape started, layout, ← layout']
    rfl
  obtain ⟨watches, plain⟩ := acquired.watches possible h.orderly still frame
  have fits : Fits (({ a with frame := frame } :
      Compositor HeadlessDisplay HeadlessRenderer).visitWindows trackStep a.windows.ids) := by
    refine { watches with plain := fun _ => plain, noted := fun forced => Or.inr ?_ }
    rw [acquired.shape] at forced ⊢
    exact changed forced
  have covers : Matches (({ a with frame := frame } :
      Compositor HeadlessDisplay HeadlessRenderer).visitWindows trackStep a.windows.ids) := by
    refine Matches.of_covering plain ?_
    have kept := visit_view (fun t : HeadlessDisplay × HeadlessRenderer => t.1.layout)
      (trackStep_lasting HeadlessDisplay.fixed_layout.toLasting) a.windows.ids a.windows
      (a.display, a.renderer)
    have shown := visit_view (fun t : HeadlessDisplay × HeadlessRenderer => t.2.scene.shape)
      (trackStep_shown HeadlessRenderer.shown_shape) a.windows.ids a.windows
      (a.display, a.renderer)
    have covered : a.renderer.scene.shape = Region.ofRect a.display.layout.full := by
      rw [acquired.shape]
      exact shape
    exact shown.trans (covered.trans (congrArg (fun l => Region.ofRect l.full) kept.symm))
  exact (fits.aside tracked).force fun _ _ => covers.aside fits.orderly tracked

theorem setup_cut (h : Fits c) (off : c.hasScene = false) (s : Suspension)
    (o : CompositingOptions) {b : BypassState}
    (noted : b = c.bypass ∨ b = c.bypass.noteOptionChanged) (sound : c.fault? = none) :
    Cut (c.retune s o b).setup := by
  have still : c.windows.Plain := h.recalls.resting off
  have changed : b.forced = true → b.optionChanged = true := by
    intro forced
    rcases noted with rfl | rfl
    · rcases h.noted forced with ⟨scene, _⟩ | changed
      · simp [off] at scene
      · exact changed
    · rfl
  by_cases on : (c.retune s o b).setup.hasScene = true
  · obtain ⟨_, possible, a, d, r, frame, b', acquired, tracked, asides⟩ :=
      (c.retune s o b).setup_begins off on (setup_fault.trans sound)
    have active : Cut (({ b'.checkBypass true with phase := .active } :
        Compositor HeadlessDisplay HeadlessRenderer).emit (.toggled true)) :=
      { begun_cut h off changed possible acquired tracked with }
    exact active.aside asides
  · obtain ⟨d, r, stack, selection, e, _, which, fixed⟩ :=
      (c.retune s o b).setup_rests off (by simpa using on)
    rw [e]
    have windows : stack.Orderly ∧ stack.Plain := by
      rcases which with rfl | rfl
      · exact ⟨h.orderly, still⟩
      · exact ⟨(Evolves.discardPlaceholders h.orderly.distinct).orderly h.orderly,
          fun w hw => still w (List.mem_filter.mp hw).1⟩
    have idle : ∀ {P : Prop}, c.hasScene = true → P := by
      intro P on
      simp [off] at on
    exact ⟨⟨Watches.idle windows.1 off, fun _ => windows.2, fun forced => Or.inr (changed forced)⟩,
      idle, idle⟩

/-- Stopping needs of what is retuned only what holds of the windows and the server. -/
theorem finish_cut (h : Fits c) (s : Suspension) (o : CompositingOptions) {b : BypassState}
    (selection? : Option String) (noted : b = c.bypass ∨ b = c.bypass.noteOptionChanged) :
    Cut ({ c.retune s o b with selection? := selection? } :
      Compositor HeadlessDisplay HeadlessRenderer).finish := by
  have idle : ∀ {P : Prop}, false = true → P := by simp
  have watches : Watches ({ c.retune s o b with selection? := selection? } :
      Compositor HeadlessDisplay HeadlessRenderer) := { h.toWatches with }
  by_cases scene : c.hasScene = true
  · have plain := watches.finish_plain scene
    have stopped := watches.finish
    obtain ⟨d, r, stack, e, _⟩ := finish_scene
      ({ c.retune s o b with selection? := selection? } :
        Compositor HeadlessDisplay HeadlessRenderer) scene
    rw [e] at plain stopped ⊢
    exact ⟨⟨stopped, fun _ => plain, by simp [BypassState.reset]⟩, idle, idle⟩
  · have off : c.hasScene = false := by simpa using scene
    have still : c.windows.Plain := h.recalls.resting off
    rw [finish_of_off _ (by exact off)]
    refine ⟨⟨watches, fun _ => still, fun forced => Or.inr ?_⟩, fun on => (scene on).elim,
      fun on => (scene on).elim⟩
    rcases noted with rfl | rfl
    · exact (h.noted forced).resolve_left fun both => scene both.1
    · rfl

/-! Passes. -/

/-- What a pass leaves behind fits, but the overlay is still to be cut out. -/
theorem switchWindows_fits (h : Fits c) (applies : c.bypassApplies = true) :
    Fits c.switchWindows.2 := by
  have watches := h.toWatches.switchWindows
  refine ⟨watches, fun none => ?_, by simp [switchWindows_eq]⟩
  have scene : c.switchWindows.2.hasScene = true := (bypassApplies_cases applies).1
  rw [bypassApplies_eq] at none
  simp only [scene, Bool.true_and, Bool.or_eq_false_iff] at none
  exact h.toWatches.switchWindows_plain applies none.1 none.2

theorem bypassPass_cut (h : Fits c)
    (exact : c.hasScene = true → c.bypass.forced = false → c.Matches) : Cut c.bypassPass := by
  rw [bypassPass_eq]
  split
  · rename_i applies
    have fits := switchWindows_fits h applies
    have forced : c.switchWindows.2.bypass.forced = false := rfl
    split
    · have cut : Cut { c.switchWindows.2 with
          renderer := Renderer.setOverlayShape c.switchWindows.2.overlayShape
            c.switchWindows.2.renderer } :=
        { fits with
          armed := fun _ asked => by simp [forced] at asked
          exact := fun _ _ => contains_overlayShape c.switchWindows.2 }
      exact cut.aside (Aside.addRepaintFull _)
    · rename_i unchanged
      refine ⟨fits, fun _ asked => by simp [forced] at asked, fun scene _ => ?_⟩
      have underway := midPass_underway h.orderly.distinct
      have shape : (c.midPass c.candidates).2.renderer.scene.shape = c.renderer.scene.shape :=
        midPass_shown HeadlessRenderer.shown_shape c.candidates
      have layout : (c.midPass c.candidates).2.display.layout = c.display.layout :=
        midPass_unswitched HeadlessDisplay.fixed_layout.toUnswitched c.candidates
      rw [switchWindows_eq] at unchanged scene ⊢
      simp only [Bool.or_eq_true, not_or, Bool.not_eq_true] at unchanged
      rcases underway.progress with ⟨_, windows, bypass, _⟩ | ⟨toggled, _⟩
      · intro p
        rw [bypass] at unchanged
        simp only [shape, layout, windows]
        exact exact scene unchanged.2 p
      · simp [toggled] at unchanged
  · rename_i off
    have off : c.bypassApplies = false := by simpa using off
    refine ⟨h, fun scene forced => ?_, exact⟩
    simp [h.applies scene forced] at off

/-! Windows that come, go and change their place. -/

theorem entered_fits (h : Fits c) {w : Toplevel} (off : w.unredirected = false)
    (fresh : c.windows.contains w.id = false) : Fits (c.entered w) :=
  (h.recalls.entered off fresh).fits h.noted

theorem left_fits (h : Fits c) (w : Toplevel) (keepPlaceholder : Bool) :
    Fits (c.left w keepPlaceholder) :=
  (h.recalls.left w keepPlaceholder).fits h.noted

theorem replaced_fits (h : Fits c) {id : WindowId} {old w : Toplevel}
    (found : c.windows.get? id = some old) (same : Toplevel.Same old w) (r : HeadlessRenderer) :
    Fits { c with windows := c.windows.modify id fun _ => w, renderer := r } :=
  (h.recalls.replaced found same r).fits h.noted

/-! The moves. -/

/-- No start or stop breaks off. -/
theorem Shift.fault {δ : Type} [DisplayServer δ] {c c' : Compositor δ HeadlessRenderer}
    (shift : Shift c c') : c'.fault? = c.fault? := by
  cases shift with
  | start s o b off noted => exact setup_fault
  | stop s o b noted => exact (finish_frame _).2.2.2
  | free reason scene => rfl

theorem Shift.cut (shift : Shift c c') (h : c.fault? = none ∧ Cut c) :
    c'.fault? = none ∧ Cut c' := by
  obtain ⟨sound, cut⟩ := h
  refine ⟨shift.fault.trans sound, ?_⟩
  cases shift with
  | start s o b off noted => exact setup_cut cut.toFits off s o noted sound
  | stop s o b noted => exact finish_cut cut.toFits s o c.selection? noted
  | free reason scene => exact { cut with }

theorem restart_cut (h : Cut c) (scene : c.hasScene = true) : Cut c.restart := by
  have stopped : Cut c.finish := finish_cut h.toFits c.suspended c.options c.selection? (Or.inl rfl)
  have starting : Cut { c.finish with phase := .starting } := { stopped with }
  rw [restart, if_pos scene]
  exact starting.aside (Aside.defer _ _)

/-- The option is switched, so a forced pass takes place unless there is no scene. -/
theorem switch_cut (h : Cut c) {o : CompositingOptions}
    (asides : Aside (c.retune c.suspended o c.bypass.noteOptionChanged) c') :
    Cut (c'.checkBypass true) := by
  have noted : Fits (c.retune c.suspended o c.bypass.noteOptionChanged) :=
    (h.recalls.noted o).fits fun _ => Or.inr rfl
  have changed : c'.bypass.optionChanged = true := asides.optionChanged
  refine (noted.aside asides).force fun scene off => ?_
  rw [bypassApplies_eq] at off
  simp [scene, changed] at off

theorem GoesOff.cut {id : TimerId} (popped : GoesOff id c c') (h : Cut c) :
    Fits c' ∧ (c'.hasScene = true → c'.bypass.forced = false → c'.Matches) := by
  rcases popped with rfl | ⟨_, _, _, rfl⟩
  · exact ⟨h.toFits, h.exact⟩
  · exact ⟨{ h.toFits with }, h.exact⟩

theorem runDeferred_cut (sound : c.fault? = none) (h : Cut c) :
    c.runDeferred.fault? = none ∧ Cut c.runDeferred := by
  have start : Cut { c with deferred := [] } := { h with }
  exact (runDeferred_shifts c).preserve (P := fun c => c.fault? = none ∧ Cut c)
    (fun shift => shift.cut) ⟨sound, start⟩

theorem entered_cut (h : Cut c) {w : Toplevel} (off : w.unredirected = false)
    (fresh : c.windows.contains w.id = false) : Cut ((c.entered w).checkBypass true) :=
  h.asked (entered_fits h.toFits off fresh) (Aside.refl _) rfl rfl
    (entering_shown c HeadlessRenderer.shown_shape w)
    (entering_lasting c HeadlessDisplay.fixed_layout.toLasting w)

theorem left_cut (h : Cut c) (w : Toplevel) (keepPlaceholder : Bool) :
    Cut (((c.left w keepPlaceholder).addRepaint (Region.ofRect w.geometry)).checkBypass true) :=
  h.asked (left_fits h.toFits w _) (Aside.addRepaint _ _) rfl rfl
    (leaving_shown c HeadlessRenderer.shown_shape w _)
    (leaving_lasting c HeadlessDisplay.fixed_layout.toLasting w _)

theorem setGeometry_fault {id : WindowId} {geometry : Rect} :
    (c.setGeometry id geometry).fault? = c.fault? := by
  rcases c.setGeometry_cases id geometry with e | ⟨_, _, _, _, _, _, e⟩
  · rw [e]
  · simp [e]

theorem setGeometry_cut (h : Cut c) (id : WindowId) (geometry : Rect) :
    Cut (c.setGeometry id geometry) := by
  rcases c.setGeometry_cases id geometry with e | ⟨old, w, r, found, same, told, e⟩
  · rw [e]
    exact h
  · have shape : r.scene.shape = c.renderer.scene.shape := by
      rcases told with rfl | rfl
      · rfl
      · exact HeadlessRenderer.shown_shape.pixmapDiscarded old.id c.renderer
    rw [e]
    exact h.asked (replaced_fits h.toFits found same r) (Aside.addRepaint _ _) rfl rfl shape rfl

theorem Move.cut (move : Move (Occasion.Brings fun w => w.unredirected = false) c c')
    (h : c.fault? = none ∧ Cut c) : c'.fault? = none ∧ Cut c' := by
  obtain ⟨sound, cut⟩ := h
  cases move with
  | aside aside => exact ⟨aside.fault.trans sound, cut.aside aside⟩
  | shift shift => exact shift.cut ⟨sound, cut⟩
  | lose _ held =>
    have lost := finish_cut cut.toFits c.suspended c.options none (Or.inl rfl)
    exact ⟨(finish_frame _).2.2.2.trans sound, lost⟩
  | restart scene =>
    have fault : c.restart.fault? = c.fault? := by
      rw [Compositor.restart, if_pos scene]
      exact (finish_frame c).2.2.2
    exact ⟨fault.trans sound, restart_cut cut scene⟩
  | switch _ asides =>
    have fault : _ = c.fault? := asides.fault
    exact ⟨by simpa [fault] using sound, switch_cut cut asides⟩
  | pass popped =>
    obtain ⟨fits, exact⟩ := popped.cut cut
    have fault := (Quiet.goesOff popped (by simp)).fault
    exact ⟨by simpa [fault] using sound, bypassPass_cut fits exact⟩
  | turn popped =>
    rcases popped with rfl | ⟨target, t, popped, rfl⟩
    · exact runDeferred_cut sound cut
    · have other : TimerId.bypassCheck ≠ .deferred := by simp
      have armed := Timers.isArmed_popDue popped other
      have timed : Cut { c with timers := t } :=
        { cut with armed := fun scene forced => armed (cut.armed scene forced) }
      exact runDeferred_cut (c := { c with timers := t }) sound timed
  | enter off fresh =>
    rename_i w
    have asked : Cut ((c.entered w).checkBypass true) := entered_cut cut off fresh
    exact ⟨by simpa [entered] using sound, asked.aside (Aside.scheduleRepaint _)⟩
  | leave keepPlaceholder _ found real =>
    exact ⟨by simpa [left] using sound, left_cut cut _ keepPlaceholder⟩
  | reshape id geometry => exact ⟨setGeometry_fault.trans sound, setGeometry_cut cut id geometry⟩
  | hear _ => exact ⟨sound, { cut with }⟩

/-- What others do to the server does not concern the overlay. -/
theorem outside_cut (h : Cut c) (change : DisplayChange) :
    Cut { c with display := change.apply c.display } := by
  obtain ⟨layout, extensions, _⟩ := change.apply_kept c.display
  exact { h with
    able := fun scene => extensions.symm ▸ h.able scene
    exact := fun scene unforced p => by
      simp only [layout]
      exact h.exact scene unforced p }

theorem step_cut {ω : Type} (change : ω → DisplayChange) {k : Step ω}
    (plain : k.Adds fun w => w.unredirected = false) (h : c.fault? = none ∧ Cut c) :
    (c.step (DisplayChange.world change fun _ r => r) k).fault? = none ∧
      Cut (c.step (DisplayChange.world change fun _ r => r) k) := by
  have own (own : k.Own (Occasion.Brings fun w => w.unredirected = false)) :=
    (step_moves (DisplayChange.world change fun _ r => r) c own).preserve Move.cut h
  cases k with
  | takeEvents => exact ⟨h.1, { h.2 with }⟩
  | outside o => exact ⟨h.1, outside_cut h.2 (change o)⟩
  | addWindow w => exact own plain
  | handleDisplayEvent e => cases e <;> exact own trivial
  | _ => exact own trivial

theorem new_cut (d : HeadlessDisplay) (r : HeadlessRenderer) (options : CompositingOptions) :
    (Compositor.new d r options).fault? = none ∧ Cut (Compositor.new d r options) := by
  refine ⟨rfl, ⟨⟨new_watches d r options, fun _ => new_plain d r options, ?_⟩, ?_, ?_⟩⟩
  all_goals simp [Compositor.new, BypassState.new]

theorem run_cut {ω : Type} (change : ω → DisplayChange) (d : HeadlessDisplay)
    (r : HeadlessRenderer) (options : CompositingOptions) {steps : List (Step ω)}
    (plain : ∀ k ∈ steps, k.Adds fun w => w.unredirected = false) :
    ((Compositor.new d r options).run (DisplayChange.world change fun _ r => r) steps).fault? =
        none ∧
      Cut ((Compositor.new d r options).run (DisplayChange.world change fun _ r => r) steps) := by
  exact run_preserves _ (P := fun c => c.fault? = none ∧ Cut c)
    (fun c k plain h => step_cut change plain h) (new_cut d r options) plain

/-- In every reachable compositor with a scene, the overlay shows the whole display except for the
windows that are drawn directly, or a pass is on its way that will cut it out anew. -/
theorem overlay_cut_out {ω : Type} (change : ω → DisplayChange) (d : HeadlessDisplay)
    (r : HeadlessRenderer) (options : CompositingOptions) {steps : List (Step ω)}
    (fresh : ∀ k ∈ steps, k.AddsFresh) {c : Compositor HeadlessDisplay HeadlessRenderer}
    (reached : c = (Compositor.new d r options).run (DisplayChange.world change fun _ r => r) steps)
    (scene : c.hasScene = true) :
    (c.bypass.forced = true ∧ c.timers.isArmed .bypassCheck = true) ∨
      ∀ p, c.renderer.scene.shape.contains p = true ↔
        c.display.layout.full.contains p = true ∧
          ∀ w ∈ c.windows.windows, w.unredirected = true → w.geometry.contains p = false := by
  have plain : ∀ k ∈ steps, k.Adds fun w => w.unredirected = false :=
    fun k member => (fresh k member).plain
  have cut : Cut c := reached ▸ (run_cut change d r options plain).2
  by_cases forced : c.bypass.forced = true
  · exact Or.inl ⟨forced, cut.armed scene forced⟩
  · exact Or.inr (cut.exact scene (by simpa using forced))

def overlaidSteps : List (Step DisplayChange) :=
  [.addWindow (.client ⟨1⟩ (.ofCoords 0 0 10 10) ⟨true, true, false⟩), .setup,
    .handleTimer .bypassCheck]

def overlaid : Compositor HeadlessDisplay HeadlessRenderer :=
  (Compositor.new (.new Extension.all (.single 20 10)) (.new ⟨1⟩ fun _ => 0)
    { CompositingOptions.standard with bypassFullscreen := true }).run
      (DisplayChange.world id fun _ r => r) overlaidSteps

/-- The overlay leaves the client's place out and shows what lies beside it. -/
theorem overlaid_cut_out :
    overlaid.hasScene = true ∧ overlaid.bypass.forced = false ∧
      overlaid.renderer.scene.shape.contains ⟨5, 5⟩ = false ∧
      overlaid.renderer.scene.shape.contains ⟨15, 5⟩ = true := by
  have fresh : ∀ k ∈ overlaidSteps, k.AddsFresh := by
    simp [overlaidSteps, Step.AddsFresh]
  have scene : overlaid.hasScene = true := rfl
  have unforced : overlaid.bypass.forced = false := rfl
  have place : ∃ w, overlaid.windows.windows = [w] ∧ w.unredirected = true ∧
      w.geometry = .ofCoords 0 0 10 10 := ⟨_, rfl, rfl, rfl⟩
  obtain ⟨w, only, direct, geometry⟩ := place
  have shown := overlay_cut_out id (HeadlessDisplay.new Extension.all (.single 20 10))
    (HeadlessRenderer.new ⟨1⟩ fun _ => 0)
    { CompositingOptions.standard with bypassFullscreen := true } fresh (c := overlaid) rfl scene
  rcases shown with ⟨forced, _⟩ | shown
  · simp [unforced] at forced
  · refine ⟨scene, unforced, ?_, (shown ⟨15, 5⟩).mpr ⟨by decide +kernel, ?_⟩⟩
    · by_contra inside
      have clear := ((shown ⟨5, 5⟩).mp (by simpa using inside)).2 w (by simp [only]) direct
      rw [geometry] at clear
      simp [show (Rect.ofCoords 0 0 10 10).contains ⟨5, 5⟩ = true by decide +kernel] at clear
    · intro v hv _
      obtain rfl : v = w := by simpa [only] using hv
      rw [geometry]
      decide +kernel

/-- The client goes, the option goes off, and the pass for both is done. -/
def uncovered : Compositor HeadlessDisplay HeadlessRenderer :=
  overlaid.run (DisplayChange.world id fun _ r => r)
    [.removeWindow ⟨1⟩ false, .setBypassFullscreen false, .handleTimer .bypassCheck]

/-- A copy of the client from when it was drawn directly keeps its flag and its damage object when
it is added, and no pass comes that would leave its place out of the overlay. -/
theorem uncovered_copy_hidden :
    ∃ w, overlaid.windows.get? ⟨1⟩ = some w ∧
      ∃ c, c = uncovered.run (DisplayChange.world id fun _ r => r) [.addWindow w] ∧
        c.hasScene = true ∧ c.bypass.forced = false ∧
        c.renderer.scene.shape.contains ⟨5, 5⟩ = true ∧
        ∃ v ∈ c.windows.windows,
          v.unredirected = true ∧ v.geometry.contains ⟨5, 5⟩ = true :=
  ⟨_, rfl, _, rfl, rfl, rfl, by decide +kernel, _, List.mem_singleton_self _, rfl,
    by decide +kernel⟩

end Compositor

end Compositing
