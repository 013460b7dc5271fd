import Compositing.Display.Headless
import Compositing.Proofs.Passes

/-!
# Windows under watch

With a scene on the server in memory, every window that is no placeholder is tracked: a scene
begins only where damage objects are offered, and then none is refused. So whenever the scene
goes, every window is let go, and none of them counts as drawn directly any more. This is said
of any renderer.
-/

namespace Compositing

/-! What the server in memory leaves alone. -/

theorem DisplayServer.Lasting.map {δ α β : Type} [DisplayServer δ] {view : δ → α}
    (h : DisplayServer.Lasting view) (f : α → β) : DisplayServer.Lasting fun d => f (view d) where
  createDamage := fun w d => congrArg f (h.createDamage w d)
  destroyDamage := fun handle d => congrArg f (h.destroyDamage handle d)
  requestDamage := fun handle d => congrArg f (h.requestDamage handle d)
  damageReply := fun fetch d => congrArg f (h.damageReply fetch d)
  discardReply := fun fetch d => congrArg f (h.discardReply fetch d)
  flush := fun d => congrArg f (h.flush d)
  deleteRootProperty := fun a d => congrArg f (h.deleteRootProperty a d)

theorem DisplayServer.Steady.map {δ α β : Type} [DisplayServer δ] {view : δ → α}
    (h : DisplayServer.Steady view) (f : α → β) : DisplayServer.Steady fun d => f (view d) :=
  { h.toLasting.map f with
    claimSelection := fun s d => congrArg f (h.claimSelection s d)
    releaseSelection := fun s d => congrArg f (h.releaseSelection s d)
    redirectSubwindows := fun d => congrArg f (h.redirectSubwindows d) }

theorem DisplayServer.Unswitched.map {δ α β : Type} [DisplayServer δ] {view : δ → α}
    (h : DisplayServer.Unswitched view) (f : α → β) :
    DisplayServer.Unswitched fun d => f (view d) where
  redirectWindow := fun w d => congrArg f (h.redirectWindow w d)
  unredirectWindow := fun w d => congrArg f (h.unredirectWindow w d)

theorem DisplayServer.Fixed.map {δ α β : Type} [DisplayServer δ] {view : δ → α}
    (h : DisplayServer.Fixed view) (f : α → β) : DisplayServer.Fixed fun d => f (view d) :=
  { h.toSteady.map f, h.toUnswitched.map f with
    unredirectSubwindows := fun d => congrArg f (h.unredirectSubwindows d)
    setOpacity := fun w o d => congrArg f (h.setOpacity w o d) }

namespace HeadlessDisplay

/-- What is not about damage or properties, all such requests leave alone. -/
theorem lasting : DisplayServer.Lasting fun d : HeadlessDisplay =>
    ((d.layout, d.extensions, d.events, d.refusesSelection), d.selectionOwner?,
      d.unredirected, d.opacities) := by
  constructor
  case createDamage =>
    intro w d
    dsimp only [DisplayServer.createDamage, createDamage]
    split <;> rfl
  case destroyDamage =>
    intro h d
    dsimp only [DisplayServer.destroyDamage, destroyDamage]
    split <;> rfl
  case requestDamage =>
    intro h d
    dsimp only [DisplayServer.requestDamage, requestDamage]
    split <;> rfl
  all_goals intros; rfl

/-- Of this, starting changes nothing but the owner of the selection. -/
theorem steady : DisplayServer.Steady fun d : HeadlessDisplay =>
    ((d.layout, d.extensions, d.events, d.refusesSelection), d.unredirected, d.opacities) :=
  { lasting.map fun v => (v.1, v.2.2) with
    claimSelection := by
      intro s d
      dsimp only [DisplayServer.claimSelection, claimSelection]
      split <;> rfl
    releaseSelection := by
      intro s d
      dsimp only [DisplayServer.releaseSelection, releaseSelection]
      split <;> rfl
    redirectSubwindows := by
      intro d
      dsimp only [DisplayServer.redirectSubwindows, redirectSubwindows]
      split <;> rfl }

/-- Of this, a switch changes nothing but which windows are drawn directly. -/
theorem unswitched : DisplayServer.Unswitched fun d : HeadlessDisplay =>
    ((d.layout, d.extensions, d.events, d.refusesSelection), d.selectionOwner?,
      d.opacities) where
  redirectWindow := fun _ _ => rfl
  unredirectWindow := by
    intro w d
    dsimp only [DisplayServer.unredirectWindow, unredirectWindow]
    split <;> rfl

/-- No request changes the screens, the extensions, the events that wait, or whether the selection
is refused. -/
theorem fixed : DisplayServer.Fixed fun d : HeadlessDisplay =>
    (d.layout, d.extensions, d.events, d.refusesSelection) :=
  { steady.map (·.1), unswitched.map (·.1) with
    unredirectSubwindows := fun _ => rfl
    setOpacity := fun _ _ _ => rfl }

theorem fixed_layout : DisplayServer.Fixed fun d : HeadlessDisplay => d.layout := fixed.map (·.1)

theorem fixed_offers : DisplayServer.Fixed fun d : HeadlessDisplay => d.extensions :=
  fixed.map (·.2.1)

theorem fixed_events : DisplayServer.Fixed fun d : HeadlessDisplay => d.events :=
  fixed.map (·.2.2.1)

theorem fixed_refusal : DisplayServer.Fixed fun d : HeadlessDisplay => d.refusesSelection :=
  fixed.map (·.2.2.2)

end HeadlessDisplay

namespace WindowStack

def Plain (s : WindowStack) : Prop := ∀ w ∈ s.windows, w.unredirected = false

theorem Plain.of_old {s s' : WindowStack} (h : s.Plain)
    (old : ∀ w' ∈ s'.windows, ∃ w ∈ s.windows, w.unredirected = false → w'.unredirected = false) :
    s'.Plain := by
  intro w' hw'
  obtain ⟨w, hw, stays⟩ := old w' hw'
  exact stays (h w hw)

theorem Keeps.plain {s s' : WindowStack} (keeps : s.Keeps s') (h : s.Plain) : s'.Plain := by
  refine h.of_old fun w' hw' => ?_
  obtain ⟨w, hw, same⟩ := keeps.old w' hw'
  exact ⟨w, hw, fun off => same.direct.trans off⟩

theorem Keeps.orderly {s s' : WindowStack} (keeps : s.Keeps s') (h : s.Orderly) : s'.Orderly where
  distinct := keeps.distinct
  hidden := by
    intro w' hw' placeholder
    obtain ⟨w, hw, same⟩ := keeps.old w' hw'
    rw [same.direct]
    exact h.hidden w hw (same.placeholder ▸ placeholder)

end WindowStack

namespace Compositor

open WindowStack

variable {σ : Type} [Renderer σ] {c c' : Compositor HeadlessDisplay σ}

/-- The windows are in order, and with a scene all but placeholders are tracked. -/
structure Watches (c : Compositor HeadlessDisplay σ) : Prop where
  orderly : c.windows.Orderly
  able : c.hasScene = true → .damage ∈ c.display.extensions
  tracked : c.hasScene = true →
    ∀ w ∈ c.windows.windows, w.isPlaceholder = false → w.damage?.isSome = true

omit [Renderer σ] in
theorem Watches.idle (orderly : c.windows.Orderly) (off : c.hasScene = false) : Watches c :=
  ⟨orderly, by simp [off], by simp [off]⟩

omit [Renderer σ] in
theorem new_plain (d : HeadlessDisplay) (r : σ) (options : CompositingOptions) :
    (Compositor.new d r options).windows.Plain := by
  intro w hw
  simp [Compositor.new, WindowStack.empty] at hw

omit [Renderer σ] in
theorem new_watches (d : HeadlessDisplay) (r : σ) (options : CompositingOptions) :
    Watches (Compositor.new d r options) :=
  Watches.idle ⟨List.nodup_nil, fun w hw _ => new_plain d r options w hw⟩ rfl

theorem Watches.aside (h : Watches c) (aside : Aside c c') : Watches c' := by
  have keeps := aside.windows h.orderly.distinct
  have scene := aside.scene
  have offers : c'.display.extensions = c.display.extensions :=
    aside.served HeadlessDisplay.fixed_offers.toLasting
  refine ⟨keeps.orderly h.orderly, ?_, ?_⟩
  · rw [scene, offers]
    exact h.able
  · intro on w' hw' real
    obtain ⟨w, hw, same⟩ := keeps.old w' hw'
    rw [same.damage]
    exact h.tracked (scene ▸ on) w hw (same.placeholder ▸ real)

/-! Starting. -/

omit [Renderer σ] in
theorem isPossible_offers (possible : c.isPossible = true) : .damage ∈ c.display.extensions := by
  simpa [DisplayServer.hasExtension, HeadlessDisplay.hasExtension] using
    c.hasExtension_of_isPossible possible

/-- A window's turn when all are tracked: it is not drawn directly afterwards unless it was. -/
theorem trackStep_plain (w : Toplevel) (t : HeadlessDisplay × σ)
    (off : w.unredirected = false) : (trackStep w t).1.unredirected = false :=
  trackStep_induction (P := fun u _ _ => u.unredirected = false) w t off (fun _ _ _ => off)
    fun _ _ _ _ => rfl

/-- Where damage objects are offered, every window but a placeholder is tracked then. -/
theorem trackStep_damage {t : HeadlessDisplay × σ}
    (able : .damage ∈ t.1.extensions) (w : Toplevel) :
    (trackStep w t).1.isPlaceholder = true ∨ (trackStep w t).1.damage?.isSome = true := by
  rw [trackStep]
  rcases w.track_cases t.1 t.2 with ⟨skip, e⟩ | ⟨_, _, ⟨_, _, refused, _⟩ | ⟨_, _, _, e⟩⟩
  · rw [e]
    simpa [or_comm] using skip
  · simp [DisplayServer.createDamage, HeadlessDisplay.createDamage, HeadlessDisplay.hasExtension,
      able] at refused
  · rw [e]
    exact Or.inr rfl

/-- All windows are tracked when a scene begins. -/
theorem visitWindows_watches (orderly : c.windows.Orderly)
    (able : .damage ∈ c.display.extensions) :
    Watches (c.visitWindows trackStep c.windows.ids) := by
  have evolved : c.windows.Evolves (c.visitWindows trackStep c.windows.ids).windows :=
    Evolves.visit orderly.distinct (c.display, c.renderer)
      (fun _ _ _ v t _ => trackStep_kept v t) trackStep_calm
  have offers : (c.visitWindows trackStep c.windows.ids).display.extensions =
      c.display.extensions :=
    visit_view (fun t : HeadlessDisplay × σ => t.1.extensions)
      (trackStep_lasting HeadlessDisplay.fixed_offers.toLasting) _ _ _
  have tracked : ∀ w ∈ (c.visitWindows trackStep c.windows.ids).windows.windows,
      w.isPlaceholder = true ∨ w.damage?.isSome = true := by
    refine visit_all (I := fun _ t => .damage ∈ t.1.extensions) able
      (fun w hw => Or.inr (List.mem_map_of_mem hw)) ?_
    intro id s t w _ able
    have same := trackStep_lasting HeadlessDisplay.fixed_offers.toLasting w t
    exact ⟨same ▸ able, trackStep_damage able w⟩
  refine ⟨evolved.orderly orderly, fun _ => offers ▸ able, fun _ w hw real => ?_⟩
  rcases tracked w hw with placeholder | done
  · simp [real] at placeholder
  · exact done

theorem visitWindows_plain (plain : c.windows.Plain) :
    (c.visitWindows trackStep c.windows.ids).windows.Plain := by
  refine plain.of_old ?_
  exact visit_old (R := fun w w' => w.unredirected = false → w'.unredirected = false)
    (fun _ off => off) (fun _ _ _ first second off => second (first off)) trackStep_plain _ _ _

/-- What a start has acquired, with the windows tracked. -/
theorem Acquires.watches {a : Compositor HeadlessDisplay σ} {d : HeadlessDisplay} {r : σ}
    (acquired : Acquires ({ c with phase := .starting } : Compositor HeadlessDisplay σ) a d r)
    (possible : c.isPossible = true) (orderly : c.windows.Orderly) (plain : c.windows.Plain)
    (frame : FrameBudget) :
    Watches (({ a with frame := frame } : Compositor HeadlessDisplay σ).visitWindows trackStep
        a.windows.ids) ∧
      (({ a with frame := frame } : Compositor HeadlessDisplay σ).visitWindows trackStep
        a.windows.ids).windows.Plain := by
  have offers : d.extensions = c.display.extensions :=
    acquired.steady HeadlessDisplay.fixed_offers.toSteady
  have dropped := Evolves.discardPlaceholders orderly.distinct
  have orderly' : a.windows.Orderly := by
    rw [acquired.shape]
    exact dropped.orderly orderly
  have able : .damage ∈ a.display.extensions := by
    rw [acquired.shape]
    exact offers ▸ isPossible_offers possible
  have plain' : a.windows.Plain := by
    rw [acquired.shape]
    exact fun w hw => plain w (List.mem_filter.mp hw).1
  exact ⟨visitWindows_watches (c := { a with frame := frame }) orderly' able,
    visitWindows_plain (c := { a with frame := frame }) plain'⟩

/-! Stopping. -/

/-- A window's turn when all are let go: it is composited afterwards, if it was tracked. -/
theorem untrackStep_plain (w : Toplevel) (t : HeadlessDisplay × σ)
    (plain : w.damage? = none → w.unredirected = false) :
    (untrackStep w t).1.unredirected = false :=
  untrackStep_induction (P := fun u _ _ => u.unredirected = false) w t plain fun _ _ _ => rfl

theorem Watches.untracked_plain (h : Watches c) (scene : c.hasScene = true)
    (t : HeadlessDisplay × σ) : (c.windows.visit c.windows.ids untrackStep t).1.Plain := by
  -- whoever is not tracked any more is composited
  let I : WindowStack → HeadlessDisplay × σ → Prop :=
    fun s _ => ∀ w ∈ s.windows, w.damage? = none → w.unredirected = false
  have start : I c.windows t := by
    intro w hw untracked
    by_cases placeholder : w.isPlaceholder = true
    · exact h.orderly.hidden w hw placeholder
    · have held := h.tracked scene w hw (by simpa using placeholder)
      simp [untracked] at held
  refine visit_all start (fun w hw => Or.inr (List.mem_map_of_mem hw)) ?_
  intro id s t w found plain
  have off := untrackStep_plain w t (plain w (mem_of_get? found).1)
  refine ⟨fun v hv untracked => ?_, off⟩
  rcases (mem_replace found).mp hv with rfl | ⟨hv, _⟩
  · exact off
  · exact plain v hv untracked

theorem Watches.finish (h : Watches c) : Watches c.finish :=
  Watches.idle ((finish_evolves h.orderly.distinct).orderly h.orderly) c.finish_frame.1

/-- When the scene goes, no window is drawn directly any more. -/
theorem Watches.finish_plain (h : Watches c) (scene : c.hasScene = true) :
    c.finish.windows.Plain := by
  obtain ⟨d, r, s, e, ⟨t, let_go⟩, _⟩ := c.finish_scene scene
  rw [e]
  intro w hw
  rw [let_go] at hw
  exact h.untracked_plain scene t w (List.mem_filter.mp hw).1

/-! Passes, and windows that come, go and change their place. -/

theorem Watches.switchWindows (h : Watches c) : Watches c.switchWindows.2 := by
  have evolved := switchWindows_evolves h.orderly.distinct
  have underway := midPass_underway h.orderly.distinct
  rw [switchWindows_eq] at evolved ⊢
  refine ⟨evolved.orderly h.orderly, fun scene => ?_, fun scene w' hw' real => ?_⟩
  · have offers : (c.midPass c.candidates).2.display.extensions = c.display.extensions :=
      midPass_unswitched HeadlessDisplay.fixed_offers.toUnswitched c.candidates
    exact offers ▸ h.able scene
  · obtain ⟨g, shape, near⟩ := underway.nearer
    obtain ⟨w, hw, rfl⟩ := List.mem_map.mp (shape ▸ hw')
    rw [(near w hw).damage]
    exact h.tracked scene w hw ((near w hw).looks.isPlaceholder ▸ real)

/-- With the option off a pass takes place because the option was changed. That is forgotten only
if no window had to wait, and then none is drawn directly any more. -/
theorem Watches.switchWindows_plain (h : Watches c) (applies : c.bypassApplies = true)
    (off : c.options.bypassFullscreen = false)
    (forgotten : c.switchWindows.2.bypass.optionChanged = false) :
    c.switchWindows.2.windows.Plain := by
  have watches := h.switchWindows
  have underway := midPass_underway h.orderly.distinct
  rw [switchWindows_eq] at watches forgotten ⊢
  have noted : c.bypass.optionChanged = true := by
    simpa [off] using (bypassApplies_cases applies).2
  have changed : (c.midPass c.candidates).2.bypass.optionChanged = true := by
    rcases underway.progress with ⟨_, _, bypass, _⟩ | ⟨_, bypass, _⟩
    · rw [bypass, noted]
    · rw [bypass]
      exact noted
  have untroubled : (c.midPass c.candidates).2.debounced = false := by
    simpa [changed] using forgotten
  intro w hw
  rcases midPass_decided h.orderly.distinct untroubled w hw with placeholder | decided
  · exact watches.orderly.hidden w hw placeholder
  · rw [decided, chosen_of_off off]

theorem Watches.entered (h : Watches c) {w : Toplevel} (off : w.unredirected = false)
    (fresh : c.windows.contains w.id = false) : Watches (c.entered w) := by
  have offers : (c.entered w).display.extensions = c.display.extensions :=
    entering_lasting c HeadlessDisplay.fixed_offers.toLasting w
  refine ⟨⟨entered_distinct fresh h.orderly.distinct, entered_hidden (fun _ => off) h.orderly⟩,
    fun scene => offers ▸ h.able scene, fun scene v hv real => ?_⟩
  rcases List.mem_append.mp hv with old | new
  · exact h.tracked scene v old real
  · have able : .damage ∈ c.display.extensions := h.able scene
    have entering : c.entering w = trackStep w (c.display, c.renderer) := by
      rw [entering, if_pos (by exact scene)]
    rw [List.mem_singleton.mp new, entering] at real ⊢
    rcases trackStep_damage (t := (c.display, c.renderer)) able w with placeholder | tracked
    · simp [real] at placeholder
    · exact tracked

/-- A window that enters is not drawn directly unless it was. -/
theorem entering_plain {w : Toplevel} (off : w.unredirected = false) :
    (c.entering w).1.unredirected = false := by
  rw [entering]
  split
  · exact trackStep_plain w _ off
  · exact off

/-- Whoever is there after a window left is its placeholder, or another one that was there. -/
theorem left_old (w : Toplevel) (keepPlaceholder : Bool) {v : Toplevel}
    (hv : v ∈ (c.left w keepPlaceholder).windows.windows) :
    (keepPlaceholder = true ∧ c.hasScene = true ∧ v = (c.leaving w true).1.becomePlaceholder) ∨
      (v ∈ c.windows.windows ∧ v.id ≠ w.id) := by
  dsimp only [left] at hv
  split at hv
  · rename_i stays
    obtain ⟨kept, scene⟩ := Bool.and_eq_true_iff.mp stays
    rcases mem_modify.mp hv with ⟨_, _, _, rfl⟩ | ⟨old, other⟩
    · exact Or.inl ⟨kept, scene, by rw [stays]⟩
    · exact Or.inr ⟨old, other⟩
  · obtain ⟨old, other⟩ := List.mem_filter.mp hv
    exact Or.inr ⟨old, by simpa using other⟩

theorem Watches.left (h : Watches c) (w : Toplevel) (keepPlaceholder : Bool) :
    Watches (c.left w keepPlaceholder) := by
  have offers : (c.left w keepPlaceholder).display.extensions = c.display.extensions :=
    leaving_lasting c HeadlessDisplay.fixed_offers.toLasting w _
  refine ⟨⟨left_distinct w keepPlaceholder h.orderly.distinct,
    left_hidden w keepPlaceholder h.orderly⟩, fun scene => offers ▸ h.able scene,
    fun scene v hv real => ?_⟩
  rcases left_old w keepPlaceholder hv with ⟨_, _, rfl⟩ | ⟨old, _⟩
  · simp [Toplevel.becomePlaceholder, Toplevel.isPlaceholder] at real
  · exact h.tracked scene v old real

omit [Renderer σ] in
theorem Watches.replaced (h : Watches c) {id : WindowId} {old w : Toplevel}
    (found : c.windows.get? id = some old) (same : Toplevel.Same old w) (r : σ) :
    Watches { c with windows := c.windows.modify id fun _ => w, renderer := r } := by
  have evolved := replace_evolves h.orderly.distinct found same.kept same.awaited
  refine ⟨evolved.orderly h.orderly, h.able, fun scene v hv real => ?_⟩
  rcases (mem_replace found).mp hv with rfl | ⟨hv, _⟩
  · rw [same.damage]
    exact h.tracked scene old (mem_of_get? found).1 (same.kept.isPlaceholder ▸ real)
  · exact h.tracked scene v hv real

end Compositor

end Compositing
