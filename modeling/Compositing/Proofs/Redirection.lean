import Compositing.Proofs.Audit
import Compositing.Proofs.Watching
import Mathlib.Tactic.IntervalCases

/-!
# What is drawn directly, on both sides

A window says of itself whether it is drawn directly to the screen, and the server keeps the ids
that are. A pass switches both sides at once, and with a scene both go. A window that leaves is
forgotten on one side only: the server goes on to draw its id directly until the scene goes. So
what a window says of itself always holds of the server as well. The other way round it holds in a
run exactly as long as no window that is drawn directly leaves a placeholder behind, and no window
comes whose id the server still draws directly.
-/

namespace Compositing

namespace HeadlessDisplay

/-- What is drawn directly, starting does not change. -/
theorem steady_unredirected : DisplayServer.Steady fun d : HeadlessDisplay => d.unredirected :=
  steady.map (·.2.1)

theorem mem_unredirectWindow {w i : WindowId} {d : HeadlessDisplay} :
    i ∈ (DisplayServer.unredirectWindow w d).unredirected ↔ i ∈ d.unredirected ∨ i = w := by
  dsimp only [DisplayServer.unredirectWindow, unredirectWindow]
  split
  · rename_i already
    have already : w ∈ d.unredirected := List.contains_iff_mem.mp already
    constructor
    · exact Or.inl
    · rintro (drawn | rfl)
      · exact drawn
      · exact already
  · simp

theorem mem_redirectWindow {w i : WindowId} {d : HeadlessDisplay} :
    i ∈ (DisplayServer.redirectWindow w d).unredirected ↔ i ∈ d.unredirected ∧ i ≠ w := by
  simp [DisplayServer.redirectWindow, redirectWindow]

end HeadlessDisplay

namespace WindowStack

/-- The windows that say so are drawn directly, and all ids that are drawn directly are theirs or
are `gone`. -/
structure Mirrored (gone : WindowId → Prop) (s : WindowStack) (drawn : List WindowId) : Prop where
  shown : ∀ w ∈ s.windows, w.unredirected = true → w.id ∈ drawn
  owned : ∀ id ∈ drawn, gone id ∨ ∃ w ∈ s.windows, w.id = id ∧ w.unredirected = true

variable {gone : WindowId → Prop} {s s' : WindowStack} {drawn drawn' : List WindowId}

theorem Mirrored.plain (h : s.Mirrored gone []) : s.Plain := by
  intro w hw
  by_contra direct
  have drawn := h.shown w hw (by simpa using direct)
  simp at drawn

theorem Plain.mirrored (plain : s.Plain) : s.Mirrored gone [] := by
  constructor
  · intro w hw direct
    simp [plain w hw] at direct
  · simp

theorem Mirrored.of_same (h : s.Mirrored gone drawn)
    (old : ∀ w' ∈ s'.windows, w'.unredirected = true →
      ∃ w ∈ s.windows, w'.id = w.id ∧ w.unredirected = true)
    (stays : ∀ w ∈ s.windows, w.unredirected = true →
      ∃ w' ∈ s'.windows, w'.id = w.id ∧ w'.unredirected = true) : s'.Mirrored gone drawn := by
  constructor
  · intro w' hw' direct
    obtain ⟨w, hw, same, direct⟩ := old w' hw' direct
    rw [same]
    exact h.shown w hw direct
  · intro id listed
    rcases h.owned id listed with left | ⟨w, hw, rfl, direct⟩
    · exact Or.inl left
    · exact Or.inr (stays w hw direct)

theorem Keeps.mirrored (keeps : s.Keeps s') (orderly : s.Orderly) (h : s.Mirrored gone drawn) :
    s'.Mirrored gone drawn := by
  refine h.of_same (fun w' hw' direct => ?_) fun w hw direct => ?_
  · obtain ⟨w, hw, same⟩ := keeps.old w' hw'
    exact ⟨w, hw, same.id, same.direct.symm.trans direct⟩
  · have real : w.isPlaceholder = false := by
      by_contra placeholder
      simp [orderly.hidden w hw (by simpa using placeholder)] at direct
    obtain ⟨w', hw', same⟩ := keeps.stays w hw real
    exact ⟨w', hw', same.id, same.direct.trans direct⟩

/-- One window is switched on both sides. -/
theorem Mirrored.switch (h : s.Mirrored gone drawn) {id : WindowId} {w u : Toplevel}
    (found : s.get? id = some w) (same : u.id = id)
    (switched : ∀ i, i ∈ drawn' ↔ (i ∈ drawn ∧ i ≠ id) ∨ (i = id ∧ u.unredirected = true)) :
    (s.modify id fun _ => u).Mirrored gone drawn' := by
  constructor
  · intro v hv direct
    rw [switched]
    rcases (mem_replace found).mp hv with rfl | ⟨hv, other⟩
    · exact Or.inr ⟨same, direct⟩
    · exact Or.inl ⟨h.shown v hv direct, other⟩
  · intro i listed
    rcases (switched i).mp listed with ⟨before, other⟩ | ⟨rfl, direct⟩
    · rcases h.owned i before with left | ⟨v, hv, rfl, direct⟩
      · exact Or.inl left
      · exact Or.inr ⟨v, (mem_replace found).mpr (Or.inr ⟨hv, other⟩), rfl, direct⟩
    · exact Or.inr ⟨u, (mem_replace found).mpr (Or.inl rfl), same, direct⟩

end WindowStack

namespace Compositor

open WindowStack

variable {ω σ : Type} [Renderer σ] {gone : WindowId → Prop} {ok : Occasion → Prop}
  {c c' : Compositor HeadlessDisplay σ}

/-- The windows are watched, what they say of themselves holds of the server, and without a scene
nothing is drawn directly. -/
structure Mirrors (gone : WindowId → Prop) (c : Compositor HeadlessDisplay σ) : Prop
    extends Watches c where
  mirrored : c.windows.Mirrored gone c.display.unredirected
  resting : c.hasScene = false → c.display.unredirected = []

omit [Renderer σ] in
theorem Mirrors.plain (h : Mirrors gone c) (off : c.hasScene = false) : c.windows.Plain := by
  have mirrored := h.mirrored
  rw [h.resting off] at mirrored
  exact mirrored.plain

/-! The moves. -/

theorem Mirrors.aside (h : Mirrors gone c) (aside : Aside c c') : Mirrors gone c' := by
  have drawn : c'.display.unredirected = c.display.unredirected :=
    aside.served HeadlessDisplay.steady_unredirected.toLasting
  refine ⟨h.toWatches.aside aside, ?_, fun off => ?_⟩
  · rw [drawn]
    exact (aside.windows h.orderly.distinct).mirrored h.orderly h.mirrored
  · rw [drawn]
    exact h.resting (aside.scene ▸ off)

/-- A scene begins with no window drawn directly. -/
theorem Mirrors.setup (h : Mirrors gone c) (off : c.hasScene = false)
    (sound : c.setup.fault? = none) : Mirrors gone c.setup := by
  have none := h.resting off
  by_cases on : c.setup.hasScene = true
  · obtain ⟨_, possible, a, d, r, frame, b, acquired, tracked, asides⟩ :=
      c.setup_begins off on sound
    obtain ⟨watches, plain⟩ := acquired.watches possible h.orderly (h.plain off) frame
    have drawn : d.unredirected = [] :=
      (acquired.steady HeadlessDisplay.steady_unredirected).trans none
    have begun : Mirrors gone (({ a with frame := frame } :
        Compositor HeadlessDisplay σ).visitWindows trackStep a.windows.ids) := by
      have still := visit_view (fun t : HeadlessDisplay × σ => t.1.unredirected)
        (trackStep_lasting HeadlessDisplay.steady_unredirected.toLasting) a.windows.ids a.windows
        (a.display, a.renderer)
      have empty : a.display.unredirected = [] := by
        rw [acquired.shape]
        exact drawn
      refine ⟨watches, ?_, fun _ => still.trans empty⟩
      rw [show (({ a with frame := frame } : Compositor HeadlessDisplay σ).visitWindows trackStep
        a.windows.ids).display.unredirected = [] from still.trans empty]
      exact plain.mirrored
    have active := (begun.aside tracked).aside (Aside.checkBypass b true)
    have told : Mirrors gone (({ b.checkBypass true with phase := .active } :
        Compositor HeadlessDisplay σ).emit (.toggled true)) := { active with }
    exact told.aside asides
  · obtain ⟨d, r, stack, selection, e, _, which, steady⟩ := c.setup_rests off (by simpa using on)
    have drawn : d.unredirected = [] := (steady HeadlessDisplay.steady_unredirected).trans none
    have windows : stack.Orderly ∧ stack.Plain := by
      rcases which with rfl | rfl
      · exact ⟨h.orderly, h.plain off⟩
      · exact ⟨(Evolves.discardPlaceholders h.orderly.distinct).orderly h.orderly,
          fun w hw => h.plain off w (List.mem_filter.mp hw).1⟩
    rw [e]
    refine ⟨Watches.idle windows.1 off, ?_, fun _ => drawn⟩
    rw [drawn]
    exact windows.2.mirrored

/-- When the scene goes, both sides forget what was drawn directly. -/
theorem Mirrors.finish (h : Mirrors gone c) : Mirrors gone c.finish := by
  by_cases scene : c.hasScene = true
  · have watches := h.toWatches.finish
    have plain := h.toWatches.finish_plain scene
    obtain ⟨d, r, s, e, _, d₀, d₁, released, served⟩ := c.finish_scene scene
    have drawn : d.unredirected = [] := by
      have forgotten := (served HeadlessDisplay.steady_unredirected.toLasting).2 fun _ _ _ => rfl
      rw [released]
      cases c.selection? with
      | none => exact forgotten
      | some name =>
        exact (HeadlessDisplay.steady_unredirected.releaseSelection name d₁).trans forgotten
    rw [e] at watches plain ⊢
    refine ⟨watches, ?_, fun _ => drawn⟩
    rw [drawn]
    exact plain.mirrored
  · rwa [c.finish_of_off (by simpa using scene)]

/-- A window's turn in a pass: if it is switched, then on both sides. -/
theorem bypassStep_mirrored (now : Nanos) (eligible : List WindowId) {s : WindowStack}
    {p : BypassPass HeadlessDisplay σ} (distinct : s.Distinct)
    (h : s.Mirrored gone p.display.unredirected) {id : WindowId} {w : Toplevel}
    (found : s.get? id = some w) :
    (s.modify id fun _ => (bypassStep now eligible w p).1).Mirrored gone
      (bypassStep now eligible w p).2.display.unredirected := by
  obtain ⟨hw, rfl⟩ := mem_of_get? found
  refine bypassStep_induction (P := fun u d _ =>
    (s.modify w.id fun _ => u).Mirrored gone d.unredirected) now eligible w p ?_ ?_ ?_
  · rw [replace_self distinct found]
    exact h
  · refine h.switch found rfl fun i => ?_
    have listed := HeadlessDisplay.mem_unredirectWindow (w := w.id) (i := i) (d := p.display)
    simp only [and_true]
    by_cases here : i = w.id
    · exact ⟨fun _ => Or.inr here, fun _ => listed.mpr (Or.inr here)⟩
    · simpa [here] using listed
  · have same := Toplevel.addDamageFull_same { w with unredirected := false }
    refine h.switch found same.id fun i => ?_
    have listed := HeadlessDisplay.mem_redirectWindow (w := w.id) (i := i) (d := p.display)
    simpa [same.direct] using listed

theorem Mirrors.pass (h : Mirrors gone c) : Mirrors gone c.bypassPass := by
  rw [bypassPass_eq]
  split
  · rename_i applies
    have scene := (bypassApplies_cases applies).1
    have switched : Mirrors gone c.switchWindows.2 := by
      refine ⟨h.toWatches.switchWindows, ?_, fun off => ?_⟩
      · let P : List WindowId → WindowStack → BypassPass HeadlessDisplay σ → Prop :=
          fun _ s p => s.Distinct ∧ s.Mirrored gone p.display.unredirected
        have start : P c.candidates c.windows ⟨c.bypass, c.display, c.renderer, false, false⟩ :=
          ⟨h.orderly.distinct, h.mirrored⟩
        rw [switchWindows_eq]
        refine (visit_induction start (fun _ _ _ _ _ same => same) ?_).2
        rintro id rest s p w found ⟨distinct, mirrored⟩
        refine ⟨distinct.modify fun v hv here => ?_,
          bypassStep_mirrored c.timers.now c.chosen distinct mirrored found⟩
        exact (bypassStep_nearer (c := c) w p).looks.id.trans (mem_of_get? found).2
      · rw [switchWindows_eq] at off
        simp [scene] at off
    split
    · have shaped : Mirrors gone { c.switchWindows.2 with
          renderer := Renderer.setOverlayShape c.switchWindows.2.overlayShape
            c.switchWindows.2.renderer } := { switched with }
      exact shaped.aside (Aside.addRepaintFull _)
    · exact switched
  · exact h

theorem Mirrors.entered (h : Mirrors gone c) {w : Toplevel} (off : w.unredirected = false)
    (fresh : c.windows.contains w.id = false) : Mirrors gone (c.entered w) := by
  have drawn : (c.entered w).display.unredirected = c.display.unredirected :=
    entering_lasting c HeadlessDisplay.steady_unredirected.toLasting w
  refine ⟨h.toWatches.entered off fresh, ?_, fun none => drawn.trans (h.resting none)⟩
  rw [drawn]
  refine h.mirrored.of_same (fun v hv direct => ?_) fun v hv direct => ?_
  · rcases List.mem_append.mp hv with old | new
    · exact ⟨v, old, rfl, direct⟩
    · rw [List.mem_singleton.mp new, entering_plain off] at direct
      simp at direct
  · exact ⟨v, List.mem_append_left _ hv, rfl, direct⟩

/-- A window leaves, and its id may be drawn directly as one that is gone. -/
theorem Mirrors.left (h : Mirrors gone c) (lost : ∀ id, gone id) (w : Toplevel)
    (keepPlaceholder : Bool) : Mirrors gone (c.left w keepPlaceholder) := by
  have drawn : (c.left w keepPlaceholder).display.unredirected = c.display.unredirected :=
    leaving_lasting c HeadlessDisplay.steady_unredirected.toLasting w _
  refine ⟨h.toWatches.left w keepPlaceholder, ?_, fun off => drawn.trans (h.resting off)⟩
  rw [drawn]
  refine ⟨fun v hv direct => ?_, fun id _ => Or.inl (lost id)⟩
  rcases left_old w keepPlaceholder hv with ⟨_, _, rfl⟩ | ⟨old, _⟩
  · simp [Toplevel.becomePlaceholder] at direct
  · exact h.mirrored.shown v old direct

theorem Mirrors.setGeometry (h : Mirrors gone c) (id : WindowId) (geometry : Rect) :
    Mirrors gone (c.setGeometry id geometry) := by
  rcases c.setGeometry_cases id geometry with e | ⟨old, w, r, found, same, _, e⟩
  · rw [e]
    exact h
  · have moved : Mirrors gone { c with
        windows := c.windows.modify id fun _ => w, renderer := r } := by
      obtain ⟨here, rfl⟩ := mem_of_get? found
      refine ⟨h.toWatches.replaced found same r, ?_, h.resting⟩
      refine h.mirrored.of_same (fun v hv direct => ?_) fun v hv direct => ?_
      · rcases (mem_replace found).mp hv with rfl | ⟨hv, _⟩
        · exact ⟨old, here, same.id, same.direct.symm.trans direct⟩
        · exact ⟨v, hv, rfl, direct⟩
      · by_cases moved : v.id = old.id
        · obtain rfl := eq_of_get? h.orderly.distinct found hv moved
          exact ⟨w, (mem_replace found).mpr (Or.inl rfl), same.id, same.direct.trans direct⟩
        · exact ⟨v, (mem_replace found).mpr (Or.inr ⟨hv, moved⟩), rfl, direct⟩
    rw [e]
    exact (moved.aside (Aside.addRepaint _ _)).aside (Aside.checkBypass _ true)

theorem Shift.mirrors (shift : Shift c c') (sound : c'.fault? = none) (h : Mirrors gone c) :
    Mirrors gone c' := by
  cases shift with
  | start s o b off _ =>
    have tuned : Mirrors gone (c.retune s o b) := { h with }
    exact tuned.setup off sound
  | stop s o b _ =>
    have tuned : Mirrors gone (c.retune s o b) := { h with }
    exact tuned.finish
  | free _ _ => exact { h with }

/-- What a move preserves, if whoever comes is not drawn directly, and whoever goes is gone. -/
theorem Move.mirrors (plain : ∀ w, ok (.arrival w) → w.unredirected = false)
    (lost : ok .departure → ∀ id, gone id) (move : Move ok c c') (sound : c'.fault? = none)
    (h : Mirrors gone c) : Mirrors gone c' := by
  cases move with
  | aside aside => exact h.aside aside
  | shift shift => exact shift.mirrors sound h
  | lose _ _ =>
    have free : Mirrors gone { c with selection? := none } := { h with }
    exact free.finish
  | restart scene =>
    have stopped : Mirrors gone { c.finish with phase := .starting } := { h.finish with }
    rw [Compositor.restart, if_pos scene]
    exact stopped.aside (Aside.defer _ _)
  | switch _ asides =>
    rename_i o _
    have noted : Mirrors gone (c.retune c.suspended o c.bypass.noteOptionChanged) := { h with }
    exact (noted.aside asides).aside (Aside.checkBypass _ true)
  | pass popped =>
    rcases popped with rfl | ⟨_, t, _, rfl⟩
    · exact h.pass
    · have timed : Mirrors gone { c with timers := t } := { h with }
      exact timed.pass
  | turn popped =>
    have start : Mirrors gone { c with deferred := [] } := { h with }
    rcases popped with rfl | ⟨_, t, _, rfl⟩
    · exact runDeferred_preserve_unbroken Shift.mirrors sound start
    · exact runDeferred_preserve_unbroken (c := { c with timers := t }) Shift.mirrors sound
        { start with }
  | enter arrived fresh =>
    have entered := h.entered (plain _ arrived) fresh
    exact (entered.aside (Aside.checkBypass _ true)).aside (Aside.scheduleRepaint _)
  | leave keepPlaceholder departed _ _ =>
    rename_i w _ _
    have left := h.left (lost departed) w keepPlaceholder
    exact (left.aside (Aside.addRepaint _ _)).aside (Aside.checkBypass _ true)
  | reshape id geometry => exact h.setGeometry id geometry
  | hear _ => exact { h with }

/-! Steps and runs. -/

def Concurs (c : Compositor HeadlessDisplay σ) : Prop :=
  ∀ w ∈ c.windows.windows, w.unredirected = c.display.isUnredirected w.id

/-- The step leaves a window that is not drawn directly under an id that is: a window that is
drawn directly leaves a placeholder behind, or one comes whose id still is drawn directly. -/
def Strays (c : Compositor HeadlessDisplay σ) (k : Step ω) : Prop :=
  (∃ w ∈ c.windows.windows, w.unredirected = true ∧ k = .removeWindow w.id true) ∨
    ∃ w, k = .addWindow w ∧ c.windows.contains w.id = false ∧ c.display.isUnredirected w.id = true

omit [Renderer σ] in
theorem Concurs.mirrored (h : Concurs c) :
    c.windows.Mirrored (· ∉ c.windows.ids) c.display.unredirected := by
  constructor
  · intro w hw direct
    exact List.contains_iff_mem.mp ((h w hw).symm.trans direct)
  · intro id drawn
    by_cases known : id ∈ c.windows.ids
    · obtain ⟨w, hw, rfl⟩ := List.mem_map.mp known
      exact Or.inr ⟨w, hw, rfl, (h w hw).trans (List.contains_iff_mem.mpr drawn)⟩
    · exact Or.inl known

omit [Renderer σ] in
theorem Mirrors.concurs (h : Mirrors gone c) (here : ∀ w ∈ c.windows.windows, ¬ gone w.id) :
    Concurs c := by
  intro w hw
  rw [Bool.eq_iff_iff, HeadlessDisplay.isUnredirected, List.contains_iff_mem]
  constructor
  · exact h.mirrored.shown w hw
  · intro drawn
    rcases h.mirrored.owned w.id drawn with left | ⟨v, hv, same, direct⟩
    · exact (here w hw left).elim
    · rwa [← eq_of_id_eq h.orderly.distinct hv hw same]

/-- Windows come only as they are added. -/
theorem step_known (W : World ω HeadlessDisplay σ) (distinct : c.windows.Distinct) {k : Step ω}
    (own : k.Own (· = .news)) : ∀ w ∈ (c.step W k).windows.windows, w.id ∈ c.windows.ids := by
  intro w hw
  by_cases inner : k.Inner
  · obtain ⟨v, hv, kept⟩ :=
      ((evolves_preserved distinct).step W inner (Evolves.refl distinct)).old w hw
    rw [kept.id]
    exact List.mem_map_of_mem hv
  · cases k with
    | setClientState id state =>
      have ids : (c.restated id state).windows.ids = c.windows.ids :=
        modify_ids fun _ _ same => same
      rw [← ids]
      rcases c.setClientState_windows id state with e | ⟨_, _, _, _, e⟩
      · rw [ids]
        exact List.mem_map_of_mem (e ▸ hw)
      · exact List.mem_map_of_mem (e ▸ hw)
    | addWindow w => cases own
    | removeWindow id keepPlaceholder => cases own
    | outside o => exact own.elim
    | _ => exact (inner trivial).elim

theorem step_concurs (W : World ω HeadlessDisplay σ) {k : Step ω} (own : k.Own (· = .news))
    (whole : Mirrors (fun _ => True) c) (h : Concurs c) (sound : (c.step W k).fault? = none) :
    (c.step W k).Concurs := by
  have here : Mirrors (· ∉ c.windows.ids) c := { whole with mirrored := h.mirrored }
  have kept : Mirrors (· ∉ c.windows.ids) (c.step W k) := by
    refine (step_moves W c own).preserve_unbroken (fun move sound h => ?_) sound here
    exact move.mirrors (fun _ arrived => by simp at arrived) (by simp) sound h
  exact kept.concurs fun w hw unknown => unknown (step_known W whole.orderly.distinct own w hw)

/-- A new window concurs with the server unless its id is still drawn directly. -/
theorem addWindow_concurs_iff (h : Concurs c) {w : Toplevel} (off : w.unredirected = false)
    (fresh : c.windows.contains w.id = false) :
    (c.addWindow w).Concurs ↔ c.display.isUnredirected w.id = false := by
  rcases c.addWindow_cases w with ⟨known, _⟩ | ⟨_, e⟩
  · simp [known] at fresh
  have entered : (c.addWindow w).windows = (c.entered w).windows ∧
      (c.addWindow w).display = (c.entered w).display := by
    rw [e]
    split <;> simp
  have drawn : (c.addWindow w).display.isUnredirected = c.display.isUnredirected := by
    have same : (c.entered w).display.unredirected = c.display.unredirected :=
      entering_lasting c HeadlessDisplay.steady_unredirected.toLasting w
    funext id
    rw [entered.2, HeadlessDisplay.isUnredirected, same, HeadlessDisplay.isUnredirected]
  have new := entering_plain (c := c) off
  have id := (c.entering_kept w).id
  rw [Concurs, entered.1, drawn]
  constructor
  · intro concurs
    have stale := concurs (c.entering w).1 (List.mem_append_right _ (List.mem_singleton_self _))
    rw [new, id] at stale
    exact stale.symm
  · intro free v hv
    rcases List.mem_append.mp hv with old | here
    · exact h v old
    · rw [List.mem_singleton.mp here, new, id, free]

/-- Whoever is left concurs with the server unless it is the placeholder of a window that was
drawn directly. -/
theorem removeWindow_concurs_iff (whole : Mirrors (fun _ => True) c) (h : Concurs c)
    {w : Toplevel} (found : c.windows.get? w.id = some w) (real : w.isPlaceholder = false)
    (keepPlaceholder : Bool) :
    (c.removeWindow w.id keepPlaceholder).2.Concurs ↔
      ¬ (keepPlaceholder = true ∧ w.unredirected = true) := by
  have hw := (mem_of_get? found).1
  rcases c.removeWindow_cases w.id keepPlaceholder with ⟨none, _⟩ | ⟨v, found', _, e⟩
  · simp [none w found] at real
  obtain rfl : w = v := Option.some.inj (found.symm.trans found')
  have left : (c.removeWindow w.id keepPlaceholder).2.windows =
        (c.left w keepPlaceholder).windows ∧
      (c.removeWindow w.id keepPlaceholder).2.display = (c.left w keepPlaceholder).display := by
    rw [e]
    split <;> simp
  have drawn : (c.removeWindow w.id keepPlaceholder).2.display.isUnredirected =
      c.display.isUnredirected := by
    have same : (c.left w keepPlaceholder).display.unredirected = c.display.unredirected :=
      leaving_lasting c HeadlessDisplay.steady_unredirected.toLasting w _
    funext id
    rw [left.2, HeadlessDisplay.isUnredirected, same, HeadlessDisplay.isUnredirected]
  have id := (c.leaving_kept w true).id
  rw [Concurs, left.1, drawn]
  constructor
  · rintro concurs ⟨rfl, direct⟩
    have scene : c.hasScene = true := by
      by_contra off
      simp [whole.plain (by simpa using off) w hw] at direct
    have stays : (c.leaving w true).1.becomePlaceholder ∈ (c.left w true).windows.windows := by
      simp only [Compositor.left, scene, Bool.and_self, if_true]
      exact mem_modify.mpr (Or.inl ⟨w, hw, rfl, rfl⟩)
    have stale := concurs _ stays
    simp [Toplevel.becomePlaceholder, id, ← h w hw, direct] at stale
  · intro straight v hv
    rcases left_old w keepPlaceholder hv with ⟨kept, _, rfl⟩ | ⟨old, _⟩
    · have plain : w.unredirected = false := by
        by_contra direct
        exact straight ⟨kept, by simpa using direct⟩
      simp [Toplevel.becomePlaceholder, id, ← h w hw, plain]
    · exact h v old

/-- Both sides concur after a step exactly if it does not stray. -/
theorem step_concurs_iff (change : ω → DisplayChange) (renderer : ω → σ → σ) {k : Step ω}
    (plain : k.Adds fun w => w.unredirected = false) (whole : Mirrors (fun _ => True) c)
    (h : Concurs c) (sound : (c.step (DisplayChange.world change renderer) k).fault? = none) :
    (c.step (DisplayChange.world change renderer) k).Concurs ↔ ¬ c.Strays k := by
  have other (own : k.Own (· = .news)) (straight : ¬ c.Strays k) :
      (c.step (DisplayChange.world change renderer) k).Concurs ↔ ¬ c.Strays k :=
    iff_of_true (step_concurs _ own whole h sound) straight
  cases k with
  | addWindow w =>
    cases known : c.windows.contains w.id with
    | true =>
      have same : c.step (DisplayChange.world change renderer) (.addWindow w) = c := by
        simp [step, Compositor.addWindow, known]
      rw [same]
      exact iff_of_true h (by simp [Strays, known])
    | false =>
      refine (addWindow_concurs_iff h plain known).trans ?_
      simp [Strays, known]
  | removeWindow id keepPlaceholder =>
    rcases c.removeWindow_cases id keepPlaceholder with ⟨none, e⟩ | ⟨w, found, real, _⟩
    · have same : c.step (DisplayChange.world change renderer)
          (.removeWindow id keepPlaceholder) = c := e
      rw [same]
      refine iff_of_true h ?_
      rintro (⟨w, hw, direct, here⟩ | ⟨_, here, _⟩)
      · obtain ⟨rfl, _⟩ := Step.removeWindow.inj here
        have found := get?_of_mem whole.orderly.distinct hw
        simp [whole.orderly.hidden w hw (none w found)] at direct
      · cases here
    · obtain ⟨hw, rfl⟩ := mem_of_get? found
      refine (removeWindow_concurs_iff whole h found real keepPlaceholder).trans ?_
      refine not_congr ⟨fun both => Or.inl ⟨w, hw, both.2, by rw [both.1]⟩, ?_⟩
      rintro (⟨v, hv, direct, here⟩ | ⟨_, here, _⟩)
      · obtain ⟨same, kept⟩ := Step.removeWindow.inj here
        obtain rfl := eq_of_id_eq whole.orderly.distinct hv hw same.symm
        exact ⟨kept, direct⟩
      · cases here
  | takeEvents => exact iff_of_true h (by simp [Strays])
  | outside o =>
    have same := ((change o).apply_kept c.display).2.2
    refine iff_of_true (fun w hw => (h w hw).trans ?_) (by simp [Strays])
    exact congrArg (·.contains w.id) same.symm
  | handleDisplayEvent e => cases e <;> exact other (by trivial) (by simp [Strays])
  | dispatchDisplayEvents => exact other rfl (by simp [Strays])
  | _ => exact other trivial (by simp [Strays])

theorem step_mirrors (change : ω → DisplayChange) (renderer : ω → σ → σ) {k : Step ω}
    (plain : k.Adds fun w => w.unredirected = false)
    (sound : (c.step (DisplayChange.world change renderer) k).fault? = none)
    (h : Mirrors (fun _ => True) c) :
    Mirrors (fun _ => True) (c.step (DisplayChange.world change renderer) k) := by
  have own (own : k.Own (Occasion.Brings fun w => w.unredirected = false)) :=
    (step_moves (DisplayChange.world change renderer) c own).preserve_unbroken
      (fun move => move.mirrors (fun _ arrived => arrived) fun _ _ => trivial) sound h
  cases k with
  | takeEvents => exact { h with }
  | outside o =>
    obtain ⟨_, extensions, drawn⟩ := (change o).apply_kept c.display
    exact { h with
      able := fun scene => extensions.symm ▸ h.able scene
      mirrored := drawn.symm ▸ h.mirrored
      resting := fun off => drawn.trans (h.resting off) }
  | addWindow w => exact own plain
  | handleDisplayEvent e => cases e <;> exact own trivial
  | _ => exact own trivial

/-- In every reachable compositor on a server in memory, a window that says it is drawn directly
is, and without a scene no id is. In all states of a run the windows and the server concur in what
is drawn directly if and only if no step of it strays. -/
theorem concurs_iff_never_strays {W : World ω HeadlessDisplay σ} {change : ω → DisplayChange}
    {renderer : ω → σ → σ} (world : W = DisplayChange.world change renderer)
    {start : Compositor HeadlessDisplay σ} {extensions : List Extension} {layout : Layout} {r : σ}
    {options : CompositingOptions} (new : start = Compositor.new (.new extensions layout) r options)
    {steps : List (Step ω)} (plain : ∀ k ∈ steps, k.Adds fun w => w.unredirected = false)
    (sound : (start.run W steps).fault? = none) :
    (∀ w ∈ (start.run W steps).windows.windows, w.unredirected = true →
        (start.run W steps).display.isUnredirected w.id = true) ∧
      ((start.run W steps).hasScene = false → (start.run W steps).display.unredirected = []) ∧
      ((∀ before, before <+: steps → (start.run W before).Concurs) ↔
        ∀ before k, before ++ [k] <+: steps → ¬ (start.run W before).Strays k) := by
  subst world
  have empty : start.windows.windows = [] ∧ start.display.unredirected = [] := by
    rw [new]
    exact ⟨rfl, rfl⟩
  have brings {before : List (Step ω)} {k : Step ω} (reached : before ++ [k] <+: steps) :
      k.Adds fun w => w.unredirected = false :=
    plain k (reached.subset (by simp))
  have whole (before : List (Step ω)) (reached : before <+: steps) :
      Mirrors (fun _ => True) (start.run (DisplayChange.world change renderer) before) := by
    refine run_along _ ?_ (fun before k reached h => ?_) reached
    · refine ⟨new ▸ new_watches _ _ _, ?_, fun _ => empty.2⟩
      have none : start.windows.Plain := new ▸ new_plain _ _ _
      exact empty.2 ▸ none.mirrored
    · have unbroken := run_unbroken _ reached sound
      rw [run_snoc] at unbroken
      exact step_mirrors change renderer (brings reached) unbroken h
  have last := whole steps List.prefix_rfl
  refine ⟨fun w hw direct => ?_, last.resting, fun concurs before k reached => ?_,
    fun straight before reached => ?_⟩
  · exact List.contains_iff_mem.mpr (last.mirrored.shown w hw direct)
  · have earlier : before <+: steps := (List.prefix_append before [k]).trans reached
    have unbroken := run_unbroken _ reached sound
    have now := concurs (before ++ [k]) reached
    rw [run_snoc] at unbroken now
    exact (step_concurs_iff change renderer (brings reached) (whole before earlier)
      (concurs before earlier) unbroken).mp now
  · refine run_along _ ?_ (fun before k reached concurs => ?_) reached
    · intro w hw
      simp [empty.1] at hw
    · have earlier : before <+: steps := (List.prefix_append before [k]).trans reached
      have unbroken := run_unbroken _ reached sound
      rw [run_snoc] at unbroken
      exact (step_concurs_iff change renderer (brings reached) (whole before earlier) concurs
        unbroken).mpr (straight before k reached)

def fullscreenClient : Toplevel :=
  .client ⟨1⟩ (.ofCoords 0 0 1920 1080) ⟨true, true, false⟩

def bypassing : Compositor HeadlessDisplay HeadlessRenderer :=
  Compositor.new (.new Extension.all (.single 1920 1080)) (.new ⟨1⟩ fun _ => 0)
    { CompositingOptions.standard with bypassFullscreen := true }

def clientReturns : List (Step DisplayChange) :=
  [.setup, .addWindow fullscreenClient, .fireTimer 0, .removeWindow ⟨1⟩ false, .finish, .setup,
    .addWindow fullscreenClient]

/-- The server has forgotten the client in between. -/
theorem clientReturns_concurs :
    (bypassing.run (DisplayChange.world id fun _ r => r) clientReturns).Concurs := by
  have plain : ∀ k ∈ clientReturns, k.Adds fun w => w.unredirected = false := by
    simp [clientReturns, fullscreenClient, Toplevel.client, Toplevel.new]
  refine (concurs_iff_never_strays (W := DisplayChange.world id fun _ r => r) rfl
    (show bypassing = Compositor.new _ _ _ from rfl) plain rfl).2.2.mpr ?_ _ List.prefix_rfl
  intro before k reached
  obtain ⟨taken, next, short⟩ := Step.taken_at reached
  change before.length < 7 at short
  have unknown (c : Compositor HeadlessDisplay HeadlessRenderer)
      (free : c.display.isUnredirected ⟨1⟩ = false) :
      ¬ c.Strays (.addWindow fullscreenClient : Step DisplayChange) := by
    rintro (⟨_, _, _, here⟩ | ⟨w, here, _, drawn⟩)
    · cases here
    · obtain rfl := Step.addWindow.inj here
      rw [show fullscreenClient.id = ⟨1⟩ from rfl, free] at drawn
      cases drawn
  rw [taken]
  generalize before.length = n at short next
  interval_cases n
  all_goals obtain rfl := Option.some.inj next
  · simp [Strays]
  · exact unknown _ rfl
  · simp [Strays]
  · simp [Strays]
  · simp [Strays]
  · simp [Strays]
  · exact unknown _ rfl

def clientDeparts : List (Step DisplayChange) :=
  [.setup, .addWindow fullscreenClient, .fireTimer 0, .removeWindow ⟨1⟩ true]

/-- The server still draws the client's id directly, and the placeholder does not say so. -/
theorem clientDeparts_strayed :
    (∀ k ∈ clientDeparts, k.Adds fun w => w.unredirected = false) ∧
      (bypassing.run (DisplayChange.world id fun _ r => r) clientDeparts).fault? = none ∧
      ∃ w ∈ (bypassing.run (DisplayChange.world id fun _ r => r) clientDeparts).windows.windows,
        w.unredirected = false ∧
          (bypassing.run (DisplayChange.world id fun _ r => r) clientDeparts).display.isUnredirected
            w.id = true := by
  refine ⟨?_, rfl, _, List.mem_singleton_self _, rfl, rfl⟩
  simp [clientDeparts, fullscreenClient, Toplevel.client, Toplevel.new]

end Compositor

end Compositing
