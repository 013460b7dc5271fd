import Compositing.Proofs.Deadlines
import Compositing.Proofs.Turnover

/-!
# Asides

Most of what happens to a compositor neither starts nor stops compositing, and decides
nothing about the windows that bypass it. It puts work off, arms timers, takes in how windows
look and has them painted. What all of this has in common is said once, and shown of one
operation after the other.
-/

namespace Compositing

namespace Timers

/-- Time goes by, and only the listed timers are armed or disarmed. -/
structure Touches (touched : List TimerId) (t t' : Timers) : Prop where
  clock : t.now ≤ t'.now
  others : ∀ id, id ∉ touched → ∀ moment, (id, moment) ∈ t'.armed ↔ (id, moment) ∈ t.armed

variable {touched : List TimerId} {t t' t'' : Timers}

theorem Touches.refl (touched : List TimerId) (t : Timers) : Touches touched t t :=
  ⟨Nat.le_refl _, fun _ _ _ => Iff.rfl⟩

theorem Touches.trans (first : Touches touched t t') (second : Touches touched t' t'') :
    Touches touched t t'' where
  clock := Nat.le_trans first.clock second.clock
  others := by
    intro id free moment
    rw [second.others id free moment, first.others id free moment]

theorem Touches.isArmed (h : Touches touched t t') {id : TimerId} (free : id ∉ touched) :
    t'.isArmed id = true ↔ t.isArmed id = true := by
  rw [isArmed_iff, isArmed_iff]
  constructor
  · rintro ⟨moment, armed⟩
    exact ⟨moment, (h.others id free moment).mp armed⟩
  · rintro ⟨moment, armed⟩
    exact ⟨moment, (h.others id free moment).mpr armed⟩

theorem touches_stop (id : TimerId) (t : Timers) : Touches [id] t (t.stop id) where
  clock := Nat.le_refl _
  others := by
    intro other free moment
    simp only [List.mem_singleton] at free
    simp [mem_stop, free]

theorem touches_start (id : TimerId) (after : Nanos) (t : Timers) :
    Touches [id] t (t.start id after) where
  clock := Nat.le_refl _
  others := by
    intro other free moment
    simp only [List.mem_singleton] at free
    simp [mem_start, free]

theorem touches_schedule (b : FrameBudget) (t : Timers) : Touches [.repaint] t (b.schedule t) := by
  rw [FrameBudget.schedule]
  split
  · exact Touches.refl _ t
  · exact touches_start _ _ t

theorem touches_popDue {target : Nanos} {id : TimerId} (h : t.popDue target = some (id, t')) :
    Touches [id] t t' := by
  obtain ⟨moment, _, _, rfl⟩ := popDue_cases h
  have stopped := touches_stop id t
  exact ⟨Nat.le_max_left _ _, stopped.others⟩

theorem isArmed_of_popDue {target : Nanos} {popped id : TimerId}
    (h : t.popDue target = some (popped, t')) (armed : t'.isArmed id = true) :
    t.isArmed id = true := by
  obtain ⟨moment, _, _, rfl⟩ := popDue_cases h
  have stopped : (t.stop popped).isArmed id = true := armed
  exact (isArmed_stop.mp stopped).2

end Timers

namespace Toplevel

structure InPlace (w w' : Toplevel) : Prop where
  id : w'.id = w.id
  placeholder : w'.isPlaceholder = w.isPlaceholder
  geometry : w'.geometry = w.geometry
  damage : w'.damage? = w.damage?
  direct : w'.unredirected = w.unredirected

theorem InPlace.refl (w : Toplevel) : InPlace w w := ⟨rfl, rfl, rfl, rfl, rfl⟩

theorem InPlace.trans {u v w : Toplevel} (first : InPlace u v) (second : InPlace v w) :
    InPlace u w where
  id := second.id.trans first.id
  placeholder := second.placeholder.trans first.placeholder
  geometry := second.geometry.trans first.geometry
  damage := second.damage.trans first.damage
  direct := second.direct.trans first.direct

theorem Refreshed.inPlace {w w' : Toplevel} (same : Refreshed w w') : InPlace w w' where
  id := same.looks.id
  placeholder := same.looks.isPlaceholder
  geometry := same.looks.geometry
  damage := same.damage
  direct := same.direct

theorem addRepaint_refreshed (g : Region) (w : Toplevel) : Refreshed w (w.addRepaint g) := by
  rw [addRepaint]
  split <;> exact ⟨⟨rfl, rfl, rfl, rfl, rfl, rfl, rfl⟩, rfl, rfl⟩

theorem addRepaintFull_refreshed (w : Toplevel) : Refreshed w w.addRepaintFull := by
  rw [addRepaintFull]
  split <;> exact ⟨⟨rfl, rfl, rfl, rfl, rfl, rfl, rfl⟩, rfl, rfl⟩

theorem addLayerRepaint_refreshed (g : Region) (w : Toplevel) :
    Refreshed w (w.addLayerRepaint g) := by
  rw [addLayerRepaint]
  split <;> exact ⟨⟨rfl, rfl, rfl, rfl, rfl, rfl, rfl⟩, rfl, rfl⟩

end Toplevel

namespace WindowStack

open Toplevel (InPlace)

/-- The windows stay in place, whatever their order. Placeholders may have gone. -/
structure Keeps (s s' : WindowStack) : Prop where
  distinct : s'.Distinct
  old : ∀ w' ∈ s'.windows, ∃ w ∈ s.windows, InPlace w w'
  stays : ∀ w ∈ s.windows, w.isPlaceholder = false → ∃ w' ∈ s'.windows, InPlace w w'

theorem Keeps.refl {s : WindowStack} (distinct : s.Distinct) : Keeps s s :=
  ⟨distinct, fun w hw => ⟨w, hw, InPlace.refl w⟩, fun w hw _ => ⟨w, hw, InPlace.refl w⟩⟩

theorem Keeps.trans {s s' s'' : WindowStack} (first : Keeps s s') (second : Keeps s' s'') :
    Keeps s s'' where
  distinct := second.distinct
  old := by
    intro w'' hw''
    obtain ⟨w', hw', later⟩ := second.old w'' hw''
    obtain ⟨w, hw, earlier⟩ := first.old w' hw'
    exact ⟨w, hw, earlier.trans later⟩
  stays := by
    intro w hw real
    obtain ⟨w', hw', earlier⟩ := first.stays w hw real
    obtain ⟨w'', hw'', later⟩ := second.stays w' hw' (earlier.placeholder.trans real)
    exact ⟨w'', hw'', earlier.trans later⟩

theorem Keeps.of_becomes {s s' : WindowStack} (distinct : s.Distinct)
    (changed : Becomes InPlace s s') : Keeps s s' := by
  have distinct' := changed.distinct (fun _ _ same => same.id) distinct
  obtain ⟨g, shape, same⟩ := changed
  refine ⟨distinct', ?_, ?_⟩
  · intro w' hw'
    obtain ⟨w, hw, rfl⟩ := List.mem_map.mp (shape ▸ hw')
    exact ⟨w, hw, same w hw⟩
  · intro w hw _
    exact ⟨g w, shape ▸ List.mem_map_of_mem hw, same w hw⟩

theorem Keeps.modify {s : WindowStack} (distinct : s.Distinct) (id : WindowId)
    {f : Toplevel → Toplevel} (same : ∀ w ∈ s.windows, w.id = id → InPlace w (f w)) :
    Keeps s (s.modify id f) :=
  of_becomes distinct (Becomes.modify InPlace.refl s id same)

theorem Keeps.restack {s : WindowStack} (distinct : s.Distinct) (order : List WindowId) :
    Keeps s (s.restack order) where
  distinct := distinct.restack order
  old := fun w hw => ⟨w, (mem_restack distinct order).mp hw, InPlace.refl w⟩
  stays := fun w hw _ => ⟨w, (mem_restack distinct order).mpr hw, InPlace.refl w⟩

/-- A placeholder goes. -/
theorem Keeps.remove {s : WindowStack} (distinct : s.Distinct) {id : WindowId} {w : Toplevel}
    (found : s.get? id = some w) (placeholder : w.isPlaceholder = true) :
    Keeps s (s.remove id) where
  distinct := distinct.filter _
  old := fun v hv => ⟨v, (List.mem_filter.mp hv).1, InPlace.refl v⟩
  stays := by
    intro v hv real
    refine ⟨v, List.mem_filter.mpr ⟨hv, ?_⟩, InPlace.refl v⟩
    by_contra here
    have same : v.id = id := by simpa using here
    rw [eq_of_get? distinct found hv same, placeholder] at real
    simp at real

end WindowStack

/-- What requests about damage and the properties of the root window do not change. -/
structure DisplayServer.Lasting {δ α : Type} [DisplayServer δ] (view : δ → α) : Prop where
  createDamage : ∀ w d, view (DisplayServer.createDamage w d).2 = view d
  destroyDamage : ∀ h d, view (DisplayServer.destroyDamage h d) = view d
  requestDamage : ∀ h d, view (DisplayServer.requestDamage h d).2 = view d
  damageReply : ∀ f d, view (DisplayServer.damageReply f d).2 = view d
  discardReply : ∀ f d, view (DisplayServer.discardReply f d) = view d
  flush : ∀ d, view (DisplayServer.flush d) = view d
  deleteRootProperty : ∀ a d, view (DisplayServer.deleteRootProperty a d) = view d

structure DisplayServer.Steady {δ α : Type} [DisplayServer δ] (view : δ → α) : Prop
    extends DisplayServer.Lasting view where
  claimSelection : ∀ s d, view (DisplayServer.claimSelection s d).2 = view d
  releaseSelection : ∀ s d, view (DisplayServer.releaseSelection s d) = view d
  redirectSubwindows : ∀ d, view (DisplayServer.redirectSubwindows d).2 = view d

structure DisplayServer.Unswitched {δ α : Type} [DisplayServer δ] (view : δ → α) : Prop where
  redirectWindow : ∀ w d, view (DisplayServer.redirectWindow w d) = view d
  unredirectWindow : ∀ w d, view (DisplayServer.unredirectWindow w d) = view d

structure DisplayServer.Fixed {δ α : Type} [DisplayServer δ] (view : δ → α) : Prop
    extends DisplayServer.Steady view, DisplayServer.Unswitched view where
  unredirectSubwindows : ∀ d, view (DisplayServer.unredirectSubwindows d) = view d
  setOpacity : ∀ w o d, view (DisplayServer.setOpacity w o d) = view d

/-- What of a scene only its beginning and a new shape of the overlay change. -/
structure Renderer.Shown {σ α : Type} [Renderer σ] (view : σ → α) : Prop where
  paint : ∀ g ws r, view (Renderer.paint g ws r).2 = view r
  windowAdded : ∀ w r, view (Renderer.windowAdded w r) = view r
  windowClosed : ∀ w stays r, view (Renderer.windowClosed w stays r) = view r
  windowDeleted : ∀ w r, view (Renderer.windowDeleted w r) = view r
  pixmapDiscarded : ∀ w r, view (Renderer.pixmapDiscarded w r) = view r
  idle : ∀ r, view (Renderer.idle r) = view r
  setOverlayVisible : ∀ on r, view (Renderer.setOverlayVisible on r) = view r

def toggles (events : List Event) : List Bool :=
  events.filterMap fun
    | .toggled active => some active
    | .suspendedNotice _ => none

@[simp] theorem toggles_append (before after : List Event) :
    toggles (before ++ after) = toggles before ++ toggles after :=
  List.filterMap_append

def TimerId.ofScene : List TimerId := [.repaint, .bypassCheck, .bypassRetry]

namespace Compositor

open WindowStack
open Toplevel (InPlace)
open Timers (Touches)

variable {δ σ : Type} {c c' c'' : Compositor δ σ}

/-- Nothing of a scene is left: none of its timers, nothing to paint and no placeholder. -/
structure Resting (c : Compositor δ σ) : Prop where
  timers : ∀ id ∈ TimerId.ofScene, c.timers.isArmed id = false
  repaints : c.repaints.isEmpty = true
  windows : ∀ w ∈ c.windows.windows, w.isPlaceholder = false

/-- Nothing starts or stops, and what is put off has its turn. -/
structure Quiet (c c' : Compositor δ σ) : Prop where
  phase : c'.phase = c.phase
  scene : c'.hasScene = c.hasScene
  selection : c'.selection? = c.selection?
  suspended : c'.suspended = c.suspended
  fault : c'.fault? = c.fault?
  told : toggles c'.events = toggles c.events
  queue : c.deferred <+: c'.deferred
  due : c'.deferred = c.deferred ∨ c'.timers.isArmed .deferred = true
  turn : c.timers.isArmed .deferred = true → c'.timers.isArmed .deferred = true
  rest : c.hasScene = false → c.Resting → c'.Resting

theorem Quiet.refl (c : Compositor δ σ) : Quiet c c :=
  ⟨rfl, rfl, rfl, rfl, rfl, rfl, List.prefix_rfl, Or.inl rfl, id, fun _ h => h⟩

theorem Quiet.trans (first : Quiet c c') (second : Quiet c' c'') : Quiet c c'' where
  phase := second.phase.trans first.phase
  scene := second.scene.trans first.scene
  selection := second.selection.trans first.selection
  suspended := second.suspended.trans first.suspended
  fault := second.fault.trans first.fault
  told := second.told.trans first.told
  queue := first.queue.trans second.queue
  due := by
    rcases second.due with same | armed
    · rcases first.due with same' | armed
      · exact Or.inl (same.trans same')
      · exact Or.inr (second.turn armed)
    · exact Or.inr armed
  turn := fun armed => second.turn (first.turn armed)
  rest := fun off resting => second.rest (first.scene.trans off) (first.rest off resting)

/-- The timer of deferred work is not touched, and what is at rest without a scene stays so. -/
theorem Quiet.of_touches {touched : List TimerId} {d : δ} {r : σ} {t : Timers}
    {o : CompositingOptions} {g : Region} {f : FrameBudget} {s : WindowStack} {b : BypassState}
    {p : SupportProperties} (timers : Touches touched c.timers t) (waits : .deferred ∉ touched)
    (rest : c.hasScene = false → c.Resting →
      Resting { c with timers := t, repaints := g, windows := s }) :
    Quiet c { c with
      display := d, renderer := r, timers := t, options := o, repaints := g, frame := f,
      windows := s, bypass := b, support := p } where
  phase := rfl
  scene := rfl
  selection := rfl
  suspended := rfl
  fault := rfl
  told := rfl
  queue := List.prefix_rfl
  due := Or.inl rfl
  turn := (timers.isArmed waits).mpr
  rest := fun off resting => by
    have resting := rest off resting
    exact ⟨resting.timers, resting.repaints, resting.windows⟩

variable [DisplayServer δ] [Renderer σ]

/-- An aside: it is quiet, no pass is taken back, and neither the windows nor what decides about
passes changes, except that a pass may be asked for. -/
structure Aside (c c' : Compositor δ σ) : Prop extends Quiet c c' where
  clock : c.timers.now ≤ c'.timers.now
  /-- Work that is put off is due at once. -/
  prompt : ∀ moment, (.deferred, moment) ∈ c'.timers.armed →
    (.deferred, moment) ∈ c.timers.armed ∨ moment ≤ c'.timers.now
  check : c.timers.isArmed .bypassCheck = true → c'.timers.isArmed .bypassCheck = true
  option : c'.options.bypassFullscreen = c.options.bypassFullscreen
  bypass : c'.bypass = c.bypass ∨
    (c'.bypass = c.bypass.force ∧ c.hasScene = true ∧
      (c.options.bypassFullscreen || c.bypass.optionChanged) = true ∧
      c'.timers.isArmed .bypassCheck = true)
  windows : c.windows.Distinct → c.windows.Keeps c'.windows
  shown : ∀ {α : Type} {view : σ → α}, Renderer.Shown view → view c'.renderer = view c.renderer
  served : ∀ {α : Type} {view : δ → α}, DisplayServer.Lasting view → view c'.display = view c.display

theorem Aside.refl (c : Compositor δ σ) : Aside c c where
  toQuiet := Quiet.refl c
  clock := Nat.le_refl _
  prompt := fun _ armed => Or.inl armed
  check := id
  option := rfl
  bypass := Or.inl rfl
  windows := Keeps.refl
  shown := fun _ => rfl
  served := fun _ => rfl

theorem Aside.trans (first : Aside c c') (second : Aside c' c'') : Aside c c'' where
  toQuiet := first.toQuiet.trans second.toQuiet
  clock := Nat.le_trans first.clock second.clock
  prompt := by
    intro moment armed
    have later := second.clock
    rcases second.prompt moment armed with before | due
    · rcases first.prompt moment before with before | due
      · exact Or.inl before
      · exact Or.inr (Nat.le_trans due later)
    · exact Or.inr due
  check := fun armed => second.check (first.check armed)
  option := second.option.trans first.option
  bypass := by
    rcases first.bypass with same | ⟨forced, scene, applies, armed⟩
    · have applies := first.option
      rcases second.bypass with same' | ⟨forced, scene, applies', armed⟩
      · exact Or.inl (same'.trans same)
      · rw [same, applies] at applies'
        exact Or.inr ⟨forced.trans (by rw [same]), first.scene ▸ scene, applies', armed⟩
    · rcases second.bypass with same' | ⟨forced', _, _, armed'⟩
      · exact Or.inr ⟨same'.trans forced, scene, applies, second.check armed⟩
      · exact Or.inr ⟨by rw [forced', forced]; rfl, scene, applies, armed'⟩
  windows := by
    intro distinct
    have kept := first.windows distinct
    exact kept.trans (second.windows kept.distinct)
  shown := fun view => (second.shown view).trans (first.shown view)
  served := fun view => (second.served view).trans (first.served view)

theorem Aside.optionChanged (aside : Aside c c') :
    c'.bypass.optionChanged = c.bypass.optionChanged := by
  rcases aside.bypass with same | ⟨forced, _⟩
  · rw [same]
  · rw [forced]
    rfl

/-- What is done with a scene, or leaves what is at rest at rest. The timer of deferred work is
not touched, and no pass is taken back. -/
theorem Aside.of_touches {touched : List TimerId} {d : δ} {r : σ} {t : Timers} {g : Region}
    {b : FrameBudget} {s : WindowStack} {p : SupportProperties}
    (timers : Touches touched c.timers t) (waits : .deferred ∉ touched)
    (check : .bypassCheck ∉ touched ∨ t.isArmed .bypassCheck = true)
    (rest : c.hasScene = false → c.Resting →
      Resting { c with timers := t, repaints := g, windows := s })
    (windows : c.windows.Distinct → c.windows.Keeps s)
    (shown : ∀ {α : Type} {view : σ → α}, Renderer.Shown view → view r = view c.renderer)
    (served : ∀ {α : Type} {view : δ → α}, DisplayServer.Lasting view → view d = view c.display) :
    Aside c { c with
      display := d, renderer := r, timers := t, repaints := g, frame := b, windows := s,
      support := p } where
  toQuiet := Quiet.of_touches timers waits rest
  clock := timers.clock
  prompt := fun moment armed => Or.inl ((timers.others _ waits moment).mp armed)
  check := by
    rcases check with free | armed
    · exact (timers.isArmed free).mpr
    · exact fun _ => armed
  option := rfl
  bypass := Or.inl rfl
  windows := windows
  shown := shown
  served := served

/-- Only timers that need no scene are touched. -/
theorem Aside.retimed {touched : List TimerId} {t : Timers} (p : SupportProperties)
    (timers : Touches touched c.timers t) (waits : .deferred ∉ touched)
    (check : .bypassCheck ∉ touched)
    (idle : ∀ id ∈ TimerId.ofScene, t.isArmed id = true → c.timers.isArmed id = true) :
    Aside c { c with timers := t, support := p } := by
  refine of_touches (d := c.display) (r := c.renderer) (g := c.repaints) (b := c.frame)
    (s := c.windows) timers waits (Or.inl check) ?_ Keeps.refl (fun _ => rfl) (fun _ => rfl)
  intro _ resting
  refine ⟨fun id needs => ?_, resting.repaints, resting.windows⟩
  by_contra armed
  have before := idle id needs (by simpa using armed)
  simp [resting.timers id needs] at before

/-- The windows change in place, and no timer is touched. -/
theorem Aside.replaced {s : WindowStack} (windows : c.windows.Distinct → c.windows.Keeps s)
    (real : (∀ w ∈ c.windows.windows, w.isPlaceholder = false) →
      ∀ w ∈ s.windows, w.isPlaceholder = false) :
    Aside c { c with windows := s } :=
  of_touches (d := c.display) (r := c.renderer) (g := c.repaints) (b := c.frame)
    (p := c.support) (Timers.Touches.refl [] c.timers) (by simp) (Or.inl (by simp))
    (fun _ resting => ⟨resting.timers, resting.repaints, real resting.windows⟩) windows
    (fun _ => rfl) (fun _ => rfl)

/-! What waits for a frame. -/

theorem Aside.scheduleRepaint (c : Compositor δ σ) : Aside c c.scheduleRepaint := by
  rw [Compositor.scheduleRepaint]
  split
  · rename_i scene
    exact of_touches (d := c.display) (r := c.renderer) (g := c.repaints) (b := c.frame)
      (s := c.windows) (p := c.support) (Timers.touches_schedule c.frame c.timers) (by simp)
      (Or.inl (by simp)) (by simp [scene]) Keeps.refl (fun _ => rfl) (fun _ => rfl)
  · exact refl c

/-- With a scene anything may become due to be painted. -/
theorem Aside.repaints (g : Region) (scene : c.hasScene = true) :
    Aside c { c with repaints := g } :=
  of_touches (d := c.display) (r := c.renderer) (b := c.frame) (s := c.windows) (p := c.support)
    (Timers.Touches.refl [] c.timers) (by simp) (Or.inl (by simp)) (by simp [scene]) Keeps.refl
    (fun _ => rfl) (fun _ => rfl)

theorem Aside.addRepaint (c : Compositor δ σ) (g : Region) : Aside c (c.addRepaint g) := by
  rw [Compositor.addRepaint]
  split
  · rename_i scene
    exact (repaints _ scene).trans (scheduleRepaint _)
  · exact refl c

theorem Aside.addRepaintFull (c : Compositor δ σ) : Aside c c.addRepaintFull := by
  rw [Compositor.addRepaintFull]
  split
  · rename_i scene
    exact (repaints _ scene).trans (scheduleRepaint _)
  · exact refl c

omit [Renderer σ] in
theorem fetchDamage_keeps (distinct : c.windows.Distinct) :
    c.windows.Keeps c.fetchDamage.windows := by
  exact Keeps.of_becomes distinct
    ((fetchDamage_refreshed distinct).imp fun _ _ same => same.inPlace)

/-- A round of visits leaves alone of a state what each turn does. -/
theorem visit_view {τ α : Type} {f : Toplevel → τ → Toplevel × τ} (view : τ → α)
    (turn : ∀ w t, view (f w t).2 = view t) (ids : List WindowId) (s : WindowStack) (t : τ) :
    view (s.visit ids f t).2 = view t := by
  refine visit_induction (P := fun _ _ t' => view t' = view t) rfl (fun _ _ _ _ _ h => h) ?_
  intro id rest s' t' w _ h
  exact (turn w t').trans h

omit [Renderer σ] in
theorem fetchDamage_lasting {α : Type} {view : δ → α} (lasting : DisplayServer.Lasting view)
    (c : Compositor δ σ) : view c.fetchDamage.display = view c.display := by
  have request (w : Toplevel) (t : List WindowId × δ) :
      view (requestStep w t).2.2 = view t.2 := by
    rw [requestStep]
    rcases w.requestDamage_cases t.2 with
      ⟨_, e⟩ | ⟨_, _, ⟨_, e⟩ | ⟨handle, _, _, _, answer, e⟩ | ⟨handle, _, _, _, answer, e⟩⟩
    · rw [e]
    · rw [e]
    all_goals
      have asked := lasting.requestDamage handle t.2
      rw [answer] at asked
      rw [e]
      exact asked
  have collect (w : Toplevel) (d : δ) : view (collectStep w d).2 = view d := by
    rw [collectStep]
    rcases w.collectDamage_cases d with ⟨_, e⟩ | ⟨_, _, e⟩
    · rw [e]
    · rw [e]
      exact lasting.damageReply _ _
  have asked := visit_view (fun t : List WindowId × δ => view t.2) request c.windows.ids
    c.windows ([], c.display)
  simp only [fetchDamage]
  rw [visit_view view collect]
  split
  · exact asked
  · exact (lasting.flush _).trans asked

theorem Aside.fetchDamage (scene : c.hasScene = true) : Aside c c.fetchDamage :=
  of_touches (r := c.renderer) (g := c.repaints) (b := c.frame) (p := c.support)
    (Timers.Touches.refl [] c.timers) (by simp) (Or.inl (by simp)) (by simp [scene])
    fetchDamage_keeps (fun _ => rfl) (fun lasting => fetchDamage_lasting lasting c)

theorem Aside.paint (scene : c.hasScene = true) : Aside c c.paint := by
  have drawn : Aside c { c with
      renderer := (Renderer.paint c.repaints c.paintList c.renderer).2
      repaints := Region.empty
      frame := c.frame.recordPaint (Renderer.paint c.repaints c.paintList c.renderer).1
      windows := ⟨c.windows.windows.map painted⟩
      timers := c.timers.stop .repaint } := by
    refine of_touches (d := c.display) (p := c.support) (Timers.touches_stop _ _) (by simp)
      (Or.inl (by simp)) (by simp [scene]) ?_ (fun shown => shown.paint _ _ _) (fun _ => rfl)
    intro distinct
    exact Keeps.of_becomes distinct
      ⟨painted, rfl, fun w _ => (painted_refreshed w).inPlace⟩
  exact drawn.trans (scheduleRepaint _)

theorem Aside.performCompositing (c : Compositor δ σ) : Aside c c.performCompositing := by
  rw [Compositor.performCompositing]
  split
  · rename_i visible
    have scene : c.hasScene = true := by
      simp only [overlayVisible, Bool.and_eq_true] at visible
      exact visible.1
    have fetched := fetchDamage scene
    dsimp only
    split
    · refine fetched.trans (of_touches (Timers.touches_stop _ _) (by simp) (Or.inl (by simp))
        (by simp [fetched.scene, scene]) Keeps.refl (fun shown => shown.idle _) (fun _ => rfl))
    · exact fetched.trans (paint (fetched.scene.trans scene))
  · exact refl c

/-! What asks for a pass or for work on the next turn. -/

omit [DisplayServer δ] in
theorem bypassApplies_cases (applies : c.bypassApplies = true) :
    c.hasScene = true ∧ (c.options.bypassFullscreen || c.bypass.optionChanged) = true := by
  simp only [bypassApplies, Bool.and_eq_true] at applies
  exact ⟨applies.1.1, applies.2⟩

omit [DisplayServer δ] in
/-- A pass that is asked for is on its way, and may have to count as one that changed something. -/
theorem checkBypass_cases (c : Compositor δ σ) (force : Bool) :
    (c.bypassApplies = false ∧ c.checkBypass force = c) ∨
      (c.bypassApplies = true ∧ ∃ t, Touches [.bypassCheck] c.timers t ∧
        t.isArmed .bypassCheck = true ∧ c.checkBypass force =
          { c with bypass := if force then c.bypass.force else c.bypass, timers := t }) := by
  cases applies : c.bypassApplies with
  | false => exact Or.inl ⟨rfl, by simp [checkBypass, applies]⟩
  | true =>
    refine Or.inr ⟨rfl, _, ?_, ?_, by rw [checkBypass, if_pos applies]⟩
    · split
      · exact Timers.Touches.refl _ _
      · exact Timers.touches_start _ _ _
    · split
      · assumption
      · simp

theorem Aside.checkBypass (c : Compositor δ σ) (force : Bool) : Aside c (c.checkBypass force) := by
  rcases c.checkBypass_cases force with ⟨_, e⟩ | ⟨applies, t, touches, armed, e⟩
  · rw [e]
    exact refl c
  · obtain ⟨scene, option⟩ := bypassApplies_cases applies
    have asked : Aside c { c with timers := t } :=
      of_touches (d := c.display) (r := c.renderer) (g := c.repaints) (b := c.frame)
        (s := c.windows) (p := c.support) touches (by simp) (Or.inr armed) (by simp [scene])
        Keeps.refl (fun _ => rfl) (fun _ => rfl)
    rw [e]
    refine { asked with rest := by simp [scene], bypass := ?_ }
    cases force with
    | false => exact Or.inl rfl
    | true => exact Or.inr ⟨rfl, scene, option, armed⟩

theorem Aside.defer (c : Compositor δ σ) (a : DeferredAction) : Aside c (c.defer a) := by
  have touches : Touches [.deferred] c.timers (c.defer a).timers := by
    dsimp only [Compositor.defer]
    split
    · exact Timers.Touches.refl _ _
    · exact Timers.touches_start _ _ _
  have armed : (c.defer a).timers.isArmed .deferred = true := by
    dsimp only [Compositor.defer]
    split
    · assumption
    · simp
  refine ⟨⟨rfl, rfl, rfl, rfl, rfl, rfl, List.prefix_append _ _, Or.inr armed, fun _ => armed, ?_⟩,
    touches.clock, ?_, (touches.isArmed (by simp)).mpr, rfl, Or.inl rfl, Keeps.refl, fun _ => rfl,
    fun _ => rfl⟩
  · intro _ resting
    refine ⟨fun id needs => ?_, resting.repaints, resting.windows⟩
    have free : id ∉ [TimerId.deferred] := by
      rintro here
      rw [List.mem_singleton.mp here] at needs
      simp [TimerId.ofScene] at needs
    have same := touches.isArmed free
    rw [Bool.eq_iff_iff, same, resting.timers id needs]
  · intro moment due
    have now : c.timers.now ≤ (c.defer a).timers.now := touches.clock
    dsimp only [Compositor.defer] at due
    split at due
    · exact Or.inl due
    · rcases Timers.mem_start.mp due with ⟨before, _⟩ | ⟨_, here⟩
      · exact Or.inl before
      · exact Or.inr (by simpa [here] using now)

theorem Aside.blockFor (c : Compositor δ σ) (id : WindowId) : Aside c (c.blockFor id) := by
  rw [Compositor.blockFor]
  cases c.windows.get? id with
  | none => exact refl c
  | some w =>
    dsimp only
    split
    · exact defer c _
    · exact refl c

theorem Aside.unblock (c : Compositor δ σ) : Aside c c.unblock := by
  rw [Compositor.unblock]
  split
  · exact defer c _
  · exact refl c

theorem Aside.notice (c : Compositor δ σ) (message : String) :
    Aside c (c.emit (.suspendedNotice message)) where
  toQuiet := { Quiet.refl c with
    told := by simp [emit, toggles]
    rest := fun _ resting => ⟨resting.timers, resting.repaints, resting.windows⟩ }
  clock := Nat.le_refl _
  prompt := fun _ armed => Or.inl armed
  check := id
  option := rfl
  bypass := Or.inl rfl
  windows := Keeps.refl
  shown := fun _ => rfl
  served := fun _ => rfl

/-! Changes of the windows. -/

theorem Aside.modify (id : WindowId) {f : Toplevel → Toplevel}
    (same : ∀ w ∈ c.windows.windows, w.id = id → InPlace w (f w)) :
    Aside c { c with windows := c.windows.modify id f } := by
  refine replaced (fun distinct => Keeps.modify distinct id same) fun real w hw => ?_
  rcases mem_modify.mp hw with ⟨v, hv, here, rfl⟩ | ⟨hw, _⟩
  · exact (same v hv here).placeholder.trans (real v hv)
  · exact real w hw

/-- A window changes, and what follows is an aside. -/
theorem Aside.changeWindow (id : WindowId) {f : Toplevel → Toplevel}
    (same : ∀ w, InPlace w (f w)) {next : Compositor δ σ → Compositor δ σ}
    (after : ∀ c, Aside c (next c)) : Aside c (c.changeWindow id f next) := by
  rw [Compositor.changeWindow]
  split
  · exact (modify id fun w _ _ => same w).trans (after _)
  · exact refl c

theorem Aside.damaged (c : Compositor δ σ) (id : WindowId) :
    Aside c (c.handleDisplayEvent (.damaged id)) := by
  rcases c.damaged_cases id with ⟨_, e⟩ | ⟨w, found, _, e⟩
  · rw [e]
    exact refl c
  · rw [e]
    refine Aside.trans (replaced (fun distinct => Keeps.modify distinct id ?_) ?_)
      (scheduleRepaint _)
    · intro v hv here
      rw [eq_of_get? distinct found hv here]
      exact ⟨rfl, rfl, rfl, rfl, rfl⟩
    · intro real v hv
      rcases (mem_replace found).mp hv with rfl | ⟨hv, _⟩
      · exact real w (mem_of_get? found).1
      · exact real v hv

theorem Aside.restack (c : Compositor δ σ) (order : List WindowId) :
    Aside c { c with windows := c.windows.restack order } := by
  refine replaced (fun distinct => Keeps.restack distinct order) fun real w hw => ?_
  simp only [WindowStack.restack, List.mem_append, List.mem_filter, List.mem_filterMap] at hw
  rcases hw with ⟨hw, _⟩ | ⟨id, _, found⟩
  · exact real w hw
  · exact real w (mem_of_get? found).1

theorem Aside.discardPlaceholder (c : Compositor δ σ) (id : WindowId) :
    Aside c (c.discardPlaceholder id).2 := by
  rcases c.discardPlaceholder_cases id with e | ⟨w, r, found, placeholder, told, e⟩
  · rw [e]
    exact refl c
  · rw [e]
    refine Aside.trans (of_touches (d := c.display) (b := c.frame) (g := c.repaints)
      (p := c.support) (Timers.Touches.refl [] c.timers) (by simp) (Or.inl (by simp)) ?_
      (fun distinct => Keeps.remove distinct found placeholder) ?_ fun _ => rfl) (addRepaint _ _)
    · intro _ resting
      refine ⟨resting.timers, resting.repaints, fun v hv => ?_⟩
      exact resting.windows v (List.mem_filter.mp hv).1
    · intro α view shown
      rcases told with rfl | rfl
      · rfl
      · exact shown.windowDeleted id _

/-- News of a client's state. -/
theorem Aside.setClientState (c : Compositor δ σ) (id : WindowId) (state : ClientState) :
    Aside c (c.setClientState id state).2 := by
  rcases c.setClientState_cases id state with e | ⟨w, old, found, client, e⟩
  · rw [e]
    exact refl c
  · have restated : Aside c (c.restated id state) := by
      refine replaced (fun distinct => Keeps.modify distinct id ?_) ?_
      · intro v hv here
        rw [eq_of_get? distinct found hv here]
        exact ⟨rfl, by simp [Toplevel.isPlaceholder, client], rfl, rfl, rfl⟩
      · intro real v hv
        rcases mem_modify.mp hv with ⟨_, _, _, rfl⟩ | ⟨hv, _⟩
        · rfl
        · exact real v hv
    have asked := restated.trans (checkBypass _ false)
    rw [e]
    split
    · exact asked.trans (blockFor _ _)
    · split
      · exact asked.trans (unblock _)
      · exact asked

/-! The overlay, the support properties and the clock. -/

theorem Aside.setOverlayVisible (c : Compositor δ σ) (visible : Bool) :
    Aside c (c.setOverlayVisible visible) := by
  have told (on : Bool) (scene : c.hasScene = true) :
      Aside c { c with renderer := Renderer.setOverlayVisible on c.renderer } :=
    of_touches (d := c.display) (g := c.repaints) (b := c.frame) (s := c.windows)
      (p := c.support) (Timers.Touches.refl [] c.timers) (by simp) (Or.inl (by simp))
      (by simp [scene]) Keeps.refl (fun shown => shown.setOverlayVisible _ _) (fun _ => rfl)
  rcases c.setOverlayVisible_cases visible with ⟨_, e⟩ | ⟨scene, _, e⟩ | ⟨scene, _, e⟩
  · rw [e]
    exact refl c
  · rw [e]
    exact (told true scene).trans (addRepaintFull _)
  · rw [e]
    exact told false scene

theorem deleteRootProperties_lasting {α : Type} {view : δ → α}
    (lasting : DisplayServer.Lasting view)
    (atoms : List Atom) (d : δ) :
    view (atoms.foldl (fun d a => DisplayServer.deleteRootProperty a d) d) = view d := by
  induction atoms generalizing d with
  | nil => rfl
  | cons a rest ih => exact (ih _).trans (lasting.deleteRootProperty a d)

theorem ofScene_start {id started : TimerId} (needs : id ∈ TimerId.ofScene)
    (free : started ∉ TimerId.ofScene) {t : Timers} {after : Nanos}
    (armed : (t.start started after).isArmed id = true) : t.isArmed id = true := by
  rcases Timers.isArmed_start.mp armed with rfl | armed
  · exact (free needs).elim
  · exact armed

theorem Aside.sweepSupport (c : Compositor δ σ) (busy : Bool) : Aside c (c.sweepSupport busy) := by
  cases busy with
  | true =>
    refine retimed c.support (Timers.touches_start .supportSweep supportSweepDelay c.timers)
      (by simp) (by simp) fun id needs armed => ?_
    exact ofScene_start needs (by simp [TimerId.ofScene]) armed
  | false =>
    refine of_touches (r := c.renderer) (g := c.repaints) (b := c.frame) (s := c.windows)
      (Timers.Touches.refl [] c.timers) (by simp) (Or.inl (by simp)) (fun _ resting => resting)
      Keeps.refl (fun _ => rfl) fun lasting => ?_
    exact deleteRootProperties_lasting lasting _ _

/-- A timer that does not touch what is put off or the passes is armed. -/
theorem Aside.start (p : SupportProperties) {id : TimerId} (after : Nanos)
    (waits : id ≠ .deferred) (free : id ∉ TimerId.ofScene) :
    Aside c { c with timers := c.timers.start id after, support := p } := by
  refine retimed p (Timers.touches_start id after c.timers) ?_ ?_ fun other needs armed => ?_
  · simpa using Ne.symm waits
  · rintro here
    exact free (by simp [← List.mem_singleton.mp here, TimerId.ofScene])
  · exact ofScene_start needs free armed

/-- A timer is disarmed. -/
theorem Aside.stop {id : TimerId} (waits : id ≠ .deferred) (check : id ≠ .bypassCheck) :
    Aside c { c with timers := c.timers.stop id } := by
  refine retimed c.support (Timers.touches_stop id c.timers) ?_ ?_ fun other needs armed => ?_
  · simpa using Ne.symm waits
  · simpa using Ne.symm check
  · exact (Timers.isArmed_stop.mp armed).2

/-- A timer goes off. -/
theorem Aside.popDue {target : Nanos} {id : TimerId} {t : Timers}
    (popped : c.timers.popDue target = some (id, t)) (waits : id ≠ .deferred)
    (check : id ≠ .bypassCheck) : Aside c { c with timers := t } := by
  refine retimed c.support (Timers.touches_popDue popped) ?_ ?_ fun other _ armed => ?_
  · simpa using Ne.symm waits
  · simpa using Ne.symm check
  · exact Timers.isArmed_of_popDue popped armed

theorem Aside.advanceTo (c : Compositor δ σ) (target : Nanos) :
    Aside c { c with timers := c.timers.advanceTo target } := by
  have touches : Touches [] c.timers (c.timers.advanceTo target) :=
    ⟨Nat.le_max_left _ _, fun _ _ _ => Iff.rfl⟩
  exact retimed c.support touches (by simp) (by simp) fun _ _ armed => armed

/-- Other options that decide alike about windows that bypass compositing. -/
theorem Aside.options {options : CompositingOptions}
    (same : options.bypassFullscreen = c.options.bypassFullscreen) :
    Aside c { c with options := options } :=
  { refl c with
    option := same
    rest := fun _ resting => ⟨resting.timers, resting.repaints, resting.windows⟩ }

end Compositor

end Compositing
