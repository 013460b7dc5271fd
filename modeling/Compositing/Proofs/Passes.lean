import Compositing.Proofs.Overlap
import Compositing.Proofs.Transitions

/-!
# What a pass leaves behind

A pass takes no window further from what was decided for it. Either it switches nothing, and
then it leaves everything as it was, or fewer windows than before are other than was decided,
and the switches are dated. If it refuses no switch, then no window is other than was decided.
-/

namespace Compositing

/-- Fewer members are counted if one of them counts no more and none begins to. -/
theorem countP_lt {α : Type} {p q : α → Bool} {l : List α}
    (le : ∀ a ∈ l, q a = true → p a = true) {a : α} (ha : a ∈ l) (before : p a = true)
    (after : q a = false) : l.countP q < l.countP p := by
  induction l with
  | nil => simp at ha
  | cons b rest ih =>
    have tail := List.countP_mono_left fun c hc => le c (List.mem_cons_of_mem b hc)
    rw [List.countP_cons, List.countP_cons]
    rcases List.mem_cons.mp ha with rfl | ha
    · simp only [before, after, if_true, Bool.false_eq_true, if_false]
      omega
    · have fewer := ih (fun c hc => le c (List.mem_cons_of_mem b hc)) ha
      have head := le b List.mem_cons_self
      cases counts : q b with
      | false =>
        simp only [Bool.false_eq_true, if_false]
        omega
      | true =>
        simp only [head counts, if_true]
        omega

namespace Toplevel

theorem addDamageFull_looks (w : Toplevel) : Looks w w.addDamageFull := by
  rw [addDamageFull]
  split <;> exact ⟨rfl, rfl, rfl, rfl, rfl, rfl, rfl⟩

end Toplevel

namespace WindowStack

open Toplevel (Looks)

theorem uncoveredFrom_map {g : Toplevel → Toplevel} {w : Toplevel} (here : Looks w (g w))
    {ws : List Toplevel} (looks : ∀ v ∈ ws, Looks v (g v)) :
    uncoveredFrom (g w) (ws.map g) = uncoveredFrom w ws := by
  induction ws with
  | nil => rfl
  | cons v rest ih =>
    have same := looks v List.mem_cons_self
    have later := ih fun u hu => looks u (List.mem_cons_of_mem v hu)
    rw [List.map_cons, uncoveredFrom, uncoveredFrom, same.id, same.geometry, here.id,
      here.geometry, later]

/-- What is decided depends on how the windows look and stand, and on nothing else of them. -/
theorem isEligible_map {s s' : WindowStack} {g : Toplevel → Toplevel}
    (shape : s'.windows = s.windows.map g) (looks : ∀ v ∈ s.windows, Looks v (g v))
    (layout : Layout) (context : BypassContext) {w : Toplevel} (hw : w ∈ s.windows) :
    s'.isEligible layout context (g w) = s.isEligible layout context w := by
  have here := looks w hw
  have uncovered : s'.isUncovered (g w) = s.isUncovered w := by
    rw [isUncovered, isUncovered, shape, ← List.map_reverse]
    exact uncoveredFrom_map here fun v hv => looks v (List.mem_reverse.mp hv)
  have should : s'.shouldBypass layout (g w) = s.shouldBypass layout w := by
    rw [shouldBypass, shouldBypass, uncovered, here.kind, here.geometry]
  rw [isEligible, isEligible, should, here.bypassSuspended, here.shaped, here.hasAlpha,
    here.opacity]

end WindowStack

namespace Compositor

open WindowStack
open Toplevel (Looks Refreshed)
open Timers (Touches)

variable {δ σ : Type} [DisplayServer δ] [Renderer σ] {c c' : Compositor δ σ}

/-! One turn of a pass. -/

/-- A window's turn: it is as was decided, or has to wait, or is switched. -/
theorem bypassStep_cases (now : Nanos) (eligible : List WindowId) (w : Toplevel)
    (p : BypassPass δ σ) :
    (w.unredirected = eligible.contains w.id ∧ bypassStep now eligible w p = (w, p)) ∨
      (w.unredirected ≠ eligible.contains w.id ∧ p.bypass.tooEarly now = true ∧
        bypassStep now eligible w p = (w, { p with debounced := true })) ∨
      (w.unredirected ≠ eligible.contains w.id ∧ p.bypass.tooEarly now = false ∧
        ∃ u d r, bypassStep now eligible w p =
            (u, ⟨{ p.bypass with lastToggle? := some now }, d, r, true, p.debounced⟩) ∧
          Looks w u ∧ u.damage? = w.damage? ∧ u.unredirected = eligible.contains w.id) := by
  rw [bypassStep]
  rcases p.bypass.update_cases w (eligible.contains w.id) now p.display p.renderer with
    ⟨agrees, h⟩ | ⟨other, early, h⟩ | ⟨wanted, off, late, h⟩ | ⟨unwanted, on, late, h⟩
  · have done : (BypassChange.unchanged == BypassChange.debounced) = false := rfl
    rw [h]
    exact Or.inl ⟨agrees.symm, by simp [BypassChange.toggled, done]⟩
  · rw [h]
    exact Or.inr (Or.inl ⟨other.symm, early, by simp [BypassChange.toggled]⟩)
  · have done : (BypassChange.unredirected == BypassChange.debounced) = false := rfl
    rw [h]
    refine Or.inr (Or.inr ⟨by rw [wanted, off]; simp, late, { w with unredirected := true },
      DisplayServer.unredirectWindow w.id p.display, Renderer.pixmapDiscarded w.id p.renderer,
      ?_, ⟨rfl, rfl, rfl, rfl, rfl, rfl, rfl⟩, rfl, wanted.symm⟩)
    simp [BypassChange.toggled, done]
  · have done : (BypassChange.redirected == BypassChange.debounced) = false := rfl
    have same := Toplevel.addDamageFull_same { w with unredirected := false }
    have looks := Toplevel.addDamageFull_looks { w with unredirected := false }
    rw [h]
    refine Or.inr (Or.inr ⟨by rw [unwanted, on]; simp, late, _,
      DisplayServer.redirectWindow w.id p.display, Renderer.pixmapDiscarded w.id p.renderer,
      ?_, ?_, same.damage, ?_⟩)
    · simp [BypassChange.toggled, done]
    · exact ⟨looks.id, looks.kind, looks.geometry, looks.opacity, looks.shaped, looks.hasAlpha,
        looks.bypassSuspended⟩
    · exact same.direct.trans unwanted.symm

theorem bypassStep_unswitched {α : Type} {view : δ → α}
    (unswitched : DisplayServer.Unswitched view) (now : Nanos) (eligible : List WindowId)
    (w : Toplevel) (p : BypassPass δ σ) :
    view (bypassStep now eligible w p).2.display = view p.display :=
  bypassStep_induction (P := fun _ d _ => view d = view p.display) now eligible w p rfl
    (unswitched.unredirectWindow w.id p.display) (unswitched.redirectWindow w.id p.display)

theorem bypassStep_shown {α : Type} {view : σ → α} (shown : Renderer.Shown view) (now : Nanos)
    (eligible : List WindowId) (w : Toplevel) (p : BypassPass δ σ) :
    view (bypassStep now eligible w p).2.renderer = view p.renderer :=
  bypassStep_induction (P := fun _ _ r => view r = view p.renderer) now eligible w p rfl
    (shown.pixmapDiscarded w.id p.renderer) (shown.pixmapDiscarded w.id p.renderer)

/-! The turns of a pass, one after the other. -/

/-- The window is as it was, or as was decided for it. -/
structure Nearer (c : Compositor δ σ) (w w' : Toplevel) : Prop where
  looks : Looks w w'
  damage : w'.damage? = w.damage?
  direct : w'.unredirected = w.unredirected ∨ w'.unredirected = c.chosen.contains w.id

theorem Nearer.of_refreshed {w w' : Toplevel} (same : Refreshed w w') : c.Nearer w w' :=
  ⟨same.looks, same.damage, Or.inl same.direct⟩

theorem Nearer.refl (w : Toplevel) : c.Nearer w w := Nearer.of_refreshed (Refreshed.refl w)

theorem Nearer.trans {u v w : Toplevel} (first : c.Nearer u v) (second : c.Nearer v w) :
    c.Nearer u w where
  looks := first.looks.trans second.looks
  damage := second.damage.trans first.damage
  direct := by
    rcases second.direct with same | decided
    · rcases first.direct with same' | decided
      · exact Or.inl (same.trans same')
      · exact Or.inr (same.trans decided)
    · exact Or.inr (by rw [decided, first.looks.id])

theorem bypassStep_nearer (w : Toplevel) (p : BypassPass δ σ) :
    c.Nearer w (bypassStep c.timers.now c.chosen w p).1 := by
  rcases bypassStep_cases c.timers.now c.chosen w p with
    ⟨_, e⟩ | ⟨_, _, e⟩ | ⟨_, _, u, d, r, e, looks, damage, decided⟩
  · rw [e]
    exact Nearer.refl w
  · rw [e]
    exact Nearer.refl w
  · rw [e]
    exact ⟨looks, damage, Or.inr decided⟩

/-- How far a pass is, with the turns of `rest` to come. -/
structure Underway (c : Compositor δ σ) (rest : List WindowId) (s : WindowStack)
    (p : BypassPass δ σ) : Prop where
  nearer : Becomes c.Nearer c.windows s
  /-- Nothing was switched yet, or a window has come to be as was decided. -/
  progress :
    (p.toggled = false ∧ s = c.windows ∧ p.bypass = c.bypass ∧
        (p.debounced = true → c.bypass.tooEarly c.timers.now = true)) ∨
      (p.toggled = true ∧ p.bypass = { c.bypass with lastToggle? := some c.timers.now } ∧
        ∃ w ∈ c.windows.windows, w.isPlaceholder = false ∧
          w.unredirected ≠ c.chosen.contains w.id ∧
          ∃ w' ∈ s.windows, w'.id = w.id ∧ w'.unredirected = c.chosen.contains w.id)
  /-- As long as no window had to wait, all who had their turn are as was decided. -/
  decided : p.debounced = false → ∀ w ∈ s.windows,
    w.isPlaceholder = true ∨ w.unredirected = c.chosen.contains w.id ∨ w.id ∈ rest

omit [DisplayServer δ] [Renderer σ] in
/-- Those who have a turn in a pass are no placeholders. -/
theorem candidates_real (distinct : c.windows.Distinct) {w : Toplevel}
    (hw : w ∈ c.windows.windows) (listed : w.id ∈ c.candidates) : w.isPlaceholder = false := by
  obtain ⟨v, hv, same⟩ := List.mem_map.mp listed
  obtain ⟨member, real⟩ := List.mem_filter.mp hv
  rw [← eq_of_id_eq distinct member hw same]
  simpa using real

/-- A window that is other than was decided has been so from the beginning. -/
theorem other_before {s : WindowStack} (near : Becomes c.Nearer c.windows s) {w : Toplevel}
    (hw : w ∈ s.windows) (other : w.unredirected ≠ c.chosen.contains w.id) :
    ∃ v ∈ c.windows.windows, v.id = w.id ∧ v.unredirected ≠ c.chosen.contains v.id := by
  obtain ⟨g, shape, near⟩ := near
  obtain ⟨v, hv, rfl⟩ := List.mem_map.mp (shape ▸ hw)
  have before := near v hv
  refine ⟨v, hv, before.looks.id.symm, ?_⟩
  rcases before.direct with same | decided
  · rwa [← same, ← before.looks.id]
  · exact absurd (before.looks.id.symm ▸ decided) other

/-- Whoever has had a turn is as was decided, if the last one is. -/
theorem Underway.done {id : WindowId} {rest : List WindowId} {s : WindowStack}
    {p : BypassPass δ σ} (h : Underway c (id :: rest) s p) (untroubled : p.debounced = false)
    {v : Toplevel} (hv : v ∈ s.windows)
    (last : v.id = id → v.unredirected = c.chosen.contains v.id) :
    v.isPlaceholder = true ∨ v.unredirected = c.chosen.contains v.id ∨ v.id ∈ rest := by
  rcases h.decided untroubled v hv with placeholder | decided | coming
  · exact Or.inl placeholder
  · exact Or.inr (Or.inl decided)
  · rcases List.mem_cons.mp coming with here | coming
    · exact Or.inr (Or.inl (last here))
    · exact Or.inr (Or.inr coming)

theorem Underway.turn (distinct : c.windows.Distinct) {id : WindowId} {rest : List WindowId}
    {s : WindowStack} {p : BypassPass δ σ} {w : Toplevel} (h : Underway c (id :: rest) s p)
    (listed : id ∈ c.candidates) (found : s.get? id = some w) :
    Underway c rest (s.modify id fun _ => (bypassStep c.timers.now c.chosen w p).1)
      (bypassStep c.timers.now c.chosen w p).2 := by
  have hw := mem_of_get? found
  have distinct' : s.Distinct := h.nearer.distinct (fun _ _ near => near.looks.id) distinct
  have nearer : Becomes c.Nearer c.windows
      (s.modify id fun _ => (bypassStep c.timers.now c.chosen w p).1) := by
    refine h.nearer.trans (fun _ _ _ first second => first.trans second) ?_
    refine Becomes.modify Nearer.refl s id fun v hv same => ?_
    rw [eq_of_get? distinct' found hv same]
    exact bypassStep_nearer w p
  rcases bypassStep_cases c.timers.now c.chosen w p with
    ⟨agrees, e⟩ | ⟨other, early, e⟩ | ⟨other, late, u, d, r, e, looks, _, decided⟩
  · rw [e] at nearer ⊢
    refine ⟨nearer, ?_, fun untroubled v hv => ?_⟩
    · rw [replace_self distinct' found]
      exact h.progress
    · rw [replace_self distinct' found] at hv
      refine h.done untroubled hv fun same => ?_
      rw [eq_of_get? distinct' found hv same]
      exact agrees
  · rw [e] at nearer ⊢
    refine ⟨nearer, ?_, by simp⟩
    rw [replace_self distinct' found]
    rcases h.progress with ⟨still, same, bypass, _⟩ | switched
    · exact Or.inl ⟨still, same, bypass, fun _ => bypass ▸ early⟩
    · exact Or.inr switched
  · rw [e] at nearer ⊢
    refine ⟨nearer, Or.inr ⟨rfl, ?_, ?_⟩, fun untroubled v hv => ?_⟩
    · rcases h.progress with ⟨_, _, bypass, _⟩ | ⟨_, bypass, _⟩
      · simp [bypass]
      · simp [bypass]
    · obtain ⟨v, hv, same, before⟩ := other_before h.nearer hw.1 other
      have real : v.isPlaceholder = false :=
        candidates_real distinct hv ((same.trans hw.2).symm ▸ listed)
      exact ⟨v, hv, real, before, u, (mem_replace found).mpr (Or.inl rfl),
        looks.id.trans same.symm, by rw [decided, same]⟩
    · rcases (mem_replace found).mp hv with rfl | ⟨hv, elsewhere⟩
      · exact Or.inr (Or.inl (by rw [decided, looks.id]))
      · exact h.done untroubled hv fun here => (elsewhere here).elim

theorem midPass_underway (distinct : c.windows.Distinct) :
    Underway c [] (c.midPass c.candidates).1 (c.midPass c.candidates).2 := by
  let P : List WindowId → WindowStack → BypassPass δ σ → Prop :=
    fun rest s p => (∀ id ∈ rest, id ∈ c.candidates) ∧ Underway c rest s p
  have start : P c.candidates c.windows ⟨c.bypass, c.display, c.renderer, false, false⟩ := by
    refine ⟨fun _ listed => listed, Becomes.refl Nearer.refl c.windows,
      Or.inl ⟨rfl, rfl, rfl, by simp⟩, fun _ w hw => ?_⟩
    by_cases real : w.isPlaceholder = true
    · exact Or.inl real
    · have member : w ∈ c.windows.windows.filter fun w => !w.isPlaceholder :=
        List.mem_filter.mpr ⟨hw, by simpa using real⟩
      exact Or.inr (Or.inr (List.mem_map_of_mem member))
  refine (visit_induction start ?_ ?_).2
  · rintro id rest s p unknown ⟨listed, h⟩
    refine ⟨fun other member => listed other (List.mem_cons_of_mem id member), h.nearer,
      h.progress, fun untroubled w hw => ?_⟩
    exact h.done untroubled hw fun here => (get?_eq_none_iff.mp unknown w hw here).elim
  · rintro id rest s p w found ⟨listed, h⟩
    exact ⟨fun other member => listed other (List.mem_cons_of_mem id member),
      h.turn distinct (listed id List.mem_cons_self) found⟩

theorem midPass_unswitched {α : Type} {view : δ → α} (unswitched : DisplayServer.Unswitched view)
    (done : List WindowId) : view (c.midPass done).2.display = view c.display :=
  visit_view (fun p : BypassPass δ σ => view p.display)
    (bypassStep_unswitched unswitched c.timers.now c.chosen) done c.windows _

theorem midPass_shown {α : Type} {view : σ → α} (shown : Renderer.Shown view)
    (done : List WindowId) : view (c.midPass done).2.renderer = view c.renderer :=
  visit_view (fun p : BypassPass δ σ => view p.renderer)
    (bypassStep_shown shown c.timers.now c.chosen) done c.windows _

/-! Windows that are other than was decided for them. -/

/-- For a window that is no placeholder a pass decides by its right to bypass compositing. -/
theorem chosen_contains (distinct : c.windows.Distinct) {w : Toplevel} (hw : w ∈ c.windows.windows)
    (real : w.isPlaceholder = false) : c.chosen.contains w.id = c.isEligible w := by
  rw [Bool.eq_iff_iff, List.contains_iff_mem]
  constructor
  · intro listed
    obtain ⟨v, hv, same⟩ := List.mem_map.mp listed
    obtain ⟨candidate, eligible⟩ := List.mem_filter.mp hv
    rwa [← eq_of_id_eq distinct (List.mem_filter.mp candidate).1 hw same]
  · intro eligible
    have candidate : w ∈ c.windows.windows.filter fun w => !w.isPlaceholder :=
      List.mem_filter.mpr ⟨hw, by simp [real]⟩
    exact List.mem_map_of_mem (List.mem_filter.mpr ⟨candidate, eligible⟩)

/-- Where a window may not bypass compositing, a pass decides for none. -/
theorem chosen_of_off (off : c.options.bypassFullscreen = false) (id : WindowId) :
    c.chosen.contains id = false := by
  have none : c.chosen = [] := by
    simp [chosen, isEligible, bypassContext, WindowStack.isEligible, off]
  rw [none]
  rfl

/-- The window is no placeholder, and it is not as a pass would decide for it. -/
def disagrees (c : Compositor δ σ) (w : Toplevel) : Bool :=
  !w.isPlaceholder && (w.unredirected != c.isEligible w)

def disagreeing (c : Compositor δ σ) : Nat := c.windows.windows.countP c.disagrees

/-- Every window that is no placeholder is as a pass would decide for it. -/
theorem disagreeing_eq_zero_iff :
    c.disagreeing = 0 ↔
      ∀ w ∈ c.windows.windows, w.isPlaceholder = false → w.unredirected = c.isEligible w := by
  simp [disagreeing, disagrees, List.countP_eq_zero]

/-- Nothing decides otherwise, and the windows have changed as little as in a pass. -/
structure Approaches (c c' : Compositor δ σ) : Prop where
  layout : DisplayServer.layout c'.display = DisplayServer.layout c.display
  context : c'.bypassContext = c.bypassContext
  windows : Becomes c.Nearer c.windows c'.windows

theorem Approaches.disagrees (h : Approaches c c') (distinct : c.windows.Distinct)
    {g : Toplevel → Toplevel} (shape : c'.windows.windows = c.windows.windows.map g)
    (near : ∀ w ∈ c.windows.windows, c.Nearer w (g w)) {w : Toplevel}
    (hw : w ∈ c.windows.windows) :
    c'.disagrees (g w) = true ↔ c.disagrees w = true ∧
      (g w).unredirected ≠ c.chosen.contains w.id := by
  have here := near w hw
  have same : c'.isEligible (g w) = c.isEligible w := by
    rw [isEligible, isEligible, h.layout, h.context]
    exact isEligible_map shape (fun v hv => (near v hv).looks) _ _ hw
  simp only [Compositor.disagrees, here.looks.isPlaceholder, same, Bool.and_eq_true,
    Bool.not_eq_true', bne_iff_ne, ne_eq]
  constructor
  · rintro ⟨real, other⟩
    rw [chosen_contains distinct hw real]
    refine ⟨⟨real, fun agrees => ?_⟩, other⟩
    rcases here.direct with as_before | decided
    · exact other (as_before.trans agrees)
    · exact other (decided.trans (chosen_contains distinct hw real))
  · rintro ⟨⟨real, _⟩, other⟩
    rw [chosen_contains distinct hw real] at other
    exact ⟨real, other⟩

theorem Approaches.disagreeing_le (h : Approaches c c') (distinct : c.windows.Distinct) :
    c'.disagreeing ≤ c.disagreeing := by
  obtain ⟨g, shape, near⟩ := h.windows
  rw [disagreeing, disagreeing, shape, List.countP_map]
  exact List.countP_mono_left fun w hw counts =>
    ((h.disagrees distinct shape near hw).mp counts).1

/-- If a window has come to be as was decided, fewer windows disagree. -/
theorem Approaches.disagreeing_lt (h : Approaches c c') (distinct : c.windows.Distinct)
    {w w' : Toplevel} (hw : w ∈ c.windows.windows) (real : w.isPlaceholder = false)
    (before : w.unredirected ≠ c.chosen.contains w.id) (hw' : w' ∈ c'.windows.windows)
    (same : w'.id = w.id) (after : w'.unredirected = c.chosen.contains w.id) :
    c'.disagreeing < c.disagreeing := by
  obtain ⟨g, shape, near⟩ := h.windows
  obtain ⟨v, hv, rfl⟩ := List.mem_map.mp (shape ▸ hw')
  obtain rfl : v = w := eq_of_id_eq distinct hv hw ((near v hv).looks.id.symm.trans same)
  rw [disagreeing, disagreeing, shape, List.countP_map]
  refine countP_lt (fun u hu counts => ((h.disagrees distinct shape near hu).mp counts).1) hv ?_ ?_
  · rw [chosen_contains distinct hv real] at before
    simp [Compositor.disagrees, real, before]
  · by_contra counts
    exact ((h.disagrees distinct shape near hv).mp (by simpa using counts)).2 after

/-! The whole pass. -/

def retrying (c : Compositor δ σ) (debounced : Bool) : Timers :=
  if debounced && !c.timers.isArmed .bypassRetry then c.timers.start .bypassRetry bypassDebounce
  else c.timers

theorem switchWindows_eq (c : Compositor δ σ) :
    c.switchWindows =
      ((c.midPass c.candidates).2.toggled || (c.midPass c.candidates).2.bypass.forced,
        { c with
          windows := (c.midPass c.candidates).1
          display := (c.midPass c.candidates).2.display
          renderer := (c.midPass c.candidates).2.renderer
          timers := c.retrying (c.midPass c.candidates).2.debounced
          bypass := { (c.midPass c.candidates).2.bypass with
            forced := false
            optionChanged := (c.midPass c.candidates).2.bypass.optionChanged &&
              (c.midPass c.candidates).2.debounced } }) := rfl

omit [DisplayServer δ] [Renderer σ] in
/-- What had to wait will be tried again. -/
theorem retrying_armed (c : Compositor δ σ) : (c.retrying true).isArmed .bypassRetry = true := by
  rw [retrying]
  split
  · simp
  · rename_i already
    simpa using already

/-- A pass leaves nothing but its windows as decided, or a switch that is tried again. -/
theorem midPass_decided (distinct : c.windows.Distinct)
    (untroubled : (c.midPass c.candidates).2.debounced = false) :
    ∀ w ∈ (c.midPass c.candidates).1.windows,
      w.isPlaceholder = true ∨ w.unredirected = c.chosen.contains w.id := by
  intro w hw
  rcases (midPass_underway distinct).decided untroubled w hw with placeholder | decided | coming
  · exact Or.inl placeholder
  · exact Or.inr decided
  · simp at coming

theorem bypassPass_unswitched {α : Type} {view : δ → α}
    (unswitched : DisplayServer.Unswitched view)
    (c : Compositor δ σ) : view c.bypassPass.display = view c.display := by
  have switched : view c.switchWindows.2.display = view c.display :=
    midPass_unswitched unswitched c.candidates
  rw [bypassPass_eq]
  split
  · split
    · simpa using switched
    · exact switched
  · rfl

/-! Moves by what they do to the scene, the selection and a part of the server. -/

omit [DisplayServer δ] [Renderer σ] in
/-- Whether there is a scene, which selection is held, and what can be seen of the server. -/
def standing {α : Type} (view : δ → α) (c : Compositor δ σ) : Bool × Option String × α :=
  (c.hasScene, c.selection?, view c.display)

theorem Aside.standing {α : Type} {view : δ → α} (lasting : DisplayServer.Lasting view)
    (aside : Aside c c') : c'.standing view = c.standing view := by
  rw [Compositor.standing, aside.scene, aside.selection, aside.served lasting]
  rfl

theorem bypassPass_standing {α : Type} {view : δ → α} (unswitched : DisplayServer.Unswitched view)
    (c : Compositor δ σ) : c.bypassPass.standing view = c.standing view := by
  have quiet := Quiet.bypassPass c
  rw [Compositor.standing, quiet.scene, quiet.selection, bypassPass_unswitched unswitched]
  rfl

/-- What neither asides nor passes change, a move leaves alone, unless it comes to starts and
stops, the selection is lost, or the events are taken. -/
theorem Move.standing_cases {ok : Occasion → Prop} {α : Type} {view : δ → α}
    (lasting : DisplayServer.Lasting view) (unswitched : DisplayServer.Unswitched view)
    (move : Move ok c c') :
    c'.standing view = c.standing view ∨
      (∃ b b' : Compositor δ σ, b.standing id = c.standing id ∧ Shifts b b' ∧
        c'.standing id = b'.standing id) ∨
      (ok .news ∧ c.selection?.isSome = true ∧ c' = finish { c with selection? := none }) ∨
      (ok .news ∧ c' = { c with display := (DisplayServer.takeEvents c.display).2 }) := by
  cases move with
  | aside aside => exact Or.inl (aside.standing lasting)
  | shift shift => exact Or.inr (Or.inl ⟨c, c', rfl, shift.shifts, rfl⟩)
  | lose news held => exact Or.inr (Or.inr (Or.inl ⟨news, held, rfl⟩))
  | restart scene =>
    refine Or.inr (Or.inl ⟨c, c.finish, rfl, finish_shifts c, ?_⟩)
    rw [Compositor.restart, if_pos scene]
    rfl
  | switch _ asides =>
    have asked := (asides.trans (Aside.checkBypass _ true)).standing lasting
    exact Or.inl asked
  | pass popped =>
    left
    rcases popped with rfl | ⟨_, t, _, rfl⟩
    · exact bypassPass_standing unswitched _
    · exact bypassPass_standing unswitched { c with timers := t }
  | turn popped =>
    rcases popped with rfl | ⟨_, t, _, rfl⟩
    · rename_i b
      exact Or.inr (Or.inl ⟨{ b with deferred := [] }, _, rfl, runDeferred_shifts b, rfl⟩)
    · exact Or.inr (Or.inl ⟨{ c with timers := t, deferred := [] }, _, rfl,
        runDeferred_shifts { c with timers := t }, rfl⟩)
  | enter _ _ =>
    rename_i w _ _
    left
    have asked := (Aside.checkBypass (c.entered w) true).trans (Aside.scheduleRepaint _)
    refine (asked.standing lasting).trans ?_
    rw [Compositor.standing, show (c.entered w).display = (c.entering w).2.1 from rfl,
      entering_lasting c lasting w]
    rfl
  | leave keepPlaceholder _ _ _ =>
    rename_i w _ _ _
    left
    have asked := (Aside.addRepaint (c.left w keepPlaceholder) (Region.ofRect w.geometry)).trans
      (Aside.checkBypass _ true)
    refine (asked.standing lasting).trans ?_
    rw [Compositor.standing, show (c.left w keepPlaceholder).display =
      (c.leaving w (keepPlaceholder && c.hasScene)).2.1 from rfl, leaving_lasting c lasting w _]
    rfl
  | reshape id geometry =>
    left
    rcases c.setGeometry_cases id geometry with e | ⟨old, w, r, _, _, _, e⟩
    · rw [e]
    · have asked := (Aside.addRepaint ({ c with
        windows := c.windows.modify id fun _ => w, renderer := r } : Compositor δ σ)
        (Region.ofRects [old.geometry, geometry])).trans (Aside.checkBypass _ true)
      have same := asked.standing lasting
      rw [e]
      exact same
  | hear news => exact Or.inr (Or.inr (Or.inr ⟨news, rfl⟩))

end Compositor

end Compositing
