import Compositing.Display.Headless
import Compositing.Proofs.Turnover
import Compositing.Renderer.Headless
import Mathlib.Data.List.TakeWhile

/-!
# Windows drawn directly to the screen do not overlap what is composited above them

A pass decides for all windows before it switches the first of them, and goes through them
from bottom to top. A switch is refused as long as the last one is too recent, and every
disagreement that is met comes to a switch or to a refusal. So when a window starts to bypass
compositing, all windows below it are as was decided for them, and the decision has looked
at all windows above.
-/

namespace Compositing

theorem Rect.intersects_comm (r s : Rect) : r.intersects s = s.intersects r := by
  simp only [intersects]
  rw [Bool.eq_iff_iff]
  simp only [Bool.and_eq_true, Bool.not_eq_true', decide_eq_true_eq]
  constructor
  · rintro ⟨⟨⟨⟨⟨hr, hs⟩, h1⟩, h2⟩, h3⟩, h4⟩
    exact ⟨⟨⟨⟨⟨hs, hr⟩, h2⟩, h1⟩, h4⟩, h3⟩
  · rintro ⟨⟨⟨⟨⟨hs, hr⟩, h2⟩, h1⟩, h4⟩, h3⟩
    exact ⟨⟨⟨⟨⟨hr, hs⟩, h1⟩, h2⟩, h3⟩, h4⟩

namespace WindowStack

def above (s : WindowStack) (id : WindowId) : List Toplevel :=
  (s.windows.dropWhile (·.id != id)).tail

theorem above_eq {s : WindowStack} (distinct : s.Distinct) {below rest : List Toplevel}
    {w : Toplevel} (split : s.windows = below ++ w :: rest) : s.above w.id = rest := by
  have apart := (distinct.apart split).1
  have passed : below.dropWhile (·.id != w.id) = [] :=
    List.dropWhile_eq_nil_iff.mpr fun v hv => by simpa using apart v hv
  simp [above, split, List.dropWhile_append, passed]

theorem uncoveredFrom_append {w : Toplevel} {upper lower : List Toplevel}
    (others : ∀ v ∈ upper, v.id ≠ w.id) (uncovered : uncoveredFrom w (upper ++ lower) = true) :
    ∀ v ∈ upper, v.geometry.intersects w.geometry = false := by
  induction upper with
  | nil => simp
  | cons v rest ih =>
    have other := others v List.mem_cons_self
    simp only [List.cons_append, uncoveredFrom, other, if_false] at uncovered
    split at uncovered
    · simp at uncovered
    · rename_i clear
      intro u hu
      rcases List.mem_cons.mp hu with rfl | hu
      · simpa using clear
      · exact ih (fun x hx => others x (List.mem_cons_of_mem v hx)) uncovered u hu

/-- No window above an uncovered one intersects it. -/
theorem above_of_isUncovered {s : WindowStack} (distinct : s.Distinct) {w : Toplevel}
    (hw : w ∈ s.windows) (uncovered : s.isUncovered w = true) :
    ∀ v ∈ s.above w.id, v.geometry.intersects w.geometry = false := by
  obtain ⟨below, rest, split⟩ := List.mem_iff_append.mp hw
  rw [above_eq distinct split]
  rw [isUncovered, split, List.reverse_append, List.reverse_cons, List.append_assoc] at uncovered
  intro v hv
  refine uncoveredFrom_append ?_ uncovered v (List.mem_reverse.mpr hv)
  intro u hu
  exact (distinct.apart split).2 u (List.mem_reverse.mp hu)

theorem isEligible_uncovered {s : WindowStack} {layout : Layout} {context : BypassContext}
    {w : Toplevel} (eligible : s.isEligible layout context w = true) :
    s.isUncovered w = true := by
  have should : s.shouldBypass layout w = true := by
    simp only [isEligible, Bool.and_eq_true] at eligible
    exact eligible.2
  rw [shouldBypass] at should
  split at should
  · simp only [Bool.and_eq_true] at should
    exact should.2
  · simp only [Bool.and_eq_true] at should
    exact should.2
  · simp at should

/-- Of two windows one is above the other. -/
theorem above_or_above {s : WindowStack} (distinct : s.Distinct) {v w : Toplevel}
    (hv : v ∈ s.windows) (hw : w ∈ s.windows) (other : v.id ≠ w.id) :
    v ∈ s.above w.id ∨ w ∈ s.above v.id := by
  obtain ⟨below, rest, split⟩ := List.mem_iff_append.mp hw
  have placed : v ∈ below ∨ v ∈ rest := by
    rw [split, List.mem_append, List.mem_cons] at hv
    rcases hv with h | rfl | h
    · exact Or.inl h
    · exact (other rfl).elim
    · exact Or.inr h
  rcases placed with lower | higher
  · obtain ⟨under, between, parted⟩ := List.mem_iff_append.mp lower
    have split' : s.windows = under ++ v :: (between ++ w :: rest) := by simp [split, parted]
    rw [above_eq distinct split']
    exact Or.inr (by simp)
  · rw [above_eq distinct split]
    exact Or.inl higher

end WindowStack

namespace Compositor

open WindowStack

variable {ω δ σ : Type} [DisplayServer δ] [Renderer σ] (c : Compositor δ σ)

def candidates : List WindowId := (c.windows.windows.filter fun w => !w.isPlaceholder).map (·.id)

def chosen : List WindowId :=
  ((c.windows.windows.filter fun w => !w.isPlaceholder).filter c.isEligible).map (·.id)

/-- The windows and the pass once the given ones had their turn. -/
def midPass (done : List WindowId) : WindowStack × BypassPass δ σ :=
  c.windows.visit done (bypassStep c.timers.now c.chosen)
    ⟨c.bypass, c.display, c.renderer, false, false⟩

def turnAfter (done : List WindowId) (w : Toplevel) : BypassChange :=
  ((c.midPass done).2.bypass.update w (c.chosen.contains w.id) c.timers.now
    (c.midPass done).2.display (c.midPass done).2.renderer).1

/-- Nothing else changes the windows in a pass. -/
theorem bypassPass_windows :
    c.bypassPass.windows =
      if c.bypassApplies then (c.midPass c.candidates).1 else c.windows := by
  have switched : c.switchWindows.2.windows = (c.midPass c.candidates).1 := rfl
  rw [bypassPass_eq]
  split
  · split
    · simpa using switched
    · exact switched
  · rfl

def Settled (id : WindowId) : Prop :=
  ∀ w ∈ c.windows.windows, w.id = id → w.unredirected = c.chosen.contains id

theorem tooEarly_after_switch (b : BypassState) (now : Nanos) :
    { b with lastToggle? := some now }.tooEarly now = true := by
  have elapsed : now - now < bypassDebounce := by simp [bypassDebounce]
  simpa [BypassState.tooEarly] using elapsed

/-- A turn after which a switch is still possible has found the window as was decided. -/
theorem bypassStep_settles (now : Nanos) (eligible : List WindowId) (w : Toplevel)
    (p : BypassPass δ σ) :
    (bypassStep now eligible w p).2.bypass.tooEarly now = true ∨
      (w.unredirected = eligible.contains w.id ∧ (bypassStep now eligible w p).1 = w) := by
  rw [bypassStep]
  rcases p.bypass.update_cases w (eligible.contains w.id) now p.display p.renderer with
    ⟨agrees, h⟩ | ⟨_, early, h⟩ | ⟨_, _, _, h⟩ | ⟨_, _, _, h⟩
  · rw [h]
    exact Or.inr ⟨agrees.symm, rfl⟩
  · rw [h]
    exact Or.inl early
  · rw [h]
    exact Or.inl (tooEarly_after_switch p.bypass now)
  · rw [h]
    exact Or.inl (tooEarly_after_switch p.bypass now)

theorem bypassStep_early {now : Nanos} (eligible : List WindowId) (w : Toplevel)
    {p : BypassPass δ σ} (early : p.bypass.tooEarly now = true) :
    (bypassStep now eligible w p).2.bypass.tooEarly now = true := by
  rw [bypassStep]
  rcases p.bypass.update_cases w (eligible.contains w.id) now p.display p.renderer with
    ⟨_, h⟩ | ⟨_, _, h⟩ | ⟨_, _, late, _⟩ | ⟨_, _, late, _⟩
  · rw [h]
    exact early
  · rw [h]
    exact early
  · simp [early] at late
  · simp [early] at late

/-- As long as a switch is possible nothing was switched, and all who had their turn are as was
decided. -/
theorem midPass_settled (distinct : c.windows.Distinct) (done : List WindowId) :
    (c.midPass done).2.bypass.tooEarly c.timers.now = true ∨
      ((c.midPass done).1 = c.windows ∧ ∀ id ∈ done, c.Settled id) := by
  let P : List WindowId → WindowStack → BypassPass δ σ → Prop := fun rest s p =>
    p.bypass.tooEarly c.timers.now = true ∨
      (s = c.windows ∧ ∀ id ∈ done, id ∉ rest → c.Settled id)
  have start : P done c.windows ⟨c.bypass, c.display, c.renderer, false, false⟩ :=
    Or.inr ⟨rfl, fun id hd hn => (hn hd).elim⟩
  have final := visit_induction (f := bypassStep c.timers.now c.chosen) start ?skip ?turn
  case skip =>
    rintro id rest s p unknown (early | ⟨rfl, settled⟩)
    · exact Or.inl early
    · refine Or.inr ⟨rfl, fun other hd hn => ?_⟩
      by_cases same : other = id
      · intro w hw h
        exact (get?_eq_none_iff.mp unknown w hw (h.trans same)).elim
      · exact settled other hd (by simp [same, hn])
  case turn =>
    rintro id rest s p w found (early | ⟨rfl, settled⟩)
    · exact Or.inl (bypassStep_early c.chosen w early)
    · rcases bypassStep_settles c.timers.now c.chosen w p with early | ⟨agrees, same⟩
      · exact Or.inl early
      · rw [same]
        refine Or.inr ⟨replace_self distinct found, fun other hd hn => ?_⟩
        have hw := mem_of_get? found
        by_cases now : other = id
        · intro v hv h
          have hvw : v = w := eq_of_id_eq distinct hv hw.1 (by rw [h, now, hw.2])
          rw [hvw, agrees, hw.2, now]
        · exact settled other hd (by simp [now, hn])
  rcases final with early | ⟨same, settled⟩
  · exact Or.inl early
  · exact Or.inr ⟨same, fun id hd => settled id hd (by simp)⟩

omit [DisplayServer δ] [Renderer σ] in
/-- All windows below a candidate had their turn before it. -/
theorem below_done (distinct : c.windows.Distinct) {done rest : List WindowId} {v w : Toplevel}
    (order : c.candidates = done ++ w.id :: rest) (hv : v ∈ c.windows.windows)
    (real : v.isPlaceholder = false) (hw : w ∈ c.windows.above v.id) : v.id ∈ done := by
  obtain ⟨below, higher, split⟩ := List.mem_iff_append.mp hv
  rw [above_eq distinct split] at hw
  have other : w.id ≠ v.id := (distinct.apart split).2 w hw
  have listed : c.candidates = (below.filter fun w => !w.isPlaceholder).map (·.id) ++
      v.id :: (higher.filter fun w => !w.isPlaceholder).map (·.id) := by
    simp [candidates, split, List.filter_append, real]
  rw [listed, List.append_eq_append_iff] at order
  rcases order with ⟨between, later, between_eq⟩ | ⟨between, earlier, between_eq⟩
  · cases between with
    | nil => exact (other (by simpa using (List.cons.inj between_eq).1.symm)).elim
    | cons id more =>
      rw [List.cons_append] at between_eq
      rw [later, ← (List.cons.inj between_eq).1]
      simp
  · cases between with
    | nil => exact (other (by simpa using (List.cons.inj between_eq).1)).elim
    | cons id more =>
      -- then some window below `v` would have the id of `w`
      rw [List.cons_append] at between_eq
      have under : w.id ∈ (below.filter fun w => !w.isPlaceholder).map (·.id) := by
        rw [earlier, ← (List.cons.inj between_eq).1]
        simp
      obtain ⟨u, hu, same⟩ := List.mem_map.mp under
      have lower : u ∈ below := (List.mem_filter.mp hu).1
      have huw : u = w := by
        refine eq_of_id_eq distinct ?_ ?_ same
        · exact split ▸ List.mem_append_left _ lower
        · exact split ▸ List.mem_append_right _ (List.mem_cons_of_mem v hw)
      have once := List.nodup_append.mp (split ▸ List.Nodup.of_map _ distinct)
      exact (once.2.2 u lower u (List.mem_cons_of_mem v (huw ▸ hw)) rfl).elim

/-- Whatever decided for a window has seen that no window above it intersects it. -/
theorem chosen_above (distinct : c.windows.Distinct) {v w : Toplevel} (hv : v ∈ c.windows.windows)
    (decided : c.chosen.contains v.id = true) (hw : w ∈ c.windows.above v.id) :
    v.geometry.intersects w.geometry = false := by
  obtain ⟨u, hu, same⟩ := List.mem_map.mp (List.contains_iff_mem.mp decided)
  obtain ⟨candidate, eligible⟩ := List.mem_filter.mp hu
  have huv : u = v := eq_of_id_eq distinct (List.mem_filter.mp candidate).1 hv same
  subst huv
  rw [Rect.intersects_comm]
  exact above_of_isUncovered distinct hv (isEligible_uncovered eligible) w hw

/-- A window starts to bypass compositing only if that was decided, and not too early. -/
theorem turnAfter_unredirected {done : List WindowId} {w : Toplevel}
    (switched : c.turnAfter done w = .unredirected) :
    (c.midPass done).2.bypass.tooEarly c.timers.now = false ∧
      c.chosen.contains w.id = true := by
  rw [turnAfter] at switched
  rcases (c.midPass done).2.bypass.update_cases w (c.chosen.contains w.id) c.timers.now
    (c.midPass done).2.display (c.midPass done).2.renderer with
    ⟨_, h⟩ | ⟨_, _, h⟩ | ⟨wanted, _, late, _⟩ | ⟨_, _, _, h⟩
  · rw [h] at switched
    simp at switched
  · rw [h] at switched
    simp at switched
  · exact ⟨late, wanted⟩
  · rw [h] at switched
    simp at switched

/-- When a window starts to bypass compositing, it intersects no window above it and no other
that bypasses compositing. -/
theorem switched_apart (orderly : c.windows.Orderly) {done rest : List WindowId} {w : Toplevel}
    (order : c.candidates = done ++ w.id :: rest)
    (found : (c.midPass done).1.get? w.id = some w)
    (switched : c.turnAfter done w = .unredirected) :
    ∀ v ∈ (c.midPass done).1.windows, v.id ≠ w.id →
      v ∈ (c.midPass done).1.above w.id ∨ v.unredirected = true →
        w.geometry.intersects v.geometry = false := by
  have distinct := orderly.distinct
  obtain ⟨late, decided⟩ := c.turnAfter_unredirected switched
  rcases c.midPass_settled distinct done with early | ⟨same, settled⟩
  · simp [late] at early
  rw [same] at found ⊢
  have hw := (mem_of_get? found).1
  intro v hv other reason
  rcases above_or_above distinct hv hw other with higher | lower
  · exact c.chosen_above distinct hw decided higher
  · rcases reason with higher | direct
    · exact c.chosen_above distinct hw decided higher
    · -- `v` is no placeholder, had its turn, and bypasses compositing as was decided for it
      have real : v.isPlaceholder = false := by
        by_contra placeholder
        have hidden := orderly.hidden v hv (by simpa using placeholder)
        simp [direct] at hidden
      have had := c.below_done distinct order hv real lower
      have decided' : c.chosen.contains v.id = true := settled v.id had v hv rfl ▸ direct
      rw [Rect.intersects_comm]
      exact c.chosen_above distinct hv decided' lower

/-- The windows of every reachable compositor are in order. -/
theorem run_orderly (W : World ω δ σ) (d : δ) (r : σ) (options : CompositingOptions)
    {steps : List (Step ω)}
    (hidden : ∀ k ∈ steps, k.Adds fun w => w.isPlaceholder = true → w.unredirected = false) :
    ((Compositor.new d r options).run W steps).windows.Orderly := by
  have start : (Compositor.new d r options).windows.Orderly :=
    ⟨List.nodup_nil, fun w hw => by simp [Compositor.new, WindowStack.empty] at hw⟩
  exact run_preserves W (P := fun c => c.windows.Orderly)
    (fun c k hidden h => step_orderly W hidden h) start hidden

/-- In a pass of any reachable compositor, at any moment: a window that starts to bypass
compositing intersects no window above it and no other window that bypasses compositing at
that moment, whatever earlier passes have left behind. -/
theorem bypassing_never_overlaps (W : World ω δ σ) (d : δ) (r : σ) (options : CompositingOptions)
    {steps : List (Step ω)}
    (hidden : ∀ k ∈ steps, k.Adds fun w => w.isPlaceholder = true → w.unredirected = false)
    (timers : Timers) {c : Compositor δ σ}
    (reached : c = { (Compositor.new d r options).run W steps with timers := timers })
    {done rest : List WindowId} {w : Toplevel} (order : c.candidates = done ++ w.id :: rest)
    (found : (c.midPass done).1.get? w.id = some w)
    (switched : c.turnAfter done w = .unredirected) :
    ∀ v ∈ (c.midPass done).1.windows, v.id ≠ w.id →
      v ∈ (c.midPass done).1.above w.id ∨ v.unredirected = true →
        w.geometry.intersects v.geometry = false := by
  have orderly : c.windows.Orderly := by
    rw [reached]
    exact run_orderly W d r options hidden
  exact c.switched_apart orderly order found switched

def besideSteps : List (Step Empty) :=
  [.addWindow (.client ⟨1⟩ (.ofCoords 0 0 10 10) ⟨true, true, false⟩), .setup,
    .handleTimer .bypassCheck, .advanceClock 200000000,
    .addWindow (.client ⟨2⟩ (.ofCoords 20 0 10 10) ⟨true, true, false⟩)]

def beside : Compositor HeadlessDisplay HeadlessRenderer :=
  (Compositor.new (.new Extension.all (.single 1920 1080)) (.new ⟨1⟩ fun _ => 0)
    { CompositingOptions.standard with bypassFullscreen := true }).run .closed besideSteps

def earlycomer : Toplevel :=
  { Toplevel.client ⟨1⟩ (.ofCoords 0 0 10 10) ⟨true, true, false⟩ with
    damage? := some ⟨1⟩
    damageRegion := Region.ofRect (.ofCoords 0 0 10 10)
    unredirected := true }

def latecomer : Toplevel :=
  { Toplevel.client ⟨2⟩ (.ofCoords 20 0 10 10) ⟨true, true, false⟩ with
    damage? := some ⟨2⟩
    damageRegion := Region.ofRect (.ofCoords 0 0 10 10) }

/-- The second window starts to bypass compositing while the first one still does. -/
theorem beside_apart :
    beside.turnAfter [⟨1⟩] latecomer = .unredirected ∧
      earlycomer ∈ (beside.midPass [⟨1⟩]).1.windows ∧ earlycomer.unredirected = true ∧
      latecomer.geometry.intersects earlycomer.geometry = false := by
  have hidden : ∀ k ∈ besideSteps, k.Adds fun w => w.isPlaceholder = true →
      w.unredirected = false := by
    simp [besideSteps, Toplevel.client, Toplevel.new]
  have reached : beside = { (Compositor.new (.new Extension.all (.single 1920 1080))
      (.new ⟨1⟩ fun _ => 0) { CompositingOptions.standard with bypassFullscreen := true }).run
        .closed besideSteps with timers := beside.timers } := rfl
  have order : beside.candidates = [⟨1⟩] ++ latecomer.id :: [] := rfl
  have found : (beside.midPass [⟨1⟩]).1.get? latecomer.id = some latecomer := rfl
  have switched : beside.turnAfter [⟨1⟩] latecomer = .unredirected := rfl
  have looked : (beside.midPass [⟨1⟩]).1.get? ⟨1⟩ = some earlycomer := rfl
  have member : earlycomer ∈ (beside.midPass [⟨1⟩]).1.windows :=
    (WindowStack.mem_of_get? looked).1
  have other : earlycomer.id ≠ latecomer.id := by decide
  exact ⟨switched, member, rfl, bypassing_never_overlaps .closed _ _ _ hidden beside.timers
    reached
    order found switched earlycomer member other (Or.inr rfl)⟩

end Compositor

end Compositing
