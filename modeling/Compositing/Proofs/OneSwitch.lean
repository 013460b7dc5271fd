import Compositing.Display.Headless
import Compositing.Proofs.Retries
import Compositing.Proofs.Rounds
import Compositing.Renderer.Headless

/-!
# What one pass does

A pass meets the windows from bottom to top and has a date to keep to: after a switch all others
come too early. So it switches the lowest window that is other than was decided, or none if the
last switch is too recent, and puts all others off. The flags and timers that it leaves behind are
told by this window and by those that were put off.
-/

namespace Compositing

open WindowStack (round round_append round_cons_turn round_cons_skip visit_eq_round)

namespace Toplevel

/-- A window after its switch: from now on it is drawn directly to the screen, or it is composited
again and all of it is out of date. -/
def switched (w : Toplevel) : Toplevel :=
  if w.unredirected then { w with unredirected := false }.addDamageFull
  else { w with unredirected := true }

theorem switched_id (w : Toplevel) : w.switched.id = w.id := by
  rw [switched]
  split
  · exact (addDamageFull_looks { w with unredirected := false }).id
  · rfl

theorem switched_unredirected (w : Toplevel) : w.switched.unredirected = !w.unredirected := by
  rw [switched]
  split
  · rename_i direct
    rw [(addDamageFull_same { w with unredirected := false }).direct, direct]
    rfl
  · rename_i composited
    simp [composited]

def tellSwitch {δ : Type} [DisplayServer δ] (w : Toplevel) (d : δ) : δ :=
  if w.unredirected then DisplayServer.redirectWindow w.id d
  else DisplayServer.unredirectWindow w.id d

end Toplevel

namespace Compositor

variable {ω δ σ : Type} [DisplayServer δ] [Renderer σ]

/-! Turns along a list of windows. -/

section Turns

variable {now : Nanos} {eligible : List WindowId} {p : BypassPass δ σ}

def astray (eligible : List WindowId) (w : Toplevel) : Bool :=
  !w.isPlaceholder && (w.unredirected != eligible.contains w.id)

/-- The round of a pass along a list of windows. -/
def passOver (now : Nanos) (eligible : List WindowId) (windows : List Toplevel)
    (p : BypassPass δ σ) : List Toplevel × BypassPass δ σ :=
  round (fun w => !w.isPlaceholder) (bypassStep now eligible) windows p

theorem bypassStep_wait (w : Toplevel) (early : p.bypass.tooEarly now = true) :
    bypassStep now eligible w p =
      (w, { p with
        debounced := p.debounced || (w.unredirected != eligible.contains w.id) }) := by
  rcases bypassStep_cases now eligible w p with ⟨agrees, e⟩ | ⟨other, _, e⟩ | ⟨_, late, _⟩
  · rw [e, agrees]
    simp
  · have astray : (w.unredirected != eligible.contains w.id) = true := bne_iff_ne.mpr other
    rw [e, astray, Bool.or_true]
  · simp [early] at late

theorem bypassStep_switch {w : Toplevel} (late : p.bypass.tooEarly now = false)
    (other : w.unredirected ≠ eligible.contains w.id) :
    bypassStep now eligible w p =
      (w.switched, ⟨{ p.bypass with lastToggle? := some now }, w.tellSwitch p.display,
        Renderer.pixmapDiscarded w.id p.renderer, true, p.debounced⟩) := by
  have unrefused (change : BypassChange) (done : change.toggled = true) :
      (change == BypassChange.debounced) = false := by
    cases change with
    | unredirected | redirected => rfl
    | unchanged | debounced => simp [BypassChange.toggled] at done
  rw [bypassStep]
  rcases p.bypass.update_cases w (eligible.contains w.id) now p.display p.renderer with
    ⟨agrees, _⟩ | ⟨_, early, _⟩ | ⟨_, off, _, h⟩ | ⟨_, on, _, h⟩
  · exact (other agrees.symm).elim
  · simp [early] at late
  · rw [h, Toplevel.switched, Toplevel.tellSwitch, off]
    simp [BypassChange.toggled, unrefused .unredirected rfl]
  · rw [h, Toplevel.switched, Toplevel.tellSwitch, on]
    simp [BypassChange.toggled, unrefused .redirected rfl]

/-- Where a switch comes too early, all windows stay as they are, and those that are other than was
decided have to wait. -/
theorem passOver_early (windows : List Toplevel) (early : p.bypass.tooEarly now = true) :
    passOver now eligible windows p =
      (windows, { p with debounced := p.debounced || windows.any (astray eligible) }) := by
  induction windows generalizing p with
  | nil => simp [passOver, WindowStack.round]
  | cons w rest ih =>
    rw [passOver]
    cases placeholder : w.isPlaceholder with
    | true =>
      rw [round_cons_skip (by simp [placeholder]), ← passOver, ih early]
      simp [astray, placeholder]
    | false =>
      rw [round_cons_turn (by simp [placeholder]), ← passOver, bypassStep_wait w early]
      dsimp only
      rw [ih (by exact early)]
      simp [astray, placeholder, Bool.or_assoc]

/-- Nothing happens to windows that are as was decided. -/
theorem passOver_settled {windows : List Toplevel}
    (settled : ∀ w ∈ windows, astray eligible w = false) :
    passOver now eligible windows p = (windows, p) := by
  induction windows with
  | nil => rfl
  | cons w rest ih =>
    have here := settled w List.mem_cons_self
    have others := ih fun v hv => settled v (List.mem_cons_of_mem w hv)
    rw [passOver]
    cases placeholder : w.isPlaceholder with
    | true => rw [round_cons_skip (by simp [placeholder]), ← passOver, others]
    | false =>
      have agrees : w.unredirected = eligible.contains w.id := by
        simpa [astray, placeholder] using here
      have still : bypassStep now eligible w p = (w, p) := by
        rcases bypassStep_cases now eligible w p with ⟨_, e⟩ | ⟨other, _⟩ | ⟨other, _⟩
        · exact e
        · exact (other agrees).elim
        · exact (other agrees).elim
      rw [round_cons_turn (by simp [placeholder]), ← passOver, still, others]

/-- The lowest window that is other than was decided is switched, and all others above it have to
wait. -/
theorem passOver_switch {below above : List Toplevel} {w : Toplevel}
    (late : p.bypass.tooEarly now = false)
    (settled : ∀ v ∈ below, astray eligible v = false) (other : astray eligible w = true) :
    passOver now eligible (below ++ w :: above) p =
      (below ++ w.switched :: above,
        ⟨{ p.bypass with lastToggle? := some now }, w.tellSwitch p.display,
          Renderer.pixmapDiscarded w.id p.renderer, true,
          p.debounced || above.any (astray eligible)⟩) := by
  simp only [astray, Bool.and_eq_true, bne_iff_ne, ne_eq] at other
  rw [passOver, round_append, ← passOver, passOver_settled settled, round_cons_turn other.1,
    bypassStep_switch late other.2, ← passOver, passOver_early]
  exact tooEarly_after_switch p.bypass now

end Turns

/-! The whole pass. -/

variable {c c' : Compositor δ σ}

/-- The windows, from bottom to top, that are no placeholders and of which a pass would decide
otherwise. -/
def unsettled (c : Compositor δ σ) : List Toplevel := c.windows.windows.filter c.disagrees

omit [DisplayServer δ] [Renderer σ] in
def maySwitch (c : Compositor δ σ) : Bool :=
  match c.bypass.lastToggle? with
  | none => true
  | some last => decide (last + bypassDebounce ≤ c.timers.now)

/-- The window that a pass switches: the lowest unsettled one, if a switch may take place. -/
def switching? (c : Compositor δ σ) : Option Toplevel :=
  if c.maySwitch then c.unsettled.head? else none

/-- The windows that a pass leaves unsettled. -/
def postponed (c : Compositor δ σ) : List Toplevel :=
  if c.maySwitch then c.unsettled.tail else c.unsettled

omit [DisplayServer δ] [Renderer σ] in
theorem tooEarly_eq (c : Compositor δ σ) : c.bypass.tooEarly c.timers.now = !c.maySwitch := by
  rw [BypassState.tooEarly, maySwitch]
  cases c.bypass.lastToggle? with
  | none => rfl
  | some last =>
    have positive : 0 < bypassDebounce := by simp [bypassDebounce]
    have elapsed (now last wait : Nat) (positive : 0 < wait) :
        now - last < wait ↔ now < last + wait := by omega
    rw [Bool.eq_iff_iff]
    simp only [decide_eq_true_eq, Bool.not_eq_true', decide_eq_false_iff_not, Nat.not_le]
    exact elapsed _ _ _ positive

theorem astray_eq (distinct : c.windows.Distinct) {w : Toplevel} (hw : w ∈ c.windows.windows) :
    astray c.chosen w = c.disagrees w := by
  rw [astray, disagrees]
  cases placeholder : w.isPlaceholder with
  | true => rfl
  | false => rw [chosen_contains distinct hw placeholder]

theorem any_astray (distinct : c.windows.Distinct) {windows : List Toplevel}
    (known : ∀ w ∈ windows, w ∈ c.windows.windows) :
    windows.any (astray c.chosen) = !(windows.filter c.disagrees).isEmpty := by
  have same : windows.filter c.disagrees = windows.filter (astray c.chosen) :=
    List.filter_congr fun w hw => (astray_eq distinct (known w hw)).symm
  rw [same, Bool.eq_iff_iff]
  simp [List.filter_eq_nil_iff]

/-- The round of a pass: it switches one window, if it may and there is one to switch. -/
theorem midPass_eq (distinct : c.windows.Distinct) :
    c.midPass c.candidates =
      (c.switching?.elim c.windows fun w => c.windows.modify w.id fun _ => w.switched,
        { bypass := { c.bypass with
            lastToggle? := if c.switching?.isSome then some c.timers.now else c.bypass.lastToggle? }
          display := c.switching?.elim c.display fun w => w.tellSwitch c.display
          renderer := c.switching?.elim c.renderer fun w => Renderer.pixmapDiscarded w.id c.renderer
          toggled := c.switching?.isSome
          debounced := !c.postponed.isEmpty }) := by
  have along : c.midPass c.candidates =
      (⟨(passOver c.timers.now c.chosen c.windows.windows
        ⟨c.bypass, c.display, c.renderer, false, false⟩).1⟩, (passOver c.timers.now c.chosen
        c.windows.windows ⟨c.bypass, c.display, c.renderer, false, false⟩).2) :=
    visit_eq_round _ (bypassStep_id c.timers.now c.chosen) distinct _
  have early := c.tooEarly_eq
  rw [along]
  cases may : c.maySwitch with
  | false =>
    rw [may] at early
    rw [passOver_early _ early, switching?, postponed, may, any_astray distinct fun _ hw => hw]
    simp [unsettled]
  | true =>
    rw [may] at early
    cases first : c.unsettled with
    | nil =>
      have settled : ∀ w ∈ c.windows.windows, astray c.chosen w = false := by
        intro w hw
        rw [astray_eq distinct hw]
        simpa using List.filter_eq_nil_iff.mp first w hw
      rw [passOver_settled settled, switching?, postponed, may, first]
      simp
    | cons w rest =>
      obtain ⟨below, above, split, settled, other, rfl⟩ := List.filter_eq_cons_iff.mp first
      have member {v : Toplevel} (hv : v ∈ below ++ w :: above) : v ∈ c.windows.windows :=
        split ▸ hv
      have under : ∀ v ∈ below, astray c.chosen v = false := by
        intro v hv
        rw [astray_eq distinct (member (List.mem_append_left _ hv))]
        simpa using settled v hv
      have here : astray c.chosen w = true := by
        rw [astray_eq distinct (member (by simp)), other]
      have beyond : above.any (astray c.chosen) = !(above.filter c.disagrees).isEmpty :=
        any_astray distinct fun v hv => member (by simp [hv])
      have placed := distinct.replace split w.switched
      rw [split, passOver_switch early under here, switching?, postponed, may, first, beyond]
      simp [placed]

structure PassDone (c c' : Compositor δ σ) : Prop where
  /-- One window is switched at most, and no other changes in any way. -/
  windows : c'.windows =
    c.switching?.elim c.windows fun w => c.windows.modify w.id fun _ => w.switched
  flags : c'.windows.windows.map (fun w => (w.id, w.unredirected)) =
    c.windows.windows.map fun w =>
      (w.id, if c.switching?.map (·.id) = some w.id then !w.unredirected else w.unredirected)
  display : c'.display = c.switching?.elim c.display fun w => w.tellSwitch c.display
  dated : c'.bypass.lastToggle? =
    if c.switching?.isSome then some c.timers.now else c.bypass.lastToggle?
  option : c'.bypass.optionChanged = (c.bypass.optionChanged && !c.postponed.isEmpty)
  unforced : c'.bypass.forced = false
  /-- What was put off will be tried again, and soon. -/
  retried : c.postponed ≠ [] →
    ∃ left, c'.timers.remaining? .bypassRetry = some left ∧ left ≤ bypassDebounce
  unretried : c.postponed = [] → ∀ moment,
    (.bypassRetry, moment) ∈ c'.timers.armed ↔ (.bypassRetry, moment) ∈ c.timers.armed
  reshaped : c.switching?.isSome = true ∨ c.bypass.forced = true →
    c'.renderer = Renderer.setOverlayShape c'.overlayShape
        (c.switching?.elim c.renderer fun w => Renderer.pixmapDiscarded w.id c.renderer) ∧
      c'.repaints = Region.ofRect (DisplayServer.layout c'.display).full ∧
      c'.timers.isArmed .repaint = true
  unshaped : c.switching? = none → c.bypass.forced = false →
    c'.renderer = c.renderer ∧ c'.repaints = c.repaints ∧ ∀ moment,
      (.repaint, moment) ∈ c'.timers.armed ↔ (.repaint, moment) ∈ c.timers.armed

theorem switching?_mem {w : Toplevel} (next : c.switching? = some w) : w ∈ c.windows.windows := by
  rw [switching?] at next
  split at next
  · have listed : w ∈ c.unsettled := List.mem_of_head? next
    exact (List.mem_filter.mp listed).1
  · simp at next

theorem switched_flags (distinct : c.windows.Distinct) :
    (c.switching?.elim c.windows fun w => c.windows.modify w.id fun _ => w.switched).windows.map
        (fun w => (w.id, w.unredirected)) =
      c.windows.windows.map fun w => (w.id,
        if c.switching?.map (·.id) = some w.id then !w.unredirected else w.unredirected) := by
  cases next : c.switching? with
  | none => simp
  | some w =>
    have hw := switching?_mem next
    simp only [Option.elim_some, WindowStack.modify, List.map_map]
    refine List.map_congr_left fun v hv => ?_
    by_cases here : v.id = w.id
    · obtain rfl := WindowStack.eq_of_id_eq distinct hv hw here
      simp [Toplevel.switched_id, Toplevel.switched_unredirected]
    · simp [here, Ne.symm here]

def turned (c : Compositor δ σ) : Compositor δ σ :=
  { c with
    windows := c.switching?.elim c.windows fun w => c.windows.modify w.id fun _ => w.switched
    display := c.switching?.elim c.display fun w => w.tellSwitch c.display
    renderer := c.switching?.elim c.renderer fun w => Renderer.pixmapDiscarded w.id c.renderer
    timers := c.retrying !c.postponed.isEmpty
    bypass :=
      { lastToggle? := if c.switching?.isSome then some c.timers.now else c.bypass.lastToggle?
        forced := false
        optionChanged := c.bypass.optionChanged && !c.postponed.isEmpty } }

theorem switchWindows_turned (distinct : c.windows.Distinct) :
    c.switchWindows = (c.switching?.isSome || c.bypass.forced, c.turned) := by
  rw [switchWindows_eq, midPass_eq distinct]
  rfl

theorem turned_retried (left : c.postponed ≠ []) :
    c.turned.timers.isArmed .bypassRetry = true := by
  have waits : (!c.postponed.isEmpty) = true := by simpa using left
  dsimp only [turned]
  rw [waits]
  exact c.retrying_armed

theorem turned_unretried (none : c.postponed = []) : c.turned.timers = c.timers := by
  dsimp only [turned]
  rw [none]
  rfl

theorem turned_unscheduled : Timers.Touches [.bypassRetry] c.timers c.turned.timers := by
  dsimp only [turned]
  rw [retrying]
  split
  · exact Timers.touches_start _ _ _
  · exact Timers.Touches.refl _ _

/-- A pass that has changed something cuts the overlay out anew and has all of it painted. -/
theorem bypassPass_changed (distinct : c.windows.Distinct) (applies : c.bypassApplies = true)
    (changed : (c.switching?.isSome || c.bypass.forced) = true) :
    c.bypassPass = { c.turned with
      renderer := Renderer.setOverlayShape c.turned.overlayShape c.turned.renderer
      repaints := Region.ofRect (DisplayServer.layout c.turned.display).full
      timers := c.frame.schedule c.turned.timers } := by
  have scene : c.turned.hasScene = true := (bypassApplies_cases applies).1
  rw [bypassPass_eq, if_pos applies, switchWindows_turned distinct, if_pos changed,
    addRepaintFull, if_pos scene, scheduleRepaint, if_pos scene]
  rfl

theorem bypassPass_unchanged (distinct : c.windows.Distinct) (applies : c.bypassApplies = true)
    (unchanged : (c.switching?.isSome || c.bypass.forced) = false) :
    c.bypassPass = c.turned := by
  rw [bypassPass_eq, if_pos applies, switchWindows_turned distinct, unchanged]
  rfl

theorem bypassPass_done (distinct : c.windows.Distinct) (soon : c.RetriesSoon)
    (applies : c.bypassApplies = true) : c.PassDone c.bypassPass := by
  have soon' : c.bypassPass.RetriesSoon := bypassPass_retriesSoon soon
  have flags := switched_flags distinct
  cases changed : c.switching?.isSome || c.bypass.forced with
  | true =>
    have scheduled := Timers.touches_schedule c.frame c.turned.timers
    rw [bypassPass_changed distinct applies changed] at soon' ⊢
    refine ⟨rfl, flags, rfl, rfl, rfl, rfl, fun left => ?_, fun none moment => ?_,
      fun _ => ⟨rfl, rfl, ?_⟩, fun none unforced => ?_⟩
    · exact soon'.remaining ((scheduled.isArmed (by simp)).mpr (turned_retried left))
    · have same := scheduled.others .bypassRetry (by simp) moment
      rw [turned_unretried none] at same
      exact turned_unretried none ▸ same
    · dsimp only
      rw [FrameBudget.schedule]
      split
      · rename_i armed
        exact armed
      · simp
    · simp [none, unforced] at changed
  | false =>
    rw [bypassPass_unchanged distinct applies changed] at soon' ⊢
    refine ⟨rfl, flags, rfl, rfl, rfl, rfl, fun left => soon'.remaining (turned_retried left),
      fun none moment => by rw [turned_unretried none], fun reason => ?_,
      fun none _ => ⟨?_, rfl, ?_⟩⟩
    · rcases reason with some | forced
      · simp [some] at changed
      · simp [forced] at changed
    · dsimp only [turned]
      rw [none]
      rfl
    · exact turned_unscheduled.others .repaint (by simp)

/-- In every run, a pass that is not skipped switches the lowest window of which it decides
otherwise, unless the last switch was less than 100 ms ago, and no other. Windows that are left are
tried again within 100 ms, and until then a switched option stays noted; the overlay is cut out anew
and all of it is to be painted exactly if a window was switched or the pass was forced, which it is
no more. -/
theorem pass_switches_lowest (W : World ω δ σ) (d : δ) (r : σ) (options : CompositingOptions)
    (steps : List (Step ω)) {k : Step ω} {b : Compositor δ σ}
    (due : ((Compositor.new d r options).run W steps).delivered k = some (.bypassCheck, b))
    (applies : b.bypassApplies = true) :
    b.PassDone (((Compositor.new d r options).run W steps).step W k) := by
  have distinct : ((Compositor.new d r options).run W steps).windows.Distinct :=
    run_distinct W d r options steps
  obtain ⟨popped, e⟩ := step_of_delivered W due
  have soon := (run_retriesSoon W d r options steps).unretried popped.unretried
  have same : b.windows = ((Compositor.new d r options).run W steps).windows := by
    rcases popped with rfl | ⟨_, _, _, rfl⟩
    · rfl
    · rfl
  rw [e]
  exact bypassPass_done (same ▸ distinct) soon applies

def sideBySide : Compositor HeadlessDisplay HeadlessRenderer :=
  (Compositor.new
    (HeadlessDisplay.new Extension.all ⟨.ofCoords 0 0 20 10,
      [.ofCoords 0 0 10 10, .ofCoords 10 0 10 10]⟩)
    (HeadlessRenderer.new ⟨9⟩ fun _ => 0)
    { CompositingOptions.standard with bypassFullscreen := true }).run .closed
      [.setup, .addWindow (.unmanaged ⟨1⟩ (.ofCoords 0 0 10 10)),
        .addWindow (.unmanaged ⟨2⟩ (.ofCoords 10 0 10 10))]

/-- The lower one is switched, and the other has to wait. -/
theorem sideBySide_passed :
    sideBySide.bypassApplies = true ∧ sideBySide.postponed.map (·.id) = [⟨2⟩] ∧
      sideBySide.PassDone (sideBySide.step .closed (.handleTimer .bypassCheck)) ∧
      (sideBySide.bypassPass.windows.windows.map (·.unredirected)) = [true, false] := by
  refine ⟨by rfl, by rfl, ?_, by rfl⟩
  exact pass_switches_lowest .closed
    (HeadlessDisplay.new Extension.all ⟨.ofCoords 0 0 20 10,
      [.ofCoords 0 0 10 10, .ofCoords 10 0 10 10]⟩)
    (HeadlessRenderer.new ⟨9⟩ fun _ => 0)
    { CompositingOptions.standard with bypassFullscreen := true }
    [.setup, .addWindow (.unmanaged ⟨1⟩ (.ofCoords 0 0 10 10)),
      .addWindow (.unmanaged ⟨2⟩ (.ofCoords 10 0 10 10))] rfl (by rfl)

end Compositor

end Compositing
