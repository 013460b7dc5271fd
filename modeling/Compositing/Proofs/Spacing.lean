import Compositing.Proofs.Bystanders

/-!
# Switches of windows are 100 ms apart

Windows may bypass compositing or are composited again, and each such switch can be seen. In a
run the switches are told by what comes of each window's turn in each pass. The date of the last
one is kept whatever happens, so any two of them are as far apart as neighbours must be. Nothing
is asked of the windows, of the display or of the renderer, and passes may take place at any time.
-/

namespace Compositing

/-- What came of a window's turn in a pass, and when. -/
structure Update where
  window : WindowId
  change : BypassChange
  moment : Nanos
deriving DecidableEq

def toggledUpdates (updates : List Update) : List Update := updates.filter (·.change.toggled)

namespace Compositor

variable {ω δ σ : Type} [DisplayServer δ] [Renderer σ] {c c' : Compositor δ σ}

def notedStep (now : Nanos) (eligible : List WindowId) (w : Toplevel)
    (t : BypassPass δ σ × List Update) : Toplevel × BypassPass δ σ × List Update :=
  let change :=
    (t.1.bypass.update w (eligible.contains w.id) now t.1.display t.1.renderer).1
  let (w', p) := bypassStep now eligible w t.1
  (w', p, t.2 ++ [⟨w.id, change, now⟩])

def notedPass (c : Compositor δ σ) : WindowStack × BypassPass δ σ × List Update :=
  c.windows.visit c.candidates (notedStep c.timers.now c.chosen)
    (⟨c.bypass, c.display, c.renderer, false, false⟩, [])

def passUpdates (c : Compositor δ σ) : List Update :=
  if c.bypassApplies then c.notedPass.2.2 else []

/-- The updates in a step: those of its pass, if it is one. -/
def stepUpdates (c : Compositor δ σ) (k : Step ω) : List Update :=
  match c.delivered k with
  | some (.bypassCheck, b) => b.passUpdates
  | _ => []

def updates (W : World ω δ σ) (c : Compositor δ σ) (steps : List (Step ω)) : List Update :=
  noted stepUpdates W c steps

/-! One pass. -/

/-- Writing the turns down changes nothing. -/
theorem notedPass_erase (c : Compositor δ σ) :
    c.midPass c.candidates = (c.notedPass.1, c.notedPass.2.1) :=
  WindowStack.visit_hom (Prod.fst : BypassPass δ σ × List Update → BypassPass δ σ)
    (fun _ _ => rfl) c.candidates c.windows (⟨c.bypass, c.display, c.renderer, false, false⟩, [])

/-- A turn switches its window only if that is not too early, and dates the switch. -/
theorem notedStep_cases (now : Nanos) (eligible : List WindowId) (w : Toplevel)
    (t : BypassPass δ σ × List Update) :
    (toggledUpdates (notedStep now eligible w t).2.2 = toggledUpdates t.2 ∧
        (notedStep now eligible w t).2.1.bypass = t.1.bypass) ∨
      (t.1.bypass.tooEarly now = false ∧
        (∃ u, toggledUpdates (notedStep now eligible w t).2.2 = toggledUpdates t.2 ++ [u] ∧
          u.moment = now) ∧
        (notedStep now eligible w t).2.1.bypass = { t.1.bypass with lastToggle? := some now }) := by
  rw [notedStep, bypassStep]
  rcases t.1.bypass.update_cases w (eligible.contains w.id) now t.1.display t.1.renderer with
    ⟨_, h⟩ | ⟨_, _, h⟩ | ⟨_, _, late, h⟩ | ⟨_, _, late, h⟩
  · rw [h]
    exact Or.inl ⟨by simp [toggledUpdates, BypassChange.toggled], rfl⟩
  · rw [h]
    exact Or.inl ⟨by simp [toggledUpdates, BypassChange.toggled], rfl⟩
  · rw [h]
    exact Or.inr ⟨late, ⟨⟨w.id, .unredirected, now⟩,
      by simp [toggledUpdates, BypassChange.toggled], rfl⟩, rfl⟩
  · rw [h]
    exact Or.inr ⟨late, ⟨⟨w.id, .redirected, now⟩,
      by simp [toggledUpdates, BypassChange.toggled], rfl⟩, rfl⟩

/-- A round of turns switches one window at most: the next switch would be too early. -/
theorem notedPass_cases (c : Compositor δ σ) :
    (toggledUpdates c.notedPass.2.2 = [] ∧ c.notedPass.2.1.bypass = c.bypass) ∨
      (c.bypass.tooEarly c.timers.now = false ∧
        (∃ u, toggledUpdates c.notedPass.2.2 = [u] ∧ u.moment = c.timers.now) ∧
        c.notedPass.2.1.bypass = { c.bypass with lastToggle? := some c.timers.now }) := by
  let P : BypassPass δ σ × List Update → Prop := fun t =>
    (toggledUpdates t.2 = [] ∧ t.1.bypass = c.bypass) ∨
      (c.bypass.tooEarly c.timers.now = false ∧
        (∃ u, toggledUpdates t.2 = [u] ∧ u.moment = c.timers.now) ∧
        t.1.bypass = { c.bypass with lastToggle? := some c.timers.now })
  have start : P (⟨c.bypass, c.display, c.renderer, false, false⟩, []) := Or.inl ⟨rfl, rfl⟩
  refine WindowStack.visit_induction (P := fun _ _ t => P t) start (fun _ _ _ _ _ h => h) ?_
  intro id rest s t w _ h
  rcases notedStep_cases c.timers.now c.chosen w t with
    ⟨none, same⟩ | ⟨late, ⟨u, one, dated⟩, switched⟩
  · rcases h with ⟨before, bypass⟩ | ⟨free, before, bypass⟩
    · exact Or.inl ⟨none.trans before, same.trans bypass⟩
    · exact Or.inr ⟨free, none ▸ before, same.trans bypass⟩
  · rcases h with ⟨before, bypass⟩ | ⟨_, _, bypass⟩
    · rw [bypass] at late switched
      rw [before] at one
      exact Or.inr ⟨late, ⟨u, one, dated⟩, switched⟩
    · have early := tooEarly_after_switch c.bypass c.timers.now
      rw [bypass, early] at late
      simp at late

/-- A pass either switches nothing and keeps the date of the last switch, or it switches one
window, not too early after the last switch, and dates it. -/
theorem passUpdates_cases (c : Compositor δ σ) :
    (toggledUpdates c.passUpdates = [] ∧ c.bypassPass.bypass.lastToggle? = c.bypass.lastToggle?) ∨
      (c.bypass.tooEarly c.timers.now = false ∧
        (∃ u, toggledUpdates c.passUpdates = [u] ∧ u.moment = c.timers.now) ∧
        c.bypassPass.bypass.lastToggle? = some c.timers.now) := by
  by_cases applies : c.bypassApplies = true
  · have after : c.bypassPass.bypass.lastToggle? = c.notedPass.2.1.bypass.lastToggle? := by
      have switched : c.switchWindows.2.bypass.lastToggle? =
          c.notedPass.2.1.bypass.lastToggle? := by
        rw [switchWindows_eq, notedPass_erase]
      rw [bypassPass_eq, if_pos applies]
      split
      · have shaped : Aloof c.switchWindows.2 { c.switchWindows.2 with
            renderer := Renderer.setOverlayShape c.switchWindows.2.overlayShape
              c.switchWindows.2.renderer } := (aloof_kept _).also (Aloof.refl _) rfl rfl rfl
        exact ((aloof_kept _).addRepaintFull shaped).switched.trans switched
      · exact switched
    rw [passUpdates, if_pos applies, after]
    rcases c.notedPass_cases with ⟨none, same⟩ | ⟨late, one, dated⟩
    · exact Or.inl ⟨none, by rw [same]⟩
    · exact Or.inr ⟨late, one, by rw [dated]⟩
  · rw [passUpdates, if_neg applies, bypassPass_eq, if_neg applies]
    exact Or.inl ⟨rfl, rfl⟩

/-! Steps other than passes. -/

structure Undated (c c' : Compositor δ σ) : Prop where
  clock : c.timers.now ≤ c'.timers.now
  switched : c'.bypass.lastToggle? = c.bypass.lastToggle?

omit [DisplayServer δ] [Renderer σ] in
theorem Undated.trans {c'' : Compositor δ σ} (first : Undated c c') (second : Undated c' c'') :
    Undated c c'' where
  clock := Nat.le_trans first.clock second.clock
  switched := second.switched.trans first.switched

omit [DisplayServer δ] [Renderer σ] in
theorem GoesOff.undated {id : TimerId} (popped : GoesOff id c c') : Undated c c' := by
  rcases popped with rfl | ⟨target, t, popped, rfl⟩
  · exact ⟨Nat.le_refl _, rfl⟩
  · exact ⟨(Timers.touches_popDue popped).clock, rfl⟩

theorem undated_kept (b : Compositor δ σ) : KeptElsewhere (Undated b) where
  aside := fun h touches _ switched => h.trans ⟨touches.clock, switched⟩
  goesOff := fun popped h => h.trans popped.undated
  finish := fun {c} h => h.trans ⟨(finish_touches c).clock, finish_lastToggle c⟩

theorem step_undated (W : World ω δ σ) {k : Step ω}
    (other : ∀ b, c.delivered k ≠ some (.bypassCheck, b)) : Undated c (c.step W k) :=
  (undated_kept c).step W other ⟨Nat.le_refl _, rfl⟩

/-! Runs. -/

/-- The switches up to now are far enough apart, and the last of them is the one that is
remembered. -/
structure Spaced (log : List Update) (c : Compositor δ σ) : Prop where
  apart : log.Pairwise fun earlier later => earlier.moment + bypassDebounce ≤ later.moment
  last : c.bypass.lastToggle? = log.getLast?.map (·.moment)
  past : ∀ u ∈ log, u.moment ≤ c.timers.now

omit [DisplayServer δ] [Renderer σ] in
theorem Spaced.undated {log : List Update} (h : Spaced log c) (still : Undated c c') :
    Spaced log c' where
  apart := h.apart
  last := still.switched.trans h.last
  past := fun u hu => Nat.le_trans (h.past u hu) still.clock

omit [DisplayServer δ] [Renderer σ] in
/-- Where a switch is not too early after the last one, it is not after any. -/
theorem Spaced.late {log : List Update} (h : Spaced log c) {now : Nanos}
    (late : c.bypass.tooEarly now = false) : ∀ u ∈ log, u.moment + bypassDebounce ≤ now := by
  intro u hu
  obtain ⟨before, last, rfl⟩ : ∃ before last, log = before ++ [last] :=
    List.eq_nil_or_concat' log |>.resolve_left (List.ne_nil_of_mem hu)
  have remembered : c.bypass.lastToggle? = some last.moment := by simpa using h.last
  have enough : bypassDebounce ≤ now - last.moment := by
    simpa [BypassState.tooEarly, remembered] using late
  have positive : 0 < bypassDebounce := by simp [bypassDebounce]
  have after : last.moment < now := Nat.lt_of_sub_pos (Nat.lt_of_lt_of_le positive enough)
  have ahead : last.moment + bypassDebounce ≤ now :=
    Nat.add_le_of_le_sub' (Nat.le_of_lt after) enough
  rcases List.mem_append.mp hu with earlier | here
  · have gap := (List.pairwise_append.mp h.apart).2.2 u earlier last (by simp)
    exact Nat.le_trans gap (Nat.le_trans (Nat.le_add_right _ _) ahead)
  · rw [List.mem_singleton.mp here]
    exact ahead

omit [DisplayServer δ] [Renderer σ] in
theorem Spaced.switched {log : List Update} (h : Spaced log c) {u : Update}
    (late : c.bypass.tooEarly u.moment = false)
    (remembered : c'.bypass.lastToggle? = some u.moment) (now : u.moment ≤ c'.timers.now) :
    Spaced (log ++ [u]) c' where
  apart := by
    refine List.pairwise_append.mpr ⟨h.apart, List.pairwise_singleton _ u, fun v hv u' hu' => ?_⟩
    rw [List.mem_singleton.mp hu']
    exact h.late late v hv
  last := by simp [remembered]
  past := by
    intro v hv
    rcases List.mem_append.mp hv with earlier | here
    · exact Nat.le_trans (Nat.le_add_right _ _) (Nat.le_trans (h.late late v earlier) now)
    · rw [List.mem_singleton.mp here]
      exact now

theorem Spaced.pass {log : List Update} (h : Spaced log c) :
    Spaced (log ++ toggledUpdates c.passUpdates) c.bypassPass := by
  have clock : c.timers.now ≤ c.bypassPass.timers.now := (bypassPass_unswept c).timers.clock
  rcases c.passUpdates_cases with ⟨none, same⟩ | ⟨late, ⟨u, one, dated⟩, remembered⟩
  · rw [none, List.append_nil]
    exact h.undated ⟨clock, same⟩
  · rw [one]
    rw [← dated] at late remembered clock
    exact h.switched late remembered clock

theorem step_spaced (W : World ω δ σ) (k : Step ω) {log : List Update} (h : Spaced log c) :
    Spaced (log ++ toggledUpdates (c.stepUpdates k)) (c.step W k) := by
  by_cases pass : ∃ b, c.delivered k = some (.bypassCheck, b)
  · obtain ⟨b, due⟩ := pass
    obtain ⟨popped, e⟩ := step_of_delivered W due
    have noted : c.stepUpdates k = b.passUpdates := by rw [stepUpdates, due]
    rw [noted, e]
    exact (h.undated popped.undated).pass
  · have none : c.stepUpdates k = [] := by
      rw [stepUpdates]
      split
      · rename_i b due
        exact (pass ⟨b, due⟩).elim
      · rfl
    rw [none]
    simpa [toggledUpdates] using h.undated (step_undated W fun b due => pass ⟨b, due⟩)

theorem run_spaced (W : World ω δ σ) (steps : List (Step ω))
    (h : Spaced [] c) : Spaced (toggledUpdates (c.updates W steps)) (c.run W steps) := by
  have keeps (log : List Update) (c : Compositor δ σ) (k : Step ω) (_ : True)
      (h : Spaced (toggledUpdates log) c) :
      Spaced (toggledUpdates (log ++ c.stepUpdates k)) (c.step W k) := by
    rw [toggledUpdates, List.filter_append]
    exact step_spaced W k h
  have start : Spaced (toggledUpdates []) c := h
  exact run_noted W (P := fun log c => Spaced (toggledUpdates log) c) keeps start fun _ _ => trivial

/-- Any two switches in a run are at least 100 ms apart, whichever windows are switched and
whatever happens in between, and the compositor remembers the date of the last one. -/
theorem switches_apart (W : World ω δ σ) (d : δ) (r : σ) (options : CompositingOptions)
    (steps : List (Step ω)) :
    ((toggledUpdates ((Compositor.new d r options).updates W steps)).Pairwise fun earlier later =>
        earlier.moment + bypassDebounce ≤ later.moment) ∧
      ((Compositor.new d r options).run W steps).bypass.lastToggle? =
        (toggledUpdates ((Compositor.new d r options).updates W steps)).getLast?.map
          (·.moment) := by
  have start : Spaced [] (Compositor.new d r options) :=
    ⟨List.Pairwise.nil, rfl, by simp⟩
  have spaced := run_spaced W steps start
  exact ⟨spaced.apart, spaced.last⟩

/-- A window is switched back as soon as it may be, and not before. -/
example :
    (Compositor.new (HeadlessDisplay.new Extension.all (.single 1920 1080))
      (HeadlessRenderer.new ⟨1⟩ fun _ => 0)
      { CompositingOptions.standard with bypassFullscreen := true }).updates .closed
        [.addWindow (.client ⟨1⟩ (.ofCoords 0 0 1920 1080) ⟨true, true, false⟩), .setup,
          .handleTimer .bypassCheck, .setBypassFullscreen false, .handleTimer .bypassCheck,
          .advanceClock 100000000, .handleTimer .bypassCheck] =
      [⟨⟨1⟩, .unredirected, 0⟩, ⟨⟨1⟩, .debounced, 0⟩, ⟨⟨1⟩, .redirected, 100000000⟩] := by
  rfl

end Compositor

end Compositing
