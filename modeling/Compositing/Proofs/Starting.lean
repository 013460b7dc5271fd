import Compositing.Display.Headless
import Compositing.Proofs.Pacing
import Compositing.Proofs.Transitions
import Compositing.Proofs.Validation
import Compositing.Renderer.Scripted

/-!
# Which starts break off at the budget of a frame

Options that make sense name a rate of at most 1000, or leave the rate to the display. What the
display reports is taken as it is. So a start breaks off if the scene keeps step with a display that
reports more than 10^9 and the options leave the rate to it: the period of such a rate has no whole
nanosecond, and the interval is divided by it. No other start does, and none wraps around.
-/

namespace Compositing

variable {s s' : Settings}

/-- The numbers of options that make sense. -/
theorem Settings.validate_bounds (accepted : s.validate = .ok s') :
    s'.compositing.refreshRate ≤ 1000 ∧ s'.compositing.blankTimeMicros < 1000000 := by
  obtain ⟨sensible, rfl⟩ := validate_eq_ok_iff.mp accepted
  exact ⟨sensible.refreshRate, sensible.blankTime⟩

namespace Compositor

variable {δ σ : Type} [DisplayServer δ] [Renderer σ] {c : Compositor δ σ}

def withFrameBudgetChecked (c : Compositor δ σ) : Except WordFault (Compositor δ σ) :=
  (fun frame => { c with frame := frame }) <$>
    c.frame.configureChecked c.options.frameInterval c.refreshRate
      (Renderer.syncsToBlank c.renderer) c.options.blankTime

/-- The scene keeps step with the display, which reports a rate of more than 10^9, and the options
leave the rate to it. -/
def Overfast (c : Compositor δ σ) : Prop :=
  Renderer.syncsToBlank c.renderer = true ∧ c.options.refreshRate = 0 ∧
    ∃ rate, DisplayServer.refreshRate? c.display = some rate ∧ 1000000000 < rate.toNat

def acquired (c : Compositor δ σ) : Compositor δ σ :=
  ({ c with phase := .starting } : Compositor δ σ).acquire.2

/-- There is no scene yet, and a start acquires all it needs. -/
structure Starts (c : Compositor δ σ) : Prop where
  off : c.hasScene = false
  free : c.suspended.isEmpty = true
  possible : c.isPossible = true
  acquires : ({ c with phase := .starting } : Compositor δ σ).acquire.1 = .ok ()

omit [Renderer σ] in
theorem refreshRate_fast (few : c.options.refreshRate ≤ 1000) :
    1000000000 < c.refreshRate.toNat ↔ c.options.refreshRate = 0 ∧
      ∃ rate, DisplayServer.refreshRate? c.display = some rate ∧ 1000000000 < rate.toNat := by
  have few : c.options.refreshRate.toNat ≤ 1000 := UInt32.le_iff_toNat_le.mp few
  have sixty : (60 : UInt32).toNat = 60 := rfl
  rw [refreshRate, ← UInt32.toNat_inj, UInt32.toNat_zero]
  split
  · rename_i named
    have named : 0 < c.options.refreshRate.toNat := UInt32.lt_iff_toNat_lt.mp named
    omega
  · rename_i none
    have none := mt UInt32.lt_iff_toNat_lt.mpr none
    rw [UInt32.toNat_zero, Nat.pos_iff_ne_zero, ne_eq, not_not] at none
    cases DisplayServer.refreshRate? c.display with
    | none => simp [sixty]
    | some rate => simp [none]

/-- A budget with options that make sense is refused only if the scene is overfast. -/
theorem withFrameBudget_cases (few : c.options.refreshRate ≤ 1000)
    (soon : c.options.blankTimeMicros < 1000000) :
    (c.Overfast ∧ c.withFrameBudget = .error .divisionByZero ∧
      c.withFrameBudgetChecked = .error .divisionByZero) ∨
    (¬ c.Overfast ∧ ∃ frame, c.withFrameBudget = .ok { c with frame := frame } ∧
      c.withFrameBudgetChecked = .ok { c with frame := frame }) := by
  have soon : c.options.blankTimeMicros.toNat < 1000000 := UInt32.lt_iff_toNat_lt.mp soon
  have nanos : c.options.blankTimeMicros.toNat * 1000 < 9223372036854775807 := by omega
  have room : c.options.blankTime < 9223372036854775807 := nanos
  rw [withFrameBudget, withFrameBudgetChecked, Overfast, ← refreshRate_fast few]
  by_cases fast : Renderer.syncsToBlank c.renderer = true ∧ 1000000000 < c.refreshRate.toNat
  · obtain ⟨wrapping, checked⟩ := c.frame.configure_refused c.options.frameInterval c.refreshRate
      c.options.blankTime fast.2
    rw [fast.1]
    exact Or.inl ⟨⟨rfl, fast.2⟩, by rw [wrapping]; rfl, by rw [checked]; rfl⟩
  · obtain ⟨set, _, wrapping, checked, _⟩ := c.frame.configure_modest
      ⟨c.options.frameInterval, c.refreshRate, Renderer.syncsToBlank c.renderer,
        c.options.blankTime⟩
      ⟨fun syncs => Nat.le_of_not_lt fun rate => fast ⟨syncs, rate⟩, room⟩
    rw [FrameBudget.answer] at wrapping
    rw [FrameBudget.answerChecked] at checked
    exact Or.inr ⟨fast, set.startNow, by rw [wrapping]; rfl, by rw [checked]; rfl⟩

/-- What a start acquires does not change the options. -/
theorem acquired_options : c.acquired.options = c.options ∧ c.acquired.fault? = c.fault? := by
  obtain ⟨d, r, scene, selection, stack, shape, _⟩ :=
    ({ c with phase := .starting } : Compositor δ σ).acquire_shape
  simp [acquired, shape]

/-- A start goes on to its first frame once it has acquired all it needs, and no other start breaks
off. -/
theorem setup_starts_cases : (c.Starts ∧ c.setup = c.acquired.activate id) ∨
    (¬ c.Starts ∧ c.setup.fault? = c.fault?) := by
  obtain ⟨_, fault⟩ := c.acquired_options
  rw [acquired] at fault ⊢
  rw [setup, setupBy]
  split
  · rename_i on
    exact Or.inr ⟨fun h => by simp [h.off] at on, rfl⟩
  · rename_i off
    split
    · rename_i held
      exact Or.inr ⟨fun h => by simp [h.free, h.possible] at held, rfl⟩
    · rename_i free
      have able : c.suspended.isEmpty = true ∧ c.isPossible = true := by simpa using free
      rcases tried : ({ c with phase := .starting } : Compositor δ σ).acquire with ⟨e | ⟨⟩, a⟩
      · refine Or.inr ⟨fun h => ?_, ?_⟩
        · have done := h.acquires
          rw [tried] at done
          cases done
        · rw [tried] at fault
          simpa using fault
      · exact Or.inl ⟨⟨by simpa using off, able.1, able.2, by rw [tried]⟩, rfl⟩

/-- With options that make sense, the budget of a frame is computed without wrapping around, and a
division by zero is met exactly if the scene keeps step with a display that reports a rate of more
than 10^9 while the options leave the rate to it. A start breaks off exactly if it acquires all it
needs and then meets such a rate. -/
theorem breaks_off_iff_overfast (accepted : s.validate = .ok s') (c : Compositor δ σ)
    (options : c.options = s'.compositing) :
    (c.withFrameBudgetChecked = .error .divisionByZero ↔ c.Overfast) ∧
      (¬ c.Overfast → ∃ c', c.withFrameBudgetChecked = .ok c' ∧ c.withFrameBudget = .ok c') ∧
      (c.fault? = none →
        (c.setup.fault? = some .divisionByZero ↔ c.Starts ∧ c.acquired.Overfast) ∧
        (c.setup.fault? = none ↔ ¬ (c.Starts ∧ c.acquired.Overfast))) := by
  obtain ⟨few, soon⟩ := Settings.validate_bounds accepted
  rw [← options] at few soon
  refine ⟨?_, ?_, fun sound => ?_⟩
  · rcases withFrameBudget_cases few soon with ⟨fast, _, checked⟩ | ⟨within, frame, _, checked⟩
    · simp [checked, fast]
    · simp [checked, within]
  · intro within
    rcases withFrameBudget_cases few soon with ⟨fast, _⟩ | ⟨_, frame, wrapping, checked⟩
    · exact (within fast).elim
    · exact ⟨_, checked, wrapping⟩
  · rcases c.setup_starts_cases with ⟨starts, setup⟩ | ⟨stays, setup⟩
    · obtain ⟨same, fault⟩ := c.acquired_options
      rw [← same] at few soon
      rw [setup, activate]
      rcases withFrameBudget_cases few soon with ⟨fast, wrapping, _⟩ | ⟨within, frame, wrapping, _⟩
      · simp [wrapping, starts, fast]
      · simp [wrapping, within, fault, sound]
    · simp [setup, sound, stays]

def onDisplay (rate : UInt32) : Compositor HeadlessDisplay ScriptedRenderer :=
  Compositor.new { HeadlessDisplay.new Extension.all (.single 1920 1080) with
      refreshRate? := some rate }
    { ScriptedRenderer.new with syncs := true } Settings.standard.compositing

/-- The standard options start on a display with 144 frames in a second. -/
theorem onDisplay_144_starts : Settings.standard.validate = .ok Settings.standard ∧
    ¬ (onDisplay 144).Overfast ∧
    (∃ c', (onDisplay 144).withFrameBudgetChecked = .ok c' ∧
      (onDisplay 144).withFrameBudget = .ok c') ∧
    (onDisplay 144).setup.fault? = none := by
  have accepted : Settings.standard.validate = .ok Settings.standard := by rfl
  obtain ⟨_, succeeds, starts⟩ := breaks_off_iff_overfast accepted (onDisplay 144) rfl
  have within : ¬ (onDisplay 144).Overfast := by
    rintro ⟨_, _, rate, reported, fast⟩
    obtain rfl := Option.some.inj reported
    exact absurd fast (by decide)
  have overlooked : ¬ ((onDisplay 144).Starts ∧ (onDisplay 144).acquired.Overfast) := by
    rintro ⟨_, _, _, rate, reported, fast⟩
    obtain rfl := Option.some.inj (show some 144 = some rate from reported)
    exact absurd fast (by decide)
  exact ⟨accepted, within, succeeds within, (starts rfl).2.mpr overlooked⟩

/-- A display that reports two thousand million frames in a second breaks the start off. -/
theorem onDisplay_twoBillion_breaks_off : Settings.standard.validate = .ok Settings.standard ∧
    (onDisplay 2000000000).options = Settings.standard.compositing ∧
    (onDisplay 2000000000).withFrameBudgetChecked = .error .divisionByZero ∧
    (onDisplay 2000000000).setup.fault? = some .divisionByZero :=
  ⟨rfl, rfl, rfl, rfl⟩

end Compositor

end Compositing
