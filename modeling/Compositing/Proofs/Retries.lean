import Compositing.Proofs.Bystanders

/-!
# Retries are never far off

A window that has to wait for its switch is tried again by a timer of its own. Only a pass arms
that timer, and for 100 ms from then. Everything else that happens leaves the timer as it is or
disarms it, so that at every moment of a run a retry is at most 100 ms away.
-/

namespace Compositing.Compositor

open Timers (Touches)

variable {ω δ σ : Type} {b c c' c'' : Compositor δ σ}

structure Unretried (c c' : Compositor δ σ) : Prop where
  clock : c.timers.now ≤ c'.timers.now
  retry : ∀ moment, (.bypassRetry, moment) ∈ c'.timers.armed →
    (.bypassRetry, moment) ∈ c.timers.armed

theorem Unretried.refl (c : Compositor δ σ) : Unretried c c := ⟨Nat.le_refl _, fun _ armed => armed⟩

theorem Unretried.trans (first : Unretried c c') (second : Unretried c' c'') : Unretried c c'' where
  clock := Nat.le_trans first.clock second.clock
  retry := fun moment armed => first.retry moment (second.retry moment armed)

theorem Unretried.of_touches {touched : List TimerId}
    (timers : Touches touched c.timers c'.timers) (free : .bypassRetry ∉ touched) :
    Unretried c c' where
  clock := timers.clock
  retry := fun moment armed => (timers.others .bypassRetry free moment).mp armed

/-- What does not arm or disarm timers does not matter. -/
theorem Unretried.also (h : Unretried b c) (timers : c'.timers = c.timers) : Unretried b c' where
  clock := timers ▸ h.clock
  retry := fun moment armed => h.retry moment (timers ▸ armed)

theorem GoesOff.unretried {id : TimerId} (popped : GoesOff id c c') : Unretried c c' := by
  rcases popped with rfl | ⟨target, t, popped, rfl⟩
  · exact Unretried.refl c'
  · obtain ⟨moment, _, _, rfl⟩ := Timers.popDue_cases popped
    exact ⟨Nat.le_max_left _ _, fun m armed => (Timers.mem_stop.mp armed).1⟩

variable [DisplayServer δ] [Renderer σ]

/-! Steps that are no passes. -/

/-- What is stopped tries nothing again. -/
theorem Unretried.finish (h : Unretried b c) : Unretried b c.finish := by
  by_cases scene : c.hasScene = true
  · obtain ⟨d, r, s, e, _⟩ := c.finish_scene scene
    refine ⟨?_, fun moment armed => ?_⟩
    · rw [e]
      exact h.clock
    · rw [e] at armed
      exact ((Timers.mem_stop.mp armed).2 rfl).elim
  · rw [c.finish_of_off (by simpa using scene)]
    exact h

theorem unretried_kept (b : Compositor δ σ) : KeptElsewhere (Unretried b) where
  aside := fun h touches free _ => h.trans (Unretried.of_touches touches free)
  goesOff := fun popped h => h.trans popped.unretried
  finish := Unretried.finish

/-- A step that is no pass arms no retry. -/
theorem step_unretried (W : World ω δ σ) {k : Step ω}
    (other : ∀ b, c.delivered k ≠ some (.bypassCheck, b)) : Unretried c (c.step W k) :=
  (unretried_kept c).step W other (Unretried.refl c)

/-! Passes and runs. -/

omit [DisplayServer δ] [Renderer σ] in
/-- No retry is armed for later than the time after a switch during which no other takes place. -/
def RetriesSoon (c : Compositor δ σ) : Prop :=
  ∀ moment, (.bypassRetry, moment) ∈ c.timers.armed → moment ≤ c.timers.now + bypassDebounce

omit [DisplayServer δ] [Renderer σ] in
theorem RetriesSoon.unretried (h : c.RetriesSoon) (other : Unretried c c') : c'.RetriesSoon := by
  intro moment armed
  have before := h moment (other.retry moment armed)
  exact Nat.le_trans before (Nat.add_le_add_right other.clock _)

omit [DisplayServer δ] [Renderer σ] in
theorem RetriesSoon.retrying (h : c.RetriesSoon) (debounced : Bool) :
    ∀ moment, (.bypassRetry, moment) ∈ (c.retrying debounced).armed →
      moment ≤ (c.retrying debounced).now + bypassDebounce := by
  intro moment armed
  rw [Compositor.retrying] at armed ⊢
  split at armed
  · rename_i started
    rw [if_pos started]
    rcases Timers.mem_start.mp armed with ⟨_, other⟩ | ⟨_, rfl⟩
    · exact (other rfl).elim
    · exact Nat.le_refl _
  · rename_i kept
    rw [if_neg kept]
    exact h moment armed

theorem bypassPass_retriesSoon (h : c.RetriesSoon) : c.bypassPass.RetriesSoon := by
  have switched : c.switchWindows.2.RetriesSoon :=
    h.retrying (c.midPass c.candidates).2.debounced
  rw [bypassPass_eq]
  split
  · split
    · have shaped : Unretried c.switchWindows.2 { c.switchWindows.2 with
          renderer := Renderer.setOverlayShape c.switchWindows.2.overlayShape
            c.switchWindows.2.renderer } := (Unretried.refl _).also rfl
      exact switched.unretried ((unretried_kept _).keptAside.addRepaintFull shaped)
    · exact switched
  · exact h

theorem step_retriesSoon (W : World ω δ σ) (k : Step ω) (h : c.RetriesSoon) :
    (c.step W k).RetriesSoon := by
  by_cases pass : ∃ b, c.delivered k = some (.bypassCheck, b)
  · obtain ⟨b, due⟩ := pass
    obtain ⟨popped, e⟩ := step_of_delivered W due
    rw [e]
    exact bypassPass_retriesSoon (h.unretried popped.unretried)
  · exact h.unretried (step_unretried W fun b due => pass ⟨b, due⟩)

/-- A new compositor has armed nothing, and so every reachable one retries soon. -/
theorem run_retriesSoon (W : World ω δ σ) (d : δ) (r : σ) (options : CompositingOptions)
    (steps : List (Step ω)) : ((Compositor.new d r options).run W steps).RetriesSoon := by
  have start : (Compositor.new d r options).RetriesSoon := by
    intro moment armed
    simp [Compositor.new, Timers.new] at armed
  have keeps (c : Compositor δ σ) (k : Step ω) (_ : True) (h : c.RetriesSoon) :
      (c.step W k).RetriesSoon := step_retriesSoon W k h
  exact run_preserves W keeps start fun _ _ => trivial

omit [DisplayServer δ] [Renderer σ] in
/-- An armed retry has at most 100 ms left. -/
theorem RetriesSoon.remaining (h : c.RetriesSoon) (armed : c.timers.isArmed .bypassRetry = true) :
    ∃ left, c.timers.remaining? .bypassRetry = some left ∧ left ≤ bypassDebounce := by
  obtain ⟨moment, found⟩ := Option.isSome_iff_exists.mp armed
  obtain ⟨⟨id, m⟩, first, rfl⟩ := Option.map_eq_some_iff.mp found
  have same : id = .bypassRetry := by simpa using List.find?_some first
  refine ⟨m - c.timers.now, by rw [Timers.remaining?, found]; rfl, ?_⟩
  have near := h m (same ▸ List.mem_of_find?_eq_some first)
  exact Nat.sub_le_iff_le_add'.mpr near

end Compositing.Compositor
