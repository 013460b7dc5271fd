import Compositing.Proofs.Attention

/-!
# The loop comes to rest

The timers that are due go off one after the other until none is left. The first may be followed
by events of the display, which are handled at once; after that there is less to come every time,
so only so many timers go off, however long one waits. If a pass was to come at the beginning,
and there is a scene at the end, every window is as it was decided for it. For a loop that ends
before the last timer has gone off, nothing of that is claimed. How long each paint takes is left
open. Windows are added as they come from their builders: a copy keeps what it was decided for.
-/

namespace Compositing.Compositor

variable {c : Compositor HeadlessDisplay HeadlessRenderer} {id : TimerId} {moment : Nanos}

/-- Whichever timer goes off, the windows stay seen to. -/
theorem Poised.fired_attended (h : Poised c) (first : c.timers.first? = some (id, moment))
    (attended : Attended c) : Attended (c.fired id moment) := by
  have handled := h.handled first
  have heard := dispatchDisplayEvents_settles handled.alive.distinct
  refine Settles.attended ?_ heard (h.fired first).cut.toFits
  rcases (due_goesOff first).attends h.cut.toFits handled.sound handled.cut.toFits with
    seen | level
  · exact seen
  · exact attended.level level

/-! The loop. -/

theorem fireDue_of_none {target : Nanos} (none : c.fireNext target = none) (limit : Nat) :
    c.fireDue target limit = ([], c) := by
  cases limit with
  | zero => rfl
  | succ limit => rw [fireDue, none]

theorem fireDue_of_first (first : c.timers.first? = some (id, moment)) {target : Nanos}
    (due : moment ≤ target) (limit : Nat) :
    c.fireDue target (limit + 1) =
      (id :: ((c.fired id moment).fireDue target limit).1,
        ((c.fired id moment).fireDue target limit).2) := by
  rw [fireDue, fireNext_of_first first, if_pos due]

/-- What every timer that goes off preserves, the loop preserves. -/
theorem fireDue_induction {δ σ : Type} [DisplayServer δ] [Renderer σ] {P : Compositor δ σ → Prop}
    (keeps : ∀ {c id t target}, c.timers.popDue target = some (id, t) → P c →
      P (({ c with timers := t } : Compositor δ σ).handleTimer id).dispatchDisplayEvents.2)
    {c : Compositor δ σ} (target : Nanos) (limit : Nat) (h : P c) :
    P (c.fireDue target limit).2 := by
  induction limit generalizing c with
  | zero => exact h
  | succ limit ih =>
    rw [fireDue, fireNext]
    cases popped : c.timers.popDue target with
    | none => exact h
    | some e => exact ih (keeps popped h)

theorem fireDue_preserves {P : Compositor HeadlessDisplay HeadlessRenderer → Prop}
    (keeps : ∀ {c id moment}, c.timers.first? = some (id, moment) → P c → P (c.fired id moment))
    (target : Nanos) (limit : Nat) (h : P c) : P (c.fireDue target limit).2 := by
  refine fireDue_induction (fun popped h => ?_) target limit h
  obtain ⟨moment, first, _, rfl⟩ := Timers.popDue_cases popped
  exact keeps first h

/-- However long one waits, at most `n` timers go off, and from `quiet` on none is left. -/
structure Rests (n : Nat) (quiet : Nanos) (c : Compositor HeadlessDisplay HeadlessRenderer) :
    Prop where
  bounded : ∀ target limit, n ≤ limit → c.fireDue target limit = c.fireDue target n
  ended : ∀ target, (c.fireDue target n).2.fireNext target = none
  idle : ∀ target, quiet ≤ target → (c.fireDue target n).2.timers.armed = []

theorem rests_of_idle (idle : c.timers.first? = none) : Rests 0 0 c where
  bounded := fun target limit _ => fireDue_of_none (fireNext_of_idle idle target) limit
  ended := fireNext_of_idle idle
  idle := fun _ _ => Timers.first?_eq_none_iff.mp idle

theorem Rests.of_first {n : Nat} {quiet : Nanos} (first : c.timers.first? = some (id, moment))
    (h : Rests n quiet (c.fired id moment)) : Rests (n + 1) (max moment quiet) c where
  bounded := by
    intro target limit enough
    by_cases due : moment ≤ target
    · obtain ⟨limit, rfl⟩ : ∃ l, limit = l + 1 := ⟨limit - 1, by omega⟩
      rw [fireDue_of_first first due, fireDue_of_first first due,
        h.bounded target limit (by omega)]
    · have ended : c.fireNext target = none := by rw [fireNext_of_first first, if_neg due]
      rw [fireDue_of_none ended, fireDue_of_none ended]
  ended := by
    intro target
    by_cases due : moment ≤ target
    · rw [fireDue_of_first first due]
      exact h.ended target
    · have ended : c.fireNext target = none := by rw [fireNext_of_first first, if_neg due]
      rw [fireDue_of_none ended]
      exact ended
  idle := by
    intro target late
    rw [fireDue_of_first first (Nat.le_trans (Nat.le_max_left _ _) late)]
    exact h.idle target (Nat.le_trans (Nat.le_max_right _ _) late)

/-- Without events, by induction on what is to come. -/
theorem Poised.rests_of_silent (h : Poised c) (silent : c.display.events = []) :
    ∃ n quiet, Rests n quiet c := by
  generalize all : c.toCome = size
  induction size using WellFoundedLT.induction generalizing c with
  | ind size ih =>
    cases first : c.timers.first? with
    | none => exact ⟨0, 0, rests_of_idle first⟩
    | some e =>
      have less : (c.fired e.1 e.2).toCome < size := all ▸ h.fired_toCome silent first
      obtain ⟨n, quiet, rests⟩ := ih _ less (h.fired first) (fired_silent c _ _) rfl
      exact ⟨n + 1, max e.2 quiet, rests.of_first first⟩

/-- Events can follow only the first timer. -/
theorem Poised.rests (h : Poised c) : ∃ n quiet, Rests n quiet c := by
  cases first : c.timers.first? with
  | none => exact ⟨0, 0, rests_of_idle first⟩
  | some e =>
    obtain ⟨n, quiet, rests⟩ := (h.fired first).rests_of_silent (fired_silent c _ _)
    exact ⟨n + 1, max e.2 quiet, rests.of_first first⟩

/-- From every reachable compositor on, only so many timers go off, however long one waits, and
if one waits long enough none is left. If a pass or a retry was to come, every window is then as
it was decided for it, provided that there is still a scene. -/
theorem loop_comes_to_rest {ω : Type} (change : ω → DisplayChange) (d : HeadlessDisplay)
    (r : HeadlessRenderer) (options : CompositingOptions) {steps : List (Step ω)}
    (fresh : ∀ k ∈ steps, k.AddsFresh) {c : Compositor HeadlessDisplay HeadlessRenderer}
    (reached : c = (Compositor.new d r options).run (DisplayChange.world change fun _ r => r)
      steps) :
    ∃ n quiet,
      (∀ target limit, n ≤ limit → c.fireDue target limit = c.fireDue target n) ∧
      (∀ target, (c.fireDue target n).2.fireNext target = none) ∧
      ∀ target, quiet ≤ target →
        (c.fireDue target n).2.timers.armed = [] ∧
          (c.timers.isArmed .bypassCheck = true ∨ c.timers.isArmed .bypassRetry = true →
            (c.fireDue target n).2.hasScene = true →
            ∀ w ∈ (c.fireDue target n).2.windows.windows, w.isPlaceholder = false →
              w.unredirected = (c.fireDue target n).2.isEligible w) := by
  have poised : Poised c := reached ▸ run_poised change d r options fresh
  obtain ⟨n, quiet, rests⟩ := poised.rests
  refine ⟨n, quiet, rests.bounded, rests.ended, fun target late => ?_⟩
  have idle := rests.idle target late
  refine ⟨idle, fun coming scene => disagreeing_eq_zero_iff.mp ?_⟩
  have attended : Attended c := fun _ => Or.inr coming
  have last : Poised (c.fireDue target n).2 ∧ Attended (c.fireDue target n).2 :=
    fireDue_preserves (P := fun c => Poised c ∧ Attended c)
      (fun first h => ⟨h.1.fired first, h.1.fired_attended first h.2⟩) target n ⟨poised, attended⟩
  rcases last.2 scene with agree | armed | armed
  · exact agree
  · simp [Timers.isArmed, Timers.deadline?, idle] at armed
  · simp [Timers.isArmed, Timers.deadline?, idle] at armed

/-- A full-screen client that is drawn directly is full-screen no more, too early to be switched. -/
def restlessSteps : List (Step DisplayChange) :=
  [.addWindow (.client ⟨1⟩ (.ofCoords 0 0 10 10) ⟨true, true, false⟩), .setup,
    .handleTimer .bypassCheck, .setClientState ⟨1⟩ ⟨true, false, false⟩]

def restless : Compositor HeadlessDisplay HeadlessRenderer :=
  (Compositor.new (.new Extension.all (.single 20 10)) (.new ⟨1⟩ fun _ => 0)
    { CompositingOptions.standard with bypassFullscreen := true }).run
      (DisplayChange.world (fun o => o) fun _ r => r) restlessSteps

/-- The client is composited again in the end. -/
theorem restless_comes_to_rest :
    restless.timers.isArmed .bypassCheck = true ∧
      ∃ n quiet, (∀ target, (restless.fireDue target n).2.fireNext target = none) ∧
        ∀ target, quiet ≤ target → (restless.fireDue target n).2.timers.armed = [] ∧
          ((restless.fireDue target n).2.hasScene = true →
            ∀ w ∈ (restless.fireDue target n).2.windows.windows, w.isPlaceholder = false →
              w.unredirected = (restless.fireDue target n).2.isEligible w) := by
  have fresh : ∀ k ∈ restlessSteps, k.AddsFresh := by
    simp [restlessSteps, Step.AddsFresh]
  have armed : restless.timers.isArmed .bypassCheck = true := rfl
  obtain ⟨n, quiet, _, ended, idle⟩ := loop_comes_to_rest (fun o => o)
    (HeadlessDisplay.new Extension.all (.single 20 10)) (HeadlessRenderer.new ⟨1⟩ fun _ => 0)
    { CompositingOptions.standard with bypassFullscreen := true } fresh (c := restless) rfl
  refine ⟨armed, n, quiet, ended, fun target late => ?_⟩
  obtain ⟨none, agree⟩ := idle target late
  exact ⟨none, agree (Or.inl armed)⟩

/-- The client goes when the switch back came too early, and the option goes off. The pass for that
is done, and the retry is still to come. -/
def deserted : Compositor HeadlessDisplay HeadlessRenderer :=
  restless.run (DisplayChange.world (fun o => o) fun _ r => r)
    [.handleTimer .bypassCheck, .removeWindow ⟨1⟩ false, .setBypassFullscreen false,
      .handleTimer .bypassCheck]

/-- A copy of the client from when it was drawn directly is still flagged when it is added, and
with the option off no pass decides for it any more. -/
theorem deserted_copy_undecided :
    ∃ w, restless.windows.get? ⟨1⟩ = some w ∧
      ∃ c, c = deserted.run (DisplayChange.world (fun o => o) fun _ r => r) [.addWindow w] ∧
        c.timers.isArmed .bypassRetry = true ∧
        (c.fireDue 1000000000 20).2.timers.armed = [] ∧
        (c.fireDue 1000000000 20).2.hasScene = true ∧
        ∃ v ∈ (c.fireDue 1000000000 20).2.windows.windows, v.isPlaceholder = false ∧
          v.unredirected = true ∧ (c.fireDue 1000000000 20).2.isEligible v = false :=
  ⟨_, rfl, _, rfl, rfl, rfl, rfl, _, List.mem_singleton_self _, rfl, rfl, rfl⟩

/-- The switch back comes too early at first, and is tried again. -/
example : (restless.fireDue 200000000 10).1 =
    [.bypassCheck, .repaint, .repaint, .bypassRetry, .bypassCheck, .repaint, .repaint] := by
  rfl

end Compositing.Compositor
