import Compositing.Proofs.Bystanders

/-!
# The grace period of support properties

A property that was let go is deleted by the sweep, and the sweep goes off when its timer does.
Whoever lets a property go arms the timer anew, so all that wait have to wait for the last of
them, and whoever claims one again takes it off the list. This is claimed where the sweep is left
to its timer: whoever handles a sweep that has not gone off gets it at once. Shutting down does
not wait either.
-/

namespace Compositing

/-- A call about a support property: it is let go, or claimed again. -/
structure Tending where
  property : Atom
  letGo : Bool
  moment : Nanos
deriving DecidableEq

def lastTending? (log : List Tending) (a : Atom) : Option Tending :=
  (log.filter (·.property == a)).getLast?

theorem lastTending?_append (log : List Tending) (t : Tending) (a : Atom) :
    lastTending? (log ++ [t]) a = if t.property = a then some t else lastTending? log a := by
  rw [lastTending?, List.filter_append]
  by_cases about : t.property = a
  · simp [about]
  · simp [about, lastTending?]

namespace Compositor

open Timers (Touches)

variable {ω δ σ : Type} {c c' : Compositor δ σ}

def stepTendings (c : Compositor δ σ) : Step ω → List Tending
  | .keepSupportProperty a => [⟨a, false, c.timers.now⟩]
  | .removeSupportProperty a => [⟨a, true, c.timers.now⟩]
  | _ => []

def swept (c : Compositor δ σ) : List Atom := if c.isBusy then [] else c.support.pending

/-- Whatever waits was let go after it was last claimed, and waits no shorter than it has to. -/
structure Graced (log : List Tending) (c : Compositor δ σ) : Prop where
  once : c.support.pending.Nodup
  armed : c.support.pending ≠ [] → c.timers.isArmed .supportSweep = true
  last : ∀ a ∈ c.support.pending, ∃ t, lastTending? log a = some t ∧ t.letGo = true
  past : ∀ t ∈ log, t.moment ≤ c.timers.now
  patient : ∀ t ∈ log, t.letGo = true → ∀ moment, (.supportSweep, moment) ∈ c.timers.armed →
    t.moment + supportSweepDelay ≤ moment

theorem Graced.unswept {log : List Tending} (h : Graced log c) (still : Unswept c c') :
    Graced log c' where
  once := still.support ▸ h.once
  armed := by
    intro waits
    rw [still.support] at waits
    exact (still.timers.isArmed (by simp [TimerId.unswept])).mpr (h.armed waits)
  last := still.support ▸ h.last
  past := fun t ht => Nat.le_trans (h.past t ht) still.timers.clock
  patient := by
    intro t ht letGo moment due
    exact h.patient t ht letGo moment
      ((still.timers.others _ (by simp [TimerId.unswept]) moment).mp due)

/-- Nothing waits, and the timer of the sweep is not armed. -/
theorem Graced.idle {log : List Tending} (none : c.support.pending = [])
    (past : ∀ t ∈ log, t.moment ≤ c.timers.now)
    (unarmed : ∀ moment, (.supportSweep, moment) ∉ c.timers.armed) : Graced log c where
  once := none ▸ List.nodup_nil
  armed := fun waits => (waits none).elim
  last := by simp [none]
  past := past
  patient := fun _ _ _ moment due => (unarmed moment due).elim

/-- The sweep is put off from now on. -/
theorem Graced.postponed {log : List Tending} (once : c.support.pending.Nodup)
    (last : ∀ a ∈ c.support.pending, ∃ t, lastTending? log a = some t ∧ t.letGo = true)
    (past : ∀ t ∈ log, t.moment ≤ c.timers.now) :
    Graced log { c with timers := c.timers.start .supportSweep supportSweepDelay } where
  once := once
  armed := fun _ => Timers.isArmed_start.mpr (Or.inl rfl)
  last := last
  past := past
  patient := by
    intro t ht _ moment due
    rcases Timers.mem_start.mp due with ⟨_, other⟩ | ⟨_, late⟩
    · exact (other rfl).elim
    · rw [late]
      exact Nat.add_le_add_right (past t ht) _

theorem Graced.past_now {log : List Tending} (h : Graced log c) (a : Atom) (letGo : Bool) :
    ∀ t ∈ log ++ [⟨a, letGo, c.timers.now⟩], t.moment ≤ c.timers.now := by
  intro t ht
  rcases List.mem_append.mp ht with earlier | here
  · exact h.past t earlier
  · exact Nat.le_of_eq (congrArg Tending.moment (List.mem_singleton.mp here))

/-- A property is claimed again. -/
theorem Graced.keep {log : List Tending} (h : Graced log c) (a : Atom) :
    Graced (log ++ [⟨a, false, c.timers.now⟩]) (c.keepSupportProperty a) where
  once := h.once.filter _
  armed := by
    intro waits
    refine h.armed fun none => waits ?_
    simp [keepSupportProperty, SupportProperties.keep, none]
  last := by
    intro b hb
    obtain ⟨member, other⟩ := List.mem_filter.mp hb
    rw [lastTending?_append, if_neg (by simpa using Ne.symm (bne_iff_ne.mp other))]
    exact h.last b member
  past := h.past_now a false
  patient := by
    intro t ht letGo
    rcases List.mem_append.mp ht with earlier | here
    · exact h.patient t earlier letGo
    · rw [List.mem_singleton.mp here] at letGo
      simp at letGo

/-- A property is let go, and the sweep is put off for its sake. -/
theorem Graced.remove {log : List Tending} (h : Graced log c) (a : Atom) :
    Graced (log ++ [⟨a, true, c.timers.now⟩]) (c.removeSupportProperty a) := by
  have pending : ∀ b ∈ (c.support.remove a c.timers).1.pending,
      b = a ∨ b ∈ c.support.pending := by
    intro b hb
    rw [SupportProperties.remove] at hb
    dsimp only at hb
    split at hb
    · exact Or.inr hb
    · rcases List.mem_append.mp hb with old | new
      · exact Or.inr old
      · exact Or.inl (List.mem_singleton.mp new)
  have once : (c.support.remove a c.timers).1.pending.Nodup := by
    rw [SupportProperties.remove]
    dsimp only
    split
    · exact h.once
    · rename_i fresh
      refine List.nodup_append.mpr ⟨h.once, List.nodup_singleton a, ?_⟩
      rintro b old b' new rfl
      rw [List.mem_singleton.mp new] at old
      exact fresh (List.contains_iff_mem.mpr old)
  refine Graced.postponed (c := { c with support := (c.support.remove a c.timers).1 }) once ?_
    (h.past_now a true)
  intro b hb
  rw [lastTending?_append]
  by_cases here : a = b
  · exact ⟨⟨a, true, c.timers.now⟩, if_pos here, rfl⟩
  · rw [if_neg here]
    exact h.last b ((pending b hb).resolve_left (Ne.symm here))

/-- When the sweep goes off, whatever was let go has waited long enough. -/
theorem Graced.waited {log : List Tending} (h : Graced log c) {target : Nanos} {timers : Timers}
    (popped : c.timers.popDue target = some (.supportSweep, timers)) :
    ∀ t ∈ log, t.letGo = true → t.moment + supportSweepDelay ≤ timers.now := by
  intro t ht letGo
  obtain ⟨moment, first, _, rfl⟩ := Timers.popDue_cases popped
  have due := h.patient t ht letGo moment (Timers.firstDue_of_first? first).mem
  exact Nat.le_trans due (Nat.le_max_right _ _)

variable [DisplayServer δ]

theorem sweepSupport_swept (c : Compositor δ σ) :
    (c.sweepSupport c.isBusy).display =
      c.swept.foldl (fun d a => DisplayServer.deleteRootProperty a d) c.display := by
  rw [swept]
  cases c.isBusy with
  | true => rfl
  | false => rfl

/-- The sweep goes off: it is put off, or nothing waits any more. -/
theorem Graced.sweep {log : List Tending} (h : Graced log c) {target : Nanos} {timers : Timers}
    (popped : c.timers.popDue target = some (.supportSweep, timers)) (busy : Bool) :
    Graced log (({ c with timers := timers } : Compositor δ σ).sweepSupport busy) := by
  have clock : c.timers.now ≤ timers.now := (Timers.touches_popDue popped).clock
  have past : ∀ t ∈ log, t.moment ≤ timers.now := fun t ht => Nat.le_trans (h.past t ht) clock
  cases busy with
  | true => exact Graced.postponed (c := { c with timers := timers }) h.once h.last past
  | false =>
    refine Graced.idle rfl past fun moment due => ?_
    obtain ⟨_, _, _, rfl⟩ := Timers.popDue_cases popped
    exact (Timers.mem_stop.mp due).2 rfl

variable [Renderer σ]

theorem Graced.shutdown {log : List Tending} (h : Graced log c) : Graced log c.shutdown := by
  have stopped := h.unswept (finish_aloof c).toUnswept
  refine Graced.idle rfl stopped.past fun moment due => ?_
  exact (Timers.mem_stop.mp due).2 rfl

theorem step_graced (W : World ω δ σ) {k : Step ω} (left : k ≠ .handleTimer .supportSweep)
    {log : List Tending} (h : Graced log c) :
    Graced (log ++ c.stepTendings k) (c.step W k) := by
  by_cases tends : k.Tends
  · cases k with
    | shutdown =>
      have after := h.shutdown
      rwa [← List.append_nil log] at after
    | keepSupportProperty a => exact h.keep a
    | removeSupportProperty a => exact h.remove a
    | _ => exact tends.elim
  · have quiet : c.stepTendings k = [] := by
      cases k with
      | keepSupportProperty | removeSupportProperty => exact (tends trivial).elim
      | _ => rfl
    rw [quiet, List.append_nil]
    cases due : c.delivered k with
    | none => exact h.unswept (step_aloof W due tends).toUnswept
    | some delivered =>
      obtain ⟨id, b⟩ := delivered
      obtain ⟨popped, e⟩ := step_of_delivered W due
      rw [e]
      by_cases sweep : id = .supportSweep
      · subst sweep
        cases k with
        | handleTimer id =>
          obtain ⟨rfl, _⟩ := Prod.mk.inj (Option.some.inj due)
          exact (left rfl).elim
        | fireTimer target =>
          obtain ⟨⟨id, timers⟩, first, same⟩ := Option.map_eq_some_iff.mp due
          obtain ⟨rfl, rfl⟩ := Prod.mk.inj same
          exact h.sweep first _
        | _ => simp [delivered] at due
      · have before := h.unswept (popped.aloof sweep).toUnswept
        by_cases pass : id = .bypassCheck
        · subst pass
          exact before.unswept (bypassPass_unswept b)
        · exact before.unswept (handleTimer_aloof b pass sweep).toUnswept

def tendings (W : World ω δ σ) (c : Compositor δ σ) (steps : List (Step ω)) : List Tending :=
  noted stepTendings W c steps

theorem run_graced (W : World ω δ σ) {steps : List (Step ω)}
    (left : ∀ k ∈ steps, k ≠ .handleTimer .supportSweep) (h : Graced [] c) :
    Graced (c.tendings W steps) (c.run W steps) :=
  run_noted W (P := Graced) (fun _ _ _ left h => step_graced W left h) h left

/-- Where the sweep is left to its timer, no property waits twice, and as long as one waits the
sweep is to come. If it goes off next, all it does to the display is to delete what waits, unless
the compositor is busy. Whatever is deleted was let go after it was last claimed, two seconds have
passed since any property was let go, and the compositor neither starts nor finishes. -/
theorem sweep_after_grace (W : World ω δ σ) (d : δ) (r : σ) (options : CompositingOptions)
    {steps : List (Step ω)} (left : ∀ k ∈ steps, k ≠ .handleTimer .supportSweep)
    {c : Compositor δ σ} (reached : c = (Compositor.new d r options).run W steps) :
    c.support.pending.Nodup ∧
      (c.support.pending ≠ [] → c.timers.isArmed .supportSweep = true) ∧
      ∀ target timers, c.timers.popDue target = some (.supportSweep, timers) →
        (c.fireTimer target).display =
            c.swept.foldl (fun d a => DisplayServer.deleteRootProperty a d) c.display ∧
          ∀ a ∈ c.swept,
            (∃ t, lastTending? ((Compositor.new d r options).tendings W steps) a = some t ∧
              t.letGo = true) ∧
            (∀ t ∈ (Compositor.new d r options).tendings W steps, t.letGo = true →
              t.moment + supportSweepDelay ≤ timers.now) ∧
            c.phase ≠ .starting ∧ c.phase ≠ .finishing := by
  have start : Graced [] (Compositor.new d r options) :=
    Graced.idle rfl (by simp) (by simp [Compositor.new, Timers.new])
  have graced : Graced ((Compositor.new d r options).tendings W steps) c := by
    rw [reached]
    exact run_graced W left start
  refine ⟨graced.once, graced.armed, fun target timers popped => ⟨?_, fun a ha => ?_⟩⟩
  · rw [fireTimer, popped]
    exact sweepSupport_swept { c with timers := timers }
  · by_cases busy : c.isBusy = true
    · simp [swept, busy] at ha
    · rw [swept, if_neg busy] at ha
      refine ⟨graced.last a ha, graced.waited popped, ?_, ?_⟩
      · rintro starting
        simp [isBusy, starting] at busy
      · rintro finishing
        simp [isBusy, finishing] at busy

/-- Two properties are let go half a second apart, and the first is claimed again. -/
def releaseSteps : List (Step Empty) :=
  [.setup, .removeSupportProperty ⟨1⟩, .finish, .advanceClock 500000000,
    .removeSupportProperty ⟨2⟩, .keepSupportProperty ⟨1⟩]

def beforeReleases : Compositor HeadlessDisplay HeadlessRenderer :=
  Compositor.new (.new Extension.all (.single 1920 1080)) (.new ⟨1⟩ fun _ => 0)
    CompositingOptions.standard

def afterReleases : Compositor HeadlessDisplay HeadlessRenderer :=
  beforeReleases.run .closed releaseSteps

/-- Only the second property is deleted, two seconds after it was let go. -/
theorem later_release_swept :
    afterReleases.swept = [⟨2⟩] ∧
      (afterReleases.fireTimer 3000000000).display =
        afterReleases.swept.foldl (fun d a => DisplayServer.deleteRootProperty a d)
          afterReleases.display ∧
      ∀ t ∈ beforeReleases.tendings .closed releaseSteps, t.letGo = true →
        t.moment + supportSweepDelay ≤ 2500000000 := by
  have left : ∀ k ∈ releaseSteps, k ≠ .handleTimer .supportSweep := by simp [releaseSteps]
  have timers : afterReleases.timers = ⟨500000000, [(.supportSweep, 2500000000)]⟩ := by rfl
  have popped : afterReleases.timers.popDue 3000000000 =
      some (.supportSweep, ⟨2500000000, []⟩) := by
    simp [timers, Timers.popDue, Timers.first?, Timers.stop]
  have sweeps : afterReleases.swept = [⟨2⟩] := by rfl
  have reached : afterReleases = beforeReleases.run .closed releaseSteps := rfl
  obtain ⟨_, _, goes⟩ := sweep_after_grace .closed _ _ _ left reached
  obtain ⟨deleted, each⟩ := goes _ _ popped
  have listed : (⟨2⟩ : Atom) ∈ afterReleases.swept := by simp [sweeps]
  exact ⟨sweeps, deleted, (each ⟨2⟩ listed).2.1⟩

end Compositor

end Compositing
