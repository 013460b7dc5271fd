import Compositing.Proofs.Clock
import Compositing.Proofs.Lifecycle
import Mathlib.Data.Prod.Lex

/-!
# How far it is to the end

Handlers arm timers again, yet with every timer that goes off there is less to come. Four numbers
tell how much, and the first of them that changes drops: work that is put off comes once; switches
bring windows to what was decided for them, and one that came too early is tried again only when
it does not any more; a frame leaves nothing to paint; and a sweep that is put off while the
compositor starts waits longer than the start does.
-/

namespace Compositing.Compositor

open WindowStack
open Timers (Touches)

variable {c c' : Compositor HeadlessDisplay HeadlessRenderer}

/-! What holds between two calls. -/

structure Poised (c : Compositor HeadlessDisplay HeadlessRenderer) : Prop where
  alive : c.Alive
  sound : c.fault? = none
  cut : Cut c
  lives : ∃ past, Lives past c
  clocked : Clocked c

theorem Poised.step {ω : Type} (change : ω → DisplayChange) {k : Step ω} (fresh : k.AddsFresh)
    (h : Poised c) : Poised (c.step (DisplayChange.world change fun _ r => r) k) := by
  have cut := step_cut change fresh.plain ⟨h.sound, h.cut⟩
  obtain ⟨past, lives⟩ := h.lives
  have real : ∀ k' ∈ [k], k'.Adds fun w => w.isPlaceholder = false := by
    simpa using fresh.real
  refine ⟨step_alive _ fresh h.alive, cut.1, cut.2,
    ⟨_, run_lives (DisplayChange.world change fun _ r => r) real lives⟩, ?_⟩
  have own (own : k.Own (Occasion.Brings fun w => w.unredirected = false)) :
      Clocked (c.step (DisplayChange.world change fun _ r => r) k) :=
    ((step_moves (DisplayChange.world change fun _ r => r) c own).preserve
      (P := fun c => (c.fault? = none ∧ Cut c) ∧ Clocked c)
      (fun move h => ⟨move.cut h.1, move.clocked h.1.2.orderly.distinct h.2⟩)
      ⟨⟨h.sound, h.cut⟩, h.clocked⟩).2
  cases k with
  | takeEvents | outside => exact ⟨h.clocked.prompt, h.clocked.switched⟩
  | addWindow w => exact own fresh.plain
  | handleDisplayEvent e => cases e <;> exact own trivial
  | _ => exact own trivial

theorem run_poised {ω : Type} (change : ω → DisplayChange) (d : HeadlessDisplay)
    (r : HeadlessRenderer) (options : CompositingOptions) {steps : List (Step ω)}
    (fresh : ∀ k ∈ steps, k.AddsFresh) :
    Poised ((Compositor.new d r options).run (DisplayChange.world change fun _ r => r) steps) := by
  have start : Poised (Compositor.new d r options) :=
    ⟨new_alive d r options, rfl, (new_cut d r options).2, ⟨[], new_lives d r options⟩,
      by simp [Compositor.new, Timers.new], by simp [Compositor.new, BypassState.new]⟩
  exact run_preserves _ (P := Poised) (fun c k adds h => h.step change adds) start fresh

/-! One timer that goes off. -/

/-- The timer that is taken off is not armed any more, and the clock has come to its moment. -/
def due (c : Compositor HeadlessDisplay HeadlessRenderer) (id : TimerId) (moment : Nanos) :
    Compositor HeadlessDisplay HeadlessRenderer :=
  { c with timers := { c.timers.stop id with now := max c.timers.now moment } }

def fired (c : Compositor HeadlessDisplay HeadlessRenderer) (id : TimerId) (moment : Nanos) :
    Compositor HeadlessDisplay HeadlessRenderer :=
  ((c.due id moment).handleTimer id).dispatchDisplayEvents.2

variable {id : TimerId} {moment : Nanos}

theorem fireNext_of_first (first : c.timers.first? = some (id, moment)) (target : Nanos) :
    c.fireNext target = if moment ≤ target then some (id, c.fired id moment) else none := by
  rw [fireNext, Timers.popDue, first]
  dsimp only
  split <;> rfl

theorem fireNext_of_idle (idle : c.timers.first? = none) (target : Nanos) :
    c.fireNext target = none := by
  rw [fireNext, Timers.popDue, idle]
  rfl

theorem due_touches (c : Compositor HeadlessDisplay HeadlessRenderer) (id : TimerId)
    (moment : Nanos) : Touches [id] c.timers (c.due id moment).timers :=
  ⟨Nat.le_max_left _ _, (Timers.touches_stop id c.timers).others⟩

theorem due_unarmed (c : Compositor HeadlessDisplay HeadlessRenderer) (id : TimerId)
    (moment : Nanos) : (c.due id moment).timers.isArmed id = false := by
  by_contra armed
  have still : (c.timers.stop id).isArmed id = true := (Bool.not_eq_false _).mp armed
  simp at still

theorem isArmed_of_first (first : c.timers.first? = some (id, moment)) :
    c.timers.isArmed id = true :=
  Timers.isArmed_iff.mpr ⟨moment, (Timers.firstDue_of_first? first).mem⟩

theorem popDue_of_first (first : c.timers.first? = some (id, moment)) :
    c.timers.popDue moment =
      some (id, { c.timers.stop id with now := max c.timers.now moment }) := by
  rw [Timers.popDue, first]
  simp

theorem due_goesOff (first : c.timers.first? = some (id, moment)) :
    GoesOff id c (c.due id moment) :=
  Or.inr ⟨moment, _, popDue_of_first first, rfl⟩

/-- What holds between two calls holds after a timer was handled, and after the events were. -/
theorem Poised.handled (h : Poised c) (first : c.timers.first? = some (id, moment)) :
    Poised ((c.due id moment).handleTimer id) := by
  have stepped := h.step (fun o : DisplayChange => o) (k := .fireTimer moment) trivial
  rw [Compositor.step, fireTimer, popDue_of_first first] at stepped
  exact stepped

theorem Poised.fired (h : Poised c) (first : c.timers.first? = some (id, moment)) :
    Poised (c.fired id moment) :=
  (h.handled first).step (fun o : DisplayChange => o) (k := .dispatchDisplayEvents) trivial

/-- What holds between two calls holds as well when a timer was taken off. -/
theorem Poised.due_fits (h : Poised c) (id : TimerId) (moment : Nanos) : Fits (c.due id moment) :=
  { h.cut.toFits with }

/-! Only the server brings up events. -/

theorem Move.silent {σ : Type} [Renderer σ] {c c' : Compositor HeadlessDisplay σ}
    {ok : Occasion → Prop} (move : Move ok c c') (silent : c.display.events = []) :
    c'.display.events = [] := by
  rcases move.fixed HeadlessDisplay.fixed_events with same | ⟨_, heard⟩
  · exact same.trans silent
  · rw [heard]
    rfl

/-- Once the events are handled, none wait. -/
theorem fired_silent (c : Compositor HeadlessDisplay HeadlessRenderer) (id : TimerId)
    (moment : Nanos) : (c.fired id moment).display.events = [] := by
  let Q : List DisplayEvent → Compositor HeadlessDisplay HeadlessRenderer → Prop :=
    fun _ c => c.display.events = []
  refine dispatch_induction (Q := Q) rfl ?_
  intro e _ c' silent
  have moves : Moves (fun _ => True) c' (c'.handleDisplayEvent e) :=
    handleDisplayEvent_moves c' e fun _ => trivial
  exact moves.preserve (fun move silent => move.silent silent) silent

theorem handleTimer_silent {σ : Type} [Renderer σ] {c : Compositor HeadlessDisplay σ}
    (silent : c.display.events = []) (id : TimerId) :
    (c.handleTimer id).display.events = [] := by
  have moves : Moves (fun _ => True) c (c.handleTimer id) := handleTimer_moves c id
  exact moves.preserve (fun move silent => move.silent silent) silent

theorem dispatch_of_silent {σ : Type} [Renderer σ] {c : Compositor HeadlessDisplay σ}
    (silent : c.display.events = []) : c.dispatchDisplayEvents.2 = c := by
  have same : ({ c.display with events := [] } : HeadlessDisplay) = c.display := by
    rw [← silent]
  simp only [dispatchDisplayEvents, DisplayServer.takeEvents, HeadlessDisplay.takeEvents,
    silent, List.foldl_nil, same]

/-- Without events there is nothing to handle but the timer. -/
theorem fired_eq (silent : c.display.events = []) :
    c.fired id moment = (c.due id moment).handleTimer id :=
  dispatch_of_silent (handleTimer_silent (c := c.due id moment) silent id)

/-! How far it is to the end. -/

def turns (c : Compositor HeadlessDisplay HeadlessRenderer) : Nat :=
  2 * (c.timers.isArmed .restart).toNat + (c.timers.isArmed .deferred).toNat

/-- A switch would come too early, and it may be tried again when it still does. -/
def hasty (c : Compositor HeadlessDisplay HeadlessRenderer) : Bool :=
  match c.bypass.lastToggle? with
  | none => false
  | some last =>
    decide (c.timers.now - last < bypassDebounce) &&
      !(c.timers.isArmed .bypassRetry &&
        c.timers.armed.all fun e => e.1 != .bypassRetry || decide (last + bypassDebounce ≤ e.2))

def switches (c : Compositor HeadlessDisplay HeadlessRenderer) : Nat :=
  6 * c.disagreeing + (c.timers.isArmed .bypassCheck).toNat +
    2 * (c.timers.isArmed .bypassRetry).toNat + 2 * c.hasty.toNat

/-- Something is to be painted, or may be once damage is fetched. -/
def unpainted (c : Compositor HeadlessDisplay HeadlessRenderer) : Bool :=
  !c.repaints.isEmpty || c.windows.windows.any fun w => w.hasPendingRepaints || w.isDamaged

def frames (c : Compositor HeadlessDisplay HeadlessRenderer) : Nat :=
  if c.timers.isArmed .repaint then 1 + c.unpainted.toNat else 0

def sweepsFirst (t : Timers) : Bool :=
  t.armed.any fun e => e.1 == .supportSweep &&
    t.armed.any fun e' => e'.1 == .deferred && decide (e.2 ≤ e'.2)

def sweeps (c : Compositor HeadlessDisplay HeadlessRenderer) : Nat :=
  if c.timers.isArmed .supportSweep then 1 + (sweepsFirst c.timers).toNat else 0

/-- All that is to come, the most important first. -/
def toCome (c : Compositor HeadlessDisplay HeadlessRenderer) : Nat ×ₗ Nat ×ₗ Nat ×ₗ Nat :=
  toLex (c.turns, toLex (c.switches, toLex (c.frames, c.sweeps)))

theorem toCome_lt_of_turns (fewer : c'.turns < c.turns) : c'.toCome < c.toCome :=
  Prod.Lex.toLex_lt_toLex.mpr (Or.inl fewer)

theorem toCome_lt_of_switches (turns : c'.turns = c.turns) (fewer : c'.switches < c.switches) :
    c'.toCome < c.toCome :=
  Prod.Lex.toLex_lt_toLex.mpr (Or.inr ⟨turns, Prod.Lex.toLex_lt_toLex.mpr (Or.inl fewer)⟩)

theorem toCome_lt_of_frames (turns : c'.turns = c.turns) (switches : c'.switches ≤ c.switches)
    (fewer : c'.frames < c.frames ∨ (c'.frames = c.frames ∧ c'.sweeps < c.sweeps)) :
    c'.toCome < c.toCome := by
  refine Prod.Lex.toLex_lt_toLex.mpr (Or.inr ⟨turns, Prod.Lex.toLex_lt_toLex.mpr ?_⟩)
  rcases Nat.lt_or_eq_of_le switches with less | same
  · exact Or.inl less
  · exact Or.inr ⟨same, Prod.Lex.toLex_lt_toLex.mpr fewer⟩

theorem hasty_iff :
    c.hasty = true ↔ ∃ last, c.bypass.lastToggle? = some last ∧
      c.timers.now - last < bypassDebounce ∧
      (c.timers.isArmed .bypassRetry = true →
        ∃ m, (.bypassRetry, m) ∈ c.timers.armed ∧ m < last + bypassDebounce) := by
  rw [hasty]
  cases date : c.bypass.lastToggle? with
  | none => simp
  | some last =>
    simp only [Bool.and_eq_true, decide_eq_true_eq, Bool.not_eq_true', Bool.and_eq_false_iff,
      List.all_eq_false, Bool.or_eq_true, bne_iff_ne, ne_eq, not_or, Decidable.not_not,
      Prod.exists, Option.some.injEq, exists_eq_left']
    refine and_congr_right fun _ => ⟨?_, fun soon => ?_⟩
    · rintro (unarmed | ⟨id, m, armed, rfl, before⟩) retried
      · simp [unarmed] at retried
      · exact ⟨m, armed, by simpa using before⟩
    · cases retried : c.timers.isArmed .bypassRetry with
      | false => exact Or.inl rfl
      | true =>
        obtain ⟨m, armed, before⟩ := soon retried
        exact Or.inr ⟨.bypassRetry, m, armed, rfl, by simpa using before⟩

theorem tooEarly_iff {b : BypassState} {now : Nanos} :
    b.tooEarly now = true ↔ ∃ last, b.lastToggle? = some last ∧ now - last < bypassDebounce := by
  rw [BypassState.tooEarly]
  cases b.lastToggle? with
  | none => simp
  | some last => simp

theorem toNat_le_of_imp {a b : Bool} (h : a = true → b = true) : a.toNat ≤ b.toNat := by
  cases a with
  | false => exact Nat.zero_le _
  | true => rw [h rfl]

/-- As time goes by a switch comes less early. -/
theorem hasty_of_touches {touched : List TimerId} (touches : Touches touched c.timers c'.timers)
    (free : .bypassRetry ∉ touched) (same : c'.bypass.lastToggle? = c.bypass.lastToggle?)
    (h : c'.hasty = true) : c.hasty = true := by
  obtain ⟨last, date, early, soon⟩ := hasty_iff.mp h
  refine hasty_iff.mpr ⟨last, same ▸ date, ?_, fun retried => ?_⟩
  · exact Nat.lt_of_le_of_lt (Nat.sub_le_sub_right touches.clock last) early
  · obtain ⟨m, armed, before⟩ := soon ((touches.isArmed free).mpr retried)
    exact ⟨m, (touches.others _ free m).mp armed, before⟩

/-- When the retry goes off, and no retry would have come too early, then it does not. -/
theorem due_hasty (first : c.timers.first? = some (id, moment))
    (h : (c.due id moment).hasty = true) : c.hasty = true := by
  by_cases retry : id = .bypassRetry
  · subst retry
    obtain ⟨last, date, early, _⟩ := hasty_iff.mp h
    have earlier : max c.timers.now moment - last < bypassDebounce := early
    have before : c.timers.now - last < bypassDebounce :=
      Nat.lt_of_le_of_lt (Nat.sub_le_sub_right (Nat.le_max_left _ moment) last) earlier
    refine hasty_iff.mpr ⟨last, date, before, fun _ =>
      ⟨moment, (Timers.firstDue_of_first? first).mem, ?_⟩⟩
    have late : moment - last < bypassDebounce :=
      Nat.lt_of_le_of_lt (Nat.sub_le_sub_right (Nat.le_max_right c.timers.now _) last) earlier
    by_contra behind
    exact Nat.not_le_of_lt late (Nat.le_sub_of_add_le' (Nat.le_of_not_lt behind))
  · exact hasty_of_touches (due_touches c id moment) (by simpa using Ne.symm retry) rfl h

theorem isArmed_eq {touched : List TimerId} {t t' : Timers} (touches : Touches touched t t')
    {id : TimerId} (free : id ∉ touched) : t'.isArmed id = t.isArmed id :=
  Bool.eq_iff_iff.mpr (touches.isArmed free)

/-- A timer that goes off takes along what it counts for. -/
theorem due_switches (first : c.timers.first? = some (id, moment)) :
    (c.due id moment).switches + (if id = .bypassCheck then 1 else 0) +
      (if id = .bypassRetry then 2 else 0) ≤ c.switches := by
  have touches := due_touches c id moment
  have same : (c.due id moment).disagreeing = c.disagreeing := rfl
  have hasty := toNat_le_of_imp (due_hasty first)
  have gone := due_unarmed c id moment
  have armed := isArmed_of_first first
  have others (other : TimerId) (free : id ≠ other) :
      (c.due id moment).timers.isArmed other = c.timers.isArmed other :=
    isArmed_eq touches (by simpa using Ne.symm free)
  rw [switches, switches, same]
  by_cases check : id = .bypassCheck
  · subst check
    rw [gone, armed, others .bypassRetry (by simp)]
    simp only [if_true, reduceCtorEq, if_false, Bool.toNat_true, Bool.toNat_false]
    omega
  · by_cases retry : id = .bypassRetry
    · subst retry
      rw [gone, armed, others .bypassCheck (by simp)]
      simp only [if_true, reduceCtorEq, if_false, Bool.toNat_true, Bool.toNat_false]
      omega
    · rw [others .bypassCheck check, others .bypassRetry retry]
      simp only [check, retry, if_false]
      omega

/-- What touches other timers and leaves the windows as near to what was decided. -/
theorem switches_le {touched : List TimerId} (touches : Touches touched c.timers c'.timers)
    (check : .bypassCheck ∉ touched) (retry : .bypassRetry ∉ touched)
    (same : c'.bypass.lastToggle? = c.bypass.lastToggle?)
    (fewer : c'.disagreeing ≤ c.disagreeing) : c'.switches ≤ c.switches := by
  have hasty := toNat_le_of_imp (hasty_of_touches touches retry same)
  rw [switches, switches, isArmed_eq touches check, isArmed_eq touches retry]
  omega

theorem turns_eq {touched : List TimerId} (touches : Touches touched c.timers c'.timers)
    (restart : .restart ∉ touched) (deferred : .deferred ∉ touched) : c'.turns = c.turns := by
  rw [turns, turns, isArmed_eq touches restart, isArmed_eq touches deferred]

/-! Restarts and turns. -/

/-- A restart leaves at most a turn of deferred work to come. -/
theorem restart_turns (gone : c.timers.isArmed .restart = false) : c.restart.turns ≤ 1 := by
  have armed : c.restart.timers.isArmed .restart = false := by
    by_cases scene : c.hasScene = true
    · have put : Touches [.deferred] c.finish.timers c.restart.timers := by
        rw [restart, if_pos scene, defer]
        dsimp only
        split
        · exact Touches.refl _ _
        · exact Timers.touches_start _ _ _
      rw [isArmed_eq put (by simp), isArmed_eq (finish_touches c) (by simp [TimerId.ofScene]), gone]
    · rw [restart, if_neg scene, gone]
  have one := Bool.toNat_le (c.restart.timers.isArmed .deferred)
  rw [turns, armed]
  simp only [Bool.toNat_false]
  omega

theorem restart_toCome (first : c.timers.first? = some (.restart, moment)) :
    ((c.due .restart moment).restart).toCome < c.toCome := by
  have left := restart_turns (due_unarmed c .restart moment)
  have armed := isArmed_of_first first
  apply toCome_lt_of_turns
  rw [turns.eq_def c, armed]
  simp only [Bool.toNat_true]
  omega

/-- Deferred work has its turn, and leaves no other turn to come. -/
theorem runDeferred_toCome (first : c.timers.first? = some (.deferred, moment)) :
    ((c.due .deferred moment).runDeferred).toCome < c.toCome := by
  have touches := runDeferred_touches (c.due .deferred moment)
  have same : ((c.due .deferred moment).runDeferred).timers.isArmed .restart =
      c.timers.isArmed .restart := by
    rw [isArmed_eq touches (by simp [TimerId.ofScene]), isArmed_eq (due_touches c _ _) (by simp)]
  have gone : ((c.due .deferred moment).runDeferred).timers.isArmed .deferred = false := by
    rw [isArmed_eq touches (by simp [TimerId.ofScene]), due_unarmed]
  have armed := isArmed_of_first first
  apply toCome_lt_of_turns
  rw [turns, turns, same, gone, armed]
  simp

/-! Passes. -/

theorem addRepaintFull_eq (c : Compositor HeadlessDisplay HeadlessRenderer) :
    ∃ t g, c.addRepaintFull = { c with timers := t, repaints := g } ∧
      Touches [.repaint] c.timers t := by
  by_cases scene : c.hasScene = true
  · refine ⟨c.frame.schedule c.timers, Region.ofRect (DisplayServer.layout c.display).full, ?_,
      Timers.touches_schedule c.frame c.timers⟩
    simp [addRepaintFull, scheduleRepaint, scene]
  · exact ⟨c.timers, c.repaints, by rw [addRepaintFull, if_neg scene], Touches.refl _ _⟩

/-- A pass comes to its switches, and to painting all if it counts as one that changed something. -/
theorem bypassPass_shape (applies : c.bypassApplies = true) :
    ∃ t g r, Touches [.repaint] c.switchWindows.2.timers t ∧
      c.bypassPass = { c.switchWindows.2 with timers := t, repaints := g, renderer := r } := by
  rw [bypassPass_eq, if_pos applies]
  split
  · obtain ⟨t, g, e, touches⟩ := addRepaintFull_eq { c.switchWindows.2 with
      renderer := Renderer.setOverlayShape c.switchWindows.2.overlayShape
        c.switchWindows.2.renderer }
    exact ⟨t, g, _, touches, e⟩
  · exact ⟨_, c.switchWindows.2.repaints, c.switchWindows.2.renderer, Touches.refl _ _, rfl⟩

theorem bypassPass_approaches (distinct : c.windows.Distinct) (applies : c.bypassApplies = true) :
    Approaches c c.bypassPass := by
  obtain ⟨t, g, r, _, e⟩ := bypassPass_shape applies
  refine ⟨bypassPass_unswitched HeadlessDisplay.fixed_layout.toUnswitched c, by rw [e]; rfl, ?_⟩
  rw [bypassPass_windows, if_pos applies]
  exact (midPass_underway distinct).nearer

/-- The retry that is armed by a pass in which a switch came too early does not come too early. -/
theorem retrying_patient (unarmed : c.timers.isArmed .bypassRetry = false) (h : Clocked c)
    {m : Nanos} {last : Nanos} (date : c.bypass.lastToggle? = some last)
    (armed : (.bypassRetry, m) ∈ (c.retrying true).armed) : last + bypassDebounce ≤ m := by
  have past := h.switched last date
  rw [retrying, if_pos (by simp [unarmed])] at armed
  rcases Timers.mem_start.mp armed with ⟨before, other⟩ | ⟨_, rfl⟩
  · exact (other rfl).elim
  · exact Nat.add_le_add_right past bypassDebounce

/-- If a pass arms the retry, a switch is not too early for it. -/
theorem bypassPass_patient (h : Clocked c) (applies : c.bypassApplies = true)
    (debounced : (c.midPass c.candidates).2.debounced = true)
    (unarmed : c.timers.isArmed .bypassRetry = false)
    (date : c.bypassPass.bypass.lastToggle? = c.bypass.lastToggle?) :
    c.bypassPass.hasty = false := by
  obtain ⟨t, g, r, touches, e⟩ := bypassPass_shape applies
  have timers : c.switchWindows.2.timers = c.retrying (c.midPass c.candidates).2.debounced := rfl
  rw [timers, debounced] at touches
  by_contra hasty
  obtain ⟨last, date', _, soon⟩ := hasty_iff.mp (by simpa using hasty)
  rw [e] at soon
  obtain ⟨m, armed, behind⟩ := soon ((isArmed_eq touches (by simp)).trans c.retrying_armed)
  have ahead := retrying_patient unarmed h (date ▸ date')
    ((touches.others _ (by simp) m).mp armed)
  exact Nat.not_le_of_lt behind ahead

/-- A pass that arms no retry arms nothing but the painting. -/
theorem bypassPass_repaints (applies : c.bypassApplies = true)
    (still : c.retrying (c.midPass c.candidates).2.debounced = c.timers) :
    Touches [.repaint] c.timers c.bypassPass.timers := by
  obtain ⟨t, g, r, touches, e⟩ := bypassPass_shape applies
  have timers : c.switchWindows.2.timers = c.retrying (c.midPass c.candidates).2.debounced := rfl
  rw [timers, still] at touches
  rw [e]
  exact touches

theorem bypassPass_switches (distinct : c.windows.Distinct) (h : Clocked c)
    (gone : c.timers.isArmed .bypassCheck = false) : c.bypassPass.switches ≤ c.switches := by
  cases applies : c.bypassApplies with
  | false =>
    rw [bypassPass_eq, applies]
    exact Nat.le_refl _
  | true =>
    have approaches := bypassPass_approaches distinct applies
    obtain ⟨t, g, r, touches, e⟩ := bypassPass_shape applies
    have unarmed : c.bypassPass.timers.isArmed .bypassCheck = false := by
      rw [e]
      exact (isArmed_eq touches (by simp)).trans
        ((isArmed_eq c.switchWindows_touches (by simp)).trans gone)
    rcases (midPass_underway distinct).progress with
      ⟨_, _, bypass, early⟩ | ⟨_, _, w, hw, real, other, w', hw', same, decided⟩
    · -- nothing was switched, and where a switch was too early, the retry is not
      have fewer := approaches.disagreeing_le distinct
      have date : c.bypassPass.bypass.lastToggle? = c.bypass.lastToggle? := by
        have date : (c.midPass c.candidates).2.bypass.lastToggle? = c.bypass.lastToggle? := by
          rw [bypass]
        rw [e]
        exact date
      by_cases retried : (c.midPass c.candidates).2.debounced = true ∧
          c.timers.isArmed .bypassRetry = false
      · obtain ⟨debounced, unretried⟩ := retried
        have before : c.hasty = true := by
          obtain ⟨last, date, early⟩ := tooEarly_iff.mp (early debounced)
          exact hasty_iff.mpr ⟨last, date, early, by simp [unretried]⟩
        have after := bypassPass_patient h applies debounced unretried date
        have retry := Bool.toNat_le (c.bypassPass.timers.isArmed .bypassRetry)
        rw [switches, switches, unarmed, unretried, before, after]
        simp only [Bool.toNat_false, Bool.toNat_true]
        omega
      · have still : c.retrying (c.midPass c.candidates).2.debounced = c.timers := by
          rw [retrying, if_neg]
          simpa using retried
        exact switches_le (bypassPass_repaints applies still) (by simp) (by simp) date fewer
    · have fewer : c.bypassPass.disagreeing < c.disagreeing := by
        have kept : w' ∈ c.bypassPass.windows.windows := by
          rw [bypassPass_windows, if_pos applies]
          exact hw'
        exact approaches.disagreeing_lt distinct hw real other kept same decided
      have retry := Bool.toNat_le (c.bypassPass.timers.isArmed .bypassRetry)
      have hasty := Bool.toNat_le c.bypassPass.hasty
      rw [switches, switches, unarmed]
      simp only [Bool.toNat_false]
      omega

theorem bypassPass_touches (c : Compositor HeadlessDisplay HeadlessRenderer) :
    Touches [.repaint, .bypassRetry] c.timers c.bypassPass.timers := by
  cases applies : c.bypassApplies with
  | false =>
    rw [bypassPass_eq, applies]
    exact Touches.refl _ _
  | true =>
    obtain ⟨t, g, r, touches, e⟩ := bypassPass_shape applies
    rw [e]
    exact (c.switchWindows_touches.mono (by simp)).trans (touches.mono (by simp))

theorem Poised.due_clocked (h : Poised c) (id : TimerId) (moment : Nanos) :
    Clocked (c.due id moment) where
  prompt := fun m armed =>
    Nat.le_trans (h.clocked.prompt m (Timers.mem_stop.mp armed).1) (Nat.le_max_left _ _)
  switched := fun last date => Nat.le_trans (h.clocked.switched last date) (Nat.le_max_left _ _)

theorem bypassPass_toCome (h : Poised c) (first : c.timers.first? = some (.bypassCheck, moment)) :
    ((c.due .bypassCheck moment).bypassPass).toCome < c.toCome := by
  have switches := bypassPass_switches (h.due_fits _ moment).orderly.distinct
    (h.due_clocked .bypassCheck moment) (due_unarmed c _ moment)
  have gone := due_switches first
  refine toCome_lt_of_switches ?_ ?_
  · rw [turns_eq (bypassPass_touches _) (by simp) (by simp),
      turns_eq (due_touches c _ _) (by simp) (by simp)]
  · simp only [if_true, reduceCtorEq, if_false] at gone
    omega

/-- Asking for a pass adds the pass. -/
theorem checkBypass_switches (c : Compositor HeadlessDisplay HeadlessRenderer) :
    (c.checkBypass false).switches ≤ c.switches + 1 := by
  rcases c.checkBypass_cases false with ⟨_, e⟩ | ⟨_, t, touches, _, e⟩
  · rw [e]
    omega
  · have fewer : (c.checkBypass false).disagreeing = c.disagreeing := by
      rw [e]
      rfl
    have touches : Touches [.bypassCheck] c.timers (c.checkBypass false).timers := by
      rw [e]
      exact touches
    have retry : (c.checkBypass false).timers.isArmed .bypassRetry =
        c.timers.isArmed .bypassRetry := isArmed_eq touches (by simp)
    have hasty := toNat_le_of_imp (hasty_of_touches touches (by simp) (by rw [e]; rfl))
    have check := Bool.toNat_le ((c.checkBypass false).timers.isArmed .bypassCheck)
    rw [switches, switches, fewer, retry]
    omega

theorem retry_toCome (first : c.timers.first? = some (.bypassRetry, moment)) :
    ((c.due .bypassRetry moment).checkBypass false).toCome < c.toCome := by
  have gone := due_switches first
  have asked := checkBypass_switches (c.due .bypassRetry moment)
  refine toCome_lt_of_switches ?_ ?_
  · rw [turns_eq (checkBypass_touches false (Touches.refl [.bypassCheck] _) (by simp)) (by simp)
      (by simp), turns_eq (due_touches c _ _) (by simp) (by simp)]
  · simp only [if_true, reduceCtorEq, if_false] at gone
    omega

/-! Frames. -/

/-- An aside that leaves the windows as near to what was decided. -/
theorem Aside.approaches (aside : Aside c c') (near : Becomes c.Nearer c.windows c'.windows) :
    Approaches c c' := by
  refine ⟨aside.served HeadlessDisplay.fixed_layout.toLasting, ?_, near⟩
  rw [bypassContext, bypassContext, aside.option]
  rfl

/-- A frame has nothing to do with what is decided for the windows. -/
theorem performCompositing_approaches (distinct : c.windows.Distinct) :
    Approaches c c.performCompositing :=
  (Aside.performCompositing c).approaches
    ((performCompositing_refreshed distinct).imp fun _ _ same => Nearer.of_refreshed same)

theorem unpainted_of_fetch (distinct : c.windows.Distinct)
    (pending : (c.fetchDamage.repaints.isEmpty && !c.fetchDamage.windowRepaintsPending) = false) :
    c.unpainted = true := by
  by_contra done
  simp only [unpainted, Bool.or_eq_true, Bool.not_eq_true', List.any_eq_true, not_or,
    Bool.not_eq_false, not_exists, not_and, Bool.not_eq_true] at done
  obtain ⟨repaints, none⟩ := done
  have idle : c.fetchDamage.windows = c.windows := by
    rw [fetchDamage_of_clean distinct fun w hw => (none w hw).2]
  have empty : c.fetchDamage.repaints.isEmpty = true := repaints
  have still : c.fetchDamage.windowRepaintsPending = false := by
    rw [windowRepaintsPending, idle, List.any_eq_false]
    exact fun w hw => by simp [(none w hw).1]
  simp [empty, still] at pending

theorem unpainted_paint (clean : ∀ w ∈ c.windows.windows, w.isDamaged = false) :
    c.paint.unpainted = false := by
  have windows : c.paint.windows.windows = c.windows.windows.map painted := by simp [paint]
  have repaints : c.paint.repaints = Region.empty := by simp [paint]
  rw [unpainted, windows, repaints]
  simp only [Region.isEmpty, Region.empty, List.isEmpty_nil, Bool.not_true, Bool.false_or,
    List.any_map, List.any_eq_false]
  intro w hw
  have clean := clean w hw
  simp only [Function.comp, painted]
  split <;> simp [Toplevel.hasPendingRepaints, Toplevel.resetRepaints, Toplevel.resetDamage,
    Region.empty, Region.isEmpty, clean]

theorem performCompositing_frames (distinct : c.windows.Distinct) (calm : c.windows.Calm)
    (gone : c.timers.isArmed .repaint = false) :
    c.performCompositing.frames ≤ c.unpainted.toNat := by
  rw [performCompositing]
  split
  · dsimp only
    split
    · have idle : c.fetchDamage.goIdle.timers.isArmed .repaint = false :=
        due_unarmed c.fetchDamage .repaint 0
      rw [frames, idle]
      exact Nat.zero_le _
    · rename_i pending
      rw [unpainted_of_fetch distinct (by simpa using pending), frames,
        unpainted_paint (fetchDamage_clean calm)]
      split <;> simp
  · rw [frames, gone]
    exact Nat.zero_le _

theorem repaint_toCome (h : Poised c) (first : c.timers.first? = some (.repaint, moment)) :
    ((c.due .repaint moment).performCompositing).toCome < c.toCome := by
  have distinct : (c.due .repaint moment).windows.Distinct := h.alive.distinct
  have touches := performCompositing_touches (due_touches c .repaint moment) (by simp)
  have fewer := (performCompositing_approaches distinct).disagreeing_le distinct
  have painted := performCompositing_frames distinct h.alive.calm (due_unarmed c .repaint moment)
  refine toCome_lt_of_frames (turns_eq touches (by simp) (by simp))
    (switches_le touches (by simp) (by simp) (Aside.performCompositing _).lastToggle fewer)
    (Or.inl ?_)
  have same : (c.due .repaint moment).unpainted = c.unpainted := rfl
  rw [same] at painted
  rw [frames.eq_def c, if_pos (isArmed_of_first first)]
  omega

/-! Sweeps. -/

theorem sweepSupport_touches {δ σ : Type} [DisplayServer δ] (c : Compositor δ σ) (busy : Bool) :
    Touches [.supportSweep] c.timers (c.sweepSupport busy).timers := by
  cases busy with
  | true => exact Timers.touches_start _ _ _
  | false => exact Touches.refl _ _

theorem sweepSupport_approaches (c : Compositor HeadlessDisplay HeadlessRenderer) (busy : Bool) :
    Approaches c (c.sweepSupport busy) :=
  (Aside.sweepSupport c busy).approaches (Becomes.refl Nearer.refl c.windows)

/-- A compositor that is busy between two calls waits for its start, and that is due. -/
theorem Poised.start_due (h : Poised c) (busy : c.isBusy = true) :
    ∃ m ≤ c.timers.now, (.deferred, m) ∈ c.timers.armed := by
  obtain ⟨past, lives⟩ := h.lives
  obtain ⟨regular, due⟩ := lives h.sound
  have starting : c.phase = .starting := by
    simpa [isBusy, regular.steady] using busy
  have waits : c.deferred ≠ [] := List.ne_nil_of_mem (regular.awaited starting)
  obtain ⟨m, armed⟩ := Timers.isArmed_iff.mp (due waits)
  exact ⟨m, h.clocked.prompt m armed, armed⟩

/-- A sweep is put off for long enough that the start comes first. -/
theorem Poised.sweep_last (h : Poised c) :
    sweepsFirst ((c.due .supportSweep moment).timers.start .supportSweep supportSweepDelay) =
      false := by
  by_contra first
  simp only [sweepsFirst, Bool.not_eq_false, List.any_eq_true, Bool.and_eq_true, beq_iff_eq,
    decide_eq_true_eq, Prod.exists] at first
  obtain ⟨_, late, again, rfl, _, m, waits, rfl, before⟩ := first
  have last : late = (c.due .supportSweep moment).timers.now + supportSweepDelay := by
    rcases Timers.mem_start.mp again with ⟨_, other⟩ | ⟨_, same⟩
    · exact (other rfl).elim
    · exact same
  have due : m ≤ (c.due .supportSweep moment).timers.now := by
    rcases Timers.mem_start.mp waits with ⟨armed, _⟩ | ⟨other, _⟩
    · exact (h.due_clocked _ moment).prompt m armed
    · simp at other
  exact Nat.not_lt_of_le (Nat.le_trans (last ▸ before) due) (Nat.lt_add_of_pos_right (by decide))

theorem sweep_toCome (h : Poised c) (first : c.timers.first? = some (.supportSweep, moment))
    {busy : Bool} (same : c.isBusy = busy) :
    ((c.due .supportSweep moment).sweepSupport busy).toCome < c.toCome := by
  have distinct : (c.due .supportSweep moment).windows.Distinct := h.alive.distinct
  have touches := (due_touches c .supportSweep moment).trans
    (sweepSupport_touches (c.due .supportSweep moment) busy)
  have fewer := (sweepSupport_approaches (c.due .supportSweep moment) busy).disagreeing_le
    distinct
  have frames : ((c.due .supportSweep moment).sweepSupport busy).frames = c.frames := by
    rw [frames, frames, isArmed_eq touches (by simp)]
    rfl
  refine toCome_lt_of_frames (turns_eq touches (by simp) (by simp))
    (switches_le touches (by simp) (by simp) rfl fewer) (Or.inr ⟨frames, ?_⟩)
  rw [sweeps.eq_def c, if_pos (isArmed_of_first first)]
  cases busy with
  | false =>
    have gone : ((c.due .supportSweep moment).sweepSupport false).timers.isArmed .supportSweep =
        false := due_unarmed c .supportSweep moment
    rw [sweeps, gone]
    simp only [Bool.false_eq_true, if_false]
    omega
  | true =>
    obtain ⟨m, _, waits⟩ := h.start_due same
    have soonest := Timers.firstDue_of_first? first
    have before : sweepsFirst c.timers = true := by
      simp only [sweepsFirst, List.any_eq_true, Bool.and_eq_true, beq_iff_eq, decide_eq_true_eq]
      exact ⟨_, soonest.mem, rfl, _, waits, rfl, soonest.least waits⟩
    have after : sweepsFirst ((c.due .supportSweep moment).sweepSupport true).timers = false :=
      h.sweep_last
    rw [sweeps, before, after]
    split <;> simp

/-- With every timer that goes off there is less to come, as long as no events come up. -/
theorem Poised.fired_toCome (h : Poised c) (silent : c.display.events = [])
    (first : c.timers.first? = some (id, moment)) : (c.fired id moment).toCome < c.toCome := by
  rw [fired_eq silent]
  cases id with
  | repaint => exact repaint_toCome h first
  | bypassCheck => exact bypassPass_toCome h first
  | bypassRetry => exact retry_toCome first
  | supportSweep => exact sweep_toCome h first rfl
  | restart => exact restart_toCome first
  | deferred => exact runDeferred_toCome first

end Compositing.Compositor
