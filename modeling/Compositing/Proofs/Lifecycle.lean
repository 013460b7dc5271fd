import Compositing.Display.Headless
import Compositing.Proofs.Transitions
import Compositing.Renderer.Headless

/-!
# The life of a compositor

Between two calls a compositor is active exactly if it shows a scene and holds the selection,
and then nothing keeps it suspended. While it starts, the start is put off to a turn that will
come. Without a scene nothing of it is left. The window manager is told of each change, so what
it was told in the whole run are on and off by turns.

A start that breaks off at a division by zero never returns, so nothing is claimed of what
would come after it. Windows are added as they come from their builders: the copy of a placeholder
can be added where there is no scene, and then stays.
-/

namespace Compositing

@[simp] theorem Suspension.isEmpty_without {s : Suspension} (free : s.isEmpty = true)
    (t : Suspension) : (s.without t).isEmpty = true := by
  simp only [isEmpty, without, Bool.and_eq_true, Bool.not_eq_true'] at free ⊢
  simp [free]

def Alternates (told : List Bool) : Prop := ∀ i b, told[i]? = some b → b = (i % 2 == 0)

theorem Alternates.append {told : List Bool} (h : Alternates told) {b : Bool}
    (next : b = (told.length % 2 == 0)) : Alternates (told ++ [b]) := by
  intro i b' found
  rcases Nat.lt_trichotomy i told.length with before | rfl | after
  · rw [List.getElem?_append_left before] at found
    exact h i b' found
  · have last : b = b' := by simpa using found
    exact last ▸ next
  · have beyond : (told ++ [b])[i]? = none := by
      apply List.getElem?_eq_none
      simp only [List.length_append, List.length_singleton]
      omega
    rw [beyond] at found
    simp at found

/-- What is told next is the opposite of what holds, if the number of values tells what holds. -/
theorem Alternates.next {told : List Bool} (h : Alternates told) {now : Bool}
    (parity : now = (told.length % 2 == 1)) :
    Alternates (told ++ [!now]) ∧ (!now) = ((told ++ [!now]).length % 2 == 1) := by
  constructor
  · refine h.append ?_
    rw [parity, Bool.eq_iff_iff]
    simp only [Bool.not_eq_true', beq_eq_false_iff_ne, beq_iff_eq]
    omega
  · rw [parity, Bool.eq_iff_iff, List.length_append, List.length_singleton]
    simp only [Bool.not_eq_true', beq_eq_false_iff_ne, beq_iff_eq]
    omega

/-- The last value is on exactly if there is an odd number of them. -/
theorem Alternates.getLast? {told : List Bool} (h : Alternates told) :
    told.getLast?.getD false = (told.length % 2 == 1) := by
  rw [List.getLast?_eq_getElem?]
  cases last : told[told.length - 1]? with
  | none =>
    have short := List.getElem?_eq_none_iff.mp last
    have empty : told.length = 0 := by omega
    simp [empty]
  | some b =>
    have some := (List.getElem?_eq_some_iff.mp last).1
    rw [Option.getD_some, h _ b last, Bool.eq_iff_iff, beq_iff_eq, beq_iff_eq]
    omega

namespace Compositor

open WindowStack

variable {ω δ σ : Type}

def takenBy [DisplayServer δ] [Renderer σ] (W : World ω δ σ) (c : Compositor δ σ) :
    List (Step ω) → List Event
  | [] => []
  | .takeEvents :: rest => c.takeEvents.1 ++ takenBy W (c.step W .takeEvents) rest
  | k :: rest => takenBy W (c.step W k) rest

/-- All events of a run: those that were handed out, and those that still wait. -/
def history [DisplayServer δ] [Renderer σ] (W : World ω δ σ) (c : Compositor δ σ)
    (steps : List (Step ω)) : List Event :=
  takenBy W c steps ++ (c.run W steps).events

/-- What holds between two calls, where `past` is what the window manager was told before the
events that wait, and `queue` is the work that is put off. -/
structure Regular (past : List Bool) (queue : List DeferredAction) (c : Compositor δ σ) :
    Prop where
  active : c.phase = .active ↔ c.hasScene = true
  held : c.selection?.isSome = c.hasScene
  free : c.hasScene = true → c.suspended.isEmpty = true
  steady : c.phase ≠ .finishing
  awaited : c.phase = .starting → .setup ∈ queue
  resting : c.hasScene = false → c.Resting
  alternates : Alternates (past ++ toggles c.events)
  parity : c.hasScene = ((past ++ toggles c.events).length % 2 == 1)

/-- Unless a start has broken off, things are regular, and deferred work has its turn. -/
def Lives (past : List Bool) (c : Compositor δ σ) : Prop :=
  c.fault? = none →
    Regular past c.deferred c ∧ (c.deferred ≠ [] → c.timers.isArmed .deferred = true)

variable {past : List Bool} {queue : List DeferredAction} {c c' : Compositor δ σ}

theorem Regular.quiet (h : Regular past queue c) (quiet : Quiet c c')
    {queue' : List DeferredAction} (more : ∀ a ∈ queue, a ∈ queue') : Regular past queue' c' where
  active := by rw [quiet.phase, quiet.scene]; exact h.active
  held := by rw [quiet.selection, quiet.scene]; exact h.held
  free := by rw [quiet.suspended, quiet.scene]; exact h.free
  steady := by rw [quiet.phase]; exact h.steady
  awaited := fun starting => more _ (h.awaited (quiet.phase ▸ starting))
  resting := by
    intro off
    have off : c.hasScene = false := quiet.scene ▸ off
    exact quiet.rest off (h.resting off)
  alternates := by rw [quiet.told]; exact h.alternates
  parity := by rw [quiet.told, quiet.scene]; exact h.parity

theorem Lives.quiet (h : Lives past c) (quiet : Quiet c c') : Lives past c' := by
  intro sound
  obtain ⟨regular, due⟩ := h (quiet.fault ▸ sound)
  refine ⟨regular.quiet quiet fun a member => quiet.queue.subset member, fun waits => ?_⟩
  rcases quiet.due with same | armed
  · exact quiet.turn (due (same ▸ waits))
  · exact armed

/-- Scene and selection have gone in one go, and nothing else of a scene is left. -/
theorem Regular.rest (told : Alternates (past ++ toggles c.events))
    (parity : false = ((past ++ toggles c.events).length % 2 == 1)) (resting : c.Resting)
    (phase : c.phase = .inactive) (scene : c.hasScene = false) (held : c.selection? = none)
    (queue : List DeferredAction) : Regular past queue c where
  active := by simp [phase, scene]
  held := by simp [held, scene]
  free := by simp [scene]
  steady := by simp [phase]
  awaited := by simp [phase]
  resting := fun _ => resting
  alternates := told
  parity := scene.trans parity

variable [DisplayServer δ] [Renderer σ]

/-! Starting and stopping. -/

/-- A start that succeeds claims the selection and tells the window manager. -/
theorem Regular.begun (h : Regular past queue c) (off : c.hasScene = false) {s : Suspension}
    {o : CompositingOptions} {b : BypassState} (free : s.isEmpty = true) {a b' : Compositor δ σ}
    {d : δ} {r : σ} {frame : FrameBudget}
    (acquired : Acquires ({ c.retune s o b with phase := .starting } : Compositor δ σ) a d r)
    (tracked : Aside
      (({ a with frame := frame } : Compositor δ σ).visitWindows trackStep a.windows.ids) b')
    (queue' : List DeferredAction) :
    Regular past queue' (({ b' with phase := .active } : Compositor δ σ).emit (.toggled true)) := by
  obtain ⟨alternates, parity⟩ := h.alternates.next h.parity
  have told : past ++ toggles (b'.events ++ [.toggled true]) =
      past ++ toggles c.events ++ [!c.hasScene] := by
    rw [toggles_append, tracked.told, off, List.append_assoc]
    simp [acquired.shape, retune, visitWindows, toggles]
  have scene : b'.hasScene = true := by
    rw [tracked.scene]
    simp [acquired.shape]
  have held : b'.selection?.isSome = true := by
    rw [tracked.selection]
    simp [acquired.shape, visitWindows]
  have suspended : b'.suspended = s := by
    rw [tracked.suspended]
    simp [acquired.shape, retune, visitWindows]
  refine ⟨by simp [emit, scene], by simp [emit, scene, held], ?_, by simp [emit], by simp [emit],
    by simp [emit, scene], ?_, ?_⟩
  · simp [emit, suspended, free]
  · rw [emit, told]
    exact alternates
  · rw [emit, told]
    exact (scene.trans (by simp [off])).trans parity

/-- However it ends, a start is over. -/
theorem Regular.setup (h : Regular past queue c) (off : c.hasScene = false) {s : Suspension}
    {o : CompositingOptions} {b : BypassState} (sound : (c.retune s o b).setup.fault? = none)
    (queue' : List DeferredAction) : Regular past queue' (c.retune s o b).setup := by
  have still := h.resting off
  have none : c.selection? = none := by simpa [off] using h.held
  have parity : false = ((past ++ toggles c.events).length % 2 == 1) := off ▸ h.parity
  by_cases on : (c.retune s o b).setup.hasScene = true
  · obtain ⟨free, _, a, d, r, frame, b', acquired, arranged, asides⟩ :=
      (c.retune s o b).setup_begins off on sound
    have active := h.begun off free acquired (arranged.trans (Aside.checkBypass b' true)) queue'
    exact active.quiet asides.toQuiet fun _ member => member
  · obtain ⟨d, r, windows, selection, e, held, stack, _⟩ :=
      (c.retune s o b).setup_rests off (by simpa using on)
    rw [e]
    have real : ∀ w ∈ windows.windows, w.isPlaceholder = false := by
      intro w hw
      rcases stack with rfl | rfl
      · exact still.windows w hw
      · exact still.windows w (List.mem_filter.mp hw).1
    have gone : selection = Option.none := by
      rcases held with rfl | rfl
      · rfl
      · exact none
    apply Regular.rest
    · exact h.alternates
    · exact parity
    · exact ⟨still.timers, still.repaints, real⟩
    · rfl
    · exact off
    · exact gone

/-- What stopping needs: the phase, the scene, what was told and what is at rest without a scene
are regular, and so is the selection without a scene. -/
theorem Regular.finish (h : Regular past queue c) (c' : Compositor δ σ) (phase : c'.phase = c.phase)
    (scene : c'.hasScene = c.hasScene) (events : c'.events = c.events)
    (resting : c.hasScene = false → c.Resting → c'.Resting)
    (held : c.hasScene = false → c'.selection? = c.selection?) :
    Regular past queue c'.finish := by
  by_cases on : c'.hasScene = true
  · obtain ⟨alternates, parity⟩ := h.alternates.next h.parity
    rw [← scene, on] at alternates parity
    obtain ⟨d, r, s, e, ⟨t, let_go⟩, _⟩ := c'.finish_scene on
    have gone : ∀ w ∈ s.windows, w.isPlaceholder = false := by
      intro w hw
      rw [let_go] at hw
      simpa using (List.mem_filter.mp hw).2
    have told : past ++ toggles (c'.events ++ [Event.toggled false]) =
        past ++ toggles c.events ++ [false] := by
      rw [events, toggles_append, ← List.append_assoc]
      rfl
    rw [e]
    refine Regular.rest ?_ ?_ ⟨fun id needs => ?_, rfl, gone⟩ rfl rfl rfl queue
    · exact told ▸ alternates
    · exact told ▸ parity
    · by_contra armed
      simp only [Bool.not_eq_false, Timers.isArmed_stop] at armed
      simp [TimerId.ofScene, armed] at needs
  · have off : c'.hasScene = false := by simpa using on
    have before : c.hasScene = false := scene ▸ off
    rw [c'.finish_of_off off]
    exact ⟨by rw [phase, scene]; exact h.active, by rw [held before, scene]; exact h.held,
      by simp [off], by rw [phase]; exact h.steady, by rw [phase]; exact h.awaited,
      fun _ => resting before (h.resting before), by rw [events]; exact h.alternates,
      by rw [events, scene]; exact h.parity⟩

/-- Work that is put off keeps its turn when compositing starts or stops. -/
theorem setup_turn (c : Compositor δ σ) (sound : c.setup.fault? = none)
    (armed : c.timers.isArmed .deferred = true) : c.setup.timers.isArmed .deferred = true := by
  by_cases off : c.hasScene = true
  · rwa [setup_of_scene off]
  · have off : c.hasScene = false := by simpa using off
    by_cases on : c.setup.hasScene = true
    · obtain ⟨_, _, a, d, r, frame, b, acquired, tracked, asides⟩ := c.setup_begins off on sound
      have before : a.timers.isArmed .deferred = true := by rw [acquired.shape]; exact armed
      exact asides.turn ((Aside.checkBypass b true).turn (tracked.turn before))
    · obtain ⟨d, r, s, selection, e, _⟩ := c.setup_rests off (by simpa using on)
      rw [e]
      exact armed

theorem finish_turn (c : Compositor δ σ) (armed : c.timers.isArmed .deferred = true) :
    c.finish.timers.isArmed .deferred = true := by
  by_cases on : c.hasScene = true
  · obtain ⟨d, r, s, e, _⟩ := c.finish_scene on
    rw [e]
    simp [armed]
  · rwa [c.finish_of_off (by simpa using on)]

/-! The moves. -/

theorem Lives.finish (h : Lives past c) (sound : c.fault? = none) (c' : Compositor δ σ)
    (phase : c'.phase = c.phase) (scene : c'.hasScene = c.hasScene) (events : c'.events = c.events)
    (timers : c'.timers = c.timers) (deferred : c'.deferred = c.deferred)
    (resting : c.hasScene = false → c.Resting → c'.Resting)
    (held : c.hasScene = false → c'.selection? = c.selection?) :
    Regular past c'.finish.deferred c'.finish ∧
      (c'.finish.deferred ≠ [] → c'.finish.timers.isArmed .deferred = true) := by
  obtain ⟨regular, due⟩ := h sound
  rw [(finish_frame c').2.2.1, deferred]
  exact ⟨regular.finish c' phase scene events resting held,
    fun waits => c'.finish_turn (timers ▸ due waits)⟩

theorem restart_lives (scene : c.hasScene = true) (h : Lives past c) : Lives past c.restart := by
  intro sound
  have restarted :
      c.restart = ({ c.finish with phase := .starting } : Compositor δ σ).defer .setup := by
    rw [restart, if_pos scene]
  have sound : c.fault? = none := by simpa [restarted] using sound
  obtain ⟨regular, _⟩ :=
    h.finish sound c rfl rfl rfl rfl rfl (fun _ resting => resting) fun _ => rfl
  have off : c.finish.hasScene = false := (finish_frame c).1
  have resting := regular.resting off
  have starting : Regular past (c.finish.deferred ++ [.setup])
      ({ c.finish with phase := .starting } : Compositor δ σ) :=
    ⟨by simp, regular.held, by simp, by simp, by simp,
      fun _ => ⟨resting.timers, resting.repaints, resting.windows⟩, regular.alternates,
      regular.parity⟩
  have put : Aside ({ c.finish with phase := .starting } : Compositor δ σ) c.restart := by
    rw [restarted]
    exact Aside.defer _ _
  refine ⟨starting.quiet put.toQuiet ?_, fun _ => ?_⟩
  · rw [restarted]
    exact fun a member => member
  · rcases put.due with same | armed
    · rw [restarted] at same
      simp [Compositor.defer] at same
    · exact armed

omit [DisplayServer δ] [Renderer σ] in
/-- With a scene, no start is awaited. -/
theorem Regular.with_queue (h : Regular past queue c) (active : c.hasScene = true)
    (queue' : List DeferredAction) : Regular past queue' c :=
  { h with
    awaited := by
      intro starting
      have phase := h.active.mpr active
      simp [starting] at phase }

/-- One action of those that were put off. If the compositor waits for a start, it comes first, or
it is still to come. -/
theorem runAction_regular {a : DeferredAction}
    (h : c.fault? = none → Regular past (a :: queue) c) (sound : (c.runAction a).fault? = none) :
    Regular past queue (c.runAction a) := by
  have setup (s : Suspension) (e : c.runAction a = (c.retune s c.options c.bypass).setup)
      (on : c.hasScene = true → Regular past (a :: queue) (c.retune s c.options c.bypass)) :
      Regular past queue (c.runAction a) := by
    rw [e] at sound ⊢
    by_cases scene : c.hasScene = true
    · rw [setup_of_scene (by exact scene)]
      exact (on scene).with_queue (by exact scene) queue
    · have before := setup_sound (c.retune s c.options c.bypass) sound
      exact (h before).setup (by simpa using scene) sound queue
  cases a with
  | suspend reason =>
    have sound : c.fault? = none := by simpa [runAction, suspend] using sound
    have regular := h sound
    have waits : Regular past queue c :=
      { regular with awaited := fun starting => by simpa using regular.awaited starting }
    exact waits.finish { c with suspended := c.suspended.union reason } rfl rfl rfl
      (fun _ resting => ⟨resting.timers, resting.repaints, resting.windows⟩) fun _ => rfl
  | resume reason =>
    refine setup (c.suspended.without reason) rfl fun scene => ?_
    have regular :=
      h (setup_sound (c.retune (c.suspended.without reason) c.options c.bypass) sound)
    exact { regular with
      free := fun _ => Suspension.isEmpty_without (regular.free scene) reason
      resting := fun off => by simp [retune, scene] at off }
  | setup =>
    refine setup c.suspended rfl fun scene => ?_
    have regular := h (setup_sound (c.retune c.suspended c.options c.bypass) sound)
    exact { regular with resting := fun off => by simp [retune, scene] at off }

/-- By induction on what is still to be done. -/
theorem runActions_regular (actions : List DeferredAction) {c : Compositor δ σ}
    (empty : c.deferred = []) (h : c.fault? = none → Regular past actions c) :
    (actions.foldl runAction c).deferred = [] ∧
      ((actions.foldl runAction c).fault? = none →
        Regular past [] (actions.foldl runAction c)) := by
  induction actions generalizing c with
  | nil => exact ⟨empty, h⟩
  | cons a rest ih =>
    refine ih (c := c.runAction a) ?_ (runAction_regular h)
    cases a <;> simp [runAction, suspend, resume, empty]

/-- On a turn a start that was put off takes place, or is overtaken by another one. -/
theorem runDeferred_lives (h : c.fault? = none → Regular past c.deferred c) :
    Lives past c.runDeferred := by
  intro sound
  have start (sound : c.fault? = none) :
      Regular past c.deferred ({ c with deferred := [] } : Compositor δ σ) := by
    have regular := h sound
    have rest (off : c.hasScene = false) := regular.resting off
    exact { regular with
      resting := fun off => ⟨(rest off).timers, (rest off).repaints, (rest off).windows⟩ }
  have done : c.runDeferred.deferred = [] ∧
      (c.runDeferred.fault? = none → Regular past [] c.runDeferred) :=
    runActions_regular c.deferred (c := { c with deferred := [] }) rfl start
  rw [done.1]
  exact ⟨done.2 sound, fun waits => (waits rfl).elim⟩

theorem Shift.lives (shift : Shift c c') (h : Lives past c) : Lives past c' := by
  intro sound
  cases shift with
  | start s o b off _ =>
    have before : c.fault? = none := setup_sound (c.retune s o b) sound
    obtain ⟨regular, due⟩ := h before
    rw [(setup_frame _).2]
    exact ⟨regular.setup off sound _, fun waits => setup_turn _ sound (due waits)⟩
  | stop s o b noted =>
    rw [(finish_frame _).2.2.2] at sound
    exact h.finish sound (c.retune s o b) rfl rfl rfl rfl rfl
      (fun _ resting => ⟨resting.timers, resting.repaints, resting.windows⟩) fun _ => rfl
  | free reason scene =>
    obtain ⟨regular, due⟩ := h sound
    refine ⟨{ regular with
      free := fun _ => Suspension.isEmpty_without (regular.free scene) reason
      resting := fun off => ?_ }, due⟩
    have off : c.hasScene = false := off
    simp [scene] at off

/-- What a move preserves. -/
theorem Move.lives (move : Move (Occasion.Brings fun w => w.isPlaceholder = false) c c')
    (h : Lives past c) : Lives past c' := by
  cases move with
  | aside quiet => exact h.quiet quiet.toQuiet
  | shift shift => exact shift.lives h
  | lose _ held =>
    intro sound
    rw [(finish_frame _).2.2.2] at sound
    refine h.finish sound { c with selection? := none } rfl rfl rfl rfl rfl
      (fun _ resting => ⟨resting.timers, resting.repaints, resting.windows⟩) fun off => ?_
    rw [(h sound).1.held, off] at held
    simp at held
  | restart scene => exact restart_lives scene h
  | switch _ asides =>
    have noted (o : CompositingOptions) :
        Quiet c (c.retune c.suspended o c.bypass.noteOptionChanged) :=
      { Quiet.refl c with
        rest := fun _ resting => ⟨resting.timers, resting.repaints, resting.windows⟩ }
    exact h.quiet (((noted _).trans asides.toQuiet).trans (Aside.checkBypass _ true).toQuiet)
  | pass popped =>
    exact h.quiet ((Quiet.goesOff popped (by simp)).trans (Quiet.bypassPass _))
  | turn popped =>
    apply runDeferred_lives
    intro sound
    rcases popped with rfl | ⟨target, t, popped, rfl⟩
    · exact (h sound).1
    · obtain ⟨regular, _⟩ := h sound
      refine { regular with resting := fun off => ?_ }
      have resting := regular.resting off
      refine ⟨fun id needs => ?_, resting.repaints, resting.windows⟩
      by_contra armed
      have before : c.timers.isArmed id = true :=
        Timers.isArmed_of_popDue popped (by simpa using armed)
      simp [resting.timers id needs] at before
  | enter real _ =>
    exact h.quiet ((Quiet.entered _ real).trans
      ((Aside.checkBypass _ true).trans (Aside.scheduleRepaint _)).toQuiet)
  | leave keepPlaceholder _ _ _ =>
    exact h.quiet ((Quiet.left _ _ keepPlaceholder).trans
      ((Aside.addRepaint _ _).trans (Aside.checkBypass _ true)).toQuiet)
  | reshape id geometry => exact h.quiet (Quiet.setGeometry c id geometry)
  | hear _ =>
    exact h.quiet { Quiet.refl c with
      rest := fun _ resting => ⟨resting.timers, resting.repaints, resting.windows⟩ }

/-- A run that adds no placeholder. What was handed out on the way joins what was told before. -/
theorem run_lives (W : World ω δ σ) {steps : List (Step ω)}
    (real : ∀ k ∈ steps, k.Adds fun w => w.isPlaceholder = false) (h : Lives past c) :
    Lives (past ++ toggles (takenBy W c steps)) (c.run W steps) := by
  induction steps generalizing past c with
  | nil => simpa [takenBy, run, toggles] using h
  | cons k rest ih =>
    have later : ∀ k' ∈ rest, k'.Adds fun w => w.isPlaceholder = false :=
      fun k' member => real k' (List.mem_cons_of_mem k member)
    have own (other : takenBy W c (k :: rest) = takenBy W (c.step W k) rest)
        (own : k.Own (Occasion.Brings fun w => w.isPlaceholder = false)) :
        Lives (past ++ toggles (takenBy W c (k :: rest))) (c.run W (k :: rest)) := by
      rw [other]
      exact ih later ((step_moves W c own).preserve Move.lives h)
    cases k with
    | takeEvents =>
      have taken : Lives (past ++ toggles c.takeEvents.1) c.takeEvents.2 := by
        intro sound
        obtain ⟨regular, due⟩ := h sound
        refine ⟨{ regular with
          resting := fun off => ?_
          alternates := by simpa [takeEvents, toggles] using regular.alternates
          parity := by simpa [takeEvents, toggles] using regular.parity }, due⟩
        have resting := regular.resting off
        exact ⟨resting.timers, resting.repaints, resting.windows⟩
      rw [takenBy, toggles_append, ← List.append_assoc]
      exact ih later taken
    | outside o =>
      refine ih later (h.quiet ?_)
      exact { Quiet.refl c with
        rest := fun _ resting => ⟨resting.timers, resting.repaints, resting.windows⟩ }
    | addWindow w => exact own rfl (real _ List.mem_cons_self)
    | handleDisplayEvent e => cases e <;> exact own rfl trivial
    | _ => exact own rfl trivial

omit [DisplayServer δ] [Renderer σ] in
theorem new_lives (d : δ) (r : σ) (options : CompositingOptions) :
    Lives [] (Compositor.new d r options) := by
  intro _
  refine ⟨Regular.rest ?_ rfl ⟨?_, rfl, ?_⟩ rfl rfl rfl _, by simp [Compositor.new]⟩
  · simp [Alternates, Compositor.new, toggles]
  · intro id _
    rfl
  · simp [Compositor.new, WindowStack.empty]

/-- In every reachable compositor: it is active exactly if there is a scene, and there is a scene
exactly if the selection is held; a scene leaves no reason to be suspended; no stop and no start
is left half done, except that a start may be put off, and what is put off has its turn; without
a scene its timers are not armed, nothing is to be painted and there is no placeholder; and the
window manager was told on and off by turns in the whole run, the last time what holds now. -/
theorem lifecycle_regular (W : World ω δ σ) (d : δ) (r : σ) (options : CompositingOptions)
    {steps : List (Step ω)} (fresh : ∀ k ∈ steps, k.AddsFresh) {c : Compositor δ σ}
    (reached : c = (Compositor.new d r options).run W steps)
    (sound : c.fault? = none) :
    (c.phase = .active ↔ c.hasScene = true) ∧ (c.hasScene = true ↔ c.selection?.isSome = true) ∧
      (c.hasScene = true → c.suspended.isEmpty = true) ∧ c.phase ≠ .finishing ∧
      (c.phase = .starting → .setup ∈ c.deferred) ∧
      (c.deferred ≠ [] → c.timers.isArmed .deferred = true) ∧
      (c.hasScene = false →
        c.timers.isArmed .repaint = false ∧ c.timers.isArmed .bypassCheck = false ∧
          c.timers.isArmed .bypassRetry = false ∧ c.repaints.isEmpty = true ∧
          ∀ w ∈ c.windows.windows, w.isPlaceholder = false) ∧
      Alternates (toggles ((Compositor.new d r options).history W steps)) ∧
      c.hasScene =
        (toggles ((Compositor.new d r options).history W steps)).getLast?.getD false := by
  have lives := run_lives W (fun k member => (fresh k member).real) (new_lives d r options)
  rw [← reached] at lives
  obtain ⟨regular, due⟩ := lives sound
  have told : [] ++ toggles (takenBy W (Compositor.new d r options) steps) ++ toggles c.events =
      toggles ((Compositor.new d r options).history W steps) := by
    rw [history, toggles_append, ← reached]
    rfl
  have alternates := regular.alternates
  have parity := regular.parity
  rw [told] at alternates parity
  refine ⟨regular.active, by rw [regular.held], regular.free, regular.steady, regular.awaited, due,
    fun off => ?_, alternates, parity.trans alternates.getLast?.symm⟩
  have resting := regular.resting off
  exact ⟨resting.timers _ (by simp [TimerId.ofScene]), resting.timers _ (by simp [TimerId.ofScene]),
    resting.timers _ (by simp [TimerId.ofScene]), resting.repaints, resting.windows⟩

def restartingSteps : List (Step Empty) :=
  [.addWindow (.client ⟨1⟩ (.ofCoords 0 0 10 10) ⟨true, false, false⟩), .setup, .takeEvents,
    .restart]

def restarting : Compositor HeadlessDisplay HeadlessRenderer :=
  (Compositor.new (.new Extension.all (.single 1920 1080)) (.new ⟨1⟩ fun _ => 0)
    CompositingOptions.standard).run .closed restartingSteps

/-- The start waits for its turn, and the window manager was told on and off. -/
theorem restarting_regular :
    restarting.phase = .starting ∧ .setup ∈ restarting.deferred ∧
      restarting.timers.isArmed .deferred = true ∧
      toggles ((Compositor.new (HeadlessDisplay.new Extension.all (.single 1920 1080))
        (HeadlessRenderer.new ⟨1⟩ fun _ => 0) CompositingOptions.standard).history .closed
          restartingSteps) = [true, false] := by
  have fresh : ∀ k ∈ restartingSteps, k.AddsFresh := by
    simp [restartingSteps, Step.AddsFresh]
  have starting : restarting.phase = .starting := rfl
  obtain ⟨_, _, _, _, awaited, due, _⟩ := lifecycle_regular .closed
    (HeadlessDisplay.new Extension.all (.single 1920 1080)) (HeadlessRenderer.new ⟨1⟩ fun _ => 0)
    CompositingOptions.standard fresh (c := restarting) rfl rfl
  exact ⟨starting, awaited starting, due (List.ne_nil_of_mem (awaited starting)), rfl⟩

def departedSteps : List (Step Empty) :=
  [.setup, .addWindow (.client ⟨7⟩ (.ofCoords 0 0 10 10) ⟨false, false, false⟩),
    .removeWindow ⟨7⟩ true]

def departed : Compositor HeadlessDisplay HeadlessRenderer :=
  (Compositor.new (.new Extension.all (.single 1920 1080)) (.new ⟨1⟩ fun _ => 0)
    CompositingOptions.standard).run .closed departedSteps

/-- The scene goes, and with it the placeholder. A copy of it that is added then is in the stack
without a scene. -/
theorem departed_copy_stays :
    ∃ w, departed.windows.get? ⟨7⟩ = some w ∧
      ∃ c, c = departed.run .closed [.finish, .addWindow w] ∧
        c.fault? = none ∧ c.hasScene = false ∧
        ∃ v ∈ c.windows.windows, v.isPlaceholder = true :=
  ⟨_, rfl, _, rfl, rfl, rfl, _, List.mem_singleton_self _, rfl⟩

end Compositor

end Compositing
