import Compositing.Proofs.Clock
import Compositing.Proofs.Lifecycle
import Mathlib.Data.List.Induction

/-!
# Suspension depends on the last word about each reason

Calls to suspend and to resume name reasons. Where nothing keeps compositing from starting, the
reasons that are held are settled by the last call about each of them, and compositing is active
exactly if none is held. So neither the order of calls about different reasons matters, nor how
often a call is made. A call that names no reason is left out: it would stop compositing and leave
no reason behind.
-/

namespace Compositing

inductive Reason where
  | user
  | rule
  | script

namespace Suspension

def has (s : Suspension) : Reason → Bool
  | .user => s.user
  | .rule => s.rule
  | .script => s.script

@[simp] theorem has_union (s t : Suspension) (reason : Reason) :
    (s.union t).has reason = (s.has reason || t.has reason) := by
  cases reason <;> rfl

@[simp] theorem has_without (s t : Suspension) (reason : Reason) :
    (s.without t).has reason = (s.has reason && !t.has reason) := by
  cases reason <;> rfl

theorem ext_has {s t : Suspension} (same : ∀ reason, s.has reason = t.has reason) : s = t := by
  obtain ⟨user, rule, script⟩ := s
  have first := same .user
  have second := same .rule
  have third := same .script
  simp only [has] at first second third
  rw [first, second, third]

/-- A union with something is something. -/
theorem isEmpty_union {t : Suspension} (s : Suspension) (some : t.isEmpty = false) :
    (s.union t).isEmpty = false := by
  by_contra none
  simp only [isEmpty, union, Bool.not_eq_false, Bool.and_eq_true, Bool.not_eq_true',
    Bool.or_eq_false_iff] at none
  simp [isEmpty, none] at some

end Suspension

/-- A call about reasons to be suspended. A script's switch is one about the script's reason. -/
inductive Word where
  | suspend (reason : Suspension)
  | resume (reason : Suspension)
  | setCompositing (active : Bool)

namespace Word

def step {ω : Type} : Word → Step ω
  | suspend reason => .suspend reason
  | resume reason => .resume reason
  | setCompositing active => .setCompositing active

def reason : Word → Suspension
  | suspend reason => reason
  | resume reason => reason
  | setCompositing _ => Suspension.byScript

def holds : Word → Bool
  | suspend _ => true
  | resume _ => false
  | setCompositing active => !active

end Word

def lastWord? (words : List Word) (reason : Reason) : Option Word :=
  (words.filter (·.reason.has reason)).getLast?

theorem lastWord?_append (words : List Word) (word : Word) (reason : Reason) :
    lastWord? (words ++ [word]) reason =
      if word.reason.has reason then some word else lastWord? words reason := by
  rw [lastWord?, List.filter_append]
  by_cases named : word.reason.has reason = true
  · simp [named]
  · simp [named, lastWord?]

namespace Compositor

variable {ω δ σ : Type} [DisplayServer δ] [Renderer σ]

/-! What a call does to the reasons, and that none touches the options. -/

theorem step_word_suspended (W : World ω δ σ) (c : Compositor δ σ) (word : Word) :
    (c.step W word.step).suspended =
      if word.holds then c.suspended.union word.reason else c.suspended.without word.reason := by
  cases word with
  | suspend reason => exact (finish_frame _).2.1
  | resume reason => exact (setup_frame _).1
  | setCompositing active =>
    cases active with
    | true => exact (setup_frame _).1
    | false => exact (finish_frame _).2.1

/-- The calls settle each reason by the last word about it. -/
theorem run_words_suspended (W : World ω δ σ) (c : Compositor δ σ) (words : List Word)
    (reason : Reason) :
    (c.run W (words.map Word.step)).suspended.has reason =
      ((lastWord? words reason).map Word.holds).getD (c.suspended.has reason) := by
  induction words using List.reverseRecOn with
  | nil => rfl
  | append_singleton words word ih =>
    have last : c.run W ((words ++ [word]).map Word.step) =
        (c.run W (words.map Word.step)).step W word.step := by
      rw [List.map_append, run_append]
      rfl
    rw [last, step_word_suspended, lastWord?_append]
    by_cases named : word.reason.has reason = true
    · cases held : word.holds <;> simp [named, held]
    · cases held : word.holds <;> simp [named, ih]

@[simp] theorem performCompositing_options (c : Compositor δ σ) :
    c.performCompositing.options = c.options := by
  rw [performCompositing]
  split
  · dsimp only
    split
    · rfl
    · simp only [paint, scheduleRepaint]
      split <;> rfl
  · rfl

@[simp] theorem enable_options (c : Compositor δ σ) (enumerate : List WindowId → List WindowId) :
    (c.enable enumerate).options = c.options := by
  have scheduled (c : Compositor δ σ) : c.scheduleRepaint.options = c.options := by
    rw [scheduleRepaint]
    split <;> rfl
  have painted (c : Compositor δ σ) : c.addRepaintFull.options = c.options := by
    rw [addRepaintFull]
    split
    · exact scheduled _
    · rfl
  have checked (c : Compositor δ σ) : (c.checkBypass true).options = c.options := by
    rw [checkBypass]
    split <;> rfl
  simp [enable, emit, checked, visitWindows, painted, scheduled]

@[simp] theorem setup_options (c : Compositor δ σ) : c.setup.options = c.options := by
  obtain ⟨d, r, scene, selection, s, shape, _⟩ :=
    ({ c with phase := .starting } : Compositor δ σ).acquire_shape
  rcases c.setup_cases with ⟨_, e⟩ | ⟨_, e⟩ | ⟨_, e⟩ | ⟨_, _, _, e⟩
  · rw [e]
  · rw [e]
  · obtain ⟨_, _, _, undone, _⟩ := c.setup_undone
    rw [e, undone]
  · rcases ({ c with phase := .starting } : Compositor δ σ).acquire.2.activate_cases id with
      ⟨fault, e'⟩ | ⟨frame, e'⟩
    · rw [e, e', shape]
    · rw [e, e', performCompositing_options, enable_options, shape]

@[simp] theorem finish_options (c : Compositor δ σ) : c.finish.options = c.options := by
  by_cases scene : c.hasScene = true
  · obtain ⟨d, r, s, e, _⟩ := c.finish_scene scene
    rw [e]
  · rw [c.finish_of_off (by simpa using scene)]

/-! Starting where nothing is missing. -/

variable {c : Compositor HeadlessDisplay HeadlessRenderer}

/-- Nothing keeps compositing from starting, and no start has broken off. -/
structure Able (c : Compositor HeadlessDisplay HeadlessRenderer) : Prop where
  offers : ∀ e, e ∈ c.display.extensions
  granted : c.display.refusesSelection = false
  screen : c.display.layout.full.isEmpty = false
  backend : c.options.backend ≠ .none
  sound : c.fault? = none

theorem Able.setup (h : Able c) : Able c.setup := by
  constructor
  · exact fun e => (setup_steady HeadlessDisplay.fixed_offers.toSteady c).symm ▸ h.offers e
  · exact (setup_steady HeadlessDisplay.fixed_refusal.toSteady c).trans h.granted
  · rw [setup_steady HeadlessDisplay.fixed_layout.toSteady c]
    exact h.screen
  · rw [setup_options]
    exact h.backend
  · exact setup_fault.trans h.sound

theorem Able.finish (h : Able c) : Able c.finish := by
  constructor
  · exact fun e => (finish_fixed HeadlessDisplay.fixed_offers c).symm ▸ h.offers e
  · exact (finish_fixed HeadlessDisplay.fixed_refusal c).trans h.granted
  · rw [finish_fixed HeadlessDisplay.fixed_layout c]
    exact h.screen
  · rw [finish_options]
    exact h.backend
  · exact c.finish_frame.2.2.2.trans h.sound

theorem Able.word (h : Able c) (W : World ω HeadlessDisplay HeadlessRenderer) (word : Word) :
    Able (c.step W word.step) := by
  have held (s : Suspension) : Able { c with suspended := s } :=
    ⟨h.offers, h.granted, h.screen, h.backend, h.sound⟩
  cases word with
  | suspend reason => exact (held _).finish
  | resume reason => exact (held _).setup
  | setCompositing active =>
    cases active with
    | true => exact (held _).setup
    | false => exact (held _).finish

theorem Able.possible (h : Able c) : c.isPossible = true := by
  have all (e : Extension) : DisplayServer.hasExtension c.display e = true :=
    List.contains_iff_mem.mpr (h.offers e)
  simp [isPossible, missingCapability?, Compositing.missingCapability?, all]

/-- The selection is granted, the renderer starts, and the windows can be redirected. -/
theorem Able.acquires (h : Able c) : c.acquire.1 = .ok () := by
  obtain ⟨offers, granted, screen, backend, _⟩ := h
  have composite (d : HeadlessDisplay) (same : d.extensions = c.display.extensions) :
      d.hasExtension .composite = true :=
    List.contains_iff_mem.mpr (same ▸ offers .composite)
  have creates : HeadlessScene.create c.renderer.overlay c.options.backend c.display.layout =
      .ok (.new c.options.backend c.renderer.overlay c.display.layout.full) := by
    simp [HeadlessScene.create, backend, screen]
  simp [acquire, DisplayServer.claimSelection, HeadlessDisplay.claimSelection, granted,
    Renderer.start, HeadlessRenderer.start, DisplayServer.layout, creates,
    DisplayServer.redirectSubwindows, HeadlessDisplay.redirectSubwindows, composite]

/-- A compositor with no reason to be suspended starts. -/
theorem Able.starts (h : Able c) (free : c.suspended.isEmpty = true) :
    c.setup.hasScene = true := by
  by_cases scene : c.hasScene = true
  · rwa [setup_of_scene scene]
  · have acquired : ({ c with phase := .starting } :
        Compositor HeadlessDisplay HeadlessRenderer).acquire.1 = .ok () :=
      Able.acquires ⟨h.offers, h.granted, h.screen, h.backend, h.sound⟩
    obtain ⟨d, r, acquires⟩ := acquire_ok _ acquired
    have started : c.setup = ({ c with phase := .starting } :
        Compositor HeadlessDisplay HeadlessRenderer).acquire.2.activate id := by
      rw [Compositor.setup, setupBy, if_neg scene, if_neg (by simp [free, h.possible])]
      split
      · rename_i e _ failed
        simp [failed] at acquired
      · rename_i done
        rw [done]
    rw [started, (activate_frame _ id).1, acquires.shape]

/-- A call that names a reason leaves a scene unless a reason is held afterwards. -/
theorem Able.word_scene (h : Able c) (W : World ω HeadlessDisplay HeadlessRenderer) {word : Word}
    (named : word.reason.isEmpty = false) (free : (c.step W word.step).suspended.isEmpty = true) :
    (c.step W word.step).hasScene = true := by
  have resumed (s : Suspension)
      (free : (Compositor.setup { c with suspended := s }).suspended.isEmpty = true) :
      (Compositor.setup { c with suspended := s }).hasScene = true := by
    rw [(setup_frame _).1] at free
    exact Able.starts ⟨h.offers, h.granted, h.screen, h.backend, h.sound⟩ free
  have held := step_word_suspended W c word
  cases word with
  | suspend reason =>
    rw [held] at free
    simp [Word.holds, Suspension.isEmpty_union _ named] at free
  | resume reason => exact resumed _ free
  | setCompositing active =>
    cases active with
    | true => exact resumed _ free
    | false =>
      rw [held] at free
      simp [Word.holds, Suspension.isEmpty_union _ named] at free

/-- What holds between the calls. -/
theorem Able.words (h : Able c) (W : World ω HeadlessDisplay HeadlessRenderer)
    (words : List Word) : Able (c.run W (words.map Word.step)) := by
  have keeps (c : Compositor HeadlessDisplay HeadlessRenderer)
      (k : Step ω) (spoken : ∃ word : Word, k = word.step) (able : Able c) :
      Able (c.step W k) := by
    obtain ⟨word, rfl⟩ := spoken
    exact able.word W word
  refine run_preserves W keeps h fun k hk => ?_
  obtain ⟨word, _, rfl⟩ := List.mem_map.mp hk
  exact ⟨word, rfl⟩

def afterWords (W : World ω HeadlessDisplay HeadlessRenderer) (d : HeadlessDisplay)
    (r : HeadlessRenderer) (options : CompositingOptions) (words : List Word) :
    Compositor HeadlessDisplay HeadlessRenderer :=
  (Compositor.new d r options).run W (words.map Word.step)

section Settled

variable {d : HeadlessDisplay} {r : HeadlessRenderer} {options : CompositingOptions}
  {words : List Word}

/-- After calls that name reasons, there is a scene exactly if no reason is held. -/
theorem afterWords_active (W : World ω HeadlessDisplay HeadlessRenderer)
    (able : Able (Compositor.new d r options)) (named : ∀ w ∈ words, w.reason.isEmpty = false)
    (made : words ≠ []) :
    (afterWords W d r options words).isActive = true ↔
      (afterWords W d r options words).suspended.isEmpty = true := by
  have sound : (afterWords W d r options words).fault? = none := (able.words W words).sound
  have real : ∀ k ∈ words.map (Word.step (ω := ω)), k.Adds fun w => w.isPlaceholder = false := by
    intro k spoken
    obtain ⟨word, _, rfl⟩ := List.mem_map.mp spoken
    cases word <;> trivial
  obtain ⟨regular, _⟩ := run_lives W real (new_lives d r options) sound
  have steady : (afterWords W d r options words).phase ≠ .finishing := regular.steady
  rw [isActive, Bool.and_eq_true, bne_iff_ne]
  constructor
  · rintro ⟨scene, _⟩
    exact regular.free scene
  · intro free
    refine ⟨?_, steady⟩
    obtain ⟨earlier, last, split⟩ := (List.eq_nil_or_concat words).resolve_left made
    have final : afterWords W d r options words =
        (afterWords W d r options earlier).step W last.step := by
      rw [afterWords, split, List.concat_eq_append, List.map_append, run_append]
      rfl
    rw [final] at free ⊢
    exact (able.words W earlier).word_scene W (named last (by simp [split])) free

/-- Where nothing keeps compositing from starting, calls that name reasons never break off.
Compositing is active after each of them exactly if no reason is held, a reason is held exactly if
the last word about it was to suspend, or none was said and it was held from the start, and calls
that agree in the last word about each reason lead to the same. -/
theorem last_word_decides (W : World ω HeadlessDisplay HeadlessRenderer)
    (offers : ∀ e, d.hasExtension e = true) (granted : d.refusesSelection = false)
    (screen : d.layout.full.isEmpty = false) (backend : options.backend ≠ .none)
    (named : ∀ w ∈ words, w.reason.isEmpty = false) (made : words ≠ []) :
    (afterWords W d r options words).fault? = none ∧
      ((afterWords W d r options words).isActive = true ↔
        (afterWords W d r options words).suspended.isEmpty = true) ∧
      (∀ reason, (afterWords W d r options words).suspended.has reason = true ↔
        (∃ w, lastWord? words reason = some w ∧ w.holds = true) ∨
          (lastWord? words reason = none ∧ options.initialSuspension.has reason = true)) ∧
      ∀ words', (∀ w ∈ words', w.reason.isEmpty = false) → words' ≠ [] →
        (∀ reason, (lastWord? words' reason).map Word.holds =
          (lastWord? words reason).map Word.holds) →
        (afterWords W d r options words').suspended = (afterWords W d r options words).suspended ∧
          (afterWords W d r options words').isActive =
            (afterWords W d r options words).isActive := by
  have able : Able (Compositor.new d r options) :=
    ⟨fun e => List.contains_iff_mem.mp (offers e), granted, screen, backend, rfl⟩
  have settled (words : List Word) (reason : Reason) :
      (afterWords W d r options words).suspended.has reason =
        ((lastWord? words reason).map Word.holds).getD (options.initialSuspension.has reason) :=
    run_words_suspended W (Compositor.new d r options) words reason
  refine ⟨(able.words W words).sound, afterWords_active W able named made, ?_, ?_⟩
  · intro reason
    rw [settled]
    cases lastWord? words reason <;> simp
  · intro words' named' made' alike
    have same : (afterWords W d r options words').suspended =
        (afterWords W d r options words).suspended := by
      apply Suspension.ext_has
      intro reason
      rw [settled, settled, alike]
    refine ⟨same, ?_⟩
    rw [Bool.eq_iff_iff, afterWords_active W able named' made', same,
      afterWords_active W able named made]

end Settled

def wordsOfThree : List Word :=
  [.suspend ⟨true, true, false⟩, .setCompositing false, .resume ⟨true, false, true⟩]

/-- The same last words, in another order and one of them twice. -/
def wordsRegrouped : List Word :=
  [.setCompositing true, .suspend ⟨true, true, false⟩, .suspend Suspension.byRule,
    .resume Suspension.byUser, .setCompositing true]

def spokenTo (words : List Word) : Compositor HeadlessDisplay HeadlessRenderer :=
  afterWords .closed (.new Extension.all (.single 1920 1080)) (.new ⟨1⟩ fun _ => 0)
    CompositingOptions.standard words

theorem rule_keeps_suspended :
    (spokenTo wordsOfThree).suspended.has .rule = true ∧
      (spokenTo wordsOfThree).isActive = false ∧ (spokenTo wordsRegrouped).isActive = false := by
  have offers : ∀ e, (HeadlessDisplay.new Extension.all (.single 1920 1080)).hasExtension e =
      true := by
    intro e
    cases e <;> rfl
  have backend : CompositingOptions.standard.backend ≠ .none := by decide
  have named : ∀ w ∈ wordsOfThree, w.reason.isEmpty = false := by decide
  have made : wordsOfThree ≠ [] := by decide
  obtain ⟨_, active, held, agree⟩ :=
    last_word_decides (d := .new Extension.all (.single 1920 1080)) (r := .new ⟨1⟩ fun _ => 0)
      .closed offers rfl rfl backend named made
  have rule := (held .rule).mpr (Or.inl ⟨.suspend ⟨true, true, false⟩, rfl, rfl⟩)
  have off : (spokenTo wordsOfThree).isActive = false := by
    apply Bool.eq_false_iff.mpr
    intro on
    have free := active.mp on
    simp only [Suspension.has] at rule
    simp [Suspension.isEmpty, rule] at free
  have same := agree wordsRegrouped (by decide) (by decide) fun reason => by cases reason <;> rfl
  exact ⟨rule, off, same.2.trans off⟩

end Compositor

end Compositing
