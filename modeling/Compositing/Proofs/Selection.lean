import Compositing.Proofs.Audit
import Compositing.Proofs.Clock
import Mathlib.Tactic.IntervalCases

/-!
# Who owns the selection

With a scene the compositor remembers the selection that it has claimed, and on the server in
memory nobody else ever owns it. It may own it no longer while a notice of the loss waits; once
none waits, a scene means that it does. Without a scene the server may still name the compositor
as the owner: a notice that was sent before the selection was claimed again makes the compositor
forget the name without giving it back. The owner follows the scene in all states of a run exactly
if no such stale notice is handled.
-/

namespace Compositing

namespace HeadlessDisplay

theorem lasting_owner : DisplayServer.Lasting fun d : HeadlessDisplay => d.selectionOwner? :=
  lasting.map (·.2.1)

theorem unswitched_owner :
    DisplayServer.Unswitched fun d : HeadlessDisplay => d.selectionOwner? :=
  unswitched.map (·.2.1)

theorem claimSelection_cases (s : String) (d : HeadlessDisplay) :
    (∃ e d', DisplayServer.claimSelection s d = (.error e, d') ∧
        d'.selectionOwner? = d.selectionOwner?) ∨
      ∃ d', DisplayServer.claimSelection s d = (.ok (), d') ∧ d'.selectionOwner? = some s := by
  dsimp only [DisplayServer.claimSelection, claimSelection]
  split
  · exact Or.inl ⟨_, _, rfl, rfl⟩
  · exact Or.inr ⟨_, rfl, rfl⟩

theorem redirectSubwindows_owner (d : HeadlessDisplay) :
    (DisplayServer.redirectSubwindows d).2.selectionOwner? = d.selectionOwner? := by
  dsimp only [DisplayServer.redirectSubwindows, redirectSubwindows]
  split <;> rfl

theorem releaseSelection_owner (held : Option String) (d : HeadlessDisplay) :
    (held.elim d fun s => DisplayServer.releaseSelection s d).selectionOwner? =
      if held = d.selectionOwner? then none else d.selectionOwner? := by
  cases held with
  | none =>
    by_cases free : d.selectionOwner? = none
    · simp [free]
    · simp [Ne.symm free]
  | some s =>
    dsimp only [Option.elim_some, DisplayServer.releaseSelection, releaseSelection]
    by_cases own : d.selectionOwner? = some s
    · simp [own]
    · rw [if_neg (by simpa using own), if_neg (Ne.symm own)]

end HeadlessDisplay

/-- What others do leaves the owner and the notices of a loss alone, or takes the selection from
its owner, who is told. -/
theorem DisplayChange.apply_owner (change : DisplayChange) (d : HeadlessDisplay) :
    ((change.apply d).selectionOwner? = d.selectionOwner? ∧
        (.selectionCleared ∈ (change.apply d).events ↔ .selectionCleared ∈ d.events)) ∨
      ((change.apply d).selectionOwner? = none ∧
        .selectionCleared ∈ (change.apply d).events) := by
  cases change with
  | reportDamage w rects =>
    left
    dsimp only [apply, HeadlessDisplay.reportDamage]
    split
    · exact ⟨rfl, Iff.rfl⟩
    · refine ⟨rfl, ?_⟩
      dsimp only
      split <;> simp
  | stealSelection =>
    dsimp only [apply, HeadlessDisplay.stealSelection]
    split
    · exact Or.inl ⟨rfl, Iff.rfl⟩
    · exact Or.inr ⟨rfl, by simp⟩
  | setRootProperty a =>
    left
    dsimp only [apply, HeadlessDisplay.setRootProperty]
    split <;> exact ⟨rfl, Iff.rfl⟩
  | refuseSelection refuses => exact Or.inl ⟨rfl, Iff.rfl⟩
  | setRefreshRate rate? => exact Or.inl ⟨rfl, Iff.rfl⟩

namespace Compositor

variable {ω σ : Type} [Renderer σ] {ok : Occasion → Prop} {lost kept loose : Prop}
  {c c' : Compositor HeadlessDisplay σ}

/-- The selection of the only screen there is on a server in memory. -/
def ownName : String := selectionName 0

def Remembers (c : Compositor HeadlessDisplay σ) : Prop :=
  c.selection? = if c.hasScene then some ownName else none

/-- Nobody but the compositor owns the selection. With a scene it is lost only as `lost` says, and
without one it is kept only as `kept` says. -/
structure Owns (lost kept : Prop) (c : Compositor HeadlessDisplay σ) : Prop where
  remembers : c.Remembers
  nobodyElse : c.display.selectionOwner? = none ∨ c.display.selectionOwner? = some ownName
  lost : c.hasScene = true → c.display.selectionOwner? = none → lost
  kept : c.hasScene = false → c.display.selectionOwner? = some ownName → kept

/-- As long as no notice of a loss waits, the owner follows the scene. -/
def Follows (c : Compositor HeadlessDisplay σ) : Prop :=
  .selectionCleared ∉ c.display.events →
    c.display.selectionOwner? = if c.hasScene then some ownName else none

/-- A notice of a loss is handled while the compositor owns the selection: all that wait, or one
that the server did not send while none waits. -/
def Stale (c : Compositor HeadlessDisplay σ) (k : Step ω) : Prop :=
  c.display.selectionOwner? = some ownName ∧
    ((k = .dispatchDisplayEvents ∧ .selectionCleared ∈ c.display.events) ∨
      (k = .handleDisplayEvent .selectionCleared ∧ c.hasScene = true ∧
        .selectionCleared ∉ c.display.events))

def tenure (c : Compositor HeadlessDisplay σ) : Bool × Option String × Option String :=
  c.standing fun d => d.selectionOwner?

omit [Renderer σ] in
theorem tenure_eq_iff {scene : Bool} {selection owner : Option String} :
    c.tenure = (scene, selection, owner) ↔ c.hasScene = scene ∧ c.selection? = selection ∧
      c.display.selectionOwner? = owner := by
  simp [tenure, standing]

omit [Renderer σ] in
theorem Remembers.own (h : c.Remembers) (scene : c.hasScene = true) :
    c.selection? = some ownName := by
  rwa [Remembers, scene] at h

omit [Renderer σ] in
theorem Remembers.nothing (h : c.Remembers) (off : c.hasScene = false) : c.selection? = none := by
  rwa [Remembers, off] at h

omit [Renderer σ] in
theorem Remembers.of_nothing (off : c.hasScene = false) (nothing : c.selection? = none) :
    c.Remembers := by
  rw [Remembers, off, nothing]
  rfl

omit [Renderer σ] in
theorem Owns.of_tenure (h : Owns lost kept c) (same : c'.tenure = c.tenure) :
    Owns lost kept c' := by
  obtain ⟨scene, selection, owner⟩ := tenure_eq_iff.mp same
  constructor
  · rw [Remembers, scene, selection]
    exact h.remembers
  · rw [owner]
    exact h.nobodyElse
  · rw [scene, owner]
    exact h.lost
  · rw [scene, owner]
    exact h.kept

omit [Renderer σ] in
theorem tenure_of_standing (same : c'.standing id = c.standing id) : c'.tenure = c.tenure :=
  congrArg (fun t : Bool × Option String × HeadlessDisplay =>
    (t.1, t.2.1, t.2.2.selectionOwner?)) same

omit [Renderer σ] in
theorem Owns.of_free (free : c.tenure = (false, none, none)) : Owns lost kept c := by
  obtain ⟨off, nothing, owner⟩ := tenure_eq_iff.mp free
  exact ⟨Remembers.of_nothing off nothing, Or.inl owner, by simp [off], by simp [owner]⟩

omit [Renderer σ] in
theorem Owns.of_held (held : c.tenure = (true, some ownName, some ownName)) :
    Owns lost kept c := by
  obtain ⟨scene, selection, owner⟩ := tenure_eq_iff.mp held
  refine ⟨?_, Or.inr owner, by simp [owner], by simp [scene]⟩
  rw [Remembers, selection, scene]
  rfl

/-! Starting and stopping. -/

/-- An attempt to acquire what is needed leaves the selection alone, or claims it. -/
theorem acquire_tenure (c : Compositor HeadlessDisplay σ) :
    (c.acquire.1 ≠ .ok () ∧ c.acquire.2.tenure = c.tenure) ∨
      (c.acquire.2.selection? = some ownName ∧
        c.acquire.2.display.selectionOwner? = some ownName) := by
  rw [acquire]
  dsimp only
  rcases HeadlessDisplay.claimSelection_cases
    (selectionName (DisplayServer.screenNumber c.display)) c.display with
    ⟨e, d, refused, same⟩ | ⟨d, granted, own⟩
  · left
    rw [refused]
    exact ⟨by simp, congrArg (fun owner => (c.hasScene, c.selection?, owner)) same⟩
  · right
    rw [granted]
    dsimp only
    rcases Renderer.start c.options.backend (DisplayServer.layout d)
      (DisplayServer.refreshRate? d) c.renderer with ⟨e | ⟨⟩, r⟩
    · exact ⟨rfl, own⟩
    dsimp only
    have still := HeadlessDisplay.redirectSubwindows_owner d
    rcases redirected : DisplayServer.redirectSubwindows d with ⟨e | ⟨⟩, d'⟩
    · rw [redirected] at still
      exact ⟨rfl, still.trans own⟩
    · rw [redirected] at still
      exact ⟨rfl, still.trans own⟩

theorem activate_tenure (scene : c.hasScene = true) : (c.activate id).tenure = c.tenure := by
  rcases c.activate_cases id with ⟨fault, e⟩ | ⟨frame, e⟩
  · rw [e]
    rfl
  · obtain ⟨b, tracked, enabled⟩ :=
      ({ c with frame := frame } : Compositor HeadlessDisplay σ).enable_aside scene
    have asked := (tracked.trans (Aside.checkBypass b true)).standing
      HeadlessDisplay.lasting_owner
    have visited := visit_view (fun t : HeadlessDisplay × σ => t.1.selectionOwner?)
      (trackStep_lasting HeadlessDisplay.lasting_owner) c.windows.ids c.windows
      (c.display, c.renderer)
    rw [e, enabled]
    refine ((Aside.performCompositing _).standing HeadlessDisplay.lasting_owner).trans ?_
    refine asked.trans ?_
    exact congrArg (fun owner => (c.hasScene, c.selection?, owner)) visited

/-- Stopping gives back what is remembered of the selection. -/
theorem finish_tenure (scene : c.hasScene = true) :
    c.finish.tenure = (false, none,
      if c.selection? = c.display.selectionOwner? then none else c.display.selectionOwner?) := by
  obtain ⟨d, r, s, e, _, d₀, d₁, released, served⟩ := c.finish_scene scene
  obtain ⟨let_go, forwarded⟩ := served HeadlessDisplay.lasting_owner
  have before : d₁.selectionOwner? = c.display.selectionOwner? :=
    (forwarded fun _ _ _ => rfl).trans let_go
  rw [e, tenure, standing, released]
  dsimp only
  rw [HeadlessDisplay.releaseSelection_owner, before]

omit [Renderer σ] in
/-- A start that fails gives back what it remembers of the selection as well. -/
theorem released_tenure (c : Compositor HeadlessDisplay σ) :
    ({ ({ c with hasScene := false } : Compositor HeadlessDisplay σ).releaseSelection with
      phase := .inactive } : Compositor HeadlessDisplay σ).tenure = (false, none,
      if c.selection? = c.display.selectionOwner? then none else c.display.selectionOwner?) := by
  rw [releaseSelection_eq, tenure, standing]
  dsimp only
  rw [HeadlessDisplay.releaseSelection_owner]

/-- A start claims the selection, or leaves it alone, or gives it back at once. -/
theorem Owns.setup (h : Owns lost kept c) (off : c.hasScene = false) : Owns lost kept c.setup := by
  have nothing := h.remembers.nothing off
  have attempt := acquire_tenure ({ c with phase := .starting } : Compositor HeadlessDisplay σ)
  rcases c.setup_cases with ⟨scene, _⟩ | ⟨_, e⟩ | ⟨_, e⟩ | ⟨_, _, acquired, e⟩
  · simp [off] at scene
  · rw [e]
    exact h.of_tenure rfl
  · rw [e]
    rcases attempt with ⟨_, same⟩ | ⟨held, own⟩
    · obtain ⟨_, unheld, owner⟩ := tenure_eq_iff.mp same
      refine h.of_tenure ((released_tenure _).trans ?_)
      rw [tenure, standing, unheld, owner, off]
      dsimp only
      rw [nothing]
      split
      · rename_i free
        rw [← free]
      · rfl
    · refine Owns.of_free ((released_tenure _).trans ?_)
      rw [held, own, if_pos rfl]
  · obtain ⟨d, r, a⟩ := acquire_ok _ acquired
    have scene : ({ c with phase := .starting } :
        Compositor HeadlessDisplay σ).acquire.2.hasScene = true := by
      rw [a.shape]
    rcases attempt with ⟨failed, _⟩ | ⟨held, own⟩
    · exact absurd acquired failed
    · rw [e]
      refine Owns.of_held ((activate_tenure scene).trans ?_)
      rw [tenure, standing, scene, held, own]

theorem Owns.finish (h : Owns lost kept c) : Owns lost kept c.finish := by
  by_cases scene : c.hasScene = true
  · refine Owns.of_free ((finish_tenure scene).trans ?_)
    have held := h.remembers.own scene
    rcases h.nobodyElse with free | own
    · simp [free]
    · simp [held, own]
  · rwa [c.finish_of_off (by simpa using scene)]

theorem Shift.owns (shift : Shift c c') (h : Owns lost kept c) : Owns lost kept c' := by
  cases shift with
  | start s o b off _ =>
    have tuned : Owns lost kept (c.retune s o b) := h.of_tenure rfl
    exact tuned.setup off
  | stop s o b _ =>
    have tuned : Owns lost kept (c.retune s o b) := h.of_tenure rfl
    exact tuned.finish
  | free _ _ => exact h.of_tenure rfl

/-- What no news comes with leaves the selection to the scene. -/
theorem Move.owns (quiet : ¬ ok .news) (move : Move ok c c') (h : Owns lost kept c) :
    Owns lost kept c' := by
  rcases move.standing_cases HeadlessDisplay.lasting_owner HeadlessDisplay.unswitched_owner with
    same | ⟨b, b', before, shifts, after⟩ | ⟨news, _⟩ | ⟨news, _⟩
  · exact h.of_tenure same
  · have begun : Owns lost kept b := h.of_tenure (tenure_of_standing before)
    have shifted : Owns lost kept b' :=
      shifts.preserve (P := Owns lost kept) (fun shift h => shift.owns h) begun
    exact shifted.of_tenure (tenure_of_standing after)
  · exact absurd news quiet
  · exact absurd news quiet

/-! News. -/

/-- A notice of a loss takes the scene, and the selection is not given back. -/
theorem cleared_forgets (h : c.Remembers) :
    (c.handleDisplayEvent .selectionCleared).tenure = (false, none, c.display.selectionOwner?) ∧
      (c.handleDisplayEvent .selectionCleared).display.events = c.display.events := by
  cases scene : c.hasScene with
  | false =>
    have nothing := h.nothing scene
    have same : c.handleDisplayEvent .selectionCleared = c := by
      rw [handleDisplayEvent, nothing]
    rw [same]
    exact ⟨tenure_eq_iff.mpr ⟨scene, nothing, rfl⟩, rfl⟩
  | true =>
    have lost : c.handleDisplayEvent .selectionCleared =
        ({ c with selection? := none } : Compositor HeadlessDisplay σ).finish := by
      rw [handleDisplayEvent, h.own scene]
    rw [lost]
    refine ⟨?_, finish_fixed HeadlessDisplay.fixed_events { c with selection? := none }⟩
    refine (finish_tenure (c := { c with selection? := none }) scene).trans ?_
    dsimp only
    split
    · rename_i free
      rw [← free]
    · rfl

/-- Once the events are handled, there is a scene only if there was one and no notice of a loss
waited. The owner is still the same. -/
theorem dispatch_forgets (h : c.Remembers) :
    c.dispatchDisplayEvents.2.Remembers ∧ c.dispatchDisplayEvents.2.display.events = [] ∧
      c.dispatchDisplayEvents.2.display.selectionOwner? = c.display.selectionOwner? ∧
      (c.dispatchDisplayEvents.2.hasScene = true ↔
        c.hasScene = true ∧ .selectionCleared ∉ c.display.events) := by
  let Q : List DisplayEvent → Compositor HeadlessDisplay σ → Prop := fun rest c' =>
    c'.Remembers ∧ c'.display.events = [] ∧
      c'.display.selectionOwner? = c.display.selectionOwner? ∧
      (c'.hasScene = true ∧ .selectionCleared ∉ rest ↔
        c.hasScene = true ∧ .selectionCleared ∉ c.display.events)
  have start : Q (DisplayServer.takeEvents c.display).1
      { c with display := (DisplayServer.takeEvents c.display).2 } := ⟨h, rfl, rfl, Iff.rfl⟩
  have handled : Q [] c.dispatchDisplayEvents.2 := by
    refine dispatch_induction start ?_
    rintro e rest c' ⟨remembers, silent, owner, scene⟩
    cases e with
    | damaged w =>
      have aside := Aside.damaged c' w
      refine ⟨?_, ?_, ?_, ?_⟩
      · rw [Remembers, aside.scene, aside.selection]
        exact remembers
      · exact (aside.served HeadlessDisplay.fixed_events.toLasting).trans silent
      · exact (aside.served HeadlessDisplay.lasting_owner).trans owner
      · rw [aside.scene, ← scene]
        simp
    | selectionCleared =>
      obtain ⟨forgotten, same⟩ := cleared_forgets remembers
      obtain ⟨off, nothing, still⟩ := tenure_eq_iff.mp forgotten
      refine ⟨Remembers.of_nothing off nothing, same.trans silent, still.trans owner, ?_⟩
      rw [off, ← scene]
      simp
  obtain ⟨remembers, silent, owner, scene⟩ := handled
  exact ⟨remembers, silent, owner, by simpa using scene⟩

/-! Steps. -/

/-- The selection is lost while a notice of it waits. Without a scene it is kept only while one
waits, or if anything goes. -/
abbrev Accounts (loose : Prop) (c : Compositor HeadlessDisplay σ) : Prop :=
  Owns (.selectionCleared ∈ c.display.events) (loose ∨ .selectionCleared ∈ c.display.events) c

theorem dispatch_accounts (fresh : c.display.selectionOwner? = some ownName →
    .selectionCleared ∈ c.display.events → loose) (h : Accounts loose c) :
    Accounts loose c.dispatchDisplayEvents.2 := by
  obtain ⟨remembers, _, owner, scene⟩ := dispatch_forgets h.remembers
  refine ⟨remembers, owner ▸ h.nobodyElse, fun on free => ?_, fun off own => Or.inl ?_⟩
  · obtain ⟨was, unnoticed⟩ := scene.mp on
    exact absurd (h.lost was (owner ▸ free)) unnoticed
  · rw [owner] at own
    by_cases noticed : .selectionCleared ∈ c.display.events
    · exact fresh own noticed
    · have off : c.hasScene = false := by
        by_contra was
        have on := scene.mpr ⟨by simpa using was, noticed⟩
        rw [off] at on
        cases on
      exact (h.kept off own).resolve_right noticed

theorem cleared_accounts (fresh : c.display.selectionOwner? = some ownName →
    c.hasScene = true → .selectionCleared ∉ c.display.events → loose) (h : Accounts loose c) :
    Accounts loose (c.handleDisplayEvent .selectionCleared) := by
  obtain ⟨forgotten, same⟩ := cleared_forgets h.remembers
  obtain ⟨off, nothing, owner⟩ := tenure_eq_iff.mp forgotten
  refine ⟨Remembers.of_nothing off nothing, owner ▸ h.nobodyElse, by simp [off], fun _ own => ?_⟩
  rw [same]
  rw [owner] at own
  by_cases noticed : .selectionCleared ∈ c.display.events
  · exact Or.inr noticed
  · cases was : c.hasScene with
    | false => exact h.kept was own
    | true => exact Or.inl (fresh own was noticed)

theorem step_accounts (change : ω → DisplayChange) (renderer : ω → σ → σ) {k : Step ω}
    (fresh : c.Stale k → loose) (h : Accounts loose c) :
    Accounts loose (c.step (DisplayChange.world change renderer) k) := by
  have own (own : k.Own fun occasion => occasion ≠ .news) :
      Accounts loose (c.step (DisplayChange.world change renderer) k) := by
    let P : Compositor HeadlessDisplay σ → Prop := fun c' =>
      Owns (.selectionCleared ∈ c.display.events)
        (loose ∨ .selectionCleared ∈ c.display.events) c' ∧ c'.display.events = c.display.events
    have kept : P (c.step (DisplayChange.world change renderer) k) := by
      refine (step_moves _ c own).preserve (P := P) ?_ ⟨h, rfl⟩
      rintro c₁ c₂ move ⟨owns, same⟩
      refine ⟨move.owns (by simp) owns, ?_⟩
      rcases move.fixed HeadlessDisplay.fixed_events with still | ⟨news, _⟩
      · exact still.trans same
      · exact absurd rfl news
    rw [Accounts, kept.2]
    exact kept.1
  cases k with
  | takeEvents => exact h.of_tenure rfl
  | outside o =>
    rcases (change o).apply_owner c.display with ⟨owner, notices⟩ | ⟨owner, notice⟩
    · have same : (c.step (DisplayChange.world change renderer) (.outside o)).tenure = c.tenure :=
        congrArg (fun owner => (c.hasScene, c.selection?, owner)) owner
      have told := h.of_tenure same
      rw [← notices] at told
      exact told
    · exact ⟨h.remembers, Or.inl owner, fun _ _ => notice, fun _ _ => Or.inr notice⟩
  | dispatchDisplayEvents =>
    exact dispatch_accounts (fun own notice => fresh ⟨own, Or.inl ⟨rfl, notice⟩⟩) h
  | handleDisplayEvent e =>
    cases e with
    | damaged w => exact own trivial
    | selectionCleared =>
      exact cleared_accounts (fun own on unnoticed => fresh ⟨own, Or.inr ⟨rfl, on, unnoticed⟩⟩) h
  | _ => exact own (by simp [Step.Own])

/-- Once a stale notice is handled, the compositor owns the selection without a scene. -/
theorem Stale.strays (W : World ω HeadlessDisplay σ) {k : Step ω} (stale : c.Stale k)
    (h : c.Remembers) : ¬ (c.step W k).Follows := by
  have stranded (silent : .selectionCleared ∉ (c.step W k).display.events)
      (owner : (c.step W k).display.selectionOwner? = c.display.selectionOwner?)
      (off : (c.step W k).hasScene = false) : ¬ (c.step W k).Follows := by
    intro follows
    have free := follows silent
    rw [owner, stale.1, off] at free
    cases free
  rcases stale.2 with ⟨rfl, noticed⟩ | ⟨rfl, _, unnoticed⟩
  · obtain ⟨_, silent, owner, scene⟩ := dispatch_forgets h
    have off : c.dispatchDisplayEvents.2.hasScene = false := by
      by_contra on
      exact (scene.mp (by simpa using on)).2 noticed
    exact stranded (by simp [step, silent]) owner off
  · obtain ⟨forgotten, same⟩ := cleared_forgets h
    obtain ⟨off, _, owner⟩ := tenure_eq_iff.mp forgotten
    exact stranded (by rwa [step, same]) owner off

omit [Renderer σ] in
theorem Owns.composed (h : Accounts loose c) (silent : .selectionCleared ∉ c.display.events)
    (scene : c.hasScene = true) : c.display.selectionOwner? = some ownName :=
  h.nobodyElse.resolve_left fun free => silent (h.lost scene free)

omit [Renderer σ] in
theorem Owns.follows (h : Accounts False c) : c.Follows := by
  intro silent
  cases scene : c.hasScene with
  | true => exact h.composed silent scene
  | false =>
    refine h.nobodyElse.resolve_right fun own => ?_
    rcases h.kept scene own with impossible | noticed
    · exact impossible
    · exact silent noticed

omit [Renderer σ] in
theorem new_owns (extensions : List Extension) (layout : Layout) (r : σ)
    (options : CompositingOptions) :
    Owns lost kept (Compositor.new (HeadlessDisplay.new extensions layout) r options) :=
  Owns.of_free rfl

/-! Runs. -/

/-- In every reachable compositor on a server in memory, nobody but the compositor owns the
selection, and with a scene it does once no notice of a loss waits. In all states of a run the
owner follows the scene if and only if no stale notice is handled. -/
theorem follows_iff_never_stale {W : World ω HeadlessDisplay σ} {change : ω → DisplayChange}
    {renderer : ω → σ → σ} (world : W = DisplayChange.world change renderer)
    {start : Compositor HeadlessDisplay σ} {extensions : List Extension} {layout : Layout} {r : σ}
    {options : CompositingOptions} (new : start = Compositor.new (.new extensions layout) r options)
    (steps : List (Step ω)) :
    ((start.run W steps).display.selectionOwner? = none ∨
        (start.run W steps).display.selectionOwner? = some ownName) ∧
      ((start.run W steps).hasScene = true →
        .selectionCleared ∉ (start.run W steps).display.events →
          (start.run W steps).display.selectionOwner? = some ownName) ∧
      ((∀ before, before <+: steps → (start.run W before).Follows) ↔
        ∀ before k, before ++ [k] <+: steps → ¬ (start.run W before).Stale k) := by
  subst world
  have whole (before : List (Step ω)) (reached : before <+: steps) :
      Accounts True (start.run (DisplayChange.world change renderer) before) := by
    refine run_along _ ?_ (fun before k _ h => ?_) reached
    · exact new ▸ new_owns extensions layout r options
    · exact step_accounts change renderer (fun _ => trivial) h
  have last := whole steps List.prefix_rfl
  refine ⟨last.nobodyElse, fun scene silent => last.composed silent scene,
    fun follows before k reached stale => ?_, fun fresh before reached => ?_⟩
  · have earlier : before <+: steps := (List.prefix_append before [k]).trans reached
    have strayed := stale.strays (DisplayChange.world change renderer)
      (whole before earlier).remembers
    rw [← run_snoc] at strayed
    exact strayed (follows (before ++ [k]) reached)
  · have strict : Accounts False (start.run (DisplayChange.world change renderer) before) := by
      refine run_along _ ?_ (fun before k reached h => ?_) reached
      · exact new ▸ new_owns extensions layout r options
      · exact step_accounts change renderer (fresh before k reached) h
    exact strict.follows

def composing : Compositor HeadlessDisplay HeadlessRenderer :=
  Compositor.new (.new Extension.all (.single 1920 1080)) (.new ⟨1⟩ fun _ => 0)
    CompositingOptions.standard

def winsBack : List (Step DisplayChange) :=
  [.setup, .outside .stealSelection, .dispatchDisplayEvents, .setup]

/-- The compositor owns the selection again. -/
theorem winsBack_follows :
    (composing.run (DisplayChange.world id fun _ r => r) winsBack).display.events = [] ∧
      (composing.run (DisplayChange.world id fun _ r => r) winsBack).hasScene = true ∧
      (composing.run (DisplayChange.world id fun _ r => r)
        winsBack).display.selectionOwner? = some ownName := by
  have follows : (composing.run (DisplayChange.world id fun _ r => r) winsBack).Follows := by
    refine (follows_iff_never_stale (W := DisplayChange.world id fun _ r => r) rfl
      (show composing = Compositor.new _ _ _ from rfl) winsBack).2.2.mpr ?_ _ List.prefix_rfl
    intro before k reached
    obtain ⟨taken, next, short⟩ := Step.taken_at reached
    change before.length < 4 at short
    rw [taken]
    generalize before.length = n at short next
    interval_cases n
    all_goals obtain rfl := Option.some.inj next
    · simp [Stale]
    · simp [Stale]
    · rintro ⟨own, _⟩
      cases own
    · simp [Stale]
  exact ⟨rfl, rfl, follows nofun⟩

/-- The selection is stolen, and claimed again before the loss was noticed. -/
def claimsTooSoon : List (Step DisplayChange) :=
  [.setup, .outside .stealSelection, .finish, .setup, .dispatchDisplayEvents]

/-- No event waits and there is no scene, but the compositor still owns the selection. -/
theorem claimsTooSoon_stranded :
    (composing.run (DisplayChange.world id fun _ r => r) claimsTooSoon).display.events = [] ∧
      (composing.run (DisplayChange.world id fun _ r => r) claimsTooSoon).hasScene = false ∧
      (composing.run (DisplayChange.world id fun _ r => r)
        claimsTooSoon).display.selectionOwner? = some "_NET_WM_CM_S0" := by
  refine ⟨rfl, rfl, ?_⟩
  exact congrArg some (show ownName = "_NET_WM_CM_S0" by decide)

end Compositor

end Compositing
