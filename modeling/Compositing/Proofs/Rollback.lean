import Compositing.Display.Faulty
import Compositing.Proofs.Lifecycle
import Compositing.Proofs.Records

/-!
# Starts that fail

A start can fail in five places, and in two of them it has acquired something before. Each time
what it acquired is given back, and what the window manager sees of the compositor is as before
the call. The selection is asked for only if nothing keeps compositing suspended and the display
offers what it needs. That a start which fails drops no placeholder rests on there being none
without a scene, and so on windows coming from their builders.
-/

namespace Compositing

/-- What a start that is undone has asked the server for: the selection was refused, the renderer
did not start, or the windows were not redirected. -/
inductive RolledBack (selection : String) : List DisplayCall → Prop
  | refused : RolledBack selection [.claimed selection false]
  | notStarted : RolledBack selection [.claimed selection true, .released selection]
  | notRedirected : RolledBack selection
      [.claimed selection true, .redirectedAll false, .released selection]

theorem RolledBack.claims {selection : String} {calls : List DisplayCall}
    (h : RolledBack selection calls) : ∃ granted, .claimed selection granted ∈ calls := by
  cases h with
  | refused => exact ⟨false, List.mem_cons_self⟩
  | notStarted => exact ⟨true, List.mem_cons_self⟩
  | notRedirected => exact ⟨true, List.mem_cons_self⟩

/-- A claim that was granted is given up at the end. -/
theorem RolledBack.releases {selection name : String} {calls : List DisplayCall}
    (h : RolledBack selection calls) (granted : .claimed name true ∈ calls) :
    calls.getLast? = some (.released name) := by
  cases h with
  | refused => simp at granted
  | notStarted =>
    have same : name = selection := by simpa using granted
    rw [same]
    rfl
  | notRedirected =>
    have same : name = selection := by simpa using granted
    rw [same]
    rfl

theorem RolledBack.creates_nothing {selection : String} {calls : List DisplayCall}
    (h : RolledBack selection calls) (w : WindowId) (handle? : Option DamageHandle) :
    .created w handle? ∉ calls := by
  cases h <;> simp

namespace Compositor

variable {ω δ σ : Type} [DisplayServer δ] [Renderer σ] {c : Compositor δ σ}

omit [Renderer σ] in
theorem releaseSelection_calls (c : Compositor (Logged δ) σ) :
    c.releaseSelection.display.calls =
      c.display.calls ++ c.selection?.elim [] fun selection => [.released selection] := by
  rw [releaseSelection]
  cases c.selection? with
  | none => exact (List.append_nil _).symm
  | some selection => rfl

/-- If not everything is acquired, then what was asked for, with the release of what was claimed,
makes a start that is undone. -/
theorem acquire_calls {c : Compositor (Logged δ) σ} (begun : c.display.calls = [])
    (unclaimed : c.selection? = none) :
    c.acquire.1 = .ok () ∨
      RolledBack (selectionName (DisplayServer.screenNumber c.display))
        (c.acquire.2.display.calls ++
          c.acquire.2.selection?.elim [] fun selection => [.released selection]) := by
  simp only [acquire, DisplayServer.claimSelection, Logged.answer]
  rcases DisplayServer.claimSelection (selectionName (DisplayServer.screenNumber c.display))
    c.display.server with ⟨e | ⟨⟩, d⟩
  · simp only [begun, unclaimed]
    exact Or.inr .refused
  simp only [DisplayServer.layout, DisplayServer.refreshRate?, begun]
  rcases Renderer.start c.options.backend (DisplayServer.layout d) (DisplayServer.refreshRate? d)
    c.renderer with ⟨e | ⟨⟩, r⟩
  · exact Or.inr .notStarted
  simp only [DisplayServer.redirectSubwindows, Logged.answer]
  rcases DisplayServer.redirectSubwindows d with ⟨e | ⟨⟩, d'⟩
  · exact Or.inr .notRedirected
  · exact Or.inl rfl

theorem setup_of_kept (off : c.hasScene = false)
    (kept : c.suspended.isEmpty = false ∨ c.isPossible = false) :
    c.setup = { c with phase := .inactive } := by
  rw [setup, setupBy, if_neg (by simp [off]), if_pos]
  simpa using kept

theorem setup_of_free (off : c.hasScene = false) (free : c.suspended.isEmpty = true)
    (possible : c.isPossible = true) :
    (({ c with phase := .starting } : Compositor δ σ).acquire.1 = .ok () ∧
        c.setup = ({ c with phase := .starting } : Compositor δ σ).acquire.2.activate id) ∨
      (({ c with phase := .starting } : Compositor δ σ).acquire.1 ≠ .ok () ∧
        c.setup = { ({ ({ c with phase := .starting } : Compositor δ σ).acquire.2 with
          hasScene := false }).releaseSelection with phase := .inactive }) := by
  rw [setup, setupBy, if_neg (by simp [off]), if_neg (by simp [free, possible])]
  rcases ({ c with phase := .starting } : Compositor δ σ).acquire with ⟨e | ⟨⟩, a⟩
  · exact Or.inr ⟨by simp, rfl⟩
  · exact Or.inl ⟨rfl, rfl⟩

/-- What a start that leads to no scene asks the server for. -/
theorem setup_calls (off : c.hasScene = false) (still : c.setup.hasScene = false)
    (unclaimed : c.selection? = none) :
    ((c.suspended.isEmpty = false ∨ c.isPossible = false) ∧
        c.logged.setup.display.calls = []) ∨
      (c.suspended.isEmpty = true ∧ c.isPossible = true ∧
        RolledBack (selectionName (DisplayServer.screenNumber c.display))
          c.logged.setup.display.calls) := by
  by_cases kept : c.suspended.isEmpty = false ∨ c.isPossible = false
  · refine Or.inl ⟨kept, ?_⟩
    rw [setup_of_kept (c := c.logged) off kept]
    rfl
  simp only [not_or, Bool.not_eq_false] at kept
  refine Or.inr ⟨kept.1, kept.2, ?_⟩
  have still : c.logged.setup.hasScene = false := by
    rw [← still]
    exact congrArg Compositor.hasScene (setup_unlogged c.logged)
  let begun : Compositor (Logged δ) σ := { c.logged with phase := .starting }
  rcases setup_of_free (c := c.logged) off kept.1 kept.2 with ⟨acquired, e⟩ | ⟨failed, e⟩
  · obtain ⟨d, r, a⟩ := begun.acquire_ok acquired
    rw [e, (activate_frame _ id).1, a.shape] at still
    simp at still
  · have undone := (acquire_calls (c := begun) rfl unclaimed).resolve_left failed
    rw [e]
    dsimp only
    rw [releaseSelection_calls]
    exact undone

/-- A start that does not lead to a scene leaves the compositor as it was, but for the phase, and
gives back whatever it has claimed. -/
theorem failed_setup_changes_nothing (W : World ω δ σ) (d : δ) (r : σ)
    (options : CompositingOptions) {steps : List (Step ω)}
    (fresh : ∀ k ∈ steps, k.AddsFresh)
    (reached : c = (Compositor.new d r options).run W steps) (sound : c.fault? = none)
    (off : c.hasScene = false) (still : c.setup.hasScene = false) :
    (∃ d' r', c.setup = { c with display := d', renderer := r', phase := .inactive }) ∧
      c.setup.selection? = none ∧
      c.logged.setup.unlogged = c.setup ∧
      ((c.suspended.isEmpty = false ∨ c.isPossible = false) ∧
          c.logged.setup.display.calls = [] ∨
        c.suspended.isEmpty = true ∧ c.isPossible = true ∧
          RolledBack (selectionName (DisplayServer.screenNumber c.display))
            c.logged.setup.display.calls) ∧
      ((∃ selection granted, .claimed selection granted ∈ c.logged.setup.display.calls) ↔
        c.suspended.isEmpty = true ∧ c.isPossible = true) ∧
      (∀ selection, .claimed selection true ∈ c.logged.setup.display.calls →
        c.logged.setup.display.calls.getLast? = some (.released selection)) ∧
      ∀ w handle?, .created w handle? ∉ c.logged.setup.display.calls := by
  have lives := run_lives W (fun k member => (fresh k member).real) (new_lives d r options)
  rw [← reached] at lives
  have regular := (lives sound).1
  have unclaimed : c.selection? = none := by simpa [off] using regular.held
  have plain : c.windows.discardPlaceholders = c.windows := by
    rw [WindowStack.discardPlaceholders, List.filter_eq_self.mpr]
    intro w hw
    simp [(regular.resting off).windows w hw]
  have asked := setup_calls off still unclaimed
  obtain ⟨d', r', s, selection, shape, held, stack, _⟩ := c.setup_rests off still
  have held : selection = none := held.elim id fun same => same.trans unclaimed
  have stack : s = c.windows := stack.elim id fun dropped => dropped.trans plain
  rw [held, ← unclaimed, stack] at shape
  refine ⟨⟨d', r', shape⟩, by rw [shape, unclaimed], setup_unlogged c.logged, asked, ?_, ?_, ?_⟩
  · rcases asked with ⟨kept, nothing⟩ | ⟨free, possible, undone⟩
    · rw [nothing]
      refine ⟨by simp, fun ⟨free, possible⟩ => ?_⟩
      simp [free, possible] at kept
    · obtain ⟨granted, claimed⟩ := undone.claims
      exact ⟨fun _ => ⟨free, possible⟩, fun _ => ⟨_, granted, claimed⟩⟩
  · intro selection granted
    rcases asked with ⟨_, nothing⟩ | ⟨_, _, undone⟩
    · simp [nothing] at granted
    · exact undone.releases granted
  · intro w handle?
    rcases asked with ⟨_, nothing⟩ | ⟨_, _, undone⟩
    · simp [nothing]
    · exact undone.creates_nothing w handle?

/-- The windows cannot be redirected, which shows only once there is a scene. -/
def unredirectable : Compositor FaultyDisplay HeadlessRenderer :=
  (Compositor.new
    { FaultyDisplay.ofServer (.new Extension.all (.single 1920 1080)) with failsRedirect := true }
    (.new ⟨1⟩ fun _ => 0) CompositingOptions.standard).run .closed
      [.addWindow (.client ⟨1⟩ (.ofCoords 0 0 10 10) ⟨true, false, false⟩)]

/-- The selection was claimed and is released, and the window is still there as it was. -/
theorem unredirectable_undone :
    unredirectable.setup.hasScene = false ∧
      unredirectable.setup.windows = unredirectable.windows ∧
      .claimed (selectionName 0) true ∈ unredirectable.logged.setup.display.calls ∧
      unredirectable.logged.setup.display.calls.getLast? =
        some (.released (selectionName 0)) := by
  have still : unredirectable.setup.hasScene = false := rfl
  have claimed : .claimed (selectionName 0) true ∈ unredirectable.logged.setup.display.calls :=
    List.mem_cons_self
  have fresh : ∀ k ∈ ([.addWindow (.client ⟨1⟩ (.ofCoords 0 0 10 10) ⟨true, false, false⟩)] :
      List (Step Empty)), k.AddsFresh := by
    simp [Step.AddsFresh]
  obtain ⟨⟨d, r, same⟩, _, _, _, _, released, _⟩ := failed_setup_changes_nothing .closed
    { FaultyDisplay.ofServer (.new Extension.all (.single 1920 1080)) with failsRedirect := true }
    (HeadlessRenderer.new ⟨1⟩ fun _ => 0) CompositingOptions.standard fresh (c := unredirectable)
    rfl rfl rfl still
  exact ⟨still, by rw [same], claimed, released _ claimed⟩

/-- The placeholder of a client goes with its scene, and no backend is left to start with. -/
def backendless : Compositor HeadlessDisplay HeadlessRenderer :=
  departed.run .closed [.startOver { CompositingOptions.standard with backend := .none }]

/-- A start drops placeholders before it fails, and with them the copy of one that was added. -/
theorem backendless_drops_copy :
    ∃ w, departed.windows.get? ⟨7⟩ = some w ∧
      ∃ c, c = backendless.run .closed [.addWindow w] ∧ c.fault? = none ∧
        c.hasScene = false ∧ c.setup.hasScene = false ∧
        c.windows.ids = [⟨7⟩] ∧ c.setup.windows.ids = [] :=
  ⟨_, rfl, _, rfl, rfl, rfl, rfl, rfl, rfl⟩

end Compositor

end Compositing
