import Compositing.Proofs.Evolution

/-!
# Windows that come, go and change their state

The three calls by which the window manager itself changes what windows there are. Each of
them first changes the stack, and what follows only asks for frames, for a pass and for
suspensions or resumptions that come later.
-/

namespace Compositing

namespace Compositor

open WindowStack
open Toplevel (Kept)

variable {δ σ : Type} [DisplayServer δ] [Renderer σ] (c : Compositor δ σ)

/-- A window as it enters. It is tracked at once if there is a scene. -/
def entering (w : Toplevel) : Toplevel × δ × σ :=
  if c.hasScene then trackStep w (c.display, c.renderer) else (w, c.display, c.renderer)

def entered (w : Toplevel) : Compositor δ σ :=
  { c with
    windows := ⟨c.windows.windows ++ [(c.entering w).1]⟩
    display := (c.entering w).2.1
    renderer := (c.entering w).2.2 }

def leaving (w : Toplevel) (stays : Bool) : Toplevel × δ × σ :=
  if c.hasScene then untrackStep w (c.display, Renderer.windowClosed w.id stays c.renderer)
  else (w, c.display, c.renderer)

def left (w : Toplevel) (keepPlaceholder : Bool) : Compositor δ σ :=
  { c with
    windows := if keepPlaceholder && c.hasScene then
        c.windows.modify w.id fun _ =>
          (c.leaving w (keepPlaceholder && c.hasScene)).1.becomePlaceholder
      else c.windows.remove w.id
    display := (c.leaving w (keepPlaceholder && c.hasScene)).2.1
    renderer := (c.leaving w (keepPlaceholder && c.hasScene)).2.2 }

def restated (id : WindowId) (state : ClientState) : Compositor δ σ :=
  { c with windows := c.windows.modify id fun w => { w with kind := .client state } }

theorem entering_kept (w : Toplevel) : Kept w (c.entering w).1 := by
  rw [entering]
  split
  · exact trackStep_kept w _
  · exact Kept.refl w

theorem leaving_kept (w : Toplevel) (stays : Bool) : Kept w (c.leaving w stays).1 := by
  rw [leaving]
  split
  · exact untrackStep_kept w _
  · exact Kept.refl w

theorem addWindow_cases (w : Toplevel) :
    (c.windows.contains w.id = true ∧ c.addWindow w = c) ∨
      (c.windows.contains w.id = false ∧ c.addWindow w =
        if w.blocks then ((c.entered w).checkBypass true).scheduleRepaint.blockFor w.id
        else ((c.entered w).checkBypass true).scheduleRepaint) := by
  cases known : c.windows.contains w.id with
  | true => exact Or.inl ⟨rfl, by simp [addWindow, known]⟩
  | false =>
    refine Or.inr ⟨rfl, ?_⟩
    have kept := c.entering_kept w
    have put : c.windows.insert (c.entering w).1 = ⟨c.windows.windows ++ [(c.entering w).1]⟩ := by
      simp [WindowStack.insert, kept.id, known]
    rw [← kept.blocks, ← kept.id]
    simp only [addWindow, known, entered, ← put]
    rfl

theorem removeWindow_cases (id : WindowId) (keepPlaceholder : Bool) :
    ((∀ w, c.windows.get? id = some w → w.isPlaceholder = true) ∧
        (c.removeWindow id keepPlaceholder).2 = c) ∨
      ∃ w, c.windows.get? id = some w ∧ w.isPlaceholder = false ∧
        (c.removeWindow id keepPlaceholder).2 =
          if w.blocks then (((c.left w keepPlaceholder).addRepaint
            (Region.ofRect w.geometry)).checkBypass true).unblock
          else ((c.left w keepPlaceholder).addRepaint
            (Region.ofRect w.geometry)).checkBypass true := by
  rw [removeWindow]
  cases found : c.windows.get? id with
  | none => exact Or.inl ⟨by simp, rfl⟩
  | some w =>
    have same := (mem_of_get? found).2
    subst same
    dsimp only
    split
    · rename_i placeholder
      exact Or.inl ⟨by simp [placeholder], rfl⟩
    · rename_i real
      exact Or.inr ⟨w, rfl, by simpa using real, rfl⟩

omit [DisplayServer δ] in
/-- What the window manager says of a client is taken over, and nothing of what is no client. -/
theorem setClientState_cases (id : WindowId) (state : ClientState) :
    (c.setClientState id state).2 = c ∨
      ∃ w old, c.windows.get? id = some w ∧ w.kind = .client old ∧
        (c.setClientState id state).2 =
          if state.blocksCompositing && !old.blocksCompositing then
            ((c.restated id state).checkBypass false).blockFor id
          else if old.blocksCompositing && !state.blocksCompositing then
            ((c.restated id state).checkBypass false).unblock
          else (c.restated id state).checkBypass false := by
  rw [setClientState]
  cases found : c.windows.get? id with
  | none => exact Or.inl rfl
  | some w =>
    cases client : w.clientState? with
    | none => exact Or.inl (by simp [Option.bind, client])
    | some old =>
      refine Or.inr ⟨w, old, rfl, ?_, by simp [Option.bind, client, restated]⟩
      rw [Toplevel.clientState?] at client
      split at client
      · simp_all
      · simp at client

theorem addWindow_windows (w : Toplevel) :
    (c.addWindow w).windows = c.windows ∨
      c.windows.contains w.id = false ∧ (c.addWindow w).windows = (c.entered w).windows := by
  rcases c.addWindow_cases w with ⟨_, h⟩ | ⟨fresh, h⟩
  · exact Or.inl (by rw [h])
  · refine Or.inr ⟨fresh, ?_⟩
    rw [h]
    split <;> simp

theorem removeWindow_windows (id : WindowId) (keepPlaceholder : Bool) :
    (c.removeWindow id keepPlaceholder).2.windows = c.windows ∨
      ∃ w, c.windows.get? id = some w ∧ w.isPlaceholder = false ∧
        (c.removeWindow id keepPlaceholder).2.windows = (c.left w keepPlaceholder).windows := by
  rcases c.removeWindow_cases id keepPlaceholder with ⟨_, h⟩ | ⟨w, found, real, h⟩
  · exact Or.inl (by rw [h])
  · refine Or.inr ⟨w, found, real, ?_⟩
    rw [h]
    split <;> simp

omit [DisplayServer δ] in
theorem setClientState_windows (id : WindowId) (state : ClientState) :
    (c.setClientState id state).2.windows = c.windows ∨
      ∃ w old, c.windows.get? id = some w ∧ w.kind = .client old ∧
        (c.setClientState id state).2.windows = (c.restated id state).windows := by
  rcases c.setClientState_cases id state with h | ⟨w, old, found, client, h⟩
  · exact Or.inl (by rw [h])
  · refine Or.inr ⟨w, old, found, client, ?_⟩
    rw [h]
    split
    · simp
    · split <;> simp

end Compositor

namespace WindowStack

/-- No id stands for two windows, and no placeholder is drawn directly to the screen. -/
structure Orderly (s : WindowStack) : Prop where
  distinct : s.Distinct
  hidden : ∀ w ∈ s.windows, w.isPlaceholder = true → w.unredirected = false

theorem Evolves.orderly {s s' : WindowStack} (h : s.Evolves s') (orderly : s.Orderly) :
    s'.Orderly := by
  refine ⟨h.distinct, fun w' hw' placeholder => ?_⟩
  obtain ⟨w, hw, kept⟩ := h.old w' hw'
  have before : w.isPlaceholder = true := kept.isPlaceholder ▸ placeholder
  by_contra direct
  have still := kept.bypass before (by simpa using direct)
  simp [orderly.hidden w hw before] at still

end WindowStack

namespace Compositor

open WindowStack
open Toplevel (Kept)

variable {ω δ σ : Type} [DisplayServer δ] [Renderer σ] {c : Compositor δ σ}

theorem entered_distinct {w : Toplevel} (fresh : c.windows.contains w.id = false)
    (distinct : c.windows.Distinct) : (c.entered w).windows.Distinct := by
  have put := distinct.insert (c.entering w).1
  rw [WindowStack.insert, (c.entering_kept w).id, fresh] at put
  exact put

theorem left_distinct (w : Toplevel) (keepPlaceholder : Bool) (distinct : c.windows.Distinct) :
    (c.left w keepPlaceholder).windows.Distinct := by
  dsimp only [left]
  split
  · exact distinct.modify fun _ _ _ => (c.leaving_kept w (keepPlaceholder && c.hasScene)).id
  · exact distinct.filter _

theorem step_distinct (W : World ω δ σ) (k : Step ω) (distinct : c.windows.Distinct) :
    (c.step W k).windows.Distinct := by
  by_cases inner : k.Inner
  · exact ((evolves_preserved distinct).step W inner (Evolves.refl distinct)).distinct
  · cases k with
    | addWindow w =>
      rcases c.addWindow_windows w with e | ⟨fresh, e⟩
      · exact e ▸ distinct
      · exact e ▸ entered_distinct fresh distinct
    | removeWindow id keepPlaceholder =>
      rcases c.removeWindow_windows id keepPlaceholder with e | ⟨w, _, _, e⟩
      · exact e ▸ distinct
      · exact e ▸ left_distinct w keepPlaceholder distinct
    | setClientState id state =>
      rcases c.setClientState_windows id state with e | ⟨w, old, _, _, e⟩
      · exact e ▸ distinct
      · exact e ▸ distinct.modify fun _ _ same => same
    | outside o => exact distinct
    | _ => exact (inner trivial).elim

/-- No id stands for two windows of a reachable compositor. -/
theorem run_distinct (W : World ω δ σ) (d : δ) (r : σ) (options : CompositingOptions)
    (steps : List (Step ω)) :
    ((Compositor.new d r options).run W steps).windows.Distinct := by
  have start : (Compositor.new d r options).windows.Distinct := List.nodup_nil
  have keeps (c : Compositor δ σ) (k : Step ω) (_ : True) (distinct : c.windows.Distinct) :
      (c.step W k).windows.Distinct := step_distinct W k distinct
  exact run_preserves W keeps start fun _ _ => trivial

theorem entered_hidden {w : Toplevel} (hidden : w.isPlaceholder = true → w.unredirected = false)
    (h : c.windows.Orderly) :
    ∀ v ∈ (c.entered w).windows.windows, v.isPlaceholder = true → v.unredirected = false := by
  have kept := c.entering_kept w
  intro v hv placeholder
  rcases List.mem_append.mp hv with old | new
  · exact h.hidden v old placeholder
  · rw [List.mem_singleton.mp new] at placeholder ⊢
    have before : w.isPlaceholder = true := kept.isPlaceholder ▸ placeholder
    by_contra direct
    have still := kept.bypass before (by simpa using direct)
    simp [hidden before] at still

theorem left_hidden (w : Toplevel) (keepPlaceholder : Bool) (h : c.windows.Orderly) :
    ∀ v ∈ (c.left w keepPlaceholder).windows.windows,
      v.isPlaceholder = true → v.unredirected = false := by
  intro v hv placeholder
  dsimp only [left] at hv
  split at hv
  · rcases mem_modify.mp hv with ⟨_, _, _, rfl⟩ | ⟨old, _⟩
    · rfl
    · exact h.hidden v old placeholder
  · exact h.hidden v (List.mem_filter.mp hv).1 placeholder

omit [DisplayServer δ] [Renderer σ] in
theorem restated_hidden (id : WindowId) (state : ClientState) (h : c.windows.Orderly) :
    ∀ v ∈ (c.restated id state).windows.windows,
      v.isPlaceholder = true → v.unredirected = false := by
  intro v hv placeholder
  rcases mem_modify.mp hv with ⟨_, _, _, rfl⟩ | ⟨unchanged, _⟩
  · simp [Toplevel.isPlaceholder] at placeholder
  · exact h.hidden v unchanged placeholder

/-- A step that adds no placeholder in direct view leaves the windows in order. -/
theorem step_orderly (W : World ω δ σ) {k : Step ω}
    (hidden : k.Adds fun w => w.isPlaceholder = true → w.unredirected = false)
    (h : c.windows.Orderly) : (c.step W k).windows.Orderly := by
  by_cases inner : k.Inner
  · have evolved := (evolves_preserved h.distinct).step W inner (Evolves.refl h.distinct)
    exact evolved.orderly h
  · refine ⟨step_distinct W k h.distinct, ?_⟩
    cases k with
    | addWindow w =>
      rcases c.addWindow_windows w with e | ⟨_, e⟩
      · exact e ▸ h.hidden
      · exact e ▸ entered_hidden hidden h
    | removeWindow id keepPlaceholder =>
      rcases c.removeWindow_windows id keepPlaceholder with e | ⟨w, _, _, e⟩
      · exact e ▸ h.hidden
      · exact e ▸ left_hidden w keepPlaceholder h
    | setClientState id state =>
      rcases c.setClientState_windows id state with e | ⟨w, old, _, _, e⟩
      · exact e ▸ h.hidden
      · exact e ▸ restated_hidden id state h
    | outside o => exact h.hidden
    | _ => exact (inner trivial).elim

theorem entered_calm {w : Toplevel} (free : w.pendingFetch? = none) (h : c.windows.Calm) :
    (c.entered w).windows.Calm := by
  intro v hv
  rcases List.mem_append.mp hv with old | new
  · exact h v old
  · rw [List.mem_singleton.mp new, entering]
    split
    · exact trackStep_calm w _ free
    · exact free

theorem left_calm {w : Toplevel} (free : w.pendingFetch? = none) (keepPlaceholder : Bool)
    (h : c.windows.Calm) : (c.left w keepPlaceholder).windows.Calm := by
  have gone : (c.leaving w (keepPlaceholder && c.hasScene)).1.pendingFetch? = none := by
    rw [leaving]
    split
    · exact untrackStep_calm w _ free
    · exact free
  intro v hv
  dsimp only [left] at hv
  split at hv
  · rcases mem_modify.mp hv with ⟨_, _, _, rfl⟩ | ⟨old, _⟩
    · exact gone
    · exact h v old
  · exact h v (List.mem_filter.mp hv).1

omit [DisplayServer δ] [Renderer σ] in
theorem restated_calm (id : WindowId) (state : ClientState) (h : c.windows.Calm) :
    (c.restated id state).windows.Calm := by
  intro v hv
  rcases mem_modify.mp hv with ⟨w, hw, _, rfl⟩ | ⟨old, _⟩
  · exact h w hw
  · exact h v old

/-- No reply is awaited from one call to the next. -/
theorem step_calm (W : World ω δ σ) {k : Step ω} (fresh : k.AddsFresh)
    (distinct : c.windows.Distinct) (h : c.windows.Calm) : (c.step W k).windows.Calm := by
  by_cases inner : k.Inner
  · exact ((evolves_preserved distinct).step W inner (Evolves.refl distinct)).calm h
  · cases k with
    | addWindow w =>
      have fresh : w.Fresh := fresh
      rcases c.addWindow_windows w with e | ⟨_, e⟩
      · exact e ▸ h
      · exact e ▸ entered_calm fresh.blank.2.1 h
    | removeWindow id keepPlaceholder =>
      rcases c.removeWindow_windows id keepPlaceholder with e | ⟨w, found, _, e⟩
      · exact e ▸ h
      · exact e ▸ left_calm (h w (mem_of_get? found).1) keepPlaceholder h
    | setClientState id state =>
      rcases c.setClientState_windows id state with e | ⟨w, old, _, _, e⟩
      · exact e ▸ h
      · exact e ▸ restated_calm id state h
    | outside o => exact h
    | _ => exact (inner trivial).elim

/-- No reply is awaited in a reachable compositor. -/
theorem run_calm (W : World ω δ σ) (d : δ) (r : σ) (options : CompositingOptions)
    {steps : List (Step ω)} (fresh : ∀ k ∈ steps, k.AddsFresh) :
    ((Compositor.new d r options).run W steps).windows.Calm := by
  have start : (Compositor.new d r options).windows.Distinct ∧
      (Compositor.new d r options).windows.Calm :=
    ⟨List.nodup_nil, by simp [Calm, Compositor.new, WindowStack.empty]⟩
  have keeps (c : Compositor δ σ) (k : Step ω) (adds : k.AddsFresh)
      (h : c.windows.Distinct ∧ c.windows.Calm) :
      (c.step W k).windows.Distinct ∧ (c.step W k).windows.Calm :=
    ⟨step_distinct W k h.1, step_calm W adds h.1 h.2⟩
  exact (run_preserves W (P := fun c => c.windows.Distinct ∧ c.windows.Calm) keeps start fresh).2

end Compositor

end Compositing
