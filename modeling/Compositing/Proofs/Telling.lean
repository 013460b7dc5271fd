import Compositing.Proofs.Frames
import Compositing.Proofs.Records
import Compositing.Proofs.Stack

/-!
# What each operation tells the renderer

A record only grows, and what an operation adds to it is of few kinds: a pass and the end of
tracking only say that what is held of a window is out of date, a start that gets so far begins a
scene, and otherwise scenes are told of windows. Of frames they are told by frames alone.
-/

namespace Compositing

namespace SceneCall

def IsDiscard : SceneCall → Prop
  | .discarded _ => True
  | _ => False

def OfWindow : SceneCall → Prop
  | .added _ | .closed _ _ | .deleted _ | .discarded _ => True
  | .created | .idle | .painted _ _ => False

theorem IsDiscard.ofWindow {call : SceneCall} (h : call.IsDiscard) : call.OfWindow := by
  cases call with
  | discarded w => trivial
  | _ => exact h.elim

end SceneCall

namespace Recorded

variable {σ : Type} {kind kind' : SceneCall → Prop} {r r' r'' : Recorded σ}

/-- From the first to the second, nothing but calls of one kind was told. -/
def Tells (kind : SceneCall → Prop) (r r' : Recorded σ) : Prop :=
  ∃ more, r'.calls = r.calls ++ more ∧ ∀ call ∈ more, kind call

theorem Tells.refl (r : Recorded σ) : Tells kind r r := ⟨[], by simp, by simp⟩

theorem Tells.trans (first : Tells kind r r') (second : Tells kind r' r'') :
    Tells kind r r'' := by
  obtain ⟨more, told, allowed⟩ := first
  obtain ⟨more', told', allowed'⟩ := second
  refine ⟨more ++ more', by rw [told', told, List.append_assoc], fun call told => ?_⟩
  exact (List.mem_append.mp told).elim (allowed call) (allowed' call)

theorem Tells.mono (h : Tells kind r r') (weaker : ∀ call, kind call → kind' call) :
    Tells kind' r r' := by
  obtain ⟨more, told, allowed⟩ := h
  exact ⟨more, told, fun call told => weaker call (allowed call told)⟩

theorem Tells.one {call : SceneCall} (told : r'.calls = r.calls ++ [call])
    (allowed : kind call) : Tells kind r r' :=
  ⟨[call], told, by simpa using allowed⟩

/-- What holds of the record and is kept by every call of the kind holds later on. -/
theorem Tells.induction {P : List SceneCall → Prop} (h : Tells kind r r')
    (keeps : ∀ calls call, kind call → P calls → P (calls ++ [call])) (start : P r.calls) :
    P r'.calls := by
  obtain ⟨more, told, allowed⟩ := h
  rw [told]
  clear told
  induction more using List.reverseRecOn with
  | nil => simpa using start
  | append_singleton rest call ih =>
    rw [← List.append_assoc]
    refine keeps _ call (allowed call (by simp)) (ih fun call told => ?_)
    exact allowed call (List.mem_append_left _ told)

end Recorded

namespace Compositor

open Recorded (Tells)
open SceneCall (IsDiscard OfWindow)
open WindowStack

variable {δ σ : Type} [DisplayServer δ] [Renderer σ] {c : Compositor δ (Recorded σ)}

/-! The turns of the windows in a visit. -/

theorem bypassStep_tells (now : Nanos) (eligible : List WindowId) (w : Toplevel)
    (p : BypassPass δ (Recorded σ)) :
    Tells IsDiscard p.renderer (bypassStep now eligible w p).2.renderer :=
  bypassStep_induction (P := fun _ _ r => Tells IsDiscard p.renderer r) now eligible w p
    (Tells.refl _) (Tells.one rfl trivial) (Tells.one rfl trivial)

theorem untrackStep_tells (w : Toplevel) (t : δ × Recorded σ) :
    Tells IsDiscard t.2 (untrackStep w t).2.2 :=
  untrackStep_induction (P := fun _ _ r => Tells IsDiscard t.2 r) w t (fun _ => Tells.refl _)
    fun _ _ _ => Tells.one rfl trivial

/-- A window is left alone, or a damage object is made for it and the scene is told of it. -/
theorem trackStep_told (w : Toplevel) (t : δ × Recorded σ) :
    ((trackStep w t).1 = w ∧ (trackStep w t).2.2.calls = t.2.calls) ∨
      ∃ handle, (trackStep w t).1 = w.trackedBy handle ∧
        (trackStep w t).2.2.calls = t.2.calls ++ [.added w.id] := by
  refine trackStep_induction (P := fun u _ r => (u = w ∧ r.calls = t.2.calls) ∨
    ∃ handle, u = w.trackedBy handle ∧ r.calls = t.2.calls ++ [.added w.id]) w t ?_ ?_ ?_
  · exact Or.inl ⟨rfl, rfl⟩
  · exact fun _ _ _ => Or.inl ⟨rfl, rfl⟩
  · exact fun handle _ _ _ => Or.inr ⟨handle, rfl, rfl⟩

theorem trackStep_tells (w : Toplevel) (t : δ × Recorded σ) :
    Tells OfWindow t.2 (trackStep w t).2.2 := by
  rcases trackStep_told w t with ⟨_, calls⟩ | ⟨_, _, calls⟩
  · exact ⟨[], by simp [calls], by simp⟩
  · exact Tells.one calls trivial

omit [Renderer σ] in
/-- Turns that tell only calls of one kind make visits that do. -/
theorem visit_tells {τ : Type} {record : τ → Recorded σ} {kind : SceneCall → Prop}
    {f : Toplevel → τ → Toplevel × τ} (turn : ∀ w t, Tells kind (record t) (record (f w t).2))
    (ids : List WindowId) (s : WindowStack) (t : τ) :
    Tells kind (record t) (record (s.visit ids f t).2) := by
  refine visit_induction (P := fun _ _ t' => Tells kind (record t) (record t')) (Tells.refl _)
    (fun _ _ _ _ _ h => h) ?_
  intro id rest s t' w _ h
  exact h.trans (turn w t')

/-! Operations. -/

omit [DisplayServer δ] in
theorem paint_told (c : Compositor δ (Recorded σ)) :
    c.paint.renderer.calls = c.renderer.calls ++ [.painted c.repaints c.paintList] := by
  simp [paint, Renderer.paint, Recorded.paint, Recorded.tell]

theorem switchWindows_tells (c : Compositor δ (Recorded σ)) :
    Tells IsDiscard c.renderer c.switchWindows.2.renderer :=
  visit_tells (fun w p => bypassStep_tells c.timers.now _ w p) _ c.windows
    (⟨c.bypass, c.display, c.renderer, false, false⟩ : BypassPass δ (Recorded σ))

theorem untracked_tells (s : WindowStack) (ids : List WindowId) (t : δ × Recorded σ) :
    Tells IsDiscard t.2 (s.visit ids untrackStep t).2.2 :=
  visit_tells untrackStep_tells ids s t

omit [DisplayServer δ] in
theorem closeWindows_tells (windows : List Toplevel) (r : Recorded σ) :
    Tells OfWindow r (windows.foldl closeWindow r) := by
  induction windows generalizing r with
  | nil => exact Tells.refl r
  | cons w rest ih =>
    refine Tells.trans ?_ (ih (closeWindow r w))
    rw [closeWindow]
    split
    · exact Tells.one rfl trivial
    · exact Tells.one rfl trivial

theorem finish_tells (c : Compositor δ (Recorded σ)) :
    Tells OfWindow c.renderer c.finish.renderer := by
  have closed := closeWindows_tells c.windows.windows c.renderer
  have released := (untracked_tells c.windows c.windows.ids
    (c.display, c.windows.windows.foldl closeWindow c.renderer)).mono fun _ h => h.ofWindow
  rw [finish, finishBy]
  split
  · rw [(releaseSelection_frame _).1]
    exact closed.trans released
  · exact Tells.refl _

/-- On the way to a start a scene may begin, and it has begun if everything was acquired. -/
theorem acquire_tells (c : Compositor δ (Recorded σ)) :
    c.acquire.2.renderer.calls = c.renderer.calls ++ [.created] ∨
      c.acquire.1 ≠ .ok () ∧ c.acquire.2.renderer.calls = c.renderer.calls := by
  rw [acquire]
  dsimp only
  rcases DisplayServer.claimSelection _ c.display with ⟨e | ⟨⟩, d⟩
  · exact Or.inr ⟨by simp, rfl⟩
  dsimp only [Renderer.start, Recorded.start]
  rcases Renderer.start c.options.backend (DisplayServer.layout d)
    (DisplayServer.refreshRate? d) c.renderer.renderer with ⟨e | ⟨⟩, r⟩
  · exact Or.inr ⟨by simp, rfl⟩
  dsimp only
  rcases DisplayServer.redirectSubwindows d with ⟨e | ⟨⟩, d'⟩
  · exact Or.inl rfl
  · exact Or.inl rfl

theorem enable_tells (c : Compositor δ (Recorded σ)) :
    Tells OfWindow c.renderer (c.enable id).renderer := by
  have tracked := visit_tells (fun w t => trackStep_tells (δ := δ) w t) c.windows.ids c.windows
    (c.display, c.renderer)
  simpa [enable, visitWindows, emit] using tracked

end Compositor

end Compositing
