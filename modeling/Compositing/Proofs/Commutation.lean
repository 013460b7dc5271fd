import Compositing.Proofs.Records
import Compositing.Renderer.Headless
import Mathlib.Data.List.Perm.Basic

/-!
# Renderers that take no notice of an order

Starting announces the windows and stopping discards what is held of them in an order that
nothing is to depend on. A renderer is blind to it if the order leads to states that are the
same, where states that are the same answer alike and stay the same whatever they are told.
The renderer that draws nothing is, and so is a blind one that keeps a record, as far as the
record does not tell the order of neighbouring calls of the one or the other kind.
-/

namespace Compositing

namespace Renderer

variable {σ : Type}

/-- What is the same cannot be told apart, and the order of announcements and of discards makes
no difference to it. -/
structure OrderBlind [Renderer σ] (same : σ → σ → Prop) : Prop where
  equivalence : Equivalence same
  start : ∀ b l rate? {r r'}, same r r' →
    (Renderer.start b l rate? r').1 = (Renderer.start b l rate? r).1 ∧
      same (Renderer.start b l rate? r).2 (Renderer.start b l rate? r').2
  paint : ∀ g ws {r r'}, same r r' →
    (Renderer.paint g ws r').1 = (Renderer.paint g ws r).1 ∧
      same (Renderer.paint g ws r).2 (Renderer.paint g ws r').2
  windowAdded : ∀ w {r r'}, same r r' → same (Renderer.windowAdded w r) (Renderer.windowAdded w r')
  windowClosed : ∀ w stays {r r'}, same r r' →
    same (Renderer.windowClosed w stays r) (Renderer.windowClosed w stays r')
  windowDeleted : ∀ w {r r'}, same r r' →
    same (Renderer.windowDeleted w r) (Renderer.windowDeleted w r')
  pixmapDiscarded : ∀ w {r r'}, same r r' →
    same (Renderer.pixmapDiscarded w r) (Renderer.pixmapDiscarded w r')
  idle : ∀ {r r'}, same r r' → same (Renderer.idle r) (Renderer.idle r')
  setOverlayVisible : ∀ on {r r'}, same r r' →
    same (Renderer.setOverlayVisible on r) (Renderer.setOverlayVisible on r')
  setOverlayShape : ∀ g {r r'}, same r r' →
    same (Renderer.setOverlayShape g r) (Renderer.setOverlayShape g r')
  backend : ∀ {r r'}, same r r' → Renderer.backend r' = Renderer.backend r
  syncsToBlank : ∀ {r r'}, same r r' → Renderer.syncsToBlank r' = Renderer.syncsToBlank r
  elevatedWindows : ∀ {r r'}, same r r' → Renderer.elevatedWindows r' = Renderer.elevatedWindows r
  fullscreenEffect : ∀ {r r'}, same r r' →
    Renderer.fullscreenEffect r' = Renderer.fullscreenEffect r
  overlayWindow? : ∀ {r r'}, same r r' → Renderer.overlayWindow? r' = Renderer.overlayWindow? r
  overlayVisible : ∀ {r r'}, same r r' → Renderer.overlayVisible r' = Renderer.overlayVisible r
  adds : ∀ v w r, same (Renderer.windowAdded v (Renderer.windowAdded w r))
    (Renderer.windowAdded w (Renderer.windowAdded v r))
  discards : ∀ v w r, same (Renderer.pixmapDiscarded v (Renderer.pixmapDiscarded w r))
    (Renderer.pixmapDiscarded w (Renderer.pixmapDiscarded v r))

/-- Turns that may be swapped may be taken in any order. -/
theorem foldl_perm {same : σ → σ → Prop} (equivalence : Equivalence same) {α : Type}
    {f : σ → α → σ} (congruent : ∀ a {r r'}, same r r' → same (f r a) (f r' a))
    (swaps : ∀ a b r, same (f (f r a) b) (f (f r b) a)) {l l' : List α} (reordered : l.Perm l')
    (r : σ) : same (l.foldl f r) (l'.foldl f r) := by
  have carried (l : List α) {r r' : σ} (h : same r r') : same (l.foldl f r) (l.foldl f r') := by
    induction l generalizing r r' with
    | nil => exact h
    | cons a rest ih => exact ih (congruent a h)
  induction reordered generalizing r with
  | nil => exact equivalence.refl r
  | cons a _ ih => exact ih (f r a)
  | swap a b rest => exact carried rest (swaps b a r)
  | trans _ _ first second => exact equivalence.trans (first r) (second r)

theorem OrderBlind.added [Renderer σ] {same : σ → σ → Prop} (blind : OrderBlind same)
    {ids ids' : List WindowId} (reordered : ids.Perm ids') (r : σ) :
    same (ids.foldl (fun r id => Renderer.windowAdded id r) r)
      (ids'.foldl (fun r id => Renderer.windowAdded id r) r) :=
  foldl_perm blind.equivalence blind.windowAdded (fun v w r => blind.adds w v r) reordered r

theorem OrderBlind.discarded [Renderer σ] {same : σ → σ → Prop} (blind : OrderBlind same)
    {windows windows' : List Toplevel} (reordered : windows.Perm windows') (r : σ) :
    same (windows.foldl (fun r w => Renderer.pixmapDiscarded w.id r) r)
      (windows'.foldl (fun r w => Renderer.pixmapDiscarded w.id r) r) :=
  foldl_perm blind.equivalence (fun w => blind.pixmapDiscarded w.id)
    (fun v w r => blind.discards w.id v.id r) reordered r

end Renderer

/-! The renderer that draws nothing. -/

namespace HeadlessRenderer

def unlisted (r : HeadlessRenderer) : HeadlessRenderer :=
  { r with scene := { r.scene with windows := [] } }

/-- The two differ at most in the order in which they list their windows. -/
structure Alike (r r' : HeadlessRenderer) : Prop where
  rest : r'.unlisted = r.unlisted
  windows : r.scene.windows.Perm r'.scene.windows

namespace Alike

variable {r r' : HeadlessRenderer}

/-- What does not look at the list is the same. -/
theorem view {α : Type} {f : HeadlessRenderer → α} (blind : ∀ r, f r.unlisted = f r)
    (h : Alike r r') : f r' = f r := by
  rw [← blind r', h.rest, blind r]

/-- A change that leaves the list as it is. -/
theorem change {f : HeadlessRenderer → HeadlessRenderer}
    (blind : ∀ r, (f r).unlisted = f r.unlisted) (list : ∀ r, (f r).scene.windows = r.scene.windows)
    (h : Alike r r') : Alike (f r) (f r') where
  rest := by rw [blind, blind, h.rest]
  windows := by
    rw [list, list]
    exact h.windows

theorem windowAdded (w : WindowId) (h : Alike r r') :
    Alike (Renderer.windowAdded w r) (Renderer.windowAdded w r') := by
  have listed := h.windows.contains_eq (a := w)
  dsimp only [Renderer.windowAdded, onScene, HeadlessScene.windowAdded]
  rw [← listed]
  split
  · exact h
  · exact ⟨h.rest, h.windows.append_right [w]⟩

theorem windowDeleted (w : WindowId) (h : Alike r r') :
    Alike (Renderer.windowDeleted w r) (Renderer.windowDeleted w r') :=
  ⟨h.rest, h.windows.filter (· != w)⟩

theorem start (b : Backend) (l : Layout) (rate? : Option UInt32) (h : Alike r r') :
    (Renderer.start b l rate? r').1 = (Renderer.start b l rate? r).1 ∧
      Alike (Renderer.start b l rate? r).2 (Renderer.start b l rate? r').2 := by
  have overlay : r'.overlay = r.overlay := h.view fun _ => rfl
  have paintTime : r'.paintTime = r.paintTime := h.view fun _ => rfl
  have paints : r'.paints = r.paints := h.view fun _ => rfl
  dsimp only [Renderer.start, HeadlessRenderer.start]
  rw [overlay]
  rcases HeadlessScene.create r.overlay b l with e | scene
  · exact ⟨rfl, h⟩
  · exact ⟨rfl, by simp only [unlisted, paintTime, paints], List.Perm.refl _⟩

end Alike

theorem equivalence : Equivalence Alike where
  refl _ := ⟨rfl, List.Perm.refl _⟩
  symm h := ⟨h.rest.symm, h.windows.symm⟩
  trans first second := ⟨second.rest.trans first.rest, first.windows.trans second.windows⟩

end HeadlessRenderer

/-! Renderers that keep a record. -/

/-- The records differ at most in the order of neighbouring announcements, and of neighbouring
discards. -/
inductive Reordered : List SceneCall → List SceneCall → Prop
  | refl (calls : List SceneCall) : Reordered calls calls
  | added (before after : List SceneCall) (v w : WindowId) :
      Reordered (before ++ [.added v, .added w] ++ after) (before ++ [.added w, .added v] ++ after)
  | discarded (before after : List SceneCall) (v w : WindowId) :
      Reordered (before ++ [.discarded v, .discarded w] ++ after)
        (before ++ [.discarded w, .discarded v] ++ after)
  | trans {calls calls' calls'' : List SceneCall} (first : Reordered calls calls')
      (second : Reordered calls' calls'') : Reordered calls calls''

namespace Reordered

variable {calls calls' : List SceneCall}

theorem symm (h : Reordered calls calls') : Reordered calls' calls := by
  induction h with
  | refl calls => exact refl calls
  | added before after v w => exact added before after w v
  | discarded before after v w => exact discarded before after w v
  | trans _ _ first second => exact second.trans first

theorem append_right (h : Reordered calls calls') (more : List SceneCall) :
    Reordered (calls ++ more) (calls' ++ more) := by
  induction h with
  | refl calls => exact refl (calls ++ more)
  | added before after v w => simpa using added before (after ++ more) v w
  | discarded before after v w => simpa using discarded before (after ++ more) v w
  | trans _ _ first second => exact first.trans second

end Reordered

namespace Recorded

variable {σ : Type}

structure Alike (same : σ → σ → Prop) (r r' : Recorded σ) : Prop where
  renderer : same r.renderer r'.renderer
  calls : Reordered r.calls r'.calls

theorem Alike.tell {same : σ → σ → Prop} {r r' : Recorded σ} (h : Alike same r r')
    (call : SceneCall) {f f' : σ → σ} (told : same (f r.renderer) (f' r'.renderer)) :
    Alike same (r.tell call f) (r'.tell call f') :=
  ⟨told, h.calls.append_right [call]⟩

end Recorded

end Compositing
