import Compositing.Proofs.Hereditary

/-!
# Untracked windows are not damaged

Damage is reported only of tracked windows, and it is forgotten when a window is let go. So
nothing is ever asked of the server for a window that is not tracked.
-/

namespace Compositing

namespace Toplevel

def Tidy (w : Toplevel) : Prop := w.damage? = none → w.isDamaged = false

theorem Tidy.of_eq {w w' : Toplevel} (h : w.Tidy) (damage : w'.damage? = w.damage?)
    (dirty : w'.isDamaged = w.isDamaged) : w'.Tidy := by
  rw [Tidy, damage, dirty]
  exact h

theorem hereditary_tidy : Hereditary Tidy where
  same := fun same h => h.of_eq same.damage same.dirty
  tracked := fun handle _ => by simp [Tidy, trackedBy]
  released := fun _ _ => rfl
  marked := fun {w} tracked _ untracked => by
    have none : w.damage? = none := untracked
    simp [none] at tracked
  requested := fun _ _ _ => rfl
  collected := fun _ h => h.of_eq rfl rfl
  recast := fun _ _ _ h => h.of_eq rfl rfl

end Toplevel

def WindowStack.Tidy (s : WindowStack) : Prop := ∀ w ∈ s.windows, w.Tidy

namespace Compositor

variable {ω δ σ : Type} [DisplayServer δ] [Renderer σ] {c : Compositor δ σ}

theorem tidy_preserved : Preserved fun c : Compositor δ σ => c.windows.Tidy :=
  each_preserved Toplevel.hereditary_tidy

theorem step_tidy (W : World ω δ σ) (k : Step ω) (fresh : k.AddsFresh) (h : c.windows.Tidy) :
    (c.step W k).windows.Tidy := by
  refine step_each Toplevel.hereditary_tidy W k ?_ h
  exact fresh.imp fun _ fresh _ => fresh.blank.2.2.1

end Compositor

end Compositing
