import Compositing.Proofs.Stack

/-!
# Rounds from bottom to top

A visit looks every window up when its turn comes. Where the turns go in the order of the stack,
and no id occurs twice, this comes to going once along the list of windows.
-/

namespace Compositing.WindowStack

variable {τ : Type}

/-- Goes along a list of windows; those that have a turn are taken through `f`. -/
def round (turns : Toplevel → Bool) (f : Toplevel → τ → Toplevel × τ) :
    List Toplevel → τ → List Toplevel × τ
  | [], t => ([], t)
  | w :: rest, t =>
    if turns w then
      ((f w t).1 :: (round turns f rest (f w t).2).1, (round turns f rest (f w t).2).2)
    else (w :: (round turns f rest t).1, (round turns f rest t).2)

variable {turns : Toplevel → Bool} {f : Toplevel → τ → Toplevel × τ}

theorem round_cons_turn {w : Toplevel} (has : turns w = true) (rest : List Toplevel) (t : τ) :
    round turns f (w :: rest) t =
      ((f w t).1 :: (round turns f rest (f w t).2).1, (round turns f rest (f w t).2).2) := by
  rw [round, if_pos has]

theorem round_cons_skip {w : Toplevel} (has : turns w = false) (rest : List Toplevel) (t : τ) :
    round turns f (w :: rest) t = (w :: (round turns f rest t).1, (round turns f rest t).2) := by
  rw [round, has]
  rfl

theorem round_append (below above : List Toplevel) (t : τ) :
    round turns f (below ++ above) t =
      ((round turns f below t).1 ++ (round turns f above (round turns f below t).2).1,
        (round turns f above (round turns f below t).2).2) := by
  induction below generalizing t with
  | nil => rfl
  | cons w rest ih =>
    cases has : turns w with
    | true =>
      rw [List.cons_append, round_cons_turn has, round_cons_turn has, ih]
      rfl
    | false =>
      rw [List.cons_append, round_cons_skip has, round_cons_skip has, ih]
      rfl

/-- What stands below in the stack had its turn before, and what stands above is still as it was. -/
theorem visit_eq_round (turns : Toplevel → Bool) (keeps : ∀ w t, (f w t).1.id = w.id)
    {s : WindowStack} (distinct : s.Distinct) (t : τ) :
    s.visit ((s.windows.filter turns).map (·.id)) f t =
      (⟨(round turns f s.windows t).1⟩, (round turns f s.windows t).2) := by
  have onward (above below : List Toplevel) (t : τ)
      (distinct : Distinct ⟨below ++ above⟩) :
      visit ((above.filter turns).map (·.id)) f ⟨below ++ above⟩ t =
        (⟨below ++ (round turns f above t).1⟩, (round turns f above t).2) := by
    induction above generalizing below t with
    | nil => simp [visit, round]
    | cons w rest ih =>
      cases has : turns w with
      | false =>
        rw [List.filter_cons_of_neg (by simp [has]), round_cons_skip has]
        have onward := ih (below ++ [w]) t (by simpa using distinct)
        simpa using onward
      | true =>
        have found : (WindowStack.mk (below ++ w :: rest)).get? w.id = some w :=
          get?_of_mem distinct (by simp)
        have others : (WindowStack.mk (below ++ w :: rest)).modify w.id (fun _ => (f w t).1) =
            ⟨below ++ (f w t).1 :: rest⟩ := distinct.replace rfl _
        rw [List.filter_cons_of_pos has, List.map_cons, visit, found, round_cons_turn has]
        dsimp only
        rw [others]
        have same : Distinct ⟨below ++ [(f w t).1] ++ rest⟩ := by
          simpa [Distinct, ids, keeps w t] using distinct
        have onward := ih (below ++ [(f w t).1]) (f w t).2 same
        simpa using onward
  exact onward s.windows [] t distinct

end Compositing.WindowStack
