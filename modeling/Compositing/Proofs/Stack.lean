import Compositing.Window.Stack
import Mathlib.Data.List.Nodup
import Mathlib.Data.List.Perm.Basic

/-!
# Windows of a stack by their ids

As long as no id occurs twice, looking a window up and changing it in place do what they
say. A visit goes through ids one after the other; what each turn preserves is preserved
by the visit.
-/

namespace Compositing

/-- What is put at the end of a list without two of one key has a key of its own. -/
theorem nodup_map_snoc {α β : Type} {key : α → β} {l : List α} {a : α}
    (once : (l.map key).Nodup) (fresh : ∀ b ∈ l, key b ≠ key a) :
    ((l ++ [a]).map key).Nodup := by
  rw [List.map_append]
  refine List.nodup_append.mpr ⟨once, List.nodup_singleton _, ?_⟩
  rintro k old k' new rfl
  obtain ⟨b, hb, rfl⟩ := List.mem_map.mp old
  exact fresh b hb (List.mem_singleton.mp new)

namespace WindowStack

variable {τ : Type}

def Distinct (s : WindowStack) : Prop := s.ids.Nodup

theorem mem_of_get? {s : WindowStack} {id : WindowId} {w : Toplevel}
    (found : s.get? id = some w) : w ∈ s.windows ∧ w.id = id :=
  ⟨List.mem_of_find?_eq_some found, by simpa using List.find?_some found⟩

theorem eq_of_id_eq {s : WindowStack} (distinct : s.Distinct) {v w : Toplevel}
    (hv : v ∈ s.windows) (hw : w ∈ s.windows) (same : v.id = w.id) : v = w :=
  List.inj_on_of_nodup_map distinct hv hw same

theorem get?_of_mem {s : WindowStack} (distinct : s.Distinct) {w : Toplevel}
    (hw : w ∈ s.windows) : s.get? w.id = some w := by
  cases found : s.get? w.id with
  | none =>
    have h := List.find?_eq_none.mp found w hw
    simp at h
  | some v =>
    have hv := mem_of_get? found
    rw [eq_of_id_eq distinct hv.1 hw hv.2]

/-- The window that is looked up is the only one with its id. -/
theorem eq_of_get? {s : WindowStack} (distinct : s.Distinct) {id : WindowId} {v w : Toplevel}
    (found : s.get? id = some w) (hv : v ∈ s.windows) (same : v.id = id) : v = w := by
  have hw := mem_of_get? found
  exact eq_of_id_eq distinct hv hw.1 (same.trans hw.2.symm)

theorem get?_eq_none_iff {s : WindowStack} {id : WindowId} :
    s.get? id = none ↔ ∀ w ∈ s.windows, w.id ≠ id := by
  simp [get?]

theorem contains_eq_false_iff {s : WindowStack} {id : WindowId} :
    s.contains id = false ↔ ∀ w ∈ s.windows, w.id ≠ id := by
  rw [contains, Option.isSome_eq_false_iff, Option.isNone_iff_eq_none, get?_eq_none_iff]

theorem mem_modify {s : WindowStack} {id : WindowId} {f : Toplevel → Toplevel} {v : Toplevel} :
    v ∈ (s.modify id f).windows ↔
      (∃ w ∈ s.windows, w.id = id ∧ v = f w) ∨ (v ∈ s.windows ∧ v.id ≠ id) := by
  simp only [modify, List.mem_map]
  constructor
  · rintro ⟨w, hw, rfl⟩
    by_cases h : w.id = id
    · exact Or.inl ⟨w, hw, h, by simp [h]⟩
    · exact Or.inr (by simpa [h] using hw)
  · rintro (⟨w, hw, h, rfl⟩ | ⟨hv, h⟩)
    · exact ⟨w, hw, by simp [h]⟩
    · exact ⟨v, hv, by simp [h]⟩

/-- A window put in the place of the one that was looked up. -/
theorem mem_replace {s : WindowStack} {id : WindowId} {w u v : Toplevel}
    (found : s.get? id = some w) :
    v ∈ (s.modify id fun _ => u).windows ↔ v = u ∨ (v ∈ s.windows ∧ v.id ≠ id) := by
  have hw := mem_of_get? found
  rw [mem_modify]
  constructor
  · rintro (⟨_, _, _, h⟩ | h)
    · exact Or.inl h
    · exact Or.inr h
  · rintro (h | h)
    · exact Or.inl ⟨w, hw.1, hw.2, h⟩
    · exact Or.inr h

/-- What is said of the window with an id is said of the one that is looked up. -/
theorem exists_iff_of_get? {s : WindowStack} (distinct : s.Distinct) {id : WindowId}
    {w : Toplevel} (found : s.get? id = some w) {P : Toplevel → Prop} :
    (∃ v ∈ s.windows, v.id = id ∧ P v) ↔ P w := by
  have hw := mem_of_get? found
  constructor
  · rintro ⟨v, hv, same, holds⟩
    rwa [eq_of_get? distinct found hv same] at holds
  · intro holds
    exact ⟨w, hw.1, hw.2, holds⟩

/-- What is said of the window with an id, after one was put in another's place. -/
theorem exists_replace {s : WindowStack} {id : WindowId} {w u : Toplevel}
    (found : s.get? id = some w) (same : u.id = id) {P : Toplevel → Prop} {i : WindowId} :
    (∃ v ∈ (s.modify id fun _ => u).windows, v.id = i ∧ P v) ↔
      (i = id ∧ P u) ∨ (i ≠ id ∧ ∃ v ∈ s.windows, v.id = i ∧ P v) := by
  constructor
  · rintro ⟨v, hv, rfl, holds⟩
    rcases (mem_replace found).mp hv with rfl | ⟨hv, other⟩
    · exact Or.inl ⟨same, holds⟩
    · exact Or.inr ⟨other, v, hv, rfl, holds⟩
  · rintro (⟨rfl, holds⟩ | ⟨other, v, hv, rfl, holds⟩)
    · exact ⟨u, (mem_replace found).mpr (Or.inl rfl), same, holds⟩
    · exact ⟨v, (mem_replace found).mpr (Or.inr ⟨hv, other⟩), rfl, holds⟩

theorem modify_ids {s : WindowStack} {id : WindowId} {f : Toplevel → Toplevel}
    (keeps : ∀ w ∈ s.windows, w.id = id → (f w).id = id) : (s.modify id f).ids = s.ids := by
  simp only [ids, modify, List.map_map]
  apply List.map_congr_left
  intro w hw
  by_cases h : w.id = id
  · simpa [h] using keeps w hw h
  · simp [h]

theorem Distinct.modify {s : WindowStack} (distinct : s.Distinct) {id : WindowId}
    {f : Toplevel → Toplevel} (keeps : ∀ w ∈ s.windows, w.id = id → (f w).id = id) :
    (s.modify id f).Distinct := by
  rw [Distinct, modify_ids keeps]
  exact distinct

theorem Distinct.apart {s : WindowStack} (distinct : s.Distinct) {below rest : List Toplevel}
    {w : Toplevel} (split : s.windows = below ++ w :: rest) :
    (∀ v ∈ below, v.id ≠ w.id) ∧ ∀ v ∈ rest, v.id ≠ w.id := by
  rw [Distinct, ids, split, List.map_append, List.map_cons] at distinct
  obtain ⟨_, once, apart⟩ := List.nodup_append.mp distinct
  constructor
  · intro v hv
    exact apart v.id (List.mem_map_of_mem hv) w.id List.mem_cons_self
  · intro v hv same
    exact (List.nodup_cons.mp once).1 (same ▸ List.mem_map_of_mem hv)

/-- Replacing a window changes it in its place. -/
theorem Distinct.replace {s : WindowStack} (distinct : s.Distinct) {below above : List Toplevel}
    {w : Toplevel} (split : s.windows = below ++ w :: above) (u : Toplevel) :
    s.modify w.id (fun _ => u) = ⟨below ++ u :: above⟩ := by
  obtain ⟨under, beyond⟩ := distinct.apart split
  have kept {rest : List Toplevel} (others : ∀ v ∈ rest, v.id ≠ w.id) :
      (rest.map fun v => if v.id == w.id then u else v) = rest := by
    conv_rhs => rw [← List.map_id rest]
    refine List.map_congr_left fun v hv => ?_
    simp [others v hv]
  rw [WindowStack.modify, split, List.map_append, List.map_cons, kept under, kept beyond]
  simp

/-- Putting a window where it already stands changes nothing. -/
theorem replace_self {s : WindowStack} (distinct : s.Distinct) {id : WindowId} {w : Toplevel}
    (found : s.get? id = some w) : (s.modify id fun _ => w) = s := by
  have hw := mem_of_get? found
  have fixed : s.windows.map (fun v => if v.id == id then w else v) = s.windows := by
    conv_rhs => rw [← List.map_id s.windows]
    apply List.map_congr_left
    intro v hv
    by_cases h : v.id = id
    · simp [eq_of_get? distinct found hv h]
    · simp [h]
  rw [modify, fixed]

/-- Changing the window on top. -/
theorem modify_top {s : WindowStack} {w u : Toplevel} (fresh : s.contains w.id = false) :
    (⟨s.windows ++ [w]⟩ : WindowStack).modify w.id (fun _ => u) = ⟨s.windows ++ [u]⟩ := by
  have others : s.windows.map (fun v => if v.id == w.id then u else v) = s.windows := by
    conv_rhs => rw [← List.map_id s.windows]
    apply List.map_congr_left
    intro v hv
    simp [contains_eq_false_iff.mp fresh v hv]
  simpa [modify] using others

theorem get?_replace {s : WindowStack} {id : WindowId} {w u : Toplevel}
    (found : s.get? id = some w) (same : u.id = id) :
    (s.modify id fun _ => u).get? id = some u := by
  have looked (v : Toplevel) : ((if v.id == id then u else v).id == id) = (v.id == id) := by
    by_cases here : v.id = id
    · simp [here, same]
    · simp [here]
  have hw := (mem_of_get? found).2
  rw [get?] at found
  simp only [get?, modify, List.find?_map, Function.comp_def, looked]
  rw [found, Option.map_some, hw, beq_self_eq_true, if_pos rfl]

theorem get?_replace_of_ne {s : WindowStack} {id i : WindowId} {u : Toplevel} (same : u.id = id)
    (other : i ≠ id) : (s.modify id fun _ => u).get? i = s.get? i := by
  have looked : (fun v : Toplevel => (if v.id == id then u else v).id == i) = (·.id == i) := by
    funext v
    by_cases here : v.id = id
    · simp [here, same]
    · simp [here]
  simp only [get?, modify, List.find?_map, Function.comp_def, looked]
  cases found : s.windows.find? (·.id == i) with
  | none => rfl
  | some w =>
    have there : w.id = i := by simpa using List.find?_some found
    simp [there, other]

/-- Looking up all ids of a stack gives its windows. -/
theorem filterMap_get?_ids {s : WindowStack} (distinct : s.Distinct) :
    s.ids.filterMap s.get? = s.windows := by
  rw [ids, List.filterMap_map]
  conv_rhs => rw [← List.filterMap_some (l := s.windows)]
  exact List.filterMap_congr fun w hw => get?_of_mem distinct hw

theorem modify_replace (s : WindowStack) {id : WindowId} {u : Toplevel} (same : u.id = id)
    (v : Toplevel) :
    (s.modify id fun _ => u).modify id (fun _ => v) = s.modify id fun _ => v := by
  simp only [modify, List.map_map]
  congr 1
  apply List.map_congr_left
  intro w _
  by_cases here : w.id = id
  · simp [here, same]
  · simp [here]

theorem remove_replace (s : WindowStack) {id : WindowId} {u : Toplevel} (same : u.id = id) :
    (s.modify id fun _ => u).remove id = s.remove id := by
  obtain ⟨windows⟩ := s
  simp only [remove, modify]
  congr 1
  induction windows with
  | nil => rfl
  | cons v rest ih =>
    by_cases here : v.id = id
    · simpa [here, same] using ih
    · simpa [here] using ih

theorem mem_remove_ids {s : WindowStack} {id i : WindowId} :
    i ∈ (s.remove id).ids ↔ i ∈ s.ids ∧ i ≠ id := by
  simp only [ids, remove, List.mem_map, List.mem_filter, bne_iff_ne, ne_eq]
  constructor
  · rintro ⟨w, ⟨hw, other⟩, rfl⟩
    exact ⟨⟨w, hw, rfl⟩, other⟩
  · rintro ⟨⟨w, hw, rfl⟩, other⟩
    exact ⟨w, ⟨hw, other⟩, rfl⟩

theorem Distinct.filter {s : WindowStack} (distinct : s.Distinct) (keep : Toplevel → Bool) :
    Distinct ⟨s.windows.filter keep⟩ :=
  List.Nodup.sublist (List.filter_sublist.map _) distinct

theorem Distinct.insert {s : WindowStack} (distinct : s.Distinct) (w : Toplevel) :
    (s.insert w).Distinct := by
  rw [WindowStack.insert]
  split
  · exact distinct.modify fun _ _ _ => rfl
  · rename_i unknown
    exact nodup_map_snoc distinct (contains_eq_false_iff.mp (by simpa using unknown))

/-! The order of a stack after windows were put on top. -/

theorem eraseDups_nodup (order : List WindowId) : order.eraseDups.Nodup := by
  induction h : order.length using Nat.strongRecOn generalizing order with
  | ind n ih =>
    subst h
    cases order with
    | nil => exact List.nodup_nil
    | cons id rest =>
      rw [List.eraseDups_cons]
      refine List.nodup_cons.mpr ⟨by simp [List.mem_eraseDups], ?_⟩
      exact ih _ (Nat.lt_succ_of_le (List.length_filter_le _ _)) _ rfl

theorem filterMap_get?_nodup {s : WindowStack} {order : List WindowId} (once : order.Nodup) :
    ((order.filterMap s.get?).map (·.id)).Nodup := by
  induction order with
  | nil => simp
  | cons id rest ih =>
    obtain ⟨fresh, once⟩ := List.nodup_cons.mp once
    cases found : s.get? id with
    | none => simpa [List.filterMap_cons, found] using ih once
    | some w =>
      simp only [List.filterMap_cons, found, List.map_cons]
      refine List.nodup_cons.mpr ⟨?_, ih once⟩
      intro again
      obtain ⟨v, hv, same⟩ := List.mem_map.mp again
      obtain ⟨id', mentioned, found'⟩ := List.mem_filterMap.mp hv
      rw [(mem_of_get? found').2] at same
      rw [same, (mem_of_get? found).2] at mentioned
      exact fresh mentioned

theorem mem_restack {s : WindowStack} (distinct : s.Distinct) (order : List WindowId)
    {w : Toplevel} : w ∈ (s.restack order).windows ↔ w ∈ s.windows := by
  simp only [restack, List.mem_append, List.mem_filter, List.mem_filterMap, List.mem_eraseDups]
  constructor
  · rintro (h | ⟨id, _, found⟩)
    · exact h.1
    · exact (mem_of_get? found).1
  · intro hw
    by_cases h : w.id ∈ order
    · exact Or.inr ⟨w.id, h, get?_of_mem distinct hw⟩
    · exact Or.inl ⟨hw, by simpa using h⟩

theorem Distinct.restack {s : WindowStack} (distinct : s.Distinct) (order : List WindowId) :
    (s.restack order).Distinct := by
  simp only [Distinct, ids, WindowStack.restack, List.map_append]
  refine List.nodup_append.mpr ⟨distinct.filter _, filterMap_get?_nodup (eraseDups_nodup order), ?_⟩
  rintro a below b listed rfl
  obtain ⟨v, hv, rfl⟩ := List.mem_map.mp below
  obtain ⟨w, hw, same⟩ := List.mem_map.mp listed
  obtain ⟨id, mentioned, found⟩ := List.mem_filterMap.mp hw
  rw [(mem_of_get? found).2] at same
  rw [List.mem_eraseDups, same] at mentioned
  simp [mentioned] at hv

/-! Visits. -/

/-- What holds at first and survives each turn, with one id less to go, holds in the end. -/
theorem visit_induction {f : Toplevel → τ → Toplevel × τ}
    {P : List WindowId → WindowStack → τ → Prop} {ids : List WindowId} {s : WindowStack} {t : τ}
    (start : P ids s t)
    (skip : ∀ id rest s t, s.get? id = none → P (id :: rest) s t → P rest s t)
    (turn : ∀ id rest s t w, s.get? id = some w → P (id :: rest) s t →
      P rest (s.modify id fun _ => (f w t).1) (f w t).2) :
    P [] (visit ids f s t).1 (visit ids f s t).2 := by
  induction ids generalizing s t with
  | nil => exact start
  | cons id rest ih =>
    rw [visit]
    cases found : s.get? id with
    | none => exact ih (skip id rest s t found start)
    | some w => exact ih (turn id rest s t w found start)

/-- If every turn makes `Q` hold of its window, then after a visit `Q` holds of all windows of
which it held before or whose turn came. -/
theorem visit_all {I : WindowStack → τ → Prop} {Q : Toplevel → Prop}
    {f : Toplevel → τ → Toplevel × τ} {ids : List WindowId} {s : WindowStack} {t : τ}
    (start : I s t) (listed : ∀ w ∈ s.windows, Q w ∨ w.id ∈ ids)
    (turn : ∀ id s t w, s.get? id = some w → I s t →
      I (s.modify id fun _ => (f w t).1) (f w t).2 ∧ Q (f w t).1) :
    ∀ w ∈ (s.visit ids f t).1.windows, Q w := by
  let P : List WindowId → WindowStack → τ → Prop :=
    fun rest s t => I s t ∧ ∀ w ∈ s.windows, Q w ∨ w.id ∈ rest
  have begin : P ids s t := ⟨start, listed⟩
  have done : P [] (s.visit ids f t).1 (s.visit ids f t).2 := by
    refine visit_induction begin ?_ ?_
    · rintro id rest s t unknown ⟨kept, listed⟩
      refine ⟨kept, fun w hw => (listed w hw).imp_right fun coming => ?_⟩
      have other := get?_eq_none_iff.mp unknown w hw
      exact (List.mem_cons.mp coming).resolve_left other
    · rintro id rest s t w found ⟨kept, listed⟩
      obtain ⟨kept, had⟩ := turn id s t w found kept
      refine ⟨kept, fun v hv => ?_⟩
      rcases (mem_replace found).mp hv with rfl | ⟨hv, other⟩
      · exact Or.inl had
      · exact (listed v hv).imp_right fun coming => (List.mem_cons.mp coming).resolve_left other
  intro w hw
  simpa using done.2 w hw

/-- Every window after a visit has come from one before it, as the turns have changed it. -/
theorem visit_old {R : Toplevel → Toplevel → Prop} (same : ∀ w, R w w)
    (chain : ∀ u v w, R u v → R v w → R u w) {f : Toplevel → τ → Toplevel × τ}
    (turn : ∀ w t, R w (f w t).1) (ids : List WindowId) (s : WindowStack) (t : τ) :
    ∀ w' ∈ (s.visit ids f t).1.windows, ∃ w ∈ s.windows, R w w' := by
  let P : List WindowId → WindowStack → τ → Prop :=
    fun _ s' _ => ∀ w' ∈ s'.windows, ∃ w ∈ s.windows, R w w'
  have start : P ids s t := fun w hw => ⟨w, hw, same w⟩
  refine visit_induction start (fun _ _ _ _ _ h => h) ?_
  intro id rest s' t' v found h w' hw'
  rcases (mem_replace found).mp hw' with rfl | ⟨hw', _⟩
  · obtain ⟨w, hw, old⟩ := h v (mem_of_get? found).1
    exact ⟨w, hw, chain w v _ old (turn v t')⟩
  · exact h w' hw'

/-- Turns that agree up to what a function forgets of the state make visits that do. -/
theorem visit_hom {τ' : Type} (forget : τ → τ') {f : Toplevel → τ → Toplevel × τ}
    {f' : Toplevel → τ' → Toplevel × τ'}
    (turn : ∀ w t, f' w (forget t) = ((f w t).1, forget (f w t).2))
    (ids : List WindowId) (s : WindowStack) (t : τ) :
    visit ids f' s (forget t) = ((visit ids f s t).1, forget (visit ids f s t).2) := by
  induction ids generalizing s t with
  | nil => rfl
  | cons id rest ih =>
    simp only [visit]
    cases s.get? id with
    | none => exact ih s t
    | some w =>
      simp only [turn w t]
      exact ih _ _

/-- Turns that keep the ids make visits that do. -/
theorem visit_ids {f : Toplevel → τ → Toplevel × τ} (keeps : ∀ w t, (f w t).1.id = w.id)
    (ids : List WindowId) (s : WindowStack) (t : τ) : (s.visit ids f t).1.ids = s.ids := by
  have start : s.ids = s.ids := rfl
  refine visit_induction (P := fun _ s' _ => s'.ids = s.ids) start (fun _ _ _ _ _ h => h) ?_
  intro id rest s' t' w found same
  rw [modify_ids fun _ _ _ => (keeps w t').trans (mem_of_get? found).2, same]

/-- Each window takes its turn as it was before the visit, if no id comes twice. -/
theorem visit_state {f : Toplevel → τ → Toplevel × τ} (keeps : ∀ w t, (f w t).1.id = w.id)
    {ids : List WindowId} (once : ids.Nodup) (s : WindowStack) (t : τ) :
    (s.visit ids f t).2 = (ids.filterMap s.get?).foldl (fun t w => (f w t).2) t := by
  induction ids generalizing s t with
  | nil => rfl
  | cons id rest ih =>
    obtain ⟨fresh, once⟩ := List.nodup_cons.mp once
    rw [visit]
    cases found : s.get? id with
    | none => simpa [found] using ih once s t
    | some w =>
      have same : (f w t).1.id = id := (keeps w t).trans (mem_of_get? found).2
      have others : rest.filterMap (s.modify id fun _ => (f w t).1).get? =
          rest.filterMap s.get? := by
        refine List.filterMap_congr fun i hi => get?_replace_of_ne same ?_
        rintro rfl
        exact fresh hi
      rw [List.filterMap_cons, found]
      exact (ih once _ _).trans (by rw [others]; rfl)

/-- A visit whose turns see only their window, if no id comes twice. -/
theorem visit_windows {f : Toplevel → τ → Toplevel × τ} {g : Toplevel → Toplevel}
    (turn : ∀ w t, (f w t).1 = g w) (keeps : ∀ w, (g w).id = w.id) {ids : List WindowId}
    (once : ids.Nodup) {s : WindowStack} (distinct : s.Distinct) (t : τ) :
    (s.visit ids f t).1.windows = s.windows.map fun w => if w.id ∈ ids then g w else w := by
  induction ids generalizing s t with
  | nil => simp [visit]
  | cons id rest ih =>
    obtain ⟨fresh, once⟩ := List.nodup_cons.mp once
    rw [visit]
    cases found : s.get? id with
    | none =>
      rw [ih once distinct t]
      refine List.map_congr_left fun w hw => ?_
      simp [get?_eq_none_iff.mp found w hw]
    | some w =>
      have same : (g w).id = id := (keeps w).trans (mem_of_get? found).2
      dsimp only
      rw [turn, ih once (distinct.modify fun _ _ _ => same), modify, List.map_map]
      refine List.map_congr_left fun v hv => ?_
      by_cases here : v.id = id
      · obtain rfl := eq_of_get? distinct found hv here
        simp [here, same, fresh]
      · simp [here]

/-- Every window of `s` has become another one in its place, as `R` allows. -/
def Becomes (R : Toplevel → Toplevel → Prop) (s s' : WindowStack) : Prop :=
  ∃ g : Toplevel → Toplevel, s'.windows = s.windows.map g ∧ ∀ w ∈ s.windows, R w (g w)

theorem Becomes.refl {R : Toplevel → Toplevel → Prop} (same : ∀ w, R w w) (s : WindowStack) :
    Becomes R s s := ⟨id, by simp, fun w _ => same w⟩

theorem Becomes.imp {R R' : Toplevel → Toplevel → Prop} (more : ∀ v w, R v w → R' v w)
    {s s' : WindowStack} (h : Becomes R s s') : Becomes R' s s' := by
  obtain ⟨g, shape, allowed⟩ := h
  exact ⟨g, shape, fun w hw => more w (g w) (allowed w hw)⟩

theorem Becomes.trans {R : Toplevel → Toplevel → Prop} (chain : ∀ u v w, R u v → R v w → R u w)
    {s s' s'' : WindowStack} (first : Becomes R s s') (second : Becomes R s' s'') :
    Becomes R s s'' := by
  obtain ⟨g, shape, allowed⟩ := first
  obtain ⟨g', shape', allowed'⟩ := second
  refine ⟨g' ∘ g, by rw [shape', shape, List.map_map], fun w hw => ?_⟩
  have member : g w ∈ s'.windows := shape ▸ List.mem_map_of_mem hw
  exact chain w (g w) _ (allowed w hw) (allowed' (g w) member)

theorem Becomes.modify {R : Toplevel → Toplevel → Prop} (same : ∀ w, R w w) (s : WindowStack)
    (id : WindowId) {f : Toplevel → Toplevel} (change : ∀ w ∈ s.windows, w.id = id → R w (f w)) :
    Becomes R s (s.modify id f) := by
  refine ⟨fun w => if w.id == id then f w else w, rfl, fun w hw => ?_⟩
  by_cases h : w.id = id
  · simpa [h] using change w hw h
  · simpa [h] using same w

/-- A visit changes each window as `R` allows, if every turn does. -/
theorem Becomes.visit {R : Toplevel → Toplevel → Prop} (same : ∀ w, R w w)
    (keeps : ∀ v w, R v w → w.id = v.id) {f : Toplevel → τ → Toplevel × τ} {ids : List WindowId}
    {s : WindowStack} (distinct : s.Distinct)
    (change : ∀ v ∈ s.windows, v.id ∈ ids → ∀ w t, R v w → R v (f w t).1) (t : τ) :
    Becomes R s (s.visit ids f t).1 := by
  -- the ids still to come stay among `ids`, and so far each window became what `R` allows
  let P : List WindowId → WindowStack → τ → Prop :=
    fun rest s' _ => (∀ id ∈ rest, id ∈ ids) ∧ Becomes R s s'
  have start : P ids s t := ⟨fun _ h => h, Becomes.refl same s⟩
  refine (visit_induction start ?_ ?_).2
  · intro id rest s' t' _ ⟨listed, so⟩
    exact ⟨fun i hi => listed i (List.mem_cons_of_mem id hi), so⟩
  intro id rest s' t' w found ⟨listed, g, shape, allowed⟩
  refine ⟨fun i hi => listed i (List.mem_cons_of_mem id hi), ?_⟩
  refine ⟨fun v => if (g v).id == id then (f w t').1 else g v, ?_, ?_⟩
  · simp [WindowStack.modify, shape]
  · intro v hv
    by_cases h : (g v).id = id
    · have hw := mem_of_get? found
      obtain ⟨u, hu, rfl⟩ := List.mem_map.mp (shape ▸ hw.1)
      have huv : u = v := by
        apply eq_of_id_eq distinct hu hv
        rw [← keeps u _ (allowed u hu), ← keeps v _ (allowed v hv), hw.2, h]
      subst huv
      have member : u.id ∈ ids := by
        rw [← keeps u _ (allowed u hu), h]
        exact listed id List.mem_cons_self
      simpa [h] using change u hu member (g u) t' (allowed u hu)
    · simpa [h] using allowed v hv

/-- A visit of which every turn changes a window as `R` allows. -/
theorem Becomes.round {R : Toplevel → Toplevel → Prop} (same : ∀ w, R w w)
    (chain : ∀ u v w, R u v → R v w → R u w) (keeps : ∀ v w, R v w → w.id = v.id)
    {f : Toplevel → τ → Toplevel × τ} (turn : ∀ w t, R w (f w t).1) {s : WindowStack}
    (distinct : s.Distinct) (ids : List WindowId) (t : τ) : Becomes R s (s.visit ids f t).1 :=
  Becomes.visit same keeps distinct (fun v _ _ w t h => chain v w _ h (turn w t)) t

theorem Becomes.ids_eq {R : Toplevel → Toplevel → Prop} (keeps : ∀ v w, R v w → w.id = v.id)
    {s s' : WindowStack} (h : Becomes R s s') : s'.ids = s.ids := by
  obtain ⟨g, shape, allowed⟩ := h
  simp only [ids, shape, List.map_map]
  exact List.map_congr_left fun w hw => keeps w _ (allowed w hw)

theorem Becomes.distinct {R : Toplevel → Toplevel → Prop} (keeps : ∀ v w, R v w → w.id = v.id)
    {s s' : WindowStack} (h : Becomes R s s') (distinct : s.Distinct) : s'.Distinct := by
  rw [Distinct, h.ids_eq keeps]
  exact distinct

end WindowStack

end Compositing
