import Compositing.Toml.Overlay
import Mathlib.Data.List.Nodup
import Mathlib.Data.List.Perm.Basic

/-!
# What a table over another one holds

Laying one table over another is told key by key: where both hold a table the two are laid over each
other, elsewhere the upper one decides wherever it holds something, and no key is added. Nothing
changes where either is empty, or where a table is laid over itself.
-/

namespace Compositing.Toml

variable {lower upper entries entries' : Table} {key : String}

/-- What is at a key of a table over another one, by what the two hold there. -/
def atop : Option Value → Option Value → Option Value
  | some (.table lower), some (.table upper) => some ((Value.table lower).overlay (.table upper))
  | _, some upper => some upper
  | lower?, none => lower?

def Table.Distinct (t : Table) : Prop := (t.map (·.1)).Nodup

mutual

/-- No table writes a key twice, at any depth of tables in tables. -/
def Value.Distinct : Value → Prop
  | .table entries => Table.Distinct entries ∧ entriesDistinct entries
  | _ => True

def entriesDistinct : Table → Prop
  | [] => True
  | (_, v) :: rest => v.Distinct ∧ entriesDistinct rest

end

@[simp] theorem atop_none (lower? : Option Value) : atop lower? none = lower? := by
  rcases lower? with _ | v
  · rfl
  · cases v <;> rfl

@[simp] theorem none_atop (upper? : Option Value) : atop none upper? = upper? := by
  cases upper? <;> rfl

@[simp] theorem atop_some (lower upper : Value) :
    atop (some lower) (some upper) = some (lower.overlay upper) := by
  cases lower <;> cases upper <;> simp [atop, Value.overlay]

/-! ## Looking a key up -/

theorem lookup_cons_ne {here : String} {held : Value} (other : key ≠ here) :
    List.lookup key ((here, held) :: entries) = entries.lookup key := by
  rw [List.lookup_cons, beq_eq_false_iff_ne.mpr other]

theorem Table.Distinct.lookup_eq_some_iff (h : Table.Distinct entries) {v : Value} :
    entries.lookup key = some v ↔ (key, v) ∈ entries := by
  induction entries with
  | nil => simp
  | cons e rest ih =>
    obtain ⟨here, held⟩ := e
    obtain ⟨fresh, later⟩ := List.nodup_cons.mp h
    rw [List.mem_cons, Prod.mk.injEq]
    by_cases same : key = here
    · subst same
      have gone : (key, v) ∉ rest := fun h => fresh (List.mem_map_of_mem (f := (·.1)) h)
      simp [gone, eq_comm]
    · simp [lookup_cons_ne same, same, ih later]

theorem Table.Distinct.lookup_perm (h : Table.Distinct entries) (perm : entries.Perm entries') :
    entries'.lookup key = entries.lookup key := by
  have h' : Table.Distinct entries' := (perm.map _).nodup_iff.mp h
  ext v
  rw [h'.lookup_eq_some_iff, h.lookup_eq_some_iff, perm.mem_iff]

theorem lookup_filter (entries : Table) (keep : String → Bool) (key : String) :
    List.lookup key (entries.filter fun e => keep e.1) =
      if keep key then entries.lookup key else none := by
  induction entries with
  | nil => simp
  | cons e rest ih =>
    obtain ⟨here, held⟩ := e
    by_cases same : key = here
    · subst same
      by_cases kept : keep key
      · simp [kept]
      · simpa [kept] using ih
    · by_cases kept : keep here
      · simp [kept, lookup_cons_ne same, ih]
      · simp [kept, lookup_cons_ne same, ih]

theorem lookup_overlayEntries (lower upper : Table) (key : String) :
    (overlayEntries lower upper).lookup key =
      (lower.lookup key).bind fun v => atop (some v) (upper.lookup key) := by
  induction lower with
  | nil => simp [overlayEntries]
  | cons e rest ih =>
    obtain ⟨here, held⟩ := e
    rw [overlayEntries]
    by_cases same : key = here
    · subst same
      cases upper.lookup key <;> simp
    · rw [lookup_cons_ne same, lookup_cons_ne same, ih]

def layered (lower upper : Table) : Table :=
  overlayEntries lower upper ++ upper.filter fun e => (lower.lookup e.1).isNone

theorem overlay_table (lower upper : Table) :
    (Value.table lower).overlay (.table upper) = .table (layered lower upper) := by
  rw [Value.overlay, layered]

theorem lookup_layered (lower upper : Table) (key : String) :
    (layered lower upper).lookup key = atop (lower.lookup key) (upper.lookup key) := by
  rw [layered, List.lookup_append, lookup_overlayEntries,
    lookup_filter upper (fun k => (lower.lookup k).isNone)]
  cases lower.lookup key with
  | none => cases upper.lookup key <;> simp
  | some v => cases upper.lookup key <;> simp

theorem keys_overlayEntries (lower upper : Table) :
    (overlayEntries lower upper).map (·.1) = lower.map (·.1) := by
  induction lower with
  | nil => simp [overlayEntries]
  | cons e rest ih => simp [overlayEntries, ih]

theorem mem_layered_keys (h : key ∈ (layered lower upper).map (·.1)) :
    key ∈ lower.map (·.1) ∨ key ∈ upper.map (·.1) := by
  rw [layered, List.map_append, keys_overlayEntries] at h
  exact (List.mem_append.mp h).imp_right fun above => (List.filter_sublist.map _).subset above

/-- No key is written twice in one table over another. -/
theorem Table.Distinct.layered (h : Table.Distinct lower) (h' : Table.Distinct upper) :
    Table.Distinct (layered lower upper) := by
  rw [Table.Distinct, Toml.layered, List.map_append, keys_overlayEntries]
  refine List.nodup_append.mpr ⟨h, h'.sublist (List.filter_sublist.map _), ?_⟩
  rintro key there _ here rfl
  obtain ⟨e, he, rfl⟩ := List.mem_map.mp here
  have absent := (List.mem_filter.mp he).2
  obtain ⟨e', he', same⟩ := List.mem_map.mp there
  rw [Option.isNone_iff_eq_none, List.lookup_eq_none_iff] at absent
  simpa [same] using absent e' he'

theorem entriesDistinct_iff : entriesDistinct entries ↔ ∀ e ∈ entries, e.2.Distinct := by
  induction entries with
  | nil => simp [entriesDistinct]
  | cons e rest ih => simp [entriesDistinct, ih]

mutual

/-- Laying one value over another writes no key twice, at any depth. -/
theorem Value.Distinct.overlay : (v : Value) → v.Distinct → (top : Value) → top.Distinct →
    (v.overlay top).Distinct
  | .table lower, h, .table upper, h' => by
    rw [overlay_table]
    refine ⟨h.1.layered h'.1, entriesDistinct_iff.mpr fun e he => ?_⟩
    rcases List.mem_append.mp he with below | above
    · exact overlayEntries_distinct lower h.2 upper h'.2 e below
    · exact entriesDistinct_iff.mp h'.2 e (List.mem_filter.mp above).1
  | .table _, _, .string _, _ | .table _, _, .integer _, _ | .table _, _, .float _, _
  | .table _, _, .boolean _, _ | .table _, _, .moment _, _ | .table _, _, .array _, _
  | .table _, _, .tables _, _ => by simp [Value.overlay, Value.Distinct]
  | .string _, _, _, h' | .integer _, _, _, h' | .float _, _, _, h' | .boolean _, _, _, h'
  | .moment _, _, _, h' | .array _, _, _, h' | .tables _, _, _, h' => by
    simpa [Value.overlay] using h'

theorem overlayEntries_distinct : (lower : Table) → entriesDistinct lower → (upper : Table) →
    entriesDistinct upper → ∀ e ∈ overlayEntries lower upper, e.2.Distinct
  | [], _, _, _ => by simp [overlayEntries]
  | (key, v) :: rest, h, upper, h' => by
    rw [overlayEntries]
    intro e he
    rcases List.mem_cons.mp he with rfl | later
    · cases found : upper.lookup key with
      | none => exact h.1
      | some top =>
        obtain ⟨_, _, split, _⟩ := List.lookup_eq_some_iff.mp found
        have distinct := entriesDistinct_iff.mp h' (key, top) (by simp [split])
        exact Value.Distinct.overlay v h.1 top distinct
    · exact overlayEntries_distinct rest h.2 upper h' e later

end

/-! ## Nothing changes -/

theorem layered_nil (lower : Table) : layered lower [] = lower := by
  rw [layered, List.filter_nil, List.append_nil]
  induction lower with
  | nil => rfl
  | cons e rest ih => simp [overlayEntries, ih]

theorem nil_layered (upper : Table) : layered [] upper = upper := by
  simp [layered, overlayEntries]

/-- A table over itself, given what its entries over themselves are. -/
theorem overlayEntries_self (found : ∀ e ∈ lower, upper.lookup e.1 = some e.2)
    (same : ∀ e ∈ lower, e.2.overlay e.2 = e.2) : overlayEntries lower upper = lower := by
  induction lower with
  | nil => rfl
  | cons e rest ih =>
    obtain ⟨here, held⟩ := e
    have first := found _ List.mem_cons_self
    have kept := same _ List.mem_cons_self
    dsimp only at first kept
    rw [overlayEntries, first, ih (fun e he => found e (List.mem_cons_of_mem _ he))
      fun e he => same e (List.mem_cons_of_mem _ he)]
    simp only [kept]

theorem layered_self (h : Table.Distinct entries) (same : ∀ e ∈ entries, e.2.overlay e.2 = e.2) :
    layered entries entries = entries := by
  have found (e : String × Value) (he : e ∈ entries) : entries.lookup e.1 = some e.2 :=
    h.lookup_eq_some_iff.mpr he
  have nothing : entries.filter (fun e => (entries.lookup e.1).isNone) = [] :=
    List.filter_eq_nil_iff.mpr fun e he => by simp [found e he]
  rw [layered, nothing, List.append_nil, overlayEntries_self found same]

mutual

theorem Value.overlay_self : (v : Value) → v.Distinct → v.overlay v = v
  | .table entries, h => by
    rw [overlay_table, layered_self h.1 (entries_overlay_self entries h.2)]
  | .string _, _ | .integer _, _ | .float _, _ | .boolean _, _ | .moment _, _ | .array _, _
  | .tables _, _ => by simp [Value.overlay]

theorem entries_overlay_self : (entries : Table) → entriesDistinct entries →
    ∀ e ∈ entries, e.2.overlay e.2 = e.2
  | [], _ => by simp
  | (_, v) :: rest, h => by
    have first := v.overlay_self h.1
    have later := entries_overlay_self rest h.2
    simpa [first] using later

end

end Compositing.Toml
