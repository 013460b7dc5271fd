import Compositing.Proofs.Layers
import Compositing.Settings.Decoding

/-!
# What a record is read as

A record that is read as a layer says something at a key if it is a table with that key, or an array
that is long enough. Each key is read apart from the others, so what is read shows what was said, in
whatever order it was read, and the standard elsewhere. Of a record over another one, the upper one
decides wherever it says something, and what the lower one says shows through where both are tables.
-/

namespace Compositing

open Toml (Value Table atop layered)

/-! ## Records -/

@[simp] theorem throw_ne_ok {ε α : Type} (e : ε) (a : α) : (throw e : Except ε α) ≠ .ok a :=
  nofun

/-- What a record holds at each key: a table says so itself, and an array lists it in the order of
the keys. -/
def entries? (keys : List String) (v : Value) : Option Table :=
  match Reading.layers.seen v with
  | .table entries => some entries
  | .array items => if items.length ≤ keys.length then some (keys.zip items) else none
  | _ => none

theorem seen_table {v : Value} {entries : Table}
    (seen : Reading.layers.seen v = .table entries) : v = .table entries := by
  cases v <;> simp_all [Reading.seen]

theorem distinct_zip {keys : List String} (distinct : keys.Nodup) (items : List Value) :
    Table.Distinct (keys.zip items) := by
  induction keys generalizing items with
  | nil => simp [Table.Distinct]
  | cons key rest ih =>
    obtain ⟨fresh, later⟩ := List.nodup_cons.mp distinct
    cases items with
    | nil => simp [Table.Distinct]
    | cons item items =>
      refine List.nodup_cons.mpr ⟨fun again => ?_, ih later items⟩
      obtain ⟨e, he, same⟩ := List.mem_map.mp again
      have known : e.1 ∈ rest := (List.of_mem_zip (b := e.2) he).1
      exact fresh (by rwa [same] at known)

/-- The entries of a record are written one by one if all their keys are known. -/
theorem foldlM_guarded_iff {α : Type} {set : α → String → Value → Except Mismatch α}
    {keys : List String} {entries : Table} {a a' : α} :
    entries.foldlM (fun a e =>
        if keys.contains e.1 then set a e.1 e.2 else throw (.unknownKey e.1 keys)) a = .ok a' ↔
      (∀ e ∈ entries, e.1 ∈ keys) ∧ entries.foldlM (fun a e => set a e.1 e.2) a = .ok a' := by
  induction entries generalizing a with
  | nil => simp
  | cons e rest ih =>
    rw [List.foldlM_cons, List.foldlM_cons]
    by_cases known : e.1 ∈ keys
    · rw [if_pos (by simpa using known)]
      cases set a e.1 e.2 with
      | error fault => exact ⟨nofun, fun h => nomatch h.2⟩
      | ok b =>
        rw [List.forall_mem_cons, and_iff_right known]
        exact ih
    · rw [if_neg (by simpa using known)]
      exact ⟨nofun, fun h => (known (h.1 e List.mem_cons_self)).elim⟩

def Rivals (lower upper : Value) : Prop :=
  ∃ name content other content', lower = .table [(name, content)] ∧
    upper = .table [(other, content')] ∧ name ≠ other

def saidAt? (keys : List String) (v? : Option Value) (key : String) : Option Value :=
  (v?.bind (entries? keys)).bind (·.lookup key)

/-- Whether what is below still counts where nothing is said above: nothing is there above, or a
table over a table. -/
def showsThrough : Option Value → Option Value → Bool
  | _, none => true
  | some (.table _), some (.table _) => true
  | _, _ => false

/-- Of two tables, one over the other, both hold a rival of the other's at a key. -/
def Clash (lower? upper? : Option Value) : Prop :=
  ∃ lower upper key below above, lower? = some (.table lower) ∧ upper? = some (.table upper) ∧
    lower.lookup key = some below ∧ upper.lookup key = some above ∧ Rivals below above

/-- What is above hides what is below, unless both are tables. -/
theorem atop_of_apart {lower? : Option Value} {upper : Value}
    (apart : ¬ ∃ l u, lower? = some (.table l) ∧ some upper = some (.table u)) :
    atop lower? (some upper) = some upper ∧ showsThrough lower? (some upper) = false := by
  cases lower? with
  | none => simp [showsThrough]
  | some lower => cases lower <;> cases upper <;> simp_all [Value.overlay, showsThrough]

/-- Of two values that are read, one over the other, the upper one decides, and only rivals are
refused. -/
def TopDecides {γ : Type} (parse : Value → Except Mismatch γ) : Prop :=
  ∀ lower upper x y, parse lower = .ok x → parse upper = .ok y →
    (¬ Rivals lower upper → parse (lower.overlay upper) = .ok y) ∧
    (Rivals lower upper → ∀ z, parse (lower.overlay upper) ≠ .ok z)

section Record

variable {α β : Type} (keys : List String) (set : α → String → Value → Except Mismatch α)
  (standard : α) (field : String → α → β)

def readAt (key : String) (v : Value) : Except Mismatch β := (set standard key v).map (field key)

/-- A key is read on its own, and written to a field of its own. -/
structure Column (key : String) {γ : Type} (parse : Value → Except Mismatch γ)
    (put : γ → α → α) : Prop where
  sets : ∀ a v, set a key v = do return put (← parse v) a
  shown : ∀ c a b, field key (put c a) = field key (put c b)
  apart : ∀ other ∈ keys, other ≠ key → ∀ c a, field other (put c a) = field other a

structure Fields : Prop where
  distinct : keys.Nodup
  column : ∀ key ∈ keys, ∃ (γ : Type) (parse : Value → Except Mismatch γ) (put : γ → α → α),
    Column keys set field key parse put

/-- A record shows what some entries say, and its standard where they say nothing. -/
def Shows (entries : Table) (a : α) : Prop :=
  ∀ key ∈ keys, match entries.lookup key with
    | some v => readAt set standard field key v = .ok (field key a)
    | none => field key a = field key standard

def decoded (name : String) (v? : Option Value) : Except Mismatch α :=
  v?.elim (.ok standard) (Reading.layers.record name keys set standard)

def Readable (entries : Table) : Prop :=
  ∀ e ∈ entries, e.1 ∈ keys ∧ ∃ x, readAt set standard field e.1 e.2 = .ok x

variable {keys set standard field}

namespace Fields

variable (h : Fields keys set field)
include h

theorem written {key : String} (known : key ∈ keys) {v : Value} {a a' : α}
    (done : set a key v = .ok a') : readAt set standard field key v = .ok (field key a') ∧
      ∀ other ∈ keys, other ≠ key → field other a' = field other a := by
  obtain ⟨γ, parse, put, column⟩ := h.column key known
  rw [column.sets] at done
  rw [readAt, column.sets]
  cases parsed : parse v with
  | error e => rw [parsed] at done; cases done
  | ok c =>
    rw [parsed] at done
    obtain rfl := Except.ok.inj done
    refine ⟨?_, fun other there ne => column.apart other there ne c a⟩
    exact congrArg Except.ok (column.shown c standard a)

theorem writable {key : String} (known : key ∈ keys) {v : Value} {x : β}
    (reads : readAt set standard field key v = .ok x) (a : α) : ∃ a', set a key v = .ok a' := by
  obtain ⟨γ, parse, put, column⟩ := h.column key known
  rw [readAt, column.sets] at reads
  rw [column.sets]
  cases parsed : parse v with
  | error e => rw [parsed] at reads; cases reads
  | ok c => exact ⟨put c a, rfl⟩

variable (standard) in
/-- What is written entry by entry is shown, and the rest stays as it is. -/
theorem foldlM_shows {entries : Table} (distinct : Table.Distinct entries) {a a' : α}
    (done : entries.foldlM (fun a e => set a e.1 e.2) a = .ok a')
    (known : ∀ e ∈ entries, e.1 ∈ keys) (key : String) (hk : key ∈ keys) :
    match entries.lookup key with
      | some v => readAt set standard field key v = .ok (field key a')
      | none => field key a' = field key a := by
  induction entries generalizing a with
  | nil =>
    obtain rfl := Except.ok.inj done
    rfl
  | cons e rest ih =>
    obtain ⟨here, held⟩ := e
    obtain ⟨fresh, later⟩ := List.nodup_cons.mp distinct
    have there := known _ List.mem_cons_self
    rw [List.foldlM_cons] at done
    cases first : set a here held with
    | error e => rw [first] at done; cases done
    | ok b =>
      rw [first] at done
      obtain ⟨reads, others⟩ := h.written there first
      have rest_shows := ih later done fun e he => known e (List.mem_cons_of_mem _ he)
      by_cases same : key = here
      · subst same
        have gone : rest.lookup key = none := by
          rw [List.lookup_eq_none_iff]
          intro e he
          have other : e.1 ≠ key := fun same => fresh (same ▸ List.mem_map_of_mem (f := (·.1)) he)
          simpa using other.symm
        rw [gone] at rest_shows
        rw [List.lookup_cons_self]
        dsimp only at rest_shows ⊢
        rw [rest_shows]
        exact reads
      · rw [Toml.lookup_cons_ne same]
        cases found : rest.lookup key with
        | some v => rwa [found] at rest_shows
        | none =>
          rw [found] at rest_shows
          exact rest_shows.trans (others key hk same)

theorem foldlM_ok {entries : Table} (readable : Readable keys set standard field entries) (a : α) :
    ∃ a', entries.foldlM (fun a e => set a e.1 e.2) a = .ok a' := by
  induction entries generalizing a with
  | nil => exact ⟨a, rfl⟩
  | cons e rest ih =>
    obtain ⟨known, x, reads⟩ := readable _ List.mem_cons_self
    obtain ⟨b, first⟩ := h.writable known reads a
    obtain ⟨a', done⟩ := ih (fun e he => readable e (List.mem_cons_of_mem _ he)) b
    refine ⟨a', ?_⟩
    rw [List.foldlM_cons, first]
    exact done

theorem readable_of_foldlM {entries : Table} {a a' : α}
    (done : entries.foldlM (fun a e => set a e.1 e.2) a = .ok a')
    (known : ∀ e ∈ entries, e.1 ∈ keys) : Readable keys set standard field entries := by
  induction entries generalizing a with
  | nil => simp [Readable]
  | cons e rest ih =>
    rw [List.foldlM_cons] at done
    cases first : set a e.1 e.2 with
    | error fault => rw [first] at done; cases done
    | ok b =>
      rw [first] at done
      have here := known _ List.mem_cons_self
      intro e' he'
      rcases List.mem_cons.mp he' with rfl | later
      · exact ⟨here, _, (h.written here first).1⟩
      · exact ih done (fun e he => known e (List.mem_cons_of_mem _ he)) e' later

/-- A record that is read shows what it holds. -/
theorem shows_of_record {name : String} {v : Value} (distinct : v.Distinct) {a : α}
    (done : Reading.layers.record name keys set standard v = .ok a) :
    ∃ entries, entries? keys v = some entries ∧ Readable keys set standard field entries ∧
      Shows keys set standard field entries a := by
  rw [Reading.record] at done
  rw [entries?]
  generalize seen : Reading.layers.seen v = w at done ⊢
  cases w with
  | table entries =>
    rw [seen_table seen] at distinct
    have perm := List.mergeSort_perm entries fun a b => decide (a.1 ≤ b.1)
    obtain ⟨known, done⟩ := foldlM_guarded_iff.mp done
    refine ⟨entries, rfl, ?_, fun key hk => ?_⟩
    · exact fun e he => h.readable_of_foldlM done known e (perm.mem_iff.mpr he)
    · have sorted : Table.Distinct (entries.mergeSort fun a b => decide (a.1 ≤ b.1)) :=
        (perm.map _).nodup_iff.mpr distinct.1
      have shown := h.foldlM_shows standard sorted done known key hk
      rwa [distinct.1.lookup_perm perm.symm] at shown
  | array items =>
    dsimp only at done
    cases written : (keys.zip items).foldlM (fun a e => set a e.1 e.2) standard with
    | error fault => rw [written] at done; cases done
    | ok b =>
      rw [written] at done
      have known : ∀ e ∈ keys.zip items, e.1 ∈ keys :=
        fun e he => (List.of_mem_zip (b := e.2) he).1
      by_cases long : keys.length < items.length
      · simp [long, bind, Except.bind] at done
      · obtain rfl : b = a := by
          simpa [long, bind, Except.bind, pure, Except.pure] using done
        refine ⟨_, if_pos (by omega), h.readable_of_foldlM written known, ?_⟩
        exact h.foldlM_shows standard (distinct_zip h.distinct items) written known
  | _ => cases done

theorem record_ok {name : String} {v : Value} {entries : Table}
    (found : entries? keys v = some entries)
    (readable : Readable keys set standard field entries) :
    ∃ a, Reading.layers.record name keys set standard v = .ok a := by
  rw [entries?] at found
  rw [Reading.record]
  generalize Reading.layers.seen v = w at found ⊢
  cases w with
  | table listed =>
    obtain rfl := Option.some.inj found
    have perm := List.mergeSort_perm listed fun a b => decide (a.1 ≤ b.1)
    have sorted : Readable keys set standard field (listed.mergeSort _) :=
      fun e he => readable e (perm.mem_iff.mp he)
    obtain ⟨a, done⟩ := h.foldlM_ok sorted standard
    exact ⟨a, foldlM_guarded_iff.mpr ⟨fun e he => (sorted e he).1, done⟩⟩
  | array items =>
    dsimp only at found ⊢
    split at found
    · rename_i short
      obtain rfl := Option.some.inj found
      obtain ⟨a, done⟩ := h.foldlM_ok readable standard
      have enough : ¬ keys.length < items.length := by omega
      refine ⟨a, ?_⟩
      simp [done, enough, bind, Except.bind, pure, Except.pure]
    · cases found
  | _ => cases found

/-- What is read shows what was said, and the standard elsewhere. -/
theorem decoded_shows {name : String} (v? : Option Value) (distinct : ∀ v ∈ v?, v.Distinct) {a : α}
    (done : decoded keys set standard name v? = .ok a) (key : String) (hk : key ∈ keys) :
    match saidAt? keys v? key with
      | some v => readAt set standard field key v = .ok (field key a)
      | none => field key a = field key standard := by
  cases v? with
  | none =>
    obtain rfl := Except.ok.inj done
    rfl
  | some v =>
    obtain ⟨entries, found, _, shows⟩ := h.shows_of_record (distinct v rfl) done
    simpa [saidAt?, found] using shows key hk

theorem decoded_unsaid {name : String} {v? : Option Value} (distinct : ∀ v ∈ v?, v.Distinct)
    {a : α} (done : decoded keys set standard name v? = .ok a) {key : String} (hk : key ∈ keys)
    (unsaid : (saidAt? keys v? key).isSome = false) : field key a = field key standard := by
  have shown := h.decoded_shows v? distinct done key hk
  have nothing : saidAt? keys v? key = none := by simpa using unsaid
  rwa [nothing] at shown

/-- What is at a key of a table that is read can be read. -/
theorem readable_at {name : String} {t : Table} {a : α}
    (done : decoded keys set standard name (some (.table t)) = .ok a)
    (distinct : (Value.table t).Distinct) {key : String} {v : Value}
    (held : t.lookup key = some v) :
    key ∈ keys ∧ ∃ x, readAt set standard field key v = .ok x := by
  have done : Reading.layers.record name keys set standard (.table t) = .ok a := done
  obtain ⟨_, found, reads, _⟩ := h.shows_of_record distinct done
  obtain rfl : t = _ := Option.some.inj found
  exact reads (key, v) (distinct.1.lookup_eq_some_iff.mp held)

section Layers

variable {name : String} {lower upper : Table} {a b m : α}
  (top : ∀ key ∈ keys, TopDecides (readAt set standard field key))
  (low : decoded keys set standard name (some (.table lower)) = .ok a)
  (up : decoded keys set standard name (some (.table upper)) = .ok b)
  (distinct : (Value.table lower).Distinct) (distinct' : (Value.table upper).Distinct)
include top low up distinct distinct'

/-- Without rivals, all that a table over another one holds can be read. -/
theorem layered_readable (friendly : ∀ key below above, lower.lookup key = some below →
    upper.lookup key = some above → ¬ Rivals below above) :
    Readable keys set standard field (layered lower upper) := by
  rintro ⟨key, v⟩ he
  have held := (distinct.1.layered distinct'.1).lookup_eq_some_iff.mpr he
  rw [Toml.lookup_layered] at held
  cases below : lower.lookup key with
  | none =>
    cases above : upper.lookup key with
    | none => simp [below, above] at held
    | some y =>
      obtain rfl : y = v := by simpa [below, above] using held
      exact h.readable_at up distinct' above
  | some x =>
    obtain ⟨known, fx, read⟩ := h.readable_at low distinct below
    cases above : upper.lookup key with
    | none =>
      obtain rfl : x = v := by simpa [below, above] using held
      exact ⟨known, fx, read⟩
    | some y =>
      obtain rfl : x.overlay y = v := by simpa [below, above] using held
      obtain ⟨_, fy, read'⟩ := h.readable_at up distinct' above
      exact ⟨known, fy, (top key known x y fx fy read read').1 (friendly key x y below above)⟩

/-- What is read of a table over another one: there are no rivals, and the upper table decides
wherever it says something, and the lower one elsewhere. -/
theorem layered_shows
    (done : decoded keys set standard name (some (.table (layered lower upper))) = .ok m)
    (key : String) (hk : key ∈ keys) :
    (∀ below above, lower.lookup key = some below → upper.lookup key = some above →
      ¬ Rivals below above) ∧
    field key m = if (upper.lookup key).isSome then field key b
      else if (lower.lookup key).isSome then field key a else field key standard := by
  have shows := h.decoded_shows (some (.table lower)) (by simpa using distinct) low key hk
  have shows' := h.decoded_shows (some (.table upper)) (by simpa using distinct') up key hk
  have whole : (Value.table (layered lower upper)).Distinct :=
    Toml.overlay_table lower upper ▸ Value.Distinct.overlay _ distinct _ distinct'
  have merged := h.decoded_shows (some (.table (layered lower upper))) (by simpa using whole)
    done key hk
  have said (t : Table) : saidAt? keys (some (.table t)) key = t.lookup key := rfl
  rw [said] at shows shows' merged
  rw [Toml.lookup_layered] at merged
  cases below : lower.lookup key with
  | none =>
    cases above : upper.lookup key with
    | none => simp_all
    | some y => simp_all
  | some x =>
    cases above : upper.lookup key with
    | none => simp_all
    | some y =>
      rw [below] at shows merged
      rw [above, Toml.atop_some] at merged
      rw [above] at shows'
      obtain ⟨friends, rivals⟩ := top key hk x y _ _ shows shows'
      have friendly : ¬ Rivals x y := fun r => rivals r _ merged
      have same := (friends friendly).symm.trans merged
      simp_all

end Layers

/-- What a table over another one comes to. -/
theorem layers_tables (top : ∀ key ∈ keys, TopDecides (readAt set standard field key))
    {name : String} {lower upper : Table} (distinct : (Value.table lower).Distinct)
    (distinct' : (Value.table upper).Distinct) {a b : α}
    (low : decoded keys set standard name (some (.table lower)) = .ok a)
    (up : decoded keys set standard name (some (.table upper)) = .ok b) :
    ((∃ m, decoded keys set standard name (some (.table (layered lower upper))) = .ok m) ↔
      ¬ Clash (some (.table lower)) (some (.table upper))) ∧
    ∀ m, decoded keys set standard name (some (.table (layered lower upper))) = .ok m →
      ∀ key ∈ keys, field key m = if (upper.lookup key).isSome then field key b
        else if (lower.lookup key).isSome then field key a else field key standard := by
  have shows (m : α) := h.layered_shows (m := m) top low up distinct distinct'
  refine ⟨⟨?_, ?_⟩, fun m done key hk => (shows m done key hk).2⟩
  · rintro ⟨m, done⟩ ⟨l, u, key, x, y, hl, hu, hx, hy, rivals⟩
    obtain rfl := Value.table.inj (Option.some.inj hl)
    obtain rfl := Value.table.inj (Option.some.inj hu)
    obtain ⟨known, _⟩ := h.readable_at low distinct hx
    exact (shows m done key known).1 x y hx hy rivals
  · intro clash
    have readable := h.layered_readable top low up distinct distinct' fun key x y hx hy rivals =>
      clash ⟨lower, upper, key, x, y, rfl, rfl, hx, hy, rivals⟩
    have read : ∃ m, Reading.layers.record name keys set standard
        (.table (layered lower upper)) = .ok m := h.record_ok rfl readable
    exact read

/-- What two records that may be missing come to, one over the other. -/
theorem layers (top : ∀ key ∈ keys, TopDecides (readAt set standard field key)) {name : String}
    {lower? upper? : Option Value}
    (distinct : ∀ v ∈ lower?, v.Distinct) (distinct' : ∀ v ∈ upper?, v.Distinct) {a b : α}
    (low : decoded keys set standard name lower? = .ok a)
    (up : decoded keys set standard name upper? = .ok b) :
    ((∃ m, decoded keys set standard name (atop lower? upper?) = .ok m) ↔ ¬ Clash lower? upper?) ∧
    ∀ m, decoded keys set standard name (atop lower? upper?) = .ok m → ∀ key ∈ keys,
      field key m = if (saidAt? keys upper? key).isSome then field key b
        else if (saidAt? keys lower? key).isSome && showsThrough lower? upper? then field key a
        else field key standard := by
  by_cases tables : ∃ lower upper, lower? = some (.table lower) ∧ upper? = some (.table upper)
  · obtain ⟨lower, upper, rfl, rfl⟩ := tables
    have said (t : Table) (key : String) : saidAt? keys (some (.table t)) key = t.lookup key := rfl
    have merged : atop (some (.table lower)) (some (.table upper)) =
        some (.table (layered lower upper)) := congrArg some (Toml.overlay_table lower upper)
    simp only [merged, said, showsThrough, Bool.and_true]
    exact h.layers_tables top (distinct _ rfl) (distinct' _ rfl) low up
  · have clear : ¬ Clash lower? upper? := by
      rintro ⟨lower, upper, _, _, _, rfl, rfl, _⟩
      exact tables ⟨lower, upper, rfl, rfl⟩
    cases upper? with
    | none =>
      rw [Toml.atop_none, low]
      refine ⟨⟨fun _ => clear, fun _ => ⟨a, rfl⟩⟩, fun m done key hk => ?_⟩
      obtain rfl := Except.ok.inj done
      have through : showsThrough lower? none = true := by simp [showsThrough]
      rw [show saidAt? keys none key = none from rfl, through, Bool.and_true]
      cases said : (saidAt? keys lower? key).isSome with
      | false => exact h.decoded_unsaid distinct low hk said
      | true => rfl
    | some u =>
      obtain ⟨same, hidden⟩ := atop_of_apart tables
      rw [same, up]
      refine ⟨⟨fun _ => clear, fun _ => ⟨b, rfl⟩⟩, fun m done key hk => ?_⟩
      obtain rfl := Except.ok.inj done
      rw [hidden, Bool.and_false]
      cases said : (saidAt? keys (some u) key).isSome with
      | false => exact h.decoded_unsaid distinct' up hk said
      | true => rfl

end Fields

end Record

end Compositing
