import Compositing.Proofs.Readings
import Mathlib.Data.Sum.Basic

/-!
# Which of two documents an option is taken from

The document of the user is laid over the one of the system. An option has the value that the user
gives it, else the one that the system gives it, else its standard value. Two things are not merged
key by key: a section that either document gives as an array hides the other's whole section, and of
two tables that stand for a backend the merge has both keys, which is no choice unless they are the
same.
-/

namespace Compositing

open Toml (Value Table atop layered)

/-! ## Single values -/

section Values

variable {γ : Type}

/-- No table is read. -/
def Plain (parse : Value → Except Mismatch γ) : Prop := ∀ t x, parse (.table t) ≠ .ok x

/-- What is no table lets nothing below show. -/
theorem overlay_of_plain {lower : Value} (plain : ∀ t, lower ≠ .table t) (upper : Value) :
    lower.overlay upper = upper ∧ ¬ Rivals lower upper := by
  constructor
  · cases lower <;> simp_all [Value.overlay]
  · rintro ⟨name, content, _, _, same, _⟩
    exact plain _ same

/-- Where no table is read, there is nothing to lay over each other. -/
theorem Plain.topDecides {parse : Value → Except Mismatch γ} (plain : Plain parse) :
    TopDecides parse := by
  intro lower upper x y below above
  have here : ∀ t, lower ≠ .table t := by
    rintro t rfl
    exact plain t x below
  obtain ⟨same, friendly⟩ := overlay_of_plain here upper
  exact ⟨fun _ => by rw [same, above], fun rivals => (friendly rivals).elim⟩

theorem TopDecides.map {γ' : Type} {parse : Value → Except Mismatch γ} (h : TopDecides parse)
    (f : γ → γ') : TopDecides fun v => (parse v).map f := by
  intro lower upper x y below above
  cases first : parse lower with
  | error e => simp [first, Except.map] at below
  | ok c =>
    cases second : parse upper with
    | error e => simp [second, Except.map] at above
    | ok d =>
      obtain ⟨friends, rivals⟩ := h lower upper c d first second
      refine ⟨fun friendly => ?_, fun rival z => ?_⟩
      · simpa [friends friendly, second] using above
      · cases merged : parse (lower.overlay upper) with
        | error e => simp [merged, Except.map]
        | ok e => exact (rivals rival e merged).elim

theorem noContent_cases {v : Value} (empty : Reading.layers.noContent v = .ok ()) :
    v = .table [] ∨ v = .array [] ∨ v = .tables [] := by
  unfold Reading.noContent at empty
  split at empty <;> simp_all

theorem noContent_overlay {lower upper : Value}
    (below : Reading.layers.noContent lower = .ok ())
    (above : Reading.layers.noContent upper = .ok ()) :
    Reading.layers.noContent (lower.overlay upper) = .ok () := by
  by_cases here : ∃ t, lower = .table t
  · obtain ⟨t, rfl⟩ := here
    obtain rfl : t = [] := by simpa using noContent_cases below
    rcases noContent_cases above with rfl | rfl | rfl
    · rw [Toml.overlay_table, Toml.nil_layered]
      exact below
    · exact above
    · exact above
  · rwa [(overlay_of_plain (fun t same => here ⟨t, same⟩) upper).1]

theorem choice_single {named : List (String × γ)} {name : String} {content : Value} {x : γ} :
    Reading.layers.choice named (.table [(name, content)]) = .ok x ↔
      named.lookup name = some x ∧ Reading.layers.noContent content = .ok () := by
  rw [Reading.choice]
  cases known : named.lookup name with
  | none => simp [known, bind, Except.bind]
  | some a =>
    cases Reading.layers.noContent content with
    | error e => simp [known, bind, Except.bind, pure, Except.pure]
    | ok nothing => simp [known, bind, Except.bind, pure, Except.pure]

/-- A table that stands for a choice has one key. -/
theorem choice_table {named : List (String × γ)} {t : Table} {x : γ}
    (read : Reading.layers.choice named (.table t) = .ok x) : ∃ e, t = [e] := by
  match t with
  | [] => simp [Reading.choice] at read
  | [e] => exact ⟨e, rfl⟩
  | _ :: _ :: _ => simp [Reading.choice] at read

theorem choice_topDecides (named : List (String × γ)) :
    TopDecides (Reading.layers.choice named) := by
  intro lower upper x y below above
  by_cases tables : (∃ t, lower = .table t) ∧ ∃ u, upper = .table u
  · obtain ⟨⟨t, rfl⟩, u, rfl⟩ := tables
    obtain ⟨⟨name, content⟩, rfl⟩ := choice_table below
    obtain ⟨⟨other, content'⟩, rfl⟩ := choice_table above
    rw [Toml.overlay_table]
    by_cases same : name = other
    · subst same
      have one : layered [(name, content)] [(name, content')] =
          [(name, content.overlay content')] := by
        simp [layered, Toml.overlayEntries]
      obtain ⟨known, empty'⟩ := choice_single.mp above
      have empty := noContent_overlay (choice_single.mp below).2 empty'
      rw [one]
      refine ⟨fun _ => choice_single.mpr ⟨known, empty⟩, ?_⟩
      rintro ⟨_, _, _, _, first, second, differ⟩
      simp_all
    · have two : layered [(name, content)] [(other, content')] =
          [(name, content), (other, content')] := by
        simp [layered, Toml.overlayEntries, Toml.lookup_cons_ne same, Ne.symm same]
      rw [two]
      refine ⟨fun friendly => ?_, fun _ z read => ?_⟩
      · exact (friendly ⟨name, content, other, content', rfl, rfl, same⟩).elim
      · simpa using choice_table read
  · have friendly : ¬ Rivals lower upper := by
      rintro ⟨_, _, _, _, rfl, rfl, _⟩
      exact tables ⟨⟨_, rfl⟩, _, rfl⟩
    have hides : lower.overlay upper = upper := by
      cases lower <;> cases upper <;> simp_all [Value.overlay]
    exact ⟨fun _ => by rw [hides, above], fun rivals => (friendly rivals).elim⟩

end Values

/-! ## Single options -/

inductive OptionValue where
  | text (s : String)
  | maybeText (s? : Option String)
  | truth (b : Bool)
  | word (n : UInt32)
  | backend (b : Backend)
deriving DecidableEq

theorem wrong_ne_ok {γ : Type} (v : Value) (wanted : String) (x : γ) :
    Reading.layers.wrong v wanted ≠ .ok x :=
  throw_ne_ok _ _

theorem text_plain (wanted : String) : Plain (Reading.layers.text wanted) :=
  fun t s => wrong_ne_ok (.table t) wanted s

theorem truth_plain : Plain Reading.layers.truth := fun t b => wrong_ne_ok (.table t) _ b

theorem word_plain : Plain Reading.layers.word := fun t n => wrong_ne_ok (.table t) _ n

section Columns

variable {α β : Type} {keys : List String} {set : α → String → Value → Except Mismatch α}
  {field : String → α → β} {choices : List String}

variable (keys set field choices) in
/-- Each key has a column, which is read from no table or else is a choice. -/
def Columns : Prop :=
  ∀ key ∈ keys, ∃ (γ : Type) (parse : Value → Except Mismatch γ) (put : γ → α → α),
    Column keys set field key parse put ∧ (Plain parse ∨ key ∈ choices ∧ TopDecides parse)

variable (columns : Columns keys set field choices)
include columns

theorem Columns.fields (distinct : keys.Nodup) : Fields keys set field where
  distinct := distinct
  column := by
    intro key known
    obtain ⟨γ, parse, put, column, _⟩ := columns key known
    exact ⟨γ, parse, put, column⟩

theorem Columns.readAt (standard : α) (key : String) (known : key ∈ keys) :
    TopDecides (readAt set standard field key) ∧
      (Plain (Compositing.readAt set standard field key) ∨ key ∈ choices) := by
  obtain ⟨γ, parse, put, column, kind⟩ := columns key known
  have same : Compositing.readAt set standard field key =
      fun v => (parse v).map fun c => field key (put c standard) := by
    funext v
    rw [Compositing.readAt, column.sets]
    cases parse v <;> rfl
  rw [same]
  rcases kind with plain | ⟨choice, top⟩
  · refine ⟨plain.topDecides.map _, Or.inl fun t x read => ?_⟩
    cases parsed : parse (.table t) with
    | error e => simp [parsed, Except.map] at read
    | ok c => exact plain t c parsed
  · exact ⟨top.map _, Or.inr choice⟩

/-- A record that is read holds rivals of others only where a key is a choice. -/
theorem Columns.choice_of_rivals (distinct : keys.Nodup) {standard a : α} {name : String}
    {entries : Table} (read : decoded keys set standard name (some (.table entries)) = .ok a)
    (once : (Value.table entries).Distinct) {key : String} {below above : Value}
    (held : entries.lookup key = some below) (rivals : Rivals below above) : key ∈ choices := by
  obtain ⟨known, x, reads⟩ := (columns.fields distinct).readable_at read once held
  obtain ⟨_, _, _, _, rfl, _⟩ := rivals
  rcases (columns.readAt standard key known).2 with plain | choice
  · exact (plain _ x reads).elim
  · exact choice

end Columns

namespace LoggingOptions

def field (key : String) (o : LoggingOptions) : OptionValue :=
  match key with
  | "level" => .text o.level
  | "file_path" => .maybeText o.file?
  | _ => .text o.format

theorem columns : Columns keys (set .layers) field [] := by
  intro key known
  simp only [keys, List.mem_cons, List.not_mem_nil, or_false] at known
  rcases known with rfl | rfl | rfl
  · exact ⟨_, Reading.layers.text "a string", fun s o => { o with level := s },
      ⟨fun _ _ => rfl, fun _ _ _ => rfl, by simp [keys, field]⟩, Or.inl (text_plain _)⟩
  · exact ⟨_, Reading.layers.text "path string", fun s o => { o with file? := some s },
      ⟨fun _ _ => rfl, fun _ _ _ => rfl, by simp [keys, field]⟩, Or.inl (text_plain _)⟩
  · exact ⟨_, Reading.layers.text "a string", fun s o => { o with format := s },
      ⟨fun _ _ => rfl, fun _ _ _ => rfl, by simp [keys, field]⟩, Or.inl (text_plain _)⟩

end LoggingOptions

namespace CompositingOptions

def field (key : String) (o : CompositingOptions) : OptionValue :=
  match key with
  | "enabled" => .truth o.enabled
  | "backend" => .backend o.backend
  | "max_fps" => .word o.maxFps
  | "refresh_rate" => .word o.refreshRate
  | "vblank_time_us" => .word o.blankTimeMicros
  | "unredirect_fullscreen" => .truth o.bypassFullscreen
  | _ => .maybeText o.suspendShortcut?

theorem columns : Columns keys (set .layers) field ["backend"] := by
  intro key known
  simp only [keys, List.mem_cons, List.not_mem_nil, or_false] at known
  rcases known with rfl | rfl | rfl | rfl | rfl | rfl | rfl
  · exact ⟨_, Reading.layers.truth, fun b o => { o with enabled := b },
      ⟨fun _ _ => rfl, fun _ _ _ => rfl, by simp [keys, field]⟩, Or.inl truth_plain⟩
  · exact ⟨_, Reading.layers.choice (Backend.all.map fun b => (b.name, b)),
      fun b o => { o with backend := b },
      ⟨fun _ _ => rfl, fun _ _ _ => rfl, by simp [keys, field]⟩,
      Or.inr ⟨List.mem_cons_self, choice_topDecides _⟩⟩
  · exact ⟨_, Reading.layers.word, fun n o => { o with maxFps := n },
      ⟨fun _ _ => rfl, fun _ _ _ => rfl, by simp [keys, field]⟩, Or.inl word_plain⟩
  · exact ⟨_, Reading.layers.word, fun n o => { o with refreshRate := n },
      ⟨fun _ _ => rfl, fun _ _ _ => rfl, by simp [keys, field]⟩, Or.inl word_plain⟩
  · exact ⟨_, Reading.layers.word, fun n o => { o with blankTimeMicros := n },
      ⟨fun _ _ => rfl, fun _ _ _ => rfl, by simp [keys, field]⟩, Or.inl word_plain⟩
  · exact ⟨_, Reading.layers.truth, fun b o => { o with bypassFullscreen := b },
      ⟨fun _ _ => rfl, fun _ _ _ => rfl, by simp [keys, field]⟩, Or.inl truth_plain⟩
  · exact ⟨_, Reading.layers.text "a string", fun s o => { o with suspendShortcut? := some s },
      ⟨fun _ _ => rfl, fun _ _ _ => rfl, by simp [keys, field]⟩, Or.inl (text_plain _)⟩

end CompositingOptions

/-! ## Sections -/

namespace Settings

def part (key : String) (o : Settings) : LoggingOptions ⊕ CompositingOptions :=
  match key with
  | "logging" => .inl o.logging
  | _ => .inr o.compositing

theorem fields : Fields keys (set .layers) part where
  distinct := by decide
  column := by
    intro key known
    simp only [keys, List.mem_cons, List.not_mem_nil, or_false] at known
    rcases known with rfl | rfl
    · exact ⟨_, LoggingOptions.ofValue .layers, fun l o => { o with logging := l },
        ⟨fun _ _ => rfl, fun _ _ _ => rfl, by simp [keys, part]⟩⟩
    · exact ⟨_, CompositingOptions.ofValue .layers, fun c o => { o with compositing := c },
        ⟨fun _ _ => rfl, fun _ _ _ => rfl, by simp [keys, part]⟩⟩

def loggingOf (document : Table) : Except Mismatch LoggingOptions :=
  decoded LoggingOptions.keys (LoggingOptions.set .layers) .standard "LoggingConfig"
    (document.lookup "logging")

def compositingOf (document : Table) : Except Mismatch CompositingOptions :=
  decoded CompositingOptions.keys (CompositingOptions.set .layers) .standard "CompositingConfig"
    (document.lookup "compositing")

variable {document : Table}

theorem map_eq_ok_iff {ε α β : Type} {f : α → β} (injective : Function.Injective f)
    {x : Except ε α} {a : α} : x.map f = .ok (f a) ↔ x = .ok a := by
  cases x <;> simp [Except.map, injective.eq_iff]

theorem readAt_logging (v : Value) : readAt (set .layers) .standard part "logging" v =
    (LoggingOptions.ofValue .layers v).map Sum.inl := by
  simp only [readAt, set]
  cases LoggingOptions.ofValue .layers v <;> rfl

theorem readAt_compositing (v : Value) : readAt (set .layers) .standard part "compositing" v =
    (CompositingOptions.ofValue .layers v).map Sum.inr := by
  simp only [readAt, set]
  cases CompositingOptions.ofValue .layers v <;> rfl

/-- A document that describes options has no other keys, and both its sections describe some. -/
theorem of_ofValue (distinct : (Value.table document).Distinct) {o : Settings}
    (done : ofValue .layers (.table document) = .ok o) :
    (∀ e ∈ document, e.1 ∈ keys) ∧ loggingOf document = .ok o.logging ∧
      compositingOf document = .ok o.compositing := by
  have done : Reading.layers.record "CoreConfig" keys (set .layers) .standard (.table document) =
    .ok o := done
  obtain ⟨_, found, readable, shows⟩ := fields.shows_of_record distinct done
  obtain rfl : document = _ := Option.some.inj found
  have logging := shows "logging" (by decide)
  have compositing := shows "compositing" (by decide)
  refine ⟨fun e he => (readable e he).1, ?_, ?_⟩
  · rw [loggingOf]
    cases said : document.lookup "logging" with
    | none =>
      rw [said] at logging
      exact congrArg Except.ok (Sum.inl.inj logging).symm
    | some v =>
      rw [said] at logging
      exact (map_eq_ok_iff Sum.inl_injective).mp ((readAt_logging v).symm.trans logging)
  · rw [compositingOf]
    cases said : document.lookup "compositing" with
    | none =>
      rw [said] at compositing
      exact congrArg Except.ok (Sum.inr.inj compositing).symm
    | some v =>
      rw [said] at compositing
      exact (map_eq_ok_iff Sum.inr_injective).mp ((readAt_compositing v).symm.trans compositing)

/-- A document describes options exactly if it has no other keys and both its sections describe
some. -/
theorem ofValue_ok_iff (distinct : (Value.table document).Distinct) {o : Settings} :
    ofValue .layers (.table document) = .ok o ↔ (∀ e ∈ document, e.1 ∈ keys) ∧
      loggingOf document = .ok o.logging ∧ compositingOf document = .ok o.compositing := by
  refine ⟨of_ofValue distinct, fun ⟨known, logging, compositing⟩ => ?_⟩
  have readable : Readable keys (set .layers) .standard part document := by
    rintro ⟨key, v⟩ he
    have said := distinct.1.lookup_eq_some_iff.mpr he
    have here := known _ he
    refine ⟨here, ?_⟩
    simp only [keys, List.mem_cons, List.not_mem_nil, or_false] at here
    rcases here with rfl | rfl
    · rw [loggingOf, said] at logging
      exact ⟨_, (readAt_logging v).trans (congrArg (Except.map Sum.inl) logging)⟩
    · rw [compositingOf, said] at compositing
      exact ⟨_, (readAt_compositing v).trans (congrArg (Except.map Sum.inr) compositing)⟩
  have found : entries? keys (.table document) = some document := rfl
  obtain ⟨o', done⟩ : ∃ o', ofValue .layers (.table document) = .ok o' :=
    fields.record_ok found readable
  obtain ⟨_, logging', compositing'⟩ := of_ofValue distinct done
  have same : o' = o := by
    have first := Except.ok.inj (logging'.symm.trans logging)
    have second := Except.ok.inj (compositing'.symm.trans compositing)
    cases o
    cases o'
    simp_all
  rw [done, same]

end Settings

/-! ## Two documents -/

inductive OptionSection where
  | logging
  | compositing

def OptionSection.name : OptionSection → String
  | .logging => "logging"
  | .compositing => "compositing"

def OptionSection.keys : OptionSection → List String
  | .logging => LoggingOptions.keys
  | .compositing => CompositingOptions.keys

def Settings.option (o : Settings) (s : OptionSection) (key : String) : OptionValue :=
  match s with
  | .logging => o.logging.field key
  | .compositing => o.compositing.field key

/-- What a document says at a key of a section. -/
def said? (document : Table) (s : OptionSection) (key : String) : Option Value :=
  saidAt? s.keys (document.lookup s.name) key

/-- Both documents hold a table at the backend, each with one key, and the keys differ. -/
def RivalBackends (system user : Table) : Prop :=
  ∃ lower upper below above, system.lookup "compositing" = some (.table lower) ∧
    user.lookup "compositing" = some (.table upper) ∧ lower.lookup "backend" = some below ∧
    upper.lookup "backend" = some above ∧ Rivals below above

/-- The values in a document write no key twice, as the document does not. -/
theorem lookup_distinct {document : Table} (distinct : (Value.table document).Distinct)
    (key : String) : ∀ v ∈ document.lookup key, v.Distinct := fun v hv =>
  Toml.entriesDistinct_iff.mp distinct.2 (key, v) (distinct.1.lookup_eq_some_iff.mp hv)

section Documents

variable {system user : Table} (distinct : (Value.table system).Distinct)
  (distinct' : (Value.table user).Distinct)
include distinct distinct'

theorem loggingOf_layered {a b : LoggingOptions} (low : Settings.loggingOf system = .ok a)
    (up : Settings.loggingOf user = .ok b) :
    (∃ m, Settings.loggingOf (layered system user) = .ok m) ∧
    ∀ m, Settings.loggingOf (layered system user) = .ok m → ∀ key ∈ LoggingOptions.keys,
      m.field key = if (said? user .logging key).isSome then b.field key
        else if (said? system .logging key).isSome &&
          showsThrough (system.lookup "logging") (user.lookup "logging") then a.field key
        else LoggingOptions.standard.field key := by
  have below := lookup_distinct distinct "logging"
  have above := lookup_distinct distinct' "logging"
  have top (key : String) (known : key ∈ LoggingOptions.keys) :=
    (LoggingOptions.columns.readAt LoggingOptions.standard key known).1
  obtain ⟨reads, shows⟩ :=
    (LoggingOptions.columns.fields (by decide)).layers top below above low up
  rw [Settings.loggingOf, Toml.lookup_layered]
  refine ⟨reads.mpr ?_, shows⟩
  rintro ⟨lower, _, key, _, _, held, _, here, _, rivals⟩
  rw [Settings.loggingOf, held] at low
  have choice := LoggingOptions.columns.choice_of_rivals (by decide) low (below _ held) here rivals
  cases choice

theorem compositingOf_layered {a b : CompositingOptions}
    (low : Settings.compositingOf system = .ok a) (up : Settings.compositingOf user = .ok b) :
    ((∃ m, Settings.compositingOf (layered system user) = .ok m) ↔ ¬ RivalBackends system user) ∧
    ∀ m, Settings.compositingOf (layered system user) = .ok m → ∀ key ∈ CompositingOptions.keys,
      m.field key = if (said? user .compositing key).isSome then b.field key
        else if (said? system .compositing key).isSome &&
          showsThrough (system.lookup "compositing") (user.lookup "compositing") then a.field key
        else CompositingOptions.standard.field key := by
  have below := lookup_distinct distinct "compositing"
  have above := lookup_distinct distinct' "compositing"
  have top (key : String) (known : key ∈ CompositingOptions.keys) :=
    (CompositingOptions.columns.readAt CompositingOptions.standard key known).1
  obtain ⟨reads, shows⟩ :=
    (CompositingOptions.columns.fields (by decide)).layers top below above low up
  rw [Settings.compositingOf, Toml.lookup_layered]
  refine ⟨reads.trans (not_congr ⟨?_, ?_⟩), shows⟩
  · rintro ⟨lower, upper, key, x, y, held, held', here, here', rivals⟩
    rw [Settings.compositingOf, held] at low
    have choice := CompositingOptions.columns.choice_of_rivals (by decide) low (below _ held) here
      rivals
    obtain rfl := List.mem_singleton.mp choice
    exact ⟨lower, upper, x, y, held, held', here, here', rivals⟩
  · rintro ⟨lower, upper, x, y, held, held', here, here', rivals⟩
    exact ⟨lower, upper, "backend", x, y, held, held', here, here', rivals⟩

end Documents

/-- A table over another one holds, at each key, the one over the other where both hold a table,
else what the upper one holds, else what the lower one holds. Nothing changes where either is empty,
or where a value is laid over itself, and no key comes to be written twice. If a document of the
system and one of the user each describe options, the one over the other does too, unless both hold
a table at the backend and these have different keys. Then each option is as the user says, else as
the system says where the user leaves the section out or both give it as a table, else the
standard. -/
theorem options_by_precedence :
    (∀ lower upper : Table, ∃ merged, (Value.table lower).overlay (.table upper) = .table merged ∧
      ∀ key, merged.lookup key = match lower.lookup key, upper.lookup key with
        | some (.table l), some (.table u) => some ((Value.table l).overlay (.table u))
        | _, some v => some v
        | v?, none => v?) ∧
    (∀ t : Table, (Value.table t).overlay (.table []) = .table t ∧
      (Value.table []).overlay (.table t) = .table t) ∧
    (∀ v : Value, v.Distinct → v.overlay v = v) ∧
    (∀ lower upper : Value, lower.Distinct → upper.Distinct → (lower.overlay upper).Distinct) ∧
    ∀ (system user : Table) (a b : Settings), (Value.table system).Distinct →
      (Value.table user).Distinct → Settings.ofValue .layers (.table system) = .ok a →
      Settings.ofValue .layers (.table user) = .ok b →
      ((∃ m, Settings.ofValue .layers ((Value.table system).overlay (.table user)) = .ok m) ↔
        ¬ RivalBackends system user) ∧
      ∀ m, Settings.ofValue .layers ((Value.table system).overlay (.table user)) = .ok m →
        ∀ (s : OptionSection), ∀ key ∈ s.keys, m.option s key =
          if (said? user s key).isSome then b.option s key
          else if (said? system s key).isSome &&
            showsThrough (system.lookup s.name) (user.lookup s.name) then a.option s key
          else Settings.standard.option s key := by
  refine ⟨fun lower upper => ⟨_, Toml.overlay_table lower upper, fun key => ?_⟩, fun t => ⟨?_, ?_⟩,
    Value.overlay_self, fun lower upper distinct distinct' => distinct.overlay _ _ distinct',
    fun system user a b distinct distinct' low up => ?_⟩
  · exact (Toml.lookup_layered lower upper key).trans rfl
  · rw [Toml.overlay_table, Toml.layered_nil]
  · rw [Toml.overlay_table, Toml.nil_layered]
  · have whole : (Value.table (layered system user)).Distinct :=
      Toml.overlay_table system user ▸ Value.Distinct.overlay _ distinct _ distinct'
    rw [Settings.ofValue_ok_iff distinct] at low
    rw [Settings.ofValue_ok_iff distinct'] at up
    obtain ⟨known, low_logging, low_compositing⟩ := low
    obtain ⟨known', up_logging, up_compositing⟩ := up
    obtain ⟨⟨l, logs⟩, logging⟩ := loggingOf_layered distinct distinct' low_logging up_logging
    obtain ⟨composes, compositing⟩ :=
      compositingOf_layered distinct distinct' low_compositing up_compositing
    simp only [Toml.overlay_table, Settings.ofValue_ok_iff whole]
    refine ⟨⟨fun ⟨m, _, _, done⟩ => composes.mp ⟨_, done⟩, fun friendly => ?_⟩, ?_⟩
    · obtain ⟨c, done⟩ := composes.mpr friendly
      refine ⟨⟨l, c⟩, fun e he => ?_, logs, done⟩
      rcases Toml.mem_layered_keys (List.mem_map_of_mem he) with below | above
      · obtain ⟨e', he', same⟩ := List.mem_map.mp below
        exact same ▸ known e' he'
      · obtain ⟨e', he', same⟩ := List.mem_map.mp above
        exact same ▸ known' e' he'
    · rintro m ⟨_, logs, composes⟩ s key hk
      cases s with
      | logging => exact logging m.logging logs key hk
      | compositing => exact compositing m.compositing composes key hk

def saying (s : OptionSection) (key : String) (v : Value) : Table :=
  [(s.name, .table [(key, v)])]

def backendTable (b : Backend) : Value := .table [(b.name, .table [])]

theorem record_single {α : Type} {name key : String} {keys : List String}
    {set : α → String → Value → Except Mismatch α} {standard : α} {v : Value} (known : key ∈ keys) :
    Reading.layers.record name keys set standard (.table [(key, v)]) = set standard key v := by
  simp [Reading.record, Reading.seen, Reading.ordered, known]

theorem ofValue_saying_logging {key : String} {v : Value} (known : key ∈ LoggingOptions.keys) :
    Settings.ofValue .layers (.table (saying .logging key v)) =
      (LoggingOptions.set .layers .standard key v).map fun l =>
        { Settings.standard with logging := l } := by
  rw [Settings.ofValue, saying, record_single (by decide), OptionSection.name]
  simp only [Settings.set, LoggingOptions.ofValue, record_single known]
  cases LoggingOptions.set .layers .standard key v <;> rfl

theorem ofValue_saying_compositing {key : String} {v : Value}
    (known : key ∈ CompositingOptions.keys) :
    Settings.ofValue .layers (.table (saying .compositing key v)) =
      (CompositingOptions.set .layers .standard key v).map fun c =>
        { Settings.standard with compositing := c } := by
  rw [Settings.ofValue, saying, record_single (by decide), OptionSection.name]
  simp only [Settings.set, CompositingOptions.ofValue, record_single known]
  cases CompositingOptions.set .layers .standard key v <;> rfl

/-- The system names the backend, and the user wants 120 frames in a second. -/
theorem framesOverBackend_merged :
    ∃ m, Settings.ofValue .layers
        ((Value.table (saying .compositing "backend" (backendTable .opengl))).overlay
          (.table (saying .compositing "max_fps" (.integer 120)))) = .ok m ∧
      m.option .compositing "max_fps" = .word 120 ∧
      m.option .compositing "backend" = .backend .opengl ∧
      m.option .logging "level" = .text "info" := by
  obtain ⟨_, _, _, _, merge⟩ := options_by_precedence
  have distinct :
      (Value.table (saying .compositing "backend" (backendTable .opengl))).Distinct := by
    simp [saying, backendTable, Value.Distinct, Table.Distinct, Toml.entriesDistinct]
  have distinct' : (Value.table (saying .compositing "max_fps" (.integer 120))).Distinct := by
    simp [saying, Value.Distinct, Table.Distinct, Toml.entriesDistinct]
  have low := ofValue_saying_compositing (v := backendTable .opengl) (by decide : "backend" ∈ _)
  have up := ofValue_saying_compositing (v := .integer 120) (by decide : "max_fps" ∈ _)
  obtain ⟨reads, shows⟩ := merge _ _ _ _ distinct distinct' low up
  have friendly : ¬ RivalBackends (saying .compositing "backend" (backendTable .opengl))
      (saying .compositing "max_fps" (.integer 120)) := by
    rintro ⟨_, _, _, _, _, held, _, here, _⟩
    obtain rfl := Value.table.inj (Option.some.inj held)
    cases here
  obtain ⟨m, done⟩ := reads.mpr friendly
  exact ⟨m, done, shows m done .compositing "max_fps" (by decide),
    shows m done .compositing "backend" (by decide), shows m done .logging "level" (by decide)⟩

/-- A document with the section of the log as an array, which holds its level only. -/
def warnList : Table := [("logging", .array [.string "warn"])]

/-- Two tables that stand for different backends are refused together, and a section that the user
gives as an array hides the format that the system asks for. -/
theorem rivals_refused_and_arrays_hide :
    Settings.ofValue .layers (.table (saying .compositing "backend" (backendTable .xrender))) =
      .ok Settings.standard ∧
    Settings.ofValue .layers (.table (saying .compositing "backend" (backendTable .opengl))) =
      .ok { Settings.standard with
        compositing := { CompositingOptions.standard with backend := .opengl } } ∧
    Settings.ofValue .layers
        ((Value.table (saying .compositing "backend" (backendTable .xrender))).overlay
          (.table (saying .compositing "backend" (backendTable .opengl)))) =
      .error .severalChoices ∧
    Settings.ofValue .layers (.table (saying .logging "format" (.string "json"))) =
      .ok { Settings.standard with logging := { LoggingOptions.standard with format := "json" } } ∧
    Settings.ofValue .layers (.table warnList) = .ok { Settings.standard with
      logging := { LoggingOptions.standard with level := "warn" } } ∧
    Settings.ofValue .layers ((Value.table (saying .logging "format" (.string "json"))).overlay
        (.table warnList)) = .ok { Settings.standard with
      logging := { LoggingOptions.standard with level := "warn" } } := by
  have both : (Value.table (saying .compositing "backend" (backendTable .xrender))).overlay
      (.table (saying .compositing "backend" (backendTable .opengl))) =
      .table (saying .compositing "backend"
        (.table [("xrender", .table []), ("opengl", .table [])])) := by rfl
  have hidden : (Value.table (saying .logging "format" (.string "json"))).overlay
      (.table warnList) = .table warnList := by rfl
  have list : Settings.ofValue .layers (.table warnList) = .ok { Settings.standard with
      logging := { LoggingOptions.standard with level := "warn" } } := by
    rw [Settings.ofValue, warnList, record_single (by decide)]
    rfl
  refine ⟨?_, ?_, ?_, ?_, list, hidden ▸ list⟩
  · rw [ofValue_saying_compositing (by decide)]
    rfl
  · rw [ofValue_saying_compositing (by decide)]
    rfl
  · rw [both, ofValue_saying_compositing (by decide)]
    rfl
  · rw [ofValue_saying_logging (by decide)]
    rfl

end Compositing
