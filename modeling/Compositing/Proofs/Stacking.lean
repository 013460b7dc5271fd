import Compositing.Proofs.Stack
import Mathlib.Data.List.Induction
import Mathlib.Logic.Function.Basic

/-!
# A stack kept as an order and a table

A stack can be kept as the ids in their order and, apart from them, a table of the windows by
their ids, each changed on its own. Whatever is done to both by inserting, removing, restacking and
raising, the order lists the ids of the table once each, and the windows in that order are the
stack that the same operations make of a list of windows. Restacking is for any ids in any number:
the known ones among them come last, in the order of their first mention.
-/

namespace Compositing

/-- The ids from bottom to top, and the windows by their ids. -/
structure WindowTable where
  order : List WindowId
  windows : WindowId → Option Toplevel

namespace WindowTable

def empty : WindowTable := ⟨[], fun _ => none⟩

def knows (s : WindowTable) (id : WindowId) : Bool := (s.windows id).isSome

/-- The windows from bottom to top; an id without a window is passed over. -/
def inOrder (s : WindowTable) : List Toplevel := s.order.filterMap s.windows

def insert (s : WindowTable) (w : Toplevel) : WindowTable where
  order := if s.knows w.id then s.order else s.order ++ [w.id]
  windows := Function.update s.windows w.id (some w)

def remove (s : WindowTable) (id : WindowId) : Option Toplevel × WindowTable :=
  match s.windows id with
  | none => (none, s)
  | some w => (some w, ⟨s.order.filter (· != id), Function.update s.windows id none⟩)

/-- The known ids of a list, each at its first mention. -/
def listed (s : WindowTable) (order : List WindowId) : List WindowId :=
  order.foldl (fun l id => if s.knows id && !l.contains id then l ++ [id] else l) []

def restack (s : WindowTable) (order : List WindowId) : WindowTable :=
  { s with order := s.order.filter (!(s.listed order).contains ·) ++ s.listed order }

def raise (s : WindowTable) (id : WindowId) : Bool × WindowTable :=
  if s.knows id then (true, { s with order := s.order.filter (· != id) ++ [id] }) else (false, s)

/-- The order lists the ids of the table, each once, and the table has every window under its own
id. -/
structure Coherent (s : WindowTable) : Prop where
  once : s.order.Nodup
  known : ∀ id, id ∈ s.order ↔ s.knows id = true
  own : ∀ id w, s.windows id = some w → w.id = id

variable {s : WindowTable}

/-! ## The listed ids -/

theorem listed_snoc (order : List WindowId) (id : WindowId) :
    s.listed (order ++ [id]) =
      if s.knows id && !(s.listed order).contains id then s.listed order ++ [id]
      else s.listed order := by
  rw [listed, List.foldl_append]
  rfl

theorem mem_listed {order : List WindowId} {id : WindowId} :
    id ∈ s.listed order ↔ id ∈ order ∧ s.knows id = true := by
  induction order using List.reverseRecOn with
  | nil => simp [listed]
  | append_singleton order last ih =>
    rw [listed_snoc]
    by_cases same : id = last
    · subst same
      split <;> simp_all
    · split <;> simp [ih, same]

/-- They are in the order of their first mention. -/
theorem listed_pairwise (order : List WindowId) :
    (s.listed order).Pairwise fun a b => order.idxOf a < order.idxOf b := by
  induction order using List.reverseRecOn with
  | nil => exact List.Pairwise.nil
  | append_singleton order last ih =>
    have before {a : WindowId} (ha : a ∈ s.listed order) :
        (order ++ [last]).idxOf a = order.idxOf a :=
      List.idxOf_append_of_mem (mem_listed.mp ha).1
    have kept : (s.listed order).Pairwise fun a b =>
        (order ++ [last]).idxOf a < (order ++ [last]).idxOf b := by
      refine ih.imp_of_mem fun ha hb earlier => ?_
      rwa [before ha, before hb]
    rw [listed_snoc]
    split
    · rename_i new
      obtain ⟨known, unlisted⟩ := Bool.and_eq_true_iff.mp new
      have fresh : last ∉ order := by
        intro mentioned
        have again : last ∈ s.listed order := mem_listed.mpr ⟨mentioned, known⟩
        simp [again] at unlisted
      refine List.pairwise_append.mpr ⟨kept, List.pairwise_singleton _ _, ?_⟩
      intro a ha b hb
      rw [List.mem_singleton.mp hb, before ha, List.idxOf_append_of_notMem fresh]
      exact Nat.lt_add_right _ (List.idxOf_lt_length_of_mem (mem_listed.mp ha).1)
    · exact kept

theorem listed_nodup (order : List WindowId) : (s.listed order).Nodup := by
  refine (listed_pairwise order).imp ?_
  rintro a b earlier rfl
  exact Nat.lt_irrefl _ earlier

theorem listed_eq_eraseDups (order : List WindowId) :
    s.listed order = order.eraseDups.filter s.knows := by
  induction order using List.reverseRecOn with
  | nil => rfl
  | append_singleton order last ih =>
    have listed_iff : (s.listed order).contains last = (order.contains last && s.knows last) := by
      rw [Bool.eq_iff_iff, List.contains_iff_mem, mem_listed, Bool.and_eq_true,
        List.contains_iff_mem]
    rw [listed_snoc, List.eraseDups_append, List.filter_append, ← ih, listed_iff]
    by_cases mentioned : last ∈ order
    · simp [List.removeAll, mentioned]
    · by_cases known : s.knows last = true
      · simp [List.removeAll, mentioned, known, List.eraseDups_cons]
      · simp [List.removeAll, mentioned, known, List.eraseDups_cons]

/-! ## Each operation keeps both together -/

theorem coherent_empty : empty.Coherent where
  once := List.nodup_nil
  known := by simp [empty, knows]
  own := by simp [empty]

theorem insert_order_of_known {w : Toplevel} (known : s.knows w.id = true) :
    (s.insert w).order = s.order :=
  if_pos known

theorem insert_order_of_new {w : Toplevel} (new : s.knows w.id = false) :
    (s.insert w).order = s.order ++ [w.id] :=
  if_neg (by simp [new])

theorem insert_windows (w : Toplevel) (id : WindowId) :
    (s.insert w).windows id = if id = w.id then some w else s.windows id :=
  Function.update_apply _ _ _ _

theorem knows_insert (w : Toplevel) (id : WindowId) :
    (s.insert w).knows id = (id == w.id || s.knows id) := by
  rw [knows, insert_windows]
  by_cases same : id = w.id
  · simp [same]
  · simp [same, knows]

theorem Coherent.insert (coherent : s.Coherent) (w : Toplevel) : (s.insert w).Coherent where
  once := by
    cases known : s.knows w.id with
    | true =>
      rw [insert_order_of_known known]
      exact coherent.once
    | false =>
      rw [insert_order_of_new known]
      refine List.nodup_append.mpr ⟨coherent.once, List.nodup_singleton _, ?_⟩
      rintro id old id' new rfl
      rw [List.mem_singleton.mp new, coherent.known, known] at old
      contradiction
  known := by
    intro id
    rw [knows_insert, Bool.or_eq_true, beq_iff_eq, ← coherent.known]
    cases known : s.knows w.id with
    | true =>
      rw [insert_order_of_known known]
      constructor
      · exact Or.inr
      · rintro (rfl | old)
        · exact (coherent.known w.id).mpr known
        · exact old
    | false =>
      rw [insert_order_of_new known, List.mem_append, List.mem_singleton, or_comm]
  own := by
    intro id v found
    rw [insert_windows] at found
    split at found
    · rename_i same
      rw [same, Option.some.inj found]
    · exact coherent.own id v found

/-- What an id without a window takes out is nothing, and the order does not have it. -/
theorem Coherent.remove_eq (coherent : s.Coherent) (id : WindowId) :
    s.remove id =
      (s.windows id, ⟨s.order.filter (· != id), Function.update s.windows id none⟩) := by
  rw [remove]
  split
  · rename_i unknown
    have absent : ∀ i ∈ s.order, (i != id) = true := by
      rintro i hi
      rw [bne_iff_ne]
      rintro rfl
      rw [coherent.known, knows, unknown] at hi
      contradiction
    rw [List.filter_eq_self.mpr absent, unknown, ← unknown, Function.update_eq_self, unknown]
  · rename_i w found
    rw [found]

theorem Coherent.remove (coherent : s.Coherent) (id : WindowId) : (s.remove id).2.Coherent := by
  rw [coherent.remove_eq]
  refine ⟨coherent.once.filter _, fun i => ?_, fun i w found => ?_⟩
  · rw [List.mem_filter, coherent.known, bne_iff_ne]
    by_cases same : i = id
    · simp [knows, same]
    · simp [knows, same]
  · by_cases same : i = id
    · simp [same] at found
    · refine coherent.own i w ?_
      simpa [same] using found

/-- The ids that are not listed stay below in their order. -/
theorem Coherent.restack_order (coherent : s.Coherent) (order : List WindowId) :
    (s.restack order).order = s.order.filter (!order.contains ·) ++ s.listed order := by
  have others : s.order.filter (!(s.listed order).contains ·) =
      s.order.filter (!order.contains ·) := by
    refine List.filter_congr fun id hid => ?_
    have known := (coherent.known id).mp hid
    rw [Bool.not_inj_iff, Bool.eq_iff_iff, List.contains_iff_mem, List.contains_iff_mem, mem_listed,
      and_iff_left known]
  rw [restack, others]

theorem Coherent.mem_restack (coherent : s.Coherent) (order : List WindowId) (id : WindowId) :
    id ∈ (s.restack order).order ↔ id ∈ s.order := by
  rw [coherent.restack_order, List.mem_append, List.mem_filter, mem_listed, ← coherent.known]
  by_cases mentioned : id ∈ order
  · simp [mentioned]
  · simp [mentioned]

theorem Coherent.restack (coherent : s.Coherent) (order : List WindowId) :
    (s.restack order).Coherent where
  once := by
    rw [coherent.restack_order]
    refine List.nodup_append.mpr ⟨coherent.once.filter _, listed_nodup order, ?_⟩
    rintro id below id' above rfl
    have mentioned := (mem_listed.mp above).1
    simp [mentioned] at below
  known id := (coherent.mem_restack order id).trans (coherent.known id)
  own := coherent.own

theorem Coherent.restack_perm (coherent : s.Coherent) (order : List WindowId) :
    (s.restack order).order.Perm s.order :=
  (List.perm_ext_iff_of_nodup (coherent.restack order).once coherent.once).mpr
    (coherent.mem_restack order)

theorem Coherent.restack_restack (coherent : s.Coherent) (order : List WindowId) :
    (s.restack order).restack order = s.restack order := by
  have below : (s.order.filter (!order.contains ·)).filter (!order.contains ·) =
      s.order.filter (!order.contains ·) :=
    List.filter_eq_self.mpr fun id hid => (List.mem_filter.mp hid).2
  have above : (s.listed order).filter (!order.contains ·) = [] :=
    List.filter_eq_nil_iff.mpr fun id hid => by simp [(mem_listed.mp hid).1]
  have once := (coherent.restack order).restack_order order
  rw [coherent.restack_order, List.filter_append, below, above, List.append_nil] at once
  refine congrArg (WindowTable.mk · s.windows) (once.trans ?_)
  exact (coherent.restack_order order).symm

theorem listed_of_nodup {order : List WindowId} (once : order.Nodup)
    (known : ∀ id ∈ order, s.knows id = true) : s.listed order = order := by
  induction order using List.reverseRecOn with
  | nil => rfl
  | append_singleton order last ih =>
    obtain ⟨before, -, apart⟩ := List.nodup_append.mp once
    have fresh : last ∉ order := fun again => apart last again last List.mem_cons_self rfl
    have same := ih before fun id hid => known id (List.mem_append_left _ hid)
    rw [listed_snoc, same, known last (by simp)]
    simp [fresh]

theorem Coherent.restack_self (coherent : s.Coherent) : s.restack s.order = s := by
  have above : s.order.filter (!s.order.contains ·) = [] :=
    List.filter_eq_nil_iff.mpr fun id hid => by simp [hid]
  have same := coherent.restack_order s.order
  rw [above, List.nil_append, listed_of_nodup coherent.once fun id => (coherent.known id).mp] at same
  exact congrArg (WindowTable.mk · s.windows) same

theorem raise_of_known {id : WindowId} (known : s.knows id = true) :
    s.raise id = (true, s.restack [id]) := by
  have listed : s.listed [id] = [id] := by simp [WindowTable.listed, known]
  have others : (fun i : WindowId => i != id) = fun i => !([id] : List WindowId).contains i := by
    funext i
    rw [bne, List.contains_cons, List.contains_nil, Bool.or_false]
  rw [raise, if_pos known, restack, listed, others]

theorem raise_of_unknown {id : WindowId} (unknown : s.knows id = false) : s.raise id = (false, s) :=
  if_neg (by simp [unknown])

/-! ## The stack of windows -/

structure Agrees (s : WindowTable) (t : WindowStack) : Prop where
  coherent : s.Coherent
  ids : t.ids = s.order
  mem : ∀ w, w ∈ t.windows ↔ s.windows w.id = some w

variable {t : WindowStack}

theorem agrees_empty : empty.Agrees .empty where
  coherent := coherent_empty
  ids := rfl
  mem := by simp [empty, WindowStack.empty]

theorem Agrees.distinct (agrees : s.Agrees t) : t.Distinct := by
  rw [WindowStack.Distinct, agrees.ids]
  exact agrees.coherent.once

theorem Agrees.get? (agrees : s.Agrees t) (id : WindowId) : t.get? id = s.windows id := by
  cases found : s.windows id with
  | none =>
    refine WindowStack.get?_eq_none_iff.mpr fun w hw same => ?_
    rw [agrees.mem, same, found] at hw
    contradiction
  | some w =>
    have same := agrees.coherent.own id w found
    subst same
    exact WindowStack.get?_of_mem agrees.distinct ((agrees.mem w).mpr found)

theorem Agrees.contains (agrees : s.Agrees t) (id : WindowId) : t.contains id = s.knows id := by
  rw [WindowStack.contains, agrees.get?]
  rfl

/-- The stack is what the windows are in the order. -/
theorem Agrees.windows_eq (agrees : s.Agrees t) : t.windows = s.inOrder := by
  rw [← WindowStack.filterMap_get?_ids agrees.distinct, agrees.ids, inOrder]
  exact List.filterMap_congr fun id _ => agrees.get? id

theorem Agrees.insert (agrees : s.Agrees t) (w : Toplevel) : (s.insert w).Agrees (t.insert w) where
  coherent := agrees.coherent.insert w
  ids := by
    rw [WindowStack.insert, agrees.contains]
    cases known : s.knows w.id with
    | true =>
      rw [if_pos rfl, insert_order_of_known known, ← agrees.ids]
      exact WindowStack.modify_ids fun _ _ _ => rfl
    | false =>
      rw [insert_order_of_new known, ← agrees.ids]
      simp [WindowStack.ids]
  mem := by
    intro v
    rw [WindowStack.insert, agrees.contains, insert_windows]
    cases known : s.knows w.id with
    | true =>
      obtain ⟨old, found⟩ := Option.isSome_iff_exists.mp ((agrees.contains w.id).trans known)
      rw [if_pos rfl, WindowStack.mem_replace found, agrees.mem]
      by_cases same : v.id = w.id
      · simp [same, eq_comm]
      · have other : v ≠ w := fun equal => same (congrArg Toplevel.id equal)
        simp [same, other]
    | false =>
      rw [if_neg Bool.false_ne_true, List.mem_append, List.mem_singleton, agrees.mem]
      by_cases same : v.id = w.id
      · have unknown : s.windows w.id = none := by simpa [knows] using known
        simp [same, unknown, eq_comm]
      · have other : v ≠ w := fun equal => same (congrArg Toplevel.id equal)
        simp [same, other]

theorem Agrees.remove (agrees : s.Agrees t) (id : WindowId) :
    (s.remove id).2.Agrees (t.remove id) where
  coherent := agrees.coherent.remove id
  ids := by
    rw [agrees.coherent.remove_eq, ← agrees.ids, WindowStack.remove, WindowStack.ids,
      WindowStack.ids, List.filter_map]
    rfl
  mem := by
    intro v
    rw [agrees.coherent.remove_eq, WindowStack.remove, List.mem_filter, agrees.mem, bne_iff_ne]
    by_cases same : v.id = id
    · simp [same]
    · simp [same]

theorem Agrees.restack (agrees : s.Agrees t) (order : List WindowId) :
    (s.restack order).Agrees (t.restack order) where
  coherent := agrees.coherent.restack order
  ids := by
    have below : (t.windows.filter fun w => !order.contains w.id).map (·.id) =
        s.order.filter (!order.contains ·) := by
      rw [← agrees.ids, WindowStack.ids, List.filter_map]
      rfl
    have above : (order.eraseDups.filterMap t.get?).map (·.id) = s.listed order := by
      rw [listed_eq_eraseDups, List.map_filterMap, ← List.filterMap_eq_filter]
      refine List.filterMap_congr fun id _ => ?_
      rw [agrees.get?]
      cases found : s.windows id with
      | none => simp [Option.guard, knows, found]
      | some w => simp [Option.guard, knows, found, agrees.coherent.own id w found]
    rw [agrees.coherent.restack_order, ← below, ← above, ← List.map_append]
    rfl
  mem := by
    intro w
    rw [WindowStack.mem_restack agrees.distinct, agrees.mem]
    rfl

theorem restack_of_unknown {id : WindowId} (unknown : s.knows id = false) :
    s.restack [id] = s := by
  have listed : s.listed [id] = [] := by simp [WindowTable.listed, unknown]
  rw [WindowTable.restack, listed]
  simp

theorem Agrees.raise (agrees : s.Agrees t) (id : WindowId) :
    (s.raise id).2.Agrees (t.raise id) := by
  have restacked := agrees.restack [id]
  cases known : s.knows id with
  | true =>
    rw [raise_of_known known]
    exact restacked
  | false =>
    rw [restack_of_unknown known] at restacked
    rw [raise_of_unknown known]
    exact restacked

/-- What becomes of a table and of a stack by the same operations on both. -/
inductive Alongside : WindowTable → WindowStack → Prop
  | empty : Alongside .empty .empty
  | insert {table stack} (before : Alongside table stack) (w : Toplevel) :
    Alongside (table.insert w) (stack.insert w)
  | remove {table stack} (before : Alongside table stack) (id : WindowId) :
    Alongside (table.remove id).2 (stack.remove id)
  | restack {table stack} (before : Alongside table stack) (order : List WindowId) :
    Alongside (table.restack order) (stack.restack order)
  | raise {table stack} (before : Alongside table stack) (id : WindowId) :
    Alongside (table.raise id).2 (stack.raise id)

theorem Alongside.agrees (alongside : Alongside s t) : s.Agrees t := by
  induction alongside with
  | empty => exact agrees_empty
  | insert _ w ih => exact ih.insert w
  | remove _ id ih => exact ih.remove id
  | restack _ order ih => exact ih.restack order
  | raise _ id ih => exact ih.raise id

/-- A window is met on the way through the order if the table has it. -/
theorem Agrees.mem_inOrder (agrees : s.Agrees t) (w : Toplevel) :
    w ∈ s.inOrder ↔ s.windows w.id = some w := by
  rw [← agrees.windows_eq, agrees.mem]

theorem Agrees.inOrder_ids (agrees : s.Agrees t) : s.inOrder.map (·.id) = s.order := by
  rw [← agrees.windows_eq, ← agrees.ids, WindowStack.ids]

/-- After any operations the order lists the ids of the table once each, and the way through the
order meets every window once; the stack made by the same operations has the same order and the
same windows. Inserting keeps the place of a known id and puts a new one on top. Restacking
permutes the order: the ids that are not mentioned come first as they stood, and the known ones
that are mentioned come last, in the order of their first mention. It does so once and for all, does
nothing if the order itself is given, and for a single known id it is raising. -/
theorem stack_stays_stack (alongside : Alongside s t) :
    (s.order.Nodup ∧ (∀ id, id ∈ s.order ↔ s.knows id = true) ∧
      s.inOrder.map (·.id) = s.order ∧ ∀ w, w ∈ s.inOrder ↔ s.windows w.id = some w) ∧
    (t.ids = s.order ∧ t.windows = s.inOrder ∧ ∀ id, t.get? id = s.windows id) ∧
    (∀ w : Toplevel,
      (w.id ∈ s.order → (s.insert w).order = s.order) ∧
      (w.id ∉ s.order → (s.insert w).order = s.order ++ [w.id])) ∧
    (∀ order : List WindowId,
      (s.restack order).order.Perm s.order ∧
      (∃ top, (s.restack order).order = s.order.filter (!order.contains ·) ++ top ∧
        (∀ id, id ∈ top ↔ id ∈ order ∧ id ∈ s.order) ∧
        top.Pairwise fun a b => order.idxOf a < order.idxOf b) ∧
      (s.restack order).restack order = s.restack order) ∧
    s.restack s.order = s ∧
    ∀ id ∈ s.order, (s.raise id).2 = s.restack [id] := by
  have agrees := alongside.agrees
  have coherent := agrees.coherent
  refine ⟨⟨coherent.once, coherent.known, agrees.inOrder_ids, agrees.mem_inOrder⟩,
    ⟨agrees.ids, agrees.windows_eq, agrees.get?⟩, fun w => ⟨fun known => ?inPlace, fun new => ?onTop⟩,
    fun order => ⟨coherent.restack_perm order, ?reordered, coherent.restack_restack order⟩,
    coherent.restack_self, fun id known => ?raised⟩
  case inPlace => exact insert_order_of_known ((coherent.known w.id).mp known)
  case onTop =>
    refine insert_order_of_new ?_
    rwa [coherent.known, Bool.not_eq_true] at new
  case reordered =>
    refine ⟨s.listed order, coherent.restack_order order, fun id => ?_, listed_pairwise order⟩
    rw [mem_listed, coherent.known]
  case raised => rw [raise_of_known ((coherent.known id).mp known)]

/-- A table and a stack of three windows after a list that mentions a stranger, and one window
twice. -/
def reshuffled : WindowTable × WindowStack :=
  let windows := [1, 2, 3].map fun n => Toplevel.unmanaged ⟨n⟩ (.ofCoords 0 0 100 100)
  let order := [⟨9⟩, ⟨3⟩, ⟨1⟩, ⟨3⟩]
  ((windows.foldl insert empty).restack order,
    (windows.foldl WindowStack.insert WindowStack.empty).restack order)

theorem reshuffled_order :
    reshuffled.1.order = [⟨2⟩, ⟨3⟩, ⟨1⟩] ∧ reshuffled.2.ids = [⟨2⟩, ⟨3⟩, ⟨1⟩] ∧
      (reshuffled.1.raise ⟨3⟩).2 = reshuffled.1.restack [⟨3⟩] := by
  have alongside : Alongside reshuffled.1 reshuffled.2 :=
    .restack (.insert (.insert (.insert .empty _) _) _) _
  obtain ⟨-, ⟨same, -, -⟩, -, -, -, raised⟩ := stack_stays_stack alongside
  have order : reshuffled.1.order = [⟨2⟩, ⟨3⟩, ⟨1⟩] := by decide +kernel
  exact ⟨order, same.trans order, raised ⟨3⟩ (by simp [order])⟩

end WindowTable

end Compositing
