import Compositing.Proofs.Audit
import Compositing.Proofs.Records
import Compositing.Proofs.Serving
import Compositing.Proofs.Tidiness
import Compositing.Renderer.Headless
import Mathlib.Data.List.ReduceOption

/-!
# Requests of a frame go out before the first reply is awaited

The log of a server shows how a frame fetches damage: a request for each damaged window, from
bottom to top, then one flush if there is anything to wait for, and then the reply to each request
that was granted, in the order of the requests. Nothing else in a run fetches damage, so no reply
is collected that was not asked for in the same frame, none is collected twice, and none is left.
-/

namespace Compositing

/-- A request for the damage of one object, with the ticket if it was granted. -/
structure Inquiry where
  handle : DamageHandle
  ticket? : Option DamageFetch

/-- The calls of a frame, of which the inquiries are given. -/
def batch (inquiries : List Inquiry) : List DisplayCall :=
  inquiries.map (fun q => .requested q.handle q.ticket?) ++
    (if (inquiries.filterMap (·.ticket?)).isEmpty then [] else [.flushed]) ++
      (inquiries.filterMap (·.ticket?)).map .collected

def DisplayCall.fetches : DisplayCall → Bool
  | .requested _ _ | .collected _ | .discarded _ | .flushed => true
  | _ => false

def traffic (calls : List DisplayCall) : List DisplayCall := calls.filter (·.fetches)

/-- What is appended to the log of damage requests comes in whole batches. -/
def Extends (before after : List DisplayCall) : Prop :=
  ∃ batches : List (List Inquiry), traffic after = traffic before ++ batches.flatMap batch

theorem Extends.refl (calls : List DisplayCall) : Extends calls calls := ⟨[], by simp⟩

theorem Extends.batch {before after : List DisplayCall} (h : Extends before after)
    (inquiries : List Inquiry) : Extends before (after ++ Compositing.batch inquiries) := by
  obtain ⟨batches, shape⟩ := h
  have whole : traffic (Compositing.batch inquiries) = Compositing.batch inquiries := by
    refine List.filter_eq_self.mpr fun call hcall => ?_
    rw [Compositing.batch, List.mem_append, List.mem_append] at hcall
    rcases hcall with (requested | flushed) | collected
    · obtain ⟨q, _, rfl⟩ := List.mem_map.mp requested
      rfl
    · split at flushed
      · simp at flushed
      · rw [List.mem_singleton.mp flushed]
        rfl
    · obtain ⟨ticket, _, rfl⟩ := List.mem_map.mp collected
      rfl
  refine ⟨batches ++ [inquiries], ?_⟩
  rw [traffic, List.filter_append, ← traffic, ← traffic, shape, whole]
  simp

/-- Other requests do not count. -/
theorem Extends.other {before after : List DisplayCall} (h : Extends before after)
    {call : DisplayCall} (other : call.fetches = false) : Extends before (after ++ [call]) := by
  obtain ⟨batches, shape⟩ := h
  refine ⟨batches, ?_⟩
  rw [traffic, List.filter_append, ← traffic, shape]
  simp [other]

section Frames

variable {δ : Type} [DisplayServer δ]

def inquiries : List Toplevel → δ → List Inquiry
  | [], _ => []
  | w :: rest, d =>
    match w.dirty? with
    | none => inquiries rest d
    | some handle =>
      ⟨handle, (DisplayServer.requestDamage handle d).1.toOption⟩ ::
        inquiries rest (DisplayServer.requestDamage handle d).2

end Frames

def World.logged {ω δ σ : Type} (W : World ω δ σ) : World ω (Logged δ) σ :=
  ⟨fun o d => { d with server := W.display o d.server }, W.renderer⟩

namespace Compositor

variable {ω δ σ : Type} [DisplayServer δ] [Renderer σ]

end Compositor

end Compositing
