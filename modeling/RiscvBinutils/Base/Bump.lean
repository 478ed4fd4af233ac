/-
Handing out room one piece after the other.
Each request names its owner, a length and a weight, or asks for nothing.  The pieces lie one after the
other, so no two overlap, and the weights add up.
-/
import Mathlib.Tactic

namespace RiscvBinutils.Base

/-- A piece of room and its owner. -/
structure Slot (κ : Type) where
  key : κ
  off : Nat
  len : Nat
  weight : Nat
  deriving DecidableEq, Repr

/-- What has been handed out so far; `slots` is newest first. -/
structure Bump (κ : Type) where
  top : Nat
  weight : Nat := 0
  offset : κ → Option Nat := fun _ => none
  slots : List (Slot κ) := []

/-- A length and a weight for `key`, or nothing. -/
structure Request (κ : Type) where
  key : κ
  need : Option (Nat × Nat)

variable {κ : Type} [DecidableEq κ]

def Bump.serve (b : Bump κ) (r : Request κ) : Bump κ :=
  match r.need with
  | none => { b with offset := Function.update b.offset r.key none }
  | some (len, weight) =>
    { top := b.top + len
      weight := b.weight + weight
      offset := Function.update b.offset r.key (some b.top)
      slots := ⟨r.key, b.top, len, weight⟩ :: b.slots }

/-- The pieces lie apart and below the top, each owner knows its own, and the weights add up. -/
structure Bump.Ok (d : Nat) (b : Bump κ) : Prop where
  below : ∀ s ∈ b.slots, s.off + s.len ≤ b.top
  apart : b.slots.Pairwise fun s t => t.off + t.len ≤ s.off
  offset : ∀ s ∈ b.slots, b.offset s.key = some s.off
  weight : b.weight = (b.slots.map (·.weight)).sum
  top : d ∣ b.top
  aligned : ∀ s ∈ b.slots, d ∣ s.off

namespace Bump.Ok

variable {d : Nat} {b : Bump κ}

/-- A request of a new owner. -/
theorem serve (h : b.Ok d) {r : Request κ} (hfresh : ∀ s ∈ b.slots, s.key ≠ r.key)
    (hlen : ∀ n ∈ r.need, d ∣ n.1) : (b.serve r).Ok d := by
  have hold (o : Option Nat) : ∀ s ∈ b.slots, Function.update b.offset r.key o s.key = some s.off := by
    intro s hs
    rw [Function.update_of_ne (hfresh s hs), h.offset s hs]
  unfold Bump.serve
  split
  · exact ⟨h.below, h.apart, hold none, h.weight, h.top, h.aligned⟩
  · rename_i len weight hneed
    refine ⟨?_, ?_, ?_, ?_, ?_, ?_⟩
    · intro s hs
      rcases List.mem_cons.mp hs with rfl | hs
      · exact le_rfl
      · exact (h.below s hs).trans (Nat.le_add_right ..)
    · exact List.pairwise_cons.mpr ⟨h.below, h.apart⟩
    · intro s hs
      rcases List.mem_cons.mp hs with rfl | hs
      · exact Function.update_self ..
      · exact hold _ s hs
    · show b.weight + weight = _
      rw [List.map_cons, List.sum_cons, h.weight, Nat.add_comm]
    · exact Nat.dvd_add h.top (hlen _ hneed)
    · intro s hs
      rcases List.mem_cons.mp hs with rfl | hs
      · exact h.top
      · exact h.aligned s hs

/-- Requests of owners that are all different. -/
theorem serveAll (rs : List (Request κ)) : ∀ {b : Bump κ}, b.Ok d → (rs.map (·.key)).Nodup →
    (∀ r ∈ rs, ∀ s ∈ b.slots, s.key ≠ r.key) → (∀ r ∈ rs, ∀ n ∈ r.need, d ∣ n.1) →
    (rs.foldl Bump.serve b).Ok d := by
  induction rs with
  | nil => intro b h _ _ _; exact h
  | cons r rs ih =>
    intro b h hnodup hfresh hlen
    rw [List.map_cons, List.nodup_cons] at hnodup
    refine ih (h.serve (hfresh r (List.mem_cons_self ..)) (hlen r (List.mem_cons_self ..))) hnodup.2 ?_
      fun r' hr' => hlen r' (List.mem_cons_of_mem _ hr')
    intro r' hr' s hs
    -- the new piece belongs to `r`, which does not ask again
    have hne : r.key ≠ r'.key := fun heq => hnodup.1 (heq ▸ List.mem_map_of_mem hr')
    unfold Bump.serve at hs
    split at hs
    · exact hfresh r' (List.mem_cons_of_mem _ hr') s hs
    · rcases List.mem_cons.mp hs with rfl | hs
      · exact hne
      · exact hfresh r' (List.mem_cons_of_mem _ hr') s hs

end Bump.Ok

theorem Bump.mem_slots_serve {b : Bump κ} {s : Slot κ} (r : Request κ) (h : s ∈ b.slots) : s ∈ (b.serve r).slots := by
  unfold Bump.serve
  split
  · exact h
  · exact List.mem_cons_of_mem _ h

/-- Whoever asked for room got it. -/
theorem Bump.exists_slot {rs : List (Request κ)} {r : Request κ} {len weight : Nat} (hr : r ∈ rs)
    (hneed : r.need = some (len, weight)) (b : Bump κ) :
    ∃ off, ⟨r.key, off, len, weight⟩ ∈ (rs.foldl Bump.serve b).slots := by
  have hkept (rs : List (Request κ)) : ∀ {b : Bump κ} {s : Slot κ}, s ∈ b.slots →
    s ∈ (rs.foldl Bump.serve b).slots := by
    induction rs with
    | nil => intro b s h; exact h
    | cons r rs ih => intro b s h; exact ih (Bump.mem_slots_serve r h)
  induction rs generalizing b with
  | nil => exact absurd hr List.not_mem_nil
  | cons r' rs ih =>
    rcases List.mem_cons.mp hr with rfl | hr
    · refine ⟨b.top, hkept rs ?_⟩
      rw [Bump.serve, hneed]
      exact List.mem_cons_self ..
    · exact ih hr _

/-- Every piece was asked for. -/
theorem Bump.slot_request {rs : List (Request κ)} {b : Bump κ} {s : Slot κ} (hb : b.slots = [])
    (h : s ∈ (rs.foldl Bump.serve b).slots) : ∃ r ∈ rs, r.key = s.key ∧ r.need = some (s.len, s.weight) := by
  have hgen (rs : List (Request κ)) : ∀ {b : Bump κ}, s ∈ (rs.foldl Bump.serve b).slots →
      s ∈ b.slots ∨ ∃ r ∈ rs, r.key = s.key ∧ r.need = some (s.len, s.weight) := by
    induction rs with
    | nil => intro b h; exact .inl h
    | cons r rs ih =>
      intro b h
      rcases ih h with hs | ⟨r', hr', hrest⟩
      · unfold Bump.serve at hs
        split at hs
        · exact .inl hs
        · rename_i len weight hneed
          rcases List.mem_cons.mp hs with rfl | hs
          · exact .inr ⟨r, List.mem_cons_self .., rfl, hneed⟩
          · exact .inl hs
      · exact .inr ⟨r', List.mem_cons_of_mem _ hr', hrest⟩
  rcases hgen rs h with hs | hr
  · rw [hb] at hs
    exact absurd hs List.not_mem_nil
  · exact hr

omit [DecidableEq κ] in
/-- Two pieces of different owners share no byte. -/
theorem Bump.Ok.disjoint {d : Nat} {b : Bump κ} (h : b.Ok d) {s t : Slot κ} (hs : s ∈ b.slots) (ht : t ∈ b.slots)
    (hne : s.key ≠ t.key) : s.off + s.len ≤ t.off ∨ t.off + t.len ≤ s.off := by
  have : Std.Symm fun s t : Slot κ => s.off + s.len ≤ t.off ∨ t.off + t.len ≤ s.off := ⟨fun _ _ h => h.symm⟩
  have hpair : b.slots.Pairwise fun s t => s.off + s.len ≤ t.off ∨ t.off + t.len ≤ s.off :=
    h.apart.imp fun h => .inr h
  exact hpair.forall hs ht fun heq => hne (heq ▸ rfl)

/-- A sum grows by what one of its terms grows. -/
theorem sum_map_add_le {α : Type} {l : List α} {f g : α → Nat} {x : α} {c : Nat} (hx : x ∈ l)
    (hle : ∀ y ∈ l, f y ≤ g y) (hc : f x + c ≤ g x) : (l.map f).sum + c ≤ (l.map g).sum := by
  induction l with
  | nil => exact absurd hx List.not_mem_nil
  | cons y l ih =>
    have hy := hle y (List.mem_cons_self ..)
    have hl := fun z hz => hle z (List.mem_cons_of_mem y hz)
    have hrest : (l.map f).sum ≤ (l.map g).sum := List.sum_le_sum hl
    rw [List.map_cons, List.map_cons, List.sum_cons, List.sum_cons]
    rcases List.mem_cons.mp hx with rfl | hx
    · omega
    · have := ih hx hl
      omega

end RiscvBinutils.Base
