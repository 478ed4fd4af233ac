/-
Distances that only ever shrink.
Deleting a range from a line of points pulls every point above the range down by its length; the
distance of two points outside the range keeps its side of zero and, for an even length, its
parity, and never grows.
-/
import Mathlib.Tactic

namespace RiscvBinutils.Base

/-- Where the point `x` ends up when `[addr, addr + count)` is deleted. -/
def retract (addr count x : Nat) : Nat :=
  if addr < x then x - count else x

/-- `d'` lies between zero and `d` and has the same parity. -/
structure Shrinks (d d' : Int) : Prop where
  nonneg : 0 ≤ d → 0 ≤ d'
  nonpos : d ≤ 0 → d' ≤ 0
  abs_le : |d'| ≤ |d|
  parity : d' % 2 = d % 2

namespace Shrinks

protected theorem refl (d : Int) : Shrinks d d :=
  ⟨id, id, le_refl _, rfl⟩

protected theorem trans {d d' d'' : Int} (h : Shrinks d d') (h' : Shrinks d' d'') : Shrinks d d'' where
  nonneg := fun hd => h'.nonneg (h.nonneg hd)
  nonpos := fun hd => h'.nonpos (h.nonpos hd)
  abs_le := le_trans h'.abs_le h.abs_le
  parity := h'.parity.trans h.parity

/-- An interval around zero that holds the first distance holds the second. -/
theorem mem_range {d d' lo hi : Int} (h : Shrinks d d') (hlo : lo ≤ 0) (hhi : 0 < hi)
    (hd : lo ≤ d ∧ d < hi) : lo ≤ d' ∧ d' < hi := by
  have habs := h.abs_le
  rcases le_total 0 d with hpos | hneg
  · have hpos' := h.nonneg hpos
    rw [abs_of_nonneg hpos, abs_of_nonneg hpos'] at habs
    omega
  · have hneg' := h.nonpos hneg
    rw [abs_of_nonpos hneg, abs_of_nonpos hneg'] at habs
    omega

end Shrinks

/-- Two points outside the deleted range only come closer. -/
theorem retract_shrinks {addr count x y : Nat} (heven : count % 2 = 0)
    (hx : x ≤ addr ∨ addr + count ≤ x) (hy : y ≤ addr ∨ addr + count ≤ y) :
    Shrinks ((y : Int) - x) ((retract addr count y : Int) - retract addr count x) := by
  have hcast : ∀ z, z ≤ addr ∨ addr + count ≤ z → ((retract addr count z : Nat) : Int) =
      if addr < z then (z : Int) - count else z := by
    intro z hz
    unfold retract
    split <;> omega
  rw [hcast x hx, hcast y hy]
  constructor
  · intro h; split <;> split <;> omega
  · intro h; split <;> split <;> omega
  · rcases le_total ((x : Int)) y with h | h
    · rw [abs_of_nonneg (by omega : (0 : Int) ≤ (y : Int) - x), abs_of_nonneg] <;>
        split <;> split <;> omega
    · rw [abs_of_nonpos (by omega : (y : Int) - x ≤ 0), abs_of_nonpos] <;>
        split <;> split <;> omega
  · split <;> split <;> omega

end RiscvBinutils.Base
