/-
Words that agree outside of a mask, and readings that look at the bits of a mask only.
-/
import RiscvBinutils.Base.Bits

namespace RiscvBinutils.Base

variable {w : Nat}

/-! ## Agreement -/

/-- The words differ in bits of the mask at most. -/
def AgreeOutside (m x y : BitVec w) : Prop := ∀ i < w, m.getLsbD i = false → x.getLsbD i = y.getLsbD i

section Agree

variable {m m' x y z : BitVec w}

theorem AgreeOutside.refl (m x : BitVec w) : AgreeOutside m x x := fun _ _ _ => rfl

theorem AgreeOutside.trans (hxy : AgreeOutside m x y) (hyz : AgreeOutside m y z) : AgreeOutside m x z :=
  fun i hi hm => (hxy i hi hm).trans (hyz i hi hm)

/-- No two bits in common. -/
theorem and_eq_zero_iff : m &&& m' = 0 ↔ ∀ i < w, m.getLsbD i = true → m'.getLsbD i = false := by
  constructor
  · intro h i hi hm
    have hbit := congrArg (BitVec.getLsbD · i) h
    simpa [hm] using hbit
  · intro h
    apply BitVec.eq_of_getLsbD_eq
    intro i hi
    rw [BitVec.getLsbD_and]
    cases hm : m.getLsbD i with
    | false => simp
    | true => simp [h i hi hm]

theorem and_or_eq_zero {n : BitVec w} (h : m &&& (m' ||| n) = 0) : m &&& m' = 0 ∧ m &&& n = 0 := by
  rw [and_eq_zero_iff] at h
  refine ⟨and_eq_zero_iff.mpr fun i hi hm => ?_, and_eq_zero_iff.mpr fun i hi hm => ?_⟩
  · have hbit := h i hi hm
    rw [BitVec.getLsbD_or, Bool.or_eq_false_iff] at hbit
    exact hbit.1
  · have hbit := h i hi hm
    rw [BitVec.getLsbD_or, Bool.or_eq_false_iff] at hbit
    exact hbit.2

theorem AgreeOutside.or_left (h : AgreeOutside m x y) (m' : BitVec w) : AgreeOutside (m ||| m') x y := by
  intro i hi hm
  rw [BitVec.getLsbD_or, Bool.or_eq_false_iff] at hm
  exact h i hi hm.1

theorem AgreeOutside.or_right (h : AgreeOutside m x y) (m' : BitVec w) : AgreeOutside (m' ||| m) x y := by
  rw [BitVec.or_comm]
  exact h.or_left m'

/-- What has no bit in common with the mask is as before. -/
theorem AgreeOutside.and_eq (h : AgreeOutside m x y) (hapart : m' &&& m = 0) : x &&& m' = y &&& m' := by
  apply BitVec.eq_of_getLsbD_eq
  intro i hi
  rw [BitVec.getLsbD_and, BitVec.getLsbD_and]
  cases hm : m'.getLsbD i with
  | false => simp
  | true => rw [h i hi (and_eq_zero_iff.mp hapart i hi hm)]

/-- A word without a bit outside of the mask. -/
theorem getLsbD_of_and_not (h : y &&& ~~~m = 0) {i : Nat} (hi : i < w) (hm : m.getLsbD i = false) :
    y.getLsbD i = false := by
  have hbit := congrArg (BitVec.getLsbD · i) h
  simp only [BitVec.getLsbD_and, BitVec.getLsbD_not, hi, decide_true, hm, Bool.not_false, Bool.and_true,
    BitVec.getLsbD_zero, BitVec.ofNat_eq_ofNat] at hbit
  exact hbit

/-- Bits of the mask are set. -/
theorem agreeOutside_or (h : y &&& ~~~m = 0) : AgreeOutside m x (x ||| y) := by
  intro i hi hm
  rw [BitVec.getLsbD_or, getLsbD_of_and_not h hi hm, Bool.or_false]

/-- Bits of the mask are replaced. -/
theorem agreeOutside_insert (x : BitVec w) (h : y &&& ~~~m = 0) : AgreeOutside m x ((x &&& ~~~m) ||| y) := by
  intro i hi hm
  rw [BitVec.getLsbD_or, BitVec.getLsbD_and, BitVec.getLsbD_not, getLsbD_of_and_not h hi hm, hm, decide_eq_true hi,
    Bool.not_false, Bool.and_self, Bool.and_true, Bool.or_false]

theorem shiftLeft_and_not (y m : BitVec w) (s : Nat) : ((y &&& m) <<< s) &&& ~~~(m <<< s) = 0 := by
  rw [and_eq_zero_iff]
  intro i hi hbit
  simp only [BitVec.getLsbD_shiftLeft, BitVec.getLsbD_and, Bool.and_eq_true, Bool.not_eq_true', decide_eq_true_eq,
    decide_eq_false_iff_not] at hbit
  simp [hbit]

end Agree

/-! ## Readings -/

/-- A part of a word: its bits, and how they are read. -/
structure BitSlot (w : Nat) where
  mask : BitVec w
  read : BitVec w → BitVec w
  congr : ∀ x y, x &&& mask = y &&& mask → read x = read y

namespace BitSlot

/-- What is read is worked on. -/
def map (g : BitVec w → BitVec w) (slot : BitSlot w) : BitSlot w where
  mask := slot.mask
  read x := g (slot.read x)
  congr x y h := congrArg g (slot.congr x y h)

/-- Setting bits in an empty slot. -/
theorem read_or (slot : BitSlot w) {x : BitVec w} (h : x &&& slot.mask = 0) (y : BitVec w) :
    slot.read (x ||| y) = slot.read y := by
  refine slot.congr _ _ ?_
  rw [BitVec.and_comm, and_eq_zero_iff] at h
  apply BitVec.eq_of_getLsbD_eq
  intro i hi
  rw [BitVec.getLsbD_and, BitVec.getLsbD_and, BitVec.getLsbD_or]
  cases hm : slot.mask.getLsbD i with
  | false => simp
  | true => rw [h i hi hm, Bool.false_or]

/-- What is written elsewhere is not read. -/
theorem read_outside (slot : BitSlot w) {m x y : BitVec w} (h : AgreeOutside m x y) (hapart : slot.mask &&& m = 0) :
    slot.read x = slot.read y :=
  slot.congr _ _ (h.and_eq hapart)

theorem bitsAt_congr (n s : Nat) {x y : BitVec w}
    (h : x &&& (((1#w <<< n) - 1#w) <<< s) = y &&& (((1#w <<< n) - 1#w) <<< s)) : bitsAt x s n = bitsAt y s n := by
  apply BitVec.eq_of_getLsbD_eq
  intro i hi
  have hbit := congrArg (BitVec.getLsbD · (s + i)) h
  simp only [BitVec.getLsbD_and, BitVec.getLsbD_shiftLeft, Nat.add_sub_cancel_left] at hbit
  rw [bitsAt, bitsAt, BitVec.getLsbD_and, BitVec.getLsbD_and, BitVec.getLsbD_ushiftRight, BitVec.getLsbD_ushiftRight]
  by_cases hw : s + i < w
  · simpa [hw, show ¬ s + i < s by omega] using hbit
  · rw [BitVec.getLsbD_of_ge x _ (by omega), BitVec.getLsbD_of_ge y _ (by omega)]

/-- `n` bits from bit `s` on. -/
def bits (n s : Nat) : BitSlot w where
  mask := ((1#w <<< n) - 1#w) <<< s
  read x := bitsAt x s n
  congr _ _ h := bitsAt_congr n s h

/-- What was inserted is read. -/
theorem bits_insert {n s : Nat} (hn : n < w) (hs : s + n ≤ w) (x v : BitVec w) :
    (bits n s).read ((x &&& ~~~(((1#w <<< n) - 1#w) <<< s)) ||| ((v &&& ((1#w <<< n) - 1#w)) <<< s)) =
      v &&& ((1#w <<< n) - 1#w) := by
  apply BitVec.eq_of_getLsbD_eq
  intro i hi
  rw [bits, getLsbD_bitsAt _ i hn, BitVec.getLsbD_and, getLsbD_mask i hn]
  by_cases hin : i < n
  · rw [BitVec.getLsbD_or, BitVec.getLsbD_and, BitVec.getLsbD_not, BitVec.getLsbD_shiftLeft, BitVec.getLsbD_shiftLeft,
      Nat.add_sub_cancel_left, BitVec.getLsbD_and, getLsbD_mask i hn]
    simp [hin, show s + i < w by omega]
  · simp [hin]

end BitSlot

end RiscvBinutils.Base
