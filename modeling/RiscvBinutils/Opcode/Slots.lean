/-
The immediate formats and the operand fields as slots of the word (include/opcode/riscv.h): what is written, and
what is read where something else was there before.
-/
import RiscvBinutils.Base.Masked
import RiscvBinutils.Opcode.Formats
import RiscvBinutils.Opcode.Operand

namespace RiscvBinutils.Opcode

open RiscvBinutils.Base

/-! ## Formats -/

theorem agreeOn_of_and {fs : List Field} {x y : Insn} (hf : Fits 64 fs) (ha : Apart fs)
    (h : x &&& scatter fs (BitVec.allOnes 64) = y &&& scatter fs (BitVec.allOnes 64)) : AgreeOn fs x y := by
  intro f hmem k hk
  obtain ⟨-, hpos, himm⟩ := hf f hmem
  have hones : (scatter fs (BitVec.allOnes 64)).getLsbD (f.pos + k) = true := by
    rw [getLsbD_scatter_field _ hf ha hmem hk, BitVec.getLsbD_allOnes]
    exact decide_eq_true (by omega)
  have hbit := congrArg (BitVec.getLsbD · (f.pos + k)) h
  simpa only [BitVec.getLsbD_and, hones, Bool.and_true] using hbit

theorem Shape.extract_congr {encode extract : Insn → Insn} {r : ImmRange} (h : Shape encode extract r) {x y : Insn}
    (hxy : x &&& encode (-1#64) = y &&& encode (-1#64)) : extract x = extract y := by
  rw [BitVec.neg_one_eq_allOnes] at hxy
  cases h with
  | unsigned h => exact gather_congr h.fits (agreeOn_of_and h.fits h.apart hxy)
  | signed h _ => exact h.congr (agreeOn_of_and h.fits h.apart hxy)

namespace ImmFormat

def slot (f : ImmFormat) : BitSlot 64 where
  mask := f.mask
  read := f.extract
  congr _ _ h := f.shape.extract_congr (by rwa [f.encode_minus_one])

theorem encode_inside (f : ImmFormat) (v : Insn) : f.encode v &&& ~~~f.mask = 0 := by
  rw [← f.encode_minus_one]
  exact f.shape.encode_and v

theorem agreeOutside_or_encode (f : ImmFormat) (x v : Insn) : AgreeOutside f.mask x (x ||| f.encode v) :=
  agreeOutside_or (f.encode_inside v)

/-- What is written into an empty slot is read. -/
theorem slot_read_or (f : ImmFormat) {x : Insn} (h : x &&& f.mask = 0) (v : Insn) :
    f.slot.read (x ||| f.encode v) = f.extract (f.encode v) :=
  f.slot.read_or h _

end ImmFormat

/-! ## Fields -/

theorem agreeOutside_insertImm (n s : Nat) (x v : Insn) :
    AgreeOutside (((1#64 <<< n) - 1#64) <<< s) x (insertImm n s x v) :=
  agreeOutside_insert x (shiftLeft_and_not v _ s)

theorem insertImm_read {n s : Nat} (hn : n < 64) (hs : s + n ≤ 64) (x v : Insn) :
    (BitSlot.bits n s).read (insertImm n s x v) = v &&& ((1#64 <<< n) - 1#64) :=
  BitSlot.bits_insert hn hs x v

/-- A signed field is the sign extension of an unsigned one. -/
theorem extractSImm_eq {n s : Nat} (hn : 0 < n) (hlt : n < 64) (x : Insn) :
    extractSImm n s x = sext n ((BitSlot.bits n s).read x) := by
  apply BitVec.eq_of_getLsbD_eq
  intro i hi
  rw [extractSImm, BitVec.getLsbD_or, BitVec.getLsbD_shiftLeft, getLsbD_neg_bitsAt_one _ _ _ (by decide),
    getLsbD_sext _ hn hi, BitSlot.bits, getLsbD_bitsAt _ _ hlt, getLsbD_bitsAt _ _ hlt]
  by_cases hin : i < n
  · rw [Nat.min_eq_left (by omega)]
    simp [hin]
  · rw [Nat.min_eq_right (by omega)]
    have hlast : s + (n - 1) = s + n - 1 := by omega
    simp [hin, hi, hlast, show n - 1 < n by omega, show i - n < 64 by omega]

namespace OperandField

variable (f : OperandField) (x v : Insn)

/-- The bits of the word that belong to the field. -/
def bits : Insn := f.mask <<< f.shift

theorem agreeOutside_insert : AgreeOutside f.bits x (f.insert x v) :=
  Base.agreeOutside_insert x (shiftLeft_and_not v _ _)

def slot : BitSlot 64 where
  mask := f.bits
  read := f.extract
  congr x y h := by
    apply BitVec.eq_of_getLsbD_eq
    intro i hi
    have hbit := congrArg (BitVec.getLsbD · (f.shift + i)) h
    simp only [bits, BitVec.getLsbD_and, BitVec.getLsbD_shiftLeft, Nat.add_sub_cancel_left] at hbit
    rw [extract, extract, BitVec.getLsbD_and, BitVec.getLsbD_and, BitVec.getLsbD_ushiftRight,
      BitVec.getLsbD_ushiftRight]
    by_cases hw : f.shift + i < 64
    · simpa [hw, show ¬ f.shift + i < f.shift by omega] using hbit
    · rw [BitVec.getLsbD_of_ge x _ (by omega), BitVec.getLsbD_of_ge y _ (by omega)]

theorem mask_eq (hw : f.width < 64) : f.mask = (1#64 <<< f.width) - 1#64 := by
  apply BitVec.eq_of_getLsbD_eq
  intro i hi
  rw [f.ones i hi, getLsbD_mask i hw]

/-- What was inserted, as far as the field takes it. -/
theorem extract_insert : f.extract (f.insert x v) = v &&& f.mask := by
  have hfits := f.fits
  apply BitVec.eq_of_getLsbD_eq
  intro i hi
  rw [extract, BitVec.getLsbD_and, BitVec.getLsbD_and, BitVec.getLsbD_ushiftRight, f.ones i hi]
  by_cases hin : i < f.width
  · rw [f.getLsbD_insert x v (by omega), if_pos (by omega), Nat.add_sub_cancel_left]
  · simp [hin]

end OperandField

end RiscvBinutils.Opcode
