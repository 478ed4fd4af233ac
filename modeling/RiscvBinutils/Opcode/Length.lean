/-
The length of an instruction (include/opcode/riscv.h, `riscv_insn_length`).
-/
import Mathlib.Tactic

namespace RiscvBinutils.Opcode

/-- `RISCV_MAX_INSN_LEN`. -/
def riscvMaxInsnLen : Nat := 22

/-- `riscv_insn_length`, in bytes. -/
def riscvInsnLength (insn : BitVec 64) : Nat :=
  if insn &&& 0x3#64 ≠ 0x3#64 then 2
  else if insn &&& 0x1f#64 ≠ 0x1f#64 then 4
  else if insn &&& 0x3f#64 = 0x1f#64 then 6
  else if insn &&& 0x7f#64 = 0x3f#64 then 8
  else if insn &&& 0x7f#64 = 0x7f#64 ∧ insn &&& 0x7000#64 ≠ 0x7000#64 then 10 + ((insn >>> 11) &&& 0xe#64).toNat
  -- longer ones are not supported
  else 2

section Length

variable {x y : BitVec 64}

theorem and_congr_low {m : BitVec 64} (h : ∀ i < 16, x.getLsbD i = y.getLsbD i)
    (hm : ∀ i < 64, m.getLsbD i = true → i < 16) : x &&& m = y &&& m := by
  apply BitVec.eq_of_getLsbD_eq
  intro i hi
  rw [BitVec.getLsbD_and, BitVec.getLsbD_and]
  cases hbit : m.getLsbD i with
  | false => rw [Bool.and_false, Bool.and_false]
  | true => rw [h i (hm i hi hbit)]

/-- Only the first halfword counts. -/
theorem riscvInsnLength_congr (h : ∀ i < 16, x.getLsbD i = y.getLsbD i) : riscvInsnLength x = riscvInsnLength y := by
  have hshift : (x >>> 11) &&& 0xe#64 = (y >>> 11) &&& 0xe#64 := by
    have hmask : ∀ i < 64, (0xe#64).getLsbD i = true → i < 4 := by decide
    apply BitVec.eq_of_getLsbD_eq
    intro i hi
    rw [BitVec.getLsbD_and, BitVec.getLsbD_and, BitVec.getLsbD_ushiftRight, BitVec.getLsbD_ushiftRight]
    cases hbit : (0xe#64).getLsbD i with
    | false => rw [Bool.and_false, Bool.and_false]
    | true =>
      have hi4 := hmask i hi hbit
      rw [h (11 + i) (by omega)]
  unfold riscvInsnLength
  rw [and_congr_low h (by decide : ∀ i < 64, (0x3#64).getLsbD i = true → i < 16),
    and_congr_low h (by decide : ∀ i < 64, (0x1f#64).getLsbD i = true → i < 16),
    and_congr_low h (by decide : ∀ i < 64, (0x3f#64).getLsbD i = true → i < 16),
    and_congr_low h (by decide : ∀ i < 64, (0x7f#64).getLsbD i = true → i < 16),
    and_congr_low h (by decide : ∀ i < 64, (0x7000#64).getLsbD i = true → i < 16), hshift]

theorem two_le_riscvInsnLength (x : BitVec 64) : 2 ≤ riscvInsnLength x := by
  unfold riscvInsnLength
  split_ifs <;> omega

/-- A number of halfwords, up to the longest instruction. -/
theorem riscvInsnLength_le (x : BitVec 64) : riscvInsnLength x ≤ riscvMaxInsnLen ∧ riscvInsnLength x % 2 = 0 := by
  have hmask : ((x >>> 11) &&& 0xe#64).toNat ≤ 14 ∧ ((x >>> 11) &&& 0xe#64).toNat % 2 = 0 := by
    rw [BitVec.toNat_and]
    refine ⟨Nat.and_le_right, ?_⟩
    rw [Nat.mod_two_eq_zero_iff_testBit_zero, Nat.testBit_and]
    exact Bool.and_false _
  -- all three bits of the length are only set in what is not supported
  have hlong : x &&& 0x7000#64 ≠ 0x7000#64 → ((x >>> 11) &&& 0xe#64).toNat ≠ 14 := by
    intro hne hall
    have hset : (x >>> 11) &&& 0xe#64 = 0xe#64 := BitVec.eq_of_toNat_eq hall
    have hbits : ∀ i < 64, (0x7000#64).getLsbD i = true → 11 ≤ i ∧ (0xe#64).getLsbD (i - 11) = true := by decide
    apply hne
    apply BitVec.eq_of_getLsbD_eq
    intro i hi
    rw [BitVec.getLsbD_and]
    cases hbit : (0x7000#64).getLsbD i with
    | false => rw [Bool.and_false]
    | true =>
      obtain ⟨hle, hmask⟩ := hbits i hi hbit
      have hx := congrArg (BitVec.getLsbD · (i - 11)) hset
      rw [BitVec.getLsbD_and, BitVec.getLsbD_ushiftRight, hmask, Bool.and_true, Nat.add_sub_cancel' hle] at hx
      rw [hx, Bool.and_true]
  unfold riscvInsnLength riscvMaxInsnLen
  constructor
  · split_ifs with h2 h4 h6 h8 hmore
    · omega
    · omega
    · omega
    · omega
    · have hne := hlong hmore.2
      omega
    · omega
  · split_ifs <;> omega

/-- An instruction longer than a halfword does not begin with a zero byte. -/
theorem low_byte_ne_zero (h : 2 < riscvInsnLength x) : x.toNat % 256 ≠ 0 := by
  intro hzero
  have hthree : x &&& 0x3#64 ≠ 0x3#64 := by
    intro hlow
    have hbit := congrArg BitVec.toNat hlow
    rw [BitVec.toNat_and, show (0x3#64).toNat = 2 ^ 2 - 1 from rfl, Nat.and_two_pow_sub_one_eq_mod] at hbit
    omega
  rw [riscvInsnLength, if_pos hthree] at h
  omega

end Length

end RiscvBinutils.Opcode
