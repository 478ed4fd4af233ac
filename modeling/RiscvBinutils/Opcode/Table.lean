/-
The whole table `riscv_opcodes` (opcodes/riscv-opc.c), and what its masks fix: apart from macros,
every row fixes the bits that tell the length of the instruction and its major opcode.
-/
import RiscvBinutils.Opcode.Length
import RiscvBinutils.Opcode.TableBase
import RiscvBinutils.Opcode.TableVector
import RiscvBinutils.Opcode.TableVendor

namespace RiscvBinutils.Opcode

/-- `riscv_opcodes`, without the row that ends it. -/
def riscvOpcodes : List RiscvOpcodeRow :=
  hintInsns ++ baseInsns ++ atomicInsns ++ mulInsns ++ halfInsns ++ singleInsns ++ doubleInsns ++ quadInsns ++
    compressedInsns ++ zicInsns ++ zfaInsns ++ bitmanipInsns ++ cryptoInsns ++ vectorInsns ++ vectorCryptoInsns ++
    zcbInsns ++ supervisorInsns ++ coreVInsns ++ theadInsns ++ theadVectorInsns ++ ventanaInsns ++ sifiveInsns

/-- The length of the instructions of a row: two bytes, or four. -/
inductive RowLength (op : RiscvOpcodeRow) : Prop
  | two (low : op.matchBits &&& 0x3#64 ≠ 0x3#64) (fixed : op.mask &&& 0x3#64 = 0x3#64)
  | four (low : op.matchBits &&& 0x3#64 = 0x3#64) (notLonger : op.matchBits &&& 0x1f#64 ≠ 0x1f#64)
      (fixed : op.mask &&& 0x7f#64 = 0x7f#64)

/-- What the search from a bucket relies on. -/
def indexed (op : RiscvOpcodeRow) : Bool :=
  op.pinfo = insnMacro || op.matchFunc ≠ .rs1Nonzero &&
    (op.matchBits &&& 0x3#64 ≠ 0x3#64 && op.mask &&& 0x3#64 = 0x3#64 ||
      op.matchBits &&& 0x3#64 = 0x3#64 && op.matchBits &&& 0x1f#64 ≠ 0x1f#64 && op.mask &&& 0x7f#64 = 0x7f#64)

theorem riscvOpcodes_indexed : ∀ op ∈ riscvOpcodes, indexed op = true := by
  rw [← List.all_eq_true]
  decide +kernel

section Indexed

variable {op : RiscvOpcodeRow} {insn : Insn}

theorem indexed_iff : indexed op = true ↔ op.pinfo = insnMacro ∨ op.matchFunc ≠ .rs1Nonzero ∧ RowLength op := by
  unfold indexed
  simp only [Bool.or_eq_true, Bool.and_eq_true, decide_eq_true_eq]
  constructor
  · rintro (hpinfo | ⟨hfunc, ⟨hlow, hfixed⟩ | ⟨⟨hlow, hlong⟩, hfixed⟩⟩)
    · exact .inl hpinfo
    · exact .inr ⟨hfunc, .two hlow hfixed⟩
    · exact .inr ⟨hfunc, .four hlow hlong hfixed⟩
  · rintro (hpinfo | ⟨hfunc, (⟨hlow, hfixed⟩ | ⟨hlow, hlong, hfixed⟩)⟩)
    · exact .inl hpinfo
    · exact .inr ⟨hfunc, .inl ⟨hlow, hfixed⟩⟩
    · exact .inr ⟨hfunc, .inr ⟨⟨hlow, hlong⟩, hfixed⟩⟩

/-- A word that matches has the bits of `match` wherever the mask has all bits. -/
theorem matched_and {bits : Insn} (h : op.matchOpcode insn = true) (hfixed : op.mask &&& bits = bits) :
    insn &&& bits = op.matchBits &&& bits := by
  have hsame := RiscvOpcodeRow.matchOpcode_iff.mp h
  apply BitVec.eq_of_getLsbD_eq
  intro i hi
  have hbit := congrArg (BitVec.getLsbD · i) hsame
  have hmask := congrArg (BitVec.getLsbD · i) hfixed
  simp only [BitVec.getLsbD_and, BitVec.getLsbD_xor] at hbit hmask ⊢
  rw [← hmask]
  revert hbit
  cases insn.getLsbD i <;> cases op.matchBits.getLsbD i <;> cases op.mask.getLsbD i <;> simp

theorem riscvInsnLength_two (h : insn &&& 0x3#64 ≠ 0x3#64) : riscvInsnLength insn = 2 := if_pos h

theorem riscvInsnLength_four (hlow : insn &&& 0x3#64 = 0x3#64) (hlong : insn &&& 0x1f#64 ≠ 0x1f#64) :
    riscvInsnLength insn = 4 := by
  unfold riscvInsnLength
  rw [if_neg (not_not.mpr hlow), if_pos hlong]

/-- A word that matches is as long as `match`. -/
theorem RowLength.matched (hlength : RowLength op) (h : op.matchOpcode insn = true) :
    riscvInsnLength insn = riscvInsnLength op.matchBits := by
  cases hlength with
  | two hlow hfixed =>
    have hsame := matched_and h hfixed
    rw [riscvInsnLength_two hlow, riscvInsnLength_two (by rwa [hsame])]
  | four hlow hlong hfixed =>
    have hsame := matched_and h hfixed
    -- the bits that tell the length are among those of the opcode
    have hpart (bits : Insn) (hbits : 0x7f#64 &&& bits = bits) : insn &&& bits = op.matchBits &&& bits := by
      rw [← hbits, ← BitVec.and_assoc, ← BitVec.and_assoc, hsame]
    rw [riscvInsnLength_four hlow hlong,
      riscvInsnLength_four (by rw [hpart 0x3#64 (by decide)]; exact hlow) (by rw [hpart 0x1f#64 (by decide)]; exact hlong)]

end Indexed

end RiscvBinutils.Opcode
