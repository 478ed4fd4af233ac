/-
The hash of the disassembler (opcodes/riscv-dis.c, `riscv_disassemble_insn`). The first call keeps
for each index the first row of `riscv_opcodes` whose `match` has it; the search for an
instruction begins at the row kept for the index of the word.
-/
import RiscvBinutils.Base.Bucket
import RiscvBinutils.Dis.Insn
import RiscvBinutils.Opcode.Table

namespace RiscvBinutils.Dis

open RiscvBinutils.Base RiscvBinutils.Opcode

section Search

variable {κ : Type} (options : DisOptions κ) (opcodes : List (RiscvOpcode κ)) (word : BitVec 64)

/-- `riscv_hash`: rows are given by their index in the table. -/
def riscvHash : BitVec 64 → Option Nat := buckets (fun op => opHashIdx op.matchBits) opcodes

/-- The conditions on a row to be printed, in the order of the loop. -/
def printable (op : RiscvOpcode κ) : Bool :=
  !op.macroInsn && op.matchFunc word && !(options.noAliases && op.aliasInsn) &&
    (op.xlenRequirement = 0 || op.xlenRequirement = options.xlen) && options.supports op.insnClass

/-- The index of the row that is printed. -/
def hashedRow : Option Nat :=
  (riscvHash opcodes (opHashIdx word)).bind fun start => searchFrom (printable options word) (opcodes.drop start) start

variable {options opcodes word}

theorem printable_matched {op : RiscvOpcode κ} (h : printable options word op = true) :
    op.macroInsn = false ∧ op.matchFunc word = true := by
  simp only [printable, Bool.and_eq_true, Bool.not_eq_true'] at h
  exact ⟨h.1.1.1.1, h.1.1.1.2⟩

/-- What the search from the bucket needs: the words a row matches have the index of the row. -/
def HashKept (opcodes : List (RiscvOpcode κ)) (word : BitVec 64) : Prop :=
  ∀ op ∈ opcodes, op.macroInsn = false → op.matchFunc word = true → opHashIdx op.matchBits = opHashIdx word

theorem hashedRow_eq (hkept : HashKept opcodes word) :
    hashedRow options opcodes word = opcodes.findIdx? (printable options word) := by
  apply searchBucket_eq
  intro op hop haccept
  obtain ⟨hpinfo, hmatch⟩ := printable_matched haccept
  exact hkept op hop hpinfo hmatch

theorem findOpcode_eq (hkept : HashKept opcodes word) :
    findOpcode options opcodes word = opcodes.find? (printable options word) := by
  apply find?_dropWhile
  intro op hop haccept
  obtain ⟨hpinfo, hmatch⟩ := printable_matched haccept
  rw [hkept op hop hpinfo hmatch]
  simp

end Search

/-! ## The table of the disassembler -/

/-- What the disassembler reads of a row. -/
def ofRow (op : RiscvOpcodeRow) : RiscvOpcode InsnClass where
  name := op.name.toList
  xlenRequirement := op.xlenRequirement
  insnClass := op.insnClass
  matchBits := op.matchBits
  matchFunc := op.accepts
  macroInsn := op.pinfo = insnMacro
  aliasInsn := op.pinfo &&& insnAlias ≠ 0

def disOpcodes : List (RiscvOpcode InsnClass) := riscvOpcodes.map ofRow

/-- A matching word has the length and the fixed bits of the row, and so its index. -/
theorem opHashIdx_matched {op : RiscvOpcodeRow} {word : BitVec 64} (hlength : RowLength op)
    (h : op.matchOpcode word = true) : opHashIdx op.matchBits = opHashIdx word := by
  unfold opHashIdx
  rw [hlength.matched h]
  cases hlength with
  | two hlow hfixed => rw [riscvInsnLength_two hlow, if_pos rfl, matched_and h hfixed]
  | four hlow hlong hfixed => rw [riscvInsnLength_four hlow hlong, if_neg (by decide), matched_and h hfixed]

theorem disOpcodes_kept (word : BitVec 64) : HashKept disOpcodes word := by
  intro _ hop hpinfo hmatch
  obtain ⟨op, hrow, rfl⟩ := List.mem_map.mp hop
  have hnot : op.pinfo ≠ insnMacro := of_decide_eq_false hpinfo
  rcases indexed_iff.mp (riscvOpcodes_indexed op hrow) with hyes | ⟨hfunc, hlength⟩
  · exact absurd hyes hnot
  · exact opHashIdx_matched hlength (RiscvOpcodeRow.matchOpcode_of_accepts hnot hfunc hmatch)

/-- The row found through the hash is the first of the whole table that can be printed, and no
row that matches stands before the bucket. -/
theorem hashedRow_first (options : DisOptions InsnClass) (word : BitVec 64) :
    hashedRow options disOpcodes word = disOpcodes.findIdx? (printable options word) ∧
    findOpcode options disOpcodes word = disOpcodes.find? (printable options word) ∧
    ∀ i op, disOpcodes[i]? = some op → op.macroInsn = false → op.matchFunc word = true →
      ∃ start, riscvHash disOpcodes (opHashIdx word) = some start ∧ start ≤ i := by
  have hkept := disOpcodes_kept word
  refine ⟨hashedRow_eq hkept, findOpcode_eq hkept, ?_⟩
  intro i op hop hpinfo hmatch
  exact buckets_le hop (hkept op (List.mem_of_getElem? hop) hpinfo hmatch)

end RiscvBinutils.Dis
