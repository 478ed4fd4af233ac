/-
The mapping symbols (include/opcode/riscv.h, bfd/cpu-riscv.c): `$d` in front of data, `$x` in
front of instructions, and `$x` with an architecture behind it.
-/
import Mathlib.Data.List.Basic

namespace RiscvBinutils.Opcode

/-- `enum riscv_seg_mstate`. -/
inductive MapState
  | mapNone
  | mapData
  | mapInsn
  deriving DecidableEq, Repr

def dataName : List Char := "$d".toList

def insnName : List Char := "$x".toList

/-- `strncmp (name, "$xrv", 4) == 0`. -/
def isArchName (name : List Char) : Bool := "$xrv".toList.isPrefixOf name

/-- `riscv_elf_is_mapping_symbols`. -/
def riscvElfIsMappingSymbols (name : List Char) : Bool :=
  name = dataName || name = insnName || isArchName name

/-- The state behind a mapping symbol. -/
def stateOfName (name : List Char) : MapState := if name = dataName then .mapData else .mapInsn

theorem isArchName_dataName : isArchName dataName = false := by decide

theorem isArchName_insnName : isArchName insnName = false := by decide

theorem isArchName_ne {name : List Char} (h : isArchName name = true) : name ≠ dataName ∧ name ≠ insnName := by
  refine ⟨?_, ?_⟩
  · rintro rfl
    cases h
  · rintro rfl
    cases h

theorem stateOfName_arch {name : List Char} (h : isArchName name = true) : stateOfName name = .mapInsn :=
  if_neg (isArchName_ne h).1

/-- A mapping symbol begins with `$d` or `$x`. -/
theorem mapping_head {name : List Char} (h : riscvElfIsMappingSymbols name = true) :
    ∃ c rest, name = '$' :: c :: rest ∧ (c = 'x' ∨ c = 'd') := by
  unfold riscvElfIsMappingSymbols at h
  rw [Bool.or_eq_true, Bool.or_eq_true, decide_eq_true_eq, decide_eq_true_eq] at h
  rcases h with (rfl | rfl) | harch
  · exact ⟨'d', [], by decide, .inr rfl⟩
  · exact ⟨'x', [], by decide, .inl rfl⟩
  · obtain ⟨rest, hrest⟩ := List.isPrefixOf_iff_prefix.mp harch
    exact ⟨'x', 'r' :: 'v' :: rest, hrest.symm, .inl rfl⟩

end RiscvBinutils.Opcode
