/-
The operand fields of an instruction word (include/opcode/riscv.h, `INSERT_OPERAND` and `EXTRACT_OPERAND`):
a field holds what was inserted last, whatever was inserted into the others.
-/
import RiscvBinutils.Opcode.Imm

namespace RiscvBinutils.Opcode

open RiscvBinutils.Base

/-- `OP_MASK_x` and `OP_SH_x`; the mask has its low `width` bits set. -/
structure OperandField where
  mask : Insn
  shift : Nat
  width : Nat
  ones : ∀ i < 64, mask.getLsbD i = decide (i < width)
  fits : shift + width ≤ 64

namespace OperandField

def rd : OperandField := ⟨0x1f, 7, 5, by decide +kernel, by decide⟩
def rs1 : OperandField := ⟨0x1f, 15, 5, by decide +kernel, by decide⟩
def rs2 : OperandField := ⟨0x1f, 20, 5, by decide +kernel, by decide⟩
def vd : OperandField := ⟨0x1f, 7, 5, by decide +kernel, by decide⟩
def vs1 : OperandField := ⟨0x1f, 15, 5, by decide +kernel, by decide⟩
def vs2 : OperandField := ⟨0x1f, 20, 5, by decide +kernel, by decide⟩
def vmask : OperandField := ⟨0x1, 25, 1, by decide +kernel, by decide⟩
def vfunct6 : OperandField := ⟨0x3f, 26, 6, by decide +kernel, by decide⟩
def vimm : OperandField := ⟨0x1f, 15, 5, by decide +kernel, by decide⟩
def vwd : OperandField := ⟨0x1, 26, 1, by decide +kernel, by decide⟩
def rs3 : OperandField := ⟨0x1f, 27, 5, by decide +kernel, by decide⟩
def shamt : OperandField := ⟨0x3f, 20, 6, by decide +kernel, by decide⟩
def shamtw : OperandField := ⟨0x1f, 20, 5, by decide +kernel, by decide⟩
def rm : OperandField := ⟨0x7, 12, 3, by decide +kernel, by decide⟩
def pred : OperandField := ⟨0xf, 24, 4, by decide +kernel, by decide⟩
def succ : OperandField := ⟨0xf, 20, 4, by decide +kernel, by decide⟩
def csr : OperandField := ⟨0xfff, 20, 12, by decide +kernel, by decide⟩
def op : OperandField := ⟨0x7f, 0, 7, by decide +kernel, by decide⟩
def op2 : OperandField := ⟨0x3, 0, 2, by decide +kernel, by decide⟩
def funct7 : OperandField := ⟨0x7f, 25, 7, by decide +kernel, by decide⟩
def funct3 : OperandField := ⟨0x7, 12, 3, by decide +kernel, by decide⟩
def funct2 : OperandField := ⟨0x3, 25, 2, by decide +kernel, by decide⟩
def crs2 : OperandField := ⟨0x1f, 2, 5, by decide +kernel, by decide⟩
def crs1s : OperandField := ⟨0x7, 7, 3, by decide +kernel, by decide⟩
def crs2s : OperandField := ⟨0x7, 2, 3, by decide +kernel, by decide⟩
def cfunct6 : OperandField := ⟨0x3f, 10, 6, by decide +kernel, by decide⟩
def cfunct4 : OperandField := ⟨0xf, 12, 4, by decide +kernel, by decide⟩
def cfunct3 : OperandField := ⟨0x7, 13, 3, by decide +kernel, by decide⟩
def cfunct2 : OperandField := ⟨0x3, 5, 2, by decide +kernel, by decide⟩
def bs : OperandField := ⟨0x3, 30, 2, by decide +kernel, by decide⟩
def rnum : OperandField := ⟨0xf, 20, 4, by decide +kernel, by decide⟩
def xso2 : OperandField := ⟨0x3, 26, 2, by decide +kernel, by decide⟩
def xso1 : OperandField := ⟨0x1, 26, 1, by decide +kernel, by decide⟩

/-- `INSERT_OPERAND`. -/
def insert (f : OperandField) (insn value : Insn) : Insn :=
  (insn &&& ~~~(f.mask <<< f.shift)) ||| ((value &&& f.mask) <<< f.shift)

/-- `EXTRACT_OPERAND`. -/
def extract (f : OperandField) (insn : Insn) : Insn := (insn >>> f.shift) &&& f.mask

variable (f : OperandField) (insn value : Insn)

theorem getLsbD_insert {i : Nat} (hi : i < 64) : (f.insert insn value).getLsbD i =
    if f.shift ≤ i ∧ i < f.shift + f.width then value.getLsbD (i - f.shift) else insn.getLsbD i := by
  unfold insert
  rw [BitVec.getLsbD_or, BitVec.getLsbD_and, BitVec.getLsbD_not, BitVec.getLsbD_shiftLeft, BitVec.getLsbD_shiftLeft,
    BitVec.getLsbD_and, f.ones (i - f.shift) (by omega), decide_eq_true hi]
  by_cases hlow : f.shift ≤ i
  · rw [decide_eq_false (by omega : ¬ i < f.shift)]
    by_cases hhigh : i < f.shift + f.width
    · rw [if_pos ⟨hlow, hhigh⟩, decide_eq_true (by omega : i - f.shift < f.width)]
      simp
    · rw [if_neg (by omega), decide_eq_false (by omega : ¬ i - f.shift < f.width)]
      simp
  · rw [if_neg (by omega), decide_eq_true (by omega : i < f.shift)]
    simp

/-- A field holds what was inserted. -/
theorem extractLsb'_insert_same {p n : Nat} (hp : p = f.shift) (hn : n = f.width) :
    (f.insert insn value).extractLsb' p n = value.setWidth n := by
  subst hp hn
  have hfits := f.fits
  apply BitVec.eq_of_getLsbD_eq
  intro i hi
  rw [BitVec.getLsbD_extractLsb', f.getLsbD_insert insn value (by omega), if_pos (by omega), BitVec.getLsbD_setWidth,
    Nat.add_sub_cancel_left]

/-- The bits outside of a field stay. -/
theorem extractLsb'_insert_apart {p n : Nat} (h : p + n ≤ f.shift ∨ f.shift + f.width ≤ p) (hn : p + n ≤ 64) :
    (f.insert insn value).extractLsb' p n = insn.extractLsb' p n := by
  apply BitVec.eq_of_getLsbD_eq
  intro i hi
  rw [BitVec.getLsbD_extractLsb', BitVec.getLsbD_extractLsb', f.getLsbD_insert insn value (by omega),
    if_neg (by omega)]

theorem extract_eq : f.extract insn = (insn.extractLsb' f.shift f.width).setWidth 64 := by
  unfold extract
  apply BitVec.eq_of_getLsbD_eq
  intro i hi
  rw [BitVec.getLsbD_and, BitVec.getLsbD_ushiftRight, f.ones i hi, BitVec.getLsbD_setWidth, BitVec.getLsbD_extractLsb',
    decide_eq_true hi, Bool.true_and, Bool.and_comm]

theorem extract_insert_same {n : Nat} (v : BitVec n) (hn : n ≤ f.width) :
    f.extract (f.insert insn (v.setWidth 64)) = v.setWidth 64 := by
  rw [extract_eq, f.extractLsb'_insert_same insn _ rfl rfl]
  apply BitVec.eq_of_getLsbD_eq
  intro i hi
  simp only [BitVec.getLsbD_setWidth, decide_eq_true hi, Bool.true_and]
  by_cases hlt : i < f.width
  · rw [decide_eq_true hlt, Bool.true_and]
  · rw [BitVec.getLsbD_of_ge v i (by omega), Bool.and_false]

theorem extract_insert_apart {f g : OperandField} (h : f.shift + f.width ≤ g.shift ∨ g.shift + g.width ≤ f.shift) :
    f.extract (g.insert insn value) = f.extract insn := by
  rw [extract_eq, extract_eq, g.extractLsb'_insert_apart insn value h f.fits]

end OperandField

/-! ## Fields given by numbers -/

/-- `INSERT_IMM`: `n` bits at bit `s`. -/
def insertImm (n s : Nat) (insn value : Insn) : Insn :=
  (insn &&& ~~~(((1#64 <<< n) - 1#64) <<< s)) ||| ((value &&& ((1#64 <<< n) - 1#64)) <<< s)

/-- `EXTRACT_U_IMM`. -/
def extractUImm (n s : Nat) (insn : Insn) : Insn := bitsAt insn s n

/-- `EXTRACT_S_IMM`. -/
def extractSImm (n s : Nat) (insn : Insn) : Insn := bitsAt insn s n ||| ((-(bitsAt insn (s + n - 1) 1)) <<< n)

/-! ## Readings without an operand field -/

def extractRvvViImm (x : Insn) : Insn := bitsAt x 15 5 ||| ((-(bitsAt x 19 1)) <<< 5)
def extractRvvViUimm (x : Insn) : Insn := bitsAt x 15 5
def extractCvIs2Uimm5 (x : Insn) : Insn := bitsAt x 20 5
def extractCvIs3Uimm5 (x : Insn) : Insn := bitsAt x 25 5

end RiscvBinutils.Opcode
