/-
The rows of the instruction tables (include/opcode/riscv.h, opcodes/riscv-opc.c): what a row says,
and the functions that tell whether a word is an instruction of the row.
-/
import RiscvBinutils.Opcode.Imm

namespace RiscvBinutils.Opcode

/-! ## Data -/

/-- `enum riscv_insn_class`. -/
inductive InsnClass
  | none | i | c | a | m | f | d | q | fAndC | dAndC | zicond | zicsr | zifencei | zihintntl | zihintntlAndC
  | zihintpause | zmmul | zawrs | fInx | dInx | qInx | zfhInx | zfhmin | zfhminInx | zfhminAndDInx | zfhminAndQInx
  | zfa | dAndZfa | qAndZfa | zfhAndZfa | zfhOrZvfhAndZfa | zba | zbb | zbc | zbs | zbkb | zbkc | zbkx | zknd | zkne
  | zknh | zksed | zksh | zbbOrZbkb | zbcOrZbkc | zkndOrZkne | v | zvef | zvbb | zvbc | zvkb | zvkg | zvkned
  | zvknhaOrZvknhb | zvksed | zvksh | zcb | zcbAndZba | zcbAndZbb | zcbAndZmmul | svinval | zicbom | zicbop | zicboz
  | h | xcvmac | xcvalu | xtheadba | xtheadbb | xtheadbs | xtheadcmo | xtheadcondmov | xtheadfmemidx | xtheadfmv
  | xtheadint | xtheadmac | xtheadmemidx | xtheadmempair | xtheadsync | xtheadvector | xtheadzvamo | xventanacondops
  | xsfvcp
  deriving DecidableEq

/-- The functions a row can name; `null` is `NULL`. -/
inductive MatchFunc
  | null | opcode | rs1EqRs2 | rdNonzero | rs1Nonzero | cAdd | cAddWithHint | cNop | cAddi16sp | cLui | cLuiWithHint
  | cAddi4spn | cSlli | slliAsCSlli | cSlli64 | srxiAsCSrxi | vs1EqVs2 | vdEqVs1EqVs2 | thLoadInc | thLoadPair
  deriving DecidableEq

/-- `struct riscv_opcode`, as the tables fill it in. -/
structure RiscvOpcodeRow where
  name : String
  xlenRequirement : Nat
  insnClass : InsnClass
  args : String
  matchBits : Insn
  mask : Insn
  matchFunc : MatchFunc
  pinfo : Insn
  deriving DecidableEq

def insnAlias : Insn := 0x1
def insnBranch : Insn := 0x2
def insnCondbranch : Insn := 0x4
def insnJsr : Insn := 0x6
def insnDref : Insn := 0x8
def insn1Byte : Insn := 0x10
def insn2Byte : Insn := 0x20
def insn4Byte : Insn := 0x30
def insn8Byte : Insn := 0x40
def insn16Byte : Insn := 0x50
def insnVEew64 : Insn := 0x10000000
def insnMacro : Insn := 0xffffffff

def maskRd : Insn := 0x1f#64 <<< 7
def maskRs1 : Insn := 0x1f#64 <<< 15
def maskRs2 : Insn := 0x1f#64 <<< 20
def maskCrs2 : Insn := 0x1f#64 <<< 2
def maskVd : Insn := 0x1f#64 <<< 7
def maskVs1 : Insn := 0x1f#64 <<< 15
def maskVs2 : Insn := 0x1f#64 <<< 20

/-! ## Which words match -/

namespace RiscvOpcodeRow

variable (op : RiscvOpcodeRow) (insn : Insn)

def matchOpcode : Bool := (insn ^^^ op.matchBits) &&& op.mask = 0

def matchRs1EqRs2 : Bool :=
  op.matchOpcode insn && (insn &&& maskRs1) >>> 15 = (insn &&& maskRs2) >>> 20

def matchRdNonzero : Bool := (op.pinfo = insnMacro || op.matchOpcode insn) && insn &&& maskRd ≠ 0

def matchRs1Nonzero : Bool := insn &&& maskRs1 ≠ 0

def matchCAdd : Bool := op.matchRdNonzero insn && insn &&& maskCrs2 ≠ 0

def matchCAddWithHint : Bool := op.matchOpcode insn && insn &&& maskCrs2 ≠ 0

def matchCNop : Bool := op.matchOpcode insn && (insn &&& maskRd) >>> 7 = 0

def matchCAddi16sp : Bool := op.matchOpcode insn && (insn &&& maskRd) >>> 7 = 2

def matchCLui : Bool :=
  op.matchRdNonzero insn && (insn &&& maskRd) >>> 7 ≠ 2 && extractCitypeLuiImm insn ≠ 0

def matchCLuiWithHint : Bool :=
  op.matchOpcode insn && (insn &&& maskRd) >>> 7 ≠ 2 && extractCitypeLuiImm insn ≠ 0

def matchCAddi4spn : Bool := op.matchOpcode insn && extractCiwtypeAddi4spnImm insn ≠ 0

def matchCSlli : Bool := op.matchOpcode insn && extractCitypeImm insn ≠ 0

def matchSlliAsCSlli : Bool := op.matchRdNonzero insn && extractCitypeImm insn ≠ 0

def matchCSlli64 : Bool := op.matchOpcode insn && extractCitypeImm insn = 0

def matchSrxiAsCSrxi : Bool := op.matchOpcode insn && extractCitypeImm insn ≠ 0

def matchVs1EqVs2 : Bool :=
  op.matchOpcode insn && (insn &&& maskVs1) >>> 15 = (insn &&& maskVs2) >>> 20

def matchVdEqVs1EqVs2 : Bool :=
  op.matchOpcode insn && (insn &&& maskVd) >>> 7 = (insn &&& maskVs1) >>> 15 &&
    (insn &&& maskVs1) >>> 15 = (insn &&& maskVs2) >>> 20

def matchThLoadInc : Bool :=
  (insn &&& maskRd) >>> 7 ≠ (insn &&& maskRs1) >>> 15 && op.matchOpcode insn

def matchThLoadPair : Bool :=
  (insn &&& maskRd) >>> 7 ≠ (insn &&& maskRs2) >>> 20 && (insn &&& maskRd) >>> 7 ≠ (insn &&& maskRs1) >>> 15 &&
    (insn &&& maskRs2) >>> 20 ≠ (insn &&& maskRs1) >>> 15 && op.matchOpcode insn

/-- `(op->match_func) (op, insn)`; `NULL` stands in macros only, for which it is not called. -/
def accepts : Bool :=
  match op.matchFunc with
  | .null => false
  | .opcode => op.matchOpcode insn
  | .rs1EqRs2 => op.matchRs1EqRs2 insn
  | .rdNonzero => op.matchRdNonzero insn
  | .rs1Nonzero => matchRs1Nonzero insn
  | .cAdd => op.matchCAdd insn
  | .cAddWithHint => op.matchCAddWithHint insn
  | .cNop => op.matchCNop insn
  | .cAddi16sp => op.matchCAddi16sp insn
  | .cLui => op.matchCLui insn
  | .cLuiWithHint => op.matchCLuiWithHint insn
  | .cAddi4spn => op.matchCAddi4spn insn
  | .cSlli => op.matchCSlli insn
  | .slliAsCSlli => op.matchSlliAsCSlli insn
  | .cSlli64 => op.matchCSlli64 insn
  | .srxiAsCSrxi => op.matchSrxiAsCSrxi insn
  | .vs1EqVs2 => op.matchVs1EqVs2 insn
  | .vdEqVs1EqVs2 => op.matchVdEqVs1EqVs2 insn
  | .thLoadInc => op.matchThLoadInc insn
  | .thLoadPair => op.matchThLoadPair insn

variable {op insn}

/-- A word differs from `match` in no bit of the mask. -/
theorem matchOpcode_iff : op.matchOpcode insn = true ↔ (insn ^^^ op.matchBits) &&& op.mask = 0 := by
  rw [matchOpcode, decide_eq_true_eq]

theorem matchOpcode_of_rdNonzero (hpinfo : op.pinfo ≠ insnMacro) (h : op.matchRdNonzero insn = true) :
    op.matchOpcode insn = true := by
  rw [matchRdNonzero, decide_eq_false hpinfo, Bool.false_or, Bool.and_eq_true] at h
  exact h.1

/-- Apart from macros, every function that looks at `match` wants `match_opcode`. -/
theorem matchOpcode_of_accepts (hpinfo : op.pinfo ≠ insnMacro) (hfunc : op.matchFunc ≠ .rs1Nonzero)
    (h : op.accepts insn = true) : op.matchOpcode insn = true := by
  unfold accepts at h
  split at h
  case h_1 => cases h
  case h_2 => exact h
  case h_5 hnz => exact absurd hnz hfunc
  case h_4 => exact matchOpcode_of_rdNonzero hpinfo h
  case h_6 =>
    rw [matchCAdd, Bool.and_eq_true] at h
    exact matchOpcode_of_rdNonzero hpinfo h.1
  case h_10 =>
    rw [matchCLui, Bool.and_eq_true, Bool.and_eq_true] at h
    exact matchOpcode_of_rdNonzero hpinfo h.1.1
  case h_14 =>
    rw [matchSlliAsCSlli, Bool.and_eq_true] at h
    exact matchOpcode_of_rdNonzero hpinfo h.1
  all_goals
    simp only [matchRs1EqRs2, matchCAddWithHint, matchCNop, matchCAddi16sp, matchCLuiWithHint, matchCAddi4spn,
      matchCSlli, matchCSlli64, matchSrxiAsCSrxi, matchVs1EqVs2, matchVdEqVs1EqVs2, matchThLoadInc, matchThLoadPair,
      Bool.and_eq_true] at h
    first | exact h.1 | exact h.2 | exact h.1.1

end RiscvOpcodeRow

end RiscvBinutils.Opcode
