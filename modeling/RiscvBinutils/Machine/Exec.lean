/-
A RISC-V machine of any register width, as far as the instructions go that an assembler or a linker makes up
by itself: constants, addresses relative to the program counter, register-wide loads, jumps and branches.
-/
import Mathlib.Tactic

namespace RiscvBinutils.Machine

abbrev Reg := BitVec 5

/-- The conditions of the branches. -/
inductive Cond
  | eq | ne | lt | ge | ltu | geu
  deriving DecidableEq, Repr

def Cond.holds {w : Nat} : Cond → BitVec w → BitVec w → Bool
  | .eq, a, b => a = b
  | .ne, a, b => a ≠ b
  | .lt, a, b => a.slt b
  | .ge, a, b => !a.slt b
  | .ltu, a, b => a.ult b
  | .geu, a, b => !a.ult b

/-- The condition that holds when this one does not. -/
def Cond.inverse : Cond → Cond
  | .eq => .ne
  | .ne => .eq
  | .lt => .ge
  | .ge => .lt
  | .ltu => .geu
  | .geu => .ltu

@[simp] theorem Cond.inverse_holds {w : Nat} (c : Cond) (a b : BitVec w) : c.inverse.holds a b = !c.holds a b := by
  cases c <;> simp [Cond.inverse, Cond.holds]

/-- Instructions with their immediates as the formats hold them; a distance is in bytes. -/
inductive Instr
  | lui (rd : Reg) (imm : BitVec 20)
  | auipc (rd : Reg) (imm : BitVec 20)
  | addi (rd rs1 : Reg) (imm : BitVec 12)
  | addiw (rd rs1 : Reg) (imm : BitVec 12)
  | slli (rd rs1 : Reg) (shamt : BitVec 6)
  | srli (rd rs1 : Reg) (shamt : BitVec 6)
  | sub (rd rs1 rs2 : Reg)
  /-- The load of a whole register: `lw` on a 32-bit machine, `ld` on a 64-bit one. -/
  | load (rd rs1 : Reg) (imm : BitVec 12)
  | jal (rd : Reg) (imm : BitVec 21)
  | jalr (rd rs1 : Reg) (imm : BitVec 12)
  | branch (c : Cond) (rs1 rs2 : Reg) (imm : BitVec 13)
  deriving DecidableEq, Repr

structure State (w : Nat) where
  pc : BitVec w
  regs : Reg → BitVec w

namespace State

variable {w : Nat}

/-- `x0` reads as zero. -/
def get (s : State w) (r : Reg) : BitVec w := if r = 0 then 0 else s.regs r

def set (s : State w) (r : Reg) (v : BitVec w) : State w :=
  { s with regs := fun q => if q = r then v else s.regs q }

def goto (s : State w) (pc : BitVec w) : State w := { s with pc }

@[simp] theorem get_zero (s : State w) : s.get 0 = 0 := rfl

@[simp] theorem goto_pc (s : State w) (pc : BitVec w) : (s.goto pc).pc = pc := rfl

@[simp] theorem goto_get (s : State w) (pc : BitVec w) (r : Reg) : (s.goto pc).get r = s.get r := rfl

@[simp] theorem set_pc (s : State w) (r : Reg) (v : BitVec w) : (s.set r v).pc = s.pc := rfl

theorem set_get (s : State w) (r q : Reg) (v : BitVec w) :
    (s.set r v).get q = if q = r ∧ q ≠ 0 then v else s.get q := by
  unfold get set
  dsimp only
  by_cases hz : q = 0
  · simp [hz]
  · by_cases hq : q = r
    · rw [if_neg hz, if_pos hq, if_pos ⟨hq, hz⟩]
    · rw [if_neg hz, if_neg hq, if_neg fun h => hq h.1, if_neg hz]

@[simp] theorem set_get_same (s : State w) {r : Reg} (h : r ≠ 0) (v : BitVec w) : (s.set r v).get r = v := by
  rw [set_get, if_pos ⟨rfl, h⟩]

@[simp] theorem set_get_other (s : State w) {r q : Reg} (h : q ≠ r) (v : BitVec w) : (s.set r v).get q = s.get q := by
  rw [set_get, if_neg fun hq => h hq.1]

end State

/-- The immediate of `lui` and `auipc`, in its place. -/
def upper (w : Nat) (imm : BitVec 20) : BitVec w := (imm ++ (0 : BitVec 12)).signExtend w

section Exec

variable {w : Nat}

/-- Execute one instruction of `len` bytes; `mem` is the register-wide word at an address. -/
def exec (mem : BitVec w → BitVec w) (len : BitVec w) (s : State w) : Instr → State w
  | .lui rd imm => (s.set rd (upper w imm)).goto (s.pc + len)
  | .auipc rd imm => (s.set rd (s.pc + upper w imm)).goto (s.pc + len)
  | .addi rd rs1 imm => (s.set rd (s.get rs1 + imm.signExtend w)).goto (s.pc + len)
  | .addiw rd rs1 imm =>
    (s.set rd (((s.get rs1).setWidth 32 + imm.signExtend 32).signExtend w)).goto (s.pc + len)
  | .slli rd rs1 shamt => (s.set rd (s.get rs1 <<< shamt.toNat)).goto (s.pc + len)
  | .srli rd rs1 shamt => (s.set rd (s.get rs1 >>> shamt.toNat)).goto (s.pc + len)
  | .sub rd rs1 rs2 => (s.set rd (s.get rs1 - s.get rs2)).goto (s.pc + len)
  | .load rd rs1 imm => (s.set rd (mem (s.get rs1 + imm.signExtend w))).goto (s.pc + len)
  | .jal rd imm => (s.set rd (s.pc + len)).goto (s.pc + imm.signExtend w)
  | .jalr rd rs1 imm => (s.set rd (s.pc + len)).goto ((s.get rs1 + imm.signExtend w) &&& ~~~1)
  | .branch c rs1 rs2 imm =>
    s.goto (if c.holds (s.get rs1) (s.get rs2) then s.pc + imm.signExtend w else s.pc + len)

/-- Execute instructions of four bytes that stand one after the other. -/
def execAll (mem : BitVec w → BitVec w) (s : State w) (code : List Instr) : State w :=
  code.foldl (exec mem 4) s

theorem execAll_append (mem : BitVec w → BitVec w) (s : State w) (xs ys : List Instr) :
    execAll mem s (xs ++ ys) = execAll mem (execAll mem s xs) ys :=
  List.foldl_append

theorem execAll_cons (mem : BitVec w → BitVec w) (s : State w) (x : Instr) (xs : List Instr) :
    execAll mem s (x :: xs) = execAll mem (exec mem 4 s x) xs :=
  rfl

end Exec

end RiscvBinutils.Machine
