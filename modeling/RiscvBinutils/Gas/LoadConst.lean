/-
The expansion of `li` (gas/config/tc-riscv.c, `load_const` and `normalize_constant_expr`).
The constant is built from its top: a part that a `lui` and an `addi` can make, and below it a shift and an
`addi` for every further piece.
-/
import RiscvBinutils.Bfd.Perform
import RiscvBinutils.Machine.Exec

namespace RiscvBinutils.Gas

open RiscvBinutils.Base RiscvBinutils.Opcode RiscvBinutils.Bfd RiscvBinutils.Machine

/-- `operatorT`, the operators that are told apart here. -/
inductive ExprOp
  | constant | symbol | big | other
  deriving DecidableEq, Repr

/-- `expressionS`, with the number that an `offsetT` holds. -/
structure Expr where
  op : ExprOp
  addNumber : Vma
  deriving DecidableEq, Repr

/-- `IS_SEXT_32BIT_NUM`. -/
def isSext32BitNum (x : Vma) : Bool :=
  x &&& ~~~(0x7fffffff : Vma) = 0 ∨ x &&& ~~~(0x7fffffff : Vma) = ~~~(0x7fffffff : Vma)

/-- `IS_ZEXT_32BIT_NUM`. -/
def isZext32BitNum (x : Vma) : Bool :=
  x &&& ~~~(0xffffffff : Vma) = 0 ∨ x &&& ~~~(0xffffffff : Vma) = ~~~(0xffffffff : Vma)

/-- `normalize_constant_expr`. -/
def normalizeConstantExpr (xlen : Xlen) (ex : Expr) : Expr :=
  if xlen = .rv64 then ex
  else if (ex.op = .constant ∨ ex.op = .symbol) ∧ isZext32BitNum ex.addNumber then
    { ex with addNumber := ((ex.addNumber &&& 0xffffffff) ^^^ 0x80000000) - 0x80000000 }
  else ex

/-- What `load_const` passes on: the lines given to `md_assemblef`, with their operands as the numbers that are
printed, and its message. -/
inductive Line
  | lui (rd : Reg) (imm : Nat)
  | addi (rd rs1 : Reg) (imm : Int)
  | addiw (rd rs1 : Reg) (imm : Int)
  | slli (rd rs1 : Reg) (shamt : Nat)
  | asBad (message : String)
  deriving DecidableEq, Repr

/-- The operands that the instruction accepts. -/
def Line.InRange (xlen : Xlen) : Line → Prop
  | .lui _ imm => imm < 2 ^ 20
  | .addi _ _ imm => -2048 ≤ imm ∧ imm < 2048
  | .addiw _ _ imm => xlen = .rv64 ∧ -2048 ≤ imm ∧ imm < 2048
  | .slli _ _ shamt => xlen = .rv64 ∧ shamt < 64
  | .asBad _ => False

/-- The instruction a line assembles to. -/
def Line.instr : Line → Option Instr
  | .lui rd imm => some (.lui rd (BitVec.ofNat 20 imm))
  | .addi rd rs1 imm => some (.addi rd rs1 (BitVec.ofInt 12 imm))
  | .addiw rd rs1 imm => some (.addiw rd rs1 (BitVec.ofInt 12 imm))
  | .slli rd rs1 shamt => some (.slli rd rs1 (BitVec.ofNat 6 shamt))
  | .asBad _ => none

/-- `while (((upper >> shift) & 1) == 0) shift++`; a shift by 64 or more has no meaning in the source. -/
def lowestSet (upper : Vma) : (fuel : Nat) → (shift : Nat) → Option Nat
  | 0, _ => none
  | fuel + 1, shift =>
    if upper.sshiftRight shift &&& 1 = 0 then lowestSet upper fuel (shift + 1) else some shift

/-- The low part of `load_const`, sign-extended from `RISCV_IMM_BITS`. -/
def lowerPart (x : Vma) : Vma := ((x &&& 0xfff) ^^^ 0x800) - 0x800

/-- `load_const`; `none` is a recursion deeper than the fuel, or a loop that finds no bit. -/
def loadConst (xlen : Xlen) (reg : Reg) : (fuel : Nat) → Expr → Option (List Line)
  | 0, _ => none
  | fuel + 1, ep =>
    let lower := lowerPart ep.addNumber
    let upper := ep.addNumber - lower
    if ep.op ≠ .constant then some [.asBad "unsupported large constant"]
    else if xlen = .rv64 ∧ isSext32BitNum ep.addNumber = false then do
      let shift ← lowestSet upper 52 12
      let code ← loadConst xlen reg fuel { ep with addNumber := upper.sshiftRight shift }
      some (code ++ [.slli reg reg shift] ++ if lower ≠ 0 then [.addi reg reg lower.toInt] else [])
    else
      let hiReg := if upper ≠ 0 then reg else 0
      let high := if upper ≠ 0 then [.lui reg ((upper.setWidth 32).toNat >>> 12)] else []
      let low :=
        if lower ≠ 0 ∨ hiReg = 0 then
          [if xlen = .rv64 then .addiw reg hiReg lower.toInt else .addi reg hiReg lower.toInt]
        else []
      some (high ++ low)

example : loadConst .rv64 10 4 ⟨.constant, 0xf12345001⟩ =
    some [.lui 10 0xf12, .addiw 10 10 837, .slli 10 10 12, .addi 10 10 1] := by decide

/-! ## The parts of a constant -/

theorem lowerPart_eq (x : Vma) : lowerPart x = sext 12 x :=
  xor_sub_eq_sext (n := 11) x (x &&& 0xfff) 0x800 (by decide)
    (by rw [BitVec.toNat_and]; exact Nat.and_two_pow_sub_one_eq_mod x.toNat 12) rfl

theorem upperPart_eq (x : Vma) : x - lowerPart x = constHighPart x := by
  have hsum := constHighPart_add_sext x
  rw [lowerPart_eq]
  exact (BitVec.eq_sub_iff_add_eq.mpr hsum).symm

theorem lowerPart_toInt (x : Vma) : -2048 ≤ (lowerPart x).toInt ∧ (lowerPart x).toInt < 2048 := by
  have hlow := toInt_sext x (n := 12) (by decide)
  rw [← lowerPart_eq] at hlow
  rw [hlow, Int.bmod_def]
  omega

theorem isSext32BitNum_iff (x : Vma) :
    isSext32BitNum x = true ↔ -2147483648 ≤ x.toInt ∧ x.toInt < 2147483648 := by
  have hmask : (0x7fffffff : Vma) = (1#64 <<< 31) - 1#64 := by decide
  have hand := toNat_and_not_mask x (n := 31) (by decide)
  have hnot : (~~~(0x7fffffff : Vma)).toNat = 2 ^ 64 - 2 ^ 31 := by decide
  rw [← hmask] at hand
  rw [isSext32BitNum, decide_eq_true_iff, ← BitVec.toNat_inj, ← BitVec.toNat_inj, hand, hnot,
    BitVec.toInt_eq_toNat_cond]
  change _ = 0 ∨ _ ↔ _
  omega

theorem isZext32BitNum_iff (x : Vma) :
    isZext32BitNum x = true ↔ -4294967296 ≤ x.toInt ∧ x.toInt < 4294967296 := by
  have hmask : (0xffffffff : Vma) = (1#64 <<< 32) - 1#64 := by decide
  have hand := toNat_and_not_mask x (n := 32) (by decide)
  have hnot : (~~~(0xffffffff : Vma)).toNat = 2 ^ 64 - 2 ^ 32 := by decide
  rw [← hmask] at hand
  rw [isZext32BitNum, decide_eq_true_iff, ← BitVec.toNat_inj, ← BitVec.toNat_inj, hand, hnot,
    BitVec.toInt_eq_toNat_cond]
  change _ = 0 ∨ _ ↔ _
  omega

/-- A constant of a 32-bit target is taken as a signed number. -/
theorem normalizeConstantExpr_rv32 {x : Vma} (hx : -2147483648 ≤ x.toInt ∧ x.toInt < 4294967296) :
    normalizeConstantExpr .rv32 ⟨.constant, x⟩ = ⟨.constant, sext 32 x⟩ := by
  have hzext : isZext32BitNum x = true := (isZext32BitNum_iff x).mpr ⟨by omega, hx.2⟩
  have hsext : ((x &&& 0xffffffff) ^^^ 0x80000000) - 0x80000000 = sext 32 x :=
    xor_sub_eq_sext (n := 31) x (x &&& 0xffffffff) 0x80000000 (by decide)
      (by rw [BitVec.toNat_and]; exact Nat.and_two_pow_sub_one_eq_mod x.toNat 32) rfl
  rw [normalizeConstantExpr, if_neg (by decide), if_pos ⟨.inl rfl, hzext⟩, hsext]

/-! ## The shift -/

theorem sshiftRight_and_one {x : Vma} {k : Nat} (hk : k < 64) :
    x.sshiftRight k &&& 1 = 0 ↔ x.getLsbD k = false := by
  have hbit : (x.sshiftRight k).getLsbD 0 = x.getLsbD k := by
    rw [BitVec.getLsbD_sshiftRight, Nat.add_zero, if_pos hk]
    rfl
  rw [← hbit]
  generalize x.sshiftRight k = y
  constructor
  · intro h
    have h0 := congrArg (·.getLsbD 0) h
    simpa using h0
  · intro h
    apply BitVec.eq_of_getLsbD_eq
    intro i _
    cases i with
    | zero => simpa using h
    | succ i => simp [BitVec.getLsbD_one]

theorem lowestSet_spec {x : Vma} {fuel shift k : Nat} (hle : shift + fuel ≤ 64) (hk : x.getLsbD k = true)
    (hlo : shift ≤ k) (hhi : k < shift + fuel) :
    ∃ m, lowestSet x fuel shift = some m ∧ shift ≤ m ∧ m < 64 ∧ ∀ i, shift ≤ i → i < m → x.getLsbD i = false := by
  induction fuel generalizing shift with
  | zero => omega
  | succ fuel ih =>
    rw [lowestSet]
    by_cases hbit : x.sshiftRight shift &&& 1 = 0
    · have hclear := (sshiftRight_and_one (by omega)).mp hbit
      have hne : shift ≠ k := by
        rintro rfl
        rw [hclear] at hk
        cases hk
      obtain ⟨m, hm, hlom, hlt, hzero⟩ := @ih (shift + 1) (by omega) (by omega) (by omega)
      rw [if_pos hbit]
      refine ⟨m, hm, by omega, hlt, fun i hi hi' => ?_⟩
      by_cases heq : i = shift
      · rw [heq, hclear]
      · exact hzero i (by omega) hi'
    · rw [if_neg hbit]
      exact ⟨shift, rfl, le_rfl, by omega, fun i hi hi' => by omega⟩

/-- Shifting out zero bits loses nothing. -/
theorem sshiftRight_shiftLeft {x : Vma} {k : Nat} (h : ∀ i < k, x.getLsbD i = false) : x.sshiftRight k <<< k = x := by
  apply BitVec.eq_of_getLsbD_eq
  intro i hi
  rw [BitVec.getLsbD_shiftLeft, BitVec.getLsbD_sshiftRight]
  by_cases hik : i < k
  · simp [hik, h i hik]
  · have hsum : k + (i - k) = i := by omega
    simp [hik, hi, hsum, show ¬ 64 ≤ i - k by omega]

/-- The constants that `n` pieces below the first can make. -/
def InPieces (n : Nat) (x : Vma) : Prop :=
  -(2 ^ (31 + 11 * n) : Int) ≤ x.toInt ∧ x.toInt < 2 ^ (31 + 11 * n)

/-- A piece of at least twelve bits less leaves a constant of one piece less. -/
theorem inPieces_shift {n k : Nat} {x : Vma} (hx : InPieces (n + 1) x) (hk : 12 ≤ k) :
    InPieces n ((constHighPart x).sshiftRight k) := by
  obtain ⟨hlo, hhi⟩ := hx
  have hhigh := constHighPart_toNat x
  have hpow : (2 ^ (31 + 11 * (n + 1)) : Int) = 2048 * 2 ^ (31 + 11 * n) := by
    rw [show 31 + 11 * (n + 1) = 11 + (31 + 11 * n) by omega, pow_add]
    rfl
  have hpos : (1 : Int) < 2 ^ (31 + 11 * n) := one_lt_pow₀ (by decide) (by omega)
  have hdiv : (4096 : Int) ≤ 2 ^ k := pow_le_pow_right₀ (by decide : (1 : Int) ≤ 2) hk
  rw [hpow] at hlo hhi
  rw [InPieces, BitVec.toInt_sshiftRight, Int.shiftRight_eq_div_pow]
  push_cast
  generalize (2 ^ (31 + 11 * n) : Int) = q at *
  generalize (2 ^ k : Int) = d at *
  -- rounding adds at most half a piece, also where the sum wraps around
  have hbound : -(2048 * q + 2048) ≤ (constHighPart x).toInt ∧ (constHighPart x).toInt ≤ 2048 * q + 2048 := by
    rw [BitVec.toInt_eq_toNat_cond] at hlo hhi ⊢
    omega
  have hmul : 4096 * q ≤ q * d := by nlinarith
  constructor
  · exact Int.le_ediv_of_mul_le (by omega) (by linarith)
  · exact Int.ediv_lt_of_lt_mul (by omega) (by linarith)

/-! ## What the lines compute -/

/-- Assemble the lines and execute them. -/
def execLines {w : Nat} (mem : BitVec w → BitVec w) (s : State w) (code : List Line) : State w :=
  execAll mem s (code.filterMap Line.instr)

/-- The lines leave the value in the register, whatever the machine was before, and their operands are
accepted. -/
structure Loads {w : Nat} (xlen : Xlen) (reg : Reg) (v : BitVec w) (code : List Line) : Prop where
  inRange : ∀ l ∈ code, l.InRange xlen
  value : ∀ (mem : BitVec w → BitVec w) (s : State w), (execLines mem s code).get reg = v
  others : ∀ (mem : BitVec w → BitVec w) (s : State w) (q : Reg), q ≠ reg → (execLines mem s code).get q = s.get q

section Pieces

variable {w : Nat} {xlen : Xlen} {reg : Reg} {v v' : BitVec w} {code : List Line}

/-- One more line, by what its instruction makes of the value. -/
theorem Loads.snoc {l : Line} {i : Instr} (h : Loads xlen reg v code) (hl : l.InRange xlen) (hi : l.instr = some i)
    (hvalue : ∀ (mem : BitVec w → BitVec w) (s : State w), s.get reg = v → (exec mem 4 s i).get reg = v')
    (hothers : ∀ (mem : BitVec w → BitVec w) (s : State w) (q : Reg), q ≠ reg → (exec mem 4 s i).get q = s.get q) :
    Loads xlen reg v' (code ++ [l]) := by
  have hexec (mem : BitVec w → BitVec w) (s : State w) :
      execLines mem s (code ++ [l]) = exec mem 4 (execLines mem s code) i := by
    rw [execLines, List.filterMap_append, execAll_append, List.filterMap_cons, hi]
    rfl
  refine ⟨?_, fun mem s => ?_, fun mem s q hq => ?_⟩
  · intro l' hl'
    rcases List.mem_append.mp hl' with hl' | hl'
    · exact h.inRange l' hl'
    · rw [List.mem_singleton.mp hl']
      exact hl
  · rw [hexec]
    exact hvalue mem _ (h.value mem s)
  · rw [hexec, hothers mem _ q hq, h.others mem s q hq]

/-- A first line that reads no register. -/
theorem loads_single {l : Line} {i : Instr} (hl : l.InRange xlen) (hi : l.instr = some i)
    (hvalue : ∀ (mem : BitVec w → BitVec w) (s : State w), (exec mem 4 s i).get reg = v)
    (hothers : ∀ (mem : BitVec w → BitVec w) (s : State w) (q : Reg), q ≠ reg → (exec mem 4 s i).get q = s.get q) :
    Loads xlen reg v [l] := by
  have hexec (mem : BitVec w → BitVec w) (s : State w) : execLines mem s [l] = exec mem 4 s i := by
    rw [execLines, List.filterMap_cons, hi]
    rfl
  refine ⟨?_, fun mem s => ?_, fun mem s q hq => ?_⟩
  · intro l' hl'
    rw [List.mem_singleton.mp hl']
    exact hl
  · rw [hexec, hvalue]
  · rw [hexec, hothers mem s q hq]

theorem Loads.slli {x : Vma} {k : Nat} (h : Loads .rv64 reg x code) (hreg : reg ≠ 0) (hk : k < 64) :
    Loads .rv64 reg (x <<< k) (code ++ [.slli reg reg k]) := by
  have hshift : (BitVec.ofNat 6 k).toNat = k := by
    rw [BitVec.toNat_ofNat]
    exact Nat.mod_eq_of_lt hk
  refine h.snoc ⟨rfl, hk⟩ rfl (fun mem s hs => ?_) fun mem s q hq => ?_
  · rw [exec, State.goto_get, State.set_get_same _ hreg, hs, hshift]
  · rw [exec, State.goto_get, State.set_get_other _ hq]

/-- The printed low part is the low twelve bits. -/
theorem ofInt_lowerPart (x : Vma) : BitVec.ofInt 12 (lowerPart x).toInt = x.setWidth 12 := by
  rw [lowerPart_eq, sext, BitVec.toInt_signExtend_of_le (by decide), BitVec.ofInt_toInt]

theorem Loads.addi {x : Vma} (h : Loads xlen reg v code) (hreg : reg ≠ 0) :
    Loads xlen reg (v + (x.setWidth 12).signExtend w) (code ++ [.addi reg reg (lowerPart x).toInt]) := by
  refine h.snoc (lowerPart_toInt x) rfl (fun mem s hs => ?_) fun mem s q hq => ?_
  · rw [exec, State.goto_get, State.set_get_same _ hreg, hs, ofInt_lowerPart]
  · rw [exec, State.goto_get, State.set_get_other _ hq]

theorem Loads.addiw {x : Vma} (h : Loads .rv64 reg v code) (hreg : reg ≠ 0) :
    Loads .rv64 reg ((v.setWidth 32 + (x.setWidth 12).signExtend 32).signExtend w)
      (code ++ [.addiw reg reg (lowerPart x).toInt]) := by
  refine h.snoc ⟨rfl, lowerPart_toInt x⟩ rfl (fun mem s hs => ?_) fun mem s q hq => ?_
  · rw [exec, State.goto_get, State.set_get_same _ hreg, hs, ofInt_lowerPart]
  · rw [exec, State.goto_get, State.set_get_other _ hq]

/-- The printed upper part, put in its place. -/
theorem upper_constHighPart (w : Nat) (x : Vma) :
    upper w (BitVec.ofNat 20 (((constHighPart x).setWidth 32).toNat >>> 12)) =
      ((constHighPart x).setWidth 32).signExtend w := by
  have hmod := constHighPart_mod x
  rw [upper]
  congr 1
  apply BitVec.eq_of_toNat_eq
  rw [BitVec.toNat_append, BitVec.toNat_ofNat, BitVec.toNat_setWidth, Nat.shiftRight_eq_div_pow, Nat.shiftLeft_eq]
  simp only [BitVec.ofNat_eq_ofNat, BitVec.toNat_ofNat, Nat.zero_mod, Nat.or_zero]
  omega

theorem loads_lui (hreg : reg ≠ 0) (x : Vma) :
    Loads xlen reg (((constHighPart x).setWidth 32).signExtend w)
      [.lui reg (((constHighPart x).setWidth 32).toNat >>> 12)] := by
  have hlt := ((constHighPart x).setWidth 32).isLt
  refine loads_single ?_ rfl (fun mem s => ?_) fun mem s q hq => ?_
  · rw [Line.InRange, Nat.shiftRight_eq_div_pow]
    omega
  · rw [exec, State.goto_get, State.set_get_same _ hreg, upper_constHighPart]
  · rw [exec, State.goto_get, State.set_get_other _ hq]

/-- A first low part, added to `x0`. -/
theorem loads_low (hreg : reg ≠ 0) (x : Vma) :
    Loads .rv32 reg ((x.setWidth 12).signExtend 32) [.addi reg 0 (lowerPart x).toInt] ∧
      Loads .rv64 reg (sext 12 x) [.addiw reg 0 (lowerPart x).toInt] := by
  constructor
  · refine loads_single (lowerPart_toInt x) rfl (fun mem s => ?_) fun mem s q hq => ?_
    · rw [exec, State.goto_get, State.set_get_same _ hreg, ofInt_lowerPart, State.get_zero]
      exact BitVec.zero_add _
    · rw [exec, State.goto_get, State.set_get_other _ hq]
  · have hext : ((x.setWidth 12).signExtend 32).signExtend 64 = sext 12 x := signExtend_signExtend _ (by decide)
    refine loads_single ⟨rfl, lowerPart_toInt x⟩ rfl (fun mem s => ?_) fun mem s q hq => ?_
    · rw [exec, State.goto_get, State.set_get_same _ hreg, ofInt_lowerPart, State.get_zero, ← hext]
      exact congrArg (BitVec.signExtend 64) (BitVec.zero_add _)
    · rw [exec, State.goto_get, State.set_get_other _ hq]

/-- The lines for a constant of 32 bits. -/
def shortCode (xlen : Xlen) (reg : Reg) (x : Vma) : List Line :=
  if constHighPart x = 0 then
    [if xlen = .rv64 then .addiw reg 0 (lowerPart x).toInt else .addi reg 0 (lowerPart x).toInt]
  else [.lui reg (((constHighPart x).setWidth 32).toNat >>> 12)] ++
    if lowerPart x = 0 then []
    else [if xlen = .rv64 then .addiw reg reg (lowerPart x).toInt else .addi reg reg (lowerPart x).toInt]

theorem loadConst_short {x : Vma} (hreg : reg ≠ 0) (hx : xlen = .rv64 → isSext32BitNum x = true) (fuel : Nat) :
    loadConst xlen reg (fuel + 1) ⟨.constant, x⟩ = some (shortCode xlen reg x) := by
  have hshort : ¬ (xlen = .rv64 ∧ isSext32BitNum x = false) := by
    rintro ⟨hxlen, hlong⟩
    rw [hx hxlen] at hlong
    cases hlong
  rw [loadConst, if_neg (not_not_intro rfl), if_neg hshort, upperPart_eq, shortCode]
  by_cases hhigh : constHighPart x = 0
  · simp only [hhigh, ne_eq, not_true_eq_false, if_false, or_true, if_true, List.nil_append]
  · by_cases hlow : lowerPart x = 0
    · simp only [hhigh, hlow, hreg, ne_eq, not_true_eq_false, not_false_eq_true, if_true, if_false, or_false]
    · simp only [hhigh, hlow, ne_eq, not_false_eq_true, if_true, if_false, true_or]

theorem loads_shortCode_rv64 {x : Vma} (hreg : reg ≠ 0) (hx : sext 32 x = x) :
    Loads .rv64 reg x (shortCode .rv64 reg x) := by
  have hsum := constHighPart_add_sext x
  rw [shortCode]
  split
  · rename_i hhigh
    rw [hhigh, show (0 : Vma) + sext 12 x = sext 12 x from BitVec.zero_add _] at hsum
    have hlow := (loads_low hreg x).2
    rwa [hsum] at hlow
  · split
    · rename_i hlow
      rw [← lowerPart_eq, hlow, show constHighPart x + (0 : Vma) = constHighPart x from BitVec.add_zero _] at hsum
      have hlui : Loads .rv64 reg (((constHighPart x).setWidth 32).signExtend 64) _ := loads_lui hreg x
      rw [hsum] at hlui ⊢
      rw [List.append_nil]
      rwa [← sext, hx] at hlui
    · have hlui : Loads .rv64 reg (((constHighPart x).setWidth 32).signExtend 64) _ := loads_lui hreg x
      have hboth := hlui.addiw (x := x) hreg
      rw [setWidth_signExtend _ (by decide), BitVec.signExtend_eq, constHighPart_add_low_32, ← sext, hx] at hboth
      exact hboth

theorem loads_shortCode_rv32 {x : Vma} (hreg : reg ≠ 0) :
    Loads .rv32 reg (x.setWidth 32) (shortCode .rv32 reg x) := by
  have hsum := constHighPart_add_low_32 x
  rw [shortCode]
  split
  · rename_i hhigh
    rw [hhigh, show (0 : Vma).setWidth 32 = 0#32 from rfl, BitVec.zero_add] at hsum
    have hlow := (loads_low hreg x).1
    rwa [hsum] at hlow
  · have hlui : Loads .rv32 reg (((constHighPart x).setWidth 32).signExtend 32) _ := loads_lui hreg x
    rw [BitVec.signExtend_eq] at hlui
    split
    · rename_i hlow
      have hexact := constHighPart_add_sext x
      rw [← lowerPart_eq, hlow, show constHighPart x + (0 : Vma) = constHighPart x from BitVec.add_zero _] at hexact
      rw [List.append_nil]
      rw [hexact] at hlui ⊢
      exact hlui
    · have hboth := hlui.addi (x := x) hreg
      rwa [hsum] at hboth

/-- A constant of more than 32 bits has a bit for the loop to find. -/
theorem exists_bit_of_long {x : Vma} (hx : isSext32BitNum x = false) :
    ∃ k, 12 ≤ k ∧ k < 64 ∧ (constHighPart x).getLsbD k = true := by
  by_contra hnone
  have hzero : constHighPart x = 0 := by
    apply BitVec.eq_of_getLsbD_eq
    intro i hi
    by_cases h12 : i < 12
    · rw [(low_bits_zero_iff _ 12).mpr (constHighPart_mod x) i h12]
      exact BitVec.getLsbD_zero.symm
    · have hclear : (constHighPart x).getLsbD i = false :=
        Bool.eq_false_iff.mpr fun hbit => hnone ⟨i, by omega, hi, hbit⟩
      rw [hclear]
      exact BitVec.getLsbD_zero.symm
  have hsum := constHighPart_add_sext x
  rw [hzero, show (0 : Vma) + sext 12 x = sext 12 x from BitVec.zero_add _, ← lowerPart_eq] at hsum
  have hlow := lowerPart_toInt x
  rw [hsum] at hlow
  have hshort := (isSext32BitNum_iff x).mpr ⟨by omega, by omega⟩
  rw [hx] at hshort
  cases hshort

/-- The recursion, on the pieces that the constant still has. -/
theorem loadConst_rv64 (hreg : reg ≠ 0) (n : Nat) : ∀ {fuel : Nat} {x : Vma}, n < fuel → InPieces n x →
    ∃ code, loadConst .rv64 reg fuel ⟨.constant, x⟩ = some code ∧ Loads .rv64 reg x code := by
  have hshort {fuel : Nat} {x : Vma} (hfuel : 0 < fuel) (hx : isSext32BitNum x = true) :
      ∃ code, loadConst .rv64 reg fuel ⟨.constant, x⟩ = some code ∧ Loads .rv64 reg x code := by
    obtain ⟨fuel, rfl⟩ := Nat.exists_eq_add_of_lt hfuel
    rw [Nat.zero_add]
    refine ⟨_, loadConst_short hreg (fun _ => hx) fuel, loads_shortCode_rv64 hreg ?_⟩
    exact (sext_eq_self_iff x (by decide) (by decide)).mpr ((isSext32BitNum_iff x).mp hx)
  induction n with
  | zero =>
    intro fuel x hfuel hx
    exact hshort hfuel ((isSext32BitNum_iff x).mpr hx)
  | succ n ih =>
    intro fuel x hfuel hx
    cases hlong : isSext32BitNum x with
    | true => exact hshort (by omega) hlong
    | false =>
      obtain ⟨fuel, rfl⟩ := Nat.exists_eq_add_of_lt hfuel
      obtain ⟨k, hlo, hhi, hbit⟩ := exists_bit_of_long hlong
      obtain ⟨m, hm, hm12, hm64, hzero⟩ := @lowestSet_spec _ 52 12 k (by decide) hbit hlo (by omega)
      obtain ⟨code, hcode, hloads⟩ := @ih (n + 1 + fuel) _ (by omega) (inPieces_shift hx hm12)
      -- all bits below the one found are zero, so the shifts undo each other
      have hback : (constHighPart x).sshiftRight m <<< m = constHighPart x := by
        refine sshiftRight_shiftLeft fun i hi => ?_
        by_cases h12 : i < 12
        · exact (low_bits_zero_iff _ 12).mpr (constHighPart_mod x) i h12
        · exact hzero i (by omega) hi
      have hslli := hloads.slli hreg hm64
      rw [hback] at hslli
      rw [loadConst, if_neg (not_not_intro rfl), if_pos ⟨rfl, hlong⟩, upperPart_eq, hm]
      simp only [Option.bind_eq_bind, Option.bind_some, hcode]
      refine ⟨_, rfl, ?_⟩
      have hsum := constHighPart_add_sext x
      by_cases hlow : lowerPart x = 0
      · rw [← lowerPart_eq, hlow, show constHighPart x + (0 : Vma) = constHighPart x from BitVec.add_zero _] at hsum
        rw [if_neg (not_not_intro hlow), List.append_nil]
        rwa [hsum] at hslli
      · have haddi := hslli.addi (x := x) hreg
        rw [← sext, hsum] at haddi
        rw [if_pos hlow]
        exact haddi

end Pieces

/-- `li` loads the constant: the expansion ends, its operands are in range and executing it leaves the constant in
the register, modulo 2^32 on a 32-bit target. -/
theorem loadConst_loads (xlen : Xlen) {reg : Reg} (hreg : reg ≠ 0) {x : Vma}
    (hx : xlen = .rv32 → -2147483648 ≤ x.toInt ∧ x.toInt < 4294967296) {fuel : Nat} (hfuel : 4 ≤ fuel) :
    ∃ code, loadConst xlen reg fuel (normalizeConstantExpr xlen ⟨.constant, x⟩) = some code ∧
      Loads xlen reg (x.setWidth (xlen.bits)) code := by
  cases xlen with
  | rv64 =>
    have hpieces : InPieces 3 x := by
      rw [InPieces, BitVec.toInt_eq_toNat_cond]
      omega
    obtain ⟨code, hcode, hloads⟩ := @loadConst_rv64 reg hreg 3 fuel x (by omega) hpieces
    refine ⟨code, hcode, ?_⟩
    change Loads .rv64 reg (x.setWidth 64) code
    rwa [BitVec.setWidth_eq]
  | rv32 =>
    obtain ⟨fuel, rfl⟩ := Nat.exists_eq_add_of_le' hfuel
    rw [normalizeConstantExpr_rv32 (hx rfl)]
    refine ⟨_, loadConst_short hreg (fun h => absurd h (by decide)) (fuel + 3), ?_⟩
    have hloads := loads_shortCode_rv32 (x := sext 32 x) hreg
    rw [sext, setWidth_signExtend _ (by decide), BitVec.signExtend_eq] at hloads
    exact hloads

/-- The constant of the widest expansion. -/
theorem loadConst_loads_max :
    ∃ code, loadConst .rv64 10 4 ⟨.constant, 0x7fffffffffffffff⟩ = some code ∧
      Loads .rv64 10 (0x7fffffffffffffff#64) code :=
  loadConst_loads .rv64 (by decide) (by decide) (by decide)

end RiscvBinutils.Gas
