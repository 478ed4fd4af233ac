/-
Vector instructions that write mask registers: the comparison of elements with a scalar, and the logical operations
on masks.  What such an instruction writes past the last element is left open, and so is, where the mask policy is
agnostic, whether it sets the bits that the mask leaves out.
-/
import RiscvBinutils.Machine.Decode

namespace RiscvBinutils.Machine

/-! ## Machines -/

/-- The vector unit as `vsetvli` leaves it, for one register a group. -/
structure VConfig where
  xlen : Nat
  vlen : Nat
  sew : Nat
  vl : Nat
  maskAgnostic : Bool
  sew_pos : 0 < sew
  vl_fits : vl * sew ≤ vlen

theorem VConfig.vl_le (c : VConfig) : c.vl ≤ c.vlen :=
  le_trans (Nat.le_mul_of_pos_right c.vl c.sew_pos) c.vl_fits

structure VState (c : VConfig) where
  scalar : State c.xlen
  vregs : Reg → BitVec c.vlen

namespace VState

variable {c : VConfig}

/-- A register as a mask. -/
def bit (s : VState c) (r : Reg) (i : Nat) : Bool := (s.vregs r).getLsbD i

def elem (s : VState c) (r : Reg) (i : Nat) : BitVec c.sew := (s.vregs r).extractLsb' (i * c.sew) c.sew

/-- A scalar is cut or extended to the width of the elements, with its sign even where they have none. -/
def less (s : VState c) (unsigned : Bool) (vs2 rs1 : Reg) (i : Nat) : Bool :=
  let x := (s.scalar.get rs1).signExtend c.sew
  if unsigned then (s.elem vs2 i).ult x else (s.elem vs2 i).slt x

def atLeast (s : VState c) (unsigned : Bool) (vs2 rs1 : Reg) (i : Nat) : Bool :=
  let x := (s.scalar.get rs1).signExtend c.sew
  if unsigned then x.ule (s.elem vs2 i) else x.sle (s.elem vs2 i)

theorem atLeast_eq (s : VState c) (unsigned : Bool) (vs2 rs1 : Reg) (i : Nat) :
    s.atLeast unsigned vs2 rs1 i = !s.less unsigned vs2 rs1 i := by
  unfold atLeast less
  cases unsigned with
  | true => exact BitVec.ule_eq_not_ult _ _
  | false => exact BitVec.sle_eq_not_slt

end VState

/-! ## Instructions -/

inductive MaskOp
  | and | nand | andn | or | nor | orn | xor | xnor
  deriving DecidableEq, Repr

def MaskOp.apply (a b : Bool) : MaskOp → Bool
  | .and => a && b
  | .nand => !(a && b)
  | .andn => a && !b
  | .or => a || b
  | .nor => !(a || b)
  | .orn => a || !b
  | .xor => a ^^ b
  | .xnor => !(a ^^ b)

inductive VInstr
  /-- `vmslt.vx` and `vmsltu.vx`. -/
  | msltVx (unsigned : Bool) (vd vs2 rs1 : Reg) (masked : Bool)
  | mm (op : MaskOp) (vd vs2 vs1 : Reg)
  deriving DecidableEq, Repr

def VInstr.vd : VInstr → Reg
  | .msltVx _ vd .. => vd
  | .mm _ vd .. => vd

section Exec

variable {c : VConfig}

/-- The elements that an instruction computes. -/
def VInstr.active (s : VState c) (i : Nat) : VInstr → Bool
  | .msltVx _ _ _ _ masked => !masked || s.bit 0 i
  | .mm .. => true

def VInstr.result (s : VState c) (i : Nat) : VInstr → Bool
  | .msltVx unsigned _ vs2 rs1 _ => s.less unsigned vs2 rs1 i
  | .mm op _ vs2 vs1 => op.apply (s.bit vs2 i) (s.bit vs1 i)

/-- One instruction takes `s` to `t`. -/
structure VInstr.Step (insn : VInstr) (s t : VState c) : Prop where
  scalar : t.scalar = s.scalar.goto (s.scalar.pc + 4)
  others : ∀ r, r ≠ insn.vd → t.vregs r = s.vregs r
  active : ∀ i < c.vl, insn.active s i = true → t.bit insn.vd i = insn.result s i
  inactive : ∀ i < c.vl, insn.active s i = false →
    t.bit insn.vd i = s.bit insn.vd i ∨ (c.maskAgnostic = true ∧ t.bit insn.vd i = true)

/-- Instructions that stand one after the other. -/
inductive VRun : List VInstr → VState c → VState c → Prop
  | nil (s : VState c) : VRun [] s s
  | cons {insn : VInstr} {code : List VInstr} {s m t : VState c} (step : insn.Step s m) (rest : VRun code m t) :
    VRun (insn :: code) s t

end Exec

/-! ## Decoding -/

def maskOpOf (funct6 : BitVec 6) : Option MaskOp :=
  match funct6.toNat with
  | 0x18 => some .andn
  | 0x19 => some .and
  | 0x1a => some .or
  | 0x1b => some .xor
  | 0x1c => some .orn
  | 0x1d => some .nand
  | 0x1e => some .nor
  | 0x1f => some .xnor
  | _ => none

def funct6Of (insn : BitVec 64) : BitVec 6 := insn.extractLsb' 26 6

/-- The bit is set where there is no mask. -/
def vmOf (insn : BitVec 64) : BitVec 1 := insn.extractLsb' 25 1

/-- The instructions above, by major opcode and the kind of their operands. -/
def decodeVector (insn : BitVec 64) : Option VInstr :=
  if insn.extractLsb' 0 7 = 0x57#7 then
    if funct3Of insn = 4 then
      if funct6Of insn = 0x1a then some (.msltVx true (rdOf insn) (rs2Of insn) (rs1Of insn) (vmOf insn = 0))
      else if funct6Of insn = 0x1b then some (.msltVx false (rdOf insn) (rs2Of insn) (rs1Of insn) (vmOf insn = 0))
      else none
    else if funct3Of insn = 2 ∧ vmOf insn = 1 then
      (maskOpOf (funct6Of insn)).map fun op => .mm op (rdOf insn) (rs2Of insn) (rs1Of insn)
    else none
  else none

/-! ## Steps -/

section Steps

variable {c : VConfig} {s t : VState c}

/-- Every instruction goes on from every state, with the bits one likes where the step leaves them open. -/
theorem VInstr.exists_step (insn : VInstr) (s : VState c) (free : Nat → Bool)
    (hfree : ∀ i < c.vl, insn.active s i = false → free i = s.bit insn.vd i ∨ (c.maskAgnostic = true ∧ free i = true)) :
    ∃ t : VState c, insn.Step s t ∧ ∀ i < c.vlen, ¬ (i < c.vl ∧ insn.active s i = true) → t.bit insn.vd i = free i := by
  let bits (i : Nat) : Bool := if i < c.vl ∧ insn.active s i = true then insn.result s i else free i
  let written : BitVec c.vlen := (BitVec.ofBoolListLE ((List.range c.vlen).map bits)).setWidth c.vlen
  have hbit (i : Nat) (hi : i < c.vlen) : written.getLsbD i = bits i := by
    rw [BitVec.getLsbD_setWidth, decide_eq_true hi, Bool.true_and, BitVec.getLsbD_ofBoolListLE,
      List.getD_eq_getElem?_getD, List.getElem?_map, List.getElem?_range hi]
    rfl
  let t : VState c :=
    { scalar := s.scalar.goto (s.scalar.pc + 4), vregs := fun r => if r = insn.vd then written else s.vregs r }
  have ht (i : Nat) : t.bit insn.vd i = written.getLsbD i := by
    show (t.vregs insn.vd).getLsbD i = _
    rw [show t.vregs insn.vd = written from if_pos rfl]
  refine ⟨t, ⟨rfl, fun r hr => if_neg hr, fun i hi hact => ?_, fun i hi hact => ?_⟩, fun i hi hnot => ?_⟩
  · rw [ht, hbit i (lt_of_lt_of_le hi c.vl_le)]
    exact if_pos ⟨hi, hact⟩
  · rw [ht, hbit i (lt_of_lt_of_le hi c.vl_le), show bits i = free i from if_neg (by simp [hact])]
    exact hfree i hi hact
  · rw [ht, hbit i hi]
    exact if_neg hnot

/-- Straight code runs to its end. -/
theorem VRun.exists (code : List VInstr) (s : VState c) : ∃ t, VRun code s t := by
  induction code generalizing s with
  | nil => exact ⟨s, .nil s⟩
  | cons insn code ih =>
    obtain ⟨m, hstep, -⟩ := insn.exists_step s (s.bit insn.vd) fun _ _ _ => .inl rfl
    obtain ⟨t, hrest⟩ := ih m
    exact ⟨t, .cons hstep hrest⟩

theorem VRun.nil_iff : VRun [] s t ↔ t = s := by
  constructor
  · rintro ⟨⟩
    rfl
  · rintro rfl
    exact .nil t

theorem VRun.cons_iff {insn : VInstr} {code : List VInstr} :
    VRun (insn :: code) s t ↔ ∃ m, insn.Step s m ∧ VRun code m t := by
  constructor
  · rintro (- | ⟨hstep, hrest⟩)
    exact ⟨_, hstep, hrest⟩
  · rintro ⟨m, hstep, hrest⟩
    exact .cons hstep hrest

variable {op : MaskOp} {vd vs2 vs1 rs1 : Reg} {unsigned : Bool}

/-- A logical operation computes every element. -/
theorem VInstr.Step.mm_bit (h : (VInstr.mm op vd vs2 vs1).Step s t) {i : Nat} (hi : i < c.vl) :
    t.bit vd i = op.apply (s.bit vs2 i) (s.bit vs1 i) :=
  h.active i hi rfl

theorem VInstr.Step.mslt_bit (h : (VInstr.msltVx unsigned vd vs2 rs1 false).Step s t) {i : Nat} (hi : i < c.vl) :
    t.bit vd i = s.less unsigned vs2 rs1 i :=
  h.active i hi rfl

theorem VInstr.Step.mslt_masked_bit (h : (VInstr.msltVx unsigned vd vs2 rs1 true).Step s t) {i : Nat} (hi : i < c.vl)
    (hmask : s.bit 0 i = true) : t.bit vd i = s.less unsigned vs2 rs1 i :=
  h.active i hi hmask

/-- What the mask leaves out stays, unless the policy lets it be set. -/
theorem VInstr.Step.mslt_masked_keep (h : (VInstr.msltVx unsigned vd vs2 rs1 true).Step s t) {i : Nat} (hi : i < c.vl)
    (hmask : s.bit 0 i = false) (hpolicy : c.maskAgnostic = false) : t.bit vd i = s.bit vd i := by
  rcases h.inactive i hi hmask with hkeep | ⟨hagnostic, -⟩
  · exact hkeep
  · rw [hpolicy] at hagnostic
    cases hagnostic

theorem VInstr.Step.bit_other {insn : VInstr} (h : insn.Step s t) {r : Reg} (hr : r ≠ insn.vd) (i : Nat) :
    t.bit r i = s.bit r i := by
  unfold VState.bit
  rw [h.others r hr]

end Steps

end RiscvBinutils.Machine
