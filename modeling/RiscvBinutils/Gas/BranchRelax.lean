/-
Branches of variable length (gas/config/tc-riscv.c, `relaxed_branch_length`, `riscv_relax_frag` and
`md_convert_frag_branch`).
A branch that does not reach its target is inverted and skips a jump; a compressed one that does not reach is
expanded first.
-/
import RiscvBinutils.Bfd.Relax
import RiscvBinutils.Gas.Assemble
import RiscvBinutils.Gas.Resolved

namespace RiscvBinutils.Gas

open RiscvBinutils.Base RiscvBinutils.Opcode RiscvBinutils.Bfd RiscvBinutils.Machine

/-! ## The frag -/

/-- `fr_symbol`: `S_IS_DEFINED`, `S_IS_WEAK`, `S_GET_SEGMENT` and `S_GET_VALUE`. -/
structure BranchSymbol where
  defined : Bool
  weak : Bool
  seg : Nat
  value : Vma
  deriving DecidableEq, Repr

/-- A `fragS` that ends in a branch; `uncond`, `rvc` and `length` are the parts of its `fr_subtype`. -/
structure BranchFrag where
  literal : List Byte
  address : Vma
  fix : Nat
  var : Nat
  uncond : Bool
  rvc : Bool
  length : Nat
  symbol : Option BranchSymbol
  offset : Vma
  deriving DecidableEq, Repr

def rvcJumpReach : Vma := 4096
def rvcBranchReach : Vma := 512
def riscvBranchReach : Vma := 8192

/-- How far the symbol is from the instruction. -/
def BranchFrag.distance (frag : BranchFrag) (s : BranchSymbol) : Vma :=
  s.value + frag.offset - (frag.address + BitVec.ofNat 64 frag.fix)

/-- `relaxed_branch_length` of a frag in section `sec`. -/
def relaxedBranchLength (frag : BranchFrag) (sec : Nat) : Nat :=
  -- jumps are taken to be in range
  let length := if frag.uncond then 4 else 8
  match frag.symbol with
  | none => length
  | some s =>
    if s.defined ∧ s.weak = false ∧ sec = s.seg then
      let val := frag.distance s
      let rvcRange := if frag.uncond then rvcJumpReach else rvcBranchReach
      if frag.rvc ∧ val + rvcRange / 2 < rvcRange then 2
      else if val + riscvBranchReach / 2 < riscvBranchReach then 4
      else if frag.uncond = false ∧ frag.rvc then 6
      else length
    else length

/-- `riscv_relax_frag`. -/
def riscvRelaxFrag (frag : BranchFrag) (sec : Nat) : BranchFrag :=
  let length := relaxedBranchLength frag sec
  { frag with length, var := length }

/-! ## Its code -/

def maskCJ : Vma := 0xe003
def maskCJal : Vma := 0xe003
def matchCBeqz : Vma := 0xc001
def maskCBeqz : Vma := 0xe003
def matchCBnez : Vma := 0xe001
def maskCBnez : Vma := 0xe003
def matchBeq : Vma := 0x63
def matchBne : Vma := 0x1063

/-- The fixup that is made: its place in the frag, and its relocation. -/
structure BranchFix where
  place : Nat
  size : Nat
  rType : RelocCode
  deriving DecidableEq, Repr

/-- The 32-bit instruction for a compressed branch, which has its distance still to come. -/
def expandRvc (insn : Vma) : Option Vma :=
  let rs1 : Vma := (8 : Vma) + ((insn >>> 7) &&& (7 : Vma))
  if insn &&& maskCJ = matchCJ then some matchJal
  else if insn &&& maskCJal = matchCJal then some (matchJal ||| ((1 : Vma) <<< 7))
  else if insn &&& maskCBeqz = matchCBeqz then some (matchBeq ||| (rs1 <<< 15))
  else if insn &&& maskCBnez = matchCBnez then some (matchBne ||| (rs1 <<< 15))
  else none

/-- The label `jump`: a jump to the target at `buf`. -/
def convertJump (literal : List Byte) (buf : Nat) : List Byte × BranchFix × Nat :=
  (putl 4 matchJal literal buf, ⟨buf, 4, .jmp⟩, buf + 4)

/-- The second switch of `md_convert_frag_branch`, with the end of what is written. -/
def convertWide (frag : BranchFrag) (literal : List Byte) : Option (List Byte × BranchFix × Nat) :=
  match frag.length with
  | 8 =>
    if frag.uncond then none
    else
      let insn := (getl 4 literal frag.fix ^^^ (matchBeq ^^^ matchBne)) ||| encodeBtypeImm 8
      some (convertJump (putl 4 insn literal frag.fix) (frag.fix + 4))
  | 4 => some (literal, ⟨frag.fix, 4, if frag.uncond then .jmp else .bfd12Pcrel⟩, frag.fix + 4)
  | _ => none

/-- `md_convert_frag_branch`: the bytes, the fixup and the new `fr_fix`; `none` is a failed assertion or an abort. -/
def mdConvertFragBranch (frag : BranchFrag) : Option (List Byte × BranchFix × Nat) := do
  if frag.var ≠ frag.length then none
  else
    let (literal, fix, last) ←
      if frag.rvc then
        match frag.length with
        | 8 | 4 => do convertWide frag (putl 4 (← expandRvc (getl 2 frag.literal frag.fix)) frag.literal frag.fix)
        | 6 =>
          let insn := (getl 2 frag.literal frag.fix ^^^ (matchCBeqz ^^^ matchCBnez)) ||| encodeCbtypeImm 6
          some (convertJump (putl 2 insn frag.literal frag.fix) (frag.fix + 2))
        | 2 => some (frag.literal, ⟨frag.fix, 2, if frag.uncond then .rvcJump else .rvcBranch⟩, frag.fix + 2)
        | _ => none
      else convertWide frag frag.literal
    if last ≠ frag.fix + frag.var then none else some (literal, fix, frag.fix + frag.var)

/-! ## The written code -/

section Code

variable {w : Nat} {x : Vma} {c : Cond} {rs1 rs2 rd : Reg}

theorem condOf_inverse : ∀ (f : BitVec 3) (c : Cond), condOf f = some c → condOf (f ^^^ 1) = some c.inverse := by
  intro f
  have htable : ∀ f : BitVec 3, condOf (f ^^^ 1) = (condOf f).map Cond.inverse := by decide
  intro c hc
  rw [htable, hc]
  rfl

/-- The inverted branch over the jump behind it. -/
theorem decodeAt_invert (h : decodeAt w x = some (.branch c rs1 rs2 0, 4)) :
    decodeAt w ((x ^^^ (matchBeq ^^^ matchBne)) ||| encodeBtypeImm 8) = some (.branch c.inverse rs1 rs2 8, 4) := by
  obtain ⟨hlow, hdecode⟩ := decodeAt_four h
  obtain ⟨hop, hfunct, hrs1, hrs2, himm⟩ := decode_branch_iff.mp hdecode
  have hbit {i : Nat} (hi : i < 64) : ((x ^^^ (matchBeq ^^^ matchBne)) ||| encodeBtypeImm 8).getLsbD i =
      ((x.getLsbD i ^^ decide (i = 12)) || decide (i = 10)) := by
    have hflip : ∀ i < 64, (matchBeq ^^^ matchBne).getLsbD i = decide (i = 12) := by decide
    have hskip : ∀ i < 64, (encodeBtypeImm 8).getLsbD i = decide (i = 10) := by decide
    rw [BitVec.getLsbD_or, BitVec.getLsbD_xor, hflip i hi, hskip i hi]
  generalize (x ^^^ (matchBeq ^^^ matchBne)) ||| encodeBtypeImm 8 = y at hbit
  have hsame {s m : Nat} := @extractLsb_same x y 0x1400 32 s m fun i hi hmask => by
    have hne : ∀ i < 64, (0x1400 : Vma).getLsbD i = false → i ≠ 12 ∧ i ≠ 10 := by decide
    obtain ⟨h12, h10⟩ := hne i (by omega) hmask
    rw [hbit (by omega), decide_eq_false h12, decide_eq_false h10, Bool.xor_false, Bool.or_false]
  -- the distance of the old branch is zero, so that only the new bit is in it
  have hgather : gather branchFields y = gather branchFields 0x400 := by
    refine gather_congr (by decide) fun f hf i hi => ?_
    have hzero := agreeOn_zero_of_gather (by decide) (by decide) himm f hf i hi
    have hskip : ∀ i < 64, (0x400 : Vma).getLsbD i = decide (i = 10) := by decide
    have hout : ∀ f ∈ branchFields, f.pos + f.width ≤ 64 ∧ (12 < f.pos ∨ f.pos + f.width ≤ 12) := by decide
    have hpos := hout f hf
    rw [hbit (by omega), hzero, hskip _ (by omega), decide_eq_false (by omega : f.pos + i ≠ 12)]
    simp
  have hy : decode w y = some (.branch c.inverse rs1 rs2 8) := by
    refine decode_branch_iff.mpr ⟨?_, ?_, ?_, ?_, ?_⟩
    · rw [hsame (by decide) (by decide), hop]
    · have hxor : funct3Of y = funct3Of x ^^^ 1 := by
        apply BitVec.eq_of_getLsbD_eq
        intro i hi
        rw [funct3Of, funct3Of, BitVec.getLsbD_xor, BitVec.getLsbD_extractLsb', BitVec.getLsbD_extractLsb',
          hbit (by omega)]
        have hone : ∀ i < 3, (1 : BitVec 3).getLsbD i = decide (12 + i = 12) := by decide
        rw [hone i hi, decide_eq_false (by omega : 12 + i ≠ 10)]
        simp [hi]
      rw [hxor]
      exact condOf_inverse _ _ hfunct
    · rw [rs1Of, hsame (by decide) (by decide)]
      exact hrs1
    · rw [rs2Of, hsame (by decide) (by decide)]
      exact hrs2
    · rw [hgather]
      decide
  rw [decodeAt, hsame (by decide) (by decide), if_pos hlow, hy]
  rfl

/-- The inverted compressed branch over the jump behind it. -/
theorem decodeAt_invert_rvc (h : decodeAt w x = some (.branch c rs1 rs2 0, 2)) :
    decodeAt w ((x ^^^ (matchCBeqz ^^^ matchCBnez)) ||| encodeCbtypeImm 6) = some (.branch c.inverse rs1 rs2 6, 2) := by
  obtain ⟨hlow, hdecode⟩ := decodeAt_two h
  obtain ⟨hone, hfunct, hrs1, hrs2, himm⟩ := decodeCompressed_branch_iff.mp hdecode
  have hbit {i : Nat} (hi : i < 64) : ((x ^^^ (matchCBeqz ^^^ matchCBnez)) ||| encodeCbtypeImm 6).getLsbD i =
      ((x.getLsbD i ^^ decide (i = 13)) || decide (i = 3 ∨ i = 4)) := by
    have hflip : ∀ i < 64, (matchCBeqz ^^^ matchCBnez).getLsbD i = decide (i = 13) := by decide
    have hskip : ∀ i < 64, (encodeCbtypeImm 6).getLsbD i = decide (i = 3 ∨ i = 4) := by decide
    rw [BitVec.getLsbD_or, BitVec.getLsbD_xor, hflip i hi, hskip i hi]
  generalize (x ^^^ (matchCBeqz ^^^ matchCBnez)) ||| encodeCbtypeImm 6 = y at hbit
  have hsame {s m : Nat} := @extractLsb_same x y 0x2018 16 s m fun i hi hmask => by
    have hne : ∀ i < 64, (0x2018 : Vma).getLsbD i = false → i ≠ 13 ∧ ¬ (i = 3 ∨ i = 4) := by decide
    obtain ⟨h13, h34⟩ := hne i (by omega) hmask
    rw [hbit (by omega), decide_eq_false h13, decide_eq_false h34, Bool.xor_false, Bool.or_false]
  have himm' : (gather cbFields x).setWidth 9 = 0 := by
    have hback := congrArg (BitVec.setWidth 9) himm
    rw [cbImmOf, setWidth_signExtend _ (by decide), BitVec.signExtend_eq] at hback
    exact hback
  have hgather : gather cbFields y = gather cbFields 0x18 := by
    refine gather_congr (by decide) fun f hf i hi => ?_
    have hzero := agreeOn_zero_of_gather (by decide) (by decide) himm' f hf i hi
    have hskip : ∀ i < 64, (0x18 : Vma).getLsbD i = decide (i = 3 ∨ i = 4) := by decide
    have hout : ∀ f ∈ cbFields, f.pos + f.width ≤ 64 ∧ (13 < f.pos ∨ f.pos + f.width ≤ 13) := by decide
    have hpos := hout f hf
    rw [hbit (by omega), hzero, hskip _ (by omega), decide_eq_false (by omega : f.pos + i ≠ 13)]
    simp
  have hxor : y.extractLsb' 13 3 = x.extractLsb' 13 3 ^^^ 1#3 := by
    apply BitVec.eq_of_getLsbD_eq
    intro i hi
    have hbits : ∀ i < 3, (1#3).getLsbD i = decide (13 + i = 13) := by decide
    rw [BitVec.getLsbD_xor, BitVec.getLsbD_extractLsb', BitVec.getLsbD_extractLsb', hbit (by omega), hbits i hi,
      decide_eq_false (by omega : ¬ (13 + i = 3 ∨ 13 + i = 4))]
    simp [hi]
  have hy : decodeCompressed w y = some (.branch c.inverse rs1 rs2 6) := by
    refine decodeCompressed_branch_iff.mpr ⟨?_, ?_, ?_, hrs2, ?_⟩
    · rw [hsame (by decide) (by decide), hone]
    · rw [hxor]
      rcases hfunct with ⟨hf, rfl⟩ | ⟨hf, rfl⟩
      · exact .inr ⟨by rw [hf]; rfl, rfl⟩
      · exact .inl ⟨by rw [hf]; rfl, rfl⟩
    · rw [rs1cOf, hsame (by decide) (by decide)]
      exact hrs1
    · rw [cbImmOf, hgather]
      decide
  rw [decodeAt, hsame (by decide) (by decide), if_neg hlow, hy]
  rfl

/-- The bits that tell the compressed branches apart. -/
theorem and_maskC (x : Vma) :
    x &&& (0xe003 : Vma) = ((x.extractLsb' 13 3).setWidth 64 <<< 13) ||| (x.extractLsb' 0 2).setWidth 64 := by
  have hmask : ∀ i < 64, (0xe003 : Vma).getLsbD i = decide (i < 2 ∨ (13 ≤ i ∧ i < 16)) := by decide
  apply BitVec.eq_of_getLsbD_eq
  intro i hi
  rw [BitVec.getLsbD_and, hmask i hi, BitVec.getLsbD_or, BitVec.getLsbD_shiftLeft, BitVec.getLsbD_setWidth,
    BitVec.getLsbD_setWidth, BitVec.getLsbD_extractLsb', BitVec.getLsbD_extractLsb', Nat.zero_add]
  by_cases h2 : i < 2
  · simp [h2, hi, show i < 13 by omega]
  · by_cases h13 : i < 13
    · simp [h2, h13, show ¬ 13 ≤ i by omega]
    · by_cases h16 : i < 16
      · simp [h2, hi, h13, h16, show 13 ≤ i by omega, show i - 13 < 3 by omega, show 13 + (i - 13) = i by omega,
          show i - 13 < 64 by omega]
      · simp [h2, h13, h16, show ¬ i - 13 < 3 by omega]

theorem shift_and_seven (x : Vma) : (x >>> 7) &&& (7 : Vma) = (x.extractLsb' 7 3).setWidth 64 := by
  have hmask : ∀ i < 64, (7 : Vma).getLsbD i = decide (i < 3) := by decide
  apply BitVec.eq_of_getLsbD_eq
  intro i hi
  rw [BitVec.getLsbD_and, hmask i hi, BitVec.getLsbD_ushiftRight, BitVec.getLsbD_setWidth, BitVec.getLsbD_extractLsb']
  by_cases h3 : i < 3
  · simp [h3, hi]
  · simp [h3]

/-- A compressed branch is expanded to the branch it stands for. -/
theorem expandRvc_branch (h : decodeAt w x = some (.branch c rs1 rs2 0, 2)) :
    ∃ v, expandRvc x = some v ∧ decodeAt w v = some (.branch c rs1 rs2 0, 4) := by
  obtain ⟨-, hdecode⟩ := decodeAt_two h
  obtain ⟨hone, hfunct, hrs1, rfl, -⟩ := decodeCompressed_branch_iff.mp hdecode
  have hand := and_maskC x
  rw [hone] at hand
  rw [rs1cOf] at hrs1
  rw [expandRvc, shift_and_seven]
  generalize x.extractLsb' 7 3 = t at hrs1 ⊢
  rcases hfunct with ⟨hf, rfl⟩ | ⟨hf, rfl⟩
  · rw [hf] at hand
    refine ⟨matchBeq ||| (((8 : Vma) + t.setWidth 64) <<< 15), ?_, ?_⟩
    · rw [maskCJ, maskCJal, maskCBeqz, hand, if_neg (by decide), if_neg (by decide), if_pos (by decide)]
    · have hlow : (matchBeq ||| (((8 : Vma) + t.setWidth 64) <<< 15)).extractLsb' 0 2 = 3#2 := by
        clear hrs1
        revert t
        decide
      have hword : decode w (matchBeq ||| (((8 : Vma) + t.setWidth 64) <<< 15)) = some (.branch .eq rs1 0 0) := by
        refine decode_branch_iff.mpr ⟨?_, ?_, ?_, ?_, ?_⟩
        all_goals first | (rw [← hrs1]; clear hrs1; revert t; decide) | (clear hrs1; revert t; decide)
      rw [decodeAt, if_pos hlow, hword]
      rfl
  · rw [hf] at hand
    refine ⟨matchBne ||| (((8 : Vma) + t.setWidth 64) <<< 15), ?_, ?_⟩
    · rw [maskCJ, maskCJal, maskCBeqz, maskCBnez, hand, if_neg (by decide), if_neg (by decide), if_neg (by decide),
        if_pos (by decide)]
    · have hlow : (matchBne ||| (((8 : Vma) + t.setWidth 64) <<< 15)).extractLsb' 0 2 = 3#2 := by
        clear hrs1
        revert t
        decide
      have hword : decode w (matchBne ||| (((8 : Vma) + t.setWidth 64) <<< 15)) = some (.branch .ne rs1 0 0) := by
        refine decode_branch_iff.mpr ⟨?_, ?_, ?_, ?_, ?_⟩
        all_goals first | (rw [← hrs1]; clear hrs1; revert t; decide) | (clear hrs1; revert t; decide)
      rw [decodeAt, if_pos hlow, hword]
      rfl

theorem decodeAt_matchJal : decodeAt w matchJal = some (.jal 0 0, 4) := by
  have hword : decode w matchJal = some (.jal 0 0) := decode_jal_iff.mpr (by decide)
  rw [decodeAt, if_pos (by decide), hword]
  rfl

/-- A compressed jump is expanded to the jump it stands for. -/
theorem expandRvc_jal (h : decodeAt w x = some (.jal rd 0, 2)) :
    ∃ v, expandRvc x = some v ∧ decodeAt w v = some (.jal rd 0, 4) := by
  obtain ⟨-, hdecode⟩ := decodeAt_two h
  obtain ⟨hone, hfunct, -⟩ := decodeCompressed_jal_iff.mp hdecode
  have hand := and_maskC x
  rw [hone] at hand
  rw [expandRvc]
  rcases hfunct with ⟨hf, rfl⟩ | ⟨hf, -, rfl⟩
  · rw [hf] at hand
    refine ⟨matchJal, ?_, decodeAt_matchJal⟩
    rw [maskCJ, hand, if_pos (by decide)]
  · rw [hf] at hand
    refine ⟨matchJal ||| ((1 : Vma) <<< 7), ?_, ?_⟩
    · rw [maskCJ, maskCJal, hand, if_neg (by decide), if_pos (by decide)]
    · have hword : decode w (matchJal ||| ((1 : Vma) <<< 7)) = some (.jal 1 0) := decode_jal_iff.mpr (by decide)
      rw [decodeAt, if_pos (by decide), hword]
      rfl

end Code

/-! ## The conversion -/

/-- The code for the branch or jump `i` from `lo` to `hi`, with the fixup of its target: the instruction itself,
or the branch on the inverse condition over a jump. -/
inductive BranchCode (w : Nat) (literal : List Byte) (lo hi : Nat) : Instr → BranchFix → Prop
  | near {i : Instr} {len : Nat} {rType : RelocCode} {type : RelocType} (hinsn : InsnAt w literal lo i len)
      (hdistance : distanceType i len = some type) (htype : rType.type = some type) (hend : hi = lo + len) :
      BranchCode w literal lo hi i ⟨lo, len, rType⟩
  | far {c : Cond} {rs1 rs2 : Reg} {len : Nat}
      (hover : InsnAt w literal lo (.branch c.inverse rs1 rs2 (BitVec.ofNat 13 (len + 4))) len)
      (hjump : InsnAt w literal (lo + len) (.jal 0 0) 4) (hlen : len ≤ 4) (hend : hi = lo + len + 4) :
      BranchCode w literal lo hi (.branch c rs1 rs2 0) ⟨lo + len, 4, .jmp⟩

/-- A branch for a conditional frag, a jump for an unconditional one; the distance is still to come. -/
def BranchFrag.Kind (frag : BranchFrag) : Instr → Prop
  | .branch _ _ _ imm => frag.uncond = false ∧ imm = 0
  | .jal _ imm => frag.uncond = true ∧ imm = 0
  | _ => False

/-- A frag as `append_insn` makes it: the instruction, and room for the longest form. -/
structure BranchFrag.Made (w : Nat) (frag : BranchFrag) (i : Instr) : Prop where
  kind : frag.Kind i
  insn : InsnAt w frag.literal frag.fix i (if frag.rvc then 2 else 4)
  room : frag.fix + 8 ≤ frag.literal.length

section Convert

variable {w : Nat} {frag : BranchFrag} {literal : List Byte} {i : Instr}

/-- The lengths of a frag that is relaxed. -/
theorem relaxedBranchLength_cases (frag : BranchFrag) (sec : Nat) :
    (relaxedBranchLength frag sec = 2 ∧ frag.rvc = true) ∨ relaxedBranchLength frag sec = 4 ∨
      (relaxedBranchLength frag sec = 6 ∧ frag.rvc = true ∧ frag.uncond = false) ∨
      (relaxedBranchLength frag sec = 8 ∧ frag.uncond = false) := by
  have hworst : (if frag.uncond then 4 else 8) = 4 ∨ ((if frag.uncond then 4 else 8) = 8 ∧ frag.uncond = false) := by
    cases frag.uncond <;> simp
  unfold relaxedBranchLength
  cases frag.symbol with
  | none => exact .inr (hworst.imp id .inr)
  | some s =>
    dsimp only
    generalize (if frag.uncond then rvcJumpReach else rvcBranchReach) = rvcRange
    generalize (if frag.uncond then 4 else 8) = worst at hworst ⊢
    split
    · split
      · rename_i hrvc
        exact .inl ⟨rfl, hrvc.1⟩
      · split
        · exact .inr (.inl rfl)
        · split
          · rename_i hfar
            exact .inr (.inr (.inl ⟨rfl, hfar.2, hfar.1⟩))
          · exact .inr (hworst.imp id .inr)
    · exact .inr (hworst.imp id .inr)

/-- The jump behind an inverted branch. -/
theorem convertJump_code {lo len : Nat} {c : Cond} {rs1 rs2 : Reg} {insn : Vma}
    (h : decodeAt w insn = some (.branch c.inverse rs1 rs2 (BitVec.ofNat 13 (len + 4)), len)) (hlen : len ≤ 4)
    (hroom : lo + len + 4 ≤ literal.length) :
    ∃ literal', convertJump (putl len insn literal lo) (lo + len) = (literal', ⟨lo + len, 4, .jmp⟩, lo + len + 4) ∧
      BranchCode w literal' lo (lo + len + 4) (.branch c rs1 rs2 0) ⟨lo + len, 4, .jmp⟩ := by
  have hlength : (putl len insn literal lo).length = literal.length := (sameOutside_putl insn (by omega)).length
  have hover : InsnAt w (putl len insn literal lo) lo _ len := insnAt_putl h hlen (by omega)
  refine ⟨_, rfl, .far ?_ ?_ hlen rfl⟩
  · exact hover.frame (sameOutside_putl _ (by omega)) (.inl (by omega))
  · exact insnAt_putl decodeAt_matchJal (by omega) (by omega)

theorem convertWide_code (hkind : frag.Kind i) (hinsn : InsnAt w literal frag.fix i 4)
    (hroom : frag.fix + 8 ≤ literal.length)
    (hlength : frag.length = 4 ∨ (frag.length = 8 ∧ frag.uncond = false)) :
    ∃ literal' fix, convertWide frag literal = some (literal', fix, frag.fix + frag.length) ∧
      BranchCode w literal' frag.fix (frag.fix + frag.length) i fix := by
  rcases hlength with h4 | ⟨h8, huncond⟩
  · rw [convertWide, h4]
    refine ⟨literal, _, rfl, ?_⟩
    unfold BranchFrag.Kind at hkind
    split at hkind
    · rw [hkind.1]
      exact .near hinsn rfl rfl rfl
    · rw [hkind.1]
      exact .near hinsn rfl rfl rfl
    · exact hkind.elim
  · rw [convertWide, h8, huncond]
    unfold BranchFrag.Kind at hkind
    split at hkind
    · obtain ⟨-, rfl⟩ := hkind
      obtain ⟨literal', hjump, hcode⟩ := convertJump_code (decodeAt_invert hinsn) (by decide) hroom
      refine ⟨literal', _, ?_, hcode⟩
      show some (convertJump _ _) = _
      rw [hjump]
    · rw [huncond] at hkind
      cases hkind.1
    · exact hkind.elim

theorem expandRvc_code (hkind : frag.Kind i) (hinsn : InsnAt w frag.literal frag.fix i 2) :
    ∃ v, expandRvc (getl 2 frag.literal frag.fix) = some v ∧ decodeAt w v = some (i, 4) := by
  unfold BranchFrag.Kind at hkind
  split at hkind
  · obtain ⟨-, rfl⟩ := hkind
    exact expandRvc_branch hinsn
  · obtain ⟨-, rfl⟩ := hkind
    exact expandRvc_jal hinsn
  · exact hkind.elim

/-- The conversion of a relaxed frag never aborts and writes code for its instruction. -/
theorem mdConvertFragBranch_code (hmade : frag.Made w i) (sec : Nat) :
    ∃ literal' fix, mdConvertFragBranch (riscvRelaxFrag frag sec) =
        some (literal', fix, frag.fix + (riscvRelaxFrag frag sec).var) ∧
      BranchCode w literal' frag.fix (frag.fix + (riscvRelaxFrag frag sec).var) i fix := by
  obtain ⟨hkind, hinsn, hroom⟩ := hmade
  have hcases := relaxedBranchLength_cases frag sec
  have hfields : (riscvRelaxFrag frag sec).literal = frag.literal ∧ (riscvRelaxFrag frag sec).fix = frag.fix ∧
      (riscvRelaxFrag frag sec).rvc = frag.rvc ∧ (riscvRelaxFrag frag sec).uncond = frag.uncond ∧
      (riscvRelaxFrag frag sec).var = relaxedBranchLength frag sec ∧
      (riscvRelaxFrag frag sec).length = relaxedBranchLength frag sec := ⟨rfl, rfl, rfl, rfl, rfl, rfl⟩
  have hkind' : (riscvRelaxFrag frag sec).Kind i := hkind
  generalize riscvRelaxFrag frag sec = r at hfields hkind' ⊢
  generalize relaxedBranchLength frag sec = n at hfields hcases
  obtain ⟨hliteral, hfix, hrvc, huncond, hvar, hlen⟩ := hfields
  rw [← hliteral, ← hfix, ← hrvc] at hinsn
  rw [← hliteral, ← hfix] at hroom
  rw [← hrvc, ← huncond, ← hlen] at hcases
  rw [← hfix]
  have hsame : r.var = r.length := hvar.trans hlen.symm
  rw [hsame]
  unfold mdConvertFragBranch
  rw [if_neg (not_not.mpr hsame), hsame]
  cases hc : r.rvc with
  | false =>
    rw [hc] at hinsn hcases
    obtain ⟨literal', fix, hwide, hcode⟩ := convertWide_code hkind' hinsn hroom (by simpa using hcases)
    refine ⟨literal', fix, ?_, hcode⟩
    simp [hwide]
  | true =>
    rw [hc] at hinsn hcases
    replace hinsn : InsnAt w r.literal r.fix i 2 := hinsn
    have hexpand (hwider : r.length = 4 ∨ (r.length = 8 ∧ r.uncond = false)) :
        ∃ v literal' fix, expandRvc (getl 2 r.literal r.fix) = some v ∧
          convertWide r (putl 4 v r.literal r.fix) = some (literal', fix, r.fix + r.length) ∧
          BranchCode w literal' r.fix (r.fix + r.length) i fix := by
      obtain ⟨v, hv, hdecode⟩ := expandRvc_code hkind' hinsn
      have hput : (putl 4 v r.literal r.fix).length = r.literal.length := (sameOutside_putl v (by omega)).length
      have hexpanded : InsnAt w (putl 4 v r.literal r.fix) r.fix i 4 := insnAt_putl hdecode (by decide) (by omega)
      obtain ⟨literal', fix, hwide, hcode⟩ := convertWide_code hkind' hexpanded (by omega) hwider
      exact ⟨v, literal', fix, hv, hwide, hcode⟩
    rcases hcases with ⟨h2, -⟩ | h4 | ⟨h6, -, hcond⟩ | ⟨h8, hcond⟩
    · refine ⟨r.literal, ⟨r.fix, 2, if r.uncond then .rvcJump else .rvcBranch⟩, ?_, ?_⟩
      · simp [h2]
      · unfold BranchFrag.Kind at hkind'
        split at hkind'
        · rw [hkind'.1, h2]
          exact .near hinsn rfl rfl rfl
        · rw [hkind'.1, h2]
          exact .near hinsn rfl rfl rfl
        · exact hkind'.elim
    · obtain ⟨v, literal', fix, hv, hwide, hcode⟩ := hexpand (.inl h4)
      refine ⟨literal', fix, ?_, hcode⟩
      rw [h4] at hwide ⊢
      simp [hv, hwide]
    · unfold BranchFrag.Kind at hkind'
      split at hkind'
      · obtain ⟨-, rfl⟩ := hkind'
        obtain ⟨literal', hjump, hcode⟩ := convertJump_code (decodeAt_invert_rvc hinsn) (by decide)
          (by omega : r.fix + 2 + 4 ≤ r.literal.length)
        refine ⟨literal', ⟨r.fix + 2, 4, .jmp⟩, ?_, ?_⟩
        · rw [h6]
          dsimp only
          rw [hjump]
          simp
        · rw [h6]
          exact hcode
      · rw [hcond] at hkind'
        cases hkind'.1
      · exact hkind'.elim
    · obtain ⟨v, literal', fix, hv, hwide, hcode⟩ := hexpand (.inr ⟨h8, hcond⟩)
      refine ⟨literal', fix, ?_, hcode⟩
      rw [h8] at hwide ⊢
      simp [hv, hwide]

end Convert

/-! ## The run -/

/-- The program counter and all registers are the same. -/
structure SameState {w : Nat} (s t : State w) : Prop where
  pc : s.pc = t.pc
  get : ∀ r, s.get r = t.get r

/-- The section after assembly: `contents` has the code of the frag at `base`, apart from a tentative distance at
the fixup, whose relocation is `rel`. -/
structure BranchEmitted (fix : BranchFix) (rel : Rela) (literal : List Byte) (lo hi base : Nat) (contents : List Byte) :
    Prop where
  type : fix.rType.type = some rel.type
  offset : rel.offset.toNat = base + fix.place
  room : base + hi ≤ contents.length
  same : ∀ k len, lo ≤ k → k + len ≤ hi → k + len ≤ fix.place ∨ fix.place + fix.size ≤ k →
    getl len contents (base + k) = getl len literal k
  bits : ∀ j < 8 * fix.size, (howto rel.type).dstMask.getLsbD j = false →
    (getl fix.size contents rel.offset.toNat).getLsbD j = (getl fix.size literal fix.place).getLsbD j

section Run

variable {w : Nat}

theorem signExtend_small {n : Nat} (hn : n < 4096) : (BitVec.ofNat 13 n).signExtend w = BitVec.ofNat w n := by
  have hmsb : (BitVec.ofNat 13 n).msb = false := by
    rw [BitVec.msb_eq_decide, BitVec.toNat_ofNat, Nat.mod_eq_of_lt (by omega)]
    simpa using hn
  rw [BitVec.signExtend_eq_setWidth_of_msb_false hmsb]
  apply BitVec.eq_of_toNat_eq
  rw [BitVec.toNat_setWidth, BitVec.toNat_ofNat, BitVec.toNat_ofNat, Nat.mod_eq_of_lt (by omega : n < 2 ^ 13)]

theorem ofNat_add_assoc (a : BitVec w) (m n : Nat) :
    a + BitVec.ofNat w (m + n) = a + BitVec.ofNat w m + BitVec.ofNat w n := by
  rw [BitVec.ofNat_add, BitVec.add_assoc]

variable {tgt : Target} {rel : Rela} {value secAddr : Vma} {literal contents : List Byte} {lo hi base : Nat}
  {fix : BranchFix} {i : Instr} {fetch : BitVec w → BitVec 64} {mem : BitVec w → BitVec w} {s : State w}

/-- The resolved code of a branch or jump does what that branch or jump does. -/
theorem BranchCode.run (hcode : BranchCode w literal lo hi i fix) (hw : w ≤ 64)
    (hemit : BranchEmitted fix rel literal lo hi base contents)
    (hok : (performRelocation tgt rel value secAddr contents).1 = .ok)
    (hholds : Holds fetch (secAddr.setWidth w) (performRelocation tgt rel value secAddr contents).2 (base + lo)
    (base + hi))
    (hs : s.pc = secAddr.setWidth w + BitVec.ofNat w (base + lo)) :
    ∃ n s', 0 < n ∧ Machine.run fetch mem n s = some s' ∧ SameState s' (branchTo ((value + rel.addend).setWidth w)
      (secAddr.setWidth w + BitVec.ofNat w (base + hi)) s i) := by
  cases hcode with
  | @near i len rType type hinsn hdistance htype hend =>
    obtain rfl : type = rel.type := Option.some.inj (htype.symm.trans hemit.type)
    have hoff : rel.offset.toNat = base + lo := hemit.offset
    have hroom := hemit.room
    have hlen : len ≤ 4 := by
      unfold distanceType at hdistance
      split at hdistance <;> first | decide | cases hdistance
    obtain ⟨⟨i', hat, haims⟩, -⟩ := performRelocation_distance hw hinsn hdistance hemit.bits (by omega) hok
    rw [hoff] at hat
    have hstep := hat.step hholds hlen (Nat.le_refl _) (by omega) mem hs
    refine ⟨1, _, Nat.one_pos, run_succ 0 hstep, ?_⟩
    rw [exec_aims haims mem (by rw [hs, pc_add_distance hw hoff]) rfl, hs, hend, ← Nat.add_assoc,
      ofNat_add_assoc _ (base + lo) len]
    exact ⟨rfl, fun _ => rfl⟩
  | @far c rs1 rs2 len hover hjump hlen hend =>
    have htype : RelocType.jal = rel.type := Option.some.inj hemit.type
    have hoff : rel.offset.toNat = base + (lo + len) := hemit.offset
    have hroom := hemit.room
    have hdistance : distanceType (.jal 0 0) 4 = some rel.type := by
      rw [← htype]
      rfl
    obtain ⟨⟨i', hat, haims⟩, hout⟩ := performRelocation_distance hw hjump hdistance hemit.bits (by omega) hok
    rw [hoff] at hat hout
    have hsame : InsnAt w contents (base + lo) (.branch c.inverse rs1 rs2 (BitVec.ofNat 13 (len + 4))) len := by
      rw [InsnAt, hemit.same lo len (Nat.le_refl _) (by omega) (.inl (Nat.le_refl _))]
      exact hover
    have hfirst := (hsame.frame hout (.inl (by omega))).step hholds hlen (Nat.le_refl _) (by omega) mem hs
    rw [exec, signExtend_small (by omega), Cond.inverse_holds] at hfirst
    have hskip : s.pc + BitVec.ofNat w (len + 4) = secAddr.setWidth w + BitVec.ofNat w (base + hi) := by
      rw [hs, hend, ← ofNat_add_assoc]
      congr 2
      omega
    cases hc : c.holds (s.get rs1) (s.get rs2) with
    | false =>
      rw [hc, hskip] at hfirst
      refine ⟨1, _, Nat.one_pos, run_succ 0 hfirst, ?_⟩
      rw [branchTo, hc]
      exact ⟨rfl, fun _ => rfl⟩
    | true =>
      rw [hc] at hfirst
      -- the jump behind the branch is reached
      have hs' : (s.goto (s.pc + BitVec.ofNat w len)).pc = secAddr.setWidth w + BitVec.ofNat w (base + (lo + len)) := by
        rw [State.goto_pc, hs, ← Nat.add_assoc, ofNat_add_assoc _ (base + lo) len]
      have hsecond := hat.step hholds (by decide) (by omega) (by omega) mem hs'
      rw [exec_aims haims mem (by rw [hs', pc_add_distance hw hoff]) rfl] at hsecond
      refine ⟨2, _, Nat.two_pos, (run_succ 1 hfirst).trans (run_succ 0 hsecond), ?_, ?_⟩
      · rw [branchTo, branchTo, hc]
        rfl
      · intro r
        rw [branchTo, branchTo, State.goto_get, State.goto_get, State.set_get, State.goto_get,
          if_neg fun hr => hr.2 hr.1]

end Run

/-! ## The length -/

/-- The relocation type of the forms that are chosen for their reach: the compressed ones, and the single branch. -/
def formType (uncond : Bool) : Nat → Option RelocType
  | 2 => some (if uncond then .rvcJump else .rvcBranch)
  | 4 => if uncond then none else some .branch
  | _ => none

section Length

theorem toInt_of_add_half_lt {half : Nat} {d : Vma} (hhalf : half ≤ 4096)
    (h : d + BitVec.ofNat 64 half < BitVec.ofNat 64 (2 * half)) : -(half : Int) ≤ d.toInt ∧ d.toInt < half := by
  rw [BitVec.lt_def, BitVec.toNat_add, BitVec.toNat_ofNat, BitVec.toNat_ofNat] at h
  have hlt := d.isLt
  rw [BitVec.toInt_eq_toNat_cond]
  split <;> omega

/-- A form that is chosen for its reach has a target in that reach, and holds the distance unless that is odd. -/
theorem relaxedBranchLength_reach {frag : BranchFrag} {sec : Nat} {type : RelocType}
    (h : formType frag.uncond (relaxedBranchLength frag sec) = some type) :
    ∃ s, frag.symbol = some s ∧ -branchReach type ≤ (frag.distance s).toInt ∧
      (frag.distance s).toInt < branchReach type := by
  unfold relaxedBranchLength at h
  have hworst : formType frag.uncond (if frag.uncond then 4 else 8) = none := by
    cases frag.uncond <;> rfl
  cases hsym : frag.symbol with
  | none =>
    rw [hsym, hworst] at h
    cases h
  | some s =>
    rw [hsym] at h
    dsimp only at h
    generalize hrvc : (if frag.uncond then rvcJumpReach else rvcBranchReach) = rvcRange at h
    generalize (if frag.uncond then 4 else 8) = worst at h hworst
    split at h
    · refine ⟨s, rfl, ?_⟩
      split at h
      · rename_i hrange
        cases huncond : frag.uncond with
        | false =>
          rw [huncond] at h hrvc
          cases h
          rw [← hrvc] at hrange
          exact @toInt_of_add_half_lt 256 _ (by decide) hrange.2
        | true =>
          rw [huncond] at h hrvc
          cases h
          rw [← hrvc] at hrange
          exact @toInt_of_add_half_lt 2048 _ (by decide) hrange.2
      · split at h
        · rename_i hrange
          cases huncond : frag.uncond with
          | false =>
            rw [huncond] at h
            cases h
            exact @toInt_of_add_half_lt 4096 _ (by decide) hrange
          | true =>
            rw [huncond] at h
            cases h
        · split at h
          · cases h
          · rw [hworst] at h
            cases h
    · rw [hworst] at h
      cases h

end Length

/-! ## Control flow is preserved -/

/-- A relaxed frag is always converted.  Once its fixup is resolved, its code from `fix` to `fix + var` does what
its branch or jump does, with the target it was given and the end of the frag as the code behind it; and a form
that is chosen for its reach has the target in reach, so that it can hold every distance that is even. -/
theorem branchRelax_preserves (tgt : Target) (frag : BranchFrag) (i : Instr) (hmade : frag.Made tgt.xlen.bits i)
    (sec : Nat) :
    (∃ literal fix last, mdConvertFragBranch (riscvRelaxFrag frag sec) = some (literal, fix, last) ∧
      last = frag.fix + (riscvRelaxFrag frag sec).var ∧
      ∀ (rel : Rela) (base : Nat) (contents : List Byte) (value secAddr : Vma),
        BranchEmitted fix rel literal frag.fix last base contents →
        (performRelocation tgt rel value secAddr contents).1 = .ok →
        ∀ (fetch : BitVec tgt.xlen.bits → BitVec 64) (mem : BitVec tgt.xlen.bits → BitVec tgt.xlen.bits)
          (s : State tgt.xlen.bits),
          Holds fetch (secAddr.setWidth _) (performRelocation tgt rel value secAddr contents).2 (base + frag.fix)
            (base + last) →
          s.pc = secAddr.setWidth _ + BitVec.ofNat _ (base + frag.fix) →
          ∃ n s', 0 < n ∧ Machine.run fetch mem n s = some s' ∧ SameState s'
            (branchTo ((value + rel.addend).setWidth _) (secAddr.setWidth _ + BitVec.ofNat _ (base + last)) s i)) ∧
    ∀ type, formType frag.uncond (relaxedBranchLength frag sec) = some type →
      ∃ s, frag.symbol = some s ∧ -branchReach type ≤ (frag.distance s).toInt ∧
        (frag.distance s).toInt < branchReach type ∧
        (branchValid type (frag.distance s) = true ↔ (frag.distance s).toNat % 2 = 0) := by
  constructor
  · obtain ⟨literal, fix, hconvert, hcode⟩ := mdConvertFragBranch_code hmade sec
    refine ⟨literal, fix, _, hconvert, rfl, ?_⟩
    intro rel base contents value secAddr hemit hok fetch mem s hholds hs
    have hw : tgt.xlen.bits ≤ 64 := by cases tgt.xlen <;> decide
    exact hcode.run hw hemit hok hholds hs
  · intro type htype
    obtain ⟨s, hsym, hlow, hhigh⟩ := relaxedBranchLength_reach htype
    refine ⟨s, hsym, hlow, hhigh, ?_⟩
    rw [branchValid_iff]
    exact ⟨fun h => h.2, fun h => ⟨⟨hlow, hhigh⟩, h⟩⟩

/-- `beq a0, a1` at address 0 of its section, to a symbol at `value`. -/
def beqFrag (value : Vma) : BranchFrag where
  literal := [0x63, 0x00, 0xb5, 0x00, 0, 0, 0, 0]
  address := 0
  fix := 0
  var := 4
  uncond := false
  rvc := false
  length := 8
  symbol := some ⟨true, false, 0, value⟩
  offset := 0

theorem beqFrag_made (value : Vma) : (beqFrag value).Made 64 (.branch .eq 10 11 0) := by
  have hinsn : InsnAt 64 [0x63, 0x00, 0xb5, 0x00, 0, 0, 0, 0] 0 (.branch .eq 10 11 0) 4 := by
    unfold InsnAt
    decide
  exact ⟨⟨rfl, rfl⟩, hinsn, Nat.le_refl 8⟩

/-- The section of `beqFrag` with its relocation resolved to `0x4000`. -/
def beqFar : List Byte := [0x63, 0x14, 0xb5, 0x00, 0x6f, 0x30, 0xd0, 0x7f]

/-- A branch to a target that is too far for it becomes eight bytes long, and leads there when it is taken. -/
theorem branchRelax_preserves_far :
    relaxedBranchLength (beqFrag 0x4000) 0 = 8 ∧
      ∃ n s', 0 < n ∧ Machine.run (fun pc => getl 8 beqFar pc.toNat) id n ⟨0, fun _ => 7⟩ = some s' ∧
        s'.pc = (0x4000 : BitVec 64) := by
  refine ⟨by decide, ?_⟩
  obtain ⟨⟨literal, fix, last, hconvert, -, hrun⟩, -⟩ :=
    branchRelax_preserves ⟨.rv64, false⟩ (beqFrag 0x4000) _ (beqFrag_made _) 0
  have hresult : mdConvertFragBranch (riscvRelaxFrag (beqFrag 0x4000) 0) =
      some ([0x63, 0x14, 0xb5, 0x00, 0x6f, 0x00, 0x00, 0x00], ⟨4, 4, .jmp⟩, 8) := by decide
  obtain ⟨rfl, htail⟩ := Prod.mk.inj (Option.some.inj (hconvert.symm.trans hresult))
  obtain ⟨rfl, rfl⟩ := Prod.mk.inj htail
  have hreloc : performRelocation ⟨.rv64, false⟩ ⟨4, 0, .jal, 0⟩ 0x4000 0
      [0x63, 0x14, 0xb5, 0x00, 0x6f, 0x00, 0x00, 0x00] = (.ok, beqFar) := by decide
  have hholds : Holds (fun pc => getl 8 beqFar pc.toNat) (0 : BitVec 64) beqFar 0 8 := by
    have htable : ∀ k < 9, ∀ len < 5, k + len ≤ 8 → ∀ j < 8 * len,
        (getl 8 beqFar k).getLsbD j = (getl len beqFar k).getLsbD j := by decide
    intro k len hlen _ hend j hj
    have haddr : ((0 : BitVec 64) + BitVec.ofNat 64 k).toNat = k := by
      rw [BitVec.toNat_add, BitVec.toNat_ofNat, show (0 : BitVec 64).toNat = 0 from rfl]
      omega
    show (getl 8 beqFar ((0 : BitVec 64) + BitVec.ofNat 64 k).toNat).getLsbD j = _
    rw [← htable k (by omega) len (by omega) hend j hj, haddr]
  obtain ⟨n, s', hn, hs', hsame⟩ := hrun ⟨4, 0, .jal, 0⟩ 0 [0x63, 0x14, 0xb5, 0x00, 0x6f, 0x00, 0x00, 0x00] 0x4000 0
    ⟨rfl, rfl, by decide, fun k len _ _ _ => by rw [Nat.zero_add], fun _ _ _ => rfl⟩ (by rw [hreloc])
    (fun pc => getl 8 beqFar pc.toNat) id ⟨0, fun _ => 7⟩ (by rw [hreloc]; exact hholds) rfl
  exact ⟨n, s', hn, hs', hsame.pc.trans rfl⟩

/-- The parity of the distance is not looked at: a branch to an odd address is four bytes long. -/
theorem relaxedBranchLength_odd :
    (beqFrag 1).Made 64 (.branch .eq 10 11 0) ∧ relaxedBranchLength (beqFrag 1) 0 = 4 ∧
      (beqFrag 1).distance ⟨true, false, 0, 1⟩ = 1 ∧ branchValid .branch 1 = false :=
  ⟨beqFrag_made 1, by decide, by decide, by decide⟩

end RiscvBinutils.Gas
