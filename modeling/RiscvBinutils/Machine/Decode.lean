/-
The encodings of the instructions, and execution from memory.
An instruction word is held in 64 bits; only its own 16 or 32 bits are read.
-/
import RiscvBinutils.Base.Bits
import RiscvBinutils.Machine.Exec

namespace RiscvBinutils.Machine

open RiscvBinutils.Base

/-- An instruction after which the next one follows. -/
def Instr.straight : Instr → Bool
  | .jal .. | .jalr .. | .branch .. => false
  | _ => true

/-! ## Immediates -/

/-- The distance in a branch: twelve bits and a zero below them. -/
def branchFields : List Field := [⟨1, 4, 8⟩, ⟨5, 6, 25⟩, ⟨11, 1, 7⟩, ⟨12, 1, 31⟩]

def jalFields : List Field := [⟨1, 10, 21⟩, ⟨11, 1, 20⟩, ⟨12, 8, 12⟩, ⟨20, 1, 31⟩]

/-- The distance in `c.beqz` and `c.bnez`. -/
def cbFields : List Field := [⟨1, 2, 3⟩, ⟨3, 2, 10⟩, ⟨5, 1, 2⟩, ⟨6, 2, 5⟩, ⟨8, 1, 12⟩]

/-- The distance in `c.j` and `c.jal`. -/
def cjFields : List Field :=
  [⟨1, 3, 3⟩, ⟨4, 1, 11⟩, ⟨5, 1, 2⟩, ⟨6, 1, 7⟩, ⟨7, 1, 6⟩, ⟨8, 2, 9⟩, ⟨10, 1, 8⟩, ⟨11, 1, 12⟩]

/-! ## Decoding -/

def condOf (funct3 : BitVec 3) : Option Cond :=
  if funct3 = 0 then some .eq
  else if funct3 = 1 then some .ne
  else if funct3 = 4 then some .lt
  else if funct3 = 5 then some .ge
  else if funct3 = 6 then some .ltu
  else if funct3 = 7 then some .geu
  else none

section Fields

variable (insn : BitVec 64)

def rdOf : Reg := insn.extractLsb' 7 5
def funct3Of : BitVec 3 := insn.extractLsb' 12 3
def rs1Of : Reg := insn.extractLsb' 15 5
def rs2Of : Reg := insn.extractLsb' 20 5
def immOf : BitVec 12 := insn.extractLsb' 20 12
def upperOf : BitVec 20 := insn.extractLsb' 12 20
def shamtOf : BitVec 6 := insn.extractLsb' 20 6

end Fields

/-- A load of a whole register: `lw` fills one of 32 bits, `ld` one of 64. -/
def decodeLoad (w : Nat) (insn : BitVec 64) : Option Instr :=
  if funct3Of insn = (if w = 32 then 2 else 3) then some (.load (rdOf insn) (rs1Of insn) (immOf insn)) else none

def decodeOpImm (w : Nat) (insn : BitVec 64) : Option Instr :=
  if funct3Of insn = 0 then some (.addi (rdOf insn) (rs1Of insn) (immOf insn))
  else if insn.extractLsb' 26 6 = 0#6 ∧ (w = 32 → (shamtOf insn).toNat < 32) then
    if funct3Of insn = 1 then some (.slli (rdOf insn) (rs1Of insn) (shamtOf insn))
    else if funct3Of insn = 5 then some (.srli (rdOf insn) (rs1Of insn) (shamtOf insn))
    else none
  else none

/-- A 32-bit instruction of a machine with registers of `w` bits, by its opcode. -/
def decode (w : Nat) (insn : BitVec 64) : Option Instr :=
  match (insn.extractLsb' 0 7).toNat with
  | 0x37 => some (.lui (rdOf insn) (upperOf insn))
  | 0x17 => some (.auipc (rdOf insn) (upperOf insn))
  | 0x6f => some (.jal (rdOf insn) ((gather jalFields insn).setWidth 21))
  | 0x67 => if funct3Of insn = 0 then some (.jalr (rdOf insn) (rs1Of insn) (immOf insn)) else none
  | 0x63 =>
    (condOf (funct3Of insn)).map fun c =>
      .branch c (rs1Of insn) (rs2Of insn) ((gather branchFields insn).setWidth 13)
  | 0x03 => decodeLoad w insn
  | 0x13 => decodeOpImm w insn
  | 0x1b => if funct3Of insn = 0 ∧ w ≠ 32 then some (.addiw (rdOf insn) (rs1Of insn) (immOf insn)) else none
  | 0x33 =>
    if funct3Of insn = 0 ∧ insn.extractLsb' 25 7 = 0x20#7 then some (.sub (rdOf insn) (rs1Of insn) (rs2Of insn))
    else none
  | _ => none

section Decode

variable {w : Nat} {insn : BitVec 64}

theorem decode_auipc (hop : insn.extractLsb' 0 7 = 0x17#7) :
    decode w insn = some (.auipc (rdOf insn) (upperOf insn)) := by
  rw [decode, hop]
  rfl

theorem decode_addi (hop : insn.extractLsb' 0 7 = 0x13#7) (hfunct : funct3Of insn = 0) :
    decode w insn = some (.addi (rdOf insn) (rs1Of insn) (immOf insn)) := by
  rw [decode, hop]
  exact if_pos hfunct

theorem decode_load (hop : insn.extractLsb' 0 7 = 0x03#7) (hfunct : funct3Of insn = if w = 32 then 2 else 3) :
    decode w insn = some (.load (rdOf insn) (rs1Of insn) (immOf insn)) := by
  rw [decode, hop]
  exact if_pos hfunct

theorem decode_jalr (hop : insn.extractLsb' 0 7 = 0x67#7) (hfunct : funct3Of insn = 0) :
    decode w insn = some (.jalr (rdOf insn) (rs1Of insn) (immOf insn)) := by
  rw [decode, hop]
  exact if_pos hfunct

theorem decodeLoad_straight {i : Instr} (h : decodeLoad w insn = some i) : i.straight := by
  unfold decodeLoad at h
  by_cases hfunct : funct3Of insn = if w = 32 then 2 else 3
  · rw [if_pos hfunct] at h
    cases h
    rfl
  · rw [if_neg hfunct] at h
    cases h

theorem decodeOpImm_straight {i : Instr} (h : decodeOpImm w insn = some i) : i.straight := by
  unfold decodeOpImm at h
  split at h
  · cases h
    rfl
  · split at h
    · split at h
      · cases h
        rfl
      · split at h
        · cases h
          rfl
        · cases h
    · cases h

/-- The opcode says whether it is a jump or a branch. -/
theorem decode_straight {i : Instr} (h : decode w insn = some i) :
    i.straight ∨ (insn.extractLsb' 0 7 = 0x6f#7 ∧ i = .jal (rdOf insn) ((gather jalFields insn).setWidth 21)) ∨
      (insn.extractLsb' 0 7 = 0x67#7 ∧ i = .jalr (rdOf insn) (rs1Of insn) (immOf insn)) ∨
      (insn.extractLsb' 0 7 = 0x63#7 ∧ ∃ c, condOf (funct3Of insn) = some c ∧
        i = .branch c (rs1Of insn) (rs2Of insn) ((gather branchFields insn).setWidth 13)) := by
  unfold decode at h
  split at h
  · cases h
    exact .inl rfl
  · cases h
    exact .inl rfl
  · rename_i hop
    cases h
    exact .inr (.inl ⟨BitVec.eq_of_toNat_eq hop, rfl⟩)
  · rename_i hop
    split at h
    · cases h
      exact .inr (.inr (.inl ⟨BitVec.eq_of_toNat_eq hop, rfl⟩))
    · cases h
  · rename_i hop
    obtain ⟨c, hc, rfl⟩ := Option.map_eq_some_iff.mp h
    exact .inr (.inr (.inr ⟨BitVec.eq_of_toNat_eq hop, c, hc, rfl⟩))
  · exact .inl (decodeLoad_straight h)
  · exact .inl (decodeOpImm_straight h)
  · split at h
    · cases h
      exact .inl rfl
    · cases h
  · split at h
    · cases h
      exact .inl rfl
    · cases h
  · cases h

theorem decode_branch_iff {c : Cond} {rs1 rs2 : Reg} {imm : BitVec 13} :
    decode w insn = some (.branch c rs1 rs2 imm) ↔
      insn.extractLsb' 0 7 = 0x63#7 ∧ condOf (funct3Of insn) = some c ∧ rs1Of insn = rs1 ∧ rs2Of insn = rs2 ∧
        (gather branchFields insn).setWidth 13 = imm := by
  constructor
  · intro h
    rcases decode_straight h with hs | ⟨-, hi⟩ | ⟨-, hi⟩ | ⟨hop, c', hc', hi⟩
    · exact absurd hs Bool.false_ne_true
    · cases hi
    · cases hi
    · obtain ⟨rfl, rfl, rfl, rfl⟩ := Instr.branch.inj hi
      exact ⟨hop, hc', rfl, rfl, rfl⟩
  · rintro ⟨hop, hfunct, rfl, rfl, rfl⟩
    rw [decode, hop]
    change (condOf (funct3Of insn)).map _ = _
    rw [hfunct]
    rfl

theorem decode_jal_iff {rd : Reg} {imm : BitVec 21} :
    decode w insn = some (.jal rd imm) ↔
      insn.extractLsb' 0 7 = 0x6f#7 ∧ rdOf insn = rd ∧ (gather jalFields insn).setWidth 21 = imm := by
  constructor
  · intro h
    rcases decode_straight h with hs | ⟨hop, hi⟩ | ⟨-, hi⟩ | ⟨-, c', -, hi⟩
    · exact absurd hs Bool.false_ne_true
    · obtain ⟨rfl, rfl⟩ := Instr.jal.inj hi
      exact ⟨hop, rfl, rfl⟩
    · cases hi
    · cases hi
  · rintro ⟨hop, rfl, rfl⟩
    rw [decode, hop]
    rfl

end Decode

/-- A register of three bits is one of `x8` to `x15`. -/
def rs1cOf (insn : BitVec 64) : Reg := 8 + (insn.extractLsb' 7 3 : BitVec 3).setWidth 5

def cjImmOf (insn : BitVec 64) : BitVec 21 := ((gather cjFields insn).setWidth 12).signExtend 21
def cbImmOf (insn : BitVec 64) : BitVec 13 := ((gather cbFields insn).setWidth 9).signExtend 13

/-- A compressed instruction, by the one it stands for. -/
def decodeCompressed (w : Nat) (insn : BitVec 64) : Option Instr :=
  match (insn.extractLsb' 0 2).toNat, (insn.extractLsb' 13 3).toNat with
  | 1, 5 => some (.jal 0 (cjImmOf insn))
  | 1, 1 => if w = 32 then some (.jal 1 (cjImmOf insn)) else none
  | 1, 6 => some (.branch .eq (rs1cOf insn) 0 (cbImmOf insn))
  | 1, 7 => some (.branch .ne (rs1cOf insn) 0 (cbImmOf insn))
  | _, _ => none

section Compressed

variable {w : Nat} {insn : BitVec 64}

/-- Only the two compressed branches decode as branches. -/
theorem decodeCompressed_branch_iff {c : Cond} {rs1 rs2 : Reg} {imm : BitVec 13} :
    decodeCompressed w insn = some (.branch c rs1 rs2 imm) ↔
      insn.extractLsb' 0 2 = 1#2 ∧ ((insn.extractLsb' 13 3 = 6#3 ∧ c = .eq) ∨ (insn.extractLsb' 13 3 = 7#3 ∧ c = .ne)) ∧
        rs1cOf insn = rs1 ∧ rs2 = 0 ∧ cbImmOf insn = imm := by
  constructor
  · intro h
    unfold decodeCompressed at h
    split at h
    · cases h
    · split at h
      · cases h
      · cases h
    · rename_i hlow hfunct
      obtain ⟨rfl, rfl, rfl, rfl⟩ := Instr.branch.inj (Option.some.inj h)
      exact ⟨BitVec.eq_of_toNat_eq hlow, .inl ⟨BitVec.eq_of_toNat_eq hfunct, rfl⟩, rfl, rfl, rfl⟩
    · rename_i hlow hfunct
      obtain ⟨rfl, rfl, rfl, rfl⟩ := Instr.branch.inj (Option.some.inj h)
      exact ⟨BitVec.eq_of_toNat_eq hlow, .inr ⟨BitVec.eq_of_toNat_eq hfunct, rfl⟩, rfl, rfl, rfl⟩
    · cases h
  · rintro ⟨hlow, hfunct, rfl, rfl, rfl⟩
    rcases hfunct with ⟨hfunct, rfl⟩ | ⟨hfunct, rfl⟩
    · rw [decodeCompressed, hlow, hfunct]
      rfl
    · rw [decodeCompressed, hlow, hfunct]
      rfl

/-- Only the two compressed jumps decode as jumps. -/
theorem decodeCompressed_jal_iff {rd : Reg} {imm : BitVec 21} :
    decodeCompressed w insn = some (.jal rd imm) ↔
      insn.extractLsb' 0 2 = 1#2 ∧ ((insn.extractLsb' 13 3 = 5#3 ∧ rd = 0) ∨
        (insn.extractLsb' 13 3 = 1#3 ∧ w = 32 ∧ rd = 1)) ∧ cjImmOf insn = imm := by
  constructor
  · intro h
    unfold decodeCompressed at h
    split at h
    · rename_i hlow hfunct
      obtain ⟨rfl, rfl⟩ := Instr.jal.inj (Option.some.inj h)
      exact ⟨BitVec.eq_of_toNat_eq hlow, .inl ⟨BitVec.eq_of_toNat_eq hfunct, rfl⟩, rfl⟩
    · rename_i hlow hfunct
      split at h
      · rename_i hw
        obtain ⟨rfl, rfl⟩ := Instr.jal.inj (Option.some.inj h)
        exact ⟨BitVec.eq_of_toNat_eq hlow, .inr ⟨BitVec.eq_of_toNat_eq hfunct, hw, rfl⟩, rfl⟩
      · cases h
    · cases h
    · cases h
    · cases h
  · rintro ⟨hlow, hfunct, rfl⟩
    rcases hfunct with ⟨hfunct, rfl⟩ | ⟨hfunct, hw, rfl⟩
    · rw [decodeCompressed, hlow, hfunct]
      rfl
    · rw [decodeCompressed, hlow, hfunct]
      exact if_pos hw

end Compressed

/-- The instruction at an address and its length: the two lowest bits of a 32-bit one are set. -/
def decodeAt (w : Nat) (insn : BitVec 64) : Option (Instr × Nat) :=
  if insn.extractLsb' 0 2 = 3#2 then (decode w insn).map (·, 4) else (decodeCompressed w insn).map (·, 2)

/-! ## Only the bits of the instruction are read -/

section Congr

variable {w : Nat} {x y : BitVec 64}

theorem extractLsb_congr {n : Nat} (h : ∀ i < n, x.getLsbD i = y.getLsbD i) {s m : Nat} (hle : s + m ≤ n) :
    x.extractLsb' s m = y.extractLsb' s m := by
  apply BitVec.eq_of_getLsbD_eq
  intro i hi
  rw [BitVec.getLsbD_extractLsb', BitVec.getLsbD_extractLsb', h (s + i) (by omega)]

theorem gather_congr_low {n : Nat} {fs : List Field} (h : ∀ i < n, x.getLsbD i = y.getLsbD i) (hf : Fits 64 fs)
    (hlow : ∀ f ∈ fs, f.pos + f.width ≤ n) : gather fs x = gather fs y := by
  refine gather_congr hf fun f hmem i hi => h _ ?_
  have := hlow f hmem
  omega

theorem decode_congr (h : ∀ i < 32, x.getLsbD i = y.getLsbD i) : decode w x = decode w y := by
  have hbits {s m : Nat} (hle : s + m ≤ 32) : x.extractLsb' s m = y.extractLsb' s m := extractLsb_congr h hle
  unfold decode decodeLoad decodeOpImm rdOf funct3Of rs1Of rs2Of immOf upperOf shamtOf
  rw [gather_congr_low h (by decide : Fits 64 jalFields) (by decide),
    gather_congr_low h (by decide : Fits 64 branchFields) (by decide)]
  simp only [@hbits 0 7 (by decide), @hbits 7 5 (by decide), @hbits 12 3 (by decide), @hbits 15 5 (by decide),
    @hbits 20 5 (by decide), @hbits 20 12 (by decide), @hbits 12 20 (by decide), @hbits 20 6 (by decide),
    @hbits 26 6 (by decide), @hbits 25 7 (by decide)]

theorem decodeCompressed_congr (h : ∀ i < 16, x.getLsbD i = y.getLsbD i) :
    decodeCompressed w x = decodeCompressed w y := by
  have hbits {s m : Nat} (hle : s + m ≤ 16) : x.extractLsb' s m = y.extractLsb' s m := extractLsb_congr h hle
  unfold decodeCompressed rs1cOf cjImmOf cbImmOf
  rw [gather_congr_low h (by decide : Fits 64 cjFields) (by decide),
    gather_congr_low h (by decide : Fits 64 cbFields) (by decide)]
  simp only [@hbits 0 2 (by decide), @hbits 13 3 (by decide), @hbits 7 3 (by decide)]

/-- An instruction of `len` bytes is told by its own bits. -/
theorem decodeAt_congr {i : Instr} {len : Nat} (h : decodeAt w x = some (i, len))
    (hsame : ∀ k < 8 * len, y.getLsbD k = x.getLsbD k) : decodeAt w y = some (i, len) := by
  unfold decodeAt at h
  split at h
  · rename_i hlow
    obtain ⟨j, hj, hpair⟩ := Option.map_eq_some_iff.mp h
    obtain ⟨rfl, rfl⟩ := Prod.mk.inj hpair
    rw [decodeAt, extractLsb_congr hsame (by decide), if_pos hlow, decode_congr hsame, hj]
    rfl
  · rename_i hlow
    obtain ⟨j, hj, hpair⟩ := Option.map_eq_some_iff.mp h
    obtain ⟨rfl, rfl⟩ := Prod.mk.inj hpair
    rw [decodeAt, extractLsb_congr hsame (by decide), if_neg hlow, decodeCompressed_congr hsame, hj]
    rfl

theorem decodeAt_four {i : Instr} (h : decodeAt w x = some (i, 4)) : x.extractLsb' 0 2 = 3#2 ∧ decode w x = some i := by
  unfold decodeAt at h
  split at h
  · rename_i hlow
    obtain ⟨j, hj, hpair⟩ := Option.map_eq_some_iff.mp h
    obtain ⟨rfl, -⟩ := Prod.mk.inj hpair
    exact ⟨hlow, hj⟩
  · obtain ⟨j, hj, hpair⟩ := Option.map_eq_some_iff.mp h
    exact absurd (Prod.mk.inj hpair).2 (by decide)

theorem decodeAt_two {i : Instr} (h : decodeAt w x = some (i, 2)) :
    x.extractLsb' 0 2 ≠ 3#2 ∧ decodeCompressed w x = some i := by
  unfold decodeAt at h
  split at h
  · obtain ⟨j, hj, hpair⟩ := Option.map_eq_some_iff.mp h
    exact absurd (Prod.mk.inj hpair).2 (by decide)
  · rename_i hlow
    obtain ⟨j, hj, hpair⟩ := Option.map_eq_some_iff.mp h
    obtain ⟨rfl, -⟩ := Prod.mk.inj hpair
    exact ⟨hlow, hj⟩

end Congr

section Run

variable {w : Nat}

/-- One step; `fetch` is the instruction word at an address. -/
def step (fetch : BitVec w → BitVec 64) (mem : BitVec w → BitVec w) (s : State w) : Option (State w) :=
  (decodeAt w (fetch s.pc)).map fun i => exec mem (BitVec.ofNat w i.2) s i.1

def run (fetch : BitVec w → BitVec 64) (mem : BitVec w → BitVec w) : Nat → State w → Option (State w)
  | 0, s => some s
  | n + 1, s => (step fetch mem s).bind (run fetch mem n)

theorem run_succ {fetch : BitVec w → BitVec 64} {mem : BitVec w → BitVec w} {s s' : State w} (n : Nat)
    (h : step fetch mem s = some s') : run fetch mem (n + 1) s = run fetch mem n s' := by
  rw [run, h]
  rfl

/-- A step on a 32-bit instruction. -/
theorem step_of_decode {fetch : BitVec w → BitVec 64} {mem : BitVec w → BitVec w} {s : State w} {i : Instr}
    (hlow : (fetch s.pc).extractLsb' 0 2 = 3#2) (hdecode : decode w (fetch s.pc) = some i) :
    step fetch mem s = some (exec mem 4 s i) := by
  rw [step, decodeAt, if_pos hlow, hdecode]
  rfl

theorem exec_pc_of_straight {i : Instr} (hi : i.straight) (mem : BitVec w → BitVec w) (len : BitVec w) (s : State w) :
    (exec mem len s i).pc = s.pc + len := by
  cases i <;> first | rfl | exact absurd hi Bool.false_ne_true

/-- Instructions that stand one after the other are executed one after the other. -/
theorem run_execAll {fetch : BitVec w → BitVec 64} {mem : BitVec w → BitVec w} {code : List Instr}
    (hstraight : ∀ i ∈ code.dropLast, i.straight) : ∀ {base : BitVec w} {s : State w}, s.pc = base →
    (∀ k i, code[k]? = some i → (fetch (base + BitVec.ofNat w (4 * k))).extractLsb' 0 2 = 3#2 ∧
      decode w (fetch (base + BitVec.ofNat w (4 * k))) = some i) →
    run fetch mem code.length s = some (execAll mem s code) := by
  induction code with
  | nil =>
    intro base s _ _
    rfl
  | cons i code ih =>
    intro base s hs hfetch
    have hfirst := hfetch 0 i rfl
    rw [Nat.mul_zero, show base + BitVec.ofNat w 0 = s.pc by rw [hs]; exact BitVec.add_zero base] at hfirst
    have hstep : step fetch mem s = some (exec mem 4 s i) := step_of_decode hfirst.1 hfirst.2
    rw [List.length_cons, run_succ _ hstep, execAll_cons]
    cases code with
    | nil => rfl
    | cons j code =>
      have hpc := exec_pc_of_straight (hstraight i (by simp)) mem 4 s
      refine @ih (fun k hk => hstraight k ?_) (base + 4) _ (by rw [hpc, hs]) fun k l hl => ?_
      · rw [List.dropLast_cons_of_ne_nil (by simp)]
        exact List.mem_cons_of_mem _ hk
      · have hnext := hfetch (k + 1) l hl
        have haddr : base + BitVec.ofNat w (4 * (k + 1)) = base + 4 + BitVec.ofNat w (4 * k) := by
          rw [Nat.mul_succ, BitVec.ofNat_add, BitVec.add_assoc, BitVec.add_comm (BitVec.ofNat w (4 * k))]
          rfl
        rwa [haddr] at hnext

end Run

end RiscvBinutils.Machine
