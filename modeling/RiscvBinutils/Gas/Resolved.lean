/-
Instructions in a buffer, and what a branch or jump does once its distance is in it: what the assembler's fixups and
the linker's relocations have in common.
-/
import RiscvBinutils.Bfd.Exact
import RiscvBinutils.Machine.Decode

namespace RiscvBinutils.Gas

open RiscvBinutils.Base RiscvBinutils.Opcode RiscvBinutils.Bfd RiscvBinutils.Machine

/-! ## Instructions in a buffer -/

/-- The instruction of `len` bytes at `k`. -/
def InsnAt (w : Nat) (bytes : List Byte) (k : Nat) (i : Instr) (len : Nat) : Prop :=
  decodeAt w (getl len bytes k) = some (i, len)

section InsnAt

variable {w k len : Nat} {bytes bytes' : List Byte} {i : Instr}

theorem insnAt_putl {insn : Vma} (h : decodeAt w insn = some (i, len)) (hlen : len ≤ 4) (hk : k ≤ bytes.length) :
    InsnAt w (putl len insn bytes k) k i len :=
  decodeAt_congr h fun _ hj => getLsbD_getl_putl insn hk hj (by omega)

theorem InsnAt.frame {lo n : Nat} (h : InsnAt w bytes k i len) (hsame : SameOutside lo n bytes bytes')
    (hapart : k + len ≤ lo ∨ lo + n ≤ k) : InsnAt w bytes' k i len := by
  rw [InsnAt, hsame.getl hapart]
  exact h

/-- The memory holds the bytes from `lo` to `hi`. -/
def Holds (fetch : BitVec w → BitVec 64) (base : BitVec w) (bytes : List Byte) (lo hi : Nat) : Prop :=
  ∀ k len, len ≤ 4 → lo ≤ k → k + len ≤ hi →
    ∀ j < 8 * len, (fetch (base + BitVec.ofNat w k)).getLsbD j = (getl len bytes k).getLsbD j

theorem InsnAt.step {fetch : BitVec w → BitVec 64} {base : BitVec w} {lo hi : Nat} (h : InsnAt w bytes k i len)
    (hholds : Holds fetch base bytes lo hi) (hlen : len ≤ 4) (hlo : lo ≤ k) (hhi : k + len ≤ hi)
    (mem : BitVec w → BitVec w) {s : State w} (hs : s.pc = base + BitVec.ofNat w k) :
    Machine.step fetch mem s = some (exec mem (BitVec.ofNat w len) s i) := by
  have hdecode : decodeAt w (fetch s.pc) = some (i, len) := by
    rw [hs]
    exact decodeAt_congr h (hholds k len hlen hlo hhi)
  rw [Machine.step, hdecode]
  rfl

end InsnAt

/-! ## A fixup resolved -/

/-- The relocation type for the distance of a branch or jump. -/
def distanceType : Instr → Nat → Option RelocType
  | .branch .., 4 => some .branch
  | .branch .., 2 => some .rvcBranch
  | .jal .., 4 => some .jal
  | .jal .., 2 => some .rvcJump
  | _, _ => none

/-- The same branch or jump, with the distance `d`. -/
def Aims {w : Nat} (d : BitVec w) : Instr → Instr → Prop
  | .branch c rs1 rs2 _, .branch c' rs1' rs2' imm => c' = c ∧ rs1' = rs1 ∧ rs2' = rs2 ∧ imm.signExtend w = d
  | .jal rd _, .jal rd' imm => rd' = rd ∧ imm.signExtend w = d
  | _, _ => False

section Reloc

variable {w : Nat} {x y d : Vma}

/-- The bits under no bit of the mask. -/
theorem extractLsb_same {mask : Vma} {n s m : Nat} (h : ∀ i < n, mask.getLsbD i = false → y.getLsbD i = x.getLsbD i)
    (hle : s + m ≤ n) (hmask : ∀ i < m, mask.getLsbD (s + i) = false) : y.extractLsb' s m = x.extractLsb' s m := by
  apply BitVec.eq_of_getLsbD_eq
  intro i hi
  rw [BitVec.getLsbD_extractLsb', BitVec.getLsbD_extractLsb', h (s + i) (by omega) (hmask i hi)]

theorem gather_signExtend {fs es : List Field} {signPos n a : Nat}
    (hformat : SignedFormat 64 fs es signPos (n - 1) n a) (hfs : fs = es ++ [⟨n - 1, 1, signPos⟩]) (hw : w ≤ 64)
    (h : gatherSigned es signPos (n - 1) y = d) : ((gather fs y).setWidth n).signExtend w = d.setWidth w := by
  rw [← h, hformat.gatherSigned_eq_sext hfs, sext, setWidth_signExtend _ hw]

theorem decodeAt_branch {c : Cond} {rs1 rs2 : Reg} {imm : BitVec 13} (hw : w ≤ 64)
    (hx : decodeAt w x = some (.branch c rs1 rs2 imm, 4))
    (hbits : ∀ i < 32, (howto .branch).dstMask.getLsbD i = false → y.getLsbD i = x.getLsbD i)
    (hd : extractBtypeImm y = d) :
    ∃ i', decodeAt w y = some (i', 4) ∧ Aims (d.setWidth w) (.branch c rs1 rs2 imm) i' := by
  obtain ⟨hlow, hdecode⟩ := decodeAt_four hx
  obtain ⟨hop, hfunct, hrs1, hrs2, -⟩ := decode_branch_iff.mp hdecode
  have hsame {s m : Nat} := @extractLsb_same x y (howto .branch).dstMask 32 s m hbits
  have hy : decode w y = some (.branch c rs1 rs2 ((gather branchFields y).setWidth 13)) := by
    refine decode_branch_iff.mpr ⟨?_, ?_, ?_, ?_, rfl⟩
    · rw [hsame (by decide) (by decide), hop]
    · rw [funct3Of, hsame (by decide) (by decide)]
      exact hfunct
    · rw [rs1Of, hsame (by decide) (by decide)]
      exact hrs1
    · rw [rs2Of, hsame (by decide) (by decide)]
      exact hrs2
  refine ⟨.branch c rs1 rs2 ((gather branchFields y).setWidth 13), ?_, rfl, rfl, rfl,
    gather_signExtend btype_format rfl hw hd⟩
  rw [decodeAt, hsame (by decide) (by decide), if_pos hlow, hy]
  rfl

theorem decodeAt_jal {rd : Reg} {imm : BitVec 21} (hw : w ≤ 64) (hx : decodeAt w x = some (.jal rd imm, 4))
    (hbits : ∀ i < 32, (howto .jal).dstMask.getLsbD i = false → y.getLsbD i = x.getLsbD i)
    (hd : extractJtypeImm y = d) :
    ∃ i', decodeAt w y = some (i', 4) ∧ Aims (d.setWidth w) (.jal rd imm) i' := by
  obtain ⟨hlow, hdecode⟩ := decodeAt_four hx
  obtain ⟨hop, hrd, -⟩ := decode_jal_iff.mp hdecode
  have hsame {s m : Nat} := @extractLsb_same x y (howto .jal).dstMask 32 s m hbits
  have hy : decode w y = some (.jal rd ((gather jalFields y).setWidth 21)) := by
    refine decode_jal_iff.mpr ⟨?_, ?_, rfl⟩
    · rw [hsame (by decide) (by decide), hop]
    · rw [Machine.rdOf, hsame (by decide) (by decide)]
      exact hrd
  refine ⟨.jal rd ((gather jalFields y).setWidth 21), ?_, rfl, gather_signExtend jtype_format rfl hw hd⟩
  rw [decodeAt, hsame (by decide) (by decide), if_pos hlow, hy]
  rfl

theorem decodeAt_rvcBranch {c : Cond} {rs1 rs2 : Reg} {imm : BitVec 13} (hw : w ≤ 64)
    (hx : decodeAt w x = some (.branch c rs1 rs2 imm, 2))
    (hbits : ∀ i < 16, (howto .rvcBranch).dstMask.getLsbD i = false → y.getLsbD i = x.getLsbD i)
    (hd : extractCbtypeImm y = d) :
    ∃ i', decodeAt w y = some (i', 2) ∧ Aims (d.setWidth w) (.branch c rs1 rs2 imm) i' := by
  obtain ⟨hlow, hdecode⟩ := decodeAt_two hx
  obtain ⟨hone, hfunct, hrs1, hrs2, -⟩ := decodeCompressed_branch_iff.mp hdecode
  have hsame {s m : Nat} := @extractLsb_same x y (howto .rvcBranch).dstMask 16 s m hbits
  have hy : decodeCompressed w y = some (.branch c rs1 rs2 (cbImmOf y)) := by
    refine decodeCompressed_branch_iff.mpr ⟨?_, ?_, ?_, hrs2, rfl⟩
    · rw [hsame (by decide) (by decide), hone]
    · rw [hsame (by decide) (by decide)]
      exact hfunct
    · rw [rs1cOf, hsame (by decide) (by decide)]
      exact hrs1
  refine ⟨.branch c rs1 rs2 (cbImmOf y), ?_, rfl, rfl, rfl, ?_⟩
  · rw [decodeAt, hsame (by decide) (by decide), if_neg hlow, hy]
    rfl
  · rw [cbImmOf, signExtend_signExtend _ (by decide)]
    exact gather_signExtend cbtype_format rfl hw hd

theorem decodeAt_rvcJump {rd : Reg} {imm : BitVec 21} (hw : w ≤ 64) (hx : decodeAt w x = some (.jal rd imm, 2))
    (hbits : ∀ i < 16, (howto .rvcJump).dstMask.getLsbD i = false → y.getLsbD i = x.getLsbD i)
    (hd : extractCjtypeImm y = d) :
    ∃ i', decodeAt w y = some (i', 2) ∧ Aims (d.setWidth w) (.jal rd imm) i' := by
  obtain ⟨hlow, hdecode⟩ := decodeAt_two hx
  obtain ⟨hone, hfunct, -⟩ := decodeCompressed_jal_iff.mp hdecode
  have hsame {s m : Nat} := @extractLsb_same x y (howto .rvcJump).dstMask 16 s m hbits
  have hy : decodeCompressed w y = some (.jal rd (cjImmOf y)) := by
    refine decodeCompressed_jal_iff.mpr ⟨?_, ?_, rfl⟩
    · rw [hsame (by decide) (by decide), hone]
    · rw [hsame (by decide) (by decide)]
      exact hfunct
  refine ⟨.jal rd (cjImmOf y), ?_, rfl, ?_⟩
  · rw [decodeAt, hsame (by decide) (by decide), if_neg hlow, hy]
    rfl
  · rw [cjImmOf, signExtend_signExtend _ (by decide)]
    exact gather_signExtend cjtype_format rfl hw hd

/-- A branch or jump that is given the distance `d` and is otherwise left as it is. -/
theorem decodeAt_distance {i : Instr} {len : Nat} {type : RelocType} (hw : w ≤ 64)
    (hx : decodeAt w x = some (i, len)) (htype : distanceType i len = some type)
    (hbits : ∀ j < 8 * len, (howto type).dstMask.getLsbD j = false → y.getLsbD j = x.getLsbD j)
    (hd : jumpImm type y = d) : ∃ i', decodeAt w y = some (i', len) ∧ Aims (d.setWidth w) i i' := by
  unfold distanceType at htype
  split at htype
  · cases htype
    exact decodeAt_branch hw hx hbits hd
  · cases htype
    exact decodeAt_rvcBranch hw hx hbits hd
  · cases htype
    exact decodeAt_jal hw hx hbits hd
  · cases htype
    exact decodeAt_rvcJump hw hx hbits hd
  · cases htype

theorem distanceType_howto {i : Instr} {len : Nat} {type : RelocType} (htype : distanceType i len = some type) :
    type.isJump ∧ (howto type).bitsize = 8 * len ∧ (howto type).pcRelative = true := by
  unfold distanceType at htype
  split at htype
  · cases htype
    decide
  · cases htype
    decide
  · cases htype
    decide
  · cases htype
    decide
  · cases htype

/-- Resolving the fixup of a branch or jump gives it the distance to the target and leaves the rest of it. -/
theorem performRelocation_distance {tgt : Target} {bytes : List Byte} {len : Nat} {i : Instr} {rel : Rela}
    {value secAddr : Vma} (hw : w ≤ 64) (hx : decodeAt w x = some (i, len)) (htype : distanceType i len = some rel.type)
    (hbits : ∀ j < 8 * len, (howto rel.type).dstMask.getLsbD j = false →
      (getl len bytes rel.offset.toNat).getLsbD j = x.getLsbD j)
    (hin : rel.offset.toNat + len ≤ bytes.length) (hok : (performRelocation tgt rel value secAddr bytes).1 = .ok) :
    (∃ i', InsnAt w (performRelocation tgt rel value secAddr bytes).2 rel.offset.toNat i' len ∧
      Aims ((value + rel.addend - (secAddr + rel.offset)).setWidth w) i i') ∧
      SameOutside rel.offset.toNat len bytes (performRelocation tgt rel value secAddr bytes).2 := by
  obtain ⟨hjump, hsize, hpc⟩ := distanceType_howto htype
  have hbytes : (howto rel.type).bitsize / 8 = len := by omega
  have hplaced : Placed tgt rel value secAddr bytes _ _ := placed_jump value secAddr hjump (hbytes.symm ▸ hin)
  have hfield := hplaced.field (hplaced.ok.mp hok)
  have hkept := hplaced.bits
  have hout := hplaced.outside
  rw [insnWord, hbytes, relocValue, hpc, if_pos rfl,
    show value - (secAddr + rel.offset) + rel.addend = value + rel.addend - (secAddr + rel.offset) by grind] at hfield
  rw [insnWord, insnWord, hbytes, hsize] at hkept
  rw [hbytes] at hout
  refine ⟨decodeAt_distance hw hx htype (fun j hj hmask => ?_) hfield, hout⟩
  rw [hkept j hj hmask, hbits j hj hmask]

end Reloc

/-! ## The run of a branch or jump -/

/-- What the branch or jump does, whatever the distance, with its target at `target` and the next code at `after`. -/
def branchTo {w : Nat} (target after : BitVec w) (s : State w) : Instr → State w
  | .branch c rs1 rs2 _ => s.goto (if c.holds (s.get rs1) (s.get rs2) then target else after)
  | .jal rd _ => (s.set rd after).goto target
  | _ => s

section Run

variable {w : Nat}

/-- The distance leads from the place of the relocation to the target. -/
theorem pc_add_distance (hw : w ≤ 64) {target secAddr off : Vma} {n : Nat} (hoff : off.toNat = n) :
    secAddr.setWidth w + BitVec.ofNat w n + (target - (secAddr + off)).setWidth w = target.setWidth w := by
  have hn : BitVec.ofNat w n = off.setWidth w := by
    apply BitVec.eq_of_toNat_eq
    rw [BitVec.toNat_ofNat, BitVec.toNat_setWidth, hoff]
  rw [hn, ← BitVec.setWidth_add _ _ hw, ← BitVec.setWidth_add _ _ hw]
  congr 1
  grind

theorem exec_aims {d target after : BitVec w} {i i' : Instr} {len : Nat} (h : Aims d i i') (mem : BitVec w → BitVec w)
    {s : State w} (htarget : s.pc + d = target) (hafter : s.pc + BitVec.ofNat w len = after) :
    exec mem (BitVec.ofNat w len) s i' = branchTo target after s i := by
  unfold Aims at h
  split at h
  · obtain ⟨rfl, rfl, rfl, hd⟩ := h
    rw [exec, hd, htarget, hafter]
    rfl
  · obtain ⟨rfl, hd⟩ := h
    rw [exec, hd, htarget, hafter]
    rfl
  · exact h.elim

end Run

end RiscvBinutils.Gas
