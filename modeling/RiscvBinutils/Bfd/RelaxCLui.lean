/-
Upper immediates in compressed instructions (bfd/elfnn-riscv.c, `_bfd_riscv_relax_lui` and the `R_RISCV_RVC_LUI`
case of `perform_relocation`).
The symbol may be anywhere when the C.LUI is relocated; where its high part has become zero, the instruction becomes
a C.LI.
-/
import RiscvBinutils.Bfd.RelaxCall

namespace RiscvBinutils.Bfd

open RiscvBinutils.Base RiscvBinutils.Opcode RiscvBinutils.Machine RiscvBinutils.Gas

/-! ## The instructions -/

/-- The six bits of the immediate. -/
def ciFields : List Field := [⟨0, 5, 2⟩, ⟨5, 1, 12⟩]

def ciImmOf (insn : Vma) : BitVec 6 := (gather ciFields insn).setWidth 6

/-- C.LI and C.LUI, by the instructions they stand for.  With `x0` both are hints, C.LUI with `sp` is another
instruction, and its immediate is not to be zero. -/
def decodeCi (insn : Vma) : Option Instr :=
  let rd := Machine.rdOf insn
  if insn.extractLsb' 0 2 = 1#2 ∧ rd ≠ 0 then
    if insn.extractLsb' 13 3 = 2#3 then some (.addi rd 0 ((ciImmOf insn).signExtend 12))
    else if insn.extractLsb' 13 3 = 3#3 ∧ rd ≠ 2 ∧ ciImmOf insn ≠ 0 then
      some (.lui rd ((ciImmOf insn).signExtend 20))
    else none
  else none

section Decode

variable {insn : Vma}

theorem extractCitypeImm_eq (insn : Vma) : extractCitypeImm insn = (ciImmOf insn).signExtend 64 := by
  have hformat : SignedFormat 64 ciFields [⟨0, 5, 2⟩] 12 (6 - 1) 6 0 := citype_format
  exact hformat.gatherSigned_eq_sext rfl insn

/-- The value that C.LUI loads. -/
theorem upper_ciImm {w : Nat} (hw : w ≤ 64) (insn : Vma) :
    upper w ((ciImmOf insn).signExtend 20) = (extractCitypeLuiImm insn).setWidth w := by
  rw [extractCitypeLuiImm, extractCitypeImm_eq, upper]
  generalize ciImmOf insn = imm
  have h64 : ((imm.signExtend 20) ++ (0 : BitVec 12)).signExtend 64 = imm.signExtend 64 <<< 12 := by
    revert imm
    decide
  rw [← h64, setWidth_signExtend _ hw]

theorem decodeCi_cli (hop : insn.extractLsb' 0 2 = 1#2) (hfunct : insn.extractLsb' 13 3 = 2#3)
    (hrd : Machine.rdOf insn ≠ 0) :
    decodeCi insn = some (.addi (Machine.rdOf insn) 0 ((ciImmOf insn).signExtend 12)) := by
  rw [decodeCi, if_pos ⟨hop, hrd⟩, if_pos hfunct]

theorem decodeCi_clui (hop : insn.extractLsb' 0 2 = 1#2) (hfunct : insn.extractLsb' 13 3 = 3#3)
    (hrd : Machine.rdOf insn ≠ 0) (hsp : Machine.rdOf insn ≠ 2) (himm : ciImmOf insn ≠ 0) :
    decodeCi insn = some (.lui (Machine.rdOf insn) ((ciImmOf insn).signExtend 20)) := by
  rw [decodeCi, if_pos ⟨hop, hrd⟩, if_neg (by rw [hfunct]; decide), if_pos ⟨hfunct, hsp, himm⟩]

end Decode

/-! ## What the relaxation leaves -/

section Relaxed

variable {link : Link} {inp : Input} {args : RelaxArgs} {st : PassState} {rel next : Rela}

/-- The word of a C.LUI before it is relocated. -/
def cLuiWord (rd : Reg) : Vma := matchCLui ||| (rd.setWidth 64 <<< 7)

/-- The register field of an instruction, with zeros around it. -/
theorem rd_in_place (insn : Vma) : insn &&& (0x1f#64 <<< 7) = (Machine.rdOf insn).setWidth 64 <<< 7 := by
  have hmask : ∀ i < 64, (0x1f#64 <<< 7).getLsbD i = (decide (7 ≤ i) && decide (i < 12)) := by decide
  apply BitVec.eq_of_getLsbD_eq
  intro i hi
  rw [BitVec.getLsbD_and, hmask i hi, BitVec.getLsbD_shiftLeft, BitVec.getLsbD_setWidth, Machine.rdOf,
    BitVec.getLsbD_extractLsb']
  by_cases hlow : i < 7
  · simp [hlow, show ¬ 7 ≤ i by omega]
  · by_cases hhigh : i < 12
    · simp [hi, hlow, hhigh, show 7 ≤ i by omega, show i - 7 < 64 by omega, show i - 7 < 5 by omega,
        show 7 + (i - 7) = i by omega]
    · simp [hlow, hhigh, show ¬ i - 7 < 5 by omega]

theorem relaxCLui_word (hin : rel.offset.toNat + 4 ≤ st.contents.length) (htype : rel.type ≠ .rvcLui)
    (hrelaxed : (relaxCLui st rel next).rel.type = .rvcLui) :
    Machine.rdOf (getl 4 st.contents rel.offset.toNat) ≠ 0 ∧ Machine.rdOf (getl 4 st.contents rel.offset.toNat) ≠ 2 ∧
      insnWord (relaxCLui st rel next).rel (relaxCLui st rel next).st.contents =
        cLuiWord (Machine.rdOf (getl 4 st.contents rel.offset.toNat)) := by
  unfold relaxCLui at hrelaxed ⊢
  dsimp only at hrelaxed ⊢
  generalize getl 4 st.contents rel.offset.toNat = lui at hrelaxed ⊢
  split at hrelaxed
  · exact absurd hrelaxed htype
  · rename_i hrd
    rw [if_neg hrd]
    rw [not_or, rdOf_eq] at hrd
    refine ⟨?_, ?_, ?_⟩
    · intro h
      exact hrd.1 (by rw [h]; rfl)
    · intro h
      exact hrd.2 (by rw [h]; rfl)
    · have hword := getl_putl_low (m := 2) (k := 2) ((lui &&& (0x1f#64 <<< 7)) ||| matchCLui)
        (by omega : rel.offset.toNat ≤ st.contents.length)
      have hbytes : (howto .rvcLui).bitsize / 8 = 2 := rfl
      dsimp only [insnWord, Rela.setType]
      rw [hbytes, hword, rd_in_place, BitVec.or_comm]
      generalize Machine.rdOf lui = rd
      revert rd
      decide

/-- A LUI that `_bfd_riscv_relax_lui` shortened is a C.LUI of the same register, which is neither `x0` nor `sp`. -/
theorem relaxLui_word (hin : rel.offset.toNat + 4 ≤ st.contents.length) (htype : rel.type ≠ .rvcLui)
    (hrelaxed : (bfdRiscvRelaxLui link inp args st rel next).rel.type = .rvcLui) :
    Machine.rdOf (getl 4 st.contents rel.offset.toNat) ≠ 0 ∧ Machine.rdOf (getl 4 st.contents rel.offset.toNat) ≠ 2 ∧
      insnWord (bfdRiscvRelaxLui link inp args st rel next).rel
        (bfdRiscvRelaxLui link inp args st rel next).st.contents =
        cLuiWord (Machine.rdOf (getl 4 st.contents rel.offset.toNat)) := by
  unfold bfdRiscvRelaxLui at hrelaxed ⊢
  dsimp only at hrelaxed ⊢
  generalize gpAlignment link args.symSec args.undefinedWeak args.maxAlignment st.maxAlignmentForGp = align
    at hrelaxed ⊢
  split at hrelaxed
  · split at hrelaxed
    · cases hrelaxed
    · cases hrelaxed
    · cases hrelaxed
  · rename_i hrange
    rw [if_neg hrange]
    split at hrelaxed
    · rename_i hshort
      rw [if_pos hshort]
      exact @relaxCLui_word { st with maxAlignmentForGp := align.2 } rel next hin htype hrelaxed
    · exact absurd hrelaxed htype

end Relaxed

/-! ## What is placed -/

section Placed

variable {tgt : Target} {rel : Rela} {contents : List Byte} {rd : Reg}

theorem cLuiWord_bits (rd : Reg) : (cLuiWord rd).extractLsb' 0 2 = 1#2 ∧ (cLuiWord rd).extractLsb' 13 3 = 3#3 ∧
    Machine.rdOf (cLuiWord rd) = rd := by
  revert rd
  decide

/-- The same register in a C.LI. -/
theorem cLiWord_bits (rd : Reg) :
    ((cLuiWord rd &&& ~~~matchCLui) ||| matchCLi).toNat < 256 ^ 2 ∧
      ((cLuiWord rd &&& ~~~matchCLui) ||| matchCLi).extractLsb' 0 2 = 1#2 ∧
      ((cLuiWord rd &&& ~~~matchCLui) ||| matchCLi).extractLsb' 13 3 = 2#3 ∧
      Machine.rdOf ((cLuiWord rd &&& ~~~matchCLui) ||| matchCLi) = rd := by
  revert rd
  decide

/-- A patched word: the immediate is the one placed, everything else is as it was. -/
theorem emplace_rvcLui (htype : rel.type = .rvcLui) (hoff : rel.offset.toNat ≤ contents.length) (field : Vma) :
    AgreeOn ciFields (getl 2 (emplace tgt .rvcLui field contents rel.offset.toNat) rel.offset.toNat) field ∧
      ∀ s m, s + m ≤ 16 → (∀ i < m, (howto .rvcLui).dstMask.getLsbD (s + i) = false) →
        (getl 2 (emplace tgt .rvcLui field contents rel.offset.toNat) rel.offset.toNat).extractLsb' s m =
          (getl 2 contents rel.offset.toNat).extractLsb' s m := by
  have hhowto : InsnHowto (howto rel.type) := by
    rw [htype]
    decide
  have hbits {i : Nat} (hi : i < (howto rel.type).bitsize) :=
    @insnWord_emplace_getLsbD tgt rel contents hhowto hoff field i hi
  rw [htype] at hbits
  unfold insnWord at hbits
  rw [htype, show (howto .rvcLui).bitsize / 8 = 2 from rfl] at hbits
  generalize getl 2 (emplace tgt .rvcLui field contents rel.offset.toNat) rel.offset.toNat = y at hbits ⊢
  generalize getl 2 contents rel.offset.toNat = x at hbits ⊢
  constructor
  · have hmask : AgreeOn ciFields (howto .rvcLui).dstMask (BitVec.allOnes 64) := by decide
    intro f hf i hi
    have hset := hmask f hf i hi
    obtain ⟨-, hpos, -⟩ := citype_format.fits f hf
    have hlow : ∀ f ∈ ciFields, f.pos + f.width ≤ 16 := by decide
    have hin := hlow f hf
    rw [BitVec.getLsbD_allOnes, decide_eq_true (by omega : f.pos + i < 64)] at hset
    rw [hbits (by change _ < 16; omega), hset, if_pos rfl]
  · intro s m hle hmask
    exact extractLsb_same (fun i hi hbit => by rw [hbits hi, hbit, if_neg Bool.false_ne_true]) hle hmask

/-- The instruction loads `rd` with what a low part of `v` has to be added to. -/
def LoadsHigh (xlen : Xlen) (rd : Reg) (v word : Vma) : Prop :=
  ∃ i u, decodeCi word = some i ∧
    (∀ (mem : BitVec xlen.bits → BitVec xlen.bits) (s : State xlen.bits),
      exec mem 2 s i = (s.set rd u).goto (s.pc + 2)) ∧
    u + (sext 12 v).setWidth xlen.bits = v.setWidth xlen.bits

/-- A value that is its own low part is loaded by `c.li rd, 0`. -/
theorem loadsHigh_zero {xlen : Xlen} {v word : Vma} (hrd : rd ≠ 0) (hop : word.extractLsb' 0 2 = 1#2)
    (hfunct : word.extractLsb' 13 3 = 2#3) (hreg : Machine.rdOf word = rd)
    (hagree : AgreeOn ciFields word (encodeCitypeImm 0))
    (hv : constHighPart v = 0) : LoadsHigh xlen rd v word := by
  have himm : ciImmOf word = 0 := by
    rw [ciImmOf, ciFields, gather_congr citype_format.fits hagree]
    decide
  have hsum := constHighPart_add_sext v
  rw [hv, show 0 + sext 12 v = sext 12 v from BitVec.zero_add _] at hsum
  refine ⟨_, 0, decodeCi_cli hop hfunct (by rw [hreg]; exact hrd), ?_, ?_⟩
  · intro mem s
    rw [exec, hreg, himm, State.get_zero]
    cases xlen <;> rfl
  · rw [hsum]
    exact BitVec.zero_add _

/-- Otherwise by `c.lui`, where its immediate holds the high part. -/
theorem loadsHigh_upper {xlen : Xlen} {v word : Vma} (hrd : rd ≠ 0) (hsp : rd ≠ 2) (hop : word.extractLsb' 0 2 = 1#2)
    (hfunct : word.extractLsb' 13 3 = 3#3) (hreg : Machine.rdOf word = rd)
    (hagree : AgreeOn ciFields word (encodeCitypeLuiImm (constHighPart v))) (hv : constHighPart v ≠ 0)
    (hvalid : validCitypeLuiImm (constHighPart v) = true) : LoadsHigh xlen rd v word := by
  have hw : xlen.bits ≤ 64 := by cases xlen <;> decide
  have hhigh : extractCitypeLuiImm word = constHighPart v := by
    have hround : extractCitypeLuiImm (encodeCitypeLuiImm (constHighPart v)) = constHighPart v := by
      simp only [validCitypeLuiImm, decide_eq_true_eq] at hvalid
      exact hvalid.2
    rw [← hround, extractCitypeLuiImm, extractCitypeLuiImm, extractCitypeImm, extractCitypeImm,
      citype_format.congr hagree]
  have himm : ciImmOf word ≠ 0 := by
    intro hzero
    rw [extractCitypeLuiImm, extractCitypeImm_eq, hzero] at hhigh
    exact hv (hhigh.symm.trans (by decide))
  refine ⟨_, (constHighPart v).setWidth xlen.bits,
    decodeCi_clui hop hfunct (by rw [hreg]; exact hrd) (by rw [hreg]; exact hsp) himm, ?_, ?_⟩
  · intro mem s
    rw [exec, hreg, upper_ciImm hw, hhigh]
  · rw [← BitVec.setWidth_add _ _ hw, constHighPart_add_sext]

theorem performRelocation_rvcLui {value secAddr : Vma} (htype : rel.type = .rvcLui)
    (hin : rel.offset.toNat + 2 ≤ contents.length) (hword : getl 2 contents rel.offset.toNat = cLuiWord rd)
    (hrd : rd ≠ 0) (hsp : rd ≠ 2) :
    performRelocation tgt rel value secAddr contents = (.overflow, contents) ∨
      ((performRelocation tgt rel value secAddr contents).1 = .ok ∧
        LoadsHigh tgt.xlen rd (value + rel.addend)
          (getl 2 (performRelocation tgt rel value secAddr contents).2 rel.offset.toNat)) := by
  have hvalue : performRelocation tgt rel value secAddr contents =
      if constHighPart (value + rel.addend) = 0 then
        (.ok, emplace tgt .rvcLui (encodeCitypeImm 0)
          (putl 2 ((getl 2 contents rel.offset.toNat &&& ~~~matchCLui) ||| matchCLi) contents rel.offset.toNat)
          rel.offset.toNat)
      else if validCitypeLuiImm (constHighPart (value + rel.addend)) then
        (.ok, emplace tgt .rvcLui (encodeCitypeLuiImm (constHighPart (value + rel.addend))) contents rel.offset.toNat)
      else (.overflow, contents) := by
    unfold performRelocation
    simp only [htype]
    rfl
  rw [hvalue, hword]
  by_cases hzero : constHighPart (value + rel.addend) = 0
  · rw [if_pos hzero]
    refine .inr ⟨rfl, ?_⟩
    obtain ⟨hsize, hop, hfunct, hreg⟩ := cLiWord_bits rd
    have hput := getl_putl_same (n := 2) ((cLuiWord rd &&& ~~~matchCLui) ||| matchCLi)
      (by omega : rel.offset.toNat ≤ contents.length)
    rw [Nat.mod_eq_of_lt hsize, BitVec.ofNat_toNat, BitVec.setWidth_eq] at hput
    have hoff : rel.offset.toNat ≤
        (putl 2 ((cLuiWord rd &&& ~~~matchCLui) ||| matchCLi) contents rel.offset.toNat).length := by
      rw [(sameOutside_putl _ hin).length]
      omega
    obtain ⟨hagree, hsame⟩ := @emplace_rvcLui tgt rel _ htype hoff (encodeCitypeImm 0)
    rw [hput] at hsame
    dsimp only
    rw [← hsame 0 2 (by decide) (by decide)] at hop
    rw [← hsame 13 3 (by decide) (by decide)] at hfunct
    rw [Machine.rdOf, ← hsame 7 5 (by decide) (by decide)] at hreg
    exact loadsHigh_zero hrd hop hfunct hreg hagree hzero
  · rw [if_neg hzero]
    by_cases hvalid : validCitypeLuiImm (constHighPart (value + rel.addend)) = true
    · rw [if_pos hvalid]
      refine .inr ⟨rfl, ?_⟩
      obtain ⟨hop, hfunct, hreg⟩ := cLuiWord_bits rd
      obtain ⟨hagree, hsame⟩ := @emplace_rvcLui tgt rel _ htype (by omega : rel.offset.toNat ≤ contents.length)
        (encodeCitypeLuiImm (constHighPart (value + rel.addend)))
      rw [hword] at hsame
      dsimp only
      rw [← hsame 0 2 (by decide) (by decide)] at hop
      rw [← hsame 13 3 (by decide) (by decide)] at hfunct
      rw [Machine.rdOf, ← hsame 7 5 (by decide) (by decide)] at hreg
      exact loadsHigh_upper hrd hsp hop hfunct hreg hagree hzero hvalid
    · rw [if_neg hvalid]
      exact .inl rfl

end Placed

/-- A LUI that was shortened stands anywhere with the bytes the relaxation has left, and the symbol has any value:
either the relocation is refused and nothing is written, or there is a C.LUI or C.LI of the same register that loads
what the low part of the value has to be added to. -/
theorem relaxLui_rvc_preserves {link : Link} {inp : Input} {args : RelaxArgs} {st : PassState} {rel next final : Rela}
    {contents : List Byte} (hin : rel.offset.toNat + 4 ≤ st.contents.length) (htype : rel.type ≠ .rvcLui)
    (hrelaxed : (bfdRiscvRelaxLui link inp args st rel next).rel.type = .rvcLui) (hfinal : final.type = .rvcLui)
    (hplace : final.offset.toNat + 2 ≤ contents.length)
    (hword : insnWord final contents = insnWord (bfdRiscvRelaxLui link inp args st rel next).rel
      (bfdRiscvRelaxLui link inp args st rel next).st.contents) (tgt : Target) (value secAddr : Vma) :
    performRelocation tgt final value secAddr contents = (.overflow, contents) ∨
      ((performRelocation tgt final value secAddr contents).1 = .ok ∧
        LoadsHigh tgt.xlen (Machine.rdOf (getl 4 st.contents rel.offset.toNat)) (value + final.addend)
          (insnWord final (performRelocation tgt final value secAddr contents).2)) := by
  obtain ⟨hrd, hsp, hbytes⟩ := @relaxLui_word link inp args st rel next hin htype hrelaxed
  have hlen : (howto final.type).bitsize / 8 = 2 := by rw [hfinal]; rfl
  rw [hbytes, insnWord, hlen] at hword
  rw [insnWord, hlen]
  exact performRelocation_rvcLui hfinal hplace hword hrd hsp

/-- `lui a0` against 0x5000, and 0x700 in the end. -/
def luiShortened : RelaxResult :=
  bfdRiscvRelaxLui callLink { callInput with rvc := true }
    { symSec := 1, symval := 0x5000, maxAlignment := 4, reserveSize := 0, undefinedWeak := false }
    { contents := [0x37, 0x05, 0x00, 0x00] } ⟨0, 1, .hi20, 0⟩ ⟨0, 0, .relax, 0⟩

theorem luiShortened_preserves :
    performRelocation ⟨.rv64, false⟩ luiShortened.rel 0x700 0 (luiShortened.st.contents.take 2) =
        (.overflow, luiShortened.st.contents.take 2) ∨
      ((performRelocation ⟨.rv64, false⟩ luiShortened.rel 0x700 0 (luiShortened.st.contents.take 2)).1 = .ok ∧
        LoadsHigh .rv64 (Machine.rdOf (getl 4 [0x37, 0x05, 0x00, 0x00] 0)) (0x700 + luiShortened.rel.addend)
          (insnWord luiShortened.rel
            (performRelocation ⟨.rv64, false⟩ luiShortened.rel 0x700 0 (luiShortened.st.contents.take 2)).2)) :=
  @relaxLui_rvc_preserves callLink { callInput with rvc := true }
    { symSec := 1, symval := 0x5000, maxAlignment := 4, reserveSize := 0, undefinedWeak := false }
    { contents := [0x37, 0x05, 0x00, 0x00] } ⟨0, 1, .hi20, 0⟩ ⟨0, 0, .relax, 0⟩ luiShortened.rel
    (luiShortened.st.contents.take 2) (by decide) (by decide) (by decide) (by decide) (by decide) (by decide)
    ⟨.rv64, false⟩ 0x700 0

/-- It has become `c.li a0, 0`. -/
example : (performRelocation ⟨.rv64, false⟩ luiShortened.rel 0x700 0 (luiShortened.st.contents.take 2)).2 =
    [0x01, 0x45] := by decide

end RiscvBinutils.Bfd
