/-
Calls that were shortened (bfd/elfnn-riscv.c, `_bfd_riscv_relax_call`, and the jumps of
`riscv_elf_relocate_section`).
The distance of `c.j`, `c.jal` and `jal` is tested again when they are relocated, however far the symbol has moved
since; the address in `jalr rd, x0` is not.
-/
import RiscvBinutils.Bfd.Relax
import RiscvBinutils.Gas.Resolved

namespace RiscvBinutils.Bfd

open RiscvBinutils.Base RiscvBinutils.Opcode RiscvBinutils.Machine RiscvBinutils.Gas

/-! ## What is to be preserved -/

/-- The address that calls of a symbol go to: its PLT entry, where there is one in position-independent code. -/
def callAddress (link : Link) (s : RelocSym) : Vma :=
  match (if link.pic then s.h else none) with
  | none => s.relocation
  | some (_, h) => if h.pltOffset ≠ -1 then link.secAddr link.splt + h.pltOffset else s.relocation

/-- The instruction of `len` bytes at `off`, run at `pc`, jumps to `target` and leaves the address after it in
`rd`. -/
def Calls {w : Nat} (contents : List Byte) (off len : Nat) (pc target : BitVec w) (rd : Reg) : Prop :=
  ∃ i, decodeAt w (getl len contents off) = some (i, len) ∧
    ∀ (mem : BitVec w → BitVec w) (s : State w), s.pc = pc →
      exec mem (BitVec.ofNat w len) s i = (s.set rd (pc + BitVec.ofNat w len)).goto target

/-- An even address of which the low part says all. -/
def NearZero (xlen : Xlen) (v : Vma) : Prop :=
  (v.toNat % 2 ^ xlen.bits < 2048 ∨ 2 ^ xlen.bits - 2048 ≤ v.toNat % 2 ^ xlen.bits) ∧ v.toNat % 2 = 0

instance (xlen : Xlen) (v : Vma) : Decidable (NearZero xlen v) := inferInstanceAs (Decidable (_ ∧ _))

/-! ## The shortened calls -/

section Forms

variable {w : Nat}

theorem rdOf_eq (insn : Vma) : Bfd.rdOf insn = (Machine.rdOf insn).setWidth 64 := by
  apply BitVec.eq_of_getLsbD_eq
  intro i hi
  have hmask : (0x1f : Vma).getLsbD i = decide (i < 5) := by
    revert i
    decide
  rw [Bfd.rdOf, Machine.rdOf, BitVec.getLsbD_and, hmask, BitVec.getLsbD_ushiftRight, BitVec.getLsbD_setWidth,
    BitVec.getLsbD_extractLsb', Bool.and_comm]
  simp [hi]

theorem decodeAt_matchCJ : decodeAt w matchCJ = some (.jal 0 0, 2) := by
  have hword : decodeCompressed w matchCJ = some (.jal 0 0) :=
    decodeCompressed_jal_iff.mpr ⟨by decide, .inl (by decide), by decide⟩
  rw [decodeAt, if_neg (by decide), hword]
  rfl

theorem decodeAt_matchCJal : decodeAt 32 matchCJal = some (.jal 1 0, 2) := by
  have hword : decodeCompressed 32 matchCJal = some (.jal 1 0) :=
    decodeCompressed_jal_iff.mpr ⟨by decide, .inr (by decide), by decide⟩
  rw [decodeAt, if_neg (by decide), hword]
  rfl

theorem decodeAt_matchJal_rd (rd : Reg) : decodeAt w (matchJal ||| (rd.setWidth 64 <<< 7)) = some (.jal rd 0, 4) := by
  have hbits : ∀ rd : Reg, (matchJal ||| (rd.setWidth 64 <<< 7)).extractLsb' 0 2 = 3#2 ∧
      (matchJal ||| (rd.setWidth 64 <<< 7)).extractLsb' 0 7 = 0x6f#7 ∧
      Machine.rdOf (matchJal ||| (rd.setWidth 64 <<< 7)) = rd ∧
      (gather jalFields (matchJal ||| (rd.setWidth 64 <<< 7))).setWidth 21 = 0#21 := by decide
  obtain ⟨hlow, hop, hrd, himm⟩ := hbits rd
  rw [decodeAt, if_pos hlow, decode_jal_iff.mpr ⟨hop, hrd, himm⟩]
  rfl

theorem decode_matchJalr_rd (rd : Reg) : (matchJalr ||| (rd.setWidth 64 <<< 7)).extractLsb' 0 7 = 0x67#7 ∧
    funct3Of (matchJalr ||| (rd.setWidth 64 <<< 7)) = 0 ∧ Machine.rdOf (matchJalr ||| (rd.setWidth 64 <<< 7)) = rd ∧
    rs1Of (matchJalr ||| (rd.setWidth 64 <<< 7)) = 0 := by
  revert rd
  decide

/-- What stands at the relocation after the call is shortened, for each of the three ways. -/
inductive Shortened (link : Link) (far : Bool) (rd : Reg) : RelocType → Vma → Prop
  | cj (hrd : rd = 0) (hfar : far = false) : Shortened link far rd .rvcJump matchCJ
  | cjal (hrd : rd = 1) (hxlen : link.xlen = .rv32) (hfar : far = false) : Shortened link far rd .rvcJump matchCJal
  | jal (hfar : far = false) : Shortened link far rd .jal (matchJal ||| (rd.setWidth 64 <<< 7))
  | jalr (hpic : link.pic = false) (hfar : far = true) :
    Shortened link far rd .lo12I (matchJalr ||| (rd.setWidth 64 <<< 7))

theorem validJtypeImm_of_cj {d : Vma} (h : validCjtypeImm d = true) : validJtypeImm d = true := by
  rw [validCjtypeImm_iff] at h
  rw [validJtypeImm_iff]
  omega

theorem callChoice_shortened (link : Link) (inp : Input) (foff insn : Vma)
    (hfar : validJtypeImm foff = false → link.pic = false) :
    Shortened link (!validJtypeImm foff) (Machine.rdOf insn) (callChoice link inp foff (Bfd.rdOf insn)).1
        (callChoice link inp foff (Bfd.rdOf insn)).2.1 ∧
      (howto (callChoice link inp foff (Bfd.rdOf insn)).1).bitsize / 8 =
        (callChoice link inp foff (Bfd.rdOf insn)).2.2 := by
  have hrd (n : Reg) : Bfd.rdOf insn = n.setWidth 64 ↔ Machine.rdOf insn = n := by
    rw [rdOf_eq]
    constructor
    · intro h
      have hback := congrArg (BitVec.setWidth 5) h
      rwa [BitVec.setWidth_setWidth_of_le _ (by decide), BitVec.setWidth_setWidth_of_le _ (by decide),
        BitVec.setWidth_eq, BitVec.setWidth_eq] at hback
    · intro h
      rw [h]
  unfold callChoice
  split
  · rename_i hrvc
    obtain ⟨-, hvalid, hreg⟩ := hrvc
    have hnear : (!validJtypeImm foff) = false := by rw [validJtypeImm_of_cj hvalid]; rfl
    rcases hreg with hzero | ⟨hone, hxlen⟩
    · rw [if_pos hzero]
      exact ⟨.cj ((hrd 0).mp hzero) hnear, rfl⟩
    · have hne : ¬ Bfd.rdOf insn = 0 := by
        rw [hone]
        decide
      rw [if_neg hne]
      exact ⟨.cjal ((hrd 1).mp hone) hxlen hnear, rfl⟩
  · split
    · rename_i hvalid
      rw [rdOf_eq]
      exact ⟨.jal (by rw [hvalid]; rfl), show (howto .jal).bitsize / 8 = 4 from rfl⟩
    · rename_i hvalid
      rw [Bool.not_eq_true] at hvalid
      rw [rdOf_eq]
      exact ⟨.jalr (hfar hvalid) (by rw [hvalid]; rfl), show (howto .lo12I).bitsize / 8 = 4 from rfl⟩

/-- The word of a form fits its bytes. -/
theorem Shortened.fits {link : Link} {far : Bool} {rd : Reg} {type : RelocType} {word : Vma}
    (h : Shortened link far rd type word) : word.toNat < 256 ^ ((howto type).bitsize / 8) := by
  cases h with
  | cj => decide
  | cjal => decide
  | jal =>
    revert rd
    decide
  | jalr =>
    revert rd
    decide

variable {link : Link} {inp : Input} {args : RelaxArgs} {st : PassState} {rel next : Rela}

/-- A call that is relaxed has been shortened in one of the ways; it is far when its distance is no longer one of
`jal`. -/
theorem relaxCall_shortened (hin : rel.offset.toNat + 8 ≤ st.contents.length)
    (hrelaxed : (bfdRiscvRelaxCall link inp args st rel next).rel.type ≠ rel.type) :
    Shortened link (!validJtypeImm (callOffset link inp args rel))
      (Machine.rdOf (getl 4 st.contents (rel.offset.toNat + 4)))
      (bfdRiscvRelaxCall link inp args st rel next).rel.type
      (insnWord (bfdRiscvRelaxCall link inp args st rel next).rel
        (bfdRiscvRelaxCall link inp args st rel next).st.contents) := by
  unfold bfdRiscvRelaxCall at hrelaxed ⊢
  dsimp only at hrelaxed ⊢
  split at hrelaxed
  · exact absurd rfl hrelaxed
  · rename_i hshort
    rw [if_neg hshort]
    have hpic : validJtypeImm (callOffset link inp args rel) = false → link.pic = false := by
      intro hfar
      rw [hfar] at hshort
      cases hp : link.pic with
      | false => rfl
      | true =>
        rw [hp] at hshort
        exact absurd rfl hshort
    obtain ⟨hform, hsize⟩ := callChoice_shortened link inp (callOffset link inp args rel)
      (getl 4 st.contents (rel.offset.toNat + 4)) hpic
    have hfits := hform.fits
    rw [hsize] at hfits
    have hword := getl_putl_same (n := (callChoice link inp (callOffset link inp args rel)
        (Bfd.rdOf (getl 4 st.contents (rel.offset.toNat + 4)))).2.2)
      (callChoice link inp (callOffset link inp args rel)
        (Bfd.rdOf (getl 4 st.contents (rel.offset.toNat + 4)))).2.1 (by omega : rel.offset.toNat ≤ st.contents.length)
    rw [Nat.mod_eq_of_lt hfits, BitVec.ofNat_toNat, BitVec.setWidth_eq] at hword
    dsimp only [insnWord, Rela.setType]
    rw [hsize, hword]
    exact hform

end Forms

/-! ## The relocated calls -/

section Final

variable {w : Nat} {tgt : Target} {rel : Rela} {value secAddr : Vma} {contents : List Byte} {rd : Reg}

/-- A jump whose distance is accepted. -/
theorem calls_of_jump {x : Vma} {len : Nat} (hw : w ≤ 64) (hx : decodeAt w x = some (.jal rd 0, len))
    (htype : distanceType (.jal rd 0) len = some rel.type) (hword : getl len contents rel.offset.toNat = x)
    (hin : rel.offset.toNat + len ≤ contents.length)
    (hok : (performRelocation tgt rel value secAddr contents).1 = .ok) :
    Calls (performRelocation tgt rel value secAddr contents).2 rel.offset.toNat len
      ((secAddr + rel.offset).setWidth w) ((value + rel.addend).setWidth w) rd := by
  obtain ⟨⟨i, hinsn, haims⟩, -⟩ := performRelocation_distance hw hx htype (fun j _ _ => by rw [hword]) hin hok
  refine ⟨i, hinsn, ?_⟩
  intro mem s hs
  have htarget : s.pc + (value + rel.addend - (secAddr + rel.offset)).setWidth w = (value + rel.addend).setWidth w := by
    rw [hs, ← BitVec.setWidth_add _ _ hw]
    congr 1
    grind
  exact exec_aims haims mem htarget (by rw [hs])

theorem toNat_signExtend_low {w : Nat} (hw : 12 ≤ w) (v : Vma) : ((v.setWidth 12).signExtend w).toNat =
    if 2048 ≤ v.toNat % 4096 then 2 ^ w - 4096 + v.toNat % 4096 else v.toNat % 4096 := by
  have hpow : 2 ^ 12 ≤ 2 ^ w := Nat.pow_le_pow_right (by decide) hw
  have hmod : v.toNat % 2 ^ 12 % 2 ^ w = v.toNat % 2 ^ 12 :=
    Nat.mod_eq_of_lt (Nat.lt_of_lt_of_le (Nat.mod_lt _ (by decide)) hpow)
  rw [BitVec.toNat_signExtend, BitVec.msb_eq_decide, BitVec.toNat_setWidth, BitVec.toNat_setWidth, hmod]
  simp only [decide_eq_true_eq]
  split
  · omega
  · omega

/-- The low part, as `jalr` reads it from `x0`, is the address exactly when it is an even one near zero. -/
theorem low_even_iff (xlen : Xlen) (v : Vma) :
    (0 + (v.setWidth 12).signExtend xlen.bits) &&& ~~~1 = v.setWidth xlen.bits ↔ NearZero xlen v := by
  have hw : 12 ≤ xlen.bits := by cases xlen <;> decide
  have hmask := toNat_and_not_mask ((v.setWidth 12).signExtend xlen.bits) (n := 1) (by omega)
  have hone : (1#(xlen.bits) <<< 1) - 1#(xlen.bits) = 1 := by cases xlen <;> rfl
  have hzero : 0 + (v.setWidth 12).signExtend xlen.bits = (v.setWidth 12).signExtend xlen.bits := BitVec.zero_add _
  rw [hone, toNat_signExtend_low hw] at hmask
  rw [hzero, ← BitVec.toNat_inj, hmask, BitVec.toNat_setWidth, NearZero]
  -- only the address modulo the width of a register counts
  have hpow : 2 ^ xlen.bits % 4096 = 0 :=
    Nat.mod_eq_zero_of_dvd (Nat.pow_dvd_pow 2 hw)
  have hlow : v.toNat % 4096 = v.toNat % 2 ^ xlen.bits % 4096 :=
    (Nat.mod_mod_of_dvd _ (Nat.pow_dvd_pow 2 hw)).symm
  have heven : v.toNat % 2 = v.toNat % 4096 % 2 := by omega
  have hlt := Nat.mod_lt v.toNat (Nat.two_pow_pos xlen.bits)
  rw [heven, hlow]
  generalize v.toNat % 2 ^ xlen.bits = r at hlt
  generalize 2 ^ xlen.bits = b at hpow hlt
  split <;> omega

/-- A call through `x0` arrives exactly when its target is an even address near zero. -/
theorem calls_of_jalr (htype : rel.type = .lo12I)
    (hword : getl 4 contents rel.offset.toNat = matchJalr ||| (rd.setWidth 64 <<< 7))
    (hin : rel.offset.toNat + 4 ≤ contents.length) (xlen : Xlen) (pc : BitVec xlen.bits) :
    (performRelocation tgt rel value secAddr contents).1 = .ok ∧
      (Calls (performRelocation tgt rel value secAddr contents).2 rel.offset.toNat 4 pc
        ((value + rel.addend).setWidth xlen.bits) rd ↔ NearZero xlen (value + rel.addend)) := by
  have hplaced := @placed_lo12 tgt _ _ value secAddr (.inl (by rw [htype]; rfl)) hin
  have hbytes : (howto rel.type).bitsize / 8 = 4 := by rw [htype]; rfl
  refine ⟨hplaced.ok.mpr trivial, ?_⟩
  have hfield := hplaced.field trivial
  have hkept := hplaced.bits
  rw [insnWord, insnWord, hbytes, hword] at hkept
  rw [insnWord, hbytes] at hfield
  generalize (performRelocation tgt rel value secAddr contents).2 = contents' at hkept hfield
  generalize hv : value + rel.addend = v
  have hvalue : relocValue rel value secAddr = v := by
    rw [relocValue, htype, if_neg (by decide), hv]
  have himm : (immOf (getl 4 contents' rel.offset.toNat)).signExtend xlen.bits =
      (v.setWidth 12).signExtend xlen.bits := by
    have hw : xlen.bits ≤ 64 := by cases xlen <;> decide
    rw [hvalue, htype, lowImm, if_neg (by decide), extractItypeImm_eq] at hfield
    have hcut := congrArg (BitVec.setWidth xlen.bits) hfield
    rw [sext, setWidth_signExtend _ hw, setWidth_signExtend _ hw] at hcut
    exact hcut
  rw [htype] at hkept
  have hsame {s m : Nat} := @extractLsb_same (matchJalr ||| (rd.setWidth 64 <<< 7))
    (getl 4 contents' rel.offset.toNat) (howto .lo12I).dstMask 32 s m hkept
  obtain ⟨hop, hfunct, hrd, hrs1⟩ := decode_matchJalr_rd rd
  unfold Calls
  generalize getl 4 contents' rel.offset.toNat = y at himm hsame ⊢
  have hdecode : decodeAt xlen.bits y = some (.jalr rd 0 (immOf y), 4) := by
    have hlow : y.extractLsb' 0 2 = 3#2 := by
      have hseven : y.extractLsb' 0 7 = 0x67#7 := by rw [hsame (by decide) (by decide), hop]
      have hcut := congrArg (BitVec.setWidth 2) hseven
      rwa [BitVec.setWidth_extractLsb'_of_le (by decide)] at hcut
    have hjalr : decode xlen.bits y = some (.jalr (Machine.rdOf y) (rs1Of y) (immOf y)) :=
      decode_jalr (by rw [hsame (by decide) (by decide), hop])
        (by rw [funct3Of, hsame (by decide) (by decide)]; exact hfunct)
    rw [decodeAt, if_pos hlow, hjalr, Machine.rdOf, hsame (by decide) (by decide), rs1Of, hsame (by decide) (by decide)]
    rw [Machine.rdOf] at hrd
    rw [rs1Of] at hrs1
    rw [hrd, hrs1]
    rfl
  rw [← low_even_iff xlen v, ← himm]
  constructor
  · rintro ⟨i, hi, hexec⟩
    rw [hdecode] at hi
    obtain ⟨rfl, -⟩ := Prod.mk.inj (Option.some.inj hi)
    exact congrArg State.pc (hexec id ⟨pc, fun _ => 0⟩ rfl)
  · intro htarget
    refine ⟨_, hdecode, ?_⟩
    intro mem s hs
    rw [exec, State.get_zero, htarget, hs]

end Final

/-! ## From the relaxation to the final address -/

section Preserved

variable {link link' : Link} {inp inp' : Input} {args : RelaxArgs} {st : PassState} {rel next : Rela} {rd : Reg}
  {s : RelocSym} {final : RelocState}

/-- What is to come of a shortened call in the end: it is made, or an error is reported.  The second error says
that the symbol is not bound in this link, so that no call of it may be relocated, short or long. -/
def CallPreserved (link : Link) (inp : Input) (s : RelocSym) (rd : Reg) : RelocOutcome → Prop
  | .ok st => Calls st.contents s.rel.offset.toNat ((howto s.rel.type).bitsize / 8)
      ((link.secAddr inp.sec + s.rel.offset).setWidth link.xlen.bits)
      ((callAddress link s + s.rel.addend).setWidth link.xlen.bits) rd
  | .error (e, _) => e = .status .overflow ∨ e = .mayBindExternally

theorem placeRelocation_found (relocation : Vma) (rel : Rela) :
    placeRelocation link inp final s false rel relocation = doRelocation link inp final rel relocation := by
  simp [placeRelocation]

/-- A jump to a symbol that is there is refused or placed with the address that calls go to. -/
theorem placeJump_cases (hfound : s.unresolved = false) :
    placeJump link inp final s s.relocation = .error (.mayBindExternally, final) ∨
      placeJump link inp final s s.relocation = doRelocation link inp final s.rel (callAddress link s) := by
  unfold placeJump callAddress
  simp only [hfound, placeRelocation_found]
  cases (if link.pic then s.h else none) with
  | none => exact .inr rfl
  | some e =>
    obtain ⟨p, h⟩ := e
    dsimp only
    by_cases hplt : h.pltOffset ≠ -1
    · rw [if_pos hplt, if_pos hplt]
      exact .inr rfl
    · rw [if_neg hplt, if_neg hplt]
      split
      · exact .inl rfl
      · exact .inr rfl

theorem doRelocation_preserved {st' : RelocOutcome} (h : doRelocation link inp final s.rel (callAddress link s) = st')
    (hover : (performRelocation link.target s.rel (callAddress link s) (link.secAddr inp.sec) final.contents).1 = .ok ∨
      (performRelocation link.target s.rel (callAddress link s) (link.secAddr inp.sec) final.contents).1 = .overflow)
    (hcalls : (performRelocation link.target s.rel (callAddress link s) (link.secAddr inp.sec) final.contents).1 = .ok →
      Calls (performRelocation link.target s.rel (callAddress link s) (link.secAddr inp.sec) final.contents).2
        s.rel.offset.toNat ((howto s.rel.type).bitsize / 8)
        ((link.secAddr inp.sec + s.rel.offset).setWidth link.xlen.bits)
        ((callAddress link s + s.rel.addend).setWidth link.xlen.bits) rd) :
    CallPreserved link inp s rd st' := by
  subst h
  unfold doRelocation
  split
  · rename_i contents hok
    rw [hok] at hcalls
    exact hcalls rfl
  · rename_i status contents hne hstatus
    rw [hstatus] at hover
    rcases hover with hok | hoverflow
    · exact absurd hok hne
    · exact .inl (congrArg RelocError.status hoverflow)

theorem relocatePlain_jump (htype : s.rel.type = .jal ∨ s.rel.type = .rvcJump) :
    relocatePlain link inp final s = placeJump link inp final s s.relocation := by
  unfold relocatePlain
  rcases htype with h | h
  · simp only [h]
  · simp only [h]

theorem relocatePlain_lo12I (htype : s.rel.type = .lo12I) :
    relocatePlain link inp final s = placeRelocation link inp final s s.unresolved s.rel s.relocation := by
  unfold relocatePlain
  simp only [htype]

/-- The shortened call when it is relocated in the end: at any place, with the type and the bytes that the relaxation
has left, against a symbol that is there, at any address. -/
structure Carried (r : RelaxResult) (s : RelocSym) (final : RelocState) : Prop where
  type : s.rel.type = r.rel.type
  word : insnWord s.rel final.contents = insnWord r.rel r.st.contents
  inside : s.rel.offset.toNat + (howto s.rel.type).bitsize / 8 ≤ final.contents.length
  found : s.unresolved = false

/-- Sections may have moved, the options are the same. -/
structure SameOptions (link link' : Link) : Prop where
  xlen : link'.xlen = link.xlen
  type : link'.type = link.type

theorem SameOptions.pic (h : SameOptions link link') : link'.pic = link.pic := by
  rw [Link.pic, Link.pic, h.type]

/-- A jump is made, or its distance is too far. -/
theorem preserved_of_jump {x : Vma} {len : Nat} (hw : link.xlen.bits ≤ 64)
    (hx : decodeAt link.xlen.bits x = some (.jal rd 0, len))
    (hcase : (s.rel.type = .jal ∧ len = 4) ∨ (s.rel.type = .rvcJump ∧ len = 2))
    (hword : insnWord s.rel final.contents = x)
    (hin : s.rel.offset.toNat + (howto s.rel.type).bitsize / 8 ≤ final.contents.length)
    (hfound : s.unresolved = false) :
    CallPreserved link inp s rd (relocatePlain link inp final s) := by
  have htype : distanceType (.jal rd 0) len = some s.rel.type := by
    rcases hcase with ⟨ht, rfl⟩ | ⟨ht, rfl⟩
    · rw [ht]
      rfl
    · rw [ht]
      rfl
  obtain ⟨hjump, hsize, -⟩ := distanceType_howto htype
  have hlen : (howto s.rel.type).bitsize / 8 = len := by omega
  rw [relocatePlain_jump (hcase.imp And.left And.left)]
  rcases @placeJump_cases link inp s final hfound with h | h
  · rw [h]
    exact .inr rfl
  · have hplaced := @placed_jump link.target _ _ (callAddress link s) (link.secAddr inp.sec) hjump hin
    refine doRelocation_preserved h.symm ?_ fun hok => ?_
    · by_cases hfits : InReach (branchReach s.rel.type) (relocValue s.rel (callAddress link s) (link.secAddr inp.sec))
      · exact .inl (hplaced.ok.mpr hfits)
      · exact .inr (hplaced.overflow.mpr hfits)
    · rw [hlen] at hin ⊢
      rw [insnWord, hlen] at hword
      exact calls_of_jump hw hx htype hword hin hok

/-- A call that was relaxed is preserved unless it became a `jalr` through `x0`, and then exactly when the address
that it has in the end is even and near zero.  `c.j` is used for calls without a link only, `c.jal` for calls that
link to `ra` on RV32. -/
theorem relaxCall_preserves_iff (hin : rel.offset.toNat + 8 ≤ st.contents.length)
    (hrd : Machine.rdOf (getl 4 st.contents (rel.offset.toNat + 4)) = rd)
    (hrelaxed : (bfdRiscvRelaxCall link inp args st rel next).rel.type ≠ rel.type)
    (hlater : SameOptions link link') (hcarried : Carried (bfdRiscvRelaxCall link inp args st rel next) s final) :
    (s.rel.type = .rvcJump →
      (insnWord s.rel final.contents = matchCJ ∧ rd = 0) ∨
        (insnWord s.rel final.contents = matchCJal ∧ rd = 1 ∧ link.xlen = .rv32)) ∧
    (CallPreserved link' inp' s rd (relocatePlain link' inp' final s) ↔
      (validJtypeImm (callOffset link inp args rel) = true ∨ NearZero link.xlen (s.relocation + s.rel.addend))) := by
  have hform := @relaxCall_shortened link inp args st rel next hin hrelaxed
  rw [hrd, ← hcarried.type, ← hcarried.word] at hform
  have hw : link'.xlen.bits ≤ 64 := by cases link'.xlen <;> decide
  have hinside := hcarried.inside
  generalize htype : s.rel.type = type at hform
  generalize hword : insnWord s.rel final.contents = word at hform
  generalize hfar : validJtypeImm (callOffset link inp args rel) = near at hform
  cases hform with
  | cj hzero hnear =>
    have hnear' : near = true := by simpa using hnear
    refine ⟨fun _ => .inl ⟨rfl, hzero⟩, iff_of_true ?_ (.inl hnear')⟩
    subst hzero
    exact preserved_of_jump hw decodeAt_matchCJ (.inr ⟨htype, rfl⟩) hword hinside hcarried.found
  | cjal hone hxlen hnear =>
    have hnear' : near = true := by simpa using hnear
    refine ⟨fun _ => .inr ⟨rfl, hone, hxlen⟩, iff_of_true ?_ (.inl hnear')⟩
    subst hone
    have hdecode : decodeAt link'.xlen.bits matchCJal = some (.jal 1 0, 2) := by
      rw [hlater.xlen, hxlen]
      exact decodeAt_matchCJal
    exact preserved_of_jump hw hdecode (.inr ⟨htype, rfl⟩) hword hinside hcarried.found
  | jal hnear =>
    have hnear' : near = true := by simpa using hnear
    refine ⟨fun h => (by cases h), iff_of_true ?_ (.inl hnear')⟩
    exact preserved_of_jump hw (decodeAt_matchJal_rd rd) (.inl ⟨htype, rfl⟩) hword hinside hcarried.found
  | jalr hpic hnear =>
    have hnear' : near = false := by simpa using hnear
    refine ⟨fun h => (by cases h), ?_⟩
    have hbytes : (howto s.rel.type).bitsize / 8 = 4 := by rw [htype]; rfl
    have haddress : callAddress link' s = s.relocation := by
      rw [callAddress, hlater.pic, hpic]
      rfl
    rw [insnWord, hbytes] at hword
    rw [hbytes] at hinside
    obtain ⟨hok, hcalls⟩ := @calls_of_jalr link'.target s.rel s.relocation
      (link'.secAddr inp'.sec) _ _ htype hword hinside link'.xlen
      ((link'.secAddr inp'.sec + s.rel.offset).setWidth link'.xlen.bits)
    rw [relocatePlain_lo12I htype, hcarried.found, placeRelocation_found, ← hlater.xlen, hnear']
    generalize hrun : performRelocation link'.target s.rel s.relocation (link'.secAddr inp'.sec) final.contents = run
      at hok hcalls
    obtain ⟨status, contents⟩ := run
    dsimp only at hok hcalls
    subst hok
    rw [doRelocation, hrun, CallPreserved, haddress, hbytes, hcalls]
    simp

end Preserved

/-! ## A call that does not arrive -/

/-- Code at 0x80000000, and a section at zero that holds the function called. -/
def callLink : Link where
  xlen := .rv64
  sections n := { output := some n }
  outputs n := { vma := if n = 0 then 0x80000000 else 0 }
  ownerSections := [1, 0]
  absOutput := 9
  undSection := 8
  splt := 7

def callInput : Input where
  sec := 0
  elfSections := id
  locals := []
  symHashes := []
  hashes := []

/-- `auipc ra, 0; jalr ra, 0(ra)`. -/
def callState : PassState where
  contents := [0x97, 0x00, 0x00, 0x00, 0xe7, 0x80, 0x00, 0x00]

/-- The function is at 0x7fc while the call is relaxed. -/
def callRelaxed : RelaxResult :=
  bfdRiscvRelaxCall callLink callInput
    { symSec := 1, symval := 0x7fc, maxAlignment := 4, reserveSize := 0, undefinedWeak := false } callState
    ⟨0, 1, .call, 0⟩ ⟨0, 0, .relax, 0⟩

/-- It has moved to `address`. -/
def callMoved (address : Vma) : RelocSym where
  rel := callRelaxed.rel
  relocation := address
  sec := some 1

def callFinal : RelocState where
  contents := callRelaxed.st.contents.take 4

theorem callMoved_carried (address : Vma) : Carried callRelaxed (callMoved address) callFinal where
  type := rfl
  word := show insnWord callRelaxed.rel callFinal.contents = insnWord callRelaxed.rel callRelaxed.st.contents by decide
  inside := show callRelaxed.rel.offset.toNat + (howto callRelaxed.rel.type).bitsize / 8 ≤ callFinal.contents.length
    by decide
  found := rfl

theorem callMoved_preserves_iff :
    ((callMoved 0x800).rel.type = .rvcJump →
      (insnWord (callMoved 0x800).rel callFinal.contents = matchCJ ∧ (1 : Reg) = 0) ∨
        (insnWord (callMoved 0x800).rel callFinal.contents = matchCJal ∧ (1 : Reg) = 1 ∧ callLink.xlen = .rv32)) ∧
    (CallPreserved callLink callInput (callMoved 0x800) 1
        (relocatePlain callLink callInput callFinal (callMoved 0x800)) ↔
      (validJtypeImm (callOffset callLink callInput
          { symSec := 1, symval := 0x7fc, maxAlignment := 4, reserveSize := 0, undefinedWeak := false }
          ⟨0, 1, .call, 0⟩) = true ∨ NearZero callLink.xlen 0x800)) :=
  relaxCall_preserves_iff (by decide) (by decide) (by decide) ⟨rfl, rfl⟩ (callMoved_carried 0x800)

/-- At 0x800 the function is out of reach of `x0`: the call goes to the other end of the address space. -/
theorem callMoved_lost : Carried callRelaxed (callMoved 0x800) callFinal ∧
    ¬ CallPreserved callLink callInput (callMoved 0x800) 1
      (relocatePlain callLink callInput callFinal (callMoved 0x800)) := by
  refine ⟨callMoved_carried 0x800, ?_⟩
  have hrun : performRelocation callLink.target (callMoved 0x800).rel (callMoved 0x800).relocation
      (callLink.secAddr callInput.sec) callFinal.contents = (.ok, [0xe7, 0x00, 0x00, 0x80]) := by decide
  rw [relocatePlain_lo12I rfl, show (callMoved 0x800).unresolved = false from rfl, placeRelocation_found, doRelocation,
    hrun]
  rintro ⟨i, hi, hexec⟩
  have hdecode : decodeAt 64 (getl 4 [0xe7, 0x00, 0x00, 0x80] 0) = some (.jalr 1 0 0x800, 4) := by decide
  obtain ⟨rfl, -⟩ := Prod.mk.inj (Option.some.inj (hdecode.symm.trans hi))
  have hpc := congrArg State.pc (hexec id ⟨0x80000000, fun _ => 0⟩ (by decide))
  exact absurd hpc (by decide)

end RiscvBinutils.Bfd
