/-
What a relocated pair of a PC-relative high part and a low part computes.
The high part is placed in the loop and its value recorded; the low part is placed after the loop from
the record.  The two agree on the target when the record has the addend that the instruction was given.
-/
import RiscvBinutils.Bfd.Relocate

namespace RiscvBinutils.Bfd

open RiscvBinutils.Base RiscvBinutils.Opcode

/-! ## The instructions -/

/-- Equal as far as a register of the target goes. -/
def Xlen.Congr : Xlen → Vma → Vma → Prop
  | .rv32, a, b => a.setWidth 32 = b.setWidth 32
  | .rv64, a, b => a = b

instance (x : Xlen) (a b : Vma) : Decidable (x.Congr a b) :=
  match x with
  | .rv32 => inferInstanceAs (Decidable (a.setWidth 32 = b.setWidth 32))
  | .rv64 => inferInstanceAs (Decidable (a = b))

/-- What the pair computes: AUIPC at `pc`, or LUI, and the immediate of the low instruction in its own
format. -/
def pairValue (pc hiWord : Vma) (loType : RelocType) (loWord : Vma) : Vma :=
  (if hiWord &&& maskAuipc = matchLui then 0 else pc) + extractUtypeImm hiWord +
    (if loType = .pcrelLo12S then extractStypeImm loWord else extractItypeImm loWord)

theorem maskAuipc_bits : ∀ i < 64, maskAuipc.getLsbD i = decide (i < 7) := by decide

/-- The opcode is what the low seven bits say. -/
theorem opcode_congr {x y : Vma} (h : ∀ i < 7, x.getLsbD i = y.getLsbD i) : x &&& maskAuipc = y &&& maskAuipc := by
  apply BitVec.eq_of_getLsbD_eq
  intro i hi
  rw [BitVec.getLsbD_and, BitVec.getLsbD_and, maskAuipc_bits i hi]
  by_cases h7 : i < 7
  · rw [h i h7]
  · simp [h7]

theorem matchLui_opcode (old : Vma) : ((old &&& ~~~maskAuipc) ||| matchLui) &&& maskAuipc = matchLui := by
  have hbits : ∀ i < 64, matchLui.getLsbD i = true → i < 7 := by decide
  apply BitVec.eq_of_getLsbD_eq
  intro i hi
  rw [BitVec.getLsbD_and, BitVec.getLsbD_or, BitVec.getLsbD_and, BitVec.getLsbD_not, maskAuipc_bits i hi]
  by_cases h7 : i < 7
  · simp [h7]
  · cases hl : matchLui.getLsbD i with
    | false => simp [h7]
    | true => exact absurd (hbits i hi hl) h7

section Words

variable {tgt : Target} {type : RelocType} {c : List Byte} {off : Nat}

/-- The types whose field is an immediate of a 32-bit instruction. -/
def RelocType.isWord (type : RelocType) : Bool :=
  (howto type).bitsize = 32 ∧ riscvIsInsnReloc (howto type)

theorem emplace_eq_putl (hw : type.isWord) (v : Vma) :
    emplace tgt type v c off =
      putl 4 ((getl 4 c off &&& ~~~(howto type).dstMask) ||| (v &&& (howto type).dstMask)) c off := by
  simp only [RelocType.isWord, decide_eq_true_eq] at hw
  simp [emplace, putWord, getWord, hw.1, hw.2]

/-- The fields of the instruction hold the immediate. -/
theorem emplace_agreeOn {fs : List Field} (hw : type.isWord) (hfits : Fits 64 fs)
    (hmask : AgreeOn fs (howto type).dstMask (BitVec.allOnes 64)) (hlow : ∀ f ∈ fs, f.pos + f.width ≤ 32)
    (hoff : off ≤ c.length) (v : Vma) : AgreeOn fs (getl 4 (emplace tgt type v c off) off) v := by
  refine AgreeOn.trans ?_ (agreeOn_insert hmask hfits (getl 4 c off) v)
  intro f hf i hi
  have hpos := hlow f hf
  rw [emplace_eq_putl hw, getLsbD_getl_putl _ hoff (by omega) (by omega)]

/-- The opcode stays. -/
theorem emplace_opcode (hw : type.isWord) (hmask : ∀ i < 7, (howto type).dstMask.getLsbD i = false)
    (hoff : off ≤ c.length) (v : Vma) :
    getl 4 (emplace tgt type v c off) off &&& maskAuipc = getl 4 c off &&& maskAuipc := by
  apply opcode_congr
  intro i hi
  rw [emplace_eq_putl hw, getLsbD_getl_putl _ hoff (by omega) (by omega)]
  have hnot : (~~~(howto type).dstMask).getLsbD i = true := by
    rw [BitVec.getLsbD_not, hmask i hi]
    exact Bool.and_eq_true_iff.mpr ⟨decide_eq_true (by omega), rfl⟩
  simp [BitVec.getLsbD_or, BitVec.getLsbD_and, hmask i hi, hnot]

/-- The types of a U-type immediate. -/
def RelocType.isUtype (type : RelocType) : Bool := type.isPcrelHi || type = .hi20

theorem isUtype_howto (h : type.isUtype) :
    type.isWord ∧ (howto type).dstMask = encodeUtypeImm allOnes32 ∧ type ≠ .subUleb128 := by
  cases type <;> first | exact ⟨by decide, rfl, by decide⟩ | exact absurd h (by decide)

theorem emplace_utype (h : type.isUtype) (hoff : off ≤ c.length) (x : Vma) :
    extractUtypeImm (getl 4 (emplace tgt type (encodeUtypeImm (constHighPart x)) c off) off) =
      sext 32 (constHighPart x) := by
  obtain ⟨hw, hmask, -⟩ := isUtype_howto h
  rw [← extract_encodeUtypeImm (constHighPart_mod x)]
  exact utype_format.congr
    (emplace_agreeOn hw utype_format.fits (by rw [hmask]; decide) (by decide) hoff _)

theorem emplace_utype_opcode (h : type.isUtype) (hoff : off ≤ c.length) (v : Vma) :
    getl 4 (emplace tgt type v c off) off &&& maskAuipc = getl 4 c off &&& maskAuipc := by
  obtain ⟨hw, hmask, -⟩ := isUtype_howto h
  exact emplace_opcode hw (by rw [hmask]; decide) hoff v

theorem relocField_utype {xlen : Xlen} (h : type.isUtype) (v : Vma) :
    relocField xlen type v =
      if xlen = .rv64 ∧ !validUtypeImm (constHighPart v) then .error .overflow
      else .ok (encodeUtypeImm (constHighPart v)) := by
  cases type <;> first | rfl | exact absurd h (by decide)

/-- Placing a U-type immediate that is not refused. -/
theorem performRelocation_utype {rel : Rela} {value secAddr : Vma} (htype : rel.type.isUtype)
    (h : (performRelocation tgt rel value secAddr c).1 = .ok) :
    (tgt.xlen = .rv64 → validUtypeImm (constHighPart
        ((if (howto rel.type).pcRelative then value - (secAddr + rel.offset) else value) + rel.addend))) ∧
      (performRelocation tgt rel value secAddr c).2 =
        emplace tgt rel.type (encodeUtypeImm (constHighPart
          ((if (howto rel.type).pcRelative then value - (secAddr + rel.offset) else value) + rel.addend)))
          c rel.offset.toNat := by
  have hplain : rel.type ≠ .rvcLui ∧ rel.type ≠ .subUleb128 ∧ rel.type ≠ .delete := by
    refine ⟨?_, ?_, ?_⟩ <;> (intro h; rw [h] at htype; exact absurd htype (by decide))
  rw [performRelocation_field hplain.1 hplain.2.1 hplain.2.2, relocField_utype htype] at h ⊢
  generalize (if (howto rel.type).pcRelative then value - (secAddr + rel.offset) else value) + rel.addend = v at h ⊢
  by_cases hv : tgt.xlen = .rv64 ∧ (!validUtypeImm (constHighPart v)) = true
  · rw [if_pos hv] at h
    exact absurd h (by simp)
  · rw [if_neg hv]
    exact ⟨fun hx => by simpa [hx] using hv, rfl⟩

theorem isPcrelLo_cases {type : RelocType} (h : type.isPcrelLo) : type = .pcrelLo12I ∨ type = .pcrelLo12S := by
  revert h
  cases type <;> decide

/-- Placing a low part: the immediate of its own format is the low 12 bits. -/
theorem performRelocation_lo (tgt : Target) {rel : Rela} (value secAddr : Vma) (htype : rel.type.isPcrelLo)
    (hoff : rel.offset.toNat ≤ c.length) :
    (if rel.type = .pcrelLo12S
      then extractStypeImm (getl 4 (performRelocation tgt rel value secAddr c).2 rel.offset.toNat)
      else extractItypeImm (getl 4 (performRelocation tgt rel value secAddr c).2 rel.offset.toNat)) =
      sext 12 (value + rel.addend) := by
  rcases isPcrelLo_cases htype with h | h
  · have hp : (performRelocation tgt rel value secAddr c).2 =
        emplace tgt .pcrelLo12I (encodeItypeImm (value + rel.addend)) c rel.offset.toNat := by
      simp [performRelocation, h, howto, relocField]
    rw [h, if_neg (by decide), hp, ← extract_encodeItypeImm]
    exact itype_format.congr (emplace_agreeOn (by decide) itype_format.fits (by decide) (by decide) hoff _)
  · have hp : (performRelocation tgt rel value secAddr c).2 =
        emplace tgt .pcrelLo12S (encodeStypeImm (value + rel.addend)) c rel.offset.toNat := by
      simp [performRelocation, h, howto, relocField]
    rw [h, if_pos rfl, hp, ← extract_encodeStypeImm]
    exact stype_format.congr (emplace_agreeOn (by decide) stype_format.fits (by decide) (by decide) hoff _)

end Words

/-! ## The high part -/

/-- The PLT entry through which an IFUNC is reached in an allocated section. -/
def RelocSym.throughPlt (link : Link) (inp : Input) (s : RelocSym) : Option (Nat × HashEntry) :=
  if (link.sections inp.sec).alloc then s.ifunc else none

/-- The address of the PLT entry of an IFUNC. -/
def pltAddress (link : Link) (h : HashEntry) : Vma :=
  link.secAddr (if link.hasSplt then link.splt else link.iplt) + h.pltOffset

/-- The address a high part refers to, without its addend: the symbol, its PLT entry, or its GOT entry. -/
def hiTarget (link : Link) (inp : Input) (st : RelocState) (s : RelocSym) : Vma :=
  let sgot := link.sgot.getD 0
  match s.throughPlt link inp, s.rel.type with
  | some (p, h), .gotHi20 => ((ifuncGot link st p h (pltAddress link h)).map (·.2)).getD 0
  | some (_, h), _ => pltAddress link h
  | none, .gotHi20 => link.secAddr sgot + (fillGot link sgot st s).2
  | none, .tlsGotHi20 =>
    link.secAddr sgot + (fillTlsGot link inp sgot st s).2 + ieOff link.xlen (s.tlsType inp)
  | none, .tlsGdHi20 => link.secAddr sgot + (fillTlsGot link inp sgot st s).2
  | none, _ => s.relocation

/-- The part of the addend that is recorded for the low parts: all of it for a symbol's own address. -/
def recordedAddend (link : Link) (inp : Input) (s : RelocSym) : Vma :=
  if (s.throughPlt link inp).isNone ∧ s.rel.type = .pcrelHi20 then s.rel.addend else 0

/-- How the high instruction stands after its round: `base` is what it adds its immediate to, `value` is
what was recorded, `old` and `word` are the instruction before and after. -/
structure HiPlaced (xlen : Xlen) (pc target addend recorded base value old word : Vma) : Prop where
  opcode : base = pc ∧ word &&& maskAuipc = old &&& maskAuipc ∨ base = 0 ∧ word &&& maskAuipc = matchLui
  denotes : base + value = target + recorded
  imm : extractUtypeImm word = sext 32 (constHighPart (value + (addend - recorded)))
  valid : xlen = .rv64 → validUtypeImm (constHighPart (value + (addend - recorded)))

section High

variable {link : Link} {inp : Input} {st st' : RelocState} {s : RelocSym}

theorem doRelocation_hiRelocs {rel : Rela} {value : Vma} (h : doRelocation link inp st rel value = .ok st') :
    st'.hiRelocs = st.hiRelocs := by
  obtain ⟨-, rfl⟩ := doRelocation_ok h
  rfl

/-- A high part that is placed relative to the program counter. -/
theorem doRelocation_hi {target : Vma} {off : Nat} (recorded : Vma) (hoff : off = s.rel.offset.toNat)
    (htype : s.rel.type.isPcrelHi) (hin : off ≤ st.contents.length)
    (h : doRelocation link inp st s.rel target = .ok st') :
    HiPlaced link.xlen (link.secAddr inp.sec + s.rel.offset) target s.rel.addend recorded
      (link.secAddr inp.sec + s.rel.offset) (target + recorded - (link.secAddr inp.sec + s.rel.offset))
      (getl 4 st.contents off) (getl 4 st'.contents off) := by
  have hu : s.rel.type.isUtype := by rw [RelocType.isUtype, htype]; rfl
  have hpc : (howto s.rel.type).pcRelative = true := by
    revert htype
    cases s.rel.type <;> decide
  obtain ⟨hok, rfl⟩ := doRelocation_ok h
  obtain ⟨hvalid, heq⟩ := performRelocation_utype hu hok
  subst hoff
  have hvalue : target + recorded - (link.secAddr inp.sec + s.rel.offset) + (s.rel.addend - recorded) =
      target - (link.secAddr inp.sec + s.rel.offset) + s.rel.addend := by
    bv_omega
  rw [if_pos hpc] at hvalid heq
  refine ⟨.inl ⟨rfl, ?_⟩, ?_, ?_, ?_⟩
  · rw [heq]
    exact emplace_utype_opcode hu hin _
  · bv_omega
  · rw [hvalue, heq]
    exact emplace_utype hu hin _
  · rw [hvalue]
    exact hvalid

/-- A high part that has been turned into a LUI. -/
theorem doRelocation_lui {c : List Byte} {sym : Nat} {target old : Vma} (hin : s.rel.offset.toNat + 4 ≤ c.length)
    (hc : st.contents = putl 4 ((old &&& ~~~maskAuipc) ||| matchLui) c s.rel.offset.toNat)
    (h : doRelocation link inp st { s.rel with sym, type := .hi20 } target = .ok st') :
    HiPlaced link.xlen (link.secAddr inp.sec + s.rel.offset) target s.rel.addend s.rel.addend
      0 (target + s.rel.addend) old (getl 4 st'.contents s.rel.offset.toNat) := by
  obtain ⟨hok, rfl⟩ := doRelocation_ok h
  obtain ⟨hvalid, heq⟩ := performRelocation_utype rfl hok
  have hin' : s.rel.offset.toNat ≤ st.contents.length := by
    rw [hc, (sameOutside_putl _ hin).length]
    omega
  have hu : RelocType.hi20.isUtype := by decide
  have hpc : (howto .hi20).pcRelative = false := by decide
  simp only [hpc, Bool.false_eq_true, if_false] at hvalid heq
  have hvalue : target + s.rel.addend + (s.rel.addend - s.rel.addend) = target + s.rel.addend := by
    bv_omega
  refine ⟨.inr ⟨rfl, ?_⟩, by bv_omega, ?_, ?_⟩
  · rw [heq, emplace_utype_opcode hu hin', hc]
    have hload (i : Nat) (hi : i < 7) := getLsbD_getl_putl (n := 4) (i := i) ((old &&& ~~~maskAuipc) ||| matchLui)
      (show s.rel.offset.toNat ≤ c.length by omega) (by omega) (by omega)
    exact (opcode_congr hload).trans (matchLui_opcode old)
  · rw [hvalue, heq]
    exact emplace_utype hu hin' _
  · rw [hvalue]
    exact hvalid

/-- The outcome of the round of a high part: it is recorded, and the instruction stands as recorded. -/
def HiRound (link : Link) (inp : Input) (s : RelocSym) (target recorded : Vma) (st st' : RelocState) : Prop :=
  ∃ base value,
    st'.hiRelocs = ⟨link.secAddr inp.sec + s.rel.offset, value, s.rel.type⟩ :: st.hiRelocs ∧
    HiPlaced link.xlen (link.secAddr inp.sec + s.rel.offset) target s.rel.addend recorded base value
      (getl 4 st.contents s.rel.offset.toNat) (getl 4 st'.contents s.rel.offset.toNat)

/-- A high part that is recorded without its addend, and placed. -/
theorem hiRound_record {st₁ : RelocState} {target : Vma} (htype : s.rel.type.isPcrelHi)
    (hin : s.rel.offset.toNat + 4 ≤ st.contents.length) (hc : st₁.contents = st.contents)
    (hh : st₁.hiRelocs = st.hiRelocs)
    (h : doRelocation link inp
      (riscvRecordPcrelHiReloc st₁ (link.secAddr inp.sec + s.rel.offset) target s.rel.type false) s.rel target =
      .ok st') :
    HiRound link inp s target 0 st st' := by
  have hplaced := doRelocation_hi 0 rfl htype (by rw [riscvRecordPcrelHiReloc, hc]; omega) h
  rw [show target + 0 = target from BitVec.add_zero target, riscvRecordPcrelHiReloc, hc] at hplaced
  refine ⟨_, _, ?_, hplaced⟩
  rw [doRelocation_hiRelocs h, riscvRecordPcrelHiReloc, hh]
  rfl

/-- A high part that is recorded with its addend, and may become a LUI. -/
theorem placePcrelHi_hiRound {st₁ : RelocState} {unresolved : Bool} {target value : Vma}
    (htype : s.rel.type.isPcrelHi) (hin : s.rel.offset.toNat + 4 ≤ st.contents.length)
    (hc : st₁.contents = st.contents) (hh : st₁.hiRelocs = st.hiRelocs) (hvalue : value = target + s.rel.addend)
    (h : placePcrelHi link inp st₁ s unresolved target value = .ok st') :
    HiRound link inp s target s.rel.addend st st' := by
  subst hvalue
  unfold placePcrelHi at h
  dsimp only at h
  rcases riscvZeroPcrelHiReloc_cases link s.rel (link.secAddr inp.sec + s.rel.offset) target st₁.contents with
    hz | ⟨-, hz⟩
  · rw [hz] at h
    have hdo := placeRelocation_ok h
    have hplaced := doRelocation_hi s.rel.addend rfl htype (by rw [riscvRecordPcrelHiReloc, hc]; omega) hdo
    rw [riscvRecordPcrelHiReloc, hc] at hplaced
    refine ⟨_, _, ?_, hplaced⟩
    rw [doRelocation_hiRelocs hdo, riscvRecordPcrelHiReloc, hh]
    rfl
  · rw [hz] at h
    have hdo := placeRelocation_ok h
    rw [riscvRecordPcrelHiReloc, hc, hh] at hdo
    exact ⟨_, _, doRelocation_hiRelocs hdo, doRelocation_lui hin rfl hdo⟩

theorem relocatePlain_hiRound (htype : s.rel.type.isPcrelHi) (hplt : s.throughPlt link inp = none)
    (hin : s.rel.offset.toNat + 4 ≤ st.contents.length) (h : relocatePlain link inp st s = .ok st') :
    HiRound link inp s (hiTarget link inp st s) (recordedAddend link inp s) st st' := by
  have htypes : s.rel.type = .pcrelHi20 ∨ s.rel.type = .gotHi20 ∨ s.rel.type = .tlsGotHi20 ∨
      s.rel.type = .tlsGdHi20 := by
    revert htype
    cases s.rel.type <;> decide
  rcases htypes with ht | ht | ht | ht
  · have hrec : recordedAddend link inp s = s.rel.addend := by simp [recordedAddend, hplt, ht]
    have htarget : hiTarget link inp st s = s.relocation := by simp [hiTarget, hplt, ht]
    rw [relocatePlain, ht] at h
    rw [htarget, hrec]
    exact placePcrelHi_hiRound htype hin rfl rfl rfl h
  · rw [relocatePlain, ht] at h
    dsimp only at h
    split at h
    · exact absurd h (by simp)
    · rename_i sgot hsgot
      split at h
      · exact absurd h (by simp)
      · rename_i hzero
        have hadd : s.rel.addend = 0 := not_not.mp hzero
        have hrec : recordedAddend link inp s = s.rel.addend := by simp [recordedAddend, hplt, hadd]
        have htarget : hiTarget link inp st s = link.secAddr sgot + (fillGot link sgot st s).2 := by
          simp [hiTarget, hplt, ht, hsgot]
        obtain ⟨hc, hh, -⟩ := fillGot_frame link st s sgot
        have hsum : link.secAddr sgot + (fillGot link sgot st s).2 =
            link.secAddr sgot + (fillGot link sgot st s).2 + s.rel.addend := by
          rw [hadd]
          exact (BitVec.add_zero _).symm
        rw [htarget, hrec]
        exact placePcrelHi_hiRound htype hin hc hh hsum h
  all_goals
    rw [relocatePlain, ht] at h
    dsimp only at h
    split at h
    · exact absurd h (by simp)
    · rename_i sgot hsgot
      obtain ⟨hc, hh, -⟩ := fillTlsGot_frame link inp st s sgot
      have hrec : recordedAddend link inp s = 0 := by simp [recordedAddend, ht]
      have hdo := placeRelocation_ok h
      rw [hrec]
      simp only [hiTarget, hplt, ht, hsgot, Option.getD_some]
      refine hiRound_record htype hin hc hh ?_
      simpa [ht] using hdo

theorem relocateIfunc_hiRound {p : Nat} {e : HashEntry} (htype : s.rel.type.isPcrelHi)
    (hplt : s.throughPlt link inp = some (p, e)) (hin : s.rel.offset.toNat + 4 ≤ st.contents.length)
    (h : relocateIfunc link inp st s p e = .ok st') :
    HiRound link inp s (hiTarget link inp st s) (recordedAddend link inp s) st st' := by
  have hrec : recordedAddend link inp s = 0 := by simp [recordedAddend, hplt]
  rw [hrec]
  unfold relocateIfunc at h
  dsimp only at h
  split at h
  case h_3 =>
    rename_i ht
    split at h
    · exact absurd h (by simp)
    · rename_i st₁ slot hgot
      obtain ⟨hc, hh, -⟩ := ifuncGot_frame hgot
      have htarget : hiTarget link inp st s = slot := by
        have hgot' : ifuncGot link st p e (pltAddress link e) = some (st₁, slot) := hgot
        simp [hiTarget, hplt, ht, hgot']
      rw [htarget]
      exact hiRound_record htype hin hc hh h
  case h_9 =>
    rename_i ht
    split at h
    · exact absurd h (by simp)
    · have htarget : hiTarget link inp st s = pltAddress link e := by simp [hiTarget, hplt, ht]
      rw [htarget]
      exact hiRound_record htype hin rfl rfl h
  any_goals
    rename_i ht
    rw [ht] at htype
    exact absurd htype (by decide)
  exact absurd h (by simp)

/-- The round of a high part: nothing is recorded, or the instruction stands as recorded. -/
theorem relocateOne_hiRound {hi : Rela} (htype : hi.type.isPcrelHi) (hs : relocSymbol link inp hi = .ok s)
    (hin : hi.offset.toNat + 4 ≤ st.contents.length) (h : relocateOne link inp st hi = .ok st') :
    st'.hiRelocs = st.hiRelocs ∨ HiRound link inp s (hiTarget link inp st s) (recordedAddend link inp s) st st' := by
  have hrel := relocSymbol_rel hs
  have htype' : s.rel.type.isPcrelHi := by rw [hrel]; exact htype
  have hin' : s.rel.offset.toNat + 4 ≤ st.contents.length := by rw [hrel]; exact hin
  unfold relocateOne at h
  rw [hs] at h
  dsimp only at h
  split at h
  · cases h
    exact .inl rfl
  · split at h
    · cases h
      exact .inl rfl
    · split at h
      · rename_i hnone
        exact .inr (relocatePlain_hiRound htype' (by simp [RelocSym.throughPlt, hnone]) hin' h)
      · rename_i p e hsome
        split at h
        · rename_i halloc
          exact .inr (relocateIfunc_hiRound htype' (by simp [RelocSym.throughPlt, halloc, hsome]) hin' h)
        · rename_i halloc
          split at h
          · exact .inr (relocatePlain_hiRound htype' (by simp [RelocSym.throughPlt, halloc]) hin' h)
          · split at h
            · cases h
              exact .inl rfl
            · exact absurd h (by simp)

end High

/-! ## What the pair computes -/

theorem Xlen.congr_rv32 (a b : Vma) : Xlen.rv32.Congr a b ↔ a.toNat % 2 ^ 32 = b.toNat % 2 ^ 32 := by
  rw [Xlen.Congr, ← BitVec.toNat_inj, BitVec.toNat_setWidth, BitVec.toNat_setWidth]

theorem Xlen.congr_add_left (xlen : Xlen) (x a b : Vma) : xlen.Congr (x + a) (x + b) ↔ xlen.Congr a b := by
  cases xlen with
  | rv64 => exact BitVec.add_right_inj x
  | rv32 =>
    rw [Xlen.congr_rv32, Xlen.congr_rv32, BitVec.toNat_add, BitVec.toNat_add]
    omega

/-- A U-type immediate, as far as a register of the target goes. -/
theorem Xlen.congr_sext_high {xlen : Xlen} {x d : Vma} (y : Vma)
    (hvalid : xlen = .rv64 → validUtypeImm (constHighPart x)) :
    xlen.Congr (sext 32 (constHighPart x) - constHighPart y) d → d.toNat % 4096 = 0 := by
  have hx := constHighPart_mod x
  have hy := constHighPart_mod y
  cases xlen with
  | rv64 =>
    have hv := hvalid rfl
    rw [validUtypeImm, decide_eq_true_iff, extract_encodeUtypeImm hx] at hv
    rw [hv]
    rintro rfl
    rw [BitVec.toNat_sub]
    omega
  | rv32 =>
    have hsext := toNat_sext_mod (constHighPart x) (n := 32) (by decide) (by decide)
    rw [Xlen.congr_rv32, BitVec.toNat_sub]
    omega

theorem Xlen.congr_sext_of_eq {xlen : Xlen} {x y d : Vma} (hvalid : xlen = .rv64 → validUtypeImm (constHighPart x))
    (h : constHighPart x = constHighPart y + d) : xlen.Congr (sext 32 (constHighPart x) - constHighPart y) d := by
  cases xlen with
  | rv64 =>
    have hv := hvalid rfl
    rw [validUtypeImm, decide_eq_true_iff, extract_encodeUtypeImm (constHighPart_mod x)] at hv
    rw [hv, h, Xlen.Congr]
    grind
  | rv32 =>
    have hsext := toNat_sext_mod (constHighPart x) (n := 32) (by decide) (by decide)
    rw [h, BitVec.toNat_add, ← h] at hsext
    rw [Xlen.congr_rv32, BitVec.toNat_sub]
    omega

/-- The two instructions compute the target and both addends exactly when the low part knows the addend of
the high part, or that addend does not reach into the low part. -/
theorem HiPlaced.pair_iff {xlen : Xlen} {pc target addend recorded base value old word k : Vma}
    (h : HiPlaced xlen pc target addend recorded base value old word) (hrec : recorded = addend ∨ recorded = 0)
    (hcarry : constHighPart value = constHighPart (value + k)) :
    xlen.Congr (base + extractUtypeImm word + sext 12 (value + k)) (target + addend + k) ↔
      recorded = addend ∨ addend.toNat % 4096 = 0 := by
  have hlow := constHighPart_add_sext (value + k)
  have hden := h.denotes
  rw [← hcarry] at hlow
  -- both sides are `base + value + k` and a rest
  have hleft : base + extractUtypeImm word + sext 12 (value + k) =
      (base + value + k) + (extractUtypeImm word - constHighPart value) := by grind
  have hright : target + addend + k = (base + value + k) + (addend - recorded) := by grind
  rw [hleft, hright, Xlen.congr_add_left, h.imm]
  have hdiff : recorded = addend ∨ addend.toNat % 4096 = 0 ↔ (addend - recorded).toNat % 4096 = 0 := by
    rcases hrec with rfl | rfl
    · simp
    · rw [show addend - 0 = addend from BitVec.sub_zero addend]
      exact or_iff_right_of_imp fun h => h ▸ rfl
  rw [hdiff]
  constructor
  · exact Xlen.congr_sext_high value h.valid
  · intro hdvd
    exact Xlen.congr_sext_of_eq h.valid ((constHighPart_add_eq_iff value _).mpr hdvd)

/-! ## The low part -/

/-- The symbol of a low part is a plain label: no IFUNC, and not in a discarded section. -/
structure PlainLabel (link : Link) (s : RelocSym) : Prop where
  kept : s.sec.any link.discardedSection = false
  noIfunc : s.ifunc = none

section Low

variable {link : Link} {inp : Input} {st st' : RelocState}

/-- The round of a low part puts it on the list. -/
theorem relocateOne_lo {lo : Rela} {s : RelocSym} (hfinal : link.type ≠ .relocatable) (htype : lo.type.isPcrelLo)
    (hs : relocSymbol link inp lo = .ok s) (hlabel : PlainLabel link s) (h : relocateOne link inp st lo = .ok st') :
    st'.loRelocs = ⟨s.relocation, s.rel⟩ :: st.loRelocs := by
  have htype' : s.rel.type = .pcrelLo12I ∨ s.rel.type = .pcrelLo12S := by
    rw [relocSymbol_rel hs]
    exact isPcrelLo_cases htype
  unfold relocateOne at h
  simp only [hs, hlabel.kept, hlabel.noIfunc, hfinal, Bool.false_eq_true, if_false] at h
  rcases htype' with ht | ht
  all_goals
    rw [relocatePlain, ht] at h
    dsimp only at h
    split at h
    · exact absurd h (by simp)
    · cases h
      rfl

/-- What resolving one low part does to the bytes. -/
theorem resolvePcrelLoReloc_ok {tgt : Target} {secAddr : Vma} {his : List PcrelHiReloc} {c c' : List Byte}
    {r : PcrelLoReloc} (h : resolvePcrelLoReloc tgt secAddr his c r = .ok c') :
    ∃ entry, riscvFindPcrelHiReloc his r.address = some entry ∧
      constHighPart entry.value = constHighPart (entry.value + r.rel.addend) ∧
      c' = (performRelocation tgt r.rel entry.value secAddr c).2 := by
  unfold resolvePcrelLoReloc at h
  split at h
  · exact absurd h (by simp)
  · rename_i entry hfind
    split at h
    · exact absurd h (by simp)
    · split at h
      · exact absurd h (by simp)
      · rename_i hcarry
        cases h
        exact ⟨entry, hfind, not_not.mp hcarry, rfl⟩

/-- A low part that lies in the buffer, and apart from the four bytes at `x`. -/
structure LoApart (len x : Nat) (r : PcrelLoReloc) : Prop where
  lo : r.rel.type.isPcrelLo
  inside : r.rel.offset.toNat + 4 ≤ len
  apart : x + 4 ≤ r.rel.offset.toNat ∨ r.rel.offset.toNat + 4 ≤ x

theorem isPcrelLo_extent (type : RelocType) (h : type.isPcrelLo) (c : List Byte) (off : Nat) :
    extent type c off = 4 := by
  cases type <;> first | rfl | exact absurd h (by decide)

theorem performRelocation_lo_sameOutside (tgt : Target) {rel : Rela} (value secAddr : Vma) {c : List Byte}
    (htype : rel.type.isPcrelLo) (hin : rel.offset.toNat + 4 ≤ c.length) :
    SameOutside rel.offset.toNat 4 c (performRelocation tgt rel value secAddr c).2 := by
  have hext := isPcrelLo_extent rel.type htype c rel.offset.toNat
  have hframe := performRelocation_sameOutside tgt rel value secAddr (hext.symm ▸ hin)
  rwa [hext] at hframe

/-- Resolving low parts leaves every instruction apart from them alone. -/
theorem riscvResolvePcrelLoRelocs_frame {tgt : Target} {secAddr : Vma} {his : List PcrelHiReloc} {x : Nat}
    (rs : List PcrelLoReloc) : ∀ {c c' : List Byte}, (∀ r ∈ rs, LoApart c.length x r) →
      riscvResolvePcrelLoRelocs tgt secAddr his rs c = .ok c' → getl 4 c' x = getl 4 c x ∧ c'.length = c.length := by
  induction rs with
  | nil =>
    intro c c' _ h
    cases h
    exact ⟨rfl, rfl⟩
  | cons r rs ih =>
    intro c c' hapart h
    rw [riscvResolvePcrelLoRelocs] at h
    split at h
    · exact absurd h (by simp)
    · rename_i c₁ hone
      have hr := hapart r (List.mem_cons_self ..)
      obtain ⟨entry, -, -, rfl⟩ := resolvePcrelLoReloc_ok hone
      have hframe := performRelocation_lo_sameOutside tgt entry.value secAddr hr.lo hr.inside
      have hrest := ih (fun r' h' => hframe.length.symm ▸ hapart r' (List.mem_cons_of_mem _ h')) h
      rw [hrest.1, hrest.2, hframe.length]
      exact ⟨hframe.getl hr.apart, rfl⟩

theorem riscvResolvePcrelLoRelocs_append {tgt : Target} {secAddr : Vma} {his : List PcrelHiReloc}
    (rs rs' : List PcrelLoReloc) (c : List Byte) :
    riscvResolvePcrelLoRelocs tgt secAddr his (rs ++ rs') c =
      match riscvResolvePcrelLoRelocs tgt secAddr his rs c with
      | .error e => .error e
      | .ok c => riscvResolvePcrelLoRelocs tgt secAddr his rs' c := by
  induction rs generalizing c with
  | nil => rfl
  | cons r rs ih =>
    simp only [List.cons_append, riscvResolvePcrelLoRelocs]
    split
    · rfl
    · exact ih _

end Low

/-! ## One instruction in a section -/

/-- The relocation writes apart from the four bytes at `x`. -/
def Rela.WritesApart (rel : Rela) (contents : List Byte) (x : Nat) : Prop :=
  x + 4 ≤ rel.offset.toNat ∨ rel.offset.toNat + extent rel.type contents rel.offset.toNat ≤ x

/-- No relocation writes behind the end of the section. -/
def Inside (link : Link) (inp : Input) (relocs : List Rela) (st : RelocState) : Prop :=
  ∀ k rel s, relocs[k]? = some rel → relocateLoop link inp (relocs.take k) st = .ok s →
    rel.offset.toNat + extent rel.type s.contents rel.offset.toNat ≤ s.contents.length

/-- No relocation but number `i` writes to the four bytes at `x`. -/
def OnlyWriter (link : Link) (inp : Input) (relocs : List Rela) (st : RelocState) (i x : Nat) : Prop :=
  ∀ k rel s, relocs[k]? = some rel → relocateLoop link inp (relocs.take k) st = .ok s → k ≠ i →
    rel.WritesApart s.contents x

section Instruction

variable {link : Link} {inp : Input} {relocs : List Rela} {st : RelocState} {i x : Nat}

/-- No round changes the length of the section. -/
theorem Inside.length_eq (h : Inside link inp relocs st) {k : Nat} {s : RelocState} (hk : k ≤ relocs.length)
    (hs : relocateLoop link inp (relocs.take k) st = .ok s) : s.contents.length = st.contents.length := by
  refine relocateLoop_invariant (P := fun s => s.contents.length = st.contents.length) (Nat.zero_le k) hk rfl rfl ?_ hs
  intro k rel s s' _ _ hrel hs hone hlen
  rw [((relocateOne_round hone).bytes (h k rel s hrel hs)).length, hlen]

/-- Between two positions without its writer an instruction stays. -/
theorem Inside.word_eq (h : Inside link inp relocs st) (hw : OnlyWriter link inp relocs st i x) {a b : Nat}
    {sa sb : RelocState} (hab : a ≤ b) (hb : b ≤ relocs.length) (hne : ∀ k, a ≤ k → k < b → k ≠ i)
    (ha : relocateLoop link inp (relocs.take a) st = .ok sa) (hsb : relocateLoop link inp (relocs.take b) st = .ok sb) :
    getl 4 sb.contents x = getl 4 sa.contents x := by
  refine relocateLoop_invariant (P := fun s => getl 4 s.contents x = getl 4 sa.contents x) hab hb ha rfl ?_ hsb
  intro k rel s s' hak hkb hrel hs hone heq
  have hframe := (relocateOne_round hone).bytes (h k rel s hrel hs)
  rw [hframe.getl (hw k rel s hrel hs (hne k hak hkb)), heq]

variable (link inp relocs st) in
/-- The low part was put on the list in the round of relocation `k`. -/
def FromRound (k : Nat) (r : PcrelLoReloc) : Prop :=
  ∃ rel s, relocs[k]? = some rel ∧ relocateLoop link inp (relocs.take k) st = .ok s ∧ rel.type.isPcrelLo ∧
    r.rel = { rel with addend := r.rel.addend }

/-- Between two positions the list grows by low parts of the relocations there. -/
theorem loRelocs_from {a b : Nat} {sa sb : RelocState} (hab : a ≤ b)
    (hb : b ≤ relocs.length) (ha : relocateLoop link inp (relocs.take a) st = .ok sa)
    (hsb : relocateLoop link inp (relocs.take b) st = .ok sb) :
    ∃ rs, sb.loRelocs = rs ++ sa.loRelocs ∧ ∀ r ∈ rs, ∃ k, a ≤ k ∧ k < b ∧ FromRound link inp relocs st k r := by
  refine relocateLoop_invariant
    (P := fun s => ∃ rs, s.loRelocs = rs ++ sa.loRelocs ∧
      ∀ r ∈ rs, ∃ k, a ≤ k ∧ k < b ∧ FromRound link inp relocs st k r)
    hab hb ha ⟨[], rfl, by simp⟩ ?_ hsb
  rintro k rel s s' hak hkb hrel hs hone ⟨rs, heq, hrs⟩
  rcases (relocateOne_round hone).lo with hsame | ⟨r, htype, hr, hcons⟩
  · exact ⟨rs, by rw [hsame, heq], hrs⟩
  · refine ⟨r :: rs, by rw [hcons, heq]; rfl, ?_⟩
    intro r' hr'
    rcases List.mem_cons.mp hr' with rfl | hmem
    · exact ⟨k, hak, hkb, rel, s, hrel, hs, htype, hr⟩
    · exact hrs r' hmem

/-- Such a low part lies apart from the instructions that its relocation lies apart from. -/
theorem Inside.loApart (h : Inside link inp relocs st) {k : Nat} {r : PcrelLoReloc}
    (hr : FromRound link inp relocs st k r)
    (hx : ∀ rel s, relocs[k]? = some rel → relocateLoop link inp (relocs.take k) st = .ok s →
      rel.WritesApart s.contents x) : LoApart st.contents.length x r := by
  obtain ⟨rel, s, hrel, hs, htype, heq⟩ := hr
  have hk : k < relocs.length := (List.getElem?_eq_some_iff.mp hrel).1
  have hext := isPcrelLo_extent rel.type htype s.contents rel.offset.toNat
  have hin := h k rel s hrel hs
  have hapart := hx rel s hrel hs
  rw [hext, h.length_eq hk.le hs] at hin
  rw [Rela.WritesApart, hext] at hapart
  refine ⟨?_, ?_, ?_⟩ <;> rw [heq]
  · exact htype
  · exact hin
  · exact hapart

/-- What the round of relocation `i` makes of the instructions that no other one writes to is in the section in the
end. -/
theorem Inside.section_round (h : Inside link inp relocs st) {rel : Rela} {st' : RelocState}
    (hrel : relocs[i]? = some rel) (hlow : rel.type.isPcrelLo = false) (hlo : st.loRelocs = [])
    (hrun : riscvElfRelocateSection link inp relocs st = .ok st') :
    ∃ s₀ s₁, relocateOne link inp s₀ rel = .ok s₁ ∧
      rel.offset.toNat + extent rel.type s₀.contents rel.offset.toNat ≤ s₀.contents.length ∧
      ∀ x, OnlyWriter link inp relocs st i x →
        getl 4 s₀.contents x = getl 4 st.contents x ∧ getl 4 st'.contents x = getl 4 s₁.contents x := by
  have hi : i < relocs.length := (List.getElem?_eq_some_iff.mp hrel).1
  unfold riscvElfRelocateSection at hrun
  split at hrun
  · exact absurd hrun (by simp)
  rename_i sf hloop
  split at hrun
  · exact absurd hrun (by simp)
  rename_i c hres
  cases hrun
  obtain ⟨s₀, s₁, hs₀, hone, hs₁⟩ := relocateLoop_round hrel hloop
  rw [← List.take_length (l := relocs)] at hloop
  have hlen := h.length_eq le_rfl hloop
  obtain ⟨rs, hrs, hfrom⟩ := loRelocs_from (Nat.zero_le _) le_rfl rfl hloop
  rw [hlo, List.append_nil] at hrs
  refine ⟨s₀, s₁, hone, h i rel s₀ hrel hs₀, fun x hw => ⟨?_, ?_⟩⟩
  · exact h.word_eq hw (Nat.zero_le i) hi.le (fun k _ hk => hk.ne) rfl hs₀
  -- the low parts that are resolved after the loop come from other relocations
  have hlast : getl 4 c x = getl 4 sf.contents x := by
    refine (riscvResolvePcrelLoRelocs_frame sf.loRelocs ?_ hres).1
    intro r hr
    rw [hrs] at hr
    obtain ⟨k, -, -, hround⟩ := hfrom r hr
    rw [hlen]
    refine h.loApart hround fun rel' s hrel' hs => hw k rel' s hrel' hs ?_
    rintro rfl
    obtain ⟨rel'', -, hrel'', -, htype, -⟩ := hround
    rw [hrel, Option.some.injEq] at hrel''
    rw [← hrel'', hlow] at htype
    cases htype
  exact hlast.trans (h.word_eq hw hi le_rfl (fun k hk _ => (Nat.lt_of_succ_le hk).ne') hs₁ hloop)

/-- What its one writer makes of an instruction is in the section in the end. -/
theorem Inside.section_word (h : Inside link inp relocs st) (hw : OnlyWriter link inp relocs st i x) {rel : Rela}
    {st' : RelocState} (hrel : relocs[i]? = some rel) (hlow : rel.type.isPcrelLo = false) (hlo : st.loRelocs = [])
    (hrun : riscvElfRelocateSection link inp relocs st = .ok st') :
    ∃ s₀ s₁, relocateOne link inp s₀ rel = .ok s₁ ∧
      rel.offset.toNat + extent rel.type s₀.contents rel.offset.toNat ≤ s₀.contents.length ∧
      getl 4 s₀.contents x = getl 4 st.contents x ∧ getl 4 st'.contents x = getl 4 s₁.contents x := by
  obtain ⟨s₀, s₁, hone, hin, hwords⟩ := h.section_round hrel hlow hlo hrun
  exact ⟨s₀, s₁, hone, hin, hwords x hw⟩

end Instruction

/-! ## A pair in a section -/

/-- A high part `hi` and a low part `lo` whose label is the place of `hi`, in a section where no other
relocation writes into the two instructions. -/
structure PcrelPair (link : Link) (inp : Input) (relocs : List Rela) (st : RelocState) (i j : Nat) (hi lo : Rela)
    (label : RelocSym) : Prop where
  atHi : relocs[i]? = some hi
  atLo : relocs[j]? = some lo
  hiType : hi.type.isPcrelHi
  loType : lo.type.isPcrelLo
  symbol : relocSymbol link inp lo = .ok label
  plain : PlainLabel link label
  designates : label.relocation = link.secAddr inp.sec + hi.offset
  auipc : getl 4 st.contents hi.offset.toNat &&& maskAuipc = matchAuipc
  unique : ∀ k rel, relocs[k]? = some rel → rel.type.isPcrelHi → rel.offset = hi.offset → k = i
  inside : ∀ k rel s, relocs[k]? = some rel → relocateLoop link inp (relocs.take k) st = .ok s →
    rel.offset.toNat + extent rel.type s.contents rel.offset.toNat ≤ s.contents.length
  hiAlone : ∀ k rel s, relocs[k]? = some rel → relocateLoop link inp (relocs.take k) st = .ok s → k ≠ i →
    rel.WritesApart s.contents hi.offset.toNat
  loAlone : ∀ k rel s, relocs[k]? = some rel → relocateLoop link inp (relocs.take k) st = .ok s → k ≠ j →
    rel.WritesApart s.contents lo.offset.toNat

namespace PcrelPair

variable {link : Link} {inp : Input} {relocs : List Rela} {st : RelocState} {i j : Nat} {hi lo : Rela}
  {label : RelocSym}

/-- Between two positions without the high part the record for its place stays. -/
theorem hiRecord_eq (h : PcrelPair link inp relocs st i j hi lo label) {a b : Nat} {sa sb : RelocState} (hab : a ≤ b)
    (hb : b ≤ relocs.length) (hne : ∀ k, a ≤ k → k < b → k ≠ i)
    (ha : relocateLoop link inp (relocs.take a) st = .ok sa) (hsb : relocateLoop link inp (relocs.take b) st = .ok sb) :
    riscvFindPcrelHiReloc sb.hiRelocs (link.secAddr inp.sec + hi.offset) =
      riscvFindPcrelHiReloc sa.hiRelocs (link.secAddr inp.sec + hi.offset) := by
  refine relocateLoop_invariant
    (P := fun s => riscvFindPcrelHiReloc s.hiRelocs (link.secAddr inp.sec + hi.offset) =
      riscvFindPcrelHiReloc sa.hiRelocs (link.secAddr inp.sec + hi.offset)) hab hb ha rfl ?_ hsb
  intro k rel s s' hak hkb hrel hs hone heq
  rcases (relocateOne_round hone).hi with hsame | ⟨e, htype, haddr, hcons⟩
  · rw [hsame, heq]
  · have hother : e.address ≠ link.secAddr inp.sec + hi.offset := by
      intro heq'
      rw [haddr] at heq'
      exact hne k hak hkb (h.unique k rel hrel htype ((BitVec.add_right_inj _).mp heq'))
    rw [hcons, riscvFindPcrelHiReloc, List.find?_cons_of_neg (by simpa using hother)]
    exact heq

/-- The list of low parts at the end, with `lo` and the ones around it. -/
theorem loRelocs_split (h : PcrelPair link inp relocs st i j hi lo label) (hfinal : link.type ≠ .relocatable)
    (hlo : st.loRelocs = []) {sf : RelocState} (hloop : relocateLoop link inp relocs st = .ok sf) :
    ∃ rs rs', sf.loRelocs = rs ++ ⟨label.relocation, label.rel⟩ :: rs' ∧
      FromRound link inp relocs st j ⟨label.relocation, label.rel⟩ ∧
      ∀ r ∈ rs ++ rs', ∃ k, k ≠ j ∧ FromRound link inp relocs st k r := by
  have hj : j < relocs.length := (List.getElem?_eq_some_iff.mp h.atLo).1
  obtain ⟨t₀, t₁, ht₀, hone, ht₁⟩ := relocateLoop_round h.atLo hloop
  rw [← List.take_length (l := relocs)] at hloop
  obtain ⟨rs', hrs', hfrom'⟩ := loRelocs_from (Nat.zero_le j) hj.le rfl ht₀
  obtain ⟨rs, hrs, hfrom⟩ := loRelocs_from hj le_rfl ht₁ hloop
  rw [hlo, List.append_nil] at hrs'
  rw [relocateOne_lo hfinal h.loType h.symbol h.plain hone, hrs'] at hrs
  refine ⟨rs, rs', hrs, ⟨lo, t₀, h.atLo, ht₀, h.loType, relocSymbol_rel h.symbol⟩, ?_⟩
  intro r hr
  rcases List.mem_append.mp hr with hmem | hmem
  · obtain ⟨k, hk, -, hround⟩ := hfrom r hmem
    exact ⟨k, by omega, hround⟩
  · obtain ⟨k, -, hk, hround⟩ := hfrom' r hmem
    exact ⟨k, by omega, hround⟩

/-- A low part is no high part. -/
theorem fromRound_ne (h : PcrelPair link inp relocs st i j hi lo label) {k : Nat} {r : PcrelLoReloc}
    (hr : FromRound link inp relocs st k r) : k ≠ i := by
  rintro rfl
  obtain ⟨rel, -, hrel, -, htype, -⟩ := hr
  rw [h.atHi, Option.some.injEq] at hrel
  have hhi := h.hiType
  rw [hrel] at hhi
  revert htype hhi
  cases rel.type <;> decide

/-- The low instruction at the end: the record that was found, and the immediate. -/
theorem resolved (h : PcrelPair link inp relocs st i j hi lo label) (hfinal : link.type ≠ .relocatable)
    (hlo : st.loRelocs = []) {sf : RelocState} {c : List Byte} (hloop : relocateLoop link inp relocs st = .ok sf)
    (hres : riscvResolvePcrelLoRelocs link.target (link.secAddr inp.sec) sf.hiRelocs sf.loRelocs sf.contents = .ok c) :
    getl 4 c hi.offset.toNat = getl 4 sf.contents hi.offset.toNat ∧
      ∃ entry, riscvFindPcrelHiReloc sf.hiRelocs (link.secAddr inp.sec + hi.offset) = some entry ∧
        constHighPart entry.value = constHighPart (entry.value + label.rel.addend) ∧
        (if lo.type = .pcrelLo12S then extractStypeImm (getl 4 c lo.offset.toNat)
          else extractItypeImm (getl 4 c lo.offset.toNat)) = sext 12 (entry.value + label.rel.addend) := by
  have hlen : sf.contents.length = st.contents.length := by
    apply Inside.length_eq h.inside le_rfl
    rwa [List.take_length]
  have hrel := relocSymbol_rel h.symbol
  obtain ⟨rs, rs', hsplit, hround, hfrom⟩ := h.loRelocs_split hfinal hlo hloop
  have hself : LoApart st.contents.length hi.offset.toNat ⟨label.relocation, label.rel⟩ :=
    Inside.loApart h.inside hround fun rel s hk hs => h.hiAlone j rel s hk hs (h.fromRound_ne hround)
  have hapart : ∀ r ∈ rs ++ rs', LoApart st.contents.length lo.offset.toNat r := by
    intro r hr
    obtain ⟨k, hk, hr'⟩ := hfrom r hr
    exact Inside.loApart h.inside hr' fun rel s hrel hs => h.loAlone k rel s hrel hs hk
  constructor
  · apply (riscvResolvePcrelLoRelocs_frame sf.loRelocs ?_ hres).1
    intro r hr
    rw [hlen]
    rw [hsplit, List.mem_append, List.mem_cons] at hr
    rcases hr with hmem | rfl | hmem
    · obtain ⟨k, hk, hr'⟩ := hfrom r (List.mem_append_left _ hmem)
      exact Inside.loApart h.inside hr' fun rel s hrel hs => h.hiAlone k rel s hrel hs (h.fromRound_ne hr')
    · exact hself
    · obtain ⟨k, hk, hr'⟩ := hfrom r (List.mem_append_right _ hmem)
      exact Inside.loApart h.inside hr' fun rel s hrel hs => h.hiAlone k rel s hrel hs (h.fromRound_ne hr')
  · rw [hsplit, riscvResolvePcrelLoRelocs_append] at hres
    split at hres
    · exact absurd hres (by simp)
    · rename_i c₁ hc₁
      rw [riscvResolvePcrelLoRelocs] at hres
      split at hres
      · exact absurd hres (by simp)
      · rename_i c₂ hc₂
        obtain ⟨entry, hfind, hcarry, rfl⟩ := resolvePcrelLoReloc_ok hc₂
        have hlen₁ := (riscvResolvePcrelLoRelocs_frame rs
          (fun r hr => hlen.symm ▸ hapart r (List.mem_append_left _ hr)) hc₁).2
        have hin : label.rel.offset.toNat + 4 ≤ c₁.length := by
          rw [hlen₁, hlen]
          exact hself.inside
        have hframe := performRelocation_lo_sameOutside link.target entry.value (link.secAddr inp.sec) hself.lo hin
        have hlast := (riscvResolvePcrelLoRelocs_frame rs'
          (fun r hr => (hframe.length.trans (hlen₁.trans hlen)).symm ▸ hapart r (List.mem_append_right _ hr)) hres).1
        have himm := performRelocation_lo link.target entry.value (link.secAddr inp.sec) hself.lo
          (Nat.le_of_add_right_le hin)
        rw [hrel] at himm hlast
        dsimp only at himm hfind
        rw [h.designates] at hfind
        refine ⟨entry, hfind, hcarry, ?_⟩
        rw [hlast]
        exact himm

/-- The high instruction at the end: it stands as it was placed, and the record is there if one was made. -/
theorem highPart (h : PcrelPair link inp relocs st i j hi lo label) (hhi : st.hiRelocs = []) {s : RelocSym}
    (hs : relocSymbol link inp hi = .ok s) {sf : RelocState} (hloop : relocateLoop link inp relocs st = .ok sf) :
    ∃ s₀, relocateLoop link inp (relocs.take i) st = .ok s₀ ∧
      ∀ entry, riscvFindPcrelHiReloc sf.hiRelocs (link.secAddr inp.sec + hi.offset) = some entry →
        ∃ base, HiPlaced link.xlen (link.secAddr inp.sec + hi.offset) (hiTarget link inp s₀ s) s.rel.addend
          (recordedAddend link inp s) base entry.value (getl 4 st.contents hi.offset.toNat)
          (getl 4 sf.contents hi.offset.toNat) := by
  have hi' : i < relocs.length := (List.getElem?_eq_some_iff.mp h.atHi).1
  obtain ⟨s₀, s₁, hs₀, hone, hs₁⟩ := relocateLoop_round h.atHi hloop
  rw [← List.take_length (l := relocs)] at hloop
  have hbefore := Inside.word_eq h.inside h.hiAlone (Nat.zero_le i) hi'.le (fun k _ hk => hk.ne) rfl hs₀
  have hafter := Inside.word_eq h.inside h.hiAlone hi' le_rfl (fun k hk _ => (Nat.lt_of_succ_le hk).ne') hs₁ hloop
  have hnone := h.hiRecord_eq (Nat.zero_le i) hi'.le (fun k _ hk => hk.ne) rfl hs₀
  have hkept := h.hiRecord_eq hi' le_rfl (fun k hk _ => (Nat.lt_of_succ_le hk).ne') hs₁ hloop
  have hin := h.inside i hi s₀ h.atHi hs₀
  rw [isPcrelHi_extent hi.type h.hiType] at hin
  have hrel := relocSymbol_rel hs
  refine ⟨s₀, hs₀, fun entry hfind => ?_⟩
  rw [hkept] at hfind
  rcases relocateOne_hiRound h.hiType hs hin hone with hsame | ⟨base, value, hcons, hplaced⟩
  · -- without a record there is nothing to find
    rw [hsame, hnone, hhi] at hfind
    exact absurd hfind (by simp [riscvFindPcrelHiReloc])
  · rw [hrel] at hcons hplaced
    rw [hcons, riscvFindPcrelHiReloc, List.find?_cons_of_pos (by simp), Option.some.injEq] at hfind
    refine ⟨base, ?_⟩
    rw [← hfind, hafter, ← hbefore]
    rw [hrel]
    exact hplaced

end PcrelPair

/-- When a section is relocated without an error, a high part and a low part that names it compute the
target, with both addends, exactly when the high part is against a symbol's own address, or its addend is a
multiple of 4096. -/
theorem pcrelPair_exact_iff {link : Link} {inp : Input} {relocs : List Rela} {st st' : RelocState} {i j : Nat}
    {hi lo : Rela} {s label : RelocSym} (hfinal : link.type ≠ .relocatable) (hhi : st.hiRelocs = [])
    (hlo : st.loRelocs = []) (h : PcrelPair link inp relocs st i j hi lo label)
    (hs : relocSymbol link inp hi = .ok s) (hrun : riscvElfRelocateSection link inp relocs st = .ok st') :
    ∃ s₀, relocateLoop link inp (relocs.take i) st = .ok s₀ ∧
      (link.xlen.Congr
          (pairValue (link.secAddr inp.sec + hi.offset) (getl 4 st'.contents hi.offset.toNat) lo.type
            (getl 4 st'.contents lo.offset.toNat))
          (hiTarget link inp s₀ s + s.rel.addend + label.rel.addend) ↔
        ((s.throughPlt link inp).isNone ∧ hi.type = .pcrelHi20) ∨ s.rel.addend.toNat % 4096 = 0) := by
  unfold riscvElfRelocateSection at hrun
  split at hrun
  · exact absurd hrun (by simp)
  rename_i sf hloop
  split at hrun
  · exact absurd hrun (by simp)
  rename_i c hres
  cases hrun
  obtain ⟨s₀, hs₀, hplaced⟩ := h.highPart hhi hs hloop
  obtain ⟨hword, entry, hfind, hcarry, himm⟩ := h.resolved hfinal hlo hloop hres
  obtain ⟨base, hp⟩ := hplaced entry hfind
  have hbase : (if getl 4 c hi.offset.toNat &&& maskAuipc = matchLui then 0 else link.secAddr inp.sec + hi.offset) =
      base := by
    rw [hword]
    rcases hp.opcode with ⟨hb, hop⟩ | ⟨hb, hop⟩
    · rw [hop, h.auipc, if_neg (by decide), hb]
    · rw [if_pos hop, hb]
  have hrel := relocSymbol_rel hs
  have htype : s.rel.type = hi.type := by rw [hrel]
  have hrec : recordedAddend link inp s = s.rel.addend ∨ recordedAddend link inp s = 0 := by
    unfold recordedAddend
    split
    · exact .inl rfl
    · exact .inr rfl
  refine ⟨s₀, hs₀, ?_⟩
  rw [pairValue, hbase, himm, hword, hp.pair_iff hrec hcarry]
  unfold recordedAddend
  rw [htype]
  by_cases hplain : (s.throughPlt link inp).isNone ∧ hi.type = .pcrelHi20
  · rw [if_pos hplain]
    simp [hplain]
  · rw [if_neg hplain]
    simp only [hplain, false_or]
    exact or_iff_right_of_imp fun h => h ▸ rfl

/-- Code at 0x10000 and the GOT at 0x20000. -/
def pairLink : Link where
  xlen := .rv64
  sections := fun n => { output := some n }
  outputs := fun n => { vma := if n = 0 then 0x10000 else 0x20000 }
  ownerSections := [0, 1]
  absSection := 9
  absOutput := 9
  undSection := 8
  splt := 7
  sgot := some 1

/-- A label at the start of the code, and a variable with a GOT entry. -/
def pairInput : Input where
  sec := 0
  elfSections := fun shndx => shndx - 1
  locals := [⟨0, 0, 0, .notype⟩, ⟨0, 0, 1, .notype⟩, ⟨0x30, 8, 2, .object⟩]
  symHashes := []
  hashes := []
  localGotTlsType := fun _ => { ie := true }

/-- `auipc a0, 0` and `ld a0, 0(a0)`. -/
def pairState : RelocState where
  contents := [0x17, 0x05, 0, 0, 0x03, 0x35, 0x05, 0]
  localGot := fun _ => 0x10

/-- The high part at the label, with an addend, and the low part that names the label. -/
def pairRelocs (type : RelocType) (addend : Vma) : List Rela :=
  [⟨0, 2, type, addend⟩, ⟨4, 1, .pcrelLo12I, 0⟩]

/-- `%tls_ie_pcrel_hi (x + 8)`: the addend is in the AUIPC, but the low part does not know of it. -/
theorem tlsGot_addend_lost :
    ((riscvElfRelocateSection pairLink pairInput (pairRelocs .tlsGotHi20 8) pairState).toOption.map fun st' =>
        pairValue 0x10000 (getl 4 st'.contents 0) .pcrelLo12I (getl 4 st'.contents 4)) = some 0x20010 ∧
      ((relocSymbol pairLink pairInput ⟨0, 2, .tlsGotHi20, 8⟩).toOption.map fun s =>
        hiTarget pairLink pairInput pairState s + s.rel.addend + 0) = some 0x20018 := by
  decide

/-- The two instructions are a pair, whatever the kind of the high part. -/
theorem pair_linked {type : RelocType} {addend : Vma} (htype : type.isPcrelHi)
    (hlength : ∀ k < 2, ((relocateLoop pairLink pairInput ((pairRelocs type addend).take k) pairState).toOption.map
      fun s => s.contents.length) = some 8) :
    PcrelPair pairLink pairInput (pairRelocs type addend) pairState 0 1 ⟨0, 2, type, addend⟩ ⟨4, 1, .pcrelLo12I, 0⟩
      { rel := ⟨4, 1, .pcrelLo12I, 0⟩, relocation := 0x10000, sec := some 0 } := by
  have hrounds : ∀ k rel s, (pairRelocs type addend)[k]? = some rel →
      relocateLoop pairLink pairInput ((pairRelocs type addend).take k) pairState = .ok s →
      s.contents.length = 8 ∧ (k = 0 ∧ rel = ⟨0, 2, type, addend⟩ ∨ k = 1 ∧ rel = ⟨4, 1, .pcrelLo12I, 0⟩) := by
    intro k rel s hrel hs
    have hk : k < 2 := (List.getElem?_eq_some_iff.mp hrel).1
    have hlen := hlength k hk
    rw [hs] at hlen
    refine ⟨Option.some.inj hlen, ?_⟩
    match k with
    | 0 => exact .inl ⟨rfl, (Option.some.inj hrel).symm⟩
    | 1 => exact .inr ⟨rfl, (Option.some.inj hrel).symm⟩
  have hauipc : getl 4 pairState.contents 0 &&& maskAuipc = matchAuipc := by decide
  refine ⟨rfl, rfl, htype, rfl, rfl, ⟨rfl, rfl⟩, rfl, hauipc, ?_, ?_, ?_, ?_⟩
  · intro k rel hrel hhi _
    have hk : k < 2 := (List.getElem?_eq_some_iff.mp hrel).1
    match k with
    | 0 => rfl
    | 1 =>
      cases Option.some.inj hrel
      exact absurd hhi (by decide)
  · intro k rel s hrel hs
    obtain ⟨hlen, ⟨-, rfl⟩ | ⟨-, rfl⟩⟩ := hrounds k rel s hrel hs
    · rw [isPcrelHi_extent type htype, hlen]
      exact (by decide : 0 + 4 ≤ 8)
    · rw [hlen]
      exact (by decide : 4 + 4 ≤ 8)
  · intro k rel s hrel hs hne
    obtain ⟨-, ⟨h0, -⟩ | ⟨-, rfl⟩⟩ := hrounds k rel s hrel hs
    · exact absurd h0 hne
    · exact .inl (by decide : 0 + 4 ≤ 4)
  · intro k rel s hrel hs hne
    obtain ⟨-, ⟨-, rfl⟩ | ⟨h1, -⟩⟩ := hrounds k rel s hrel hs
    · refine .inr ?_
      rw [isPcrelHi_extent type htype]
      exact (by decide : 0 + 4 ≤ 4)
    · exact absurd h1 hne

theorem relocOutcome_ok {e : RelocOutcome} (h : e.isOk = true) : ∃ st', e = .ok st' := by
  cases e with
  | error e => cases h
  | ok st' => exact ⟨st', rfl⟩

/-- `%pcrel_hi (x + 8)`: the low part was told. -/
theorem pcrelHi_addend_kept : ∃ st',
    riscvElfRelocateSection pairLink pairInput (pairRelocs .pcrelHi20 8) pairState = .ok st' ∧
      pairValue 0x10000 (getl 4 st'.contents 0) .pcrelLo12I (getl 4 st'.contents 4) = 0x20038 := by
  obtain ⟨st', hrun⟩ := (relocOutcome_ok (by decide) :
    ∃ st', riscvElfRelocateSection pairLink pairInput (pairRelocs .pcrelHi20 8) pairState = .ok st')
  have hs : relocSymbol pairLink pairInput ⟨0, 2, .pcrelHi20, 8⟩ =
      .ok { rel := ⟨0, 2, .pcrelHi20, 8⟩, relocation := 0x20030, sec := some 1 } := rfl
  obtain ⟨s₀, -, hiff⟩ := pcrelPair_exact_iff (by decide) rfl rfl (pair_linked rfl (by decide)) hs hrun
  exact ⟨st', hrun, hiff.mpr (.inl ⟨rfl, rfl⟩)⟩

end RiscvBinutils.Bfd
