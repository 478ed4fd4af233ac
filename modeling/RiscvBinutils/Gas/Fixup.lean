/-
Applying fixups (gas/config/tc-riscv.c, `md_apply_fix`).
A fixup names a place in its section, a relocation, a symbol and an addend.  Applying it may write the
instruction or the data there, decide that no relocation is needed, and put another fixup behind it.
-/
import RiscvBinutils.Bfd.Perform

namespace RiscvBinutils.Gas

open RiscvBinutils.Base RiscvBinutils.Opcode RiscvBinutils.Bfd

/-! ## Data -/

/-- The `BFD_RELOC_*` codes that `md_apply_fix` tells apart; `generic` is one without a RISC-V relocation. -/
inductive RelocCode
  | hi20 | lo12I | lo12S | gotHi20
  | add8 | add16 | add32 | add64 | sub6 | sub8 | sub16 | sub32 | sub64
  | set6 | set8 | set16 | set32 | pcrel32
  | relax | setUleb128 | subUleb128
  | tprelHi20 | tprelLo12I | tprelLo12S | tprelAdd | tlsGotHi20 | tlsGdHi20 | tlsDtprel32 | tlsDtprel64
  | bfd8 | bfd16 | bfd32 | bfd64 | cfa | rva
  | jmp | bfd12Pcrel | rvcBranch | rvcJump | call | callPlt
  | pcrelHi20 | pcrelLo12I | pcrelLo12S | align | generic
  deriving DecidableEq, Repr

/-- A symbol after layout: `S_GET_VALUE`, `S_GET_SEGMENT` and `S_IS_LOCAL`. -/
structure Symbol where
  value : Vma
  seg : Nat
  isLocal : Bool := true
  deriving DecidableEq, Repr

/-- `tc_fix_data.source_macro`, as far as it is looked at. -/
inductive SourceMacro
  | none | la | lga
  deriving DecidableEq, Repr

/-- What a `BFD_RELOC_RISCV_CFA` fixup finds: the byte of the instruction, the end of its frag, and the place
in the frag of the instruction. -/
structure Cfa where
  subtype : Nat
  fragEnd : Vma
  opcode : Vma
  deriving DecidableEq, Repr

/-- `fixS`; `address` stands for `fx_frag->fr_address + fx_where`. -/
structure Fix where
  address : Vma
  size : Nat := 4
  rType : RelocCode
  addsy : Option Symbol := none
  subsy : Option Symbol := none
  offset : Vma := 0
  addnumber : Vma := 0
  tcbit : Bool := false
  done : Bool := false
  sourceMacro : SourceMacro := .none
  cfa : Cfa := ⟨0, 0, 0⟩
  deriving DecidableEq, Repr

/-- `riscv_pcrel_hi_fixup`. -/
structure PcrelHiFixup where
  address : Vma
  symbol : Symbol
  target : Vma
  deriving DecidableEq, Repr

/-- What is reported. -/
inductive FixError
  /-- "TLS relocation against a constant". -/
  | tlsAgainstConstant
  /-- `as_bad_subtract`. -/
  | badSubtract
  /-- "internal: bad CFA value #%d". -/
  | badCfaValue
  /-- "internal: bad relocation #%d". -/
  | badRelocation
  deriving DecidableEq, Repr

/-- The bytes of the section, and `riscv_pcrel_hi_fixup_hash`, which all sections share; newest first. -/
structure FixState where
  contents : List Byte
  hiFixups : List PcrelHiFixup := []
  errors : List FixError := []
  deriving DecidableEq, Repr

/-- What `md_apply_fix` looks at beside the fixup: `riscv_opts.relax` at the end of the file, the byte order
of data, and which sections are called `.eh_frame`. -/
structure FixOpts where
  relax : Bool
  bigEndian : Bool := false
  ehFrame : Nat → Bool := fun _ => false

/-- The state, the fixup, and the one put behind it. -/
structure FixResult where
  st : FixState
  fix : Fix
  next : Option Fix := none

/-! ## `md_apply_fix` -/

/-- `riscv_record_pcrel_fixup`; a record for the same address is replaced. -/
def riscvRecordPcrelFixup (st : FixState) (address : Vma) (symbol : Symbol) (target : Vma) : FixState :=
  { st with hiFixups := ⟨address, symbol, target⟩ :: st.hiFixups }

/-- `htab_find` in `riscv_pcrel_hi_fixup_hash`. -/
def riscvFindPcrelFixup (his : List PcrelHiFixup) (address : Vma) : Option PcrelHiFixup :=
  his.find? (·.address = address)

/-- `bfd_putlNN (bfd_getlNN (buf) | bits, buf)`. -/
def FixState.orl (st : FixState) (n : Nat) (address bits : Vma) : FixState :=
  { st with contents := putl n (getl n st.contents address.toNat ||| bits) st.contents address.toNat }

/-- `md_number_to_chars`. -/
def FixState.numberToChars (st : FixState) (opts : FixOpts) (address val : Vma) (n : Nat) : FixState :=
  { st with contents := if opts.bigEndian then putb n val st.contents address.toNat
      else putl n val st.contents address.toNat }

def FixState.error (st : FixState) (e : FixError) : FixState := { st with errors := e :: st.errors }

/-- `riscv_apply_const_reloc`, for the three codes that get here. -/
def riscvApplyConstReloc (rType : RelocCode) (value : Vma) : Vma :=
  match rType with
  | .hi20 => encodeUtypeImm (constHighPart value)
  | .lo12S => encodeStypeImm value
  | _ => encodeItypeImm value

/-- A tentative value, for a fixup with a symbol. -/
def tentative (st : FixState) (fix : Fix) (val : Vma) (n : Nat) (encode : Vma → Vma) : FixResult :=
  match fix.addsy with
  | none => { st, fix }
  | some s => { st := st.orl n fix.address (encode (s.value + val - fix.address)), fix }

/-- The codes a difference is split into: the one of the fixup, and the one of the fixup behind it. -/
def RelocCode.split : RelocCode → RelocCode × RelocCode
  | .bfd64 => (.add64, .sub64)
  | .bfd32 => (.add32, .sub32)
  | .bfd16 => (.add16, .sub16)
  | _ => (.add8, .sub8)

/-- `DW_CFA_advance_loc1`, `2` and `4`. -/
def dwCfaAdvanceLoc1 : Nat := 0x02
def dwCfaAdvanceLoc2 : Nat := 0x03
def dwCfaAdvanceLoc4 : Nat := 0x04

/-- The two fixups of a `BFD_RELOC_RISCV_CFA`, from the two halves of the difference. -/
def splitCfa (fix next : Fix) : Option (Fix × Fix) :=
  let t := fix.cfa.subtype
  let loc := fix.cfa.fragEnd - BitVec.ofNat 64 (t % 8)
  if t = dwCfaAdvanceLoc1 then
    some ({ fix with address := loc + 1, rType := .set8 }, { next with address := loc + 1, rType := .sub8 })
  else if t = dwCfaAdvanceLoc2 then
    some ({ fix with address := loc + 1, size := 2, rType := .set16 },
      { next with address := loc + 1, size := 2, rType := .sub16 })
  else if t = dwCfaAdvanceLoc4 then
    some ({ fix with address := loc, size := 4, rType := .set32 },
      { next with address := loc, size := 4, rType := .sub32 })
  else if t < 0x80 ∧ t / 0x40 % 2 = 1 then
    some ({ fix with address := fix.cfa.opcode, rType := .set6 },
      { next with address := fix.cfa.opcode, rType := .sub6 })
  else none

/-- A value without a symbol is filled in now. -/
def fillConstant (opts : FixOpts) (st : FixState) (fix : Fix) (val : Vma) (next : Option Fix) : FixResult :=
  match fix.addsy with
  | none => { st := st.numberToChars opts fix.address val fix.size, fix := { fix with done := true }, next }
  | some _ => { st, fix, next }

/-- Data: a difference of symbols becomes two fixups. -/
def applyData (opts : FixOpts) (st : FixState) (fix : Fix) (val : Vma) : FixResult :=
  match fix.addsy, fix.subsy with
  | some _, some sub =>
    if fix.rType = .bfd32 ∧ opts.ehFrame sub.seg ∧ sub.value = fix.address then
      { st, fix := { fix with rType := .pcrel32, subsy := none } }
    else
      let next := { fix with addsy := some sub, subsy := none, offset := 0 }
      let fix := { fix with subsy := none }
      if fix.rType = .cfa then
        match splitCfa fix next with
        | none => { st := st.error .badCfaValue, fix }
        | some (fix, next) => fillConstant opts st fix val (some next)
      else
        fillConstant opts st { fix with rType := fix.rType.split.1 } val (some { next with rType := fix.rType.split.2 })
  | _, _ => fillConstant opts st fix val none

/-- `BFD_RELOC_RISCV_PCREL_HI20`: record and evaluate it when the symbol is local and in this section. -/
def applyPcrelHi20 (opts : FixOpts) (seg : Nat) (st : FixState) (fix : Fix) (val : Vma) : FixResult :=
  match fix.addsy with
  | none => { st, fix }
  | some s =>
    if s.isLocal ∧ s.seg = seg then
      let target := s.value + val
      let value := target - fix.address
      let st := riscvRecordPcrelFixup st fix.address s target
      { st := st.orl 4 fix.address (encodeUtypeImm (constHighPart value))
        fix := if opts.relax then fix else { fix with done := true } }
    else { st, fix }

/-- `BFD_RELOC_RISCV_PCREL_LO12_I` and `BFD_RELOC_RISCV_PCREL_LO12_S`: look for the high part at the label. -/
def applyPcrelLo12 (opts : FixOpts) (seg : Nat) (st : FixState) (fix : Fix) (val : Vma) : FixResult :=
  match fix.addsy with
  | none => { st, fix }
  | some s =>
    match riscvFindPcrelFixup st.hiFixups (s.value + val) with
    | none => { st, fix }
    | some entry =>
      if entry.symbol.isLocal ∧ entry.symbol.seg = seg then
        { st := st.orl 4 fix.address (encodeItypeImm (entry.target - entry.address))
          fix := if opts.relax then fix else { fix with done := true } }
      else { st, fix }

/-- The switch over the codes. -/
def applySwitch (opts : FixOpts) (seg : Nat) (st : FixState) (fix : Fix) (val : Vma) : FixResult :=
  match fix.rType with
  | .hi20 | .lo12I | .lo12S =>
    { st := st.orl 4 fix.address (riscvApplyConstReloc fix.rType val)
      fix := if fix.addsy.isNone then { fix with done := true } else fix }
  | .gotHi20 | .add8 | .add16 | .add32 | .add64 | .sub6 | .sub8 | .sub16 | .sub32 | .sub64 | .relax | .setUleb128
  | .subUleb128 | .call | .callPlt | .align => { st, fix }
  | .tprelHi20 | .tprelLo12I | .tprelLo12S | .tprelAdd | .tlsGotHi20 | .tlsGdHi20 | .tlsDtprel32 | .tlsDtprel64 =>
    { st := if fix.addsy.isNone then st.error .tlsAgainstConstant else st, fix }
  | .bfd8 | .bfd16 | .bfd32 | .bfd64 | .cfa => applyData opts st fix val
  | .rva => fillConstant opts st fix val none
  | .jmp => tentative st fix val 4 encodeJtypeImm
  | .bfd12Pcrel => tentative st fix val 4 encodeBtypeImm
  | .rvcBranch => tentative st fix val 2 encodeCbtypeImm
  | .rvcJump => tentative st fix val 2 encodeCjtypeImm
  | .pcrelHi20 => applyPcrelHi20 opts seg st fix val
  | .pcrelLo12I | .pcrelLo12S => applyPcrelLo12 opts seg st fix val
  | .set6 | .set8 | .set16 | .set32 | .pcrel32 => { st := st.error .badRelocation, fix }
  | .generic => { st, fix }

/-- `relaxable`, as the switch sets it. -/
def Fix.relaxable (fix : Fix) : Bool :=
  match fix.rType with
  | .hi20 | .lo12I | .lo12S | .tprelHi20 | .tprelLo12I | .tprelLo12S | .tprelAdd | .call | .callPlt | .pcrelHi20
  | .pcrelLo12I | .pcrelLo12S => true
  | .gotHi20 => fix.sourceMacro = .la ∨ fix.sourceMacro = .lga
  | _ => false

/-- The `R_RISCV_RELAX` behind a fixup. -/
def relaxFix (fix : Fix) : Fix := { fix with addsy := none, subsy := none, rType := .relax, size := 0 }

/-- `md_apply_fix`. -/
def mdApplyFix (opts : FixOpts) (seg : Nat) (st : FixState) (fix : Fix) (val : Vma) : FixResult :=
  let r := applySwitch opts seg st { fix with addnumber := val } val
  let st := if r.fix.subsy.isSome then r.st.error .badSubtract else r.st
  if fix.relaxable ∧ r.fix.tcbit ∧ r.fix.addsy.isSome then { st, fix := r.fix, next := some (relaxFix r.fix) }
  else { r with st }

/-! ## The fixups of a section -/

/-- A call of `md_apply_fix`: the fixup, and the value that `fixup_segment` works out for it. -/
structure FixCall where
  fix : Fix
  val : Vma := fix.offset
  deriving DecidableEq, Repr

/-- A round of `fixup_segment`: the fixup, and the one that has been put behind it. -/
def fixupRound (opts : FixOpts) (seg : Nat) (st : FixState) (c : FixCall) : FixState × Fix × Option Fix :=
  if c.fix.done then (st, c.fix, none)
  else
    let r := mdApplyFix opts seg st c.fix c.val
    match r.next with
    | none => (r.st, r.fix, none)
    | some next =>
      if next.done then (r.st, r.fix, some next)
      else
        let r' := mdApplyFix opts seg r.st next next.offset
        (r'.st, r.fix, some r'.fix)

/-- The loop of `fixup_segment`. -/
def fixupSegment (opts : FixOpts) (seg : Nat) : List FixCall → FixState → FixState × List (Fix × Option Fix)
  | [], st => (st, [])
  | c :: cs, st =>
    let r := fixupRound opts seg st c
    let rest := fixupSegment opts seg cs r.1
    (rest.1, r.2 :: rest.2)

/-- A section: its number, its bytes and its fixups. -/
structure Segment where
  seg : Nat
  contents : List Byte
  calls : List FixCall

/-- `fix_segment`, with the records of the sections before it. -/
def Segment.run (opts : FixOpts) (his : List PcrelHiFixup) (b : Segment) : FixState × List (Fix × Option Fix) :=
  fixupSegment opts b.seg b.calls { contents := b.contents, hiFixups := his }

/-- The records after some sections. -/
def recordsAfter (opts : FixOpts) : List Segment → List PcrelHiFixup → List PcrelHiFixup
  | [], his => his
  | b :: bs, his => recordsAfter opts bs (b.run opts his).1.hiFixups

/-- All sections one after the other. -/
def fixSegments (opts : FixOpts) : List Segment → List PcrelHiFixup → List (FixState × List (Fix × Option Fix))
  | [], _ => []
  | b :: bs, his => b.run opts his :: fixSegments opts bs (b.run opts his).1.hiFixups

/-! ## What a call may change -/

/-- The bytes that a fixup may write. -/
def Fix.extent (fix : Fix) : Nat :=
  match fix.rType with
  | .hi20 | .lo12I | .lo12S | .jmp | .bfd12Pcrel | .pcrelHi20 | .pcrelLo12I | .pcrelLo12S => 4
  | .rvcBranch | .rvcJump => 2
  | .bfd8 | .bfd16 | .bfd32 | .bfd64 | .cfa | .rva => fix.size
  | _ => 0

/-- The record that a fixup makes: it is a high part against a local symbol of the section. -/
def Fix.records (seg : Nat) (fix : Fix) (val : Vma) : Option PcrelHiFixup :=
  match fix.rType, fix.addsy with
  | .pcrelHi20, some s => if s.isLocal ∧ s.seg = seg then some ⟨fix.address, s, s.value + val⟩ else none
  | _, _ => none

/-- Bytes and records after a call. -/
structure FixFrame (seg : Nat) (fix : Fix) (val : Vma) (st st' : FixState) : Prop where
  bytes : fix.address.toNat + fix.extent ≤ st.contents.length →
    SameOutside fix.address.toNat fix.extent st.contents st'.contents
  records : st'.hiFixups = (fix.records seg val).toList ++ st.hiFixups

section Frame

variable {opts : FixOpts} {seg : Nat} {st st' : FixState} {fix : Fix} {val : Vma}

theorem FixFrame.same (hb : st'.contents = st.contents) (hr : st'.hiFixups = st.hiFixups)
    (hnone : fix.records seg val = none) : FixFrame seg fix val st st' :=
  ⟨fun _ => hb ▸ .refl .., by rw [hr, hnone]; rfl⟩

theorem Fix.records_of_ne (seg : Nat) (val : Vma) (h : fix.rType ≠ .pcrelHi20) : fix.records seg val = none := by
  unfold Fix.records
  split
  · rename_i heq _
    exact absurd heq h
  · rfl

theorem orl_sameOutside {n : Nat} {address bits : Vma} (h : address.toNat + n ≤ st.contents.length) :
    SameOutside address.toNat n st.contents (st.orl n address bits).contents :=
  sameOutside_putl _ h

theorem tentative_frame {n : Nat} {encode : Vma → Vma} (hn : fix.extent = n) (hnone : fix.records seg val = none) :
    FixFrame seg fix val st (tentative st fix val n encode).st := by
  unfold tentative
  split
  · exact .same rfl rfl hnone
  · refine ⟨fun hin => ?_, by rw [hnone]; rfl⟩
    rw [hn] at hin ⊢
    exact orl_sameOutside hin

theorem fillConstant_frame {next : Option Fix} (hsize : fix.extent = fix.size) (hnone : fix.records seg val = none) :
    FixFrame seg fix val st (fillConstant opts st fix val next).st := by
  unfold fillConstant
  split
  · refine ⟨fun hin => ?_, by rw [hnone]; rfl⟩
    rw [hsize] at hin ⊢
    show SameOutside _ _ _ (if opts.bigEndian then _ else _)
    split
    · exact sameOutside_putb _ hin
    · exact sameOutside_putl _ hin
  · exact .same rfl rfl hnone

/-- With a symbol there is nothing to fill in. -/
theorem fillConstant_symbol {next : Option Fix} {s : Symbol} (h : fix.addsy = some s) :
    (fillConstant opts st fix val next).st = st := by
  rw [fillConstant, h]

theorem applyData_frame (hsize : fix.extent = fix.size) (hnone : fix.records seg val = none) :
    FixFrame seg fix val st (applyData opts st fix val).st := by
  unfold applyData
  split
  · rename_i s sub hadd hsub
    split
    · exact .same rfl rfl hnone
    · dsimp only
      split
      · split
        · exact .same rfl rfl hnone
        · rename_i fix' next' hsplit
          have hadd' : fix'.addsy = some s := by
            unfold splitCfa at hsplit
            dsimp only at hsplit
            split at hsplit
            · cases hsplit
              exact hadd
            · split at hsplit
              · cases hsplit
                exact hadd
              · split at hsplit
                · cases hsplit
                  exact hadd
                · split at hsplit
                  · cases hsplit
                    exact hadd
                  · exact absurd hsplit (by simp)
          rw [fillConstant_symbol hadd']
          exact .same rfl rfl hnone
      · exact .same (congrArg _ (fillConstant_symbol hadd)) (congrArg _ (fillConstant_symbol hadd)) hnone
  · exact fillConstant_frame hsize hnone

theorem applyPcrelHi20_frame (htype : fix.rType = .pcrelHi20) :
    FixFrame seg fix val st (applyPcrelHi20 opts seg st fix val).st := by
  have hext : fix.extent = 4 := by rw [Fix.extent, htype]
  unfold applyPcrelHi20
  split
  · rename_i hadd
    exact .same rfl rfl (by rw [Fix.records, htype, hadd])
  · rename_i s hadd
    have hrec : fix.records seg val =
        if s.isLocal ∧ s.seg = seg then some ⟨fix.address, s, s.value + val⟩ else none := by
      rw [Fix.records, htype, hadd]
    split
    · rename_i hlocal
      refine ⟨fun hin => ?_, by rw [hrec, if_pos hlocal]; rfl⟩
      rw [hext] at hin ⊢
      exact sameOutside_putl _ hin
    · rename_i hlocal
      exact .same rfl rfl (by rw [hrec, if_neg hlocal])

theorem applyPcrelLo12_frame (hext : fix.extent = 4) (hnone : fix.records seg val = none) :
    FixFrame seg fix val st (applyPcrelLo12 opts seg st fix val).st := by
  unfold applyPcrelLo12
  split
  · exact .same rfl rfl hnone
  · split
    · exact .same rfl rfl hnone
    · split
      · refine ⟨fun hin => ?_, by rw [hnone]; rfl⟩
        rw [hext] at hin ⊢
        exact orl_sameOutside hin
      · exact .same rfl rfl hnone

theorem applySwitch_frame : FixFrame seg fix val st (applySwitch opts seg st fix val).st := by
  by_cases hhi : fix.rType = .pcrelHi20
  · rw [applySwitch, hhi]
    exact applyPcrelHi20_frame hhi
  have hrec := fix.records_of_ne seg val hhi
  unfold applySwitch
  split
  all_goals rename_i htype
  case h_1 | h_2 | h_3 =>
    refine ⟨fun hin => ?_, by rw [hrec]; rfl⟩
    have hext : fix.extent = 4 := by rw [Fix.extent, htype]
    rw [hext] at hin ⊢
    exact orl_sameOutside hin
  all_goals first
    | exact .same rfl rfl hrec
    | exact tentative_frame (by rw [Fix.extent, htype]) hrec
    | exact fillConstant_frame (by rw [Fix.extent, htype]) hrec
    | exact applyData_frame (by rw [Fix.extent, htype]) hrec
    | exact applyPcrelLo12_frame (by rw [Fix.extent, htype]) hrec
    | (refine .same ?_ ?_ hrec <;> split <;> rfl)
    | exact absurd htype hhi

/-- What `md_apply_fix` may change. -/
theorem mdApplyFix_frame : FixFrame seg fix val st (mdApplyFix opts seg st fix val).st := by
  have hf : FixFrame seg { fix with addnumber := val } val st
    (applySwitch opts seg st { fix with addnumber := val } val).st :=
    applySwitch_frame
  have hst : (mdApplyFix opts seg st fix val).st.contents =
    (applySwitch opts seg st { fix with addnumber := val } val).st.contents ∧
      (mdApplyFix opts seg st fix val).st.hiFixups =
      (applySwitch opts seg st { fix with addnumber := val } val).st.hiFixups := by
    unfold mdApplyFix
    dsimp only
    split <;> split <;> exact ⟨rfl, rfl⟩
  constructor
  · rw [hst.1]
    exact hf.bytes
  · rw [hst.2]
    exact hf.records

/-- The codes of fixups put behind another one. -/
def RelocCode.follows : RelocCode → Bool
  | .relax | .sub6 | .sub8 | .sub16 | .sub32 | .sub64 => true
  | _ => false

theorem RelocCode.split_follows (t : RelocCode) : t.split.2.follows = true := by
  cases t <;> rfl

theorem splitCfa_follows {next fix' next' : Fix} (h : splitCfa fix next = some (fix', next')) :
    next'.rType.follows = true := by
  unfold splitCfa at h
  dsimp only at h
  split at h
  · cases h
    rfl
  · split at h
    · cases h
      rfl
    · split at h
      · cases h
        rfl
      · split at h
        · cases h
          rfl
        · exact absurd h (by simp)

theorem fillConstant_next {n : Option Fix} : (fillConstant opts st fix val n).next = n := by
  unfold fillConstant
  split <;> rfl

theorem applySwitch_follows {n : Fix} (h : (applySwitch opts seg st fix val).next = some n) :
    n.rType.follows = true := by
  have hdata (h : (applyData opts st fix val).next = some n) : n.rType.follows = true := by
    unfold applyData at h
    split at h
    · split at h
      · exact absurd h (by simp)
      · dsimp only at h
        split at h
        · split at h
          · exact absurd h (by simp)
          · rename_i hsplit
            rw [fillConstant_next] at h
            cases h
            exact splitCfa_follows hsplit
        · rw [fillConstant_next] at h
          cases h
          exact RelocCode.split_follows _
    · rw [fillConstant_next] at h
      exact absurd h (by simp)
  have htent {k : Nat} {encode : Vma → Vma} : (tentative st fix val k encode).next = none := by
    unfold tentative
    split <;> rfl
  have hhi : (applyPcrelHi20 opts seg st fix val).next = none := by
    unfold applyPcrelHi20
    split
    · rfl
    · split <;> rfl
  have hlo : (applyPcrelLo12 opts seg st fix val).next = none := by
    unfold applyPcrelLo12
    split
    · rfl
    · split
      · rfl
      · split <;> rfl
  unfold applySwitch at h
  split at h
  all_goals first
    | exact hdata h
    | (rw [fillConstant_next] at h; exact absurd h (by simp))
    | (rw [htent] at h; exact absurd h (by simp))
    | (rw [hhi] at h; exact absurd h (by simp))
    | (rw [hlo] at h; exact absurd h (by simp))
    | exact absurd h (by simp)

theorem mdApplyFix_follows {n : Fix} (h : (mdApplyFix opts seg st fix val).next = some n) : n.rType.follows = true := by
  unfold mdApplyFix at h
  dsimp only at h
  split at h
  · cases h
    rfl
  · exact applySwitch_follows h

/-- Nothing is done for such a fixup. -/
theorem applySwitch_of_follows (h : fix.rType.follows = true) : applySwitch opts seg st fix val = { st, fix } := by
  unfold applySwitch
  split
  all_goals first
    | rfl
    | (rename_i htype; exact absurd h (by rw [htype]; decide))

/-- The fixup put behind another one changes neither bytes nor records. -/
theorem mdApplyFix_next {n : Fix} (h : (mdApplyFix opts seg st fix val).next = some n) (st' : FixState) (val' : Vma) :
    (mdApplyFix opts seg st' n val').st.contents = st'.contents ∧
      (mdApplyFix opts seg st' n val').st.hiFixups = st'.hiFixups := by
  have hfollows : n.rType.follows = true := mdApplyFix_follows h
  have hswitch : applySwitch opts seg st' { n with addnumber := val' } val' =
      { st := st', fix := { n with addnumber := val' } } := applySwitch_of_follows hfollows
  unfold mdApplyFix
  dsimp only
  rw [hswitch]
  split <;> split <;> exact ⟨rfl, rfl⟩

variable (opts seg st) in
/-- What a round may change. -/
theorem fixupRound_frame {c : FixCall} (hnew : c.fix.done = false) :
    FixFrame seg c.fix c.val st (fixupRound opts seg st c).1 := by
  have hf : FixFrame seg c.fix c.val st (mdApplyFix opts seg st c.fix c.val).st := mdApplyFix_frame
  unfold fixupRound
  rw [if_neg (by simp [hnew])]
  dsimp only
  split
  · exact hf
  · rename_i next hnext
    split
    · exact hf
    · obtain ⟨hb, hr⟩ := mdApplyFix_next hnext (mdApplyFix opts seg st c.fix c.val).st next.offset
      constructor
      · rw [hb]
        exact hf.bytes
      · rw [hr]
        exact hf.records

end Frame

/-! ## Runs -/

section Run

variable {opts : FixOpts} {seg : Nat}

theorem fixupSegment_append (xs ys : List FixCall) (st : FixState) :
    fixupSegment opts seg (xs ++ ys) st =
      ((fixupSegment opts seg ys (fixupSegment opts seg xs st).1).1,
        (fixupSegment opts seg xs st).2 ++ (fixupSegment opts seg ys (fixupSegment opts seg xs st).1).2) := by
  induction xs generalizing st with
  | nil => rfl
  | cons c cs ih => simp only [List.cons_append, fixupSegment, ih]

theorem fixupSegment_length (xs : List FixCall) (st : FixState) :
    (fixupSegment opts seg xs st).2.length = xs.length := by
  induction xs generalizing st with
  | nil => rfl
  | cons c cs ih => simp only [fixupSegment, List.length_cons, ih]

variable (opts seg) in
/-- The result of a call in a run. -/
theorem fixupSegment_getElem? {cs : List FixCall} {i : Nat} {c : FixCall} (hc : cs[i]? = some c) (st : FixState) :
    (fixupSegment opts seg cs st).2[i]? = some (fixupRound opts seg (fixupSegment opts seg (cs.take i) st).1 c).2 := by
  obtain ⟨hi, rfl⟩ := List.getElem?_eq_some_iff.mp hc
  have hsplit : cs = cs.take i ++ cs[i] :: cs.drop (i + 1) := by
    rw [List.cons_getElem_drop_succ, List.take_append_drop]
  have hlen : (fixupSegment opts seg (cs.take i) st).2.length = i := by
    rw [fixupSegment_length, List.length_take_of_le hi.le]
  conv_lhs => rw [hsplit]
  rw [fixupSegment_append, fixupSegment]
  dsimp only
  rw [List.getElem?_append_right hlen.le, hlen, Nat.sub_self]
  rfl

variable (opts seg) in
/-- The state after a call in a run. -/
theorem fixupSegment_take_succ {cs : List FixCall} {i : Nat} {c : FixCall} (hc : cs[i]? = some c) (st : FixState) :
    (fixupSegment opts seg (cs.take (i + 1)) st).1 =
      (fixupRound opts seg (fixupSegment opts seg (cs.take i) st).1 c).1 := by
  obtain ⟨hi, rfl⟩ := List.getElem?_eq_some_iff.mp hc
  rw [List.take_succ_eq_append_getElem hi, fixupSegment_append]
  rfl

theorem fixSegments_getElem? (bs : List Segment) (his : List PcrelHiFixup) (k : Nat) :
    (fixSegments opts bs his)[k]? = bs[k]?.map (·.run opts (recordsAfter opts (bs.take k) his)) := by
  induction bs generalizing his k with
  | nil => rfl
  | cons b bs ih =>
    cases k with
    | zero => rfl
    | succ k => simp only [fixSegments, List.getElem?_cons_succ, ih, List.take_succ_cons, recordsAfter]

/-- The bytes apart from all fixups of a run are as before. -/
theorem fixupSegment_getl {cs : List FixCall} {st : FixState} (hnew : ∀ c ∈ cs, c.fix.done = false)
    (hin : ∀ c ∈ cs, c.fix.address.toNat + c.fix.extent ≤ st.contents.length) {off n : Nat}
    (hapart : ∀ c ∈ cs, c.fix.extent = 0 ∨ off + n ≤ c.fix.address.toNat ∨
      c.fix.address.toNat + c.fix.extent ≤ off) :
    getl n (fixupSegment opts seg cs st).1.contents off = getl n st.contents off ∧
      (fixupSegment opts seg cs st).1.contents.length = st.contents.length := by
  induction cs generalizing st with
  | nil => exact ⟨rfl, rfl⟩
  | cons c cs ih =>
    have hframe := (fixupRound_frame opts seg st (hnew c (List.mem_cons_self ..))).bytes
      (hin c (List.mem_cons_self ..))
    have hrest := @ih (fixupRound opts seg st c).1 (fun d hd => hnew d (List.mem_cons_of_mem _ hd))
      (fun d hd => by rw [hframe.length]; exact hin d (List.mem_cons_of_mem _ hd))
      (fun d hd => hapart d (List.mem_cons_of_mem _ hd))
    have hround : getl n (fixupRound opts seg st c).1.contents off = getl n st.contents off := by
      rcases hapart c (List.mem_cons_self ..) with hzero | hap
      · rw [hzero] at hframe
        rw [hframe.eq_of_zero]
      · exact hframe.getl hap
    exact ⟨hrest.1.trans hround, hrest.2.trans hframe.length⟩

/-- The records of a run, newest first. -/
theorem fixupSegment_records {cs : List FixCall} {st : FixState} (hnew : ∀ c ∈ cs, c.fix.done = false) :
    (fixupSegment opts seg cs st).1.hiFixups =
      (cs.filterMap fun c => c.fix.records seg c.val).reverse ++ st.hiFixups := by
  induction cs generalizing st with
  | nil => rfl
  | cons c cs ih =>
    have hframe := fixupRound_frame opts seg st (hnew c (List.mem_cons_self ..))
    rw [fixupSegment]
    dsimp only
    rw [ih fun d hd => hnew d (List.mem_cons_of_mem _ hd), hframe.records, List.filterMap_cons]
    cases c.fix.records seg c.val <;> simp

end Run

end RiscvBinutils.Gas
