/-
The fixups that a row can ask for (gas/config/tc-riscv.c, `riscv_ip` and `append_insn`).  A relocation operator is
taken from the table of the last letter that set one, so the letters of a row tell which fixups there can be, and
which bits of the word are left to them.
-/
import RiscvBinutils.Gas.Assemble
import RiscvBinutils.Gas.OperandKept

namespace RiscvBinutils.Gas.Ip

open RiscvBinutils.Base RiscvBinutils.Opcode RiscvBinutils.Bfd

/-! ## What a letter does -/

namespace Letter

/-- The bits that a letter writes by itself. -/
def writes : Letter → Opcode.Insn
  | j | o | q | u | zero => 0
  | l => l.touched

/-- The table of relocation operators that a letter sets. -/
def operators : Letter → Option PercentOps
  | cu | u => some percentOpUtype
  | j | o => some percentOpItype
  | q => some percentOpStype
  | one => some percentOpRtype
  | _ => none

/-- The fixups that a letter can ask for, with the operators that it takes. -/
def fixups (ops : PercentOps) : Letter → List RelocCode
  | cp | p => [.bfd12Pcrel]
  | ca | a => [.jmp]
  | c => [.callPlt]
  | I | A | B => [.bfd32]
  | j | o => .lo12I :: ops.map Prod.snd
  | q => .lo12S :: ops.map Prod.snd
  | u => .hi20 :: ops.map Prod.snd
  | one | zero => ops.map Prod.snd
  | _ => []

end Letter

/-- The fixups that some letters can ask for, one letter after the other. -/
def fixupsOf : PercentOps → List Letter → List RelocCode
  | _, [] => []
  | ops, l :: ls => l.fixups (l.operators.getD ops) ++ fixupsOf (l.operators.getD ops) ls

/-- The bits that some letters write. -/
def writesAll (ls : List Letter) : Opcode.Insn := ls.foldr (fun l bits => l.writes ||| bits) 0

/-- The relocation of a fixup in an instruction of `len` bytes; a branch or a jump is given the one for its length by
`md_convert_frag_branch`. -/
def fixupType (len : Nat) : RelocCode → Option RelocType
  | .jmp => if len = 2 then some .rvcJump else some .jal
  | .bfd12Pcrel => if len = 2 then some .rvcBranch else some .branch
  | code => code.type

/-- The bits of an instruction that a fixup is there for. -/
def fixupBits (len : Nat) (code : RelocCode) : Opcode.Insn :=
  match fixupType len code with
  | some type => (howto type).dstMask
  | none => 0

/-! ## The operators -/

section Operators

variable {env : IpEnv} {op : RiscvOpcodeRow} {st st' : IpState}

theorem regLetter_p {cls : RegClass} {test : Nat → Bool} {write : Nat → Opcode.Insn → Opcode.Insn}
    (h : regLetter env st cls test write = .next st') : st'.p = st.p := by
  unfold regLetter at h
  split at h
  · split at h
    · cases h
      rfl
    · cases h
  · cases h

theorem plainReg_p {cls : RegClass} {write : Nat → Opcode.Insn → Opcode.Insn}
    (h : plainReg env st cls write = .next st') : st'.p = st.p := by
  unfold plainReg at h
  split at h
  · cases h
    rfl
  · cases h

theorem argLetter_p {array : List (Option String)} {f : OperandField} (h : argLetter st array f = .next st') :
    st'.p = st.p := by
  unfold argLetter at h
  split at h
  · cases h
    rfl
  · cases h

theorem maskLetter_p {asarg : List Char} (h : maskLetter env st asarg = .next st') : st'.p = st.p := by
  unfold maskLetter at h
  split at h
  · cases h
    rfl
  · cases h

theorem rvcImm_p {ok : Vma → Bool} {encode : Vma → Opcode.Insn} (h : rvcImm env st ok encode = .next st') :
    st'.p = st.p := by
  unfold rvcImm at h
  dsimp only at h
  split at h
  · cases h
  · cases h
    rfl

theorem rvcOffset_p {ok : Vma → Bool} {encode : Vma → Opcode.Insn} (h : rvcOffset env st ok encode = .next st') :
    st'.p = st.p := by
  unfold rvcOffset at h
  split at h
  · cases h
    rfl
  · exact rvcImm_p h

theorem functField_p {read : SmallText} {f : OperandField} {ok : Vma → Bool} {msg : AsBad}
    (h : functField st read f ok msg = .next st') : st'.p = st.p := by
  unfold functField at h
  dsimp only at h
  split at h
  · cases h
  · cases h
    rfl

theorem absolute_p {read : ExprText} {maybeCsr : Bool} {ok : Vma → Bool} {msg : Vma → AsBad}
    {write : Opcode.Insn → Vma → Opcode.Insn} (h : absolute env st op read maybeCsr ok msg write = .next st') :
    st'.p = st.p := by
  unfold absolute at h
  cases h
  rfl

theorem coreVImm_p {shift : Nat} (h : coreVImm env st op shift = .next st') : st'.p = st.p := by
  unfold coreVImm at h
  dsimp only at h
  split at h
  · cases h
  · cases h
    rfl

theorem uimmBitField_p {f : OperandField} {first last : Nat} (h : uimmBitField env st f first last = .next st') :
    st'.p = st.p := by
  unfold uimmBitField at h
  dsimp only at h
  split at h
  all_goals
    cases h
    rfl

theorem aluOp_p {ok : Vma → Bool} (h : aluOp env st ok = .next st') : st'.p = st.p := by
  unfold aluOp at h
  dsimp only at h
  split at h
  · cases h
    rfl
  · split at h
    · cases h
    · cases h
      rfl

theorem loadStore_p {ok : Vma → Bool} (h : loadStore env st ok = .next st') : st'.p = st.p := by
  unfold loadStore at h
  split at h
  · cases h
    rfl
  · exact aluOp_p h

theorem upperImm_p (h : upperImm env st = .next st') : st'.p = st.p := by
  unfold upperImm at h
  dsimp only at h
  split at h
  · cases h
    rfl
  · split at h
    · cases h
    · cases h
      rfl

theorem target_p {code : RelocCode} (h : target env st code = .next st') : st'.p = st.p := by
  unfold target at h
  cases h
  rfl

theorem punctuation_p {ch : Char} (h : punctuation st ch = .next st') : st'.p = st.p := by
  unfold punctuation at h
  split at h
  · cases h
    rfl
  · cases h

theorem amoVd_p (h : amoVd env st = .next st') : st'.p = st.p := by
  unfold amoVd at h
  split at h
  · cases h
    rfl
  · exact (regLetter_p h).trans rfl

theorem optionalMask_p (h : optionalMask env st = .next st') : st'.p = st.p := by
  unfold optionalMask at h
  split at h
  · cases h
    rfl
  · exact maskLetter_p h
  · cases h

theorem controlRegister_p (h : controlRegister env st op = .next st') : st'.p = st.p := by
  unfold controlRegister at h
  split at h
  · cases h
    rfl
  · exact absolute_p h

theorem prefetchOffset_p (h : prefetchOffset env st op = .next st') : st'.p = st.p := by
  unfold prefetchOffset at h
  split at h
  · cases h
    rfl
  · exact absolute_p h

theorem fliConstant_p (h : fliConstant env st = .next st') : st'.p = st.p := by
  unfold fliConstant at h
  split at h
  · cases h
    rfl
  · cases h

theorem macroOperand_p {kinds : List ExprOp} (h : macroOperand env st kinds = .next st') : st'.p = st.p := by
  unfold macroOperand at h
  dsimp only at h
  split at h
  · cases h
  · cases h
    rfl

theorem callTarget_p (h : callTarget env st = .next st') : st'.p = st.p := by
  unfold callTarget at h
  cases h
  rfl

theorem literalLetter_p {literal : List Char} (h : literalLetter st literal = .next st') : st'.p = st.p := by
  unfold literalLetter at h
  cases h
  rfl

/-- A letter sets its own table of operators, or leaves the one before. -/
theorem ipLetter_p {l : Letter} (h : ipLetter env op st l = .next st') : st'.p = l.operators.getD st.p := by
  cases l <;> rw [ipLetter] at h
  case comma | bracket => exact punctuation_p h
  case cs | ct | cS | cD | cw | cx | cU | cV | cT | cc | cz | v0 | vd | vf | vs | vt | vu | vv | vT => exact regLetter_p h
  case d | s | t | r | D | S | T | U | R => exact plainReg_p h
  case cgt | c5 | c6 | c8 | cj | co | cK | cL | cv | z | wcf => exact rvcImm_p h
  case cu => exact (rvcImm_p h).trans rfl
  case ck | cl | cm | cn | cM | cN | wch | wcb => exact rvcOffset_p h
  case cp | ca | p | a => exact target_p h
  case cF6 | cF4 | cF3 | cF2 | F7 | F3 | F2 | O4 | O2 => exact functField_p h
  case ve => exact amoVd_p h
  case vb | vc | xtVc | vi | vj | vk | vl | lt | gt | Z | y | Y | xts | xtu => exact absolute_p h
  case vm => exact optionalMask_p h
  case vM => exact maskLetter_p h
  case E => exact controlRegister_p h
  case m | P | Q => exact argLetter_p h
  case I | A | B => exact macroOperand_p h
  case c => exact callTarget_p h
  case j | one => exact (aluOp_p h).trans rfl
  case q | o => exact (loadStore_p h).trans rfl
  case zero => exact loadStore_p h
  case u => exact (upperImm_p h).trans rfl
  case wif => exact prefetchOffset_p h
  case wfv => exact fliConstant_p h
  case xtl => exact literalLetter_p h
  case xc2 | xc3 => exact coreVImm_p h
  case xsd | xst | xsO2 | xsO1 => exact uimmBitField_p h
  case unknown => cases h

end Operators

/-! ## Words and fixups -/

section Step

variable {env : IpEnv} {op : RiscvOpcodeRow} {st st' : IpState} {l : Letter}

/-- An offset leaves the word as it is. -/
theorem ipLetter_writes (h : ipLetter env op st l = .next st') : AgreeOutside l.writes st.insn st'.insn := by
  have hsame (heq : st'.insn = st.insn) : AgreeOutside 0 st.insn st'.insn := heq ▸ .refl _ _
  cases l
  case j | one =>
    rw [ipLetter] at h
    exact hsame (aluOp_next h).1
  case o | q | zero =>
    rw [ipLetter] at h
    exact hsame (loadStore_next h).1
  case u =>
    rw [ipLetter] at h
    unfold upperImm at h
    dsimp only at h
    split at h
    · cases h
      exact hsame rfl
    · split at h
      · cases h
      · cases h
        exact hsame rfl
  all_goals exact (ipLetter_frame h).insn

/-- The upper bits ask for an operator of their table, or for the constant. -/
theorem upperImm_fixup (h : upperImm env { st with p := percentOpUtype } = .next st') :
    st'.immReloc = st.immReloc ∨ ∃ code ∈ .hi20 :: percentOpUtype.map Prod.snd, st'.immReloc = some code := by
  unfold upperImm at h
  dsimp only at h
  split at h
  · cases h
    cases hcode : (myGetSmallExpression env st.asarg percentOpUtype).reloc with
    | none =>
      left
      show (myGetSmallExpression env st.asarg percentOpUtype).reloc.or st.immReloc = st.immReloc
      rw [hcode, Option.none_or]
    | some code =>
      obtain ⟨⟨str, hmem⟩, -⟩ := myGetSmallExpression_reloc hcode
      refine .inr ⟨code, List.mem_cons_of_mem _ (List.mem_map_of_mem hmem), ?_⟩
      show (myGetSmallExpression env st.asarg percentOpUtype).reloc.or st.immReloc = some code
      rw [hcode, Option.some_or]
  · split at h
    · cases h
    · cases h
      exact .inr ⟨.hi20, List.mem_cons_self .., rfl⟩

/-- A fixup is one that the letter can ask for, or it was asked for before. -/
theorem ipLetter_fixup (h : ipLetter env op st l = .next st') :
    st'.immReloc = st.immReloc ∨ ∃ code ∈ l.fixups st'.p, st'.immReloc = some code := by
  have hmem {ops : PercentOps} {own : List RelocCode} (start : Option RelocCode)
      (hown : start = st.immReloc ∨ ∃ code ∈ own, start = some code)
      (h : st'.immReloc = start ∨ ∃ str code, (str, code) ∈ ops ∧ st'.immReloc = some code) :
      st'.immReloc = st.immReloc ∨ ∃ code ∈ own ++ ops.map Prod.snd, st'.immReloc = some code := by
    rcases h with heq | ⟨str, code, hcode, heq⟩
    · rcases hown with hstart | ⟨code, hcode, hstart⟩
      · exact .inl (heq.trans hstart)
      · exact .inr ⟨code, List.mem_append_left _ hcode, heq.trans hstart⟩
    · exact .inr ⟨code, List.mem_append_right _ (List.mem_map_of_mem hcode), heq⟩
  have hp := ipLetter_p h
  by_cases hkeeps : l.keepsImm = true
  · exact .inl ((ipLetter_frame h).imm hkeeps).2
  · cases hpending : l.pending with
    | none =>
      by_cases hslot : l.slot.isSome = true
      · exact .inl (ipLetter_reloc hslot hpending h)
      · cases l <;> first | exact absurd rfl hkeeps | exact absurd rfl hslot | skip
        case z | wcf =>
          rw [ipLetter] at h
          exact .inl (rvcImm_reloc h)
        case cp | ca | p | a =>
          rw [ipLetter] at h
          unfold target at h
          cases h
          exact .inr ⟨_, List.mem_singleton_self _, rfl⟩
        case c =>
          rw [ipLetter] at h
          unfold callTarget at h
          cases h
          exact .inr ⟨_, List.mem_singleton_self _, rfl⟩
        case I | A | B =>
          rw [ipLetter] at h
          unfold macroOperand at h
          dsimp only at h
          split at h
          · cases h
          · cases h
            dsimp only
            split
            · exact .inr ⟨_, List.mem_singleton_self _, rfl⟩
            · exact .inl rfl
        case one =>
          rw [ipLetter] at h
          rw [hp]
          exact @hmem percentOpRtype [] _ (.inl rfl) (aluOp_next h).2.2
        case zero =>
          rw [ipLetter] at h
          rw [hp]
          exact @hmem st.p [] _ (.inl rfl) (loadStore_next h).2.2
        case unknown =>
          rw [ipLetter] at h
          cases h
    | some code =>
      rw [hp]
      cases l <;> first | (cases hpending; done) | skip
      case j =>
        rw [ipLetter] at h
        exact @hmem percentOpItype [.lo12I] _ (.inr ⟨_, List.mem_singleton_self _, rfl⟩) (aluOp_next h).2.2
      case o =>
        rw [ipLetter] at h
        exact @hmem percentOpItype [.lo12I] _ (.inr ⟨_, List.mem_singleton_self _, rfl⟩) (loadStore_next h).2.2
      case q =>
        rw [ipLetter] at h
        exact @hmem percentOpStype [.lo12S] _ (.inr ⟨_, List.mem_singleton_self _, rfl⟩) (loadStore_next h).2.2
      case u =>
        rw [ipLetter] at h
        exact upperImm_fixup h

end Step

/-! ## The letters of a row -/

section Run

variable {env : IpEnv} {op : RiscvOpcodeRow} {st st' : IpState}

theorem ipLetters_writes {ls : List Letter} (h : ipLetters env op ls st = .next st') :
    AgreeOutside (writesAll ls) st.insn st'.insn := by
  induction ls generalizing st with
  | nil =>
    rw [← LetterResult.next.inj h]
    exact .refl _ _
  | cons l ls ih =>
    obtain ⟨s, hs, hrest⟩ := ipLetters_cons.mp h
    have hstep := ipLetter_writes hs
    exact (hstep.or_left _).trans ((ih hrest).or_right _)

theorem ipLetters_fixup {ls : List Letter} (h : ipLetters env op ls st = .next st') :
    st'.immReloc = st.immReloc ∨ ∃ code ∈ fixupsOf st.p ls, st'.immReloc = some code := by
  induction ls generalizing st with
  | nil =>
    rw [← LetterResult.next.inj h]
    exact .inl rfl
  | cons l ls ih =>
    obtain ⟨s, hs, hrest⟩ := ipLetters_cons.mp h
    have hp := ipLetter_p hs
    have hstep := ipLetter_fixup hs
    dsimp only at hp hstep
    rw [fixupsOf, ← hp]
    rcases ih hrest with heq | ⟨code, hcode, heq⟩
    · rcases hstep with hsame | ⟨code, hcode, hsame⟩
      · exact .inl (heq.trans hsame)
      · exact .inr ⟨code, List.mem_append_left _ hcode, heq.trans hsame⟩
    · exact .inr ⟨code, List.mem_append_right _ hcode, heq⟩

theorem ipRow_writes {text : List Char} (h : ipRow env op text = .done st) :
    AgreeOutside (writesAll (letters op.args)) op.matchBits st.insn := by
  obtain ⟨s, hs, rfl⟩ := ipRow_done h
  exact ipLetters_writes hs

/-- A row begins without a fixup and without operators. -/
theorem ipRow_fixup {text : List Char} (h : ipRow env op text = .done st) :
    st.immReloc = none ∨ ∃ code ∈ fixupsOf percentOpNull (letters op.args), st.immReloc = some code := by
  obtain ⟨s, hs, rfl⟩ := ipRow_done h
  exact ipLetters_fixup hs

end Run

/-! ## The word in the end -/

/-- The bits that are left to the fixup of a row. -/
def leftBits (st : IpState) : Opcode.Insn :=
  match st.immReloc with
  | some code => fixupBits (riscvInsnLength st.insn) code
  | none => 0

/-- What can become of the word of a row: the fixup has written its bits, or is still to write them. -/
def Completes (st : IpState) (word : Opcode.Insn) : Prop := AgreeOutside (leftBits st) st.insn word

/-- The bits that are written at once are bits of the fixup. -/
theorem relocBits_fixup {code : RelocCode} (h : relocBits code ≠ 0) (len : Nat) :
    relocBits code = fixupBits len code := by
  have hmasks : (howto .hi20).dstMask = ImmFormat.utype.mask ∧ (howto .lo12I).dstMask = ImmFormat.itype.mask ∧
      (howto .lo12S).dstMask = ImmFormat.stype.mask := by decide
  obtain ⟨hutype, hitype, hstype⟩ := hmasks
  cases code
  case hi20 => exact hutype.symm
  case lo12I => exact hitype.symm
  case lo12S => exact hstype.symm
  all_goals exact absurd rfl h

/-- The constant that is written at once. -/
theorem appendInsn_completes (env : IpEnv) (st : IpState) : Completes st (appendInsn env st) := by
  have hbits := appendInsn_agree env st
  unfold Completes leftBits
  unfold pendingBits at hbits
  cases hcode : st.immReloc with
  | none => rwa [hcode] at hbits
  | some code =>
    rw [hcode, Option.map_some, Option.getD_some] at hbits
    dsimp only
    by_cases hnone : relocBits code = 0
    · rw [hnone] at hbits
      have hmore := hbits.or_left (fixupBits (riscvInsnLength st.insn) code)
      rwa [show (0 : Opcode.Insn) ||| fixupBits (riscvInsnLength st.insn) code = fixupBits (riscvInsnLength st.insn) code
        from BitVec.zero_or] at hmore
    · rwa [← relocBits_fixup hnone]

/-- A fixup is apart from some bits if all are that the row can ask for. -/
theorem leftBits_apart {env : IpEnv} {op : RiscvOpcodeRow} {st : IpState} {text : List Char} {bits : Opcode.Insn}
    (h : ipRow env op text = .done st)
    (hapart : ∀ code ∈ fixupsOf percentOpNull (letters op.args), bits &&& fixupBits (riscvInsnLength st.insn) code = 0) :
    bits &&& leftBits st = 0 := by
  unfold leftBits
  rcases ipRow_fixup h with hnone | ⟨code, hcode, hsome⟩
  · rw [hnone]
    exact BitVec.and_zero
  · rw [hsome]
    exact hapart code hcode

end RiscvBinutils.Gas.Ip
