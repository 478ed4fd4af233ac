/-
What a letter of an operand string can change (gas/config/tc-riscv.c, `riscv_ip`): its own bits of the word, and
for the letters that read an expression the pending operand.  No two letters of a row that is not a macro share a
bit where one of them takes a constant.
-/
import RiscvBinutils.Gas.Operands
import RiscvBinutils.Opcode.Slots
import RiscvBinutils.Opcode.Table
import RiscvBinutils.Opcode.TableInsn

namespace RiscvBinutils.Gas.Ip

open RiscvBinutils.Base RiscvBinutils.Opcode RiscvBinutils.Bfd

/-! ## The bits of a letter -/

namespace Letter

/-- The slot of a constant. -/
def slot : Letter → Option (BitSlot 64)
  | cgt => some (ImmFormat.citype.slot.map (· &&& 0x3f))
  | c5 => some ImmFormat.cltype.slot
  | c6 => some ImmFormat.csstype.slot
  | c8 => some ImmFormat.ciwtype.slot
  | cj | co => some ImmFormat.citype.slot
  | ck => some ImmFormat.cltypeLw.slot
  | cl => some ImmFormat.cltypeLd.slot
  | cm => some ImmFormat.citypeLwsp.slot
  | cn => some ImmFormat.citypeLdsp.slot
  | cK => some ImmFormat.ciwtypeAddi4spn.slot
  | cL => some ImmFormat.citypeAddi16sp.slot
  | cM => some ImmFormat.csstypeSwsp.slot
  | cN => some ImmFormat.csstypeSdsp.slot
  | cu => some (ImmFormat.citype.slot.map (· &&& 0xfffff))
  | cv => some ImmFormat.citypeLui.slot
  | cF6 => some OperandField.cfunct6.slot
  | cF4 => some OperandField.cfunct4.slot
  | cF3 => some OperandField.cfunct3.slot
  | cF2 => some OperandField.cfunct2.slot
  | vb => some ImmFormat.rvvVb.slot
  | vc | xtVc => some ImmFormat.rvvVc.slot
  | vi => some (OperandField.vimm.slot.map (sext 5))
  | vj => some OperandField.vimm.slot
  | vk => some (OperandField.vimm.slot.map fun x => sext 5 x + 1)
  | vl => some ImmFormat.rvvViUimm6.slot
  | lt => some OperandField.shamtw.slot
  | gt => some OperandField.shamt.slot
  | Z => some OperandField.rs1.slot
  | E => some OperandField.csr.slot
  | j | o => some ImmFormat.itype.slot
  | q => some ImmFormat.stype.slot
  | u => some (ImmFormat.utype.slot.map fun x => x >>> 12 &&& 0xfffff)
  | O4 => some OperandField.op.slot
  | O2 => some OperandField.op2.slot
  | F7 => some OperandField.funct7.slot
  | F3 => some OperandField.funct3.slot
  | F2 => some OperandField.funct2.slot
  | y => some OperandField.bs.slot
  | Y => some OperandField.rnum.slot
  | wif => some ImmFormat.stype.slot
  | wch => some ImmFormat.zcbHalfword.slot
  | wcb => some ImmFormat.zcbByte.slot
  | xts n pos => some ((BitSlot.bits n pos).map (sext n))
  | xtu n pos => some (BitSlot.bits n pos)
  | xc2 => some (BitSlot.bits 5 20)
  | xc3 => some (BitSlot.bits 5 25)
  | xsd => some OperandField.rd.slot
  | xst => some OperandField.rs2.slot
  | xsO2 => some OperandField.xso2.slot
  | xsO1 => some OperandField.xso1.slot
  | _ => none

/-- The bits of registers and of names. -/
def nameBits : Letter → Opcode.Insn
  | cs | cS => OperandField.crs1s.bits
  | ct | cD => OperandField.crs2s.bits
  | cV | cT => OperandField.crs2.bits
  | vd | vf => OperandField.vd.bits
  | ve => OperandField.vwd.bits ||| OperandField.vd.bits
  | vs => OperandField.vs1.bits
  | vt => OperandField.vs2.bits
  | vu => OperandField.vs1.bits ||| OperandField.vs2.bits
  | vv => OperandField.vd.bits ||| OperandField.vs1.bits ||| OperandField.vs2.bits
  | vm | vM => OperandField.vmask.bits
  | vT => OperandField.vfunct6.bits
  | m => OperandField.rm.bits
  | P => OperandField.pred.bits
  | Q => OperandField.succ.bits
  | d | D => OperandField.rd.bits
  | s | S | wfv => OperandField.rs1.bits
  | t | T => OperandField.rs2.bits
  | r | R => OperandField.rs3.bits
  | U => OperandField.rs1.bits ||| OperandField.rs2.bits
  -- whatever relocation operators are left from the letters before
  | zero => ImmFormat.itype.mask ||| ImmFormat.stype.mask ||| ImmFormat.utype.mask
  | _ => 0

/-- The bits that a letter can change, now or through the fixup it asks for. -/
def touched (l : Letter) : Opcode.Insn :=
  match l.slot with
  | some slot => slot.mask
  | none => l.nameBits

/-- The letters whose constant is written by the fixup. -/
def pending : Letter → Option RelocCode
  | j | o => some .lo12I
  | q => some .lo12S
  | u => some .hi20
  | _ => none

/-- The letters that read no expression. -/
def keepsImm : Letter → Bool
  | comma | bracket _ | cs | cw | ct | cx | cU | cV | cc | cz | cS | cD | cT | vd | ve | vf | vs | vt | vu | vv | v0
  | vm | vM | vT | m | P | Q | d | s | t | r | D | S | T | U | R | wfv | xtl _ => true
  | _ => false

/-- The width and the place of a field that is given by numbers. -/
def InWord : Letter → Prop
  | xts n pos | xtu n pos => 0 < n ∧ n < 32 ∧ pos + n ≤ 32
  | _ => True

instance (l : Letter) : Decidable l.InWord := by
  cases l <;> unfold InWord <;> infer_instance

end Letter

/-- The bits that a fixup writes. -/
def relocBits : RelocCode → Opcode.Insn
  | .hi20 => ImmFormat.utype.mask
  | .lo12I => ImmFormat.itype.mask
  | .lo12S => ImmFormat.stype.mask
  | _ => 0

/-! ## One step -/

/-- What a part of the loop keeps: the word outside of `m`, the pending operand where `keeps` says so; a fixup
that is new writes into `m`. -/
structure Frame (m : Opcode.Insn) (keeps : Bool) (st st' : IpState) : Prop where
  insn : AgreeOutside m st.insn st'.insn
  reloc : st'.immReloc = st.immReloc ∨ ∀ code, st'.immReloc = some code → relocBits code &&& ~~~m = 0
  bad : st.bad <+: st'.bad
  imm : keeps = true → st'.immExpr = st.immExpr ∧ st'.immReloc = st.immReloc

section Frame

variable {m m' : Opcode.Insn} {keeps keeps' : Bool} {st st' st'' : IpState}

theorem Frame.refl (st : IpState) : Frame 0 true st st :=
  ⟨.refl _ _, .inl rfl, List.prefix_rfl, fun _ => ⟨rfl, rfl⟩⟩

theorem Frame.weaken (h : Frame m true st st') (keeps : Bool) : Frame m keeps st st' :=
  ⟨h.insn, h.reloc, h.bad, fun _ => h.imm rfl⟩

/-- A fixup stays where there are more bits. -/
theorem relocBits_or_left {code : RelocCode} (h : relocBits code &&& ~~~m = 0) (m' : Opcode.Insn) :
    relocBits code &&& ~~~(m ||| m') = 0 := by
  apply BitVec.eq_of_getLsbD_eq
  intro i hi
  have hbit := congrArg (BitVec.getLsbD · i) h
  simp only [BitVec.getLsbD_and, BitVec.getLsbD_not, BitVec.getLsbD_or, hi, decide_true, Bool.true_and,
    Bool.not_or] at hbit ⊢
  rw [← Bool.and_assoc, hbit]
  simp

theorem Frame.trans (h : Frame m keeps st st') (h' : Frame m' keeps' st' st'') :
    Frame (m ||| m') (keeps && keeps') st st'' where
  insn := (h.insn.or_left m').trans (h'.insn.or_right m)
  reloc := by
    rcases h'.reloc with heq | hin
    · rcases h.reloc with heq' | hin'
      · exact .inl (heq.trans heq')
      · refine .inr fun code hcode => relocBits_or_left (hin' code ?_) m'
        rw [← heq]
        exact hcode
    · refine .inr fun code hcode => ?_
      rw [BitVec.or_comm]
      exact relocBits_or_left (hin code hcode) m
  bad := h.bad.trans h'.bad
  imm hkeeps := by
    rw [Bool.and_eq_true] at hkeeps
    obtain ⟨himm, hreloc⟩ := h.imm hkeeps.1
    obtain ⟨himm', hreloc'⟩ := h'.imm hkeeps.2
    exact ⟨himm'.trans himm, hreloc'.trans hreloc⟩

end Frame

/-! ## Reading constants -/

/-- The constant of an expression. -/
def constantOf (ex : Expr) : Option Vma := if ex.op = .constant then some ex.addNumber else none

/-- A constant without a relocation operator. -/
def SmallText.constant (read : SmallText) : Option Vma := if read.used then none else constantOf read.expr

section Read

variable {env : IpEnv} {text : List Char} {ops : PercentOps} {read : SmallText} {v : Vma}

theorem constantOf_eq_some {ex : Expr} : constantOf ex = some v ↔ ex = ⟨.constant, v⟩ := by
  unfold constantOf
  split
  · rename_i hop
    constructor
    · intro h
      rw [← Option.some.inj h, ← hop]
    · intro h
      rw [h]
  · rename_i hop
    constructor
    · intro h
      cases h
    · intro h
      exact absurd (congrArg Expr.op h) hop

theorem SmallText.constant_eq_some : read.constant = some v ↔ read.used = false ∧ read.expr = ⟨.constant, v⟩ := by
  unfold SmallText.constant
  cases read.used with
  | true => simp
  | false => simpa using constantOf_eq_some

/-- What the compressed formats and the fields of `.insn` look at before they go on. -/
theorem SmallText.not_rejected {ok : Vma → Bool}
    (h : ¬ (read.used = true ∨ read.expr.op ≠ .constant ∨ ok read.expr.addNumber = false)) :
    read.constant = some read.expr.addNumber ∧ ok read.expr.addNumber = true := by
  rw [not_or, not_or, not_not, Bool.not_eq_false, Bool.not_eq_true] at h
  obtain ⟨hused, hop, hok⟩ := h
  refine ⟨SmallText.constant_eq_some.mpr ⟨hused, ?_⟩, hok⟩
  rw [← hop]

theorem parseRelocation_mem {code : RelocCode} {rest : List Char} (h : parseRelocation text ops = some (code, rest)) :
    ∃ str, (str, code) ∈ ops := by
  induction ops with
  | nil => cases h
  | cons entry ops ih =>
    obtain ⟨str, reloc⟩ := entry
    rw [parseRelocation] at h
    split at h
    · cases h
      exact ⟨str, List.mem_cons_self ..⟩
    · obtain ⟨str', hmem⟩ := ih h
      exact ⟨str', List.mem_cons_of_mem _ hmem⟩

/-- A relocation is set with an operator, or where nothing can be read behind it. -/
theorem myGetSmallExpression_reloc {code : RelocCode} (h : (myGetSmallExpression env text ops).reloc = some code) :
    (∃ str, (str, code) ∈ ops) ∧
      ((myGetSmallExpression env text ops).used = true ∨ (myGetSmallExpression env text ops).expr.op ≠ .constant) := by
  unfold myGetSmallExpression at h ⊢
  dsimp only at h ⊢
  split at h
  · split at h
    · cases h
    · rename_i hpercent _ reloc crux hparse
      rw [if_pos hpercent]
      split at h
      · rename_i hagain
        cases h
        rw [if_pos hagain]
        exact ⟨parseRelocation_mem hparse, .inr fun hop => nomatch hop⟩
      · rename_i hagain
        cases h
        rw [if_neg hagain]
        exact ⟨parseRelocation_mem hparse, .inl rfl⟩
  · cases h

theorem myGetSmallExpression_constant (h : (myGetSmallExpression env text ops).constant = some v) :
    (myGetSmallExpression env text ops).reloc = none := by
  obtain ⟨hused, hexpr⟩ := SmallText.constant_eq_some.mp h
  cases hreloc : (myGetSmallExpression env text ops).reloc with
  | none => rfl
  | some code =>
    rcases (myGetSmallExpression_reloc hreloc).2 with hyes | hop
    · rw [hused] at hyes
      cases hyes
    · rw [hexpr] at hop
      exact absurd rfl hop

theorem myGetOpcodeExpression_reloc : (myGetOpcodeExpression env text).reloc = none := by
  unfold myGetOpcodeExpression
  split
  · rfl
  · cases hreloc : (myGetSmallExpression env text percentOpNull).reloc with
    | none => rfl
    | some code =>
      obtain ⟨⟨str, hmem⟩, -⟩ := myGetSmallExpression_reloc hreloc
      cases hmem

end Read

/-! ## The frames of the cases -/

section Cases

variable {env : IpEnv} {op : RiscvOpcodeRow} {m : Opcode.Insn} {st st' : IpState}

theorem Frame.write (asarg : List Char) {insn : Opcode.Insn} (h : AgreeOutside m st.insn insn) :
    Frame m true st { st with asarg, insn } :=
  ⟨h, .inl rfl, List.prefix_rfl, fun _ => ⟨rfl, rfl⟩⟩

theorem regLetter_frame {cls : RegClass} {test : Nat → Bool} {write : Nat → Opcode.Insn → Opcode.Insn}
    (hwrite : ∀ n x, AgreeOutside m x (write n x)) (h : regLetter env st cls test write = .next st') :
    Frame m true st st' := by
  unfold regLetter at h
  split at h
  · split at h
    · cases h
      exact .write _ (hwrite _ _)
    · cases h
  · cases h

theorem insertReg_agree (f : OperandField) (n : Nat) (x : Opcode.Insn) : AgreeOutside f.bits x (insertReg f n x) :=
  f.agreeOutside_insert x _

theorem plainReg_frame {cls : RegClass} {write : Nat → Opcode.Insn → Opcode.Insn}
    (hwrite : ∀ n x, AgreeOutside m x (write n x)) (h : plainReg env st cls write = .next st') : Frame m true st st' := by
  unfold plainReg at h
  split at h
  · cases h
    exact .write _ (hwrite _ _)
  · cases h

theorem argLetter_frame {array : List (Option String)} {f : OperandField} (h : argLetter st array f = .next st') :
    Frame f.bits true st st' := by
  unfold argLetter at h
  split at h
  · cases h
    exact .write _ (f.agreeOutside_insert _ _)
  · cases h

theorem maskLetter_frame {asarg : List Char} (h : maskLetter env st asarg = .next st') :
    Frame OperandField.vmask.bits true st st' := by
  unfold maskLetter at h
  split at h
  · cases h
    exact .write _ (OperandField.agreeOutside_insert _ _ _)
  · cases h

/-- A constant of a compressed format. -/
theorem rvcImm_next {ok : Vma → Bool} {encode : Vma → Opcode.Insn} (h : rvcImm env st ok encode = .next st') :
    ∃ v, (myGetSmallExpression env st.asarg st.p).constant = some v ∧ ok v = true ∧
      st'.insn = st.insn ||| encode v ∧ st'.immReloc = st.immReloc ∧ st.bad <+: st'.bad := by
  unfold rvcImm at h
  dsimp only at h
  split at h
  · cases h
  · rename_i hgo
    obtain ⟨hconst, hok⟩ := SmallText.not_rejected hgo
    cases h
    refine ⟨_, hconst, hok, rfl, ?_, List.prefix_append ..⟩
    show (myGetSmallExpression env st.asarg st.p).reloc.or st.immReloc = st.immReloc
    rw [myGetSmallExpression_constant hconst, Option.none_or]

theorem rvcImm_frame {ok : Vma → Bool} {encode : Vma → Opcode.Insn} (hencode : ∀ v, encode v &&& ~~~m = 0)
    (h : rvcImm env st ok encode = .next st') : Frame m false st st' := by
  obtain ⟨v, -, -, hinsn, hreloc, hbad⟩ := rvcImm_next h
  refine ⟨?_, .inl hreloc, hbad, fun hfalse => by cases hfalse⟩
  rw [hinsn]
  exact agreeOutside_or (hencode v)

theorem rvcOffset_frame {ok : Vma → Bool} {encode : Vma → Opcode.Insn} (hencode : ∀ v, encode v &&& ~~~m = 0)
    (h : rvcOffset env st ok encode = .next st') : Frame m false st st' := by
  unfold rvcOffset at h
  split at h
  · cases h
    exact ⟨.refl _ _, .inl rfl, List.prefix_rfl, fun hfalse => by cases hfalse⟩
  · exact rvcImm_frame hencode h

theorem functField_next {read : SmallText} {f : OperandField} {ok : Vma → Bool} {msg : AsBad}
    (hread : ∀ v, read.constant = some v → read.reloc = none) (h : functField st read f ok msg = .next st') :
    ∃ v, read.constant = some v ∧ ok v = true ∧ st'.insn = f.insert st.insn v ∧ st'.immReloc = st.immReloc ∧
      st.bad <+: st'.bad := by
  unfold functField at h
  dsimp only at h
  split at h
  · cases h
  · rename_i hgo
    obtain ⟨hconst, hok⟩ := SmallText.not_rejected hgo
    cases h
    refine ⟨_, hconst, hok, rfl, ?_, List.prefix_append ..⟩
    show read.reloc.or st.immReloc = st.immReloc
    rw [hread _ hconst, Option.none_or]

theorem functField_frame {read : SmallText} {f : OperandField} {ok : Vma → Bool} {msg : AsBad}
    (hread : ∀ v, read.constant = some v → read.reloc = none) (h : functField st read f ok msg = .next st') :
    Frame f.bits false st st' := by
  obtain ⟨v, -, -, hinsn, hreloc, hbad⟩ := functField_next hread h
  refine ⟨?_, .inl hreloc, hbad, fun hfalse => by cases hfalse⟩
  rw [hinsn]
  exact f.agreeOutside_insert _ _

theorem absolute_frame {read : ExprText} {maybeCsr : Bool} {ok : Vma → Bool} {msg : Vma → AsBad}
    {write : Opcode.Insn → Vma → Opcode.Insn} (hwrite : ∀ x v, AgreeOutside m x (write x v))
    (h : absolute env st op read maybeCsr ok msg write = .next st') : Frame m false st st' := by
  unfold absolute at h
  cases h
  refine ⟨hwrite _ _, .inl rfl, ?_, fun hfalse => by cases hfalse⟩
  exact (List.prefix_append ..).trans ((List.prefix_append ..).trans (List.prefix_append ..))

theorem coreVImm_next {pos : Nat} (h : coreVImm env st op pos = .next st') :
    ∃ v, v = (normalizeConstantExpr env.xlen (myGetExpression env st.asarg).expr).addNumber ∧
      (0 ≤ v.toInt ∧ v.toInt ≤ 31) ∧ st'.insn = st.insn ||| scatter [⟨0, 5, pos⟩] v ∧
      st'.immReloc = st.immReloc ∧ st'.bad = (afterAbsolute env st op (myGetExpression env st.asarg) false).bad := by
  unfold coreVImm at h
  dsimp only at h
  split at h
  · cases h
  · rename_i hgo
    rw [not_or, Int.not_lt, Int.not_lt] at hgo
    cases h
    exact ⟨_, rfl, hgo, rfl, rfl, rfl⟩

theorem coreVImm_frame {pos : Nat} (hencode : ∀ v : Opcode.Insn, scatter [⟨0, 5, pos⟩] v &&& ~~~m = 0)
    (h : coreVImm env st op pos = .next st') : Frame m false st st' := by
  obtain ⟨v, -, -, hinsn, hreloc, hbad⟩ := coreVImm_next h
  refine ⟨?_, .inl hreloc, ?_, fun hfalse => by cases hfalse⟩
  · rw [hinsn]
    exact agreeOutside_or (hencode v)
  · rw [hbad]
    exact (List.prefix_append ..).trans (List.prefix_append ..)

theorem uimmBitField_frame {f : OperandField} {first last : Nat} (h : uimmBitField env st f first last = .next st') :
    Frame f.bits false st st' := by
  have hreloc : (myGetOpcodeExpression env st.asarg).reloc.or st.immReloc = st.immReloc := by
    rw [myGetOpcodeExpression_reloc, Option.none_or]
  unfold uimmBitField at h
  dsimp only at h
  split at h
  · cases h
    exact ⟨.refl _ _, .inl hreloc, (List.prefix_append ..).trans (List.prefix_append ..), fun hfalse => by cases hfalse⟩
  · cases h
    exact ⟨f.agreeOutside_insert _ _, .inl hreloc, List.prefix_append .., fun hfalse => by cases hfalse⟩

/-- An offset leaves the word to the fixup. -/
theorem aluOp_next {ok : Vma → Bool} (h : aluOp env st ok = .next st') :
    st'.insn = st.insn ∧ st.bad <+: st'.bad ∧
      (st'.immReloc = st.immReloc ∨ ∃ str code, (str, code) ∈ st.p ∧ st'.immReloc = some code) := by
  have hreloc : (myGetSmallExpression env st.asarg st.p).reloc.or st.immReloc = st.immReloc ∨
      ∃ str code, (str, code) ∈ st.p ∧
        (myGetSmallExpression env st.asarg st.p).reloc.or st.immReloc = some code := by
    cases hcode : (myGetSmallExpression env st.asarg st.p).reloc with
    | none => exact .inl (Option.none_or)
    | some code =>
      obtain ⟨⟨str, hmem⟩, -⟩ := myGetSmallExpression_reloc hcode
      exact .inr ⟨str, code, hmem, rfl⟩
  unfold aluOp at h
  dsimp only at h
  split at h
  · cases h
    exact ⟨rfl, List.prefix_append .., hreloc⟩
  · split at h
    · cases h
    · cases h
      exact ⟨rfl, List.prefix_append .., hreloc⟩

theorem loadStore_next {ok : Vma → Bool} (h : loadStore env st ok = .next st') :
    st'.insn = st.insn ∧ st.bad <+: st'.bad ∧
      (st'.immReloc = st.immReloc ∨ ∃ str code, (str, code) ∈ st.p ∧ st'.immReloc = some code) := by
  unfold loadStore at h
  split at h
  · cases h
    exact ⟨rfl, List.prefix_rfl, .inl rfl⟩
  · exact aluOp_next h

theorem percentOpItype_bits : ∀ entry ∈ percentOpItype, relocBits entry.2 &&& ~~~ImmFormat.itype.mask = 0 := by decide

theorem percentOpStype_bits : ∀ entry ∈ percentOpStype, relocBits entry.2 &&& ~~~ImmFormat.stype.mask = 0 := by decide

theorem percentOpUtype_bits : ∀ entry ∈ percentOpUtype, relocBits entry.2 &&& ~~~ImmFormat.utype.mask = 0 := by decide

theorem percentOpRtype_bits : ∀ entry ∈ percentOpRtype, relocBits entry.2 &&& ~~~(0 : Opcode.Insn) = 0 := by decide

/-- The letters that read an offset, from the relocation and the operators they begin with. -/
theorem offset_frame {p : PercentOps} {start : Option RelocCode} (hp : ∀ entry ∈ p, relocBits entry.2 &&& ~~~m = 0)
    (hstart : start = st.immReloc ∨ ∀ code, start = some code → relocBits code &&& ~~~m = 0)
    (h : st'.insn = st.insn ∧ st.bad <+: st'.bad ∧
      (st'.immReloc = start ∨ ∃ str code, (str, code) ∈ p ∧ st'.immReloc = some code)) :
    Frame m false st st' := by
  obtain ⟨hinsn, hbad, hreloc⟩ := h
  refine ⟨?_, ?_, hbad, fun hfalse => by cases hfalse⟩
  · rw [hinsn]
    exact .refl _ _
  · rcases hreloc with hreloc | ⟨str, code, hmem, hreloc⟩
    · rw [hreloc]
      exact hstart
    · refine .inr fun code' hcode' => ?_
      rw [hreloc] at hcode'
      rw [← Option.some.inj hcode']
      exact hp _ hmem

/-- A relocation that writes nothing by itself. -/
theorem target_frame {code : RelocCode} (hcode : relocBits code = 0) (h : target env st code = .next st') :
    Frame 0 false st st' := by
  unfold target at h
  cases h
  refine ⟨.refl _ _, .inr fun code' hcode' => ?_, List.prefix_append .., fun hfalse => by cases hfalse⟩
  rw [← Option.some.inj hcode', hcode]
  decide

theorem upperImm_frame (hp : st.p = percentOpUtype) (h : upperImm env st = .next st') :
    Frame ImmFormat.utype.mask false st st' := by
  unfold upperImm at h
  dsimp only at h
  split at h
  · rename_i hused
    cases h
    refine ⟨.refl _ _, ?_, List.prefix_append .., fun hfalse => by cases hfalse⟩
    show (myGetSmallExpression env st.asarg st.p).reloc.or st.immReloc = st.immReloc ∨ ∀ code,
      (myGetSmallExpression env st.asarg st.p).reloc.or st.immReloc = some code → _
    cases hcode : (myGetSmallExpression env st.asarg st.p).reloc with
    | none => exact .inl Option.none_or
    | some code =>
      obtain ⟨⟨str, hmem⟩, -⟩ := myGetSmallExpression_reloc hcode
      rw [hp] at hmem
      refine .inr fun code' hcode' => ?_
      rw [← Option.some.inj hcode']
      exact percentOpUtype_bits _ hmem
  · split at h
    · cases h
    · cases h
      refine ⟨.refl _ _, .inr fun code hcode => ?_, ?_, fun hfalse => by cases hfalse⟩
      · rw [← Option.some.inj hcode]
        decide
      · exact (List.prefix_append ..).trans (List.prefix_append ..)

end Cases

/-! ## The frame of a letter -/

theorem agreeOutside_pair {m m' : Opcode.Insn} {f g : Opcode.Insn → Opcode.Insn} (hf : ∀ x, AgreeOutside m x (f x))
    (hg : ∀ x, AgreeOutside m' x (g x)) (x : Opcode.Insn) : AgreeOutside (m ||| m') x (g (f x)) :=
  ((hf x).or_left m').trans ((hg (f x)).or_right m)

theorem scatter_inside (pos : Nat) (v : Opcode.Insn) :
    scatter [⟨0, 5, pos⟩] v &&& ~~~(BitSlot.bits 5 pos : BitSlot 64).mask = 0 := by
  have hone : scatter [⟨0, 5, pos⟩] v = (v &&& ((1#64 <<< 5) - 1#64)) <<< pos := by
    rw [scatter, List.foldr_cons, List.foldr_nil, bitsAt, BitVec.ushiftRight_zero]
    exact BitVec.or_zero
  rw [hone]
  exact shiftLeft_and_not v _ pos

section Letter

variable {env : IpEnv} {op : RiscvOpcodeRow} {st st' : IpState}

theorem punctuation_frame {ch : Char} (h : punctuation st ch = .next st') : Frame 0 true st st' := by
  unfold punctuation at h
  split at h
  · cases h
    exact .write _ (.refl _ _)
  · cases h

theorem amoVd_frame (h : amoVd env st = .next st') :
    Frame (OperandField.vwd.bits ||| OperandField.vd.bits) true st st' := by
  unfold amoVd at h
  split at h
  · cases h
    exact .write _ ((OperandField.agreeOutside_insert .vwd _ _).or_left _)
  · have hframe := regLetter_frame (fun n => agreeOutside_pair (fun x => OperandField.agreeOutside_insert .vwd x 1)
      (insertReg_agree .vd n)) h
    exact ⟨hframe.insn, hframe.reloc, hframe.bad, hframe.imm⟩

theorem amoVs3_frame (h : amoVs3 env st = .next st') : Frame OperandField.vd.bits true st st' := by
  unfold amoVs3 at h
  refine regLetter_frame (fun n x => ?_) h
  split
  · exact insertReg_agree .vd n x
  · exact .refl _ _

theorem optionalMask_frame (h : optionalMask env st = .next st') : Frame OperandField.vmask.bits true st st' := by
  unfold optionalMask at h
  split at h
  · cases h
    exact .write _ (OperandField.agreeOutside_insert _ _ _)
  · exact maskLetter_frame h
  · cases h

theorem controlRegister_frame (h : controlRegister env st op = .next st') :
    Frame OperandField.csr.bits false st st' := by
  unfold controlRegister at h
  split at h
  · cases h
    exact (Frame.write _ (insertReg_agree .csr _ _)).weaken _
  · exact absolute_frame (OperandField.agreeOutside_insert .csr) h

theorem prefetchOffset_frame (h : prefetchOffset env st op = .next st') : Frame ImmFormat.stype.mask false st st' := by
  unfold prefetchOffset at h
  split at h
  · cases h
    exact ⟨.refl _ _, .inl rfl, List.prefix_rfl, fun hfalse => by cases hfalse⟩
  · exact absolute_frame (fun x v => agreeOutside_or (ImmFormat.stype.encode_inside _)) h

theorem fliConstant_frame (h : fliConstant env st = .next st') : Frame OperandField.rs1.bits true st st' := by
  unfold fliConstant at h
  split at h
  · cases h
    exact .write _ (insertReg_agree .rs1 _ _)
  · cases h

theorem macroOperand_frame {kinds : List ExprOp} (h : macroOperand env st kinds = .next st') :
    Frame 0 false st st' := by
  unfold macroOperand at h
  dsimp only at h
  split at h
  · cases h
  · cases h
    refine ⟨.refl _ _, ?_, List.prefix_append .., fun hfalse => by cases hfalse⟩
    dsimp only
    split
    · refine .inr fun code hcode => ?_
      rw [← Option.some.inj hcode]
      decide
    · exact .inl rfl

theorem callTarget_frame (h : callTarget env st = .next st') : Frame 0 false st st' := by
  unfold callTarget at h
  cases h
  refine ⟨.refl _ _, .inr fun code hcode => ?_, List.prefix_append .., fun hfalse => by cases hfalse⟩
  rw [← Option.some.inj hcode]
  decide

theorem literalLetter_frame {literal : List Char} (h : literalLetter st literal = .next st') : Frame 0 true st st' := by
  unfold literalLetter at h
  cases h
  exact ⟨.refl _ _, .inl rfl, List.prefix_append .., fun _ => ⟨rfl, rfl⟩⟩

/-- A letter changes its own bits, and reports are never taken back. -/
theorem ipLetter_frame {l : Letter} (h : ipLetter env op st l = .next st') : Frame l.touched l.keepsImm st st' := by
  have hsmall {text : List Char} {ops : PercentOps} :
      ∀ v, (myGetSmallExpression env text ops).constant = some v → (myGetSmallExpression env text ops).reloc = none :=
    fun _ => myGetSmallExpression_constant
  have hopcode : ∀ v, (myGetOpcodeExpression env st.asarg).constant = some v →
      (myGetOpcodeExpression env st.asarg).reloc = none := fun _ _ => myGetOpcodeExpression_reloc
  have hsame (n : Nat) (x : Opcode.Insn) : AgreeOutside 0 x x := .refl _ _
  have hitype : ∀ code, some RelocCode.lo12I = some code → relocBits code &&& ~~~ImmFormat.itype.mask = 0 := by
    rintro _ ⟨⟩
    decide
  have hstype : ∀ code, some RelocCode.lo12S = some code → relocBits code &&& ~~~ImmFormat.stype.mask = 0 := by
    rintro _ ⟨⟩
    decide
  have hzero (v : Vma) : (0 : Opcode.Insn) &&& ~~~(0 : Opcode.Insn) = 0 := by decide
  cases l <;> rw [ipLetter] at h
  case comma | bracket => exact punctuation_frame h
  case cs => exact regLetter_frame (fun n => insertReg_agree .crs1s (n % 8)) h
  case cS => exact regLetter_frame (fun n => insertReg_agree .crs1s (n % 8)) h
  case ct => exact regLetter_frame (fun n => insertReg_agree .crs2s (n % 8)) h
  case cD => exact regLetter_frame (fun n => insertReg_agree .crs2s (n % 8)) h
  case cw | cx | cU | cc | cz | v0 => exact regLetter_frame hsame h
  case cV | cT => exact regLetter_frame (insertReg_agree .crs2) h
  case cgt | cj | co => exact rvcImm_frame ImmFormat.citype.encode_inside h
  case c5 => exact rvcImm_frame ImmFormat.cltype.encode_inside h
  case c6 => exact rvcImm_frame ImmFormat.csstype.encode_inside h
  case c8 => exact rvcImm_frame ImmFormat.ciwtype.encode_inside h
  case ck => exact rvcOffset_frame ImmFormat.cltypeLw.encode_inside h
  case cl => exact rvcOffset_frame ImmFormat.cltypeLd.encode_inside h
  case cm => exact rvcOffset_frame ImmFormat.citypeLwsp.encode_inside h
  case cn => exact rvcOffset_frame ImmFormat.citypeLdsp.encode_inside h
  case cK => exact rvcImm_frame ImmFormat.ciwtypeAddi4spn.encode_inside h
  case cL => exact rvcImm_frame ImmFormat.citypeAddi16sp.encode_inside h
  case cM => exact rvcOffset_frame ImmFormat.csstypeSwsp.encode_inside h
  case cN => exact rvcOffset_frame ImmFormat.csstypeSdsp.encode_inside h
  case cu =>
    have hframe := rvcImm_frame ImmFormat.citype.encode_inside h
    exact ⟨hframe.insn, hframe.reloc, hframe.bad, hframe.imm⟩
  case cv => exact rvcImm_frame (fun v => ImmFormat.citype.encode_inside _) h
  case cp | ca | p | a => exact target_frame rfl h
  case cF6 => exact functField_frame hsmall h
  case cF4 => exact functField_frame hsmall h
  case cF3 => exact functField_frame hsmall h
  case cF2 => exact functField_frame hsmall h
  case vd => exact regLetter_frame (insertReg_agree .vd) h
  case ve => exact amoVd_frame h
  case vf => exact amoVs3_frame h
  case vs => exact regLetter_frame (insertReg_agree .vs1) h
  case vt => exact regLetter_frame (insertReg_agree .vs2) h
  case vu => exact regLetter_frame (fun n => agreeOutside_pair (insertReg_agree .vs1 n) (insertReg_agree .vs2 n)) h
  case vv =>
    exact regLetter_frame (fun n => agreeOutside_pair
      (agreeOutside_pair (insertReg_agree .vd n) (insertReg_agree .vs1 n)) (insertReg_agree .vs2 n)) h
  case vb => exact absolute_frame ImmFormat.rvvVb.agreeOutside_or_encode h
  case vc | xtVc => exact absolute_frame ImmFormat.rvvVc.agreeOutside_or_encode h
  case vi | vj => exact absolute_frame (OperandField.agreeOutside_insert .vimm) h
  case vk => exact absolute_frame (fun x v => OperandField.agreeOutside_insert .vimm x _) h
  case vl => exact absolute_frame ImmFormat.rvvViUimm6.agreeOutside_or_encode h
  case vm => exact optionalMask_frame h
  case vM => exact maskLetter_frame h
  case vT => exact regLetter_frame (insertReg_agree .vfunct6) h
  case lt => exact absolute_frame (OperandField.agreeOutside_insert .shamtw) h
  case gt => exact absolute_frame (OperandField.agreeOutside_insert .shamt) h
  case z | wcf => exact rvcImm_frame hzero h
  case Z => exact absolute_frame (OperandField.agreeOutside_insert .rs1) h
  case E => exact controlRegister_frame h
  case m => exact argLetter_frame h
  case P => exact argLetter_frame h
  case Q => exact argLetter_frame h
  case d | D => exact plainReg_frame (insertReg_agree .rd) h
  case s | S => exact plainReg_frame (insertReg_agree .rs1) h
  case t | T => exact plainReg_frame (insertReg_agree .rs2) h
  case r | R => exact plainReg_frame (insertReg_agree .rs3) h
  case U => exact plainReg_frame (fun n => agreeOutside_pair (insertReg_agree .rs1 n) (insertReg_agree .rs2 n)) h
  case I | A | B => exact macroOperand_frame h
  case c => exact callTarget_frame h
  case j => exact offset_frame percentOpItype_bits (.inr hitype) (aluOp_next h)
  case q => exact offset_frame percentOpStype_bits (.inr hstype) (loadStore_next h)
  case o => exact offset_frame percentOpItype_bits (.inr hitype) (loadStore_next h)
  case one => exact offset_frame percentOpRtype_bits (.inl rfl) (aluOp_next h)
  case zero =>
    refine offset_frame (fun entry _ => ?_) (.inl rfl) (loadStore_next h)
    cases entry.2 <;> decide
  case u =>
    have hframe := upperImm_frame rfl h
    exact ⟨hframe.insn, hframe.reloc, hframe.bad, hframe.imm⟩
  case O4 => exact functField_frame hopcode h
  case O2 => exact functField_frame hopcode h
  case F7 => exact functField_frame hsmall h
  case F3 => exact functField_frame hsmall h
  case F2 => exact functField_frame hsmall h
  case y => exact absolute_frame (OperandField.agreeOutside_insert .bs) h
  case Y => exact absolute_frame (OperandField.agreeOutside_insert .rnum) h
  case wif => exact prefetchOffset_frame h
  case wfv => exact fliConstant_frame h
  case wch => exact rvcOffset_frame ImmFormat.zcbHalfword.encode_inside h
  case wcb => exact rvcOffset_frame ImmFormat.zcbByte.encode_inside h
  case xtl literal => exact literalLetter_frame h
  case xts n pos => exact absolute_frame (agreeOutside_insertImm n pos) h
  case xtu n pos => exact absolute_frame (agreeOutside_insertImm n pos) h
  case xc2 => exact coreVImm_frame (scatter_inside 20) h
  case xc3 => exact coreVImm_frame (scatter_inside 25) h
  case xsd => exact uimmBitField_frame h
  case xst => exact uimmBitField_frame h
  case xsO2 => exact uimmBitField_frame h
  case xsO1 => exact uimmBitField_frame h
  case unknown => cases h

end Letter

/-! ## The frame of a row -/

/-- The bits that some of the letters can change. -/
def touchedAll (ls : List Letter) : Opcode.Insn := ls.foldr (fun l bits => l.touched ||| bits) 0

section Run

variable {env : IpEnv} {op : RiscvOpcodeRow} {st st' : IpState}

theorem ipLetters_cons {l : Letter} {ls : List Letter} : ipLetters env op (l :: ls) st = .next st' ↔
    ∃ s, ipLetter env op { st with asarg := skipBlanks st.asarg } l = .next s ∧ ipLetters env op ls s = .next st' := by
  rw [ipLetters]
  split
  · rename_i s hs
    rw [hs]
    constructor
    · intro h
      exact ⟨s, rfl, h⟩
    · rintro ⟨s', hs', h⟩
      rwa [LetterResult.next.inj hs']
  · rename_i hnot
    constructor
    · intro h
      exact absurd h (hnot st')
    · rintro ⟨s, hs, -⟩
      exact absurd hs (hnot s)

theorem ipLetters_append {xs ys : List Letter} : ipLetters env op (xs ++ ys) st = .next st' ↔
    ∃ s, ipLetters env op xs st = .next s ∧ ipLetters env op ys s = .next st' := by
  induction xs generalizing st with
  | nil =>
    constructor
    · intro h
      exact ⟨st, rfl, h⟩
    · rintro ⟨s, hs, h⟩
      rwa [LetterResult.next.inj hs]
  | cons x xs ih =>
    rw [List.cons_append, ipLetters_cons]
    constructor
    · rintro ⟨s, hs, h⟩
      obtain ⟨s', hs', h'⟩ := ih.mp h
      exact ⟨s', ipLetters_cons.mpr ⟨s, hs, hs'⟩, h'⟩
    · rintro ⟨s, hs, h⟩
      obtain ⟨s', hs', h'⟩ := ipLetters_cons.mp hs
      exact ⟨s', hs', ih.mpr ⟨s, h', h⟩⟩

theorem ipLetters_frame {ls : List Letter} (h : ipLetters env op ls st = .next st') :
    Frame (touchedAll ls) (ls.all Letter.keepsImm) st st' := by
  induction ls generalizing st with
  | nil =>
    rw [← LetterResult.next.inj h]
    exact .refl st
  | cons l ls ih =>
    obtain ⟨s, hs, hrest⟩ := ipLetters_cons.mp h
    have hstep := ipLetter_frame hs
    exact Frame.trans ⟨hstep.insn, hstep.reloc, hstep.bad, hstep.imm⟩ (ih hrest)

end Run

/-! ## The tables -/

/-- From some bits on no letter with a constant meets a bit that is used already, or will be used. -/
def apartFrom : Opcode.Insn → List Letter → Bool
  | _, [] => true
  | seen, l :: ls =>
    (l.slot.isNone ||
      decide (l.touched &&& (seen ||| touchedAll ls) = 0) && decide l.InWord &&
        (l.pending.isNone || ls.all Letter.keepsImm)) && apartFrom (seen ||| l.touched) ls

/-- The bits of the letters with a constant. -/
def constantBits (ls : List Letter) : Opcode.Insn :=
  ls.foldr (fun l bits => (if l.slot.isSome then l.touched else 0) ||| bits) 0

/-- The letters of a row and its own bits are apart. -/
def lettersApart : RiscvOpcodeRow → Bool
  | ⟨_, _, _, args, matchBits, _, _, pinfo⟩ =>
    pinfo = insnMacro || (apartFrom 0 (letters args) && constantBits (letters args) &&& matchBits = 0)

/-- The rows of the instructions of the base and of what is compressed, of floating point and of bits. -/
def scalarInsns : List RiscvOpcodeRow :=
  hintInsns ++ baseInsns ++ atomicInsns ++ mulInsns ++ halfInsns ++ singleInsns ++ doubleInsns ++ quadInsns ++
    compressedInsns ++ zicInsns ++ zfaInsns ++ bitmanipInsns ++ cryptoInsns

/-- A check of the table, in parts that are evaluated one after the other so that they do not pile up. -/
theorem riscvOpcodes_all {check : RiscvOpcodeRow → Bool} (hscalar : scalarInsns.all check = true)
    (hvector : (vectorInsns ++ vectorCryptoInsns).all check = true)
    (hvendor : (zcbInsns ++ supervisorInsns ++ coreVInsns ++ theadInsns).all check = true)
    (hthead : (theadVectorInsns ++ ventanaInsns ++ sifiveInsns).all check = true) :
    ∀ op ∈ riscvOpcodes, check op = true := by
  have hsplit : riscvOpcodes = scalarInsns ++ (vectorInsns ++ vectorCryptoInsns) ++
      (zcbInsns ++ supervisorInsns ++ coreVInsns ++ theadInsns) ++ (theadVectorInsns ++ ventanaInsns ++ sifiveInsns) := by
    unfold riscvOpcodes scalarInsns
    simp only [List.append_assoc]
  rw [← List.all_eq_true, hsplit, List.all_append, List.all_append, List.all_append, hscalar, hvector, hvendor, hthead]
  rfl

/-- The table, with its check. -/
def apartOpcodes : { ops : List RiscvOpcodeRow // ∀ op ∈ ops, lettersApart op = true } :=
  ⟨riscvOpcodes,
    riscvOpcodes_all (by decide +kernel) (by decide +kernel) (by decide +kernel) (by decide +kernel)⟩

theorem riscvOpcodes_apart : ∀ op ∈ riscvOpcodes, lettersApart op = true := apartOpcodes.property

theorem riscvInsnTypes_apart : ∀ op ∈ Opcode.riscvInsnTypes, lettersApart op = true := by
  rw [← List.all_eq_true]
  decide +kernel

/-- What is known of a letter with a constant between the others of its row. -/
structure ApartAt (before : List Letter) (l : Letter) (after : List Letter) : Prop where
  first : l.touched &&& touchedAll before = 0
  last : l.touched &&& touchedAll after = 0
  inWord : l.InWord
  pending : l.pending ≠ none → after.all Letter.keepsImm = true

theorem apartFrom_at {seen : Opcode.Insn} {before after : List Letter} {l : Letter} (hslot : l.slot.isSome = true)
    (h : apartFrom seen (before ++ l :: after) = true) : l.touched &&& seen = 0 ∧ ApartAt before l after := by
  induction before generalizing seen with
  | nil =>
    rw [List.nil_append, apartFrom, Bool.and_eq_true, Bool.or_eq_true, Bool.and_eq_true, Bool.and_eq_true,
      decide_eq_true_eq, decide_eq_true_eq, Bool.or_eq_true, Option.isNone_iff_eq_none, Option.isNone_iff_eq_none] at h
    obtain ⟨hnone | ⟨⟨hapart, hword⟩, hpending⟩, -⟩ := h
    · rw [hnone] at hslot
      cases hslot
    · obtain ⟨hseen, hafter⟩ := and_or_eq_zero hapart
      exact ⟨hseen, BitVec.and_zero, hafter, hword, fun hp => hpending.resolve_left hp⟩
  | cons x before ih =>
    rw [List.cons_append, apartFrom, Bool.and_eq_true] at h
    obtain ⟨hfirst, hrest⟩ := ih h.2
    obtain ⟨hseen, hx⟩ := and_or_eq_zero hfirst
    refine ⟨hseen, ?_, hrest.last, hrest.inWord, hrest.pending⟩
    rw [touchedAll, List.foldr_cons, BitVec.and_or_distrib_left, hx]
    exact BitVec.zero_or.trans hrest.first

theorem constantBits_at {bits : Opcode.Insn} {before after : List Letter} {l : Letter} (hslot : l.slot.isSome = true)
    (h : constantBits (before ++ l :: after) &&& bits = 0) : l.touched &&& bits = 0 := by
  rw [BitVec.and_comm] at h ⊢
  induction before with
  | nil =>
    rw [List.nil_append, constantBits, List.foldr_cons, if_pos hslot] at h
    exact (and_or_eq_zero h).1
  | cons x before ih =>
    rw [List.cons_append, constantBits, List.foldr_cons] at h
    exact ih (and_or_eq_zero h).2

theorem row_apart {hash : List RiscvOpcodeRow} (hhash : hash = riscvOpcodes ∨ hash = Opcode.riscvInsnTypes)
    {op : RiscvOpcodeRow} (hmem : op ∈ hash) (hpinfo : op.pinfo ≠ insnMacro) {before after : List Letter} {l : Letter}
    (hslot : l.slot.isSome = true) (hargs : letters op.args = before ++ l :: after) :
    l.touched &&& op.matchBits = 0 ∧ ApartAt before l after := by
  have hrow : lettersApart op = true := by
    rcases hhash with rfl | rfl
    · exact riscvOpcodes_apart op hmem
    · exact riscvInsnTypes_apart op hmem
  change (decide (op.pinfo = insnMacro) || (apartFrom 0 (letters op.args) &&
    decide (constantBits (letters op.args) &&& op.matchBits = 0))) = true at hrow
  rw [decide_eq_false hpinfo, Bool.false_or, hargs, Bool.and_eq_true, decide_eq_true_eq] at hrow
  exact ⟨constantBits_at hslot hrow.2, (apartFrom_at hslot hrow.1).2⟩

end RiscvBinutils.Gas.Ip
