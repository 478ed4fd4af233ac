/-
A constant on its way through a row (gas/config/tc-riscv.c, `riscv_ip`, `append_insn`): no other letter and no fixup
writes into its bits, and so it is read back from the word exactly if its letter compared all of it that counts.
-/
import RiscvBinutils.Gas.OperandValues

namespace RiscvBinutils.Gas.Ip

open RiscvBinutils.Base RiscvBinutils.Opcode RiscvBinutils.Bfd

/-! ## Letters without a fixup -/

section Reloc

variable {env : IpEnv} {op : RiscvOpcodeRow} {st st' : IpState} {l : Letter}

theorem rvcImm_reloc {ok : Vma → Bool} {encode : Vma → Opcode.Insn} (h : rvcImm env st ok encode = .next st') :
    st'.immReloc = st.immReloc := by
  obtain ⟨_, _, _, _, hreloc, _⟩ := rvcImm_next h
  exact hreloc

theorem rvcOffset_reloc {ok : Vma → Bool} {encode : Vma → Opcode.Insn} (h : rvcOffset env st ok encode = .next st') :
    st'.immReloc = st.immReloc := by
  unfold rvcOffset at h
  split at h
  · cases h
    rfl
  · exact rvcImm_reloc h

theorem functField_reloc {read : SmallText} {f : OperandField} {ok : Vma → Bool} {msg : AsBad}
    (hread : ∀ v, read.constant = some v → read.reloc = none) (h : functField st read f ok msg = .next st') :
    st'.immReloc = st.immReloc := by
  obtain ⟨_, _, _, _, hreloc, _⟩ := functField_next hread h
  exact hreloc

theorem absolute_reloc {read : ExprText} {maybeCsr : Bool} {ok : Vma → Bool} {msg : Vma → AsBad}
    {write : Opcode.Insn → Vma → Opcode.Insn} (h : absolute env st op read maybeCsr ok msg write = .next st') :
    st'.immReloc = st.immReloc := by
  unfold absolute at h
  cases h
  rfl

theorem coreVImm_reloc {pos : Nat} (h : coreVImm env st op pos = .next st') : st'.immReloc = st.immReloc := by
  obtain ⟨_, _, _, _, hreloc, _⟩ := coreVImm_next h
  exact hreloc

theorem uimmBitField_reloc {f : OperandField} {first last : Nat} (h : uimmBitField env st f first last = .next st') :
    st'.immReloc = st.immReloc := by
  have hreloc : (myGetOpcodeExpression env st.asarg).reloc.or st.immReloc = st.immReloc := by
    rw [myGetOpcodeExpression_reloc, Option.none_or]
  unfold uimmBitField at h
  dsimp only at h
  split at h
  · cases h
    exact hreloc
  · cases h
    exact hreloc

/-- A letter that writes its constant itself asks for no fixup. -/
theorem ipLetter_reloc (hslot : l.slot.isSome = true) (hpending : l.pending = none)
    (h : ipLetter env op st l = .next st') : st'.immReloc = st.immReloc := by
  have hsmall {text : List Char} {ops : PercentOps} :
      ∀ v, (myGetSmallExpression env text ops).constant = some v → (myGetSmallExpression env text ops).reloc = none :=
    fun _ => myGetSmallExpression_constant
  have hopcode : ∀ v, (myGetOpcodeExpression env st.asarg).constant = some v →
      (myGetOpcodeExpression env st.asarg).reloc = none := fun _ _ => myGetOpcodeExpression_reloc
  cases l <;> rw [ipLetter] at h <;> try cases hslot
  case cgt | c5 | c6 | c8 | cj | co | cK | cL | cv => exact rvcImm_reloc h
  case cu => exact (rvcImm_reloc h).trans rfl
  case ck | cl | cm | cn | cM | cN | wch | wcb => exact rvcOffset_reloc h
  case cF6 | cF4 | cF3 | cF2 | F7 | F3 | F2 => exact functField_reloc hsmall h
  case O4 | O2 => exact functField_reloc hopcode h
  case xsd | xst | xsO2 | xsO1 => exact uimmBitField_reloc h
  case vb | vc | xtVc | vl | vi | vj | vk | lt | gt | Z | y | Y | xts | xtu => exact absolute_reloc h
  case xc2 | xc3 => exact coreVImm_reloc h
  case E =>
    unfold controlRegister at h
    split at h
    · cases h
      rfl
    · exact absolute_reloc h
  case wif =>
    unfold prefetchOffset at h
    split at h
    · cases h
      rfl
    · exact absolute_reloc h
  all_goals cases hpending

end Reloc

/-! ## Letters with a fixup -/

section Pending

variable {env : IpEnv} {op : RiscvOpcodeRow} {st st' : IpState} {l : Letter} {v : Vma} {code : RelocCode}

/-- A constant that is left to its fixup. -/
structure Left (st st' : IpState) (code : RelocCode) (value : Vma) : Prop where
  insn : st'.insn = st.insn
  reloc : st'.immReloc = some code
  expr : st'.immExpr = ⟨.constant, value⟩

theorem normalizeConstantExpr_constant (xlen : Xlen) (v : Vma) :
    normalizeConstantExpr xlen ⟨.constant, v⟩ = ⟨.constant, (normalizeConstantExpr xlen ⟨.constant, v⟩).addNumber⟩ := by
  unfold normalizeConstantExpr
  split
  · rfl
  · split <;> rfl

theorem aluOp_left (hreloc : st.immReloc = some code) (hv : smallConstant env st st.p = some v)
    (h : aluOp env st (fun _ => true) = .next st') :
    Left st st' code (normalized env v) ∧ (-2048 ≤ (normalized env v).toInt ∧ (normalized env v).toInt < 2048) := by
  obtain ⟨hused, hexpr⟩ := SmallText.constant_eq_some.mp hv
  have hnone := myGetSmallExpression_constant hv
  unfold aluOp at h
  dsimp only at h
  rw [hused, hexpr, if_neg (by decide)] at h
  split at h
  · cases h
  · rename_i hgo
    simp only [not_or, Int.not_le, Int.not_lt] at hgo
    cases h
    refine ⟨⟨rfl, ?_, normalizeConstantExpr_constant env.xlen v⟩, hgo.2.2.2, hgo.2.2.1⟩
    show (myGetSmallExpression env st.asarg st.p).reloc.or st.immReloc = some code
    rw [hnone, Option.none_or, hreloc]

theorem loadStore_left (hreloc : st.immReloc = some code) (hv : offsetConstant st (smallConstant env st st.p) = some v)
    (h : loadStore env st (fun _ => true) = .next st') :
    Left st st' code (normalized env v) ∧ (-2048 ≤ (normalized env v).toInt ∧ (normalized env v).toInt < 2048) := by
  obtain ⟨hzero, hv⟩ := offsetConstant_eq_some hv
  unfold loadStore at h
  rw [if_neg (by rw [hzero]; decide)] at h
  exact aluOp_left hreloc hv h

theorem upperImm_left (hbad : st'.bad = []) (hv : smallConstant env st st.p = some v)
    (h : upperImm env st = .next st') :
    Left st st' .hi20 (v <<< 12) ∧ (0 ≤ v.toInt ∧ v.toInt < 2 ^ 20) := by
  obtain ⟨hused, hexpr⟩ := SmallText.constant_eq_some.mp hv
  unfold upperImm at h
  dsimp only at h
  rw [hused, hexpr, if_neg (by decide), if_neg (not_not_intro rfl)] at h
  cases h
  refine ⟨⟨rfl, rfl, rfl⟩, ?_⟩
  have hmsg := (List.append_eq_nil_iff.mp hbad).2
  split at hmsg
  · cases hmsg
  · rename_i hgo
    rwa [not_or, Int.not_lt, Int.not_le] at hgo

/-- What the fixup writes is the constant of the letter. -/
theorem ipLetter_pending {slot : BitSlot 64} (hpending : l.pending = some code) (hslot : l.slot = some slot)
    (hbad : st'.bad = []) (hv : l.constant env st = some v) (h : ipLetter env op st l = .next st') :
    ∃ value, Left st st' code value ∧ env.xlen.Congr (slot.read (riscvApplyConstReloc code value)) v := by
  have hitype {x : Vma} (hx : -2048 ≤ x.toInt ∧ x.toInt < 2048) : extractItypeImm (encodeItypeImm x) = x :=
    (ImmFormat.itype.shape.extract_encode_iff x).mpr ⟨hx, Nat.mod_one _⟩
  have hstype {x : Vma} (hx : -2048 ≤ x.toInt ∧ x.toInt < 2048) : extractStypeImm (encodeStypeImm x) = x :=
    (ImmFormat.stype.shape.extract_encode_iff x).mpr ⟨hx, Nat.mod_one _⟩
  have hcongr {x : Vma} (hx : x = normalized env v) : env.xlen.Congr x v :=
    hx ▸ normalizeConstantExpr_congr env.xlen v
  cases l <;> try cases hpending
  case j =>
    rw [ipLetter] at h
    cases hslot
    obtain ⟨hleft, hrange⟩ := @aluOp_left env { st with p := percentOpItype, immReloc := some .lo12I } _ _ _ rfl hv h
    exact ⟨_, ⟨hleft.insn, hleft.reloc, hleft.expr⟩, hcongr (hitype hrange)⟩
  case o =>
    rw [ipLetter] at h
    cases hslot
    obtain ⟨hleft, hrange⟩ :=
      @loadStore_left env { st with p := percentOpItype, immReloc := some .lo12I } _ _ _ rfl hv h
    exact ⟨_, ⟨hleft.insn, hleft.reloc, hleft.expr⟩, hcongr (hitype hrange)⟩
  case q =>
    rw [ipLetter] at h
    cases hslot
    obtain ⟨hleft, hrange⟩ :=
      @loadStore_left env { st with p := percentOpStype, immReloc := some .lo12S } _ _ _ rfl hv h
    exact ⟨_, ⟨hleft.insn, hleft.reloc, hleft.expr⟩, hcongr (hstype hrange)⟩
  case u =>
    rw [ipLetter] at h
    cases hslot
    obtain ⟨hleft, hrange⟩ := @upperImm_left env { st with p := percentOpUtype } _ _ hbad hv h
    refine ⟨_, ⟨hleft.insn, hleft.reloc, hleft.expr⟩, ?_⟩
    have hread : extractUtypeImm (encodeUtypeImm (constHighPart (v <<< 12))) >>> 12 &&& 0xfffff = v :=
      upper_read hrange.1 hrange.2
    show env.xlen.Congr (extractUtypeImm (encodeUtypeImm (constHighPart (v <<< 12))) >>> 12 &&& 0xfffff) v
    rw [hread]
    cases env.xlen <;> rfl

end Pending

/-! ## The word of a row -/

section Word

variable {env : IpEnv} {op : RiscvOpcodeRow} {st st' : IpState}

/-- The bits that the fixup of a state writes. -/
def pendingBits (st : IpState) : Opcode.Insn := (st.immReloc.map relocBits).getD 0

/-- Bits inside of a mask are apart from what the mask is apart from. -/
theorem and_eq_zero_of_inside {m bits mask : Opcode.Insn} (hin : bits &&& ~~~mask = 0) (h : m &&& mask = 0) :
    m &&& bits = 0 := by
  rw [and_eq_zero_iff] at h ⊢
  exact fun i hi hm => getLsbD_of_and_not hin hi (h i hi hm)

theorem appendInsn_agree (env : IpEnv) (st : IpState) : AgreeOutside (pendingBits st) st.insn (appendInsn env st) := by
  unfold appendInsn pendingBits
  dsimp only
  cases st.immReloc with
  | none => exact .refl _ _
  | some code =>
    cases code
    case hi20 => exact ImmFormat.utype.agreeOutside_or_encode _ _
    case lo12I => exact ImmFormat.itype.agreeOutside_or_encode _ _
    case lo12S => exact ImmFormat.stype.agreeOutside_or_encode _ _
    all_goals exact .refl _ _

/-- A fixup that some letters ask for does not meet what these letters do not touch. -/
theorem Frame.pendingBits_apart {m bits : Opcode.Insn} {keeps : Bool} (h : Frame m keeps st st') (hm : bits &&& m = 0)
    (hst : bits &&& pendingBits st = 0) : bits &&& pendingBits st' = 0 := by
  rcases h.reloc with hsame | hin
  · rw [pendingBits, hsame]
    exact hst
  · rw [pendingBits]
    cases hcode : st'.immReloc with
    | none => exact BitVec.and_zero
    | some code => exact and_eq_zero_of_inside (hin code hcode) hm

theorem appendInsn_left {code : RelocCode} {value : Vma} {l : Letter} (hpending : l.pending = some code)
    (hreloc : st.immReloc = some code) (hexpr : st.immExpr = ⟨.constant, value⟩) :
    appendInsn env st = st.insn ||| riscvApplyConstReloc code value := by
  unfold appendInsn
  rw [hreloc, hexpr]
  cases l <;> cases hpending <;> rfl

/-- A letter of a row whose letters are apart. -/
theorem appendInsn_read {before after : List Letter} {l : Letter} {slot : BitSlot 64} {s : IpState} {v : Vma}
    (hslot : l.slot = some slot) (hbits : l.touched &&& op.matchBits = 0) (hapart : ApartAt before l after)
    {text : List Char} (hs : ipLetters env op before (startRow op text) = .next s)
    (hv : l.constant env { s with asarg := skipBlanks s.asarg } = some v)
    (h : ipLetters env op (l :: after) s = .next st) (hbad : st.bad = []) :
    env.xlen.Congr (slot.read (appendInsn env st)) v ↔ ComparedWhole env l v := by
  have hmask : slot.mask = l.touched := by
    rw [Letter.touched, hslot]
  obtain ⟨s', hl, hafter⟩ := ipLetters_cons.mp h
  have hbefore := ipLetters_frame hs
  have hrest := ipLetters_frame hafter
  have hempty : s.insn &&& slot.mask = 0 := by
    rw [← hbefore.insn.and_eq (hmask ▸ hapart.first), hmask, BitVec.and_comm]
    exact hbits
  have hbad' : s'.bad = [] := List.prefix_nil.mp (hbad ▸ hrest.bad)
  have hlater : slot.read s'.insn = slot.read st.insn := slot.read_outside hrest.insn (hmask ▸ hapart.last)
  cases hpending : l.pending with
  | none =>
    have hstart : l.touched &&& pendingBits s = 0 := hbefore.pendingBits_apart hapart.first BitVec.and_zero
    have hown : pendingBits s' = pendingBits s := by
      rw [pendingBits, ipLetter_reloc (by rw [hslot]; rfl) hpending hl]
      rfl
    have hend : slot.mask &&& pendingBits st = 0 :=
      hmask ▸ hrest.pendingBits_apart hapart.last (hown ▸ hstart)
    rw [← slot.read_outside (appendInsn_agree env st) hend, ← hlater]
    exact ipLetter_kept hpending hapart.inWord hslot (by exact hempty) hbad' hv hl
  | some code =>
    obtain ⟨value, hleft, hcongr⟩ := ipLetter_pending hpending hslot hbad' hv hl
    -- the letters behind it read no expression: the fixup gets the constant of this one
    obtain ⟨hexpr, hreloc⟩ := hrest.imm (hapart.pending (by rw [hpending]; exact nofun))
    have hclear : st.insn &&& slot.mask = 0 := by
      rw [← hrest.insn.and_eq (hmask ▸ hapart.last), hleft.insn]
      exact hempty
    rw [appendInsn_left hpending (hreloc.trans hleft.reloc) (hexpr.trans hleft.expr), slot.read_or hclear]
    refine iff_of_true hcongr (.inr (.inr (.inl ?_)))
    cases l <;> first | rfl | cases hpending

end Word

/-! ## The rows of a name -/

section Rows

variable {env : IpEnv} {op : RiscvOpcodeRow} {text : List Char} {st : IpState} {bad : List AsBad}

theorem endOfArgs_done {s : IpState} (h : endOfArgs env op s = .done st) : st = s := by
  unfold endOfArgs at h
  dsimp only at h
  split_ifs at h
  all_goals
    cases h
    rfl

/-- A row that is done went through its letters. -/
theorem ipRow_done (h : ipRow env op text = .done st) :
    ∃ s, ipLetters env op (letters op.args) (startRow op text) = .next s ∧
      st = { s with asarg := skipBlanks s.asarg } := by
  unfold ipRow at h
  split at h
  · rename_i s hs
    exact ⟨s, hs, endOfArgs_done h⟩
  · cases h
  · cases h

/-- The match function has seen the word, before any fixup. -/
theorem endOfArgs_accepts {s : IpState} (h : endOfArgs env op s = .done st) (hfunc : op.matchFunc ≠ .null) :
    op.accepts st.insn = true := by
  have hst := endOfArgs_done h
  unfold endOfArgs at h
  dsimp only at h
  split at h
  · cases h
  · rename_i haccepts
    rw [not_and, Bool.not_eq_false] at haccepts
    rw [hst]
    exact haccepts hfunc

theorem ipRow_accepts (h : ipRow env op text = .done st) (hfunc : op.matchFunc ≠ .null) :
    op.accepts st.insn = true := by
  unfold ipRow at h
  split at h
  · exact endOfArgs_accepts h hfunc
  · cases h
  · cases h

theorem ipRows_insn {ops : List RiscvOpcodeRow} {err : IpError} {bad₀ : List AsBad}
    (h : ipRows env text ops err bad₀ = .insn op st bad) : op ∈ ops ∧ ipRow env op text = .done st := by
  induction ops generalizing err bad₀ with
  | nil => cases h
  | cons x ops ih =>
    have hbehind {err' : IpError} {bad' : List AsBad} (h : ipRows env text ops err' bad' = .insn op st bad) :
        op ∈ x :: ops ∧ ipRow env op text = .done st := by
      obtain ⟨hmem, hrow⟩ := ih h
      exact ⟨List.mem_cons_of_mem _ hmem, hrow⟩
    unfold ipRows at h
    split at h
    · exact hbehind h
    · split at h
      · exact hbehind h
      · split at h
        · rename_i hrow
          cases h
          exact ⟨List.mem_cons_self .., hrow⟩
        · exact hbehind h
        · cases h

theorem riscvIp_insn {hash : List RiscvOpcodeRow} {name : String} (h : riscvIp env hash name text = .insn op st bad) :
    op ∈ hash ∧ ipRow env op text = .done st := by
  unfold riscvIp at h
  obtain ⟨hmem, hrow⟩ := ipRows_insn h
  exact ⟨(List.dropWhile_sublist _).mem ((List.takeWhile_sublist _).mem hmem), hrow⟩

end Rows

/-! ## The constants of an instruction -/

/-- A constant of an instruction without an error is read back from its word exactly if it was compared as a whole. -/
theorem riscvIp_constant {env : IpEnv} {hash : List RiscvOpcodeRow}
    (hhash : hash = riscvOpcodes ∨ hash = Opcode.riscvInsnTypes)
    {name : String} {text : List Char} {op : RiscvOpcodeRow} {st : IpState} {bad : List AsBad}
    (h : riscvIp env hash name text = .insn op st bad) (hbad : bad ++ st.bad = []) (hpinfo : op.pinfo ≠ insnMacro)
    {before after : List Letter} {l : Letter} (hargs : letters op.args = before ++ l :: after) {s : IpState}
    (hs : ipLetters env op before (startRow op text) = .next s) {v : Vma}
    (hv : l.constant env { s with asarg := skipBlanks s.asarg } = some v) {read : Opcode.Insn → Opcode.Insn}
    (hread : l.extract = some read) :
    env.xlen.Congr (read (appendInsn env st)) v ↔ ComparedWhole env l v := by
  obtain ⟨hmem, hrow⟩ := riscvIp_insn h
  obtain ⟨s₁, hletters, rfl⟩ := ipRow_done hrow
  rw [hargs, ipLetters_append] at hletters
  obtain ⟨s₂, hs₂, hrest⟩ := hletters
  have heq : s₂ = s := LetterResult.next.inj (hs₂.symm.trans hs)
  rw [heq] at hrest
  have hsome : l.slot.isSome = true := by
    cases l <;> first | rfl | cases hread
  obtain ⟨hbits, hapart⟩ := row_apart hhash hmem hpinfo hsome hargs
  obtain ⟨slot, hslot, hslotRead⟩ := Letter.extract_slot hapart.inWord hread
  rw [← hslotRead]
  have hword := appendInsn_read hslot hbits hapart hs hv hrest (List.append_eq_nil_iff.mp hbad).2
  exact hword

/-! ## Lines of numbers -/

/-- What `expression` leaves. -/
def Parsed.text (p : Parsed) : ExprText where
  expr :=
    match p.operand with
    | .constant v => ⟨.constant, v⟩
    | .big n _ => ⟨.big, BitVec.ofInt 64 n⟩
    | .absent | .other => ⟨.other, 0⟩
  rest := p.rest
  bad := if p.bad then [.expression "bad expression"] else []

/-- No labels, no floats, and no names. -/
def numbersOnly : ExprEnv where
  labelDefined _ := false
  floatBehindF _ := false
  atof bignum text := (text, bignum, true)
  otherOperand bignum text := { operand := .other, rest := text, bignum }
  operators p := p

/-- The assembler for lines with the registers `x0` to `x31` and with numbers, where only the base is there. -/
def plainEnv (xlen : Xlen) (ulong : UnsignedLong) : IpEnv where
  xlen := xlen
  ulong := ulong
  rvc := false
  riscvMultiSubsetSupports cls := cls = .i
  riscvMultiSubsetSupportsExt cls := if cls = .i then none else some "c"
  riscvSubsetSupports _ := false
  regLookup
    | .gpr, 'x' :: text =>
      let (regno, rest) := strtol text
      if regno < 32 then some (regno, rest) else none
    | _, _ => none
  opcodeNameLookup _ := none
  fltLookup _ := none
  expression _ text := Parsed.text (expression numbersOnly ⟨List.replicate bignumSize 0, rfl⟩ text)
  fixValue _ := 0

/-- The second row of `slli`. -/
def slliRow : RiscvOpcodeRow := ⟨"slli", 0, .i, "d,s,>", 0x1013#64, 0xfc00707f#64, .opcode, 0⟩

/-- The letters of `slli` before its shift amount. -/
def slliBefore : List Letter := [.d, .comma, .s, .comma]

def slliText : List Char := "x10,x11,5".toList

def slliState : IpState := { asarg := [], insn := 0x559513, immExpr := ⟨.other, 5⟩ }

theorem slli_kept :
    riscvIp (plainEnv .rv64 .bits32) riscvOpcodes "slli" slliText = .insn slliRow slliState [] ∧
      (Xlen.rv64.Congr (OperandField.shamt.extract (appendInsn (plainEnv .rv64 .bits32) slliState)) 5 ↔
        ComparedWhole (plainEnv .rv64 .bits32) .gt 5) := by
  have hline : riscvIp (plainEnv .rv64 .bits32) riscvOpcodes "slli" slliText = .insn slliRow slliState [] := by
    decide +kernel
  have hletters : letters slliRow.args = slliBefore ++ .gt :: [] := by decide
  have hbefore : ipLetters (plainEnv .rv64 .bits32) slliRow slliBefore (startRow slliRow slliText) =
      .next { asarg := ['5'], insn := 0x59513 } := by decide +kernel
  exact ⟨hline, riscvIp_constant (.inl rfl) hline rfl (by decide) hletters hbefore (by decide +kernel) rfl⟩

def wideText : List Char := "x10,x11,0x100000005".toList

/-- A shift by more than four thousand million is assembled as a shift by five. -/
theorem wideShift_cut :
    riscvIp (plainEnv .rv64 .bits32) riscvOpcodes "slli" wideText =
        .insn slliRow { slliState with immExpr := ⟨.other, 0x100000005⟩ } [] ∧
      letters slliRow.args = slliBefore ++ [.gt] ∧
      ipLetters (plainEnv .rv64 .bits32) slliRow slliBefore (startRow slliRow wideText) =
        .next { asarg := "0x100000005".toList, insn := 0x59513 } ∧
      Letter.gt.constant (plainEnv .rv64 .bits32) { asarg := "0x100000005".toList, insn := 0x59513 } =
        some 0x100000005 ∧
      ¬ Xlen.rv64.Congr (OperandField.shamt.extract
        (appendInsn (plainEnv .rv64 .bits32) { slliState with immExpr := ⟨.other, 0x100000005⟩ })) 0x100000005 := by
  refine ⟨?_, ?_, ?_, ?_, ?_⟩
  · decide +kernel
  · decide
  · decide +kernel
  · decide +kernel
  · decide +kernel

end RiscvBinutils.Gas.Ip
