/-
The constants of an instruction, as they are read back from its word (gas/config/tc-riscv.c, `riscv_ip`).
Some letters compare a constant as an `unsigned long`.  Where that has 32 bits and the target has 64, such a constant
is cut to its low half before it is compared, and the high half is lost without a message.
-/
import RiscvBinutils.Bfd.PcrelPair
import RiscvBinutils.Gas.OperandFrame

namespace RiscvBinutils.Gas.Ip

open RiscvBinutils.Base RiscvBinutils.Opcode RiscvBinutils.Bfd

/-! ## What is written and what is read -/

/-- The macro that reads the constant of a letter back, as in `print_insn_args`. -/
def Letter.extract : Letter → Option (Opcode.Insn → Opcode.Insn)
  | cgt => some fun insn => extractCitypeImm insn &&& 0x3f
  | c5 => some extractCltypeImm
  | c6 => some extractCsstypeImm
  | c8 => some extractCiwtypeImm
  | cj | co => some extractCitypeImm
  | ck => some extractCltypeLwImm
  | cl => some extractCltypeLdImm
  | cm => some extractCitypeLwspImm
  | cn => some extractCitypeLdspImm
  | cK => some extractCiwtypeAddi4spnImm
  | cL => some extractCitypeAddi16spImm
  | cM => some extractCsstypeSwspImm
  | cN => some extractCsstypeSdspImm
  | cu => some fun insn => extractCitypeImm insn &&& 0xfffff
  | cv => some extractCitypeLuiImm
  | cF6 => some OperandField.cfunct6.extract
  | cF4 => some OperandField.cfunct4.extract
  | cF3 => some OperandField.cfunct3.extract
  | cF2 => some OperandField.cfunct2.extract
  | vb => some extractRvvVbImm
  | vc | xtVc => some extractRvvVcImm
  | vi => some extractRvvViImm
  | vj => some extractRvvViUimm
  -- the letter stands for a constant that is one more than the field
  | vk => some fun insn => extractRvvViImm insn + 1
  | vl => some extractRvvViUimm6
  | lt => some OperandField.shamtw.extract
  | gt => some OperandField.shamt.extract
  | Z => some OperandField.rs1.extract
  | E => some OperandField.csr.extract
  | j | o => some extractItypeImm
  | q => some extractStypeImm
  | u => some fun insn => extractUtypeImm insn >>> 12 &&& 0xfffff
  | O4 => some OperandField.op.extract
  | O2 => some OperandField.op2.extract
  | F7 => some OperandField.funct7.extract
  | F3 => some OperandField.funct3.extract
  | F2 => some OperandField.funct2.extract
  | y => some OperandField.bs.extract
  | Y => some OperandField.rnum.extract
  | wif => some extractStypeImm
  | wch => some extractZcbHalfwordUimm
  | wcb => some extractZcbByteUimm
  | xts n pos => some (extractSImm n pos)
  | xtu n pos => some (extractUImm n pos)
  | xc2 => some extractCvIs2Uimm5
  | xc3 => some extractCvIs3Uimm5
  | xsd => some OperandField.rd.extract
  | xst => some OperandField.rs2.extract
  | xsO2 => some OperandField.xso2.extract
  | xsO1 => some OperandField.xso1.extract
  | _ => none

section Constant

variable (env : IpEnv) (st : IpState)

/-- The constant at `asarg` for `my_getSmallExpression`. -/
def smallConstant (ops : PercentOps) : Option Vma := (myGetSmallExpression env st.asarg ops).constant

/-- The constant at `asarg` for `my_getExpression`. -/
def plainConstant : Option Vma := constantOf (myGetExpression env st.asarg).expr

/-- The constant of an offset that is not left out. -/
def offsetConstant (constant : Option Vma) : Option Vma := if implicitZeroOffset st.asarg then none else constant

/-- The constant that a letter finds in the line; a name or a symbol is none. -/
def Letter.constant : Letter → Option Vma
  | cgt | c5 | c6 | c8 | cj | co | cK | cL | cv | cF6 | cF4 | cF3 | cF2 | F7 | F3 | F2 => smallConstant env st st.p
  | ck | cl | cm | cn | cM | cN | wch | wcb => offsetConstant st (smallConstant env st st.p)
  | cu | u => smallConstant env st percentOpUtype
  | j => smallConstant env st percentOpItype
  | o => offsetConstant st (smallConstant env st percentOpItype)
  | q => offsetConstant st (smallConstant env st percentOpStype)
  | O4 | O2 | xsd | xst | xsO2 | xsO1 => (myGetOpcodeExpression env st.asarg).constant
  | vb | vc => constantOf (myGetVsetvliExpression env st.asarg).expr
  | xtVc => constantOf (myGetThVsetvliExpression env st.asarg).expr
  | vi | vj | vk | vl | lt | gt | Z | y | Y | xts _ _ | xtu _ _ | xc2 | xc3 => plainConstant env st
  | E => if (env.regLookup .csr st.asarg).isSome then none else plainConstant env st
  | wif => offsetConstant st (plainConstant env st)
  | _ => none

end Constant

/-- The letters that compare `(unsigned long) imm_expr->X_add_number`. -/
def Letter.castsLong : Letter → Bool
  | cgt | lt | gt | Z | E | y | Y | xtu _ _ => true
  | _ => false

/-- The constant is compared as a whole, or what is cut off does not count for the target. -/
def ComparedWhole (env : IpEnv) (l : Letter) (v : Vma) : Prop :=
  env.ulong = .bits64 ∨ env.xlen = .rv32 ∨ l.castsLong = false ∨ v.toNat < 2 ^ 32

/-! ## Slots and macros -/

theorem extractRvvViImm_eq (x : Opcode.Insn) : extractRvvViImm x = sext 5 (OperandField.vimm.extract x) :=
  extractSImm_eq (n := 5) (s := 15) (by decide) (by decide) x

/-- A macro reads the slot of its letter. -/
theorem Letter.extract_slot {l : Letter} {read : Opcode.Insn → Opcode.Insn} (hword : l.InWord)
    (h : l.extract = some read) : ∃ slot, l.slot = some slot ∧ slot.read = read := by
  cases l
  case vi =>
    refine ⟨_, rfl, ?_⟩
    rw [← Option.some.inj h]
    exact (funext extractRvvViImm_eq).symm
  case vk =>
    refine ⟨_, rfl, ?_⟩
    rw [← Option.some.inj h]
    exact (funext fun x => congrArg (· + 1) (extractRvvViImm_eq x)).symm
  case xts n pos =>
    refine ⟨_, rfl, ?_⟩
    rw [← Option.some.inj h]
    exact (funext fun x => extractSImm_eq hword.1 (by have := hword.2.1; omega) x).symm
  all_goals first
    | exact ⟨_, rfl, Option.some.inj h⟩
    | cases h

/-! ## Constants that a field holds -/

theorem toNat_lt_of_toInt {v : Vma} {n : Nat} (hlo : 0 ≤ v.toInt) (hhi : v.toInt < 2 ^ n) : v.toNat < 2 ^ n := by
  have hcond := BitVec.toInt_eq_toNat_cond v
  have hlt : v.toNat < 2 ^ 64 := v.isLt
  have hnat : (v.toNat : Int) < 2 ^ n := by
    split at hcond
    · omega
    · omega
  exact_mod_cast hnat

theorem toNat_and_mask (v : Vma) {n : Nat} (hn : n < 64) : (v &&& ((1#64 <<< n) - 1#64)).toNat = v.toNat % 2 ^ n := by
  rw [BitVec.toNat_and, toNat_mask hn, Nat.and_two_pow_sub_one_eq_mod]

theorem and_mask_of_lt {v : Vma} {n : Nat} (hn : n < 64) (h : v.toNat < 2 ^ n) : v &&& ((1#64 <<< n) - 1#64) = v := by
  apply BitVec.eq_of_toNat_eq
  rw [toNat_and_mask v hn, Nat.mod_eq_of_lt h]

theorem UnsignedLong.cast_toNat_mod (ulong : UnsignedLong) (v : Vma) {n : Nat} (hn : n ≤ 32) :
    (ulong.cast v).toNat % 2 ^ n = v.toNat % 2 ^ n := by
  cases ulong with
  | bits64 => rfl
  | bits32 =>
    rw [UnsignedLong.cast, BitVec.toNat_setWidth, BitVec.toNat_setWidth,
      Nat.mod_eq_of_lt (show v.toNat % 2 ^ 32 < 2 ^ 64 by omega), Nat.mod_mod_of_dvd _ (Nat.pow_dvd_pow 2 hn)]

/-- A small field holds what the cast leaves. -/
theorem and_mask_of_cast_lt {ulong : UnsignedLong} {v : Vma} {n : Nat} (hn : n ≤ 32)
    (h : (ulong.cast v).toNat < 2 ^ n) : v &&& ((1#64 <<< n) - 1#64) = ulong.cast v := by
  apply BitVec.eq_of_toNat_eq
  rw [toNat_and_mask v (by omega), ← ulong.cast_toNat_mod v hn, Nat.mod_eq_of_lt h]

/-- A signed constant comes back from its low bits. -/
theorem sext_and_mask {v : Vma} {n : Nat} (hn : 0 < n) (hlt : n < 64) (hlo : -(2 ^ (n - 1) : Int) ≤ v.toInt)
    (hhi : v.toInt < 2 ^ (n - 1)) : sext n (v &&& ((1#64 <<< n) - 1#64)) = v := by
  have hlow : sext n (v &&& ((1#64 <<< n) - 1#64)) = sext n v := by
    apply BitVec.eq_of_getLsbD_eq
    intro i hi
    rw [getLsbD_sext _ hn hi, getLsbD_sext _ hn hi, BitVec.getLsbD_and, getLsbD_mask _ hlt,
      decide_eq_true (by omega), Bool.and_true]
  rw [hlow]
  exact (sext_eq_self_iff v hn (by omega)).mpr ⟨hlo, hhi⟩

section Field

variable (f : OperandField) (hw : f.width < 64) (x : Opcode.Insn) {v : Vma}

include hw

theorem extract_insert_nat (h : v.toNat < 2 ^ f.width) : f.extract (f.insert x v) = v := by
  rw [f.extract_insert, f.mask_eq hw, and_mask_of_lt hw h]

theorem extract_insert_of_range (hlo : 0 ≤ v.toInt) (hhi : v.toInt < 2 ^ f.width) : f.extract (f.insert x v) = v :=
  extract_insert_nat f hw x (toNat_lt_of_toInt hlo hhi)

theorem sext_extract_insert (hpos : 0 < f.width) (hlo : -(2 ^ (f.width - 1) : Int) ≤ v.toInt)
    (hhi : v.toInt < 2 ^ (f.width - 1)) : sext f.width (f.extract (f.insert x v)) = v := by
  rw [f.extract_insert, f.mask_eq hw]
  exact sext_and_mask hpos hw hlo hhi

end Field

theorem extract_insert_cast (f : OperandField) (hw : f.width ≤ 32) (ulong : UnsignedLong) (x : Opcode.Insn) {v : Vma}
    (h : (ulong.cast v).toNat < 2 ^ f.width) : f.extract (f.insert x v) = ulong.cast v := by
  rw [f.extract_insert, f.mask_eq (by omega), and_mask_of_cast_lt hw h]

/-! ## The target's view -/

theorem normalizeConstantExpr_congr (xlen : Xlen) (v : Vma) :
    xlen.Congr (normalizeConstantExpr xlen ⟨.constant, v⟩).addNumber v := by
  cases xlen with
  | rv64 => rfl
  | rv32 =>
    unfold normalizeConstantExpr
    rw [if_neg (by decide)]
    split
    · have hsext : ((v &&& 0xffffffff) ^^^ 0x80000000) - 0x80000000 = sext 32 v :=
        xor_sub_eq_sext (n := 31) v (v &&& 0xffffffff) 0x80000000 (by decide)
          (by rw [BitVec.toNat_and]; exact Nat.and_two_pow_sub_one_eq_mod v.toNat 32) rfl
      show (((v &&& 0xffffffff) ^^^ 0x80000000) - 0x80000000).setWidth 32 = v.setWidth 32
      rw [hsext, sext, setWidth_signExtend _ (by decide), BitVec.signExtend_eq]
    · rfl

section Kept

variable {env : IpEnv} {l : Letter} {v x : Vma}

/-- A letter that does not cast keeps the constant. -/
theorem kept_whole (hl : l.castsLong = false) (h : env.xlen.Congr x v) : env.xlen.Congr x v ↔ ComparedWhole env l v :=
  iff_of_true h (.inr (.inr (.inl hl)))

/-- What is left after a cast is the constant exactly if nothing that counts was cut off. -/
theorem kept_cast (hl : l.castsLong = true)
    (h : x = env.ulong.cast (normalizeConstantExpr env.xlen ⟨.constant, v⟩).addNumber ∨ x = env.ulong.cast v) :
    env.xlen.Congr x v ↔ ComparedWhole env l v := by
  have hcong := normalizeConstantExpr_congr env.xlen v
  cases hulong : env.ulong with
  | bits64 =>
    rw [hulong] at h
    refine iff_of_true ?_ (.inl hulong)
    rcases h with rfl | rfl
    · exact hcong
    · cases env.xlen <;> rfl
  | bits32 =>
    rw [hulong] at h
    unfold ComparedWhole
    rw [hulong, hl]
    cases hxlen : env.xlen with
    | rv32 =>
      rw [hxlen] at h hcong
      refine iff_of_true ?_ (.inr (.inl rfl))
      rcases h with rfl | rfl
      · show ((BitVec.setWidth 64 (BitVec.setWidth 32 _)).setWidth 32) = v.setWidth 32
        rw [BitVec.setWidth_setWidth_of_le _ (by decide), BitVec.setWidth_eq]
        exact hcong
      · show (BitVec.setWidth 64 (BitVec.setWidth 32 v)).setWidth 32 = v.setWidth 32
        rw [BitVec.setWidth_setWidth_of_le _ (by decide), BitVec.setWidth_eq]
    | rv64 =>
      rw [hxlen] at h
      have hx : x = (v.setWidth 32).setWidth 64 := h.elim id id
      have hnat : ((v.setWidth 32).setWidth 64 : Vma).toNat = v.toNat % 2 ^ 32 := by
        rw [BitVec.toNat_setWidth, BitVec.toNat_setWidth]
        exact Nat.mod_eq_of_lt (by omega)
      show x = v ↔ _
      rw [hx, ← BitVec.toNat_inj, hnat]
      constructor
      · intro heq
        exact .inr (.inr (.inr (by omega)))
      · rintro (hfalse | hfalse | hfalse | hlt)
        · cases hfalse
        · cases hfalse
        · cases hfalse
        · exact Nat.mod_eq_of_lt hlt

end Kept

/-! ## One letter -/

section Letters

variable {env : IpEnv} {op : RiscvOpcodeRow} {st st' : IpState} {l : Letter} {v : Vma} {slot : BitSlot 64}

theorem rvcImm_read {ok : Vma → Bool} {encode : Vma → Opcode.Insn} (hclear : st.insn &&& slot.mask = 0)
    (hv : smallConstant env st st.p = some v) (h : rvcImm env st ok encode = .next st') :
    ok v = true ∧ slot.read st'.insn = slot.read (encode v) := by
  obtain ⟨v', hv', hok, hinsn, -, -⟩ := rvcImm_next h
  have heq : v' = v := Option.some.inj (hv'.symm.trans hv)
  rw [heq] at hok hinsn
  refine ⟨hok, ?_⟩
  rw [hinsn]
  exact slot.read_or hclear _

theorem offsetConstant_eq_some {constant : Option Vma} (h : offsetConstant st constant = some v) :
    implicitZeroOffset st.asarg = false ∧ constant = some v := by
  unfold offsetConstant at h
  split at h
  · cases h
  · rename_i hnot
    exact ⟨Bool.not_eq_true _ ▸ hnot, h⟩

theorem rvcOffset_read {ok : Vma → Bool} {encode : Vma → Opcode.Insn} (hclear : st.insn &&& slot.mask = 0)
    (hv : offsetConstant st (smallConstant env st st.p) = some v) (h : rvcOffset env st ok encode = .next st') :
    ok v = true ∧ slot.read st'.insn = slot.read (encode v) := by
  obtain ⟨hzero, hv⟩ := offsetConstant_eq_some hv
  rw [rvcOffset, if_neg (by rw [hzero]; decide)] at h
  exact rvcImm_read hclear hv h

theorem functField_read {read : SmallText} {f : OperandField} {ok : Vma → Bool} {msg : AsBad}
    (hread : ∀ v, read.constant = some v → read.reloc = none) (hv : read.constant = some v)
    (h : functField st read f ok msg = .next st') : ok v = true ∧ st'.insn = f.insert st.insn v := by
  obtain ⟨v', hv', hok, hinsn, -, -⟩ := functField_next hread h
  have heq : v' = v := Option.some.inj (hv'.symm.trans hv)
  rw [heq] at hok hinsn
  exact ⟨hok, hinsn⟩

/-- The constant as `check_absolute_expr` leaves it. -/
def normalized (env : IpEnv) (v : Vma) : Vma := (normalizeConstantExpr env.xlen ⟨.constant, v⟩).addNumber

/-- Without a report the constant passed its check. -/
theorem absolute_read {read : ExprText} {maybeCsr : Bool} {ok : Vma → Bool} {msg : Vma → AsBad}
    {write : Opcode.Insn → Vma → Opcode.Insn} (hbad : st'.bad = []) (hv : constantOf read.expr = some v)
    (h : absolute env st op read maybeCsr ok msg write = .next st') :
    ok (normalized env v) = true ∧ st'.insn = write st.insn (normalized env v) := by
  have hexpr : read.expr = ⟨.constant, v⟩ := constantOf_eq_some.mp hv
  unfold absolute afterAbsolute checkAbsoluteExpr at h
  dsimp only at h
  rw [hexpr] at h
  cases h
  refine ⟨?_, rfl⟩
  have hmsg := (List.append_eq_nil_iff.mp hbad).2
  split at hmsg
  · assumption
  · cases hmsg

theorem coreVImm_read {pos : Nat} (hv : plainConstant env st = some v) (h : coreVImm env st op pos = .next st') :
    (0 ≤ (normalized env v).toInt ∧ (normalized env v).toInt ≤ 31) ∧
      st'.insn = st.insn ||| scatter [⟨0, 5, pos⟩] (normalized env v) := by
  obtain ⟨v', hv', hrange, hinsn, -, -⟩ := coreVImm_next h
  rw [constantOf_eq_some.mp hv] at hv'
  rw [hv'] at hrange hinsn
  exact ⟨hrange, hinsn⟩

theorem uimmBitField_read {f : OperandField} {first last : Nat} (hbad : st'.bad = [])
    (hv : (myGetOpcodeExpression env st.asarg).constant = some v) (h : uimmBitField env st f first last = .next st') :
    (0 ≤ v.toInt ∧ v.toInt < 2 ^ (last - first + 1)) ∧ st'.insn = f.insert st.insn v := by
  obtain ⟨hused, hexpr⟩ := SmallText.constant_eq_some.mp hv
  unfold uimmBitField at h
  dsimp only at h
  rw [hused, hexpr] at h
  split at h
  · cases h
    have hmsg := (List.append_eq_nil_iff.mp hbad).2
    cases hmsg
  · rename_i hgo
    cases h
    simp only [not_or, Int.not_lt, Int.not_le] at hgo
    exact ⟨hgo.2.2, rfl⟩

/-! ## The special encodings -/

/-- The shift amounts of the compressed formats. -/
theorem rvcShift_read {ulong : UnsignedLong} (h : (ulong.cast v).toNat < 2 ^ 6) :
    extractCitypeImm (encodeCitypeImm v) &&& 0x3f = ulong.cast v := by
  have hround : extractCitypeImm (encodeCitypeImm v) = sext 6 v := citype_format.round_eq_sext v
  have hmask : (0x3f : Vma) = (1#64 <<< 6) - 1#64 := by decide
  rw [hround, hmask, ← and_mask_of_cast_lt (by decide) h]
  apply BitVec.eq_of_toNat_eq
  rw [toNat_and_mask _ (by decide), toNat_and_mask _ (by decide), toNat_sext_mod v (by decide) (by decide)]

/-- The low bits of what `c.lui` takes. -/
theorem sext_of_rvcLuiOk (h : rvcLuiOk v = true) :
    v.toInt < 32 ∧ (sext 6 v).toInt = v.toInt ∨ 2 ^ 20 - 32 ≤ v.toInt ∧ (sext 6 v).toInt = v.toInt - 2 ^ 20 := by
  have hlow := toInt_sext v (n := 6) (by decide)
  rw [rvcLuiOk, decide_eq_true_eq] at h
  rw [Int.bmod_def] at hlow
  omega

theorem rvcLui_read (h : rvcLuiOk v = true) : extractCitypeImm (encodeCitypeImm v) &&& 0xfffff = v := by
  have hround : extractCitypeImm (encodeCitypeImm v) = sext 6 v := citype_format.round_eq_sext v
  have hmask : (0xfffff : Vma) = (1#64 <<< 20) - 1#64 := by decide
  have hsext := sext_of_rvcLuiOk h
  rw [rvcLuiOk, decide_eq_true_eq] at h
  apply BitVec.eq_of_toNat_eq
  rw [hround, hmask, toNat_and_mask _ (by decide)]
  rw [BitVec.toInt_eq_toNat_cond, BitVec.toInt_eq_toNat_cond] at hsext
  rw [BitVec.toInt_eq_toNat_cond] at h
  omega

/-- A constant in the place where `lui` puts it. -/
theorem rvcLuiHigh_read (hlow : v &&& 0xfff = 0) (hsext : sext 32 v = v)
    (hok : rvcLuiOk ((v.setWidth 32 >>> 12).setWidth 64) = true) :
    extractCitypeImm (encodeCitypeImm ((v.setWidth 32 >>> 12).setWidth 64)) <<< 12 = v := by
  have hround : extractCitypeImm (encodeCitypeImm ((v.setWidth 32 >>> 12).setWidth 64)) =
      sext 6 ((v.setWidth 32 >>> 12).setWidth 64) := citype_format.round_eq_sext _
  have hmask : (0xfff : Vma) = (1#64 <<< 12) - 1#64 := by decide
  have hzero : v.toNat % 2 ^ 12 = 0 := by
    rw [← toNat_and_mask v (by decide), ← hmask, hlow]
    rfl
  have hupper : ((v.setWidth 32 >>> 12).setWidth 64 : Vma).toNat = v.toNat % 2 ^ 32 / 2 ^ 12 := by
    rw [BitVec.toNat_setWidth, BitVec.toNat_ushiftRight, BitVec.toNat_setWidth, Nat.shiftRight_eq_div_pow]
    exact Nat.mod_eq_of_lt (by omega)
  have hrange := (sext_eq_self_iff v (n := 32) (by decide) (by decide)).mp hsext
  have hvalue := sext_of_rvcLuiOk hok
  rw [rvcLuiOk, decide_eq_true_eq] at hok
  have hupperInt := BitVec.toInt_eq_toNat_cond ((v.setWidth 32 >>> 12).setWidth 64 : Vma)
  have hsextInt := BitVec.toInt_eq_toNat_cond (sext 6 ((v.setWidth 32 >>> 12).setWidth 64))
  have hint := BitVec.toInt_eq_toNat_cond v
  rw [hupper] at hupperInt
  apply BitVec.eq_of_toNat_eq
  rw [hround, BitVec.toNat_shiftLeft, Nat.shiftLeft_eq]
  generalize sext 6 ((v.setWidth 32 >>> 12).setWidth 64) = low at hvalue hsextInt ⊢
  generalize ((v.setWidth 32 >>> 12).setWidth 64 : Vma).toInt = upper at hvalue hupperInt hok
  omega

/-- An offset with five zeros, of which only 32 bits are looked at. -/
theorem prefetch_read (hlow : v &&& 0x1f = 0) (hlo : -2048 ≤ v.toInt) (hhi : v.toInt < 2048) :
    extractStypeImm (encodeStypeImm ((v.setWidth 32).setWidth 64 &&& ~~~0x1f)) = v := by
  have hself : sext 12 v = v := (sext_eq_self_iff v (by decide) (by decide)).mpr ⟨hlo, hhi⟩
  rw [extract_encodeStypeImm]
  nth_rewrite 2 [← hself]
  apply BitVec.eq_of_getLsbD_eq
  intro i hi
  have hbit := congrArg (BitVec.getLsbD · (min i 11)) hlow
  rw [getLsbD_sext _ (by decide) hi, getLsbD_sext _ (by decide) hi]
  simp only [BitVec.getLsbD_and, BitVec.getLsbD_not, BitVec.getLsbD_setWidth, BitVec.getLsbD_zero,
    BitVec.ofNat_eq_ofNat] at hbit ⊢
  rw [decide_eq_true (by omega : min i 11 < 64), decide_eq_true (by omega : min i 11 < 32)]
  cases hm : (0x1f#64).getLsbD (min i 11) with
  | false => simp
  | true =>
    rw [hm, Bool.and_true] at hbit
    rw [hbit]
    rfl

/-- The small immediates of CORE-V. -/
theorem coreV_read {pos : Nat} (hpos : Base.Holds 64 [⟨0, 5, pos⟩] 5 0) (hlo : 0 ≤ v.toInt) (hhi : v.toInt ≤ 31) :
    bitsAt (scatter [⟨0, 5, pos⟩] v : Vma) pos 5 = v := by
  have hgather : gather [⟨0, 5, pos⟩] (scatter [⟨0, 5, pos⟩] v : Vma) = v :=
    (hpos.gather_scatter_eq_self_iff v).mpr ⟨toNat_lt_of_toInt hlo (by omega), Nat.mod_one _⟩
  have hone : gather [⟨0, 5, pos⟩] (scatter [⟨0, 5, pos⟩] v : Vma) = bitsAt (scatter [⟨0, 5, pos⟩] v : Vma) pos 5 := by
    rw [gather, List.foldr_cons, List.foldr_nil, BitVec.shiftLeft_zero]
    exact BitVec.or_zero
  exact hone.symm.trans hgather

theorem upper_read (hlo : 0 ≤ v.toInt) (hhi : v.toInt < 2 ^ 20) :
    extractUtypeImm (encodeUtypeImm (constHighPart (v <<< 12))) >>> 12 &&& 0xfffff = v := by
  have hnat := toNat_lt_of_toInt hlo hhi
  have hshift : (v <<< 12).toNat = v.toNat * 2 ^ 12 := by
    rw [BitVec.toNat_shiftLeft, Nat.shiftLeft_eq]
    exact Nat.mod_eq_of_lt (by omega)
  have hhigh : (constHighPart (v <<< 12)).toNat = v.toNat * 2 ^ 12 := by
    rw [constHighPart_toNat, hshift]
    omega
  have hmask : (0xfffff : Vma) = (1#64 <<< 20) - 1#64 := by decide
  have hmod := toNat_sext_mod (constHighPart (v <<< 12)) (n := 32) (by decide) (by decide)
  rw [extract_encodeUtypeImm (constHighPart_mod _), hmask]
  apply BitVec.eq_of_toNat_eq
  rw [toNat_and_mask _ (by decide), BitVec.toNat_ushiftRight, Nat.shiftRight_eq_div_pow]
  rw [hhigh] at hmod
  omega

end Letters


/-! ## The letters that write the word themselves -/

section Kept

variable {env : IpEnv} {op : RiscvOpcodeRow} {st st' : IpState} {l : Letter} {v : Vma} {slot : BitSlot 64}

theorem kept_eq (hl : l.castsLong = false) {x : Vma} (h : x = v) : env.xlen.Congr x v ↔ ComparedWhole env l v := by
  refine kept_whole hl ?_
  rw [h]
  cases env.xlen <;> rfl

theorem kept_normalized (hl : l.castsLong = false) {x : Vma} (h : x = normalized env v) :
    env.xlen.Congr x v ↔ ComparedWhole env l v :=
  kept_whole hl (h ▸ normalizeConstantExpr_congr env.xlen v)

/-- An immediate that passes its macro comes back. -/
theorem rvcImm_kept (f : ImmFormat) (hl : l.castsLong = false) {ok : Vma → Bool}
    (hok : ok v = true → f.extract (f.encode v) = v) (hclear : st.insn &&& f.slot.mask = 0)
    (hv : smallConstant env st st.p = some v) (h : rvcImm env st ok f.encode = .next st') :
    env.xlen.Congr (f.slot.read st'.insn) v ↔ ComparedWhole env l v := by
  obtain ⟨hvalid, hread⟩ := rvcImm_read hclear hv h
  exact kept_eq hl (hread.trans (hok hvalid))

theorem rvcOffset_kept (f : ImmFormat) (hl : l.castsLong = false) {ok : Vma → Bool}
    (hok : ok v = true → f.extract (f.encode v) = v) (hclear : st.insn &&& f.slot.mask = 0)
    (hv : offsetConstant st (smallConstant env st st.p) = some v) (h : rvcOffset env st ok f.encode = .next st') :
    env.xlen.Congr (f.slot.read st'.insn) v ↔ ComparedWhole env l v := by
  obtain ⟨hvalid, hread⟩ := rvcOffset_read hclear hv h
  exact kept_eq hl (hread.trans (hok hvalid))

/-- A field that takes the values below a power of two. -/
theorem functField_kept (f : OperandField) (hw : f.width < 64) (hl : l.castsLong = false) {read : SmallText}
    {ok : Vma → Bool} {msg : AsBad} (hok : ok v = true → 0 ≤ v.toInt ∧ v.toInt < 2 ^ f.width)
    (hread : ∀ v, read.constant = some v → read.reloc = none) (hv : read.constant = some v)
    (h : functField st read f ok msg = .next st') :
    env.xlen.Congr (f.slot.read st'.insn) v ↔ ComparedWhole env l v := by
  obtain ⟨hvalid, hinsn⟩ := functField_read hread hv h
  refine kept_eq hl ?_
  rw [hinsn]
  exact extract_insert_of_range f hw _ (hok hvalid).1 (hok hvalid).2

/-- A field that takes what is below a bound as an `unsigned long`. -/
theorem absolute_cast_kept (f : OperandField) (hw : f.width ≤ 32) (hl : l.castsLong = true) {maybeCsr : Bool}
    {ok : Vma → Bool} {msg : Vma → AsBad} (hok : ∀ x, ok x = true → (env.ulong.cast x).toNat < 2 ^ f.width)
    (hbad : st'.bad = []) (hv : plainConstant env st = some v)
    (h : absolute env st op (myGetExpression env st.asarg) maybeCsr ok msg f.insert = .next st') :
    env.xlen.Congr (f.slot.read st'.insn) v ↔ ComparedWhole env l v := by
  obtain ⟨hvalid, hinsn⟩ := absolute_read hbad hv h
  refine kept_cast hl (.inl ?_)
  rw [hinsn]
  exact extract_insert_cast f hw env.ulong _ (hok _ hvalid)

theorem absolute_encode_kept (f : ImmFormat) (hl : l.castsLong = false) {read : ExprText} {ok : Vma → Bool}
    {msg : Vma → AsBad} (hok : ∀ x, ok x = true → f.extract (f.encode x) = x) (hclear : st.insn &&& f.slot.mask = 0)
    (hbad : st'.bad = []) (hv : constantOf read.expr = some v)
    (h : absolute env st op read false ok msg (fun insn x => insn ||| f.encode x) = .next st') :
    env.xlen.Congr (f.slot.read st'.insn) v ↔ ComparedWhole env l v := by
  obtain ⟨hvalid, hinsn⟩ := absolute_read hbad hv h
  refine kept_normalized hl ?_
  rw [hinsn]
  exact (f.slot_read_or hclear _).trans (hok _ hvalid)

theorem uimmBitField_kept (f : OperandField) {first last : Nat} (hw : f.width = last - first + 1) (hlt : f.width < 64)
    (hl : l.castsLong = false) (hbad : st'.bad = []) (hv : (myGetOpcodeExpression env st.asarg).constant = some v)
    (h : uimmBitField env st f first last = .next st') :
    env.xlen.Congr (f.slot.read st'.insn) v ↔ ComparedWhole env l v := by
  obtain ⟨hrange, hinsn⟩ := uimmBitField_read hbad hv h
  refine kept_eq hl ?_
  rw [hinsn]
  exact extract_insert_of_range f hlt _ hrange.1 (hw ▸ hrange.2)

theorem coreVImm_kept {pos : Nat} (hpos : Base.Holds 64 [⟨0, 5, pos⟩] 5 0) (hl : l.castsLong = false)
    (hclear : st.insn &&& (BitSlot.bits 5 pos : BitSlot 64).mask = 0) (hv : plainConstant env st = some v)
    (h : coreVImm env st op pos = .next st') :
    env.xlen.Congr ((BitSlot.bits 5 pos).read st'.insn) v ↔ ComparedWhole env l v := by
  obtain ⟨hrange, hinsn⟩ := coreVImm_read hv h
  refine kept_normalized hl ?_
  rw [hinsn, BitSlot.read_or _ hclear]
  exact coreV_read hpos hrange.1 hrange.2

theorem cast_lt_xlen_bits {x : Vma} (h : decide (env.ulong.cast x < BitVec.ofNat 64 env.xlen.bits) = true) :
    (env.ulong.cast x).toNat < 2 ^ 6 := by
  have hlt : (env.ulong.cast x).toNat < (BitVec.ofNat 64 env.xlen.bits).toNat := of_decide_eq_true h
  have hbits : (BitVec.ofNat 64 env.xlen.bits).toNat ≤ 2 ^ 6 := by cases env.xlen <;> decide
  omega

theorem validateUImm_lt {n : Nat} (hn : n < 32) {x : Vma} (h : validateUImm env x n = true) :
    (env.ulong.cast x).toNat < 2 ^ n := by
  have hpow : 2 ^ n < 2 ^ 32 := Nat.pow_lt_pow_right (by decide) hn
  have hone : (1#64 <<< n).toNat = 2 ^ n := by
    rw [BitVec.toNat_shiftLeft, Nat.shiftLeft_eq, BitVec.toNat_ofNat, Nat.one_mod, Nat.one_mul]
    exact Nat.mod_eq_of_lt (by omega)
  have hlt : (env.ulong.cast x).toNat < (env.ulong.cast (1#64 <<< n)).toNat := of_decide_eq_true h
  have hcast : (env.ulong.cast (1#64 <<< n)).toNat = 2 ^ n := by
    cases env.ulong with
    | bits64 => exact hone
    | bits32 =>
      rw [UnsignedLong.cast, BitVec.toNat_setWidth, BitVec.toNat_setWidth, hone, Nat.mod_eq_of_lt hpow]
      exact Nat.mod_eq_of_lt (by omega)
  omega

theorem validateSImm_range {n : Nat} (hpos : 0 < n) (hn : n < 32) {x : Vma} (h : validateSImm x n = true) :
    -(2 ^ (n - 1) : Int) ≤ x.toInt ∧ x.toInt < 2 ^ (n - 1) := by
  have hpow : 2 ^ (n - 1) < 2 ^ 32 := Nat.pow_lt_pow_right (by decide) (by omega)
  have hnat : (1#64 <<< (n - 1)).toNat = 2 ^ (n - 1) := by
    rw [BitVec.toNat_shiftLeft, Nat.shiftLeft_eq, BitVec.toNat_ofNat, Nat.one_mod, Nat.one_mul]
    exact Nat.mod_eq_of_lt (by omega)
  have hint : (1#64 <<< (n - 1)).toInt = 2 ^ (n - 1) := by
    rw [BitVec.toInt_eq_toNat_cond, hnat, if_pos (by omega)]
    exact Int.natCast_pow 2 (n - 1)
  obtain ⟨hhi, hlo⟩ := of_decide_eq_true h
  rw [hint] at hhi hlo
  exact ⟨hlo, hhi⟩

theorem vimm_read (insn : Opcode.Insn) (hlo : -16 ≤ v.toInt) (hhi : v.toInt ≤ 15) :
    sext 5 (OperandField.vimm.extract (OperandField.vimm.insert insn v)) = v := by
  have hlow : -(2 ^ (OperandField.vimm.width - 1) : Int) = -16 := by decide
  have hhigh : (2 ^ (OperandField.vimm.width - 1) : Int) = 16 := by decide
  refine sext_extract_insert .vimm (by decide) insn (by decide) ?_ ?_
  · rwa [hlow]
  · rw [hhigh]
    omega

theorem toInt_sub_one {x : Vma} (h : -15 ≤ x.toInt) : (x - 1).toInt = x.toInt - 1 := by
  have hlt : x.toInt < 2 ^ 63 := BitVec.toInt_lt
  rw [BitVec.toInt_sub]
  exact Int.bmod_eq_of_le (by change _ ≤ x.toInt - 1; omega) (by change x.toInt - 1 < _; omega)

/-- `normalize_constant_expr` and the cast aside, a constant without a fixup is in its slot. -/
theorem ipLetter_kept (hpending : l.pending = none) (hword : l.InWord) (hslot : l.slot = some slot)
    (hclear : st.insn &&& slot.mask = 0) (hbad : st'.bad = []) (hv : l.constant env st = some v)
    (h : ipLetter env op st l = .next st') : env.xlen.Congr (slot.read st'.insn) v ↔ ComparedWhole env l v := by
  have hsmall {text : List Char} {ops : PercentOps} :
      ∀ v, (myGetSmallExpression env text ops).constant = some v → (myGetSmallExpression env text ops).reloc = none :=
    fun _ => myGetSmallExpression_constant
  have hopcode : ∀ v, (myGetOpcodeExpression env st.asarg).constant = some v →
      (myGetOpcodeExpression env st.asarg).reloc = none := fun _ _ => myGetOpcodeExpression_reloc
  have hlast {p q : Prop} [Decidable (p ∧ q)] (hok : decide (p ∧ q) = true) : q := (of_decide_eq_true hok).2
  have hcast {x bound : Vma} {n : Nat} (hlt : bound.toNat < 2 ^ n) (hok : decide (env.ulong.cast x ≤ bound) = true) :
      (env.ulong.cast x).toNat < 2 ^ n := Nat.lt_of_le_of_lt (of_decide_eq_true hok) hlt
  cases l <;> rw [ipLetter] at h <;> try cases hslot
  -- the compressed formats
  case cgt =>
    obtain ⟨hok, hread⟩ := rvcImm_read hclear hv h
    exact kept_cast rfl (.inr (hread.trans (rvcShift_read (cast_lt_xlen_bits hok))))
  case c5 =>
    exact rvcImm_kept .cltype rfl (fun hok => of_decide_eq_true (of_decide_eq_true hok).2.2) hclear hv h
  case c6 =>
    exact rvcImm_kept .csstype rfl (fun hok => of_decide_eq_true (of_decide_eq_true hok).2.2) hclear hv h
  case c8 =>
    exact rvcImm_kept .ciwtype rfl (fun hok => of_decide_eq_true (of_decide_eq_true hok).2.2) hclear hv h
  case cj => exact rvcImm_kept .citype rfl (fun hok => of_decide_eq_true (of_decide_eq_true hok).2) hclear hv h
  case co => exact rvcImm_kept .citype rfl of_decide_eq_true hclear hv h
  case ck => exact rvcOffset_kept .cltypeLw rfl of_decide_eq_true hclear hv h
  case cl => exact rvcOffset_kept .cltypeLd rfl of_decide_eq_true hclear hv h
  case cm => exact rvcOffset_kept .citypeLwsp rfl of_decide_eq_true hclear hv h
  case cn => exact rvcOffset_kept .citypeLdsp rfl of_decide_eq_true hclear hv h
  case cM => exact rvcOffset_kept .csstypeSwsp rfl of_decide_eq_true hclear hv h
  case cN => exact rvcOffset_kept .csstypeSdsp rfl of_decide_eq_true hclear hv h
  case wch => exact rvcOffset_kept .zcbHalfword rfl of_decide_eq_true hclear hv h
  case wcb => exact rvcOffset_kept .zcbByte rfl of_decide_eq_true hclear hv h
  case cK =>
    exact rvcImm_kept .ciwtypeAddi4spn rfl (fun hok => of_decide_eq_true (of_decide_eq_true hok).2) hclear hv h
  case cL => exact rvcImm_kept .citypeAddi16sp rfl (fun hok => (of_decide_eq_true hok).2) hclear hv h
  case cu =>
    have hread := @rvcImm_read env { st with p := percentOpUtype } _ _ _ _ _ hclear hv h
    exact kept_eq rfl (hread.2.trans (rvcLui_read hread.1))
  case cv =>
    have hread := rvcImm_read hclear hv h
    obtain ⟨hlow, hsext, hok⟩ := of_decide_eq_true hread.1
    exact kept_eq rfl (hread.2.trans (rvcLuiHigh_read hlow hsext hok))
  -- `.insn`
  case cF6 => exact functField_kept .cfunct6 (by decide) rfl of_decide_eq_true hsmall hv h
  case cF4 => exact functField_kept .cfunct4 (by decide) rfl of_decide_eq_true hsmall hv h
  case cF3 => exact functField_kept .cfunct3 (by decide) rfl of_decide_eq_true hsmall hv h
  case cF2 => exact functField_kept .cfunct2 (by decide) rfl of_decide_eq_true hsmall hv h
  case F7 => exact functField_kept .funct7 (by decide) rfl of_decide_eq_true hsmall hv h
  case F3 => exact functField_kept .funct3 (by decide) rfl of_decide_eq_true hsmall hv h
  case F2 => exact functField_kept .funct2 (by decide) rfl of_decide_eq_true hsmall hv h
  case O4 =>
    exact functField_kept .op (by decide) rfl
      (fun hok => ⟨(of_decide_eq_true hok).1, (of_decide_eq_true hok).2.1⟩) hopcode hv h
  case O2 =>
    refine functField_kept .op2 (by decide) rfl (fun hok => ?_) hopcode hv h
    obtain ⟨hlo, hhi⟩ := of_decide_eq_true hok
    exact ⟨hlo, Int.lt_trans hhi (by decide)⟩
  case xsd => exact uimmBitField_kept .rd rfl (by decide) rfl hbad hv h
  case xst => exact uimmBitField_kept .rs2 rfl (by decide) rfl hbad hv h
  case xsO2 => exact uimmBitField_kept .xso2 rfl (by decide) rfl hbad hv h
  case xsO1 => exact uimmBitField_kept .xso1 rfl (by decide) rfl hbad hv h
  -- vectors
  case vb => exact absolute_encode_kept .rvvVb rfl (fun _ => of_decide_eq_true) hclear hbad hv h
  case vc => exact absolute_encode_kept .rvvVc rfl (fun _ => of_decide_eq_true) hclear hbad hv h
  case xtVc => exact absolute_encode_kept .rvvVc rfl (fun _ => of_decide_eq_true) hclear hbad hv h
  case vl =>
    refine absolute_encode_kept .rvvViUimm6 rfl (fun x hok => ?_) hclear hbad hv h
    obtain ⟨hlo, hhi⟩ := of_decide_eq_true hok
    exact (ImmFormat.rvvViUimm6.shape.extract_encode_iff x).mpr ⟨toNat_lt_of_toInt (n := 6) hlo hhi, Nat.mod_one _⟩
  case vi =>
    obtain ⟨hok, hinsn⟩ := absolute_read hbad hv h
    obtain ⟨hhi, hlo⟩ := of_decide_eq_true hok
    refine kept_normalized rfl ?_
    rw [hinsn]
    exact vimm_read _ hlo hhi
  case vj =>
    obtain ⟨hok, hinsn⟩ := absolute_read hbad hv h
    obtain ⟨hlo, hhi⟩ := of_decide_eq_true hok
    refine kept_normalized rfl ?_
    rw [hinsn]
    exact extract_insert_of_range .vimm (by decide) _ hlo hhi
  case vk =>
    obtain ⟨hok, hinsn⟩ := absolute_read hbad hv h
    obtain ⟨hhi, hlo⟩ := of_decide_eq_true hok
    have hpred := toInt_sub_one hlo
    refine kept_normalized rfl ?_
    rw [hinsn]
    have hfield := vimm_read st.insn (v := normalized env v - 1) (by omega) (by omega)
    exact (congrArg (· + 1) hfield).trans (BitVec.sub_add_cancel _ _)
  -- shifts, control registers and numbers of rounds
  case lt => exact absolute_cast_kept .shamtw (by decide) rfl (fun _ => hcast (by decide)) hbad hv h
  case gt => exact absolute_cast_kept .shamt (by decide) rfl (fun _ => cast_lt_xlen_bits) hbad hv h
  case Z => exact absolute_cast_kept .rs1 (by decide) rfl (fun _ => hcast (by decide)) hbad hv h
  case y => exact absolute_cast_kept .bs (by decide) rfl (fun _ => hcast (by decide)) hbad hv h
  case Y => exact absolute_cast_kept .rnum (by decide) rfl (fun _ => hcast (by decide)) hbad hv h
  case E =>
    unfold controlRegister at h
    unfold Letter.constant at hv
    dsimp only at hv
    split at h
    · rename_i hreg
      rw [hreg] at hv
      cases hv
    · rename_i hreg
      rw [hreg] at hv
      exact absolute_cast_kept .csr (by decide) rfl (fun _ => hcast (by decide)) hbad hv h
  -- offsets and vendors
  case wif =>
    obtain ⟨hzero, hv⟩ := offsetConstant_eq_some hv
    unfold prefetchOffset at h
    rw [if_neg (by rw [hzero]; decide)] at h
    obtain ⟨hok, hinsn⟩ := absolute_read hbad hv h
    obtain ⟨hlow, hhi, hlo⟩ := of_decide_eq_true hok
    refine kept_normalized rfl ?_
    rw [hinsn]
    exact (ImmFormat.stype.slot_read_or hclear _).trans (prefetch_read hlow hlo hhi)
  case xts n pos =>
    obtain ⟨hpos, hlt, hfits⟩ := hword
    obtain ⟨hok, hinsn⟩ := absolute_read hbad hv h
    obtain ⟨hlo, hhi⟩ := validateSImm_range hpos hlt hok
    refine kept_normalized rfl ?_
    rw [hinsn]
    refine (congrArg (sext n) (insertImm_read (by omega) (by omega) _ _)).trans ?_
    exact sext_and_mask hpos (by omega) hlo hhi
  case xtu n pos =>
    obtain ⟨hpos, hlt, hfits⟩ := hword
    obtain ⟨hok, hinsn⟩ := absolute_read hbad hv h
    refine kept_cast rfl (.inl ?_)
    rw [hinsn, insertImm_read (by omega) (by omega)]
    exact and_mask_of_cast_lt (by omega) (validateUImm_lt hlt hok)
  case xc2 => exact coreVImm_kept (by decide) rfl hclear hv h
  case xc3 => exact coreVImm_kept (by decide) rfl hclear hv h
  all_goals cases hpending

end Kept

end RiscvBinutils.Gas.Ip
