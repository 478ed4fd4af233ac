/-
The macros that take an address (gas/config/tc-riscv.c, `macro` and `pcrel_access`): an address is split between an
AUIPC and the instruction behind it, and the two parts are put together again when the linker has relocated the
section and the two instructions are executed.
-/
import RiscvBinutils.Bfd.PairRuns
import RiscvBinutils.Bfd.Plt
import RiscvBinutils.Gas.Assemble
import RiscvBinutils.Gas.OperandKept
import RiscvBinutils.Gas.VectorMacro
import RiscvBinutils.Opcode.Slots

namespace RiscvBinutils.Gas

open RiscvBinutils.Base RiscvBinutils.Opcode RiscvBinutils.Bfd RiscvBinutils.Machine

/-! ## Building instructions -/

/-- What the fixup of an instruction is for: the operand of the macro, or the label in front of its first
instruction. -/
inductive MacroTarget
  | operand | label
  deriving DecidableEq, Repr

/-- An instruction as `append_insn` gets it. -/
structure MacroInsn where
  word : Opcode.Insn
  fixup : Option (RelocCode × MacroTarget)
  deriving DecidableEq

/-- The row that `macro_build` finds: behind the compressed ones, which it passes by, it still has the name. -/
def macroRow (name : String) : Option RiscvOpcodeRow :=
  ((rowsFrom name).dropWhile fun op => riscvInsnLength op.matchBits < 4).head?.filter (·.name = name)

/-- The loop of `macro_build` over `fmt`, for registers and an expression. -/
def macroBuildOperands : List Char → List Opcode.Insn → Opcode.Insn → Option Opcode.Insn
  | [], _, insn => some insn
  | ',' :: fmt, args, insn => macroBuildOperands fmt args insn
  | 'j' :: fmt, args, insn | 'u' :: fmt, args, insn | 'q' :: fmt, args, insn => macroBuildOperands fmt args insn
  | 'd' :: fmt, reg :: args, insn => macroBuildOperands fmt args (OperandField.rd.insert insn reg)
  | 's' :: fmt, reg :: args, insn => macroBuildOperands fmt args (OperandField.rs1.insert insn reg)
  | 't' :: fmt, reg :: args, insn => macroBuildOperands fmt args (OperandField.rs2.insert insn reg)
  | _, _, _ => none

/-- `macro_build`. -/
def macroBuildFix (name fmt : String) (args : List Opcode.Insn) (fixup : Option (RelocCode × MacroTarget)) :
    Option MacroInsn :=
  (macroRow name).bind fun mo => (macroBuildOperands fmt.toList args mo.matchBits).map fun word => ⟨word, fixup⟩

/-- `pcrel_access`. -/
def pcrelAccess (destreg tempreg : Opcode.Insn) (loInsn loPattern : String) (hiReloc loReloc : RelocCode) :
    Option (List MacroInsn) :=
  [macroBuildFix "auipc" "d,u" [tempreg] (some (hiReloc, .operand)),
    macroBuildFix loInsn loPattern [destreg, tempreg] (some (loReloc, .label))].mapM id

/-- `pcrel_load`. -/
def pcrelLoad (destreg tempreg : Opcode.Insn) (loInsn : String) (hiReloc loReloc : RelocCode) :
    Option (List MacroInsn) :=
  pcrelAccess destreg tempreg loInsn "d,s,j" hiReloc loReloc

/-- `pcrel_store`. -/
def pcrelStore (srcreg tempreg : Opcode.Insn) (loInsn : String) (hiReloc loReloc : RelocCode) :
    Option (List MacroInsn) :=
  pcrelAccess srcreg tempreg loInsn "t,s,q" hiReloc loReloc

/-- `riscv_call`. -/
def riscvCall (destreg tempreg : Opcode.Insn) (reloc : RelocCode) : Option (List MacroInsn) :=
  [macroBuildFix "auipc" "d,u" [tempreg] (some (reloc, .operand)),
    macroBuildFix "jalr" "d,s" [destreg, tempreg] none].mapM id

/-! ## The macros -/

def mLa : Opcode.Insn := 0x0
def mLla : Opcode.Insn := 0x1
def mLga : Opcode.Insn := 0x2
def mLaTlsGd : Opcode.Insn := 0x3
def mLaTlsIe : Opcode.Insn := 0x4
def mLx : Opcode.Insn := 0x5
def mFLx : Opcode.Insn := 0x6
def mSxFSx : Opcode.Insn := 0x7
def mCall : Opcode.Insn := 0x8

/-- `LOAD_ADDRESS_INSN`, where the ABI has the width of the ISA. -/
def loadAddressInsn : Xlen → String
  | .rv32 => "lw"
  | .rv64 => "ld"

/-- `macro`, for an operand with a symbol. -/
def expandMacro (xlen : Xlen) (pic : Bool) (mo : RiscvOpcodeRow) (insn : Opcode.Insn) (immReloc : RelocCode) :
    Option (List MacroInsn) :=
  let rd := OperandField.rd.extract insn
  let rs1 := OperandField.rs1.extract insn
  let rs2 := OperandField.rs2.extract insn
  if mo.mask = mLa ∨ mo.mask = mLla ∨ mo.mask = mLga then
    if (pic = true ∧ mo.mask = mLa) ∨ mo.mask = mLga then
      pcrelLoad rd rd (loadAddressInsn xlen) .gotHi20 .pcrelLo12I
    else pcrelLoad rd rd "addi" .pcrelHi20 .pcrelLo12I
  else if mo.mask = mLaTlsGd then pcrelLoad rd rd "addi" .tlsGdHi20 .pcrelLo12I
  else if mo.mask = mLaTlsIe then pcrelLoad rd rd (loadAddressInsn xlen) .tlsGotHi20 .pcrelLo12I
  else if mo.mask = mLx then pcrelLoad rd rd mo.name .pcrelHi20 .pcrelLo12I
  else if mo.mask = mFLx then pcrelLoad rd rs1 mo.name .pcrelHi20 .pcrelLo12I
  else if mo.mask = mSxFSx then pcrelStore rs2 rs1 mo.name .pcrelHi20 .pcrelLo12S
  else if mo.mask = mCall then riscvCall rd rs1 immReloc
  else none

/-- The macros that access memory. -/
def accessMacros : List RiscvOpcodeRow :=
  riscvOpcodes.filter fun op => op.pinfo = insnMacro ∧ (op.mask = mLx ∨ op.mask = mFLx ∨ op.mask = mSxFSx)

/-- The register that a macro for an access puts the high part of the address in. -/
def accessBase (mask insn : Opcode.Insn) : Reg := if mask = mLx then Machine.rdOf insn else rs1Of insn

/-- The register that is read or written. -/
def accessData (mask insn : Opcode.Insn) : Reg := if mask = mSxFSx then rs2Of insn else Machine.rdOf insn

/-- The register of a macro that is read or written, by the relocation of its last instruction. -/
def dataField (type : RelocType) : OperandField := if type = .pcrelLo12S then .rs2 else .rd

/-- The relocation of the last instruction of an access. -/
def accessType (mask : Opcode.Insn) : RelocType := if mask = mSxFSx then .pcrelLo12S else .pcrelLo12I

/-- The bits of the operands of an instruction with such a relocation. -/
def operandBits (type : RelocType) : Opcode.Insn :=
  (dataField type).bits ||| OperandField.rs1.bits ||| (howto type).dstMask

/-- A row with nothing where the operands come. -/
def Vacant (type : RelocType) (mo : RiscvOpcodeRow) : Prop :=
  mo.matchFunc = .opcode ∧ mo.pinfo ≠ insnMacro ∧ operandBits type &&& mo.mask = 0 ∧
    mo.mask.extractLsb' 32 32 = 0#32

instance (type : RelocType) (mo : RiscvOpcodeRow) : Decidable (Vacant type mo) := inferInstanceAs (Decidable (_ ∧ _))

/-- What the macros find in the table: an access has an instruction of its own name.  Its match function asks for a
register that can hold the high part. -/
theorem macroRows_found :
    (∀ entry ∈ [("auipc", matchAuipc, maskAuipc), ("addi", Bfd.matchAddi, 0x707f#64),
        ("lw", matchLreg .rv32, 0x707f#64), ("ld", matchLreg .rv64, 0x707f#64)],
      (macroRow entry.1).any fun mo => (mo.matchBits, mo.mask) = entry.2 ∧ Vacant .pcrelLo12I mo) ∧
    (macroRow "jalr").map (·.matchBits) = some 0xe7#64 ∧
    ∀ op ∈ accessMacros, op.matchFunc = (if op.mask = mLx then .rdNonzero else .rs1Nonzero) ∧
      (macroRow op.name).any fun mo => Vacant (accessType op.mask) mo := by
  -- in one go, since most of the work is to take the names of the rows apart
  decide +kernel

/-! ## What is built -/

section Build

variable {name fmt : String} {args : List Opcode.Insn} {fixup : Option (RelocCode × MacroTarget)}
  {first second : MacroInsn} {mo : RiscvOpcodeRow}

theorem macroRow_mem (h : macroRow name = some mo) : mo ∈ riscvOpcodes ∧ mo.name = name := by
  obtain ⟨hhead, hname⟩ := Option.filter_eq_some_iff.mp h
  have hmem := List.mem_of_head? hhead
  exact ⟨(List.dropWhile_sublist _).mem ((List.dropWhile_sublist _).mem hmem), of_decide_eq_true hname⟩

theorem macroBuildFix_some (h : macroBuildFix name fmt args fixup = some first) :
    ∃ mo, macroRow name = some mo ∧ macroBuildOperands fmt.toList args mo.matchBits = some first.word ∧
      first.fixup = fixup := by
  obtain ⟨mo, hmo, h⟩ := Option.bind_eq_some_iff.mp h
  obtain ⟨word, hword, rfl⟩ := Option.map_eq_some_iff.mp h
  exact ⟨mo, hmo, hword, rfl⟩

theorem mapM_pair {a b : Option MacroInsn} (h : [a, b].mapM id = some [first, second]) :
    a = some first ∧ b = some second := by
  cases a <;> cases b <;> simp_all [List.mapM_cons]

/-- What an access comes to: an AUIPC into `base`, and an instruction of the row with `data` and `base`. -/
structure Access (type : RelocType) (mo : RiscvOpcodeRow) (data base : Opcode.Insn) (first second : MacroInsn) :
    Prop where
  isLo : type = .pcrelLo12I ∨ type = .pcrelLo12S
  vacant : Vacant type mo
  auipc : first.word = OperandField.rd.insert matchAuipc base
  low : second.word = OperandField.rs1.insert ((dataField type).insert mo.matchBits data) base
  fixup : second.fixup.bind (·.1.type) = some type

theorem macroBuildFix_auipc {temp : Opcode.Insn} (h : macroBuildFix "auipc" "d,u" [temp] fixup = some first) :
    first.word = OperandField.rd.insert matchAuipc temp := by
  obtain ⟨mo, hmo, hword, -⟩ := macroBuildFix_some h
  have hfound := macroRows_found.1 ("auipc", matchAuipc, maskAuipc) (by simp)
  rw [hmo, Option.any_some, decide_eq_true_eq] at hfound
  have hmatch : mo.matchBits = matchAuipc := (Prod.mk.inj hfound.1).1
  rw [← Option.some.inj hword, hmatch]

theorem pcrelLoad_access {data base : Opcode.Insn} {hi : RelocCode}
    (h : pcrelLoad data base name hi .pcrelLo12I = some [first, second])
    (hrow : (macroRow name).any fun mo => Vacant .pcrelLo12I mo) :
    ∃ mo, macroRow name = some mo ∧ Access .pcrelLo12I mo data base first second := by
  obtain ⟨hfirst, hsecond⟩ := mapM_pair h
  obtain ⟨mo, hmo, hword, hfix⟩ := macroBuildFix_some hsecond
  rw [hmo, Option.any_some, decide_eq_true_eq] at hrow
  exact ⟨mo, hmo, .inl rfl, hrow, macroBuildFix_auipc hfirst, (Option.some.inj hword).symm, by rw [hfix]; rfl⟩

theorem pcrelStore_access {data base : Opcode.Insn} {hi : RelocCode}
    (h : pcrelStore data base name hi .pcrelLo12S = some [first, second])
    (hrow : (macroRow name).any fun mo => Vacant .pcrelLo12S mo) :
    ∃ mo, macroRow name = some mo ∧ Access .pcrelLo12S mo data base first second := by
  obtain ⟨hfirst, hsecond⟩ := mapM_pair h
  obtain ⟨mo, hmo, hword, hfix⟩ := macroBuildFix_some hsecond
  rw [hmo, Option.any_some, decide_eq_true_eq] at hrow
  exact ⟨mo, hmo, .inr rfl, hrow, macroBuildFix_auipc hfirst, (Option.some.inj hword).symm, by rw [hfix]; rfl⟩

end Build

/-! ## The second instruction in the end -/

theorem getLsbD_bits (f : OperandField) {i : Nat} (hi : i < 64) :
    f.bits.getLsbD i = decide (f.shift ≤ i ∧ i < f.shift + f.width) := by
  rw [OperandField.bits, BitVec.getLsbD_shiftLeft, f.ones _ (by omega), decide_eq_true hi]
  by_cases hlow : f.shift ≤ i
  · simp [hlow, show ¬ i < f.shift by omega, Nat.sub_lt_iff_lt_add hlow, Nat.add_comm]
  · simp [hlow, show i < f.shift by omega]

/-- An instruction of the row, with these registers. -/
structure RowWith (type : RelocType) (mo : RiscvOpcodeRow) (data base : Reg) (word : Vma) : Prop where
  fixed : ∀ i < 32, mo.mask.getLsbD i = true → word.getLsbD i = mo.matchBits.getLsbD i
  data : word.extractLsb' (dataField type).shift 5 = data
  base : rs1Of word = base

theorem RowWith.accepts {type : RelocType} {mo : RiscvOpcodeRow} {data base : Reg} {word : Vma}
    (h : RowWith type mo data base word) (hvacant : Vacant type mo) : mo.accepts word = true := by
  obtain ⟨hfunc, -, -, hhigh⟩ := hvacant
  have hzero : (word ^^^ mo.matchBits) &&& mo.mask = 0 := by
    apply BitVec.eq_of_getLsbD_eq
    intro i hi
    rw [BitVec.getLsbD_and, BitVec.getLsbD_xor]
    cases hm : mo.mask.getLsbD i with
    | false => simp
    | true =>
      have hlow : i < 32 := by
        by_contra hge
        have hbit := congrArg (BitVec.getLsbD · (i - 32)) hhigh
        simp [Nat.add_sub_cancel' (Nat.le_of_not_lt hge), hm, show i - 32 < 32 by omega] at hbit
      rw [h.fixed i hlow hm]
      simp
  rw [RiscvOpcodeRow.accepts, hfunc]
  exact decide_eq_true hzero

/-- Where only the immediate has changed, the row and the registers are those of the macro. -/
theorem Access.rowWith {type : RelocType} {mo : RiscvOpcodeRow} {data base : Opcode.Insn} {first second : MacroInsn}
    (h : Access type mo data base first second) {word : Vma}
    (hsame : ∀ i < 32, (howto type).dstMask.getLsbD i = false → word.getLsbD i = second.word.getLsbD i) :
    RowWith type mo (data.setWidth 5) (base.setWidth 5) word := by
  obtain ⟨-, -, hempty, -⟩ := h.vacant
  have hplaces : (dataField type).width = 5 ∧ (dataField type).shift + 5 ≤ 32 ∧
      ∀ i < 32, (15 ≤ i ∧ i < 20 → ¬ ((dataField type).shift ≤ i ∧ i < (dataField type).shift + 5)) ∧
        (15 ≤ i ∧ i < 20 ∨ (dataField type).shift ≤ i ∧ i < (dataField type).shift + 5 →
          (howto type).dstMask.getLsbD i = false) := by
    rcases h.isLo with rfl | rfl <;> decide
  obtain ⟨hwidth, hshift, hplaces⟩ := hplaces
  have hlow (i : Nat) (hi : i < 64) : second.word.getLsbD i =
      if 15 ≤ i ∧ i < 20 then base.getLsbD (i - 15)
      else if (dataField type).shift ≤ i ∧ i < (dataField type).shift + 5 then
        data.getLsbD (i - (dataField type).shift)
      else mo.matchBits.getLsbD i := by
    rw [h.low, OperandField.getLsbD_insert _ _ _ hi, OperandField.getLsbD_insert _ _ _ hi, hwidth]
    rfl
  refine ⟨fun i hi hm => ?_, ?_, ?_⟩
  · have hout : (operandBits type).getLsbD i = false := by
      have hbit := congrArg (BitVec.getLsbD · i) hempty
      simpa [hm] using hbit
    rw [operandBits, BitVec.getLsbD_or, BitVec.getLsbD_or, getLsbD_bits _ (by omega), getLsbD_bits _ (by omega),
      Bool.or_eq_false_iff, Bool.or_eq_false_iff, decide_eq_false_iff_not, decide_eq_false_iff_not, hwidth] at hout
    obtain ⟨⟨hdata, hbase⟩, himm⟩ := hout
    have hbase' : ¬ (15 ≤ i ∧ i < 20) := hbase
    rw [hsame i hi himm, hlow i (by omega), if_neg hbase', if_neg hdata]
  · apply BitVec.eq_of_getLsbD_eq
    intro i hi
    have hin : (dataField type).shift + i < 32 := by omega
    have hnot : ¬ (15 ≤ (dataField type).shift + i ∧ (dataField type).shift + i < 20) := fun hc =>
      (hplaces _ hin).1 hc ⟨by omega, by omega⟩
    rw [BitVec.getLsbD_extractLsb', decide_eq_true hi, Bool.true_and,
      hsame _ hin ((hplaces _ hin).2 (.inr ⟨by omega, by omega⟩)), hlow _ (by omega), if_neg hnot,
      if_pos ⟨by omega, by omega⟩, Nat.add_sub_cancel_left, BitVec.getLsbD_setWidth, decide_eq_true hi, Bool.true_and]
  · apply BitVec.eq_of_getLsbD_eq
    intro i hi
    have hin : 15 + i < 32 := by omega
    rw [rs1Of, BitVec.getLsbD_extractLsb', decide_eq_true hi, Bool.true_and,
      hsame _ hin ((hplaces _ hin).2 (.inl ⟨by omega, by omega⟩)), hlow _ (by omega), if_pos ⟨by omega, by omega⟩,
      Nat.add_sub_cancel_left, BitVec.getLsbD_setWidth, decide_eq_true hi, Bool.true_and]

/-! ## In a section -/

/-- The two instructions of a macro stand in a section one behind the other, and their fixups have become the
relocations `hi`, against the symbol `s`, and `lo`, against the label of the first instruction. -/
structure MacroLinked (link : Link) (inp : Input) (relocs : List Rela) (st : RelocState) (i j : Nat) (hi lo : Rela)
    (s label : RelocSym) (first second : MacroInsn) : Prop where
  pair : PcrelPair link inp relocs st i j hi lo label
  symbol : relocSymbol link inp hi = .ok s
  own : label.rel.addend = 0
  next : lo.offset.toNat = hi.offset.toNat + 4
  firstWord : getl 4 st.contents hi.offset.toNat = first.word
  secondWord : getl 4 st.contents lo.offset.toNat = second.word
  hiFixup : first.fixup.bind (·.1.type) = some hi.type
  loFixup : second.fixup.bind (·.1.type) = some lo.type

section Linked

variable {link : Link} {inp : Input} {relocs : List Rela} {st st' : RelocState} {i j : Nat} {hi lo : Rela}
  {s label : RelocSym} {first second : MacroInsn} {type : RelocType} {mo : RiscvOpcodeRow} {data base : Opcode.Insn}

theorem rdOf_auipc (base : Opcode.Insn) : Machine.rdOf (OperandField.rd.insert matchAuipc base) = base.setWidth 5 :=
  OperandField.rd.extractLsb'_insert_same _ _ rfl rfl

/-- The two instructions of an access in the relocated section. -/
theorem MacroLinked.final (hlinked : MacroLinked link inp relocs st i j hi lo s label first second)
    (haccess : Access type mo data base first second) (hfinal : link.type ≠ .relocatable) (hhi : st.hiRelocs = [])
    (hlo : st.loRelocs = []) (hrun : riscvElfRelocateSection link inp relocs st = .ok st')
    (haddend : ((s.throughPlt link inp).isNone ∧ hi.type = .pcrelHi20) ∨ s.rel.addend.toNat % 4096 = 0) :
    lo.type = type ∧ RowWith type mo (data.setWidth 5) (base.setWidth 5) (getl 4 st'.contents lo.offset.toNat) ∧
      ∃ s₀, relocateLoop link inp (relocs.take i) st = .ok s₀ ∧
        HighRuns link.xlen (link.secAddr inp.sec + hi.offset) (base.setWidth 5) (getl 4 st'.contents hi.offset.toNat)
          (Bfd.lowImm type (getl 4 st'.contents lo.offset.toNat)) (hiTarget link inp s₀ s + s.rel.addend) := by
  obtain ⟨⟨s₀, hs₀, hruns⟩, hsame⟩ := hlinked.pair.runs hfinal hhi hlo hlinked.symbol hrun haddend
  have htype : lo.type = type := Option.some.inj (hlinked.loFixup.symm.trans haccess.fixup)
  have hzero : hiTarget link inp s₀ s + s.rel.addend + label.rel.addend =
      hiTarget link inp s₀ s + s.rel.addend := by
    rw [hlinked.own]
    exact BitVec.add_zero _
  rw [hlinked.firstWord, haccess.auipc, rdOf_auipc, htype, hzero] at hruns
  rw [hlinked.secondWord, htype] at hsame
  exact ⟨htype, haccess.rowWith hsame, s₀, hs₀, hruns⟩

end Linked

/-! ## The address in a register -/

/-- The macros that put an address into a register. -/
def addressMacros : List Opcode.Insn := [mLa, mLla, mLga, mLaTlsGd, mLaTlsIe]

/-- The macro takes what the GOT has at the address. -/
def addressLoads (pic : Bool) (mask : Opcode.Insn) : Bool :=
  (pic = true ∧ mask = mLa) ∨ mask = mLga ∨ mask = mLaTlsIe

/-- The second instruction of such a macro. -/
def addressInsn (xlen : Xlen) (pic : Bool) (mask : Opcode.Insn) : String :=
  if addressLoads pic mask then loadAddressInsn xlen else "addi"

section Address

variable {xlen : Xlen} {pic : Bool} {mo row : RiscvOpcodeRow} {insn : Opcode.Insn} {reloc : RelocCode}
  {first second : MacroInsn}

theorem extract_rd (insn : Opcode.Insn) : (OperandField.rd.extract insn).setWidth 5 = Machine.rdOf insn := by
  rw [OperandField.extract_eq, BitVec.setWidth_setWidth_of_le _ (by decide)]
  exact BitVec.setWidth_eq _

theorem extract_rs1 (insn : Opcode.Insn) : (OperandField.rs1.extract insn).setWidth 5 = rs1Of insn := by
  rw [OperandField.extract_eq, BitVec.setWidth_setWidth_of_le _ (by decide)]
  exact BitVec.setWidth_eq _

theorem extract_rs2 (insn : Opcode.Insn) : (OperandField.rs2.extract insn).setWidth 5 = rs2Of insn := by
  rw [OperandField.extract_eq, BitVec.setWidth_setWidth_of_le _ (by decide)]
  exact BitVec.setWidth_eq _

theorem expandMacro_address (hmo : mo.mask ∈ addressMacros) :
    ∃ hi, expandMacro xlen pic mo insn reloc = pcrelLoad (OperandField.rd.extract insn) (OperandField.rd.extract insn)
      (addressInsn xlen pic mo.mask) hi .pcrelLo12I := by
  unfold expandMacro
  simp only [addressMacros, List.mem_cons, List.not_mem_nil, or_false] at hmo
  rcases hmo with h | h | h | h | h <;> rw [h] <;> cases pic <;> exact ⟨_, rfl⟩

/-- The rows that are found for the second instruction. -/
theorem addressInsn_row (xlen : Xlen) (pic : Bool) (mask : Opcode.Insn) :
    (macroRow (addressInsn xlen pic mask)).any fun row =>
      (row.matchBits, row.mask) = (if addressLoads pic mask then matchLreg xlen else Bfd.matchAddi, 0x707f#64) ∧
        Vacant .pcrelLo12I row := by
  unfold addressInsn
  cases addressLoads pic mask with
  | false => exact macroRows_found.1 ("addi", Bfd.matchAddi, 0x707f#64) (by simp)
  | true =>
    cases xlen with
    | rv32 => exact macroRows_found.1 ("lw", matchLreg .rv32, 0x707f#64) (by simp)
    | rv64 => exact macroRows_found.1 ("ld", matchLreg .rv64, 0x707f#64) (by simp)

/-- The second instruction, as the machine decodes it. -/
theorem decodeAt_addressInsn {data base : Reg} {word : Vma} (hrow : macroRow (addressInsn xlen pic mo.mask) = some row)
    (h : RowWith .pcrelLo12I row data base word) : decodeAt xlen.bits word =
      some (if addressLoads pic mo.mask then .load data base (immOf word) else .addi data base (immOf word), 4) := by
  have hfound := addressInsn_row xlen pic mo.mask
  rw [hrow, Option.any_some, decide_eq_true_eq] at hfound
  obtain ⟨hbits, hmask⟩ := Prod.mk.inj hfound.1
  have hpart (p n : Nat) (hin : ∀ i < n, p + i < 32 ∧ (0x707f#64).getLsbD (p + i) = true) :
      word.extractLsb' p n = row.matchBits.extractLsb' p n := by
    apply BitVec.eq_of_getLsbD_eq
    intro i hi
    obtain ⟨hlt, hone⟩ := hin i hi
    rw [BitVec.getLsbD_extractLsb', BitVec.getLsbD_extractLsb', h.fixed _ hlt (by rw [hmask]; exact hone)]
  have hlow := hpart 0 2 (by decide)
  have hop := hpart 0 7 (by decide)
  have hfunct : funct3Of word = row.matchBits.extractLsb' 12 3 := hpart 12 3 (by decide)
  have hdata : Machine.rdOf word = data := h.data
  rw [hbits] at hlow hop hfunct
  rw [decodeAt]
  cases hload : addressLoads pic mo.mask with
  | false =>
    rw [hload, if_neg Bool.false_ne_true] at hlow hop hfunct
    rw [if_pos (hlow.trans (by decide)), decode_addi (hop.trans (by decide)) (hfunct.trans (by decide)), hdata, h.base]
    rfl
  | true =>
    rw [hload, if_pos rfl] at hlow hop hfunct
    rw [if_pos (hlow.trans (by cases xlen <;> decide)), decode_load (hop.trans (by cases xlen <;> decide))
      (hfunct.trans (by cases xlen <;> decide)), hdata, h.base]
    rfl

end Address

/-! ## A pair in a section -/

/-- `auipc a0, 0` and `ld a0, 0(a0)`, as `lga` and `ld` with a symbol build them. -/
def pairFirst (code : RelocCode) : MacroInsn := ⟨0x517, some (code, .operand)⟩
def pairSecond : MacroInsn := ⟨0x53503, some (.pcrelLo12I, .label)⟩

def lgaRow : RiscvOpcodeRow := ⟨"lga", 0, .i, "d,B", 0, mLga, .null, insnMacro⟩

def ldRow : RiscvOpcodeRow := ⟨"ld", 64, .i, "d,A", 0, mLx, .rdNonzero, insnMacro⟩

/-- The expression of a line is a symbol with an addend. -/
def symbolEnv (addend : Vma) : Ip.IpEnv :=
  { Ip.plainEnv .rv64 .bits64 with expression := fun _ _ => ⟨⟨.symbol, addend⟩, [], []⟩ }

def ldLine : Ip.IpState := { asarg := [], insn := 0x500, immExpr := ⟨.symbol, 8⟩, immReloc := some .bfd32 }

theorem ld_line : Ip.riscvIp (symbolEnv 8) riscvOpcodes "ld" "x10,s+8".toList = .insn ldRow ldLine [] := by
  decide +kernel

theorem pair_expanded : expandMacro .rv64 false lgaRow 0x500 .generic = some [pairFirst .gotHi20, pairSecond] ∧
    ldRow ∈ accessMacros ∧ expandMacro .rv64 false ldRow 0x500 .generic = some [pairFirst .pcrelHi20, pairSecond] := by
  decide +kernel

theorem pair_relocated :
    (∃ st', riscvElfRelocateSection pairLink pairInput (pairRelocs .gotHi20 0) pairState = .ok st') ∧
      ∃ st', riscvElfRelocateSection pairLink pairInput (pairRelocs .pcrelHi20 8) pairState = .ok st' := by
  exact ⟨relocOutcome_ok (by decide), relocOutcome_ok (by decide)⟩

def pairMachine : State 64 := ⟨0x10000, fun _ => 0⟩

def pairFetch (c : List Byte) (a : BitVec 64) : BitVec 64 := if a = 0x10000 then getl 4 c 0 else getl 4 c 4

/-! ## What is executed -/

section Run

variable {link : Link} {inp : Input} {relocs : List Rela} {st st' : RelocState} {i j : Nat} {hi lo : Rela}
  {s label : RelocSym} {first second : MacroInsn} {pic : Bool} {mo : RiscvOpcodeRow} {insn : Opcode.Insn}
  {reloc : RelocCode} {fetch : BitVec link.xlen.bits → BitVec 64}
  {mem : BitVec link.xlen.bits → BitVec link.xlen.bits} {m : State link.xlen.bits}

theorem step_of_decodeAt {w : Nat} {fetch : BitVec w → BitVec 64} {mem : BitVec w → BitVec w} {m : State w}
    {i : Instr} (h : decodeAt w (fetch m.pc) = some (i, 4)) : step fetch mem m = some (exec mem 4 m i) := by
  rw [step, h]
  rfl

/-- `la`, `lla`, `lga`, `la.tls.gd` and `la.tls.ie`, assembled, linked and executed: the register has the address, or
what the GOT has there, and no other register has changed. -/
theorem loadAddress_runs (hmo : mo.mask ∈ addressMacros)
    (hexp : expandMacro link.xlen pic mo insn reloc = some [first, second])
    (hlinked : MacroLinked link inp relocs st i j hi lo s label first second) (hfinal : link.type ≠ .relocatable)
    (hhi : st.hiRelocs = []) (hlo : st.loRelocs = []) (hrun : riscvElfRelocateSection link inp relocs st = .ok st')
    (haddend : ((s.throughPlt link inp).isNone ∧ hi.type = .pcrelHi20) ∨ s.rel.addend.toNat % 4096 = 0)
    (hpc : m.pc = (link.secAddr inp.sec + hi.offset).setWidth link.xlen.bits)
    (hfirst : fetch m.pc = getl 4 st'.contents hi.offset.toNat)
    (hsecond : fetch (m.pc + 4) = getl 4 st'.contents lo.offset.toNat) :
    ∃ s₀ m' address, relocateLoop link inp (relocs.take i) st = .ok s₀ ∧
      address = (hiTarget link inp s₀ s + s.rel.addend).setWidth link.xlen.bits ∧ run fetch mem 2 m = some m' ∧
      m'.pc = m.pc + 4 + 4 ∧ ∀ q, m'.get q =
        if q = Machine.rdOf insn ∧ q ≠ 0 then (if addressLoads pic mo.mask then mem address else address)
        else m.get q := by
  obtain ⟨code, heq⟩ := @expandMacro_address link.xlen pic mo insn reloc hmo
  rw [heq] at hexp
  have hany : (macroRow (addressInsn link.xlen pic mo.mask)).any fun row => Vacant .pcrelLo12I row := by
    have hfound := addressInsn_row link.xlen pic mo.mask
    cases hrow : macroRow (addressInsn link.xlen pic mo.mask) with
    | none => rw [hrow] at hfound; cases hfound
    | some row =>
      rw [hrow, Option.any_some, decide_eq_true_eq] at hfound
      exact decide_eq_true hfound.2
  obtain ⟨row, hrow, haccess⟩ := pcrelLoad_access hexp hany
  obtain ⟨-, hwith, s₀, hs₀, instr, x, hdecode, hsum, hexec⟩ :=
    hlinked.final haccess hfinal hhi hlo hrun haddend
  rw [extract_rd] at hwith hexec
  have hone : step fetch mem m = some ((m.set (Machine.rdOf insn) x).goto (m.pc + 4)) := by
    rw [step_of_decodeAt (hfirst ▸ hdecode), hexec mem m hpc]
  have hdecode₂ := decodeAt_addressInsn hrow hwith
  have himm : (Bfd.lowImm .pcrelLo12I (getl 4 st'.contents lo.offset.toNat)).setWidth link.xlen.bits =
      (immOf (getl 4 st'.contents lo.offset.toNat)).signExtend link.xlen.bits :=
    (immOf_signExtend (by cases link.xlen <;> decide)).symm
  rw [himm] at hsum
  have htwo : run fetch mem 2 m = some (exec mem 4 ((m.set (Machine.rdOf insn) x).goto (m.pc + 4))
      (if addressLoads pic mo.mask
        then .load (Machine.rdOf insn) (Machine.rdOf insn) (immOf (getl 4 st'.contents lo.offset.toNat))
        else .addi (Machine.rdOf insn) (Machine.rdOf insn) (immOf (getl 4 st'.contents lo.offset.toNat)))) := by
    rw [run_succ _ hone, run_succ _ (step_of_decodeAt (by rw [State.goto_pc, hsecond]; exact hdecode₂))]
    rfl
  refine ⟨s₀, _, _, hs₀, rfl, htwo, ?_, fun q => ?_⟩
  · cases addressLoads pic mo.mask <;> rfl
  · -- the second instruction reads what the first one has put there, unless the register is `x0`
    cases addressLoads pic mo.mask with
    | false =>
      simp only [Bool.false_eq_true, if_false, exec, State.goto_get, State.set_get]
      by_cases hq : q = Machine.rdOf insn ∧ q ≠ 0
      · have hne : Machine.rdOf insn ≠ 0 := hq.1 ▸ hq.2
        rw [if_pos hq, if_pos hq, if_pos ⟨trivial, hne⟩, hsum]
      · rw [if_neg hq, if_neg hq, if_neg hq]
    | true =>
      simp only [if_true, exec, State.goto_get, State.set_get]
      by_cases hq : q = Machine.rdOf insn ∧ q ≠ 0
      · have hne : Machine.rdOf insn ≠ 0 := hq.1 ▸ hq.2
        rw [if_pos hq, if_pos hq, if_pos ⟨trivial, hne⟩, hsum]
      · rw [if_neg hq, if_neg hq, if_neg hq]

end Run

theorem lga_loads : ∃ st' m', riscvElfRelocateSection pairLink pairInput (pairRelocs .gotHi20 0) pairState = .ok st' ∧
    run (pairFetch st'.contents) (fun a => a) 2 pairMachine = some m' ∧ m'.pc = 0x10008 := by
  obtain ⟨st', hrun⟩ := pair_relocated.1
  have hlinked : MacroLinked pairLink pairInput (pairRelocs .gotHi20 0) pairState 0 1 ⟨0, 2, .gotHi20, 0⟩
      ⟨4, 1, .pcrelLo12I, 0⟩ { rel := ⟨0, 2, .gotHi20, 0⟩, relocation := 0x20030, sec := some 1 }
      { rel := ⟨4, 1, .pcrelLo12I, 0⟩, relocation := 0x10000, sec := some 0 } (pairFirst .gotHi20) pairSecond :=
    ⟨pair_linked rfl (by decide), rfl, rfl, rfl, by decide, by decide, rfl, rfl⟩
  obtain ⟨-, m', -, -, -, hm, hpc, -⟩ := @loadAddress_runs pairLink pairInput (pairRelocs .gotHi20 0) pairState st' 0 1
    _ _ _ _ _ _ false lgaRow 0x500 .generic (pairFetch st'.contents) (fun a => a) pairMachine (by decide)
    pair_expanded.1 hlinked (by decide) rfl rfl hrun (.inr (by decide)) (by decide) rfl rfl
  exact ⟨st', m', hrun, hm, hpc⟩

/-! ## An access to memory -/

section Run

variable {link : Link} {inp : Input} {relocs : List Rela} {st st' : RelocState} {i j : Nat} {hi lo : Rela}
  {s label : RelocSym} {first second : MacroInsn} {pic : Bool} {mo : RiscvOpcodeRow} {insn : Opcode.Insn}
  {reloc : RelocCode} {fetch : BitVec link.xlen.bits → BitVec 64}
  {mem : BitVec link.xlen.bits → BitVec link.xlen.bits} {m : State link.xlen.bits}

theorem expandMacro_access {xlen : Xlen} {op : RiscvOpcodeRow} (hop : op ∈ accessMacros)
    (h : expandMacro xlen pic op insn reloc = some [first, second]) :
    ∃ row data base, macroRow op.name = some row ∧ Access (accessType op.mask) row data base first second ∧
      data.setWidth 5 = accessData op.mask insn ∧ base.setWidth 5 = accessBase op.mask insn := by
  have hrow := (macroRows_found.2.2 op hop).2
  have hmask : op.mask = mLx ∨ op.mask = mFLx ∨ op.mask = mSxFSx :=
    (of_decide_eq_true (List.mem_filter.mp hop).2 : _ ∧ _).2
  rcases hmask with hm | hm | hm <;> rw [hm] at hrow ⊢
  · have hexp : expandMacro xlen pic op insn reloc = pcrelLoad (OperandField.rd.extract insn)
        (OperandField.rd.extract insn) op.name .pcrelHi20 .pcrelLo12I := by
      unfold expandMacro
      rw [hm]
      rfl
    rw [hexp] at h
    obtain ⟨row, hfound, haccess⟩ := pcrelLoad_access h hrow
    exact ⟨row, _, _, hfound, haccess, extract_rd insn, extract_rd insn⟩
  · have hexp : expandMacro xlen pic op insn reloc = pcrelLoad (OperandField.rd.extract insn)
        (OperandField.rs1.extract insn) op.name .pcrelHi20 .pcrelLo12I := by
      unfold expandMacro
      rw [hm]
      rfl
    rw [hexp] at h
    obtain ⟨row, hfound, haccess⟩ := pcrelLoad_access h hrow
    exact ⟨row, _, _, hfound, haccess, extract_rd insn, extract_rs1 insn⟩
  · have hexp : expandMacro xlen pic op insn reloc = pcrelStore (OperandField.rs2.extract insn)
        (OperandField.rs1.extract insn) op.name .pcrelHi20 .pcrelLo12S := by
      unfold expandMacro
      rw [hm]
      rfl
    rw [hexp] at h
    obtain ⟨row, hfound, haccess⟩ := pcrelStore_access h hrow
    exact ⟨row, _, _, hfound, haccess, extract_rs2 insn, extract_rs1 insn⟩

/-- A field with a register in it that is not zero. -/
theorem field_ne_zero {f : OperandField} (hw : f.width = 5) {n : Opcode.Insn} (h : n &&& f.bits ≠ 0) :
    n.extractLsb' f.shift 5 ≠ 0 := by
  intro hzero
  refine h (BitVec.eq_of_getLsbD_eq fun i hi => ?_)
  have hzero₆₄ : (0 : Opcode.Insn).getLsbD i = false := BitVec.getLsbD_zero
  rw [BitVec.getLsbD_and, getLsbD_bits _ hi, hw, hzero₆₄]
  by_cases hin : f.shift ≤ i ∧ i < f.shift + 5
  · have hbit := congrArg (BitVec.getLsbD · (i - f.shift)) hzero
    have hlow : i - f.shift < 5 := by omega
    have hzero₅ : (0 : Reg).getLsbD (i - f.shift) = false := BitVec.getLsbD_zero
    rw [BitVec.getLsbD_extractLsb', decide_eq_true hlow, Bool.true_and, Nat.add_sub_cancel' hin.1, hzero₅] at hbit
    rw [hbit, Bool.false_and]
  · rw [decide_eq_false hin, Bool.and_false]

/-- The high part has room: with `x0` in its place the row is no match for the line. -/
theorem accessBase_ne_zero {op : RiscvOpcodeRow} (hop : op ∈ accessMacros) {x : Opcode.Insn}
    (haccepts : op.accepts x = true) : accessBase op.mask x ≠ 0 := by
  have hfunc := (macroRows_found.2.2 op hop).1
  rw [RiscvOpcodeRow.accepts] at haccepts
  by_cases hmask : op.mask = mLx
  · rw [if_pos hmask] at hfunc
    rw [hfunc] at haccepts
    rw [accessBase, if_pos hmask]
    have hrd : op.matchRdNonzero x = true := haccepts
    rw [RiscvOpcodeRow.matchRdNonzero, Bool.and_eq_true] at hrd
    exact field_ne_zero (f := .rd) rfl (of_decide_eq_true hrd.2)
  · rw [if_neg hmask] at hfunc
    rw [hfunc] at haccepts
    rw [accessBase, if_neg hmask]
    exact field_ne_zero (f := .rs1) rfl (of_decide_eq_true haccepts)

/-- The instruction `word` is one of a plain row of the name, with these registers. -/
structure PlainAccess (name : String) (type : RelocType) (data base : Reg) (word : Vma) : Prop where
  row : ∃ row ∈ riscvOpcodes, row.name = name ∧ row.pinfo ≠ insnMacro ∧ row.accepts word = true
  data : word.extractLsb' (dataField type).shift 5 = data
  base : rs1Of word = base

/-- A load or store of a symbol, assembled and linked: after the first instruction the second one is the plain
instruction of the same name, its address is that of the symbol, and no other register has changed. -/
theorem accessMacro_runs {env : Ip.IpEnv} {name : String} {text : List Char} {op : RiscvOpcodeRow} {line : Ip.IpState}
    {bad : List Ip.AsBad} (hline : Ip.riscvIp env riscvOpcodes name text = .insn op line bad) (hop : op ∈ accessMacros)
    (hexp : expandMacro link.xlen pic op line.insn reloc = some [first, second])
    (hlinked : MacroLinked link inp relocs st i j hi lo s label first second) (hfinal : link.type ≠ .relocatable)
    (hhi : st.hiRelocs = []) (hlo : st.loRelocs = []) (hrun : riscvElfRelocateSection link inp relocs st = .ok st')
    (haddend : ((s.throughPlt link inp).isNone ∧ hi.type = .pcrelHi20) ∨ s.rel.addend.toNat % 4096 = 0)
    (hpc : m.pc = (link.secAddr inp.sec + hi.offset).setWidth link.xlen.bits)
    (hfirst : fetch m.pc = getl 4 st'.contents hi.offset.toNat) :
    PlainAccess op.name lo.type (accessData op.mask line.insn) (accessBase op.mask line.insn)
        (getl 4 st'.contents lo.offset.toNat) ∧
      ∃ s₀ m', relocateLoop link inp (relocs.take i) st = .ok s₀ ∧ step fetch mem m = some m' ∧ m'.pc = m.pc + 4 ∧
        m'.get (accessBase op.mask line.insn) +
          (Bfd.lowImm lo.type (getl 4 st'.contents lo.offset.toNat)).setWidth link.xlen.bits =
            (hiTarget link inp s₀ s + s.rel.addend).setWidth link.xlen.bits ∧
        ∀ q, q ≠ accessBase op.mask line.insn → m'.get q = m.get q := by
  have hbase : accessBase op.mask line.insn ≠ 0 := by
    refine accessBase_ne_zero hop (Ip.ipRow_accepts (Ip.riscvIp_insn hline).2 ?_)
    rw [(macroRows_found.2.2 op hop).1]
    split <;> decide
  obtain ⟨row, data, base, hrow, haccess, hdata, hreg⟩ := expandMacro_access hop hexp
  obtain ⟨htype, hwith, s₀, hs₀, instr, x, hdecode, hsum, hexec⟩ :=
    hlinked.final haccess hfinal hhi hlo hrun haddend
  rw [hdata, hreg] at hwith
  rw [hreg] at hexec
  obtain ⟨hmem, hname⟩ := macroRow_mem hrow
  have hone : step fetch mem m = some ((m.set (accessBase op.mask line.insn) x).goto (m.pc + 4)) := by
    rw [step_of_decodeAt (hfirst ▸ hdecode), hexec mem m hpc]
  refine ⟨⟨⟨row, hmem, hname, haccess.vacant.2.1, hwith.accepts haccess.vacant⟩, htype ▸ hwith.data, hwith.base⟩,
    s₀, _, hs₀, hone, rfl, ?_, fun q hq => ?_⟩
  · rw [State.goto_get, State.set_get_same _ hbase, htype]
    exact hsum
  · rw [State.goto_get, State.set_get_other _ hq]

end Run

theorem ld_accesses : ∃ st' m',
    riscvElfRelocateSection pairLink pairInput (pairRelocs .pcrelHi20 8) pairState = .ok st' ∧
    step (pairFetch st'.contents) (fun a => a) pairMachine = some m' ∧ m'.pc = 0x10004 := by
  obtain ⟨st', hrun⟩ := pair_relocated.2
  obtain ⟨-, hop, hexp⟩ := pair_expanded
  have hlinked : MacroLinked pairLink pairInput (pairRelocs .pcrelHi20 8) pairState 0 1 ⟨0, 2, .pcrelHi20, 8⟩
      ⟨4, 1, .pcrelLo12I, 0⟩ { rel := ⟨0, 2, .pcrelHi20, 8⟩, relocation := 0x20030, sec := some 1 }
      { rel := ⟨4, 1, .pcrelLo12I, 0⟩, relocation := 0x10000, sec := some 0 } (pairFirst .pcrelHi20) pairSecond :=
    ⟨pair_linked rfl (by decide), rfl, rfl, rfl, by decide, by decide, rfl, rfl⟩
  obtain ⟨-, -, m', -, hm, hpc, -, -⟩ := @accessMacro_runs pairLink pairInput (pairRelocs .pcrelHi20 8) pairState st'
    0 1 _ _ _ _ _ _ false .generic (pairFetch st'.contents) (fun a => a) pairMachine _ _ _ ldRow ldLine _ ld_line hop
    hexp hlinked (by decide) rfl rfl hrun (.inl ⟨rfl, rfl⟩) (by decide) rfl
  exact ⟨st', m', hrun, hm, hpc⟩

end RiscvBinutils.Gas
