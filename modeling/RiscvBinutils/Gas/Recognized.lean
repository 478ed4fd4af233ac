/-
Assembled instructions under the disassembler (gas/config/tc-riscv.c, `riscv_ip`, `append_insn` and `install_insn`;
opcodes/riscv-dis.c, `riscv_disassemble_insn`).  The bits that a fixup fills in later are none that the match function
of the row looks at, and so the word of a row is one of its words before and after the fixup.
-/
import RiscvBinutils.Dis.Hash
import RiscvBinutils.Gas.OperandFixup

namespace RiscvBinutils.Gas.Ip

open RiscvBinutils.Base RiscvBinutils.Opcode RiscvBinutils.Bfd

/-! ## What a match function looks at -/

/-- The bits beside those of the mask. -/
def extraBits : MatchFunc → Opcode.Insn
  | .null | .opcode => 0
  | .rs1EqRs2 => maskRs1 ||| maskRs2
  | .rdNonzero | .cNop | .cAddi16sp => maskRd
  | .rs1Nonzero => maskRs1
  | .cAdd | .cAddWithHint => maskRd ||| maskCrs2
  | .cLui | .cLuiWithHint => maskRd ||| ImmFormat.citypeLui.mask
  | .cAddi4spn => ImmFormat.ciwtypeAddi4spn.mask
  | .cSlli | .cSlli64 | .srxiAsCSrxi => ImmFormat.citype.mask
  | .slliAsCSlli => maskRd ||| ImmFormat.citype.mask
  | .vs1EqVs2 => maskVs1 ||| maskVs2
  | .vdEqVs1EqVs2 => maskVd ||| maskVs1 ||| maskVs2
  | .thLoadInc => maskRd ||| maskRs1
  | .thLoadPair => maskRd ||| maskRs1 ||| maskRs2

def acceptBits (op : RiscvOpcodeRow) : Opcode.Insn := op.mask ||| extraBits op.matchFunc

section Accepts

variable {op : RiscvOpcodeRow} {x y : Opcode.Insn}

theorem and_congr_part {bits part : Opcode.Insn} (h : x &&& bits = y &&& bits) (hpart : bits &&& part = part) :
    x &&& part = y &&& part := by
  rw [← hpart, ← BitVec.and_assoc, ← BitVec.and_assoc, h]

theorem and_part {bits part m : Opcode.Insn} (h : m &&& bits = bits) (hpart : bits &&& part = part) :
    m &&& part = part := by
  rw [← hpart, ← BitVec.and_assoc, h]

theorem or_and_left (a b : Opcode.Insn) : (a ||| b) &&& a = a := by
  apply BitVec.eq_of_getLsbD_eq
  intro i hi
  rw [BitVec.getLsbD_and, BitVec.getLsbD_or]
  cases a.getLsbD i <;> simp

theorem matchOpcode_congr (h : x &&& op.mask = y &&& op.mask) : op.matchOpcode x = op.matchOpcode y := by
  unfold RiscvOpcodeRow.matchOpcode
  have hsame : (x ^^^ op.matchBits) &&& op.mask = (y ^^^ op.matchBits) &&& op.mask := by
    apply BitVec.eq_of_getLsbD_eq
    intro i hi
    have hbit := congrArg (BitVec.getLsbD · i) h
    simp only [BitVec.getLsbD_and, BitVec.getLsbD_xor] at hbit ⊢
    cases hm : op.mask.getLsbD i with
    | false => rw [Bool.and_false, Bool.and_false]
    | true =>
      rw [hm, Bool.and_true, Bool.and_true] at hbit
      rw [hbit]
  rw [hsame]

/-- Words that agree there are accepted alike. -/
theorem accepts_congr (h : x &&& acceptBits op = y &&& acceptBits op) : op.accepts x = op.accepts y := by
  have hop := matchOpcode_congr (and_congr_part h (or_and_left _ _))
  have hextra : x &&& extraBits op.matchFunc = y &&& extraBits op.matchFunc :=
    and_congr_part h (by rw [acceptBits, BitVec.or_comm]; exact or_and_left _ _)
  unfold RiscvOpcodeRow.accepts
  cases hfunc : op.matchFunc <;> rw [hfunc] at hextra <;> dsimp only [extraBits] at hextra ⊢
  case opcode => exact hop
  case rs1EqRs2 =>
    unfold RiscvOpcodeRow.matchRs1EqRs2
    rw [hop, and_congr_part hextra (by decide : _ &&& maskRs1 = _), and_congr_part hextra (by decide : _ &&& maskRs2 = _)]
  case rdNonzero =>
    unfold RiscvOpcodeRow.matchRdNonzero
    rw [hop, hextra]
  case rs1Nonzero =>
    unfold RiscvOpcodeRow.matchRs1Nonzero
    rw [hextra]
  case cAdd =>
    unfold RiscvOpcodeRow.matchCAdd RiscvOpcodeRow.matchRdNonzero
    rw [hop, and_congr_part hextra (by decide : _ &&& maskRd = _), and_congr_part hextra (by decide : _ &&& maskCrs2 = _)]
  case cAddWithHint =>
    unfold RiscvOpcodeRow.matchCAddWithHint
    rw [hop, and_congr_part hextra (by decide : _ &&& maskCrs2 = _)]
  case cNop =>
    unfold RiscvOpcodeRow.matchCNop
    rw [hop, hextra]
  case cAddi16sp =>
    unfold RiscvOpcodeRow.matchCAddi16sp
    rw [hop, hextra]
  case cLui =>
    unfold RiscvOpcodeRow.matchCLui RiscvOpcodeRow.matchRdNonzero
    rw [hop, and_congr_part hextra (by decide : _ &&& maskRd = _),
      show extractCitypeLuiImm x = extractCitypeLuiImm y from
        ImmFormat.citypeLui.slot.congr x y (and_congr_part hextra (by decide))]
  case cLuiWithHint =>
    unfold RiscvOpcodeRow.matchCLuiWithHint
    rw [hop, and_congr_part hextra (by decide : _ &&& maskRd = _),
      show extractCitypeLuiImm x = extractCitypeLuiImm y from
        ImmFormat.citypeLui.slot.congr x y (and_congr_part hextra (by decide))]
  case cAddi4spn =>
    unfold RiscvOpcodeRow.matchCAddi4spn
    rw [hop, show extractCiwtypeAddi4spnImm x = extractCiwtypeAddi4spnImm y from
      ImmFormat.ciwtypeAddi4spn.slot.congr x y hextra]
  case cSlli | cSlli64 | srxiAsCSrxi =>
    have himm : extractCitypeImm x = extractCitypeImm y := ImmFormat.citype.slot.congr x y hextra
    first
      | rw [RiscvOpcodeRow.matchCSlli, RiscvOpcodeRow.matchCSlli, hop, himm]
      | rw [RiscvOpcodeRow.matchCSlli64, RiscvOpcodeRow.matchCSlli64, hop, himm]
      | rw [RiscvOpcodeRow.matchSrxiAsCSrxi, RiscvOpcodeRow.matchSrxiAsCSrxi, hop, himm]
  case slliAsCSlli =>
    unfold RiscvOpcodeRow.matchSlliAsCSlli RiscvOpcodeRow.matchRdNonzero
    rw [hop, and_congr_part hextra (by decide : _ &&& maskRd = _), show extractCitypeImm x = extractCitypeImm y from
      ImmFormat.citype.slot.congr x y (and_congr_part hextra (by decide))]
  case vs1EqVs2 =>
    unfold RiscvOpcodeRow.matchVs1EqVs2
    rw [hop, and_congr_part hextra (by decide : _ &&& maskVs1 = _), and_congr_part hextra (by decide : _ &&& maskVs2 = _)]
  case vdEqVs1EqVs2 =>
    unfold RiscvOpcodeRow.matchVdEqVs1EqVs2
    rw [hop, and_congr_part hextra (by decide : _ &&& maskVd = _), and_congr_part hextra (by decide : _ &&& maskVs1 = _),
      and_congr_part hextra (by decide : _ &&& maskVs2 = _)]
  case thLoadInc =>
    unfold RiscvOpcodeRow.matchThLoadInc
    rw [hop, and_congr_part hextra (by decide : _ &&& maskRd = _), and_congr_part hextra (by decide : _ &&& maskRs1 = _)]
  case thLoadPair =>
    unfold RiscvOpcodeRow.matchThLoadPair
    rw [hop, and_congr_part hextra (by decide : _ &&& maskRd = _), and_congr_part hextra (by decide : _ &&& maskRs1 = _),
      and_congr_part hextra (by decide : _ &&& maskRs2 = _)]

end Accepts

/-! ## Registers -/

namespace Letter

/-- The fields for the register that a letter reads.  A letter that takes only one register has none. -/
def regFields : Letter → List OperandField
  | cs | cS | cw => [.crs1s]
  | ct | cD | cx => [.crs2s]
  | cV | cT => [.crs2]
  | d | D | cU => [.rd]
  | s | S => [.rs1]
  | t | T => [.rs2]
  | r | R => [.rs3]
  | U => [.rs1, .rs2]
  | vd | vf => [.vd]
  | ve => [.vwd, .vd]
  | vs => [.vs1]
  | vt => [.vs2]
  | vu => [.vs1, .vs2]
  | vv => [.vd, .vs1, .vs2]
  | vm | vM => [.vmask]
  | vT => [.vfunct6]
  | E => [.csr]
  | _ => []

/-- The register that the number zero in its field stands for. -/
def regFirst : Letter → Nat
  | cs | cS | cw | ct | cD | cx => 8
  | _ => 0

def regClass (env : IpEnv) : Letter → RegClass
  | cS | cD | cT => .fpr
  | D | S | T | U | R => fprClass env
  | vd | ve | vf | vs | vt | vu | vv | vT => .vecr
  | vm | vM => .vecm
  | E => .csr
  | _ => .gpr

/-- The registers of a class are numbered below this. -/
def regNumbers : Letter → Nat
  | E => 4096
  | _ => 32

/-- The number of the register that a letter reads, and the fields for it.  A vector AMO that writes no register has
x0 there, and a mask may be left out. -/
def regRead (env : IpEnv) (text : List Char) : Letter → Option (Nat × List OperandField)
  | ve =>
    match env.regLookup .gpr text with
    | some (0, _) => some (0, [.vwd])
    | other => (env.regLookup .vecr ((other.map Prod.snd).getD text)).map fun r => (r.1, [.vd])
  | vm =>
    match text with
    | ',' :: text => (env.regLookup .vecm text).map fun r => (r.1, [.vmask])
    | _ => none
  | l => (env.regLookup (l.regClass env) text).map fun r => (r.1, l.regFields)

end Letter

def registerBits (ls : List Letter) : Opcode.Insn := (ls.flatMap Letter.regFields).foldr (fun f bits => f.bits ||| bits) 0

/-! ## The table -/

/-- The bits behind an instruction of so many bytes. -/
def bitsBehind (len : Nat) : Opcode.Insn := BitVec.allOnes 64 <<< (8 * len)

/-- What the letters behind one can write into its registers; the source of a vector AMO leaves a destination as it
is. -/
def writesBehind (l : Letter) (ls : List Letter) : Opcode.Insn :=
  writesAll (if l = .ve then ls.filter (· ≠ .vf) else ls)

/-- What a letter writes is not in a register that was read before. -/
def registersKept : List Letter → Bool
  | [] => true
  | l :: ls => l.regFields.all (fun f => f.bits &&& writesBehind l ls = 0) && registersKept ls

/-- The match function of a row that is no macro, and the registers, are inside of its length, and no fixup or later
letter writes there. -/
def rowKept : RiscvOpcodeRow → Bool
  | ⟨name, xlen, cls, args, matchBits, mask, matchFunc, pinfo⟩ =>
    pinfo = insnMacro || matchFunc ≠ .null && registersKept (letters args) &&
      (acceptBits ⟨name, xlen, cls, args, matchBits, mask, matchFunc, pinfo⟩ ||| registerBits (letters args)) &&&
          bitsBehind (riscvInsnLength matchBits) = 0 &&
        (fixupsOf percentOpNull (letters args)).all fun code =>
          (acceptBits ⟨name, xlen, cls, args, matchBits, mask, matchFunc, pinfo⟩ ||| registerBits (letters args)) &&&
            fixupBits (riscvInsnLength matchBits) code = 0

/-- The table, with its check. -/
def keptOpcodes : { ops : List RiscvOpcodeRow // ∀ op ∈ ops, rowKept op = true } :=
  ⟨riscvOpcodes,
    riscvOpcodes_all (by decide +kernel) (by decide +kernel) (by decide +kernel) (by decide +kernel)⟩

/-- What is known of a row that is no macro. -/
structure RowKept (op : RiscvOpcodeRow) : Prop where
  notNull : op.matchFunc ≠ .null
  registers : registersKept (letters op.args) = true
  inside : (acceptBits op ||| registerBits (letters op.args)) &&& bitsBehind (riscvInsnLength op.matchBits) = 0
  fixups : ∀ code ∈ fixupsOf percentOpNull (letters op.args),
    (acceptBits op ||| registerBits (letters op.args)) &&& fixupBits (riscvInsnLength op.matchBits) code = 0

theorem riscvOpcodes_kept {op : RiscvOpcodeRow} (hmem : op ∈ riscvOpcodes) (hpinfo : op.pinfo ≠ insnMacro) :
    RowKept op := by
  have hrow := keptOpcodes.property op hmem
  unfold rowKept at hrow
  dsimp only at hrow
  rw [decide_eq_false hpinfo, Bool.false_or, Bool.and_eq_true, Bool.and_eq_true, Bool.and_eq_true, decide_eq_true_eq,
    decide_eq_true_eq, List.all_eq_true] at hrow
  obtain ⟨⟨⟨hnull, hregs⟩, hinside⟩, hfixups⟩ := hrow
  exact ⟨hnull, hregs, hinside, fun code hcode => of_decide_eq_true (hfixups code hcode)⟩

/-! ## Rows that are done -/

section Done

variable {env : IpEnv} {op : RiscvOpcodeRow} {text : List Char} {st : IpState} {bad : List AsBad} {word : Opcode.Insn}

/-- A row that is used is one for the target. -/
theorem ipRows_target {ops : List RiscvOpcodeRow} {err : IpError} {bad₀ : List AsBad}
    (h : ipRows env text ops err bad₀ = .insn op st bad) :
    (op.xlenRequirement = 0 ∨ op.xlenRequirement = env.xlen.bits) ∧
      env.riscvMultiSubsetSupports op.insnClass = true := by
  induction ops generalizing err bad₀ with
  | nil => cases h
  | cons x ops ih =>
    unfold ipRows at h
    split at h
    · exact ih h
    · rename_i hxlen
      split at h
      · exact ih h
      · rename_i hsupports
        split at h
        · cases h
          rw [not_and_or, not_not, not_not] at hxlen
          exact ⟨hxlen.imp id Eq.symm, by rwa [Bool.not_eq_false] at hsupports⟩
        · exact ih h
        · cases h

/-- The facts on a row of the table that was used for a line. -/
structure Used (op : RiscvOpcodeRow) (st : IpState) : Prop where
  mem : op ∈ riscvOpcodes
  kept : RowKept op
  length : RowLength op
  isOpcode : op.matchFunc ≠ .rs1Nonzero
  accepts : op.accepts st.insn = true
  left : (acceptBits op ||| registerBits (letters op.args)) &&& leftBits st = 0

theorem used_of_ipRow (hmem : op ∈ riscvOpcodes) (hpinfo : op.pinfo ≠ insnMacro) (h : ipRow env op text = .done st) :
    Used op st := by
  have hkept := riscvOpcodes_kept hmem hpinfo
  have haccepts := ipRow_accepts h hkept.notNull
  obtain hyes | ⟨hfunc, hlength⟩ := indexed_iff.mp (riscvOpcodes_indexed op hmem)
  · exact absurd hyes hpinfo
  · refine ⟨hmem, hkept, hlength, hfunc, haccepts, leftBits_apart h ?_⟩
    rw [hlength.matched (RiscvOpcodeRow.matchOpcode_of_accepts hpinfo hfunc haccepts)]
    exact hkept.fixups

theorem or_and_eq_zero {a b m : Opcode.Insn} (h : (a ||| b) &&& m = 0) : a &&& m = 0 ∧ b &&& m = 0 := by
  rw [BitVec.and_comm] at h
  obtain ⟨ha, hb⟩ := and_or_eq_zero h
  rw [BitVec.and_comm] at ha hb
  exact ⟨ha, hb⟩

end Done

/-! ## Packets -/

section Packet

variable (word : Opcode.Insn)

theorem getl_emitted {len : Nat} (hlen : 2 ≤ len) :
    ∀ i < 16, (getl 2 (toBytes len word.toNat) 0).getLsbD i = word.getLsbD i := by
  intro i hi
  obtain ⟨k, rfl⟩ := Nat.exists_eq_add_of_le hlen
  have hslice : slice (toBytes (2 + k) word.toNat) 0 2 = toBytes 2 word.toNat := by
    rw [toBytes_add, slice, List.drop_zero]
    exact List.take_left' (toBytes_length 2 _)
  rw [getl, hslice, fromBytes_toBytes, BitVec.getLsbD_ofNat, show (256 : Nat) ^ 2 = 2 ^ 16 by norm_num,
    Nat.testBit_mod_two_pow, BitVec.testBit_toNat, decide_eq_true hi, decide_eq_true (by omega : i < 64)]
  rfl

theorem emitted_length : (toBytes (riscvInsnLength word) word.toNat).length =
    riscvInsnLength (getl 2 (toBytes (riscvInsnLength word) word.toNat) 0) := by
  rw [toBytes_length]
  exact riscvInsnLength_congr fun i hi => (getl_emitted word (two_le_riscvInsnLength word) i hi).symm

/-- The bytes of `install_insn`. -/
def emitted : Dis.Packet where
  bytes := toBytes (riscvInsnLength word) word.toNat
  length := emitted_length word

/-- The word of the bytes, up to the length of the instruction. -/
theorem emitted_word : AgreeOutside (bitsBehind (riscvInsnLength word)) word (emitted word).word := by
  intro i hi hout
  have hin : i < 8 * riscvInsnLength word := by
    by_contra hge
    rw [bitsBehind, BitVec.getLsbD_shiftLeft, BitVec.getLsbD_allOnes, decide_eq_true hi,
      decide_eq_false (by omega : ¬ i < 8 * riscvInsnLength word), decide_eq_true (by omega)] at hout
    cases hout
  rw [Dis.Packet.word, emitted, fromBytes_toBytes, BitVec.getLsbD_ofNat, show (256 : Nat) = 2 ^ 8 by norm_num,
    ← Nat.pow_mul, Nat.testBit_mod_two_pow, BitVec.testBit_toNat, decide_eq_true hi, decide_eq_true hin]
  rfl

end Packet

section Word

variable {env : IpEnv} {op : RiscvOpcodeRow} {text : List Char} {st : IpState} {bad : List AsBad} {word : Opcode.Insn}

/-- The match function and the registers see the same in the bytes as in the word before the fixup. -/
theorem Used.emitted_and (h : Used op st) (hpinfo : op.pinfo ≠ insnMacro) (hword : Completes st word) :
    riscvInsnLength word = riscvInsnLength op.matchBits ∧
      st.insn &&& (acceptBits op ||| registerBits (letters op.args)) =
        (emitted word).word &&& (acceptBits op ||| registerBits (letters op.args)) := by
  have hleft := hword.and_eq h.left
  have haccepts : op.accepts word = true := by
    rw [← accepts_congr (hword.and_eq (or_and_eq_zero h.left).1)]
    exact h.accepts
  have hlength := h.length.matched (RiscvOpcodeRow.matchOpcode_of_accepts hpinfo h.isOpcode haccepts)
  refine ⟨hlength, hleft.trans ((emitted_word word).and_eq ?_)⟩
  rw [hlength]
  exact h.kept.inside

/-! ## What is printed -/

/-- How some bytes are printed: as an instruction, and with no row behind the one given. -/
structure Printed (options : Dis.DisOptions InsnClass) (op : RiscvOpcodeRow) (packet : Dis.Packet) : Prop where
  shown : ∃ found, Dis.riscvDisassembleInsn options Dis.disOpcodes packet.word packet.bytes = .inl found ∧
    found.macroInsn = false ∧ found.matchFunc packet.word = true
  first : ∀ i, Dis.disOpcodes[i]? = some (Dis.ofRow op) →
    ∃ j ≤ i, Dis.hashedRow options Dis.disOpcodes packet.word = some j

theorem printed_of_printable {options : Dis.DisOptions InsnClass} {packet : Dis.Packet} (hmem : op ∈ riscvOpcodes)
    (h : Dis.printable options packet.word (Dis.ofRow op) = true) : Printed options op packet := by
  have hkept := Dis.disOpcodes_kept packet.word
  have hindex : Dis.hashedRow options Dis.disOpcodes packet.word = _ := Dis.hashedRow_eq hkept
  have hfind : Dis.findOpcode options Dis.disOpcodes packet.word = _ := Dis.findOpcode_eq hkept
  refine ⟨?_, ?_⟩
  · have hsome : (Dis.disOpcodes.find? (Dis.printable options packet.word)).isSome = true :=
      List.find?_isSome.mpr ⟨Dis.ofRow op, List.mem_map_of_mem hmem, h⟩
    obtain ⟨found, hfound⟩ := Option.isSome_iff_exists.mp hsome
    obtain ⟨hplain, hmatch⟩ := Dis.printable_matched (List.find?_some hfound)
    exact ⟨found, by rw [Dis.riscvDisassembleInsn, hfind, hfound], hplain, hmatch⟩
  · intro i hi
    rw [hindex]
    obtain ⟨hlt, hget⟩ := List.getElem?_eq_some_iff.mp hi
    cases hj : Dis.disOpcodes.findIdx? (Dis.printable options packet.word) with
    | none =>
      have hno := List.findIdx?_eq_none_iff.mp hj _ (List.getElem_mem hlt)
      rw [hget, h] at hno
      cases hno
    | some j =>
      refine ⟨j, ?_, rfl⟩
      by_contra hlate
      obtain ⟨hjlt, -, hbefore⟩ := List.findIdx?_eq_some_iff_getElem.mp hj
      have hno := hbefore i (by omega)
      rw [hget] at hno
      exact hno h

end Word

/-- What is assembled is printed as an instruction, before and after its fixup, by a disassembler for the same
target: never as bits behind `.insn`. -/
theorem riscvIp_printed {env : IpEnv} {name : String} {text : List Char} {op : RiscvOpcodeRow} {st : IpState}
    {bad : List AsBad} (h : riscvIp env riscvOpcodes name text = .insn op st bad) (hpinfo : op.pinfo ≠ insnMacro)
    {word : Opcode.Insn} (hword : Completes st word) {options : Dis.DisOptions InsnClass}
    (hxlen : options.xlen = env.xlen.bits)
    (hsupports : ∀ cls, env.riscvMultiSubsetSupports cls = true → options.supports cls = true)
    (halias : options.noAliases = true → op.pinfo &&& insnAlias = 0) :
    (emitted word).bytes.length = riscvInsnLength op.matchBits ∧ Printed options op (emitted word) := by
  obtain ⟨hmem, hrow⟩ := riscvIp_insn h
  have hused := used_of_ipRow hmem hpinfo hrow
  obtain ⟨hlength, hsame⟩ := hused.emitted_and hpinfo hword
  refine ⟨(toBytes_length _ _).trans hlength, printed_of_printable hmem ?_⟩
  have haccepts : op.accepts (emitted word).word = true := by
    rw [← accepts_congr (and_congr_part hsame (or_and_left _ _))]
    exact hused.accepts
  obtain ⟨hx, hcls⟩ := ipRows_target h
  have hfits : (op.xlenRequirement = 0 || op.xlenRequirement = options.xlen) = true := by
    rw [hxlen, Bool.or_eq_true, decide_eq_true_eq, decide_eq_true_eq]
    exact hx
  have hshown : (!(options.noAliases && decide (op.pinfo &&& insnAlias ≠ 0))) = true := by
    cases hno : options.noAliases with
    | false => rfl
    | true => rw [halias hno]; rfl
  unfold Dis.printable Dis.ofRow
  dsimp only
  rw [decide_eq_false hpinfo, haccepts, hshown, hfits, hsupports _ hcls]
  rfl

/-- A line with a fixup. -/
def addiRow : RiscvOpcodeRow := ⟨"addi", 0, .i, "d,s,j", 0x13#64, 0x707f#64, .opcode, 0⟩

def addiState : IpState where
  asarg := []
  insn := 0x58513
  immExpr := ⟨.constant, 5⟩
  immReloc := some .lo12I
  p := percentOpItype

theorem addi_line :
    riscvIp (plainEnv .rv64 .bits64) riscvOpcodes "addi" "x10,x11,5".toList = .insn addiRow addiState [] := by
  decide +kernel

/-- The word with the constant in it. -/
theorem addi_completes : Completes addiState 0x558513 := by
  have hword : appendInsn (plainEnv .rv64 .bits64) addiState = 0x558513 := by decide
  rw [← hword]
  exact appendInsn_completes _ addiState

def addiOptions : Dis.DisOptions InsnClass := ⟨true, 64, (· = .i)⟩

theorem addi_printed : (emitted 0x558513).bytes.length = riscvInsnLength addiRow.matchBits ∧
    Printed addiOptions addiRow (emitted 0x558513) :=
  riscvIp_printed addi_line (by decide) addi_completes rfl (fun _ h => h) fun _ => by decide

/-! ## Registers that come back -/

section Register

variable {env : IpEnv} {op : RiscvOpcodeRow} {st st' : IpState} {l : Letter} {f : OperandField} {n : Nat}
  {rest : List Char}

theorem regLetter_found {cls : RegClass} {test : Nat → Bool} {write : Nat → Opcode.Insn → Opcode.Insn}
    (hfound : env.regLookup cls st.asarg = some (n, rest)) (h : regLetter env st cls test write = .next st') :
    test n = true ∧ st'.insn = write n st.insn := by
  unfold regLetter at h
  rw [hfound] at h
  dsimp only at h
  split at h
  · rename_i htest
    cases h
    exact ⟨htest, rfl⟩
  · cases h

theorem plainReg_found {cls : RegClass} {write : Nat → Opcode.Insn → Opcode.Insn}
    (hfound : env.regLookup cls st.asarg = some (n, rest)) (h : plainReg env st cls write = .next st') :
    st'.insn = write n st.insn := by
  unfold plainReg at h
  rw [hfound] at h
  cases h
  rfl

theorem extract_insertReg (hw : f.width < 64) (hn : n < 2 ^ f.width) (x : Opcode.Insn) :
    (f.extract (insertReg f n x)).toNat = n := by
  have hlt : n < 2 ^ 64 := hn.trans (Nat.pow_lt_pow_right (by decide) hw)
  rw [insertReg, f.extract_insert, f.mask_eq hw, toNat_and_mask _ hw, BitVec.toNat_ofNat, Nat.mod_eq_of_lt hlt,
    Nat.mod_eq_of_lt hn]

/-- A register of a compressed format. -/
theorem rvcReg_found {cls : RegClass} (hwidth : f.width = 3) (hfound : env.regLookup cls st.asarg = some (n, rest))
    (h : rvcReg env st cls f = .next st') : (f.extract st'.insn).toNat + 8 = n := by
  obtain ⟨htest, hinsn⟩ := regLetter_found hfound h
  have hrange : 8 ≤ n ∧ n ≤ 15 := of_decide_eq_true htest
  rw [hinsn, extract_insertReg (by omega) (by rw [hwidth]; omega)]
  omega

theorem sameReg_found {first : Nat} (hfound : env.regLookup .gpr st.asarg = some (n, rest))
    (h : sameReg env st f first = .next st') : (f.extract st'.insn).toNat + first = n := by
  obtain ⟨htest, hinsn⟩ := regLetter_found hfound h
  rw [hinsn]
  exact of_decide_eq_true htest

theorem maskLetter_found {text : List Char} (hfound : env.regLookup .vecm text = some (n, rest))
    (h : maskLetter env st text = .next st') : (OperandField.vmask.extract st'.insn).toNat = n := by
  unfold maskLetter at h
  rw [hfound] at h
  split at h
  · rename_i hzero
    cases hzero
    cases h
    exact extract_insertReg (by decide) (by decide) _
  · cases h

/-- The destination of a vector AMO, and that there is one. -/
theorem amoVd_found {fields : List OperandField} (hf : f ∈ fields)
    (hread : Letter.ve.regRead env st.asarg = some (n, fields)) (hn : n < 32) (h : amoVd env st = .next st') :
    (f.extract st'.insn).toNat = n := by
  unfold Letter.regRead at hread
  unfold amoVd at h
  dsimp only at hread
  split at hread
  · rename_i hgpr
    rw [hgpr] at h
    cases hread
    cases h
    rw [List.mem_singleton.mp hf]
    exact extract_insertReg (f := .vwd) (by decide) (by decide) _
  · rename_i hgpr
    split at h
    · rename_i hzero
      exact absurd hzero (hgpr _)
    · obtain ⟨⟨m, rest⟩, hfound, heq⟩ := Option.map_eq_some_iff.mp hread
      cases heq
      rw [List.mem_singleton.mp hf, (@regLetter_found env { st with asarg := _ } st' _ _ _ _ _ hfound h).2]
      exact extract_insertReg (by decide) hn _

/-- A destination is marked, so that the source leaves it. -/
theorem amoVd_marked {fields : List OperandField} (hf : f ∈ fields)
    (hread : Letter.ve.regRead env st.asarg = some (n, fields)) (h : amoVd env st = .next st') :
    f = .vwd ∨ (f = .vd ∧ OperandField.vwd.extract st'.insn ≠ 0) := by
  unfold Letter.regRead at hread
  unfold amoVd at h
  dsimp only at hread
  split at hread
  · cases hread
    exact .inl (List.mem_singleton.mp hf)
  · rename_i hgpr
    split at h
    · rename_i hzero
      exact absurd hzero (hgpr _)
    · obtain ⟨⟨m, rest⟩, hfound, heq⟩ := Option.map_eq_some_iff.mp hread
      cases heq
      refine .inr ⟨List.mem_singleton.mp hf, ?_⟩
      have hone : OperandField.vwd.extract st'.insn = 1 &&& OperandField.vwd.mask := by
        rw [(@regLetter_found env { st with asarg := _ } st' _ _ _ _ _ hfound h).2, insertReg,
          OperandField.extract_insert_apart _ _ (by decide)]
        exact OperandField.extract_insert ..
      rw [hone]
      decide

/-- The source of a vector AMO is in the field of its destination. -/
theorem amoVs3_found (hfound : env.regLookup .vecr st.asarg = some (n, rest)) (hn : n < 32)
    (h : amoVs3 env st = .next st') : (OperandField.vd.extract st'.insn).toNat = n := by
  obtain ⟨htest, hinsn⟩ := regLetter_found hfound h
  rw [hinsn]
  split
  · exact extract_insertReg (by decide) hn _
  · rename_i hvwd
    exact (of_decide_eq_true htest).resolve_left hvwd

theorem controlRegister_found (hfound : env.regLookup .csr st.asarg = some (n, rest)) (hn : n < 4096)
    (h : controlRegister env st op = .next st') : (OperandField.csr.extract st'.insn).toNat = n := by
  unfold controlRegister at h
  rw [hfound] at h
  cases h
  exact extract_insertReg (by decide) hn _

/-- All letters but two look for one kind of register where they stand. -/
theorem regRead_found {text : List Char} {fields : List OperandField} (hve : l ≠ .ve) (hvm : l ≠ .vm)
    (h : l.regRead env text = some (n, fields)) :
    ∃ rest, env.regLookup (l.regClass env) text = some (n, rest) ∧ fields = l.regFields := by
  unfold Letter.regRead at h
  split at h
  · exact absurd rfl hve
  · exact absurd rfl hvm
  · obtain ⟨⟨m, rest⟩, hfound, heq⟩ := Option.map_eq_some_iff.mp h
    cases heq
    exact ⟨rest, hfound, rfl⟩

theorem ipLetter_found (hve : l ≠ .ve) (hvm : l ≠ .vm) (hf : f ∈ l.regFields)
    (hfound : env.regLookup (l.regClass env) st.asarg = some (n, rest)) (hn : n < l.regNumbers)
    (h : ipLetter env op st l = .next st') : (f.extract st'.insn).toNat + l.regFirst = n := by
  have hlast {g : OperandField} (hw : g.width = 5) (hn : n < 32) (x : Opcode.Insn) :
      (g.extract (insertReg g n x)).toNat = n :=
    extract_insertReg (by omega) (by rw [hw]; exact hn) x
  -- a field that is written first keeps its number while the others are written
  have happart {f g : OperandField} (x : Opcode.Insn)
      (hg : f.shift + f.width ≤ g.shift ∨ g.shift + g.width ≤ f.shift) :
      f.extract (insertReg g n x) = f.extract x := OperandField.extract_insert_apart _ _ hg
  cases l
  case cs | cS | ct | cD =>
    obtain rfl := List.mem_singleton.mp hf
    rw [ipLetter] at h
    exact rvcReg_found rfl hfound h
  case cw | cx | cU =>
    obtain rfl := List.mem_singleton.mp hf
    rw [ipLetter] at h
    exact sameReg_found hfound h
  case cV | cT | vd | vs | vt =>
    obtain rfl := List.mem_singleton.mp hf
    rw [ipLetter] at h
    rw [(regLetter_found hfound h).2]
    exact hlast rfl hn _
  case d | D | s | S | t | T | r | R =>
    obtain rfl := List.mem_singleton.mp hf
    rw [ipLetter] at h
    rw [plainReg_found hfound h]
    exact hlast rfl hn _
  case U =>
    rw [ipLetter] at h
    rw [plainReg_found hfound h]
    rcases List.mem_pair.mp hf with rfl | rfl
    · rw [happart _ (by decide)]
      exact hlast rfl hn _
    · exact hlast rfl hn _
  case vu =>
    rw [ipLetter] at h
    rw [(regLetter_found hfound h).2]
    rcases List.mem_pair.mp hf with rfl | rfl
    · rw [happart _ (by decide)]
      exact hlast rfl hn _
    · exact hlast rfl hn _
  case vv =>
    rw [ipLetter] at h
    rw [(regLetter_found hfound h).2]
    rcases List.mem_cons.mp hf with rfl | hf
    · rw [happart _ (by decide), happart _ (by decide)]
      exact hlast rfl hn _
    · rcases List.mem_pair.mp hf with rfl | rfl
      · rw [happart _ (by decide)]
        exact hlast rfl hn _
      · exact hlast rfl hn _
  case vf =>
    obtain rfl := List.mem_singleton.mp hf
    rw [ipLetter] at h
    exact amoVs3_found hfound hn h
  case vM =>
    obtain rfl := List.mem_singleton.mp hf
    rw [ipLetter] at h
    exact maskLetter_found hfound h
  case vT =>
    obtain rfl := List.mem_singleton.mp hf
    rw [ipLetter] at h
    rw [(regLetter_found hfound h).2]
    exact extract_insertReg (by decide) (lt_of_lt_of_le hn (by decide)) _
  case E =>
    obtain rfl := List.mem_singleton.mp hf
    rw [ipLetter] at h
    exact controlRegister_found hfound hn h
  case ve => exact absurd rfl hve
  case vm => exact absurd rfl hvm
  all_goals cases hf

theorem mem_regFields {text : List Char} {fields : List OperandField} (hf : f ∈ fields)
    (hread : l.regRead env text = some (n, fields)) : f ∈ l.regFields := by
  by_cases hve : l = .ve
  · subst hve
    unfold Letter.regRead at hread
    dsimp only at hread
    split at hread
    · cases hread
      rw [List.mem_singleton.mp hf]
      exact List.mem_cons_self ..
    · obtain ⟨r, -, heq⟩ := Option.map_eq_some_iff.mp hread
      cases heq
      exact List.mem_cons_of_mem _ hf
  · by_cases hvm : l = .vm
    · subst hvm
      unfold Letter.regRead at hread
      dsimp only at hread
      split at hread
      · obtain ⟨r, -, heq⟩ := Option.map_eq_some_iff.mp hread
        cases heq
        exact hf
      · cases hread
    · obtain ⟨rest, -, rfl⟩ := regRead_found hve hvm hread
      exact hf

/-- The fields of a letter hold the register that it has read. -/
theorem ipLetter_register {fields : List OperandField} (hf : f ∈ fields)
    (hread : l.regRead env st.asarg = some (n, fields)) (hn : n < l.regNumbers)
    (h : ipLetter env op st l = .next st') : (f.extract st'.insn).toNat + l.regFirst = n := by
  by_cases hve : l = .ve
  · subst hve
    rw [ipLetter] at h
    exact amoVd_found hf hread hn h
  · by_cases hvm : l = .vm
    · subst hvm
      rw [ipLetter] at h
      unfold optionalMask at h
      unfold Letter.regRead at hread
      dsimp only at hread
      split at hread
      · rename_i htext
        obtain ⟨⟨m, rest⟩, hfound, heq⟩ := Option.map_eq_some_iff.mp hread
        cases heq
        rw [htext] at h
        rw [List.mem_singleton.mp hf]
        exact maskLetter_found hfound h
      · cases hread
    · obtain ⟨rest, hfound, rfl⟩ := regRead_found hve hvm hread
      exact ipLetter_found hve hvm hf hfound hn h

/-! ### What later letters leave -/

/-- Nothing writes the destination of a vector AMO again, not even its source. -/
theorem ipLetter_amo (hapart : l ≠ .vf → (OperandField.vwd.bits ||| OperandField.vd.bits) &&& l.writes = 0)
    (h : ipLetter env op st l = .next st') :
    OperandField.vwd.extract st'.insn = OperandField.vwd.extract st.insn ∧
      (OperandField.vwd.extract st.insn ≠ 0 → OperandField.vd.extract st'.insn = OperandField.vd.extract st.insn) := by
  by_cases hvf : l = .vf
  · subst hvf
    have hwrites := ipLetter_writes h
    refine ⟨(OperandField.vwd.slot.read_outside hwrites (by decide)).symm, fun hvwd => ?_⟩
    rw [ipLetter] at h
    unfold amoVs3 regLetter at h
    split at h
    · split at h
      · cases h
        dsimp only
        rw [if_neg hvwd]
      · cases h
    · cases h
  · have hwrites := ipLetter_writes h
    obtain ⟨hvwd, hvd⟩ := or_and_eq_zero (hapart hvf)
    exact ⟨(OperandField.vwd.slot.read_outside hwrites hvwd).symm,
      fun _ => (OperandField.vd.slot.read_outside hwrites hvd).symm⟩

theorem ipLetters_amo {ls : List Letter}
    (hapart : (OperandField.vwd.bits ||| OperandField.vd.bits) &&& writesAll (ls.filter (· ≠ .vf)) = 0)
    (h : ipLetters env op ls st = .next st') :
    OperandField.vwd.extract st'.insn = OperandField.vwd.extract st.insn ∧
      (OperandField.vwd.extract st.insn ≠ 0 → OperandField.vd.extract st'.insn = OperandField.vd.extract st.insn) := by
  induction ls generalizing st with
  | nil =>
    rw [← LetterResult.next.inj h]
    exact ⟨rfl, fun _ => rfl⟩
  | cons x ls ih =>
    obtain ⟨s, hs, hrest⟩ := ipLetters_cons.mp h
    have hparts : (x ≠ .vf → (OperandField.vwd.bits ||| OperandField.vd.bits) &&& x.writes = 0) ∧
        (OperandField.vwd.bits ||| OperandField.vd.bits) &&& writesAll (ls.filter (· ≠ .vf)) = 0 := by
      by_cases hvf : x = .vf
      · rw [List.filter_cons_of_neg (by simp [hvf])] at hapart
        exact ⟨fun hne => absurd hvf hne, hapart⟩
      · rw [List.filter_cons_of_pos (by simp [hvf]), writesAll, List.foldr_cons] at hapart
        rw [BitVec.and_comm] at hapart
        obtain ⟨hx, hls⟩ := or_and_eq_zero hapart
        exact ⟨fun _ => (BitVec.and_comm _ _).trans hx, (BitVec.and_comm _ _).trans hls⟩
    obtain ⟨hvwd, hvd⟩ := ipLetter_amo hparts.1 hs
    obtain ⟨hvwd', hvd'⟩ := ih hparts.2 hrest
    dsimp only at hvwd hvd
    refine ⟨hvwd'.trans hvwd, fun hne => ?_⟩
    exact (hvd' (hvwd ▸ hne)).trans (hvd hne)


/-- A register of a row is apart from what is written behind it, and among the bits that no fixup writes. -/
theorem registersKept_at {before after : List Letter} (hf : f ∈ l.regFields)
    (h : registersKept (before ++ l :: after) = true) : f.bits &&& writesBehind l after = 0 := by
  induction before with
  | nil =>
    rw [List.nil_append, registersKept, Bool.and_eq_true, List.all_eq_true] at h
    exact of_decide_eq_true (h.1 f hf)
  | cons x before ih =>
    rw [List.cons_append, registersKept, Bool.and_eq_true] at h
    exact ih h.2

theorem registerBits_at {before after : List Letter} (hf : f ∈ l.regFields) :
    registerBits (before ++ l :: after) &&& f.bits = f.bits := by
  have hmem : f ∈ (before ++ l :: after).flatMap Letter.regFields :=
    List.mem_flatMap.mpr ⟨l, List.mem_append_right _ (List.mem_cons_self ..), hf⟩
  unfold registerBits
  generalize (before ++ l :: after).flatMap Letter.regFields = fs at hmem
  induction fs with
  | nil => cases hmem
  | cons g fs ih =>
    rw [List.foldr_cons]
    rcases List.mem_cons.mp hmem with rfl | hmem
    · exact or_and_left _ _
    · rw [BitVec.or_comm, ← ih hmem, ← BitVec.and_assoc, or_and_left]

/-- A register that a letter has read stays where it is. -/
theorem ipLetters_register {fields : List OperandField} {before after : List Letter} {s : IpState}
    (hkept : registersKept (before ++ l :: after) = true) (hf : f ∈ fields)
    (hread : l.regRead env s.asarg = some (n, fields)) (hl : ipLetter env op s l = .next st)
    (h : ipLetters env op after st = .next st') : f.extract st'.insn = f.extract st.insn := by
  by_cases hve : l = .ve
  · subst hve
    have hvwd := registersKept_at (f := .vwd) (List.mem_cons_self ..) hkept
    have hvd := registersKept_at (f := .vd) (List.mem_cons_of_mem _ (List.mem_singleton_self _)) hkept
    rw [writesBehind, if_pos rfl] at hvwd hvd
    have hapart : (OperandField.vwd.bits ||| OperandField.vd.bits) &&& writesAll (after.filter (· ≠ .vf)) = 0 := by
      rw [BitVec.and_comm, BitVec.and_or_distrib_left, BitVec.and_comm, hvwd, BitVec.and_comm, hvd]
      rfl
    obtain ⟨hsame, hdest⟩ := ipLetters_amo hapart h
    rw [ipLetter] at hl
    rcases amoVd_marked hf hread hl with rfl | ⟨rfl, hmarked⟩
    · exact hsame
    · exact hdest hmarked
  · have hapart := registersKept_at (mem_regFields hf hread) hkept
    rw [writesBehind, if_neg hve] at hapart
    exact (f.slot.read_outside (ipLetters_writes h) hapart).symm

end Register

/-- A register of a line is read back from the bytes of its instruction, before and after the fixup. -/
theorem riscvIp_register {env : IpEnv} {name : String} {text : List Char} {op : RiscvOpcodeRow} {st : IpState}
    {bad : List AsBad} (h : riscvIp env riscvOpcodes name text = .insn op st bad) (hpinfo : op.pinfo ≠ insnMacro)
    {word : Opcode.Insn} (hword : Completes st word) {before after : List Letter} {l : Letter}
    (hargs : letters op.args = before ++ l :: after) {s : IpState}
    (hs : ipLetters env op before (startRow op text) = .next s) {n : Nat} {fields : List OperandField}
    (hread : l.regRead env (skipBlanks s.asarg) = some (n, fields)) (hn : n < l.regNumbers) {f : OperandField}
    (hf : f ∈ fields) : (f.extract (emitted word).word).toNat + l.regFirst = n := by
  obtain ⟨hmem, hrow⟩ := riscvIp_insn h
  have hused := used_of_ipRow hmem hpinfo hrow
  obtain ⟨-, hsame⟩ := hused.emitted_and hpinfo hword
  obtain ⟨s₁, hletters, rfl⟩ := ipRow_done hrow
  rw [hargs, ipLetters_append] at hletters
  obtain ⟨s₂, hs₂, hrest⟩ := hletters
  obtain rfl : s₂ = s := LetterResult.next.inj (hs₂.symm.trans hs)
  obtain ⟨s₃, hl, hafter⟩ := ipLetters_cons.mp hrest
  have hlast : f.extract s₁.insn = f.extract s₃.insn :=
    ipLetters_register (hargs ▸ hused.kept.registers) hf hread hl hafter
  have hbits : registerBits (letters op.args) &&& f.bits = f.bits := by
    rw [hargs]
    exact registerBits_at (mem_regFields hf hread)
  have hend : f.slot.read s₁.insn = f.slot.read (emitted word).word := by
    refine f.slot.congr _ _ (and_congr_part hsame ?_)
    show (acceptBits op ||| registerBits (letters op.args)) &&& f.bits = f.bits
    rw [← hbits, ← BitVec.and_assoc, BitVec.or_comm, or_and_left]
  have hregister := ipLetter_register hf hread hn hl
  rw [← hlast] at hregister
  show (f.slot.read (emitted word).word).toNat + l.regFirst = n
  rw [← hend]
  exact hregister

theorem addi_register : (OperandField.rs1.extract (emitted 0x558513).word).toNat + Letter.s.regFirst = 11 := by
  have hargs : letters addiRow.args = [.d, .comma] ++ .s :: [.comma, .j] := by decide
  have hbefore : ipLetters (plainEnv .rv64 .bits64) addiRow [.d, .comma] (startRow addiRow "x10,x11,5".toList) =
      .next { asarg := "x11,5".toList, insn := 0x513 } := by decide +kernel
  exact riscvIp_register addi_line (by decide) addi_completes hargs hbefore rfl (by decide) (List.mem_singleton_self _)

/-! ## Without compressed instructions -/

section NoRvc

variable {env : IpEnv} {op : RiscvOpcodeRow} {text : List Char} {st : IpState} {word : Opcode.Insn}

/-- A row gives nothing of the word, and leaves no fixup in the bits that tell a compressed instruction. -/
def rowOpen : RiscvOpcodeRow → Bool
  | ⟨_, _, _, args, matchBits, mask, _, _⟩ =>
    matchBits = 0 && mask = 0 &&
      (fixupsOf percentOpNull (letters args)).all fun code => (0x3 : Opcode.Insn) &&& fixupBits 4 code = 0

/-- The formats of `.insn` are open. -/
theorem riscvInsnTypes_open (hop : op ∈ Opcode.riscvInsnTypes) : (op.matchBits = 0 ∧ op.mask = 0) ∧
    ∀ code ∈ fixupsOf percentOpNull (letters op.args), (0x3 : Opcode.Insn) &&& fixupBits 4 code = 0 := by
  have hall : Opcode.riscvInsnTypes.all rowOpen = true := by decide +kernel
  have hrow := List.all_eq_true.mp hall op hop
  unfold rowOpen at hrow
  dsimp only at hrow
  rw [Bool.and_eq_true, Bool.and_eq_true, decide_eq_true_eq, decide_eq_true_eq, List.all_eq_true] at hrow
  exact ⟨hrow.1, fun code hcode => of_decide_eq_true (hrow.2 code hcode)⟩

theorem fixupBits_long {len : Nat} (h : len ≠ 2) (code : RelocCode) : fixupBits len code = fixupBits 4 code := by
  have htype : fixupType len code = fixupType 4 code := by
    unfold fixupType
    rw [if_neg h, if_neg h, if_neg (by decide), if_neg (by decide)]
  unfold fixupBits
  rw [htype]

theorem endOfArgs_norvc {s : IpState} (h : endOfArgs env op s = .done st) (hpinfo : op.pinfo ≠ insnMacro)
    (hrvc : env.rvc = false) :
    riscvInsnLength (if op.matchBits = 0 ∧ op.mask = 0 then st.insn else op.matchBits) ≠ 2 := by
  obtain rfl := endOfArgs_done h
  unfold endOfArgs at h
  dsimp only at h
  generalize riscvInsnLength (if op.matchBits = 0 ∧ op.mask = 0 then st.insn else op.matchBits) = length at h ⊢
  split at h
  · cases h
  · split at h
    · cases h
    · rename_i hlong
      intro hlength
      exact hlong ⟨hpinfo, hlength, hrvc⟩

theorem ipRow_norvc (h : ipRow env op text = .done st) (hpinfo : op.pinfo ≠ insnMacro) (hrvc : env.rvc = false) :
    riscvInsnLength (if op.matchBits = 0 ∧ op.mask = 0 then st.insn else op.matchBits) ≠ 2 := by
  unfold ipRow at h
  split at h
  · exact endOfArgs_norvc h hpinfo hrvc
  · cases h
  · cases h

/-- Every row fixes the bits that tell a compressed instruction. -/
theorem mask_low (h : RowLength op) : op.mask &&& 0x3 = 0x3 := by
  cases h with
  | two _ hfixed => exact hfixed
  | four _ _ hfixed => exact and_part hfixed (by decide)

end NoRvc

/-- Without compressed instructions no line gives an instruction of two bytes, and its low bits say that it is none
before and after the fixup. -/
theorem riscvIp_norvc {env : IpEnv} {hash : List RiscvOpcodeRow}
    (hhash : hash = riscvOpcodes ∨ hash = Opcode.riscvInsnTypes) {name : String} {text : List Char}
    {op : RiscvOpcodeRow} {st : IpState} {bad : List AsBad} (h : riscvIp env hash name text = .insn op st bad)
    (hpinfo : op.pinfo ≠ insnMacro) (hrvc : env.rvc = false) {word : Opcode.Insn} (hword : Completes st word) :
    riscvInsnLength st.insn ≠ 2 ∧ word &&& 0x3 = 0x3 := by
  obtain ⟨hmem, hrow⟩ := riscvIp_insn h
  have hlong := ipRow_norvc hrow hpinfo hrvc
  have hboth : riscvInsnLength st.insn ≠ 2 ∧ (0x3 : Opcode.Insn) &&& leftBits st = 0 := by
    rcases hhash with rfl | rfl
    · have hused := used_of_ipRow hmem hpinfo hrow
      have hlow : acceptBits op &&& 0x3 = 0x3 := by
        have hmask : op.mask &&& 0x3 = 0x3 := mask_low hused.length
        rw [← hmask, ← BitVec.and_assoc, acceptBits, or_and_left]
      refine ⟨?_, ?_⟩
      · split at hlong
        · exact hlong
        · rwa [hused.length.matched (RiscvOpcodeRow.matchOpcode_of_accepts hpinfo hused.isOpcode hused.accepts)]
      · have hleft := (or_and_eq_zero hused.left).1
        rw [← hlow, BitVec.and_comm (acceptBits op), BitVec.and_assoc, hleft]
        exact BitVec.and_zero
    · obtain ⟨hopen, hfixups⟩ := riscvInsnTypes_open hmem
      rw [if_pos hopen] at hlong
      refine ⟨hlong, leftBits_apart hrow fun code hcode => ?_⟩
      rw [fixupBits_long hlong]
      exact hfixups code hcode
  refine ⟨hboth.1, ?_⟩
  rw [← hword.and_eq hboth.2]
  by_contra hlow
  exact hboth.1 (riscvInsnLength_two hlow)

theorem addi_norvc : riscvInsnLength addiState.insn ≠ 2 ∧ (0x558513 : Opcode.Insn) &&& 0x3 = 0x3 :=
  riscvIp_norvc (.inl rfl) addi_line (by decide) rfl addi_completes

end RiscvBinutils.Gas.Ip
