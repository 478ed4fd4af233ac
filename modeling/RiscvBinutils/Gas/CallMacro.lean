/-
Calls of a symbol (gas/config/tc-riscv.c, `riscv_call`): an AUIPC and a JALR with one relocation for both, as they are
executed when the linker has placed it.
-/
import RiscvBinutils.Bfd.RelaxCall
import RiscvBinutils.Gas.AddressMacro
import RiscvBinutils.Gas.OperandFixup

namespace RiscvBinutils.Gas

open RiscvBinutils.Base RiscvBinutils.Opcode RiscvBinutils.Bfd RiscvBinutils.Machine

/-! ## Two words side by side -/

section Words

variable {c : List Byte} {off : Nat}

theorem fromBytes_append (xs ys : List Byte) :
    fromBytes (xs ++ ys) = fromBytes xs + 256 ^ xs.length * fromBytes ys := by
  induction xs with
  | nil => simp [fromBytes]
  | cons x xs ih =>
    rw [List.cons_append, fromBytes, fromBytes, ih, List.length_cons, Nat.pow_succ]
    ring

theorem toNat_getl_four (c : List Byte) (off : Nat) (h : off + 4 ≤ c.length) :
    (getl 4 c off).toNat = fromBytes (slice c off 4) ∧ fromBytes (slice c off 4) < 2 ^ 32 := by
  have hlen : (slice c off 4).length = 4 := by
    rw [slice, List.length_take, List.length_drop]
    omega
  have hlt := fromBytes_lt (slice c off 4)
  rw [hlen] at hlt
  have hlt' : fromBytes (slice c off 4) < 2 ^ 32 := by omega
  refine ⟨?_, hlt'⟩
  rw [getl, BitVec.toNat_ofNat]
  omega

/-- Eight bytes are two words. -/
theorem getl_eight (h : off + 8 ≤ c.length) :
    (getl 8 c off).toNat = (getl 4 c off).toNat + 2 ^ 32 * (getl 4 c (off + 4)).toNat := by
  obtain ⟨hlow, hlow'⟩ := toNat_getl_four c off (by omega)
  obtain ⟨hhigh, hhigh'⟩ := toNat_getl_four c (off + 4) (by omega)
  have hlen : (slice c off 4).length = 4 := by
    rw [slice, List.length_take, List.length_drop]
    omega
  have hslice : slice c off 8 = slice c off 4 ++ slice c (off + 4) 4 := by
    rw [slice, slice, slice, ← List.drop_drop]
    exact (List.take_add : List.take (4 + 4) _ = _)
  rw [hlow, hhigh, getl, hslice, fromBytes_append, hlen, BitVec.toNat_ofNat]
  omega

theorem getLsbD_low (h : off + 8 ≤ c.length) {i : Nat} (hi : i < 32) :
    (getl 4 c off).getLsbD i = (getl 8 c off).getLsbD i := by
  have heq : (getl 8 c off).toNat % 2 ^ 32 = (getl 4 c off).toNat := by
    have hlt := (toNat_getl_four c off (by omega)).2
    rw [← (toNat_getl_four c off (by omega)).1] at hlt
    rw [getl_eight h]
    omega
  rw [BitVec.getLsbD, BitVec.getLsbD, ← heq, Nat.testBit_mod_two_pow, decide_eq_true hi, Bool.true_and]

theorem getl_high (h : off + 8 ≤ c.length) : getl 8 c off >>> 32 = getl 4 c (off + 4) := by
  apply BitVec.eq_of_toNat_eq
  have hlt := (toNat_getl_four c off (by omega)).2
  rw [← (toNat_getl_four c off (by omega)).1] at hlt
  rw [BitVec.toNat_ushiftRight, Nat.shiftRight_eq_div_pow, getl_eight h]
  omega

end Words

/-! ## The relocation of a call -/

/-- Both words after the relocation: the immediates are in them, and nothing else has changed. -/
theorem performRelocation_call {tgt : Target} {rel : Rela} {value secAddr : Vma} {c : List Byte}
    (htype : rel.type.isCall) (hin : rel.offset.toNat + 8 ≤ c.length)
    (hok : (performRelocation tgt rel value secAddr c).1 = .ok) {c' : List Byte}
    (hc : c' = (performRelocation tgt rel value secAddr c).2) :
    InHighRange tgt.xlen (relocValue rel value secAddr) ∧
      extractUtypeImm (getl 4 c' rel.offset.toNat) = sext 32 (constHighPart (relocValue rel value secAddr)) ∧
      extractItypeImm (getl 4 c' (rel.offset.toNat + 4)) = sext 12 (relocValue rel value secAddr) ∧
      (∀ i < 12, (getl 4 c' rel.offset.toNat).getLsbD i = (getl 4 c rel.offset.toNat).getLsbD i) ∧
      ∀ i < 20, (getl 4 c' (rel.offset.toNat + 4)).getLsbD i = (getl 4 c (rel.offset.toNat + 4)).getLsbD i := by
  have hsize : (howto rel.type).bitsize = 64 ∧ (∀ i < 12, (howto rel.type).dstMask.getLsbD i = false) ∧
      ∀ i < 20, (howto rel.type).dstMask.getLsbD (32 + i) = false := by
    rcases (of_decide_eq_true htype : rel.type = .call ∨ rel.type = .callPlt) with h | h <;>
      rw [h] <;> decide
  obtain ⟨hbits, hlow, hhigh⟩ := hsize
  have hplaced := @placed_call tgt rel c value secAddr htype (by rw [hbits]; exact hin)
  have hfits := hplaced.ok.mp hok
  have hlen : c'.length = c.length := by rw [hc]; exact hplaced.outside.length
  obtain ⟨hupper, himm⟩ := hplaced.field hfits
  have hkept := hplaced.bits
  rw [← hc] at hupper himm hkept
  rw [insnWord, hbits] at hupper himm
  rw [insnWord, insnWord, hbits] at hkept
  have hin' : rel.offset.toNat + 8 ≤ c'.length := by rw [hlen]; exact hin
  refine ⟨hfits, ?_, ?_, fun i hi => ?_, fun i hi => ?_⟩
  · rw [← hupper]
    refine utype_format.congr fun f hf i hi => ?_
    obtain rfl := List.mem_singleton.mp hf
    have hi' : i < 20 := hi
    exact getLsbD_low hin' (by dsimp only; omega)
  · rw [← getl_high hin']
    exact himm
  · rw [getLsbD_low hin' (by omega), getLsbD_low hin (by omega)]
    exact hkept i (by omega) (hlow i hi)
  · rw [← getl_high hin', ← getl_high hin, BitVec.getLsbD_ushiftRight, BitVec.getLsbD_ushiftRight]
    exact hkept (32 + i) (by omega) (hhigh i hi)

/-! ## The lines -/

/-- The macros that call. -/
def callMacros : List RiscvOpcodeRow := riscvOpcodes.filter fun op => op.pinfo = insnMacro ∧ op.mask = mCall

/-- The temporary register of a call is in its row, or the match function asks for one that can hold the high part. -/
def tempKept : RiscvOpcodeRow → Bool
  | ⟨_, _, _, args, matchBits, mask, matchFunc, pinfo⟩ =>
    pinfo ≠ insnMacro || mask ≠ mCall || matchFunc = .rs1Nonzero ||
      (OperandField.rs1.bits &&& Ip.writesAll (Ip.letters args) = 0 && rs1Of matchBits ≠ 0)

theorem callMacros_temp {op : RiscvOpcodeRow} (hop : op ∈ callMacros) : op.matchFunc = .rs1Nonzero ∨
    (OperandField.rs1.bits &&& Ip.writesAll (Ip.letters op.args) = 0 ∧ rs1Of op.matchBits ≠ 0) := by
  have hall : riscvOpcodes.all tempKept = true := by decide +kernel
  obtain ⟨hmem, hcall⟩ := List.mem_filter.mp hop
  have hrow := List.all_eq_true.mp hall op hmem
  unfold tempKept at hrow
  dsimp only at hrow
  obtain ⟨hpinfo, hmask⟩ : op.pinfo = insnMacro ∧ op.mask = mCall := of_decide_eq_true hcall
  rw [hpinfo, hmask, Bool.or_eq_true, Bool.and_eq_true, Bool.or_eq_true] at hrow
  simp only [ne_eq, not_true_eq_false, decide_false, Bool.or_self, Bool.false_eq_true, false_or,
    decide_eq_true_eq] at hrow
  exact hrow

theorem callMacros_mask {op : RiscvOpcodeRow} (hop : op ∈ callMacros) : op.mask = mCall :=
  (of_decide_eq_true (List.mem_filter.mp hop).2 : _ ∧ _).2

section Line

variable {env : Ip.IpEnv} {name : String} {text : List Char} {op : RiscvOpcodeRow} {line : Ip.IpState}
  {bad : List Ip.AsBad}

/-- The high part has room in the temporary register of every line. -/
theorem callTemp_ne_zero (hline : Ip.riscvIp env riscvOpcodes name text = .insn op line bad) (hop : op ∈ callMacros) :
    rs1Of line.insn ≠ 0 := by
  have hrow := (Ip.riscvIp_insn hline).2
  rcases callMacros_temp hop with hfunc | ⟨hapart, htemp⟩
  · have haccepts := Ip.ipRow_accepts hrow (by rw [hfunc]; decide)
    rw [RiscvOpcodeRow.accepts, hfunc] at haccepts
    exact field_ne_zero (f := .rs1) rfl (of_decide_eq_true haccepts)
  · have hsame : OperandField.rs1.extract op.matchBits = OperandField.rs1.extract line.insn :=
      OperandField.rs1.slot.read_outside (Ip.ipRow_writes hrow) hapart
    rwa [← extract_rs1, ← hsame, extract_rs1]

end Line

/-! ## A call that is executed -/

/-- What `riscv_call` builds. -/
theorem riscvCall_words {rd temp : Opcode.Insn} {reloc : RelocCode} {first second : MacroInsn}
    (h : riscvCall rd temp reloc = some [first, second]) :
    first.word = OperandField.rd.insert matchAuipc temp ∧
      second.word = OperandField.rs1.insert (OperandField.rd.insert 0xe7#64 rd) temp := by
  obtain ⟨hfirst, hsecond⟩ := mapM_pair h
  obtain ⟨mo, hmo, hword, -⟩ := macroBuildFix_some hsecond
  have hfound := macroRows_found.2.1
  rw [hmo] at hfound
  have hmatch : mo.matchBits = 0xe7#64 := Option.some.inj hfound
  exact ⟨macroBuildFix_auipc hfirst, by rw [← Option.some.inj hword, hmatch]⟩

theorem auipc_opcode (temp : Opcode.Insn) : OperandField.rd.insert matchAuipc temp &&& maskAuipc = matchAuipc := by
  have hsame : OperandField.rd.insert matchAuipc temp &&& maskAuipc = matchAuipc &&& maskAuipc :=
    opcode_congr fun i hi => by
      rw [OperandField.getLsbD_insert _ _ _ (by omega), if_neg (fun h => absurd h.1 (by omega : ¬ 7 ≤ i))]
  exact hsame.trans (by decide)

/-- The JALR, with any immediate. -/
theorem decodeAt_callJalr {w : Nat} {rd temp : Opcode.Insn} {word : Vma} (hsame : ∀ i < 20, word.getLsbD i =
      (OperandField.rs1.insert (OperandField.rd.insert 0xe7#64 rd) temp).getLsbD i) :
    decodeAt w word = some (.jalr (rd.setWidth 5) (temp.setWidth 5) (immOf word), 4) := by
  have hhead (p n : Nat) (hle : p + n ≤ 7 ∨ 12 ≤ p ∧ p + n ≤ 15) :
      word.extractLsb' p n = (0xe7#64).extractLsb' p n := by
    rw [extractLsb_congr hsame (by omega),
      OperandField.extractLsb'_insert_apart _ _ _ (.inl (by omega : p + n ≤ 15)) (by omega),
      OperandField.extractLsb'_insert_apart _ _ _ (by exact hle.imp id And.left) (by omega)]
  have hrd : Machine.rdOf word = rd.setWidth 5 := by
    rw [Machine.rdOf, extractLsb_congr hsame (by decide),
      OperandField.extractLsb'_insert_apart _ _ _ (.inl (by decide)) (by decide)]
    exact OperandField.rd.extractLsb'_insert_same _ _ rfl rfl
  have hrs1 : rs1Of word = temp.setWidth 5 := by
    rw [rs1Of, extractLsb_congr hsame (by decide)]
    exact OperandField.rs1.extractLsb'_insert_same _ _ rfl rfl
  have hop : word.extractLsb' 0 7 = 0x67#7 := (hhead 0 7 (.inl (by decide))).trans (by decide)
  have hfunct : funct3Of word = 0 := (hhead 12 3 (.inr (by decide))).trans (by decide)
  rw [decodeAt, if_pos ((hhead 0 2 (.inl (by decide))).trans (by decide)), decode_jalr hop hfunct, hrd, hrs1]
  rfl

section Run

variable {link : Link} {inp : Input} {relocs : List Rela} {st st' : RelocState} {i : Nat} {rel : Rela} {s : RelocSym}
  {first second : MacroInsn} {pic : Bool} {mo : RiscvOpcodeRow} {insn : Opcode.Insn} {reloc : RelocCode}
  {fetch : BitVec link.xlen.bits → BitVec 64} {mem : BitVec link.xlen.bits → BitVec link.xlen.bits}
  {m : State link.xlen.bits}

/-- The round of a call, of a symbol that is not an undefined weak one. -/
theorem relocatePlain_call (htype : s.rel.type.isCall) (hstrong : callUndefweak link s = false)
    (h : relocatePlain link inp st s = .ok st') :
    doRelocation link inp st s.rel (callAddress link s) = .ok st' := by
  have hjump : placeJump link inp st s s.relocation = .ok st' := by
    rcases (of_decide_eq_true htype : s.rel.type = .call ∨ s.rel.type = .callPlt) with ht | ht
    all_goals
      rw [relocatePlain, ht] at h
      simpa [hstrong] using h
  unfold placeJump at hjump
  unfold callAddress
  cases hsym : (if link.pic then s.h else none) with
  | none =>
    rw [hsym] at hjump
    exact placeRelocation_ok hjump
  | some e =>
    rw [hsym] at hjump
    dsimp only at hjump ⊢
    split at hjump
    · rename_i hplt
      rw [if_pos hplt]
      exact placeRelocation_ok hjump
    · rename_i hplt
      rw [if_neg hplt]
      split at hjump
      · cases hjump
      · exact placeRelocation_ok hjump

variable (link inp) in
/-- The two instructions of a call with their relocation, in a section where no other relocation writes to them, and
a symbol that is neither an undefined weak one nor an IFUNC. -/
structure CallLinked (relocs : List Rela) (st : RelocState) (i : Nat) (rel : Rela) (s : RelocSym)
    (first second : MacroInsn) : Prop where
  atCall : relocs[i]? = some rel
  isCall : rel.type.isCall
  symbol : relocSymbol link inp rel = .ok s
  plain : PlainLabel link s
  strong : callUndefweak link s = false
  inside : Inside link inp relocs st
  firstAlone : OnlyWriter link inp relocs st i rel.offset.toNat
  secondAlone : OnlyWriter link inp relocs st i (rel.offset.toNat + 4)
  firstWord : getl 4 st.contents rel.offset.toNat = first.word
  secondWord : getl 4 st.contents (rel.offset.toNat + 4) = second.word

/-- What is in the two instructions when the section is relocated. -/
theorem CallLinked.final (h : CallLinked link inp relocs st i rel s first second) (hfinal : link.type ≠ .relocatable)
    (hlo : st.loRelocs = []) (hrun : riscvElfRelocateSection link inp relocs st = .ok st') :
    InHighRange link.xlen (relocValue s.rel (callAddress link s) (link.secAddr inp.sec)) ∧
      extractUtypeImm (getl 4 st'.contents rel.offset.toNat) =
        sext 32 (constHighPart (relocValue s.rel (callAddress link s) (link.secAddr inp.sec))) ∧
      extractItypeImm (getl 4 st'.contents (rel.offset.toNat + 4)) =
        sext 12 (relocValue s.rel (callAddress link s) (link.secAddr inp.sec)) ∧
      (∀ k < 12, (getl 4 st'.contents rel.offset.toNat).getLsbD k = first.word.getLsbD k) ∧
      ∀ k < 20, (getl 4 st'.contents (rel.offset.toNat + 4)).getLsbD k = second.word.getLsbD k := by
  have hcall (type : RelocType) (htype : type.isCall) : type.isPcrelLo = false ∧ ∀ c off, extent type c off = 8 := by
    cases type <;> first | exact ⟨rfl, fun _ _ => rfl⟩ | exact absurd htype (by decide)
  obtain ⟨s₀, s₁, hone, hin, hwords⟩ := h.inside.section_round h.atCall (hcall _ h.isCall).1 hlo hrun
  rw [(hcall _ h.isCall).2] at hin
  obtain ⟨hfirst₀, hfirst₁⟩ := hwords _ h.firstAlone
  obtain ⟨hsecond₀, hsecond₁⟩ := hwords _ h.secondAlone
  have hrel := relocSymbol_rel h.symbol
  have hoff : s.rel.offset = rel.offset := by rw [hrel]
  have htype : s.rel.type.isCall := by rw [hrel]; exact h.isCall
  unfold relocateOne at hone
  simp only [h.symbol, h.plain.kept, h.plain.noIfunc, hfinal, Bool.false_eq_true, if_false] at hone
  obtain ⟨hok, hst⟩ := doRelocation_ok (relocatePlain_call htype h.strong hone)
  obtain ⟨hrange, hupper, himm, hlow, hhigh⟩ := performRelocation_call htype (by rw [hoff]; exact hin) hok
    (congrArg RelocState.contents hst)
  rw [hoff] at hupper himm hlow hhigh
  rw [hfirst₀, h.firstWord] at hlow
  rw [hsecond₀, h.secondWord] at hhigh
  rw [hfirst₁, hsecond₁]
  exact ⟨hrange, hupper, himm, hlow, hhigh⟩

/-- `call`, `tail` and `jump`, assembled, linked and executed: the program goes on at the address that calls of the
symbol go to, an even one, and the address behind the two instructions is in the link register.  Besides that
register only the temporary one has changed. -/
theorem callMacro_runs {env : Ip.IpEnv} {name : String} {text : List Char} {line : Ip.IpState} {bad : List Ip.AsBad}
    (hline : Ip.riscvIp env riscvOpcodes name text = .insn mo line bad) (hmo : mo ∈ callMacros)
    (hexp : expandMacro link.xlen pic mo line.insn reloc = some [first, second])
    (hlinked : CallLinked link inp relocs st i rel s first second) (hfinal : link.type ≠ .relocatable)
    (hlo : st.loRelocs = []) (hrun : riscvElfRelocateSection link inp relocs st = .ok st')
    (hpc : m.pc = (link.secAddr inp.sec + rel.offset).setWidth link.xlen.bits)
    (hfirst : fetch m.pc = getl 4 st'.contents rel.offset.toNat)
    (hsecond : fetch (m.pc + 4) = getl 4 st'.contents (rel.offset.toNat + 4)) :
    ∃ m', run fetch mem 2 m = some m' ∧
      m'.pc = (callAddress link s + s.rel.addend).setWidth link.xlen.bits &&& ~~~1 ∧
      (Machine.rdOf line.insn ≠ 0 → m'.get (Machine.rdOf line.insn) = m.pc + 4 + 4) ∧
      ∀ q, q ≠ Machine.rdOf line.insn → q ≠ rs1Of line.insn → m'.get q = m.get q := by
  have htemp := callTemp_ne_zero hline hmo
  have heq : expandMacro link.xlen pic mo line.insn reloc =
      riscvCall (OperandField.rd.extract line.insn) (OperandField.rs1.extract line.insn) reloc := by
    unfold expandMacro
    rw [callMacros_mask hmo]
    rfl
  rw [heq] at hexp
  obtain ⟨hauipc, hjalr⟩ := riscvCall_words hexp
  obtain ⟨hrange, hupper, himm, hlow, hhigh⟩ := hlinked.final hfinal hlo hrun
  rw [hauipc] at hlow
  rw [hjalr] at hhigh
  have hrel := relocSymbol_rel hlinked.symbol
  have hoff : s.rel.offset = rel.offset := by rw [hrel]
  have hpcrel : (howto s.rel.type).pcRelative = true := by
    have htype : s.rel.type.isCall := by rw [hrel]; exact hlinked.isCall
    revert htype
    cases s.rel.type <;> decide
  -- the AUIPC
  have hop : getl 4 st'.contents rel.offset.toNat &&& maskAuipc = matchAuipc :=
    (opcode_congr fun i hi => hlow i (by omega)).trans (auipc_opcode _)
  have hrd : Machine.rdOf (getl 4 st'.contents rel.offset.toNat) = rs1Of line.insn := by
    rw [rdOf_congr fun i _ hi => hlow i hi, rdOf_auipc, extract_rs1]
  have hle : link.xlen.bits ≤ 64 := by cases link.xlen <;> decide
  have hone := @step_of_decodeAt _ fetch mem m _
    ((congrArg (decodeAt link.xlen.bits) hfirst).trans (decodeAt_auipc hop))
  rw [exec, hrd, upper_upperOf hle, hupper] at hone
  -- and the JALR
  have hdecode := decodeAt_callJalr (w := link.xlen.bits) hhigh
  rw [extract_rd, extract_rs1] at hdecode
  have htarget : m.pc +
        (sext 32 (constHighPart (relocValue s.rel (callAddress link s) (link.secAddr inp.sec)))).setWidth link.xlen.bits +
        (immOf (getl 4 st'.contents (rel.offset.toNat + 4))).signExtend link.xlen.bits =
      (callAddress link s + s.rel.addend).setWidth link.xlen.bits := by
    have hsum := (BitVec.setWidth_add _ _ hle).symm.trans ((Xlen.congr_iff ..).mp (sext_high_add_low hrange))
    have hvalue : link.secAddr inp.sec + rel.offset + relocValue s.rel (callAddress link s) (link.secAddr inp.sec) =
        callAddress link s + s.rel.addend := by
      rw [relocValue, if_pos hpcrel, hoff]
      bv_omega
    rw [immOf_signExtend hle, himm, BitVec.add_assoc]
    refine (congrArg (m.pc + ·) hsum).trans ?_
    rw [hpc, ← BitVec.setWidth_add _ _ hle, hvalue]
  refine ⟨exec mem 4 ((m.set (rs1Of line.insn) (m.pc + (sext 32 (constHighPart (relocValue s.rel (callAddress link s)
      (link.secAddr inp.sec)))).setWidth link.xlen.bits)).goto (m.pc + 4))
      (.jalr (Machine.rdOf line.insn) (rs1Of line.insn) (immOf (getl 4 st'.contents (rel.offset.toNat + 4)))),
    ?_, ?_, fun hlink => ?_, fun q hq hq' => ?_⟩
  · rw [run_succ _ hone, run_succ _ (step_of_decodeAt (by rw [State.goto_pc, hsecond]; exact hdecode))]
    rfl
  · rw [exec, State.goto_pc, State.goto_get, State.set_get_same _ htemp, htarget]
  · rw [exec, State.goto_get, State.set_get_same _ hlink, State.goto_pc]
  · rw [exec, State.goto_get, State.set_get_other _ hq, State.goto_get, State.set_get_other _ hq']

end Run

/-- `call` as it is built, and the symbol at 0x20030. -/
def farCallRow : RiscvOpcodeRow := ⟨"call", 0, .i, "c", 0x8080, mCall, .null, insnMacro⟩
def farCallRela : Rela := ⟨0, 2, .callPlt, 0⟩
def farCallState : RelocState := { contents := [0x97, 0, 0, 0, 0xe7, 0x80, 0, 0] }
def farCallSym : RelocSym := { rel := farCallRela, relocation := 0x20030, sec := some 1 }
def farCallFirst : MacroInsn := ⟨0x97, some (.callPlt, .operand)⟩
def farCallSecond : MacroInsn := ⟨0x80e7, none⟩

def farCallLine : Ip.IpState := { asarg := [], insn := 0x8080, immExpr := ⟨.symbol, 0⟩, immReloc := some .callPlt }

theorem farCall_line : Ip.riscvIp (symbolEnv 0) riscvOpcodes "call" "s".toList = .insn farCallRow farCallLine [] ∧
    farCallRow ∈ callMacros := by
  decide +kernel

theorem farCall_expanded :
    expandMacro .rv64 false farCallRow 0x8080 .callPlt = some [farCallFirst, farCallSecond] := by
  decide +kernel

theorem farCall_linked :
    CallLinked pairLink pairInput [farCallRela] farCallState 0 farCallRela farCallSym farCallFirst farCallSecond := by
  have hone {k : Nat} {rel : Rela} (h : [farCallRela][k]? = some rel) : k = 0 ∧ rel = farCallRela := by
    have hk : k < 1 := (List.getElem?_eq_some_iff.mp h).1
    obtain rfl : k = 0 := by omega
    exact ⟨rfl, (Option.some.inj h).symm⟩
  have halone (x : Nat) : OnlyWriter pairLink pairInput [farCallRela] farCallState 0 x :=
    fun k rel s hrel _ hne => absurd (hone hrel).1 hne
  refine ⟨rfl, rfl, rfl, ⟨rfl, rfl⟩, rfl, ?_, halone _, halone _, by decide, by decide⟩
  intro k rel s hrel hs
  obtain ⟨rfl, rfl⟩ := hone hrel
  cases hs
  decide

theorem farCall_arrives : ∃ st' m',
    riscvElfRelocateSection pairLink pairInput [farCallRela] farCallState = .ok st' ∧
    run (pairFetch st'.contents) (fun a => a) 2 pairMachine = some m' ∧ m'.pc = 0x20030 ∧ m'.get 1 = 0x10008 := by
  obtain ⟨st', hrun⟩ := (relocOutcome_ok (by decide) :
    ∃ st', riscvElfRelocateSection pairLink pairInput [farCallRela] farCallState = .ok st')
  obtain ⟨m', hm, hpc, hlink, -⟩ := @callMacro_runs pairLink pairInput [farCallRela] farCallState st' 0 farCallRela
    farCallSym _ _ false farCallRow .callPlt (pairFetch st'.contents) (fun a => a) pairMachine _ _ _ farCallLine _
    farCall_line.1 farCall_line.2 farCall_expanded farCall_linked (by decide) rfl hrun (by decide) rfl rfl
  exact ⟨st', m', hrun, hm, hpc.trans rfl, (hlink (by decide)).trans rfl⟩

end RiscvBinutils.Gas
