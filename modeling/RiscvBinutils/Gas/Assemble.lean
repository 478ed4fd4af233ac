/-
Assembling a text section: instructions, labels, alignments, `.uleb128` of label differences and `.option`, the
fixups they leave, and the relocations written for those (gas/config/tc-riscv.c, with `do_align` and `s_align` of
gas/read.c and `fixup_segment` of gas/write.c).
The length of a branch and of a LEB128 number is the one that `relax_segment` settles on.
-/
import RiscvBinutils.Gas.Option
import RiscvBinutils.Gas.PcrelFixup

namespace RiscvBinutils.Gas

open RiscvBinutils.Bfd RiscvBinutils.Isa

/-! ## Statements -/

/-- The relocations that an operand of an instruction can have. -/
def RelocCode.ofOperand : RelocCode → Bool
  | .hi20 | .lo12I | .lo12S | .gotHi20 | .tprelHi20 | .tprelLo12I | .tprelLo12S | .tprelAdd | .tlsGotHi20 | .tlsGdHi20
  | .jmp | .bfd12Pcrel | .rvcBranch | .rvcJump | .call | .callPlt | .pcrelHi20 | .pcrelLo12I | .pcrelLo12S => true
  | _ => false

/-- `address_expr` and `reloc_type` of `append_insn`: a symbol, if there is one, and a number. -/
structure InsnFix where
  rType : RelocCode
  operand : rType.ofOperand = true
  symbol : Option String := none
  offset : Vma := 0
  sourceMacro : SourceMacro := .none

/-- An instruction. -/
structure Insn where
  length : Nat
  even : length % 2 = 0
  pos : 0 < length
  fix : Option InsnFix := none

inductive Stmt
  | insn (i : Insn)
  | label (name : String) (isLocal : Bool)
  /-- `.p2align n`, with a fill value or without, and the largest number of bytes, zero for any. -/
  | align (n : Nat) (fill : Bool) (max : Nat)
  /-- `.uleb128 l1 - l0`. -/
  | uleb128 (length : Nat) (l1 l0 : String)
  | option (line : OptionLine)

/-! ## The section -/

/-- The fixups that statements leave: operands and alignments. -/
def RelocCode.ofText (code : RelocCode) : Bool := code.ofOperand || code = .align

/-- The fixups of a text section: those, and the pairs for `.uleb128`. -/
def RelocCode.inText (code : RelocCode) : Bool := code.ofText || code = .setUleb128 || code = .subUleb128

/-- A fixup before the symbols have values. -/
structure TextFix where
  address : Nat
  rType : RelocCode
  code : rType.ofText = true
  symbol : Option String := none
  offset : Vma := 0
  tcbit : Bool := false
  sourceMacro : SourceMacro := .none
  deriving DecidableEq, Repr

/-- A frag of `rs_leb128`. -/
structure Uleb128 where
  address : Nat
  l1 : String
  l0 : String
  deriving DecidableEq, Repr

structure TextLabel where
  name : String
  address : Nat
  isLocal : Bool
  deriving DecidableEq, Repr

/-- The text section, up to the statement assembled last. -/
structure TextState where
  options : OptionState := {}
  size : Nat := 0
  /-- The power of two recorded by `record_alignment`. -/
  alignment : Nat := 0
  fixes : List TextFix := []
  labels : List TextLabel := []
  ulebs : List Uleb128 := []
  deriving DecidableEq, Repr

/-- What is fixed for a run: the parser of ISA strings, and the class of the object file. -/
structure AsOpts where
  rps : Rps
  xlen : Xlen
  deriving DecidableEq, Repr

/-- `TC_ALIGN_LIMIT`. -/
def alignLimit : Xlen → Nat
  | .rv32 => 31
  | .rv64 => 63

/-- `append_insn`.  The fixups of branches and jumps are made when their frags are converted, without `fx_tcbit`;
they are left out. -/
def appendInsn (st : TextState) (i : Insn) : TextState :=
  let fixes :=
    match i.fix with
    | none => st.fixes
    | some f =>
      if f.rType = .bfd12Pcrel ∨ f.rType = .jmp then st.fixes
      else st.fixes ++ [{ address := st.size, rType := f.rType, code := by simp [RelocCode.ofText, f.operand]
                          symbol := f.symbol, offset := f.offset, tcbit := st.options.opts.relax
                          sourceMacro := f.sourceMacro }]
  { st with fixes, size := st.size + i.length }

/-- `insn_alignment` of `riscv_frag_align_code`. -/
def insnAlignment (rvc : Bool) : Nat := if rvc then 2 else 4

/-- `worst_case_bytes` of `riscv_frag_align_code`. -/
def worstCaseBytes (n : Nat) (rvc : Bool) : Nat := 2 ^ n - insnAlignment rvc

/-- The fixup that `riscv_frag_align_code` makes. -/
def alignFix (address n : Nat) (rvc : Bool) : TextFix where
  address
  rType := .align
  code := rfl
  offset := BitVec.ofNat 64 (worstCaseBytes n rvc)

/-- `riscv_frag_align_code`; `none` leaves the alignment to the caller. -/
def riscvFragAlignCode (n : Nat) (st : TextState) : Option TextState :=
  let rvc := st.options.opts.rvc
  if 2 ^ n ≤ insnAlignment rvc then some st
  else if st.options.opts.relax = false then none
  else some { st with
    fixes := st.fixes ++ [alignFix st.size n rvc]
    size := st.size + worstCaseBytes n rvc }

/-- The bytes that `relax_segment` gives to an alignment frag. -/
def alignPad (address n max : Nat) : Nat :=
  let pad := (2 ^ n - address % 2 ^ n) % 2 ^ n
  if max ≠ 0 ∧ max < pad then 0 else pad

/-- `do_align`, in a text section. -/
def doAlign (n : Nat) (fill : Bool) (max : Nat) (st : TextState) : TextState :=
  let st :=
    match if n ≠ 0 ∧ fill = false then riscvFragAlignCode n st else none with
    | some st => st
    | none => { st with size := st.size + alignPad st.size n max }
  { st with alignment := Nat.max st.alignment n }

/-- One statement. -/
def assembleStmt (as : AsOpts) (st : TextState) : Stmt → TextState
  | .insn i => appendInsn st i
  | .label name isLocal => { st with labels := st.labels ++ [⟨name, st.size, isLocal⟩] }
  | .align n fill max => doAlign (Nat.min n (alignLimit as.xlen)) fill max st
  | .uleb128 length l1 l0 => { st with ulebs := st.ulebs ++ [⟨st.size, l1, l0⟩], size := st.size + length }
  | .option line => { st with options := sRiscvOption as.rps st.options line }

/-- A source file. -/
def assemble (as : AsOpts) (st : TextState) (prog : List Stmt) : TextState := prog.foldl (assembleStmt as) st

/-! ## Writing the object file -/

/-- The segments of the text section and of undefined symbols. -/
def textSeg : Nat := 1
def undefinedSeg : Nat := 0

/-- The address of a label; a second definition is an error and changes nothing. -/
def TextState.find (st : TextState) (name : String) : Option TextLabel := st.labels.find? (·.name = name)

/-- A symbol after layout. -/
def TextState.symbol (st : TextState) (name : String) : Symbol :=
  match st.find name with
  | some l => { value := BitVec.ofNat 64 l.address, seg := textSeg, isLocal := l.isLocal }
  | none => { value := 0, seg := undefinedSeg, isLocal := false }

def TextState.fixCall (st : TextState) (f : TextFix) : FixCall where
  fix :=
    { address := BitVec.ofNat 64 f.address, rType := f.rType, addsy := f.symbol.map st.symbol, offset := f.offset
      tcbit := f.tcbit, sourceMacro := f.sourceMacro }

/-- `riscv_insert_uleb128_fixes`. -/
def TextState.insertUleb128Fixes (st : TextState) : List FixCall :=
  st.ulebs.flatMap fun u =>
    [{ fix := {
        address := BitVec.ofNat 64 u.address, size := 0, rType := .setUleb128
        addsy := some (st.symbol u.l1) } },
     { fix := {
        address := BitVec.ofNat 64 u.address, size := 0, rType := .subUleb128
        addsy := some (st.symbol u.l0) } }]

/-- The fixups after `riscv_md_finish`. -/
def TextState.calls (st : TextState) : List FixCall :=
  st.fixes.map st.fixCall ++ if st.options.opts.relax then st.insertUleb128Fixes else []

/-- `fixup_segment` on the section, with the options in force at the end of the file. -/
def TextState.fixed (st : TextState) (contents : List Byte) : FixState × List (Fix × Option Fix) :=
  fixupSegment { relax := st.options.opts.relax } textSeg st.calls { contents }

/-- `riscv_reloc_type_lookup`. -/
def RelocCode.type : RelocCode → Option RelocType
  | .hi20 => some .hi20
  | .lo12I => some .lo12I
  | .lo12S => some .lo12S
  | .gotHi20 => some .gotHi20
  | .add8 => some .add8
  | .add16 => some .add16
  | .add32 => some .add32
  | .add64 => some .add64
  | .sub6 => some .sub6
  | .sub8 => some .sub8
  | .sub16 => some .sub16
  | .sub32 => some .sub32
  | .sub64 => some .sub64
  | .set6 => some .set6
  | .set8 => some .set8
  | .set16 => some .set16
  | .set32 => some .set32
  | .pcrel32 => some .pcrel32
  | .relax => some .relax
  | .setUleb128 => some .setUleb128
  | .subUleb128 => some .subUleb128
  | .tprelHi20 => some .tprelHi20
  | .tprelLo12I => some .tprelLo12I
  | .tprelLo12S => some .tprelLo12S
  | .tprelAdd => some .tprelAdd
  | .tlsGotHi20 => some .tlsGotHi20
  | .tlsGdHi20 => some .tlsGdHi20
  | .tlsDtprel32 => some .tlsDtprel32
  | .tlsDtprel64 => some .tlsDtprel64
  | .bfd32 => some .r32
  | .bfd64 => some .r64
  | .jmp => some .jal
  | .bfd12Pcrel => some .branch
  | .rvcBranch => some .rvcBranch
  | .rvcJump => some .rvcJump
  | .call => some .call
  | .callPlt => some .callPlt
  | .pcrelHi20 => some .pcrelHi20
  | .pcrelLo12I => some .pcrelLo12I
  | .pcrelLo12S => some .pcrelLo12S
  | .align => some .align
  | .bfd8 | .bfd16 | .cfa | .rva | .generic => none

/-- `tc_gen_reloc`; `symIndex` numbers the symbols of the object file, and zero is the one for no symbol. -/
def tcGenReloc (symIndex : Symbol → Nat) (fix : Fix) : Option Rela :=
  if fix.done then none
  else fix.rType.type.map fun type =>
    { offset := fix.address, sym := (fix.addsy.map symIndex).getD 0, type, addend := fix.addnumber }

/-- The relocations of the section. -/
def TextState.relocs (st : TextState) (symIndex : Symbol → Nat) (contents : List Byte) : List Rela :=
  (st.fixed contents).2.flatMap fun r =>
    (tcGenReloc symIndex r.1).toList ++ (r.2.bind (tcGenReloc symIndex)).toList

/-! ## What becomes of the fixups -/

/-- A round of `fixup_segment` in a text section: the fixup is marked or not, and has an `R_RISCV_RELAX` behind it,
marked as it is, when it is relaxable, `fx_tcbit` is set and there is a symbol. -/
structure TextRound (c : FixCall) (r : Fix × Option Fix) : Prop where
  fix : ∃ done, r.1 = { c.fix with addnumber := c.val, done }
  next : ∀ n, r.2 = some n → n.rType = .relax ∧ n.done = r.1.done
  relax : r.2.isSome = true ↔ c.fix.relaxable = true ∧ c.fix.tcbit = true ∧ c.fix.addsy.isSome = true

section Rounds

variable {opts : FixOpts} {seg : Nat} {fst : FixState} {fix : Fix} {val : Vma} {c : FixCall}

theorem tentative_fix {k : Nat} {encode : Vma → Vma} : (tentative fst fix val k encode).fix = fix ∧
    (tentative fst fix val k encode).next = none := by
  unfold tentative
  split <;> exact ⟨rfl, rfl⟩

theorem applyPcrelHi20_fix : (∃ done, (applyPcrelHi20 opts seg fst fix val).fix = { fix with done }) ∧
    (applyPcrelHi20 opts seg fst fix val).next = none := by
  unfold applyPcrelHi20
  split
  · exact ⟨⟨fix.done, rfl⟩, rfl⟩
  · split
    · dsimp only
      split
      · exact ⟨⟨fix.done, rfl⟩, rfl⟩
      · exact ⟨⟨true, rfl⟩, rfl⟩
    · exact ⟨⟨fix.done, rfl⟩, rfl⟩

theorem applyPcrelLo12_fix : (∃ done, (applyPcrelLo12 opts seg fst fix val).fix = { fix with done }) ∧
    (applyPcrelLo12 opts seg fst fix val).next = none := by
  unfold applyPcrelLo12
  split
  · exact ⟨⟨fix.done, rfl⟩, rfl⟩
  · split
    · exact ⟨⟨fix.done, rfl⟩, rfl⟩
    · split
      · dsimp only
        split
        · exact ⟨⟨fix.done, rfl⟩, rfl⟩
        · exact ⟨⟨true, rfl⟩, rfl⟩
      · exact ⟨⟨fix.done, rfl⟩, rfl⟩

/-- The switch only marks a fixup of a text section. -/
theorem applySwitch_text (h : fix.rType.inText = true) :
    (∃ done, (applySwitch opts seg fst fix val).fix = { fix with done }) ∧
      (applySwitch opts seg fst fix val).next = none := by
  have hconst {fst' : FixState} : (∃ done,
      ({ st := fst', fix := if fix.addsy.isNone then { fix with done := true } else fix } :
      FixResult).fix = { fix with done }) := by
    dsimp only
    split
    · exact ⟨true, rfl⟩
    · exact ⟨fix.done, rfl⟩
  have htent {k : Nat} {encode : Vma → Vma} : (∃ done, (tentative fst fix val k encode).fix = { fix with done }) ∧
      (tentative fst fix val k encode).next = none := by
    rw [tentative_fix.1, tentative_fix.2]
    exact ⟨⟨fix.done, rfl⟩, rfl⟩
  unfold applySwitch
  split
  all_goals first
    | exact ⟨hconst, rfl⟩
    | exact htent
    | exact applyPcrelHi20_fix
    | exact applyPcrelLo12_fix
    | exact ⟨⟨fix.done, rfl⟩, rfl⟩
    | (rename_i hcode; exact absurd h (by rw [hcode]; decide))

theorem mdApplyFix_text (hcode : fix.rType.inText = true) :
    (∃ done, (mdApplyFix opts seg fst fix val).fix = { fix with addnumber := val, done }) ∧
      (mdApplyFix opts seg fst fix val).next =
        if fix.relaxable ∧ fix.tcbit ∧ fix.addsy.isSome then some (relaxFix (mdApplyFix opts seg fst fix val).fix)
        else none := by
  obtain ⟨⟨done, hfix⟩, hnext⟩ := @applySwitch_text opts seg fst { fix with addnumber := val } val hcode
  unfold mdApplyFix
  dsimp only
  rw [hfix]
  dsimp only
  by_cases hrelax : fix.relaxable ∧ fix.tcbit ∧ fix.addsy.isSome
  · rw [if_pos hrelax, if_pos hrelax]
    exact ⟨⟨done, rfl⟩, rfl⟩
  · rw [if_neg hrelax, if_neg hrelax]
    exact ⟨⟨done, rfl⟩, hnext⟩

theorem fixupRound_text (hnew : c.fix.done = false) (hcode : c.fix.rType.inText = true) :
    TextRound c (fixupRound opts seg fst c).2 := by
  obtain ⟨hfix, hnext⟩ := @mdApplyFix_text opts seg fst c.fix c.val hcode
  unfold fixupRound
  rw [if_neg (by simp [hnew])]
  dsimp only
  by_cases hrelax : c.fix.relaxable ∧ c.fix.tcbit ∧ c.fix.addsy.isSome
  · rw [if_pos hrelax] at hnext
    rw [hnext]
    dsimp only
    split
    · refine ⟨hfix, ?_, iff_of_true rfl hrelax⟩
      intro n hn
      cases hn
      exact ⟨rfl, rfl⟩
    · -- the relocation is applied too, which does nothing
      refine ⟨hfix, ?_, iff_of_true rfl hrelax⟩
      intro n hn
      cases hn
      generalize (mdApplyFix opts seg fst c.fix c.val).fix = fix
      generalize (mdApplyFix opts seg fst c.fix c.val).st = fst'
      have hfollows : (relaxFix fix).rType.follows = true := rfl
      have hswitch : applySwitch opts seg fst' { relaxFix fix with addnumber := (relaxFix fix).offset }
          (relaxFix fix).offset = { st := fst', fix := { relaxFix fix with addnumber := (relaxFix fix).offset } } :=
        applySwitch_of_follows hfollows
      unfold mdApplyFix
      dsimp only
      rw [hswitch, if_neg (by simp [Fix.relaxable, relaxFix])]
      exact ⟨rfl, rfl⟩
  · rw [if_neg hrelax] at hnext
    rw [hnext]
    refine ⟨hfix, ?_, iff_of_false (by simp) hrelax⟩
    intro n hn
    cases hn

end Rounds

section Calls

variable {st : TextState} {contents : List Byte} {c : FixCall}

theorem TextState.call_cases (hc : c ∈ st.calls) :
    (∃ f ∈ st.fixes, c = st.fixCall f) ∨
      (st.options.opts.relax = true ∧ c.fix.done = false ∧
      (c.fix.rType = .setUleb128 ∨ c.fix.rType = .subUleb128)) := by
  rcases List.mem_append.mp hc with hc | hc
  · obtain ⟨f, hf, rfl⟩ := List.mem_map.mp hc
    exact .inl ⟨f, hf, rfl⟩
  · split at hc
    · rename_i hrelax
      obtain ⟨u, -, hu⟩ := List.mem_flatMap.mp hc
      rcases List.mem_cons.mp hu with rfl | hu
      · exact .inr ⟨hrelax, rfl, .inl rfl⟩
      · rw [List.mem_singleton.mp hu]
        exact .inr ⟨hrelax, rfl, .inr rfl⟩
    · cases hc

theorem TextState.call_new (hc : c ∈ st.calls) : c.fix.done = false ∧ c.fix.rType.inText = true := by
  rcases st.call_cases hc with ⟨f, -, rfl⟩ | ⟨-, hnew, hcode | hcode⟩
  · exact ⟨rfl, show f.rType.inText = true by simp [RelocCode.inText, f.code]⟩
  · exact ⟨hnew, by rw [hcode]; rfl⟩
  · exact ⟨hnew, by rw [hcode]; rfl⟩

/-- The result for a fixup. -/
theorem TextState.fixed_getElem? {j : Nat} (hc : st.calls[j]? = some c) (contents : List Byte) :
    ∃ r, (st.fixed contents).2[j]? = some r ∧ TextRound c r := by
  obtain ⟨hnew, hcode⟩ := st.call_new (List.mem_of_getElem? hc)
  exact ⟨_, fixupSegment_getElem? _ _ hc _, fixupRound_text hnew hcode⟩

theorem TextState.mem_fixed {r : Fix × Option Fix} (hr : r ∈ (st.fixed contents).2) :
    ∃ c ∈ st.calls, TextRound c r := by
  obtain ⟨j, hj⟩ := List.mem_iff_getElem?.mp hr
  have hlt : j < st.calls.length := by
    have h := (List.getElem?_eq_some_iff.mp hj).1
    rwa [TextState.fixed, fixupSegment_length] at h
  obtain ⟨r', hr', hround⟩ := TextState.fixed_getElem? (List.getElem?_eq_getElem hlt) contents
  rw [hj] at hr'
  cases hr'
  exact ⟨_, List.getElem_mem hlt, hround⟩

end Calls

end RiscvBinutils.Gas
