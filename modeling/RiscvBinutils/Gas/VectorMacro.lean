/-
The macros `vmsge.vx` and `vmsgeu.vx` (gas/config/tc-riscv.c, `riscv_ip`, `macro_build` and `vector_macro`):
"at least" is made of "less than" and of operations on masks.
With a mask and a temporary the macro needs the temporary while the destination is still read, and nothing asks for
the two to differ.
-/
import RiscvBinutils.Machine.Vector
import RiscvBinutils.Opcode.Operand
import RiscvBinutils.Opcode.Table

namespace RiscvBinutils.Gas

open RiscvBinutils.Opcode RiscvBinutils.Machine

/-! ## Operands -/

/-- What `reg_lookup` and the comparison with a comma find at `asarg`; the only register of class
`RCLASS_VECM` is `v0.t`. -/
inductive AsmToken
  | comma
  | gpr (regno : Reg)
  | vecr (regno : Reg)
  | vecm
  deriving DecidableEq, Repr

/-- The loop of `riscv_ip` over `oparg`, for the letters in the macros of the vector extension. -/
@[simp]
def riscvIpArgs : List Char → List AsmToken → Opcode.Insn → Option Opcode.Insn
  | [], [], insn => some insn
  | ',' :: oparg, .comma :: asarg, insn => riscvIpArgs oparg asarg insn
  | 's' :: oparg, .gpr regno :: asarg, insn =>
    riscvIpArgs oparg asarg (OperandField.rs1.insert insn (regno.setWidth 64))
  | 'V' :: 'd' :: oparg, .vecr regno :: asarg, insn =>
    riscvIpArgs oparg asarg (OperandField.vd.insert insn (regno.setWidth 64))
  | 'V' :: 't' :: oparg, .vecr regno :: asarg, insn =>
    riscvIpArgs oparg asarg (OperandField.vs2.insert insn (regno.setWidth 64))
  | 'V' :: 'm' :: oparg, [], insn => riscvIpArgs oparg [] (OperandField.vmask.insert insn 1)
  | 'V' :: 'm' :: oparg, .comma :: .vecm :: asarg, insn =>
    riscvIpArgs oparg asarg (OperandField.vmask.insert insn 0)
  | 'V' :: 'M' :: oparg, .vecm :: asarg, insn => riscvIpArgs oparg asarg (OperandField.vmask.insert insn 0)
  | 'V' :: 'T' :: oparg, .vecr regno :: asarg, insn =>
    if regno = 0 then none else riscvIpArgs oparg asarg (OperandField.vfunct6.insert insn (regno.setWidth 64))
  | _, _, _ => none

/-- `str_hash_find` in `op_hash`, and the rows after the one found. -/
def rowsFrom (name : String) : List RiscvOpcodeRow := riscvOpcodes.dropWhile fun op => op.name ≠ name

/-- `riscv_ip`, for a macro: the first row that takes the operands. -/
def riscvIp (xlen : Nat) (supports : InsnClass → Bool) (name : String) (asarg : List AsmToken) :
    Option (RiscvOpcodeRow × Opcode.Insn) :=
  ((rowsFrom name).takeWhile fun op => op.name = name).findSome? fun op =>
    if op.xlenRequirement ≠ 0 ∧ xlen ≠ op.xlenRequirement then none
    else if supports op.insnClass then (riscvIpArgs op.args.toList asarg op.matchBits).map fun insn => (op, insn)
    else none

/-! ## Macros -/

/-- The loop of `macro_build` over `fmt`, without an expression; an `int` is extended with its sign. -/
def macroBuildArgs : List Char → List Opcode.Insn → Opcode.Insn → Option Opcode.Insn
  | [], _, insn => some insn
  | ',' :: fmt, args, insn => macroBuildArgs fmt args insn
  | 'V' :: 'd' :: fmt, reg :: args, insn => macroBuildArgs fmt args (OperandField.vd.insert insn reg)
  | 'V' :: 's' :: fmt, reg :: args, insn => macroBuildArgs fmt args (OperandField.vs1.insert insn reg)
  | 'V' :: 't' :: fmt, reg :: args, insn => macroBuildArgs fmt args (OperandField.vs2.insert insn reg)
  | 'V' :: 'm' :: fmt, reg :: args, insn =>
    if reg = -1#64 then macroBuildArgs fmt args (OperandField.vmask.insert insn 1)
    else if reg = 0 then macroBuildArgs fmt args (OperandField.vmask.insert insn 0)
    else none
  | 'd' :: fmt, reg :: args, insn => macroBuildArgs fmt args (OperandField.rd.insert insn reg)
  | 's' :: fmt, reg :: args, insn => macroBuildArgs fmt args (OperandField.rs1.insert insn reg)
  | 't' :: fmt, reg :: args, insn => macroBuildArgs fmt args (OperandField.rs2.insert insn reg)
  | _, _, _ => none

/-- `macro_build`; a failed assertion is `none`. -/
def macroBuild (name fmt : String) (args : List Opcode.Insn) : Option Opcode.Insn :=
  match ((rowsFrom name).dropWhile fun op => riscvInsnLength op.matchBits < 4).head? with
  | some mo => if name = mo.name then macroBuildArgs fmt.toList args mo.matchBits else none
  | none => none

/-- `M_VMSGE`. -/
def mVmsge : Opcode.Insn := 0xe

/-- `vector_macro`, to the words it emits; `none` is an error. -/
def vectorMacro (mo : RiscvOpcodeRow) (insn : Opcode.Insn) : Option (List Opcode.Insn) :=
  let vd := OperandField.vd.extract insn
  let vs1 := OperandField.vs1.extract insn
  let vs2 := OperandField.vs2.extract insn
  let vm := OperandField.vmask.extract insn
  let vtemp := OperandField.vfunct6.extract insn
  let vmsltVx := if mo.matchBits ≠ 0 then "vmsltu.vx" else "vmslt.vx"
  if mo.mask = mVmsge then
    if vm ≠ 0 then
      [macroBuild vmsltVx "Vd,Vt,sVm" [vd, vs2, vs1, -1#64], macroBuild "vmnand.mm" "Vd,Vt,Vs" [vd, vd, vd]].mapM id
    else if vtemp ≠ 0 then
      if vd = vm then
        [macroBuild vmsltVx "Vd,Vt,sVm" [vtemp, vs2, vs1, -1#64],
          macroBuild "vmandnot.mm" "Vd,Vt,Vs" [vd, vm, vtemp]].mapM id
      else
        -- the destination keeps its own elements where the mask is clear
        [macroBuild vmsltVx "Vd,Vt,sVm" [vtemp, vs2, vs1, -1#64],
          macroBuild "vmandnot.mm" "Vd,Vt,Vs" [vtemp, vm, vtemp],
          macroBuild "vmandnot.mm" "Vd,Vt,Vs" [vd, vd, vm],
          macroBuild "vmor.mm" "Vd,Vt,Vs" [vd, vtemp, vd]].mapM id
    else if vd ≠ vm then
      [macroBuild vmsltVx "Vd,Vt,sVm" [vd, vs2, vs1, vm], macroBuild "vmxor.mm" "Vd,Vt,Vs" [vd, vd, vm]].mapM id
    else none
  else some []

/-- A line with a vector macro, to the words it emits. -/
def assembleVectorMacro (xlen : Nat) (supports : InsnClass → Bool) (name : String) (asarg : List AsmToken) :
    Option (List Opcode.Insn) :=
  (riscvIp xlen supports name asarg).bind fun ip => vectorMacro ip.1 ip.2

/-! ## Operands of the two macros -/

inductive VmsgeForm
  /-- `vd, va, x` -/
  | plain
  /-- `vd, va, x, v0.t` -/
  | masked
  /-- `vd, va, x, v0.t, vtemp` -/
  | withTemp (vtemp : Reg)
  deriving DecidableEq, Repr

structure VmsgeOperands where
  vd : Reg
  va : Reg
  x : Reg
  form : VmsgeForm
  deriving DecidableEq, Repr

namespace VmsgeOperands

def written (o : VmsgeOperands) : List AsmToken :=
  [.vecr o.vd, .comma, .vecr o.va, .comma, .gpr o.x] ++
    match o.form with
    | .plain => []
    | .masked => [.comma, .vecm]
    | .withTemp vtemp => [.comma, .vecm, .comma, .vecr vtemp]

/-- The operands, where `riscv_ip` leaves them for `vector_macro`. -/
structure StoredIn (o : VmsgeOperands) (insn : Opcode.Insn) : Prop where
  vd : OperandField.vd.extract insn = o.vd.setWidth 64
  vs1 : OperandField.vs1.extract insn = o.x.setWidth 64
  vs2 : OperandField.vs2.extract insn = o.va.setWidth 64
  vmask : OperandField.vmask.extract insn = if o.form = .plain then 1 else 0
  plain : o.form = .plain ∨ o.form = .masked → OperandField.vfunct6.extract insn = 0
  withTemp : ∀ vtemp, o.form = .withTemp vtemp →
    vtemp ≠ 0 ∧ OperandField.vfunct6.extract insn = vtemp.setWidth 64

end VmsgeOperands

section Args

variable {oparg : List Char} {asarg : List AsmToken} {insn word : Opcode.Insn}

theorem riscvIpArgs_nil : riscvIpArgs [] asarg insn = some word ↔ asarg = [] ∧ insn = word := by
  cases asarg with
  | nil => simp [riscvIpArgs]
  | cons tok rest => cases tok <;> simp [riscvIpArgs]

theorem riscvIpArgs_comma : riscvIpArgs (',' :: oparg) asarg insn = some word ↔
    ∃ rest, asarg = .comma :: rest ∧ riscvIpArgs oparg rest insn = some word := by
  cases asarg with
  | nil => simp [riscvIpArgs]
  | cons tok rest => cases tok <;> simp [riscvIpArgs]

theorem riscvIpArgs_s : riscvIpArgs ('s' :: oparg) asarg insn = some word ↔
    ∃ regno rest, asarg = .gpr regno :: rest ∧
      riscvIpArgs oparg rest (OperandField.rs1.insert insn (regno.setWidth 64)) = some word := by
  cases asarg with
  | nil => simp [riscvIpArgs]
  | cons tok rest => cases tok <;> simp [riscvIpArgs]

theorem riscvIpArgs_Vd : riscvIpArgs ('V' :: 'd' :: oparg) asarg insn = some word ↔
    ∃ regno rest, asarg = .vecr regno :: rest ∧
      riscvIpArgs oparg rest (OperandField.vd.insert insn (regno.setWidth 64)) = some word := by
  cases asarg with
  | nil => simp [riscvIpArgs]
  | cons tok rest => cases tok <;> simp [riscvIpArgs]

theorem riscvIpArgs_Vt : riscvIpArgs ('V' :: 't' :: oparg) asarg insn = some word ↔
    ∃ regno rest, asarg = .vecr regno :: rest ∧
      riscvIpArgs oparg rest (OperandField.vs2.insert insn (regno.setWidth 64)) = some word := by
  cases asarg with
  | nil => simp [riscvIpArgs]
  | cons tok rest => cases tok <;> simp [riscvIpArgs]

theorem riscvIpArgs_VM : riscvIpArgs ('V' :: 'M' :: oparg) asarg insn = some word ↔
    ∃ rest, asarg = .vecm :: rest ∧ riscvIpArgs oparg rest (OperandField.vmask.insert insn 0) = some word := by
  cases asarg with
  | nil => simp [riscvIpArgs]
  | cons tok rest => cases tok <;> simp [riscvIpArgs]

theorem riscvIpArgs_VT : riscvIpArgs ('V' :: 'T' :: oparg) asarg insn = some word ↔
    ∃ regno rest, asarg = .vecr regno :: rest ∧ regno ≠ 0 ∧
      riscvIpArgs oparg rest (OperandField.vfunct6.insert insn (regno.setWidth 64)) = some word := by
  cases asarg with
  | nil => simp [riscvIpArgs]
  | cons tok rest => cases tok <;> simp [riscvIpArgs]

/-- A mask that may be left out. -/
theorem riscvIpArgs_Vm : riscvIpArgs ('V' :: 'm' :: oparg) asarg insn = some word ↔
    (asarg = [] ∧ riscvIpArgs oparg [] (OperandField.vmask.insert insn 1) = some word) ∨
      ∃ rest, asarg = .comma :: .vecm :: rest ∧
        riscvIpArgs oparg rest (OperandField.vmask.insert insn 0) = some word := by
  rcases asarg with - | ⟨tok, rest⟩
  · simp [riscvIpArgs]
  · rcases rest with - | ⟨tok', rest⟩
    · cases tok <;> simp [riscvIpArgs]
    · cases tok <;> cases tok' <;> simp [riscvIpArgs]

end Args

/-! ## Which operands the macros take -/

def vmsgeName (unsigned : Bool) : String := if unsigned then "vmsgeu.vx" else "vmsge.vx"

/-- The rows of a macro; `match` tells the two apart. -/
def vmsgeRow (unsigned : Bool) (args : String) : RiscvOpcodeRow :=
  ⟨vmsgeName unsigned, 0, .v, args, if unsigned then 1 else 0, mVmsge, .null, insnMacro⟩

def vmsltName (unsigned : Bool) : String := if unsigned then "vmsltu.vx" else "vmslt.vx"

/-- The words that `macro_build` finds for the operations on masks. -/
def maskOpName : MaskOp → Option (String × Opcode.Insn)
  | .nand => some ("vmnand.mm", 0x76002057)
  | .andn => some ("vmandnot.mm", 0x62002057)
  | .xor => some ("vmxor.mm", 0x6e002057)
  | .or => some ("vmor.mm", 0x6a002057)
  | _ => none

/-- What the macros and `macro_build` find in the table. -/
theorem rows_found :
    (∀ unsigned ∈ [false, true],
      (rowsFrom (vmsgeName unsigned)).takeWhile (fun op => op.name = vmsgeName unsigned) =
          [vmsgeRow unsigned "Vd,Vt,sVm", vmsgeRow unsigned "Vd,Vt,s,VM,VT"] ∧
        (((rowsFrom (vmsltName unsigned)).dropWhile fun op => riscvInsnLength op.matchBits < 4).head?.map
          fun op => (op.name, op.matchBits)) =
          some (vmsltName unsigned, if unsigned then 0x68004057#64 else 0x6c004057#64)) ∧
      (∀ entry ∈ [MaskOp.nand, .andn, .xor, .or].filterMap maskOpName,
        (((rowsFrom entry.1).dropWhile fun op => riscvInsnLength op.matchBits < 4).head?.map
          fun op => (op.name, op.matchBits)) = some entry) ∧
      assembleVectorMacro 64 (fun _ => true) "vmsge.vx" (VmsgeOperands.written ⟨4, 8, 10, .withTemp 5⟩) =
        some [0x6e8542d7#64, 0x6202a2d7#64, 0x62402257#64, 0x6a522257#64] ∧
      assembleVectorMacro 64 (fun _ => true) "vmsge.vx" (VmsgeOperands.written ⟨4, 8, 10, .withTemp 4⟩) =
        some [0x6e854257#64, 0x62022257#64, 0x62402257#64, 0x6a422257#64] := by
  -- in one go, since most of the work is to take the names of the rows apart
  decide +kernel

theorem rowsFrom_vmsge (unsigned : Bool) :
    (rowsFrom (vmsgeName unsigned)).takeWhile (fun op => op.name = vmsgeName unsigned) =
      [vmsgeRow unsigned "Vd,Vt,sVm", vmsgeRow unsigned "Vd,Vt,s,VM,VT"] :=
  (rows_found.1 unsigned (by cases unsigned <;> decide)).1

section Rows

variable {xlen : Nat} {supports : InsnClass → Bool} {unsigned : Bool} {asarg : List AsmToken} {insn word : Opcode.Insn}

/-- The operands that both rows begin with. -/
def insertOperands (vd va x : Reg) (insn : Opcode.Insn) : Opcode.Insn :=
  OperandField.rs1.insert (OperandField.vs2.insert (OperandField.vd.insert insn (vd.setWidth 64)) (va.setWidth 64))
    (x.setWidth 64)

theorem riscvIpArgs_operands {oparg : List Char}
    (h : riscvIpArgs ('V' :: 'd' :: ',' :: 'V' :: 't' :: ',' :: 's' :: oparg) asarg insn = some word) :
    ∃ vd va x rest, asarg = [.vecr vd, .comma, .vecr va, .comma, .gpr x] ++ rest ∧
      riscvIpArgs oparg rest (insertOperands vd va x insn) = some word := by
  obtain ⟨vd, toks₁, hd, h⟩ := riscvIpArgs_Vd.mp h
  obtain ⟨toks₂, hc, h⟩ := riscvIpArgs_comma.mp h
  obtain ⟨va, toks₃, ha, h⟩ := riscvIpArgs_Vt.mp h
  obtain ⟨toks₄, hc', h⟩ := riscvIpArgs_comma.mp h
  obtain ⟨x, rest, hx, h⟩ := riscvIpArgs_s.mp h
  subst hx hc' ha hc hd
  exact ⟨vd, va, x, rest, rfl, h⟩

section Stored

variable (vd va x : Reg) (insn : Opcode.Insn)

theorem insertOperands_vd : OperandField.vd.extract (insertOperands vd va x insn) = vd.setWidth 64 := by
  unfold insertOperands
  rw [OperandField.extract_insert_apart _ _ (by decide), OperandField.extract_insert_apart _ _ (by decide),
    OperandField.extract_insert_same _ _ _ (by decide)]

theorem insertOperands_vs1 : OperandField.vs1.extract (insertOperands vd va x insn) = x.setWidth 64 := by
  unfold insertOperands
  exact OperandField.extract_insert_same _ _ _ (by decide)

theorem insertOperands_vs2 : OperandField.vs2.extract (insertOperands vd va x insn) = va.setWidth 64 := by
  unfold insertOperands
  rw [OperandField.extract_insert_apart _ _ (by decide), OperandField.extract_insert_same _ _ _ (by decide)]

theorem insertOperands_vfunct6 :
    OperandField.vfunct6.extract (insertOperands vd va x insn) = OperandField.vfunct6.extract insn := by
  unfold insertOperands
  rw [OperandField.extract_insert_apart _ _ (by decide), OperandField.extract_insert_apart _ _ (by decide),
    OperandField.extract_insert_apart _ _ (by decide)]

/-- What is inserted after the operands leaves them. -/
theorem insertOperands_insert {f : OperandField} (hf : 25 ≤ f.shift) (value : Opcode.Insn) :
    OperandField.vd.extract (f.insert insn value) = OperandField.vd.extract insn ∧
      OperandField.vs1.extract (f.insert insn value) = OperandField.vs1.extract insn ∧
        OperandField.vs2.extract (f.insert insn value) = OperandField.vs2.extract insn := by
  have hvd : OperandField.vd.shift + OperandField.vd.width ≤ 25 := by decide
  have hvs1 : OperandField.vs1.shift + OperandField.vs1.width ≤ 25 := by decide
  have hvs2 : OperandField.vs2.shift + OperandField.vs2.width ≤ 25 := by decide
  exact ⟨OperandField.extract_insert_apart _ _ (.inl (le_trans hvd hf)),
    OperandField.extract_insert_apart _ _ (.inl (le_trans hvs1 hf)),
    OperandField.extract_insert_apart _ _ (.inl (le_trans hvs2 hf))⟩

end Stored

theorem extract_insert_bit (insn : Opcode.Insn) (b : BitVec 1) :
    OperandField.vmask.extract (OperandField.vmask.insert insn (b.setWidth 64)) = b.setWidth 64 :=
  OperandField.extract_insert_same _ _ _ (by decide)

/-- The row without a temporary. -/
theorem riscvIpArgs_sVm (h : riscvIpArgs ['V', 'd', ',', 'V', 't', ',', 's', 'V', 'm'] asarg insn = some word)
    (hinsn : OperandField.vfunct6.extract insn = 0) :
    ∃ o : VmsgeOperands, asarg = o.written ∧ o.StoredIn word := by
  obtain ⟨vd, va, x, rest, hasarg, h⟩ := riscvIpArgs_operands h
  have hfunct6 (value : Opcode.Insn) : OperandField.vfunct6.extract
      (OperandField.vmask.insert (insertOperands vd va x insn) value) = 0 := by
    rw [OperandField.extract_insert_apart _ _ (by decide), insertOperands_vfunct6, hinsn]
  have hoperands (value : Opcode.Insn) :=
    insertOperands_insert (insertOperands vd va x insn) (by decide : 25 ≤ OperandField.vmask.shift) value
  rw [insertOperands_vd, insertOperands_vs1, insertOperands_vs2] at hoperands
  rcases riscvIpArgs_Vm.mp h with ⟨hrest, h⟩ | ⟨rest', hrest, h⟩
  · obtain ⟨-, rfl⟩ := riscvIpArgs_nil.mp h
    obtain ⟨hvd, hvs1, hvs2⟩ := hoperands 1
    refine ⟨⟨vd, va, x, .plain⟩, by rw [hasarg, hrest]; rfl, hvd, hvs1, hvs2, ?_, fun _ => hfunct6 1, ?_⟩
    · exact extract_insert_bit _ 1
    · rintro vtemp ⟨⟩
  · obtain ⟨rfl, rfl⟩ := riscvIpArgs_nil.mp h
    obtain ⟨hvd, hvs1, hvs2⟩ := hoperands 0
    refine ⟨⟨vd, va, x, .masked⟩, by rw [hasarg, hrest]; rfl, hvd, hvs1, hvs2, ?_, fun _ => hfunct6 0, ?_⟩
    · exact extract_insert_bit _ 0
    · rintro vtemp ⟨⟩

/-- The row with a temporary. -/
theorem riscvIpArgs_VMVT
    (h : riscvIpArgs ['V', 'd', ',', 'V', 't', ',', 's', ',', 'V', 'M', ',', 'V', 'T'] asarg insn = some word) :
    ∃ o : VmsgeOperands, asarg = o.written ∧ o.StoredIn word := by
  obtain ⟨vd, va, x, rest, hasarg, h⟩ := riscvIpArgs_operands h
  obtain ⟨toks₁, hc, h⟩ := riscvIpArgs_comma.mp h
  obtain ⟨toks₂, hm, h⟩ := riscvIpArgs_VM.mp h
  obtain ⟨toks₃, hc', h⟩ := riscvIpArgs_comma.mp h
  obtain ⟨vtemp, toks₄, ht, hzero, h⟩ := riscvIpArgs_VT.mp h
  obtain ⟨rfl, rfl⟩ := riscvIpArgs_nil.mp h
  subst ht hc' hm hc
  obtain ⟨hvd, hvs1, hvs2⟩ :=
    insertOperands_insert (insertOperands vd va x insn) (by decide : 25 ≤ OperandField.vmask.shift) 0
  rw [insertOperands_vd] at hvd
  rw [insertOperands_vs1] at hvs1
  rw [insertOperands_vs2] at hvs2
  obtain ⟨hvd', hvs1', hvs2'⟩ := insertOperands_insert (OperandField.vmask.insert (insertOperands vd va x insn) 0)
    (by decide : 25 ≤ OperandField.vfunct6.shift) (vtemp.setWidth 64)
  refine ⟨⟨vd, va, x, .withTemp vtemp⟩, hasarg, hvd'.trans hvd, hvs1'.trans hvs1, hvs2'.trans hvs2, ?_, ?_, ?_⟩
  · rw [OperandField.extract_insert_apart _ _ (by decide)]
    exact extract_insert_bit _ 0
  · intro hform
    rcases hform with hform | hform
    · cases hform
    · cases hform
  · rintro vtemp' ⟨⟩
    exact ⟨hzero, OperandField.extract_insert_same _ _ _ (by decide)⟩

/-- What `riscv_ip` leaves for `vector_macro`. -/
theorem riscvIp_vmsge {mo : RiscvOpcodeRow} (h : riscvIp xlen supports (vmsgeName unsigned) asarg = some (mo, word)) :
    (∃ args, mo = vmsgeRow unsigned args) ∧ ∃ o : VmsgeOperands, asarg = o.written ∧ o.StoredIn word := by
  unfold riscvIp at h
  rw [rowsFrom_vmsge] at h
  obtain ⟨row, hrow, h⟩ := List.exists_of_findSome?_eq_some h
  have hargs (args : String) (hmo : row = vmsgeRow unsigned args) :
      mo = row ∧ riscvIpArgs args.toList asarg (if unsigned then 1 else 0) = some word := by
    subst hmo
    rw [if_neg (fun hne => hne.1 rfl)] at h
    split at h
    · obtain ⟨w, hw, heq⟩ := Option.map_eq_some_iff.mp h
      cases heq
      exact ⟨rfl, hw⟩
    · cases h
  rw [List.mem_cons, List.mem_singleton] at hrow
  rcases hrow with hrow | hrow
  · have hchars : "Vd,Vt,sVm".toList = ['V', 'd', ',', 'V', 't', ',', 's', 'V', 'm'] := by decide
    obtain ⟨hmo, hargs⟩ := hargs _ hrow
    rw [hchars] at hargs
    refine ⟨⟨_, hmo.trans hrow⟩, riscvIpArgs_sVm hargs ?_⟩
    cases unsigned <;> decide
  · have hchars : "Vd,Vt,s,VM,VT".toList = ['V', 'd', ',', 'V', 't', ',', 's', ',', 'V', 'M', ',', 'V', 'T'] := by
      decide
    obtain ⟨hmo, hargs⟩ := hargs _ hrow
    rw [hchars] at hargs
    exact ⟨⟨_, hmo.trans hrow⟩, riscvIpArgs_VMVT hargs⟩

end Rows

/-! ## What is emitted -/

section Emit

variable {name fmt : String} {args : List Opcode.Insn}

theorem macroBuild_eq {word : Opcode.Insn}
    (h : (((rowsFrom name).dropWhile fun op => riscvInsnLength op.matchBits < 4).head?.map
      fun op => (op.name, op.matchBits)) = some (name, word)) :
    macroBuild name fmt args = macroBuildArgs fmt.toList args word := by
  obtain ⟨mo, hmo, heq⟩ := Option.map_eq_some_iff.mp h
  obtain ⟨hname, rfl⟩ := Prod.mk.inj heq
  unfold macroBuild
  rw [hmo]
  exact if_pos hname.symm

/-- The three registers of an instruction. -/
def insertRegs (word : Opcode.Insn) (vd vs2 vs1 : Reg) : Opcode.Insn :=
  OperandField.vs1.insert (OperandField.vs2.insert (OperandField.vd.insert word (vd.setWidth 64)) (vs2.setWidth 64))
    (vs1.setWidth 64)

variable (word : Opcode.Insn) (vd vs2 vs1 : Reg)

theorem insertRegs_rd : rdOf (insertRegs word vd vs2 vs1) = vd := by
  unfold rdOf insertRegs
  rw [OperandField.extractLsb'_insert_apart _ _ _ (by decide) (by decide),
    OperandField.extractLsb'_insert_apart _ _ _ (by decide) (by decide),
    OperandField.vd.extractLsb'_insert_same _ _ (p := 7) (n := 5) rfl rfl, BitVec.setWidth_setWidth_of_le _ (by decide),
    BitVec.setWidth_eq]

theorem insertRegs_rs2 : rs2Of (insertRegs word vd vs2 vs1) = vs2 := by
  unfold rs2Of insertRegs
  rw [OperandField.extractLsb'_insert_apart _ _ _ (by decide) (by decide),
    OperandField.vs2.extractLsb'_insert_same _ _ (p := 20) (n := 5) rfl rfl,
    BitVec.setWidth_setWidth_of_le _ (by decide), BitVec.setWidth_eq]

theorem insertRegs_rs1 : rs1Of (insertRegs word vd vs2 vs1) = vs1 := by
  unfold rs1Of insertRegs
  rw [OperandField.vs1.extractLsb'_insert_same _ _ (p := 15) (n := 5) rfl rfl,
    BitVec.setWidth_setWidth_of_le _ (by decide), BitVec.setWidth_eq]

/-- The bits that tell which instruction it is. -/
theorem insertRegs_fixed {p n : Nat} (h : p + n ≤ 7 ∨ 12 ≤ p ∧ p + n ≤ 15 ∨ 25 ≤ p ∧ p + n ≤ 32) :
    (insertRegs word vd vs2 vs1).extractLsb' p n = word.extractLsb' p n := by
  have hvd : OperandField.vd.shift = 7 ∧ OperandField.vd.width = 5 := ⟨rfl, rfl⟩
  have hvs1 : OperandField.vs1.shift = 15 ∧ OperandField.vs1.width = 5 := ⟨rfl, rfl⟩
  have hvs2 : OperandField.vs2.shift = 20 ∧ OperandField.vs2.width = 5 := ⟨rfl, rfl⟩
  unfold insertRegs
  rw [OperandField.extractLsb'_insert_apart _ _ _ (by omega) (by omega),
    OperandField.extractLsb'_insert_apart _ _ _ (by omega) (by omega),
    OperandField.extractLsb'_insert_apart _ _ _ (by omega) (by omega)]

/-- A word for an instruction. -/
def Emits (code : Option Opcode.Insn) (insn : VInstr) : Prop := ∃ word, code = some word ∧ decodeVector word = some insn

/-- An operation on masks is emitted as it was asked for. -/
theorem macroBuild_mm {op : MaskOp} (hop : maskOpName op = some (name, word)) :
    Emits (macroBuild name "Vd,Vt,Vs" [vd.setWidth 64, vs2.setWidth 64, vs1.setWidth 64]) (.mm op vd vs2 vs1) := by
  have hrow : (((rowsFrom name).dropWhile fun op => riscvInsnLength op.matchBits < 4).head?.map
      fun op => (op.name, op.matchBits)) = some (name, word) := by
    refine rows_found.2.1 (name, word) (List.mem_filterMap.mpr ⟨op, ?_, hop⟩)
    cases op <;> cases hop <;> decide
  have hfixed : word.extractLsb' 0 7 = 0x57#7 ∧ word.extractLsb' 12 3 = 2#3 ∧ word.extractLsb' 25 1 = 1#1 ∧
      maskOpOf (word.extractLsb' 26 6) = some op := by
    cases op <;> cases hop <;> decide
  have hchars : "Vd,Vt,Vs".toList = ['V', 'd', ',', 'V', 't', ',', 'V', 's'] := by decide
  refine ⟨insertRegs word vd vs2 vs1, ?_, ?_⟩
  · rw [macroBuild_eq hrow, hchars]
    rfl
  · obtain ⟨hopcode, hfunct3, hvm, hfunct6⟩ := hfixed
    unfold decodeVector funct3Of funct6Of vmOf
    rw [insertRegs_fixed _ _ _ _ (by decide), insertRegs_fixed _ _ _ _ (by decide),
      insertRegs_fixed _ _ _ _ (by decide), insertRegs_fixed _ _ _ _ (by decide), insertRegs_rd, insertRegs_rs2,
      insertRegs_rs1, hopcode, hfunct3, hvm, hfunct6]
    rfl

/-- A comparison is emitted as it was asked for. -/
theorem macroBuild_mslt (unsigned masked : Bool) :
    Emits (macroBuild (vmsltName unsigned) "Vd,Vt,sVm"
      [vd.setWidth 64, vs2.setWidth 64, vs1.setWidth 64, if masked then 0 else -1#64])
      (.msltVx unsigned vd vs2 vs1 masked) := by
  let word : Opcode.Insn := if unsigned then 0x68004057 else 0x6c004057
  have hrow : (((rowsFrom (vmsltName unsigned)).dropWhile fun op => riscvInsnLength op.matchBits < 4).head?.map
      fun op => (op.name, op.matchBits)) = some (vmsltName unsigned, word) :=
    (rows_found.1 unsigned (by cases unsigned <;> decide)).2
  have hfixed : word.extractLsb' 0 7 = 0x57#7 ∧ word.extractLsb' 12 3 = 4#3 ∧
      word.extractLsb' 26 6 = if unsigned then 0x1a#6 else 0x1b#6 := by
    cases unsigned <;> decide
  have hchars : "Vd,Vt,sVm".toList = ['V', 'd', ',', 'V', 't', ',', 's', 'V', 'm'] := by decide
  let bit : BitVec 1 := if masked then 0 else 1
  refine ⟨OperandField.vmask.insert (insertRegs word vd vs2 vs1) (bit.setWidth 64), ?_, ?_⟩
  · rw [macroBuild_eq hrow, hchars]
    cases masked <;> rfl
  · obtain ⟨hopcode, hfunct3, hfunct6⟩ := hfixed
    have hvm : (OperandField.vmask.insert (insertRegs word vd vs2 vs1) (bit.setWidth 64)).extractLsb' 25 1 = bit := by
      rw [OperandField.vmask.extractLsb'_insert_same _ _ (p := 25) (n := 1) rfl rfl,
        BitVec.setWidth_setWidth_of_le _ (by decide), BitVec.setWidth_eq]
    have hapart {p n : Nat} (hp : p + n ≤ 25 ∨ 26 ≤ p ∧ p + n ≤ 64) :
        (OperandField.vmask.insert (insertRegs word vd vs2 vs1) (bit.setWidth 64)).extractLsb' p n =
          (insertRegs word vd vs2 vs1).extractLsb' p n := by
      have hvmask : OperandField.vmask.shift = 25 ∧ OperandField.vmask.width = 1 := ⟨rfl, rfl⟩
      exact OperandField.extractLsb'_insert_apart _ _ _ (by omega) (by omega)
    unfold decodeVector funct3Of funct6Of vmOf
    rw [hvm, hapart (by decide), hapart (by decide), hapart (by decide), insertRegs_fixed _ _ _ _ (by decide),
      insertRegs_fixed _ _ _ _ (by decide), insertRegs_fixed _ _ _ _ (by decide), hopcode, hfunct3, hfunct6]
    unfold rdOf rs1Of rs2Of
    rw [hapart (by decide), hapart (by decide), hapart (by decide)]
    have hrd := insertRegs_rd word vd vs2 vs1
    have hrs1 := insertRegs_rs1 word vd vs2 vs1
    have hrs2 := insertRegs_rs2 word vd vs2 vs1
    unfold rdOf at hrd
    unfold rs1Of at hrs1
    unfold rs2Of at hrs2
    rw [hrd, hrs1, hrs2]
    cases unsigned <;> cases masked <;> rfl

theorem Emits.all {codes : List (Option Opcode.Insn)} {insns : List VInstr} (h : List.Forall₂ Emits codes insns) :
    ∃ words, codes.mapM id = some words ∧ words.mapM decodeVector = some insns := by
  induction h with
  | nil => exact ⟨[], rfl, rfl⟩
  | cons hhead _ ih =>
    obtain ⟨word, rfl, hword⟩ := hhead
    obtain ⟨words, hcodes, hwords⟩ := ih
    refine ⟨word :: words, ?_, ?_⟩
    · rw [List.mapM_cons, hcodes]
      rfl
    · rw [List.mapM_cons, hword, hwords]
      rfl

end Emit

/-! ## Expansions -/

namespace VmsgeOperands

/-- The instructions that each form of the operands stands for. -/
def expansion (unsigned : Bool) (o : VmsgeOperands) : List VInstr :=
  match o.form with
  | .plain => [.msltVx unsigned o.vd o.va o.x false, .mm .nand o.vd o.vd o.vd]
  | .masked => [.msltVx unsigned o.vd o.va o.x true, .mm .xor o.vd o.vd 0]
  | .withTemp vtemp =>
    if o.vd = 0 then [.msltVx unsigned vtemp o.va o.x false, .mm .andn o.vd 0 vtemp]
    else
      [.msltVx unsigned vtemp o.va o.x false, .mm .andn vtemp 0 vtemp, .mm .andn o.vd o.vd 0, .mm .or o.vd vtemp o.vd]

variable {unsigned : Bool} {o : VmsgeOperands} {args : String} {insn : Opcode.Insn} {code : List Opcode.Insn}

theorem setWidth_eq_zero_iff (r : Reg) : r.setWidth 64 = (0 : Opcode.Insn) ↔ r = 0 := by
  constructor
  · intro h
    have hback := congrArg (BitVec.setWidth 5) h
    rwa [BitVec.setWidth_setWidth_of_le _ (by decide), BitVec.setWidth_eq] at hback
  · rintro rfl
    rfl

/-- What is emitted is the expansion; the macro fails for a masked `v0` without a temporary. -/
theorem StoredIn.vectorMacro (h : o.StoredIn insn) (hcode : vectorMacro (vmsgeRow unsigned args) insn = some code) :
    code.mapM decodeVector = some (o.expansion unsigned) ∧ (o.form = .masked → o.vd ≠ 0) := by
  have hmslt : (if (vmsgeRow unsigned args).matchBits ≠ 0 then "vmsltu.vx" else "vmslt.vx") = vmsltName unsigned := by
    cases unsigned <;> rfl
  have hmask : (vmsgeRow unsigned args).mask = mVmsge := rfl
  unfold Gas.vectorMacro at hcode
  dsimp only at hcode
  rw [hmslt, if_pos hmask, h.vd, h.vs1, h.vs2] at hcode
  have hvm := h.vmask
  have hemits {codes : List (Option Opcode.Insn)} (hcodes : codes.mapM id = some code) {insns : List VInstr}
      (hall : List.Forall₂ Emits codes insns) : code.mapM decodeVector = some insns := by
    obtain ⟨words, hwords, hdecode⟩ := Emits.all hall
    rw [hwords] at hcodes
    cases hcodes
    exact hdecode
  cases hform : o.form with
  | plain =>
    rw [if_pos hform] at hvm
    rw [hvm, if_pos (by decide)] at hcode
    refine ⟨?_, fun hmasked => by cases hmasked⟩
    unfold expansion
    rw [hform]
    exact hemits hcode (.cons (macroBuild_mslt _ _ _ unsigned false) (.cons (macroBuild_mm _ _ _ _ rfl) .nil))
  | masked =>
    rw [if_neg (by rw [hform]; decide)] at hvm
    rw [hvm, h.plain (.inr hform), if_neg (by decide), if_neg (by decide)] at hcode
    split at hcode
    · rename_i hvd
      refine ⟨?_, fun _ hzero => hvd (by rw [hzero]; rfl)⟩
      unfold expansion
      rw [hform]
      exact hemits hcode (.cons (macroBuild_mslt _ _ _ unsigned true) (.cons (macroBuild_mm _ _ _ 0 rfl) .nil))
    · cases hcode
  | withTemp vtemp =>
    obtain ⟨hzero, hvtemp⟩ := h.withTemp vtemp hform
    rw [if_neg (by rw [hform]; simp)] at hvm
    rw [hvm, hvtemp, if_neg (by decide), if_pos (fun hnot => hzero ((setWidth_eq_zero_iff vtemp).mp hnot))] at hcode
    refine ⟨?_, fun hmasked => by cases hmasked⟩
    unfold expansion
    rw [hform]
    dsimp only
    split at hcode
    · rename_i hvd
      rw [if_pos ((setWidth_eq_zero_iff o.vd).mp hvd)]
      exact hemits hcode (.cons (macroBuild_mslt _ _ _ unsigned false) (.cons (macroBuild_mm _ _ 0 _ rfl) .nil))
    · rename_i hvd
      rw [if_neg (fun hnot => hvd ((setWidth_eq_zero_iff o.vd).mpr hnot))]
      exact hemits hcode (.cons (macroBuild_mslt _ _ _ unsigned false) (.cons (macroBuild_mm _ _ 0 _ rfl)
        (.cons (macroBuild_mm _ _ _ 0 rfl) (.cons (macroBuild_mm _ _ _ _ rfl) .nil))))

/-! ## What the expansions do -/

/-- What the macro promises: the comparison where the mask is set, and the rest as it was. -/
structure Correct (unsigned : Bool) (o : VmsgeOperands) {c : VConfig} (s t : VState c) : Prop where
  active : ∀ i < c.vl, o.form = .plain ∨ s.bit 0 i = true → t.bit o.vd i = s.atLeast unsigned o.va o.x i
  inactive : o.form ≠ .plain → o.vd ≠ 0 → ∀ i < c.vl, s.bit 0 i = false → t.bit o.vd i = s.bit o.vd i
  mask : o.form ≠ .plain → o.vd = 0 → ∀ i < c.vl,
    t.bit o.vd i = (s.bit 0 i && s.atLeast unsigned o.va o.x i)
  others : ∀ r, r ≠ o.vd → o.form ≠ .withTemp r → t.vregs r = s.vregs r

/-- The words run as the macro promises, with every length and width and from every state. -/
def Expands (unsigned : Bool) (o : VmsgeOperands) (maskAgnostic : Bool) (code : List Opcode.Insn) : Prop :=
  ∃ insns, code.mapM decodeVector = some insns ∧
    ∀ c : VConfig, c.maskAgnostic = maskAgnostic → ∀ s t : VState c, VRun insns s t → o.Correct unsigned s t

section Runs

variable {c : VConfig} {s t : VState c}

theorem correct_plain (hform : o.form = .plain) (hrun : VRun (o.expansion unsigned) s t) : o.Correct unsigned s t := by
  unfold expansion at hrun
  rw [hform] at hrun
  obtain ⟨m, hmslt, hrun⟩ := VRun.cons_iff.mp hrun
  obtain ⟨n, hnand, hrun⟩ := VRun.cons_iff.mp hrun
  obtain rfl := VRun.nil_iff.mp hrun
  refine ⟨fun i hi _ => ?_, fun h => absurd hform h, fun h => absurd hform h, fun r hr _ => ?_⟩
  · rw [hnand.mm_bit hi, hmslt.mslt_bit hi, VState.atLeast_eq]
    show (!(_ && _)) = _
    rw [Bool.and_self]
  · rw [hnand.others r hr, hmslt.others r hr]

/-- The comparison fills the active elements, and the mask turns exactly these over. -/
theorem correct_masked (hform : o.form = .masked) (hvd : o.vd ≠ 0) (hpolicy : c.maskAgnostic = false)
    (hrun : VRun (o.expansion unsigned) s t) : o.Correct unsigned s t := by
  unfold expansion at hrun
  rw [hform] at hrun
  obtain ⟨m, hmslt, hrun⟩ := VRun.cons_iff.mp hrun
  obtain ⟨n, hxor, hrun⟩ := VRun.cons_iff.mp hrun
  obtain rfl := VRun.nil_iff.mp hrun
  have hmask (i : Nat) : m.bit 0 i = s.bit 0 i := hmslt.bit_other hvd.symm i
  refine ⟨fun i hi hact => ?_, fun _ _ i hi hinact => ?_, fun _ h => absurd h hvd, fun r hr _ => ?_⟩
  · have hbit : s.bit 0 i = true := hact.resolve_left (by rw [hform]; simp)
    rw [hxor.mm_bit hi, hmask, hmslt.mslt_masked_bit hi hbit, hbit, VState.atLeast_eq]
    exact Bool.xor_true _
  · rw [hxor.mm_bit hi, hmask, hmslt.mslt_masked_keep hi hinact hpolicy, hinact]
    exact Bool.xor_false _
  · rw [hxor.others r hr, hmslt.others r hr]

theorem correct_withTemp_zero {vtemp : Reg} (hform : o.form = .withTemp vtemp) (htemp : vtemp ≠ 0) (hvd : o.vd = 0)
    (hrun : VRun (o.expansion unsigned) s t) : o.Correct unsigned s t := by
  unfold expansion at hrun
  rw [hform] at hrun
  dsimp only at hrun
  rw [if_pos hvd] at hrun
  obtain ⟨m, hmslt, hrun⟩ := VRun.cons_iff.mp hrun
  obtain ⟨n, handn, hrun⟩ := VRun.cons_iff.mp hrun
  obtain rfl := VRun.nil_iff.mp hrun
  have hbit {i : Nat} (hi : i < c.vl) : t.bit o.vd i = (s.bit 0 i && s.atLeast unsigned o.va o.x i) := by
    rw [handn.mm_bit hi, hmslt.bit_other htemp.symm, hmslt.mslt_bit hi, VState.atLeast_eq]
    rfl
  refine ⟨fun i hi hact => ?_, fun _ h => absurd hvd h, fun _ _ i hi => hbit hi, fun r hr hother => ?_⟩
  · have hmask : s.bit 0 i = true := hact.resolve_left (by rw [hform]; simp)
    rw [hbit hi, hmask, Bool.true_and]
  · have hne : r ≠ vtemp := fun heq => hother (by rw [hform, heq])
    rw [handn.others r (hvd ▸ hr), hmslt.others r hne]

/-- The bits of a run with a temporary, whatever the temporary is. -/
theorem withTemp_run {vtemp : Reg} (hform : o.form = .withTemp vtemp) (htemp : vtemp ≠ 0) (hvd : o.vd ≠ 0)
    (hrun : VRun (o.expansion unsigned) s t) :
    (∀ i < c.vl, t.bit o.vd i = if vtemp = o.vd then false
      else (s.bit 0 i && s.atLeast unsigned o.va o.x i || s.bit o.vd i && !s.bit 0 i)) ∧
      ∀ r, r ≠ o.vd → r ≠ vtemp → t.vregs r = s.vregs r := by
  unfold expansion at hrun
  rw [hform] at hrun
  dsimp only at hrun
  rw [if_neg hvd] at hrun
  obtain ⟨m₁, hmslt, hrun⟩ := VRun.cons_iff.mp hrun
  obtain ⟨m₂, handn, hrun⟩ := VRun.cons_iff.mp hrun
  obtain ⟨m₃, hkeep, hrun⟩ := VRun.cons_iff.mp hrun
  obtain ⟨m₄, hor, hrun⟩ := VRun.cons_iff.mp hrun
  obtain rfl := VRun.nil_iff.mp hrun
  refine ⟨fun i hi => ?_, fun r hr hr' => ?_⟩
  · have hmask₁ : m₁.bit 0 i = s.bit 0 i := hmslt.bit_other htemp.symm i
    have hmask₂ : m₂.bit 0 i = s.bit 0 i := (handn.bit_other htemp.symm i).trans hmask₁
    have htemp₂ : m₂.bit vtemp i = (s.bit 0 i && s.atLeast unsigned o.va o.x i) := by
      rw [handn.mm_bit hi, hmask₁, hmslt.mslt_bit hi, VState.atLeast_eq]
      rfl
    have hvd₃ : m₃.bit o.vd i = (m₂.bit o.vd i && !s.bit 0 i) := by
      rw [hkeep.mm_bit hi, hmask₂]
      rfl
    rw [hor.mm_bit hi]
    show (m₃.bit vtemp i || m₃.bit o.vd i) = _
    by_cases hsame : vtemp = o.vd
    · -- the temporary is the destination, which has lost its own elements
      rw [if_pos hsame]
      subst hsame
      rw [Bool.or_self, hvd₃, htemp₂]
      cases s.bit 0 i <;> simp
    · rw [if_neg hsame, hvd₃, hkeep.bit_other hsame, htemp₂, handn.bit_other (Ne.symm hsame),
        hmslt.bit_other (Ne.symm hsame)]
  · rw [hor.others r hr, hkeep.others r hr, handn.others r hr', hmslt.others r hr']

theorem correct_withTemp {vtemp : Reg} (hform : o.form = .withTemp vtemp) (htemp : vtemp ≠ 0) (hvd : o.vd ≠ 0)
    (hsame : vtemp ≠ o.vd) (hrun : VRun (o.expansion unsigned) s t) : o.Correct unsigned s t := by
  obtain ⟨hbits, hothers⟩ := withTemp_run hform htemp hvd hrun
  refine ⟨fun i hi hact => ?_, fun _ _ i hi hinact => ?_, fun _ h => absurd h hvd, fun r hr hother => ?_⟩
  · have hmask : s.bit 0 i = true := hact.resolve_left (by rw [hform]; simp)
    rw [hbits i hi, if_neg hsame, hmask]
    simp
  · rw [hbits i hi, if_neg hsame, hinact]
    simp
  · exact hothers r hr fun heq => hother (by rw [hform, heq])

variable (unsigned)

/-- Nothing asks for a temporary other than the destination, and then the elements that the mask leaves out are lost. -/
theorem not_correct_same_temp (hform : o.form = .withTemp o.vd) (hvd : o.vd ≠ 0) (maskAgnostic : Bool) :
    ∃ c : VConfig, c.maskAgnostic = maskAgnostic ∧ ∃ s t : VState c, VRun (o.expansion unsigned) s t ∧
      ¬ o.Correct unsigned s t := by
  let c : VConfig := ⟨64, 8, 8, 1, maskAgnostic, by decide, by decide⟩
  let s : VState c := ⟨⟨0, fun _ => 0⟩, fun r => if r = o.vd then 1#8 else 0#8⟩
  obtain ⟨t, hrun⟩ := VRun.exists (o.expansion unsigned) s
  refine ⟨c, rfl, s, t, hrun, fun hcorrect => ?_⟩
  have hmask : s.bit 0 0 = false := by
    show (if 0 = o.vd then 1#8 else 0#8).getLsbD 0 = false
    rw [if_neg hvd.symm]
    rfl
  have hbit : s.bit o.vd 0 = true := by
    show (if o.vd = o.vd then 1#8 else 0#8).getLsbD 0 = true
    rw [if_pos rfl]
    rfl
  have hkept := hcorrect.inactive (by rw [hform]; simp) hvd 0 Nat.one_pos hmask
  rw [(withTemp_run hform hvd hvd hrun).1 0 Nat.one_pos, if_pos rfl, hbit] at hkept
  cases hkept

/-- Without a temporary the agnostic policy lets the comparison set what the mask leaves out. -/
theorem not_correct_agnostic (hform : o.form = .masked) (hvd : o.vd ≠ 0) :
    ∃ c : VConfig, c.maskAgnostic = true ∧ ∃ s t : VState c, VRun (o.expansion unsigned) s t ∧
      ¬ o.Correct unsigned s t := by
  let c : VConfig := ⟨64, 8, 8, 1, true, by decide, by decide⟩
  let s : VState c := ⟨⟨0, fun _ => 0⟩, fun _ => 0⟩
  have hmask (r : Reg) : s.bit r 0 = false := by
    show (0 : BitVec 8).getLsbD 0 = false
    rfl
  let mslt : VInstr := .msltVx unsigned o.vd o.va o.x true
  have hinactive : mslt.active s 0 = false := hmask 0
  obtain ⟨m, hmslt, hfree⟩ := mslt.exists_step s (fun _ => true) fun _ _ _ => .inr ⟨rfl, rfl⟩
  obtain ⟨t, hrun⟩ := VRun.exists [.mm .xor o.vd o.vd 0] m
  have hall : VRun (o.expansion unsigned) s t := by
    unfold expansion
    rw [hform]
    exact .cons hmslt hrun
  refine ⟨c, rfl, s, t, hall, fun hcorrect => ?_⟩
  obtain ⟨n, hxor, hrun⟩ := VRun.cons_iff.mp hrun
  obtain rfl := VRun.nil_iff.mp hrun
  have hset : m.bit o.vd 0 = true := hfree 0 (by decide) fun h => by rw [hinactive] at h; exact Bool.false_ne_true h.2
  have hkept := hcorrect.inactive (by rw [hform]; simp) hvd 0 Nat.one_pos (hmask 0)
  rw [hxor.mm_bit Nat.one_pos, hset, hmslt.bit_other hvd.symm, hmask, hmask] at hkept
  cases hkept

end Runs

variable (unsigned) in
/-- Which operands have an expansion that does what the macro promises. -/
theorem expansion_correct_iff (htemp : ∀ vtemp, o.form = .withTemp vtemp → vtemp ≠ 0)
    (hmasked : o.form = .masked → o.vd ≠ 0) (maskAgnostic : Bool) :
    (∀ c : VConfig, c.maskAgnostic = maskAgnostic → ∀ s t : VState c, VRun (o.expansion unsigned) s t →
      o.Correct unsigned s t) ↔
      ¬ (o.vd ≠ 0 ∧ o.form = .withTemp o.vd) ∧ ¬ (maskAgnostic = true ∧ o.form = .masked) := by
  constructor
  · intro hall
    refine ⟨fun ⟨hvd, hform⟩ => ?_, fun ⟨hpolicy, hform⟩ => ?_⟩
    · obtain ⟨c, hc, s, t, hrun, hnot⟩ := not_correct_same_temp unsigned hform hvd maskAgnostic
      exact hnot (hall c hc s t hrun)
    · obtain ⟨c, hc, s, t, hrun, hnot⟩ := not_correct_agnostic unsigned hform (hmasked hform)
      exact hnot (hall c (hc.trans hpolicy.symm) s t hrun)
  · rintro ⟨hsame, hpolicy⟩ c hc s t hrun
    cases hform : o.form with
    | plain => exact correct_plain hform hrun
    | masked =>
      have hundisturbed : c.maskAgnostic = false := by
        rw [hc, ← Bool.not_eq_true]
        exact fun h => hpolicy ⟨h, hform⟩
      exact correct_masked hform (hmasked hform) hundisturbed hrun
    | withTemp vtemp =>
      by_cases hvd : o.vd = 0
      · exact correct_withTemp_zero hform (htemp vtemp hform) hvd hrun
      · exact correct_withTemp hform (htemp vtemp hform) hvd (fun h => hsame ⟨hvd, h ▸ hform⟩) hrun

end VmsgeOperands

/-! ## The macros -/

section Macros

variable {xlen : Nat} {supports : InsnClass → Bool} {unsigned : Bool} {asarg : List AsmToken} {code : List Opcode.Insn}

theorem assembleVectorMacro_vmsge
    (h : assembleVectorMacro xlen supports (vmsgeName unsigned) asarg = some code) :
    ∃ o : VmsgeOperands, asarg = o.written ∧ code.mapM decodeVector = some (o.expansion unsigned) ∧
      (∀ vtemp, o.form = .withTemp vtemp → vtemp ≠ 0) ∧ (o.form = .masked → o.vd ≠ 0) := by
  unfold assembleVectorMacro at h
  obtain ⟨⟨mo, word⟩, hip, hcode⟩ := Option.bind_eq_some_iff.mp h
  obtain ⟨⟨args, rfl⟩, o, hasarg, hstored⟩ := riscvIp_vmsge hip
  obtain ⟨hdecode, hmasked⟩ := hstored.vectorMacro hcode
  exact ⟨o, hasarg, hdecode, fun vtemp hform => (hstored.withTemp vtemp hform).1, hmasked⟩

/-- The macros do what they promise exactly when a temporary, given with a destination other than `v0`, is not that
destination, and when the mask policy is undisturbed wherever they use the mask without a temporary. -/
theorem vmsge_expands_iff (h : assembleVectorMacro xlen supports (vmsgeName unsigned) asarg = some code) :
    ∃ o : VmsgeOperands, asarg = o.written ∧ ∀ maskAgnostic : Bool, o.Expands unsigned maskAgnostic code ↔
      ¬ (o.vd ≠ 0 ∧ o.form = .withTemp o.vd) ∧ ¬ (maskAgnostic = true ∧ o.form = .masked) := by
  obtain ⟨o, hasarg, hdecode, htemp, hmasked⟩ := assembleVectorMacro_vmsge h
  refine ⟨o, hasarg, fun maskAgnostic => ?_⟩
  rw [← VmsgeOperands.expansion_correct_iff unsigned htemp hmasked maskAgnostic]
  constructor
  · rintro ⟨insns, hinsns, hall⟩
    rw [hdecode] at hinsns
    cases hinsns
    exact hall
  · intro hall
    exact ⟨o.expansion unsigned, hdecode, hall⟩

end Macros

/-- The words for the temporaries `v5` and `v4`, with the destination `v4`. -/
theorem vmsge_v4_words :
    assembleVectorMacro 64 (fun _ => true) "vmsge.vx" (VmsgeOperands.written ⟨4, 8, 10, .withTemp 5⟩) =
        some [0x6e8542d7#64, 0x6202a2d7#64, 0x62402257#64, 0x6a522257#64] ∧
      assembleVectorMacro 64 (fun _ => true) "vmsge.vx" (VmsgeOperands.written ⟨4, 8, 10, .withTemp 4⟩) =
        some [0x6e854257#64, 0x62022257#64, 0x62402257#64, 0x6a422257#64] :=
  rows_found.2.2

/-- `vmsge.vx v4, v8, a0, v0.t, v5` -/
theorem vmsge_v4_temp_v5 : ∃ o : VmsgeOperands, VmsgeOperands.written ⟨4, 8, 10, .withTemp 5⟩ = o.written ∧
    ∀ maskAgnostic : Bool,
      o.Expands false maskAgnostic [0x6e8542d7#64, 0x6202a2d7#64, 0x62402257#64, 0x6a522257#64] ↔
        ¬ (o.vd ≠ 0 ∧ o.form = .withTemp o.vd) ∧ ¬ (maskAgnostic = true ∧ o.form = .masked) :=
  @vmsge_expands_iff 64 (fun _ => true) false (VmsgeOperands.written ⟨4, 8, 10, .withTemp 5⟩)
    [0x6e8542d7#64, 0x6202a2d7#64, 0x62402257#64, 0x6a522257#64] vmsge_v4_words.1

/-- `vmsge.vx v4, v8, a0, v0.t, v4` is taken, and loses the elements of `v4` that the mask leaves out. -/
theorem vmsge_v4_temp_v4 : ∃ code,
    assembleVectorMacro 64 (fun _ => true) "vmsge.vx" (VmsgeOperands.written ⟨4, 8, 10, .withTemp 4⟩) = some code ∧
      ¬ VmsgeOperands.Expands false ⟨4, 8, 10, .withTemp 4⟩ false code := by
  have hcode : assembleVectorMacro 64 (fun _ => true) "vmsge.vx" (VmsgeOperands.written ⟨4, 8, 10, .withTemp 4⟩) =
      some [0x6e854257#64, 0x62022257#64, 0x62402257#64, 0x6a422257#64] := vmsge_v4_words.2
  have hdecode : [0x6e854257#64, 0x62022257#64, 0x62402257#64, 0x6a422257#64].mapM decodeVector =
      some (VmsgeOperands.expansion false ⟨4, 8, 10, .withTemp 4⟩) := by
    decide
  refine ⟨_, hcode, fun ⟨insns, hinsns, hall⟩ => ?_⟩
  rw [hdecode] at hinsns
  cases hinsns
  obtain ⟨c, hc, s, t, hrun, hnot⟩ :=
    @VmsgeOperands.not_correct_same_temp false ⟨4, 8, 10, .withTemp 4⟩ rfl (by decide) false
  exact hnot (hall c hc s t hrun)

end RiscvBinutils.Gas
