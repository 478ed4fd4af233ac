/-
One relaxation pass over a section (bfd/elfnn-riscv.c, `_bfd_riscv_relax_section` in pass 0): the loop
over the relocations, and the four functions that shorten a call, a LUI, a TLS access and an AUIPC.
Bytes are only marked for deletion here; `riscv_relax_resolve_delete_relocs` removes them afterwards.
-/
import RiscvBinutils.Bfd.Delete
import RiscvBinutils.Bfd.Link
import RiscvBinutils.Bfd.Perform

namespace RiscvBinutils.Bfd

open RiscvBinutils.Base RiscvBinutils.Opcode

/-! ## What the pass reads -/

/-- `gp` as `_bfd_riscv_relax_lui` and `_bfd_riscv_relax_pc` see it. -/
def relaxGpValue (link : Link) : Vma :=
  if link.relaxGp then riscvGlobalPointerValue link else 0

/-- `_bfd_riscv_get_max_alignment`. -/
def bfdRiscvGetMaxAlignment (link : Link) (gp : Vma) : Vma :=
  let power := link.ownerSections.foldl (fun power o =>
    let out := link.outputs o
    let valid := gp = 0 ∨ validItypeImm (out.vma - gp) ∨ validItypeImm (out.vma + out.size - gp)
    if valid ∧ power < out.alignmentPower then out.alignmentPower else power) 0
  1#64 <<< power

/-- `(bfd_vma) 1 << output_section->alignment_power`. -/
def Link.outputAlignment (link : Link) (output : Option Nat) : Vma :=
  1#64 <<< (output.map fun o => (link.outputs o).alignmentPower).getD 0

/-! ## The symbol of a relocation -/

inductive RelaxFunc
  | call | lui | tlsLe | pc
  deriving DecidableEq, Repr

/-- The choice of `relax_func` in pass 0. -/
def relaxFuncOf (link : Link) : RelocType → Option RelaxFunc
  | .call | .callPlt => some .call
  | .hi20 | .lo12I | .lo12S => some .lui
  | .tprelHi20 | .tprelAdd | .tprelLo12I | .tprelLo12S => some .tlsLe
  | .pcrelHi20 | .pcrelLo12I | .pcrelLo12S => if link.pic then none else some .pc
  | _ => none

/-- The bytes of a symbol from its address plus addend to its end, zero when the addend is outside. -/
def reserveOf (size addend : Vma) : Vma :=
  if size < size - addend then 0 else size - addend

/-- The symbol a relocation refers to, before the addend is added. -/
structure RelaxSym where
  symSec : Nat
  symval : Vma
  symtype : SymType
  undefinedWeak : Bool := false
  deriving DecidableEq, Repr

/-- A local symbol; an IFUNC is not relaxed. -/
def localRelaxSym (inp : Input) (rel : Rela) (isym : LocalSym) : Option RelaxSym :=
  if isym.type = .gnuIfunc then none
  else if isym.shndx = 0 then some { symSec := inp.sec, symval := rel.offset, symtype := isym.type }
  else some { symSec := inp.elfSections isym.shndx, symval := isym.value, symtype := isym.type }

/-- A global symbol: IFUNCs and symbols that are defined nowhere are not relaxed. -/
def globalRelaxSym (link : Link) (func : RelaxFunc) (h : HashEntry) : Option RelaxSym :=
  if h.type = .gnuIfunc then none
  else
    let undefinedWeak : Bool := h.rootType = .undefweak ∧ h.linkerDef = false ∧ (func = .lui ∨ func = .pc)
    if link.pic ∧ h.pltOffset ≠ -1 then
      some { symSec := link.splt, symval := h.pltOffset, symtype := h.type, undefinedWeak }
    else if undefinedWeak then
      some { symSec := link.undSection, symval := 0, symtype := h.type, undefinedWeak }
    else if h.rootType = .defined ∨ h.rootType = .defweak then
      match h.defSection with
      | none => none
      | some sec =>
        if (link.sections sec).output.isSome then
          some { symSec := sec, symval := h.defValue, symtype := h.type, undefinedWeak }
        else none
    else none

/-- Look up the symbol of `rel`.  `reserve_size` is a variable of the whole loop: it is set for every
local symbol, but for a global one only when it is relaxed and is not a function. -/
def relaxSymbol (link : Link) (inp : Input) (func : RelaxFunc) (rel : Rela) (reserveSize : Vma) :
    Option RelaxSym × Vma :=
  match inp.locals[rel.sym]? with
  | some isym => (localRelaxSym inp rel isym, reserveOf isym.size rel.addend)
  | none =>
    match inp.globalEntry rel.sym with
    | none => (none, reserveSize)
    | some h =>
      match globalRelaxSym link func h with
      | none => (none, reserveSize)
      | some s => (some s, if h.type = .func then reserveSize else reserveOf h.size rel.addend)

/-- The address a relocation refers to, with its addend, and the section it lies in. -/
def symbolAddress (link : Link) (s : RelaxSym) (addend : Vma) : Nat × Vma :=
  let sec := link.sections s.symSec
  if sec.infoMerge ∧ sec.merge then
    let off := if s.symtype = .section then s.symval + addend else s.symval
    let merged := link.mergedSectionOffset s.symSec off
    let off := if s.symtype = .section then merged.2 else merged.2 + addend
    (merged.1, off + link.secAddr merged.1)
  else (s.symSec, s.symval + addend + link.secAddr s.symSec)

/-! ## The relaxation functions -/

/-- What the loop carries from one relocation to the next. -/
structure PassState where
  contents : List Byte
  reserveSize : Vma := 0
  /-- `htab->max_alignment_for_gp`; all ones when not computed yet. -/
  maxAlignmentForGp : Vma := -1
  pcgp : PcgpRelocs := {}
  again : Bool := false
  deriving DecidableEq, Repr

/-- What a relaxation function is called with, besides the state. -/
structure RelaxArgs where
  symSec : Nat
  symval : Vma
  maxAlignment : Vma
  reserveSize : Vma
  undefinedWeak : Bool
  deriving DecidableEq, Repr

/-- The results of a relaxation function: the state, the relocation, and the `R_RISCV_RELAX` after it. -/
structure RelaxResult where
  st : PassState
  rel : Rela
  next : Rela
  deriving DecidableEq, Repr

def Rela.setType (r : Rela) (type : RelocType) : Rela := { r with type }

def matchCJ : Vma := 0xa001
def matchCJal : Vma := 0x2001
def matchJal : Vma := 0x6f
def matchJalr : Vma := 0x67

/-- The `rd` field. -/
def rdOf (insn : Vma) : Vma := (insn >>> 7) &&& 0x1f

/-- `foff` of `_bfd_riscv_relax_call`: a call across sections may move by the alignment of any section
in between, a call inside one only by that section's own. -/
def callOffset (link : Link) (inp : Input) (args : RelaxArgs) (rel : Rela) : Vma :=
  let foff := args.symval - (link.secAddr inp.sec + rel.offset)
  if validJtypeImm foff then
    let out := (link.sections args.symSec).output
    let maxAlignment :=
      if out = (link.sections inp.sec).output ∧ out ≠ some link.absOutput
      then link.outputAlignment out else args.maxAlignment
    foff + (if foff.toInt < 0 then -maxAlignment else maxAlignment)
  else foff

/-- The relocation type, the instruction and its length that replace the AUIPC of a call. -/
def callChoice (link : Link) (inp : Input) (foff rd : Vma) : RelocType × Vma × Nat :=
  -- `c.j` exists on RV32 and RV64, but `c.jal` is RV32-only
  if inp.rvc ∧ validCjtypeImm foff ∧ (rd = 0 ∨ (rd = 1 ∧ link.xlen = .rv32)) then
    (.rvcJump, if rd = 0 then matchCJ else matchCJal, 2)
  else if validJtypeImm foff then (.jal, matchJal ||| (rd <<< 7), 4)
  else (.lo12I, matchJalr ||| (rd <<< 7), 4)

/-- `_bfd_riscv_relax_call`. -/
def bfdRiscvRelaxCall (link : Link) (inp : Input) (args : RelaxArgs) (st : PassState) (rel next : Rela) :
    RelaxResult :=
  let foff := callOffset link inp args rel
  let nearZero : Bool := args.symval + 2048 < 4096
  if !validJtypeImm foff && !(!link.pic && nearZero) then { st, rel, next }
  else
    let off := rel.offset.toNat
    let jalr := getl 4 st.contents (off + 4)
    let choice := callChoice link inp foff (rdOf jalr)
    let len := choice.2.2
    { st := { st with contents := putl len choice.2.1 st.contents off, again := true }
      rel := rel.setType choice.1
      next := riscvRelaxDeletePiecewise next (rel.offset + BitVec.ofNat 64 len) (BitVec.ofNat 64 (8 - len)) }

/-- The alignment to allow for between gp and the symbol, and the updated cache. -/
def gpAlignment (link : Link) (symSec : Nat) (undefinedWeak : Bool) (maxAlignment cache : Vma) : Vma × Vma :=
  let gp := relaxGpValue link
  if !undefinedWeak && gp ≠ 0 then
    let out := (link.sections symSec).output
    let gpOut := link.gpSymbol.bind fun g => (link.sections g.1).output
    if gpOut = out ∧ out ≠ some link.absOutput then
      (link.outputAlignment out, cache)
    else
      let align := if cache = -1 then bfdRiscvGetMaxAlignment link gp else cache
      (align, align)
  else (maxAlignment, cache)

/-- Is the reference in range of x0 or gp? -/
def inGpRange (undefinedWeak : Bool) (symval gp maxAlignment reserveSize : Vma) : Bool :=
  undefinedWeak || validItypeImm symval ||
    (gp ≤ symval && validItypeImm (symval - gp + maxAlignment + reserveSize)) ||
    (symval < gp && validItypeImm (symval - gp - maxAlignment - reserveSize))

/-- Can the LUI become a C.LUI, wherever alignment (and a RELRO segment) may still move the symbol? -/
def canRelaxCLui (link : Link) (inp : Input) (symval : Vma) (rel : Rela) : Bool :=
  let high := constHighPart symval
  let page : Vma := if link.relro then 2 * 0x1000 else 0x1000
  inp.rvc ∧ rel.type = .hi20 ∧ validCitypeLuiImm high ∧ validCitypeLuiImm (high + page)

/-- Replace LUI by C.LUI, if legal (`rd` neither x0 nor sp). -/
def relaxCLui (st : PassState) (rel next : Rela) : RelaxResult :=
  let off := rel.offset.toNat
  let lui := getl 4 st.contents off
  if rdOf lui = 0 ∨ rdOf lui = 2 then { st, rel, next }
  else
    { st := { st with
        contents := putl 4 ((lui &&& (0x1f#64 <<< 7)) ||| matchCLui) st.contents off
        again := true }
      rel := rel.setType .rvcLui
      next := riscvRelaxDeletePiecewise next (rel.offset + 2) 2 }

/-- `_bfd_riscv_relax_lui`. -/
def bfdRiscvRelaxLui (link : Link) (inp : Input) (args : RelaxArgs) (st : PassState) (rel next : Rela) :
    RelaxResult :=
  let gp := relaxGpValue link
  let align := gpAlignment link args.symSec args.undefinedWeak args.maxAlignment st.maxAlignmentForGp
  let st := { st with maxAlignmentForGp := align.2 }
  if inGpRange args.undefinedWeak args.symval gp align.1 args.reserveSize then
    match rel.type with
    | .lo12I => { st, rel := rel.setType .gprelI, next }
    | .lo12S => { st, rel := rel.setType .gprelS, next }
    | _ => { st := { st with again := true }, rel := riscvRelaxDeletePiecewise rel rel.offset 4, next }
  else if canRelaxCLui link inp args.symval rel then relaxCLui st rel next
  else { st, rel, next }

/-- `_bfd_riscv_relax_tls_le`. -/
def bfdRiscvRelaxTlsLe (link : Link) (args : RelaxArgs) (st : PassState) (rel next : Rela) : RelaxResult :=
  if constHighPart (tpoff link args.symval) ≠ 0 then { st, rel, next }
  else
    match rel.type with
    | .tprelLo12I => { st, rel := rel.setType .tprelI, next }
    | .tprelLo12S => { st, rel := rel.setType .tprelS, next }
    | _ => { st := { st with again := true }, rel := riscvRelaxDeletePiecewise rel rel.offset 4, next }

/-- `riscv_find_pcgp_hi_reloc`. -/
def riscvFindPcgpHiReloc (p : PcgpRelocs) (hiSecOff : Vma) : Option PcgpHiReloc :=
  p.hi.find? fun c => c.hiSecOff = hiSecOff

/-- `riscv_find_pcgp_lo_reloc`. -/
def riscvFindPcgpLoReloc (p : PcgpRelocs) (hiSecOff : Vma) : Bool :=
  p.lo.any fun c => c = hiSecOff

/-- `riscv_record_pcgp_hi_reloc`. -/
def riscvRecordPcgpHiReloc (p : PcgpRelocs) (hi : PcgpHiReloc) : PcgpRelocs :=
  { p with hi := hi :: p.hi }

/-- `riscv_record_pcgp_lo_reloc`. -/
def riscvRecordPcgpLoReloc (p : PcgpRelocs) (hiSecOff : Vma) : PcgpRelocs :=
  { p with lo := hiSecOff :: p.lo }

/-- `_bfd_riscv_relax_pc` on a low part.  The address tested is that of the high part's symbol; the
reserve size is the one the loop passed for the low part's own label. -/
def relaxPcLo (link : Link) (args : RelaxArgs) (st : PassState) (rel next : Rela) (type : RelocType) :
    RelaxResult :=
  let hiSecOff := args.symval - link.secAddr args.symSec - rel.addend
  match riscvFindPcgpHiReloc st.pcgp hiSecOff with
  | none => { st := { st with pcgp := riscvRecordPcgpLoReloc st.pcgp hiSecOff }, rel, next }
  | some hi =>
    let align := gpAlignment link hi.symSec hi.undefinedWeak args.maxAlignment st.maxAlignmentForGp
    let st := { st with maxAlignmentForGp := align.2 }
    if inGpRange hi.undefinedWeak hi.hiAddr (relaxGpValue link) align.1 args.reserveSize then
      { st, rel := { rel with sym := hi.hiSym, type, addend := rel.addend + hi.hiAddend }, next }
    else { st, rel, next }

/-- `_bfd_riscv_relax_pc` on a high part. -/
def relaxPcHi (link : Link) (args : RelaxArgs) (st : PassState) (rel next : Rela) : RelaxResult :=
  let sec := link.sections args.symSec
  if !args.undefinedWeak && (sec.merge || sec.code) then { st, rel, next }
  else if riscvFindPcgpLoReloc st.pcgp rel.offset then { st, rel, next }
  else
    let align := gpAlignment link args.symSec args.undefinedWeak args.maxAlignment st.maxAlignmentForGp
    let st := { st with maxAlignmentForGp := align.2 }
    if inGpRange args.undefinedWeak args.symval (relaxGpValue link) align.1 args.reserveSize then
      let hi : PcgpHiReloc :=
        { hiSecOff := rel.offset, hiAddend := rel.addend, hiAddr := args.symval, hiSym := rel.sym
          symSec := args.symSec, undefinedWeak := args.undefinedWeak }
      { st := { st with pcgp := riscvRecordPcgpHiReloc st.pcgp hi, again := true }
        rel := riscvRelaxDeletePiecewise rel rel.offset 4, next }
    else { st, rel, next }

/-- `_bfd_riscv_relax_pc`. -/
def bfdRiscvRelaxPc (link : Link) (args : RelaxArgs) (st : PassState) (rel next : Rela) : RelaxResult :=
  match rel.type with
  | .pcrelLo12I => relaxPcLo link args st rel next .gprelI
  | .pcrelLo12S => relaxPcLo link args st rel next .gprelS
  | _ => relaxPcHi link args st rel next

def applyRelaxFunc (link : Link) (inp : Input) (func : RelaxFunc) (args : RelaxArgs) (st : PassState)
    (rel next : Rela) : RelaxResult :=
  match func with
  | .call => bfdRiscvRelaxCall link inp args st rel next
  | .lui => bfdRiscvRelaxLui link inp args st rel next
  | .tlsLe => bfdRiscvRelaxTlsLe link args st rel next
  | .pc => bfdRiscvRelaxPc link args st rel next

/-! ## The loop -/

/-- One round: a relocation that is paired with the `R_RISCV_RELAX` after it. -/
def relaxPair (link : Link) (inp : Input) (maxAlignment : Vma) (func : RelaxFunc) (st : PassState)
    (rel next : Rela) : RelaxResult :=
  let found := relaxSymbol link inp func rel st.reserveSize
  let st := { st with reserveSize := found.2 }
  match found.1 with
  | none => { st, rel, next }
  | some s =>
    let target := symbolAddress link s rel.addend
    applyRelaxFunc link inp func
      { symSec := target.1, symval := target.2, maxAlignment, reserveSize := found.2
        undefinedWeak := s.undefinedWeak } st rel next

/-- The function a relocation is relaxed by, when it is paired with `next`. -/
def relaxFuncFor (link : Link) (rel next : Rela) : Option RelaxFunc :=
  if next.type = .relax ∧ rel.offset = next.offset then relaxFuncOf link rel.type else none

/-- The loop of pass 0.  The last relocation has none after it to be paired with. -/
def relaxRelocs (link : Link) (inp : Input) (maxAlignment : Vma) : PassState → List Rela → PassState × List Rela
  | st, [] => (st, [])
  | st, [rel] => (st, [rel])
  | st, rel :: next :: rest =>
    match relaxFuncFor link rel next with
    | none =>
      let out := relaxRelocs link inp maxAlignment st (next :: rest)
      (out.1, rel :: out.2)
    | some func =>
      let r := relaxPair link inp maxAlignment func st rel next
      let out := relaxRelocs link inp maxAlignment r.st rest
      (out.1, r.rel :: r.next :: out.2)

/-! ## What the loop visits -/

section Loop

variable {link : Link} {inp : Input} {maxAlignment : Vma}

theorem relaxFuncFor_eq_some {rel next : Rela} {func : RelaxFunc} (h : relaxFuncFor link rel next = some func) :
    next.type = .relax ∧ rel.offset = next.offset ∧ relaxFuncOf link rel.type = some func := by
  unfold relaxFuncFor at h
  split at h
  · rename_i hpair
    exact ⟨hpair.1, hpair.2, h⟩
  · exact absurd h (by simp)

/-- An `R_RISCV_RELAX` is never relaxed itself. -/
theorem relaxFuncFor_of_relax {rel next : Rela} (h : rel.type = .relax) : relaxFuncFor link rel next = none := by
  unfold relaxFuncFor
  split
  · simp [h, relaxFuncOf]
  · rfl

variable (link inp maxAlignment) in
/-- A step rule for the loop.  `P k` is an invariant of the state in which position `k` is examined; every
relocation that is paired with an `R_RISCV_RELAX` is relaxed in such a state, and both are left as that says. -/
theorem relaxRelocs_visit : ∀ (relocs : List Rela) (P : Nat → PassState → Prop) (st : PassState), P 0 st →
    (∀ k st, P k st → (∀ rel next, relocs[k]? = some rel → relocs[k + 1]? = some next →
      relaxFuncFor link rel next = none) → P (k + 1) st) →
    (∀ k st rel next func, P k st → relocs[k]? = some rel → relocs[k + 1]? = some next →
      relaxFuncFor link rel next = some func →
      P (k + 2) (relaxPair link inp maxAlignment func st rel next).st) →
    ∀ k rel next func, relocs[k]? = some rel → relocs[k + 1]? = some next →
      relaxFuncFor link rel next = some func →
      ∃ st', P k st' ∧
        (relaxRelocs link inp maxAlignment st relocs).2[k]? =
          some (relaxPair link inp maxAlignment func st' rel next).rel ∧
        (relaxRelocs link inp maxAlignment st relocs).2[k + 1]? =
          some (relaxPair link inp maxAlignment func st' rel next).next
  | [], _, _, _, _, _, k, rel, _, _, hrel, _, _ => absurd hrel (by simp)
  | [_], _, _, _, _, _, k, rel, next, _, _, hnext, _ => absurd hnext (by simp)
  | rel₀ :: next₀ :: rest, P, st, h0, hskip, hpair, k, rel, next, func, hrel, hnext, hfunc => by
    rw [relaxRelocs]
    cases hf : relaxFuncFor link rel₀ next₀ with
    | none =>
      cases k with
      | zero =>
        simp only [List.getElem?_cons_zero, List.getElem?_cons_succ, Option.some.injEq] at hrel hnext
        rw [hrel, hnext, hfunc] at hf
        exact absurd hf (by simp)
      | succ k =>
        have h1 : P 1 st := by
          refine hskip 0 st h0 fun r n hr hn => ?_
          simp only [List.getElem?_cons_zero, List.getElem?_cons_succ, Option.some.injEq] at hr hn
          rw [← hr, ← hn, hf]
        obtain ⟨st', hst', hres⟩ := relaxRelocs_visit (next₀ :: rest) (fun k => P (k + 1)) st h1
          (fun k st hk h => hskip (k + 1) st hk fun r n hr hn => h r n (by simpa using hr) (by simpa using hn))
          (fun k st r n f hk hr hn => hpair (k + 1) st r n f hk (by simpa using hr) (by simpa using hn))
          k rel next func (by simpa using hrel) (by simpa using hnext) hfunc
        exact ⟨st', hst', by simpa using hres⟩
    | some func₀ =>
      match k with
      | 0 =>
        simp only [List.getElem?_cons_zero, List.getElem?_cons_succ, Option.some.injEq] at hrel hnext
        rw [hrel, hnext, hfunc, Option.some.injEq] at hf
        rw [← hrel, ← hnext, hf]
        exact ⟨st, h0, rfl, rfl⟩
      | 1 =>
        -- the relocation after a pair's first is its `R_RISCV_RELAX`
        simp only [List.getElem?_cons_zero, List.getElem?_cons_succ, Option.some.injEq] at hrel
        rw [← hrel, relaxFuncFor_of_relax (relaxFuncFor_eq_some hf).1] at hfunc
        exact absurd hfunc (by simp)
      | k + 2 =>
        have h2 : P 2 (relaxPair link inp maxAlignment func₀ st rel₀ next₀).st :=
          hpair 0 st rel₀ next₀ func₀ h0 (by simp) (by simp) hf
        obtain ⟨st', hst', hres⟩ := relaxRelocs_visit rest (fun k => P (k + 2)) _ h2
          (fun k st hk h => hskip (k + 2) st hk fun r n hr hn => h r n (by simpa using hr) (by simpa using hn))
          (fun k st r n f hk hr hn => hpair (k + 2) st r n f hk (by simpa using hr) (by simpa using hn))
          k rel next func (by simpa using hrel) (by simpa using hnext) hfunc
        exact ⟨st', hst', by simpa using hres⟩

/-- The state in which position `k` is examined. -/
def stateAt (link : Link) (inp : Input) (maxAlignment : Vma) (st : PassState) (relocs : List Rela) : Nat → PassState
  | 0 => st
  | k + 1 =>
    match relocs[k]?, relocs[k + 1]? with
    | some rel, some next =>
      match relaxFuncFor link rel next with
      | some func => (relaxPair link inp maxAlignment func (stateAt link inp maxAlignment st relocs k) rel next).st
      | none => stateAt link inp maxAlignment st relocs k
    | _, _ => stateAt link inp maxAlignment st relocs k

variable {st : PassState} {relocs : List Rela} {k : Nat} {rel next : Rela} {func : RelaxFunc}

theorem stateAt_pair (hrel : relocs[k]? = some rel) (hnext : relocs[k + 1]? = some next)
    (hf : relaxFuncFor link rel next = some func) :
    stateAt link inp maxAlignment st relocs (k + 1) =
      (relaxPair link inp maxAlignment func (stateAt link inp maxAlignment st relocs k) rel next).st := by
  simp only [stateAt, hrel, hnext, hf]

theorem stateAt_skip (h : ∀ rel next, relocs[k]? = some rel → relocs[k + 1]? = some next →
    relaxFuncFor link rel next = none) :
    stateAt link inp maxAlignment st relocs (k + 1) = stateAt link inp maxAlignment st relocs k := by
  rw [stateAt]
  split
  · rename_i rel next hrel hnext
    rw [h rel next hrel hnext]
  · rfl

/-- A paired relocation ends up as the relaxation function leaves it, in that state. -/
theorem relaxRelocs_pair (hrel : relocs[k]? = some rel) (hnext : relocs[k + 1]? = some next)
    (hf : relaxFuncFor link rel next = some func) :
    (relaxRelocs link inp maxAlignment st relocs).2[k]? =
        some (relaxPair link inp maxAlignment func (stateAt link inp maxAlignment st relocs k) rel next).rel ∧
      (relaxRelocs link inp maxAlignment st relocs).2[k + 1]? =
        some (relaxPair link inp maxAlignment func (stateAt link inp maxAlignment st relocs k) rel next).next := by
  obtain ⟨st', rfl, hres⟩ := relaxRelocs_visit link inp maxAlignment relocs
    (fun k s => s = stateAt link inp maxAlignment st relocs k) st rfl
    (by rintro k s rfl h; exact (stateAt_skip h).symm)
    (by
      rintro k s rel next func rfl hrel hnext hf
      rw [← stateAt_pair hrel hnext hf]
      refine (stateAt_skip fun r n hr _ => relaxFuncFor_of_relax ?_).symm
      rw [hnext, Option.some.injEq] at hr
      exact hr ▸ (relaxFuncFor_eq_some hf).1)
    k rel next func hrel hnext hf
  exact hres

theorem relaxRelocs_getElem? (hrel : relocs[k]? = some rel) (hnext : relocs[k + 1]? = some next)
    (hf : relaxFuncFor link rel next = some func) :
    (relaxRelocs link inp maxAlignment st relocs).2[k]? =
      some (relaxPair link inp maxAlignment func (stateAt link inp maxAlignment st relocs k) rel next).rel :=
  (relaxRelocs_pair hrel hnext hf).1

/-- A relocation that no function relaxes stays. -/
theorem relaxRelocs_unrelaxed {rel : Rela} (hfunc : relaxFuncOf link rel.type = none) (hrelax : rel.type ≠ .relax) :
    ∀ k : Nat, relocs[k]? = some rel → (relaxRelocs link inp maxAlignment st relocs).2[k]? = some rel := by
  induction st, relocs using relaxRelocs.induct link inp maxAlignment with
  | case1 st => exact fun _ => id
  | case2 st first => exact fun _ => id
  | case3 st first next rest hf ih =>
    intro k hk
    rw [relaxRelocs, hf]
    cases k with
    | zero => exact hk
    | succ k => exact ih k hk
  | case4 st first next rest func hf _ ih =>
    intro k hk
    obtain ⟨hnext, -, hfirst⟩ := relaxFuncFor_eq_some hf
    rw [relaxRelocs, hf]
    match k with
    | 0 =>
      cases hk
      rw [hfunc] at hfirst
      cases hfirst
    | 1 =>
      cases hk
      exact absurd hnext hrelax
    | k + 2 => exact ih k hk

/-- An invariant of the loop holds wherever a relocation is examined. -/
theorem stateAt_invariant {P : PassState → Prop} (h0 : P st)
    (hstep : ∀ st func rel next, P st → P (relaxPair link inp maxAlignment func st rel next).st) :
    ∀ k, P (stateAt link inp maxAlignment st relocs k)
  | 0 => h0
  | k + 1 => by
    have ih := stateAt_invariant h0 hstep k
    rw [stateAt]
    split
    · split
      · exact hstep _ _ _ _ ih
      · exact ih
    · exact ih

end Loop

/-- The relocation at index `k`, paired with an `R_RISCV_RELAX`. -/
def RelaxMarked (relocs : List Rela) (k : Nat) (rel : Rela) : Prop :=
  relocs[k]? = some rel ∧ ∃ next, relocs[k + 1]? = some next ∧ next.type = .relax ∧ rel.offset = next.offset

theorem RelaxMarked.pair {link : Link} {relocs : List Rela} {k : Nat} {rel : Rela} {func : RelaxFunc}
    (h : RelaxMarked relocs k rel) (hfunc : relaxFuncOf link rel.type = some func) :
    relocs[k]? = some rel ∧ ∃ next, relocs[k + 1]? = some next ∧ relaxFuncFor link rel next = some func := by
  obtain ⟨hrel, next, hnext, htype, hoff⟩ := h
  exact ⟨hrel, next, hnext, by rw [relaxFuncFor, if_pos ⟨htype, hoff⟩, hfunc]⟩

/-! ## The cached alignment -/

/-- During a pass the cache holds what it held at its start, or what is computed when it was empty. -/
def CacheOk (link : Link) (cache : Vma) (st : PassState) : Prop :=
  st.maxAlignmentForGp = cache ∨
    cache = -1 ∧ st.maxAlignmentForGp = bfdRiscvGetMaxAlignment link (relaxGpValue link)

section Cache

variable {link : Link} {inp : Input} {maxAlignment cache : Vma}

/-- So the alignment used is the same at every relocation of the pass. -/
theorem CacheOk.gpAlignment {st : PassState} (h : CacheOk link cache st) (symSec : Nat) (undefinedWeak : Bool)
    (maxAlignment : Vma) :
    (gpAlignment link symSec undefinedWeak maxAlignment st.maxAlignmentForGp).1 =
        (Bfd.gpAlignment link symSec undefinedWeak maxAlignment cache).1 ∧
      CacheOk link cache
        { st with maxAlignmentForGp :=
            (Bfd.gpAlignment link symSec undefinedWeak maxAlignment st.maxAlignmentForGp).2 } := by
  unfold Bfd.gpAlignment
  dsimp only
  split
  · split
    · exact ⟨rfl, h⟩
    · rcases h with h | ⟨h, h'⟩
      · refine ⟨by rw [h], ?_⟩
        by_cases hc : cache = -1
        · exact .inr ⟨hc, by rw [h, if_pos hc]⟩
        · exact .inl (by rw [h, if_neg hc])
      · rw [h', h]
        split
        · exact ⟨by simp, .inr ⟨rfl, rfl⟩⟩
        · exact ⟨by simp, .inr ⟨rfl, rfl⟩⟩
  · exact ⟨rfl, h⟩

/-- The functions that do not look at gp leave the cache alone. -/
theorem bfdRiscvRelaxCall_cache (args : RelaxArgs) (st : PassState) (rel next : Rela) :
    (bfdRiscvRelaxCall link inp args st rel next).st.maxAlignmentForGp = st.maxAlignmentForGp := by
  unfold bfdRiscvRelaxCall
  dsimp only
  split <;> rfl

theorem bfdRiscvRelaxTlsLe_cache (args : RelaxArgs) (st : PassState) (rel next : Rela) :
    (bfdRiscvRelaxTlsLe link args st rel next).st.maxAlignmentForGp = st.maxAlignmentForGp := by
  unfold bfdRiscvRelaxTlsLe
  split
  · rfl
  · split <;> rfl

theorem relaxCLui_cache (st : PassState) (rel next : Rela) :
    (relaxCLui st rel next).st.maxAlignmentForGp = st.maxAlignmentForGp := by
  unfold relaxCLui
  dsimp only
  split <;> rfl

theorem CacheOk.relaxLui {st : PassState} (h : CacheOk link cache st) (args : RelaxArgs) (rel next : Rela) :
    CacheOk link cache (bfdRiscvRelaxLui link inp args st rel next).st := by
  have hst := (h.gpAlignment args.symSec args.undefinedWeak args.maxAlignment).2
  unfold bfdRiscvRelaxLui
  dsimp only
  split
  · split <;> exact hst
  · split
    · rw [CacheOk, relaxCLui_cache]
      exact hst
    · exact hst

theorem CacheOk.relaxPc {st : PassState} (h : CacheOk link cache st) (args : RelaxArgs) (rel next : Rela) :
    CacheOk link cache (bfdRiscvRelaxPc link args st rel next).st := by
  have hlo : ∀ type, CacheOk link cache (relaxPcLo link args st rel next type).st := by
    intro type
    unfold relaxPcLo
    dsimp only
    split
    · exact h
    · rename_i hi _
      have hst := (h.gpAlignment hi.symSec hi.undefinedWeak args.maxAlignment).2
      split <;> exact hst
  have hhi : CacheOk link cache (relaxPcHi link args st rel next).st := by
    have hst := (h.gpAlignment args.symSec args.undefinedWeak args.maxAlignment).2
    unfold relaxPcHi
    dsimp only
    split
    · exact h
    · split
      · exact h
      · split <;> exact hst
  unfold bfdRiscvRelaxPc
  split
  · exact hlo _
  · exact hlo _
  · exact hhi

theorem CacheOk.relaxPair {st : PassState} (h : CacheOk link cache st) (func : RelaxFunc) (rel next : Rela) :
    CacheOk link cache (relaxPair link inp maxAlignment func st rel next).st := by
  unfold Bfd.relaxPair
  dsimp only
  split
  · exact h
  · rename_i s _
    have h' : CacheOk link cache
        { st with reserveSize := (relaxSymbol link inp func rel st.reserveSize).2 } := h
    cases func with
    | call => rw [applyRelaxFunc, CacheOk, bfdRiscvRelaxCall_cache]; exact h'
    | lui => exact h'.relaxLui ..
    | tlsLe => rw [applyRelaxFunc, CacheOk, bfdRiscvRelaxTlsLe_cache]; exact h'
    | pc => exact h'.relaxPc ..

variable (link inp maxAlignment) in
theorem cacheOk_stateAt (st : PassState) (relocs : List Rela) (k : Nat) :
    CacheOk link st.maxAlignmentForGp (stateAt link inp maxAlignment st relocs k) :=
  stateAt_invariant (.inl rfl) (fun _ func rel next h => h.relaxPair func rel next) k

end Cache

end RiscvBinutils.Bfd
