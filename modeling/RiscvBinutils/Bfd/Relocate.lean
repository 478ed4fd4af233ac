/-
Relocating a section (bfd/elfnn-riscv.c, `riscv_elf_relocate_section`).
The loop places each relocation with `perform_relocation`, fills in GOT entries, emits dynamic
relocations, and records the PC-relative high parts; the low parts are resolved after the loop.
The first error ends it.
-/
import RiscvBinutils.Bfd.Link

namespace RiscvBinutils.Bfd

open RiscvBinutils.Base RiscvBinutils.Opcode

/-! ## The state of the loop -/

/-- `riscv_pcrel_hi_reloc`. -/
structure PcrelHiReloc where
  address : Vma
  value : Vma
  type : RelocType
  deriving DecidableEq, Repr

/-- `riscv_pcrel_lo_reloc`. -/
structure PcrelLoReloc where
  address : Vma
  rel : Rela
  deriving DecidableEq, Repr

/-- A word stored in one of the GOT sections. -/
structure GotWrite where
  sec : Nat
  off : Vma
  value : Vma
  deriving DecidableEq, Repr

/-- The sections that take dynamic relocations. -/
inductive RelaSection
  | srelgot | irelifunc | irelplt | sreloc
  deriving DecidableEq, Repr

/-- What the loop changes.  `got.offset` of a hash entry and `local_got_offsets` carry in their low bit
whether the entry has been filled in.  Lists are newest first. -/
structure RelocState where
  contents : List Byte
  globalGot : Nat → Vma := fun _ => -1
  localGot : Nat → Vma := fun _ => -1
  gotWrites : List GotWrite := []
  relas : List (RelaSection × Rela) := []
  hiRelocs : List PcrelHiReloc := []
  loRelocs : List PcrelLoReloc := []
  /-- `uleb128_set_vma` and `uleb128_set_rel`. -/
  uleb128Set : Option (Vma × Rela) := none

/-- Why the loop stops. -/
inductive RelocError
  /-- `perform_relocation` or the switch refused, with the callback of that status. -/
  | status (r : RelocStatus)
  /-- "Mismatched R_RISCV_SET_ULEB128, it must be paired with and applied before R_RISCV_SUB_ULEB128". -/
  | mismatchedSetUleb128
  /-- "Mismatched R_RISCV_SUB_ULEB128, it must be paired with and applied after R_RISCV_SET_ULEB128". -/
  | mismatchedSubUleb128
  /-- "The addend isn't allowed for R_RISCV_GOT_HI20". -/
  | gotHi20Addend
  /-- "relocation %s against `%s' which may bind externally can not be used when making a shared object". -/
  | mayBindExternally
  /-- "%pcrel_lo section symbol with an addend". -/
  | sectionSymbolAddend
  /-- "unresolvable %s relocation against symbol `%s'". -/
  | unresolvable
  /-- "relocation %s against STT_GNU_IFUNC symbol `%s' has non-zero addend: %" PRId64. -/
  | ifuncAddend
  /-- "relocation %s against STT_GNU_IFUNC symbol `%s' isn't supported". -/
  | ifuncNotSupported
  /-- "%pcrel_lo missing matching %pcrel_hi". -/
  | pcrelLoMissingHi
  /-- "%pcrel_lo with addend isn't allowed for R_RISCV_GOT_HI20". -/
  | pcrelLoGotAddend
  /-- "%pcrel_lo overflow with an addend". -/
  | pcrelLoOverflow
  /-- `abort ()`, or an entry that is not there. -/
  | aborted
  deriving DecidableEq, Repr

/-- The state after a part of the work, also when it ended with an error. -/
abbrev RelocOutcome := Except (RelocError × RelocState) RelocState

/-! ## PC-relative high and low parts -/

def maskAuipc : Vma := 0x7f
def matchAuipc : Vma := 0x17
def matchLui : Vma := 0x37

/-- `riscv_zero_pcrel_hi_reloc`: make the AUIPC a LUI when only that reaches the address. -/
def riscvZeroPcrelHiReloc (link : Link) (rel : Rela) (pc addr : Vma) (contents : List Byte) :
    Bool × Rela × List Byte :=
  if link.pic then (false, rel, contents)
  else if link.xlen = .rv32 ∨ validUtypeImm (constHighPart (addr - pc)) then (false, rel, contents)
  else if !validUtypeImm (constHighPart addr) then (false, rel, contents)
  else
    let off := rel.offset.toNat
    let insn := (getl 4 contents off &&& ~~~maskAuipc) ||| matchLui
    -- `ELFNN_R_INFO (addr, R_RISCV_HI20)`: the symbol index is not used any more
    (true, { rel with sym := addr.toNat % 2 ^ 32, type := .hi20 }, putl 4 insn contents off)

/-- `riscv_record_pcrel_hi_reloc`. -/
def riscvRecordPcrelHiReloc (st : RelocState) (addr value : Vma) (type : RelocType) (absolute : Bool) :
    RelocState :=
  { st with hiRelocs := ⟨addr, if absolute then value else value - addr, type⟩ :: st.hiRelocs }

/-- The lookup in `hi_relocs`; a later record for the same address has replaced an earlier one. -/
def riscvFindPcrelHiReloc (his : List PcrelHiReloc) (addr : Vma) : Option PcrelHiReloc :=
  his.find? (·.address = addr)

/-- One round of `riscv_resolve_pcrel_lo_relocs`. -/
def resolvePcrelLoReloc (tgt : Target) (secAddr : Vma) (his : List PcrelHiReloc) (contents : List Byte)
    (r : PcrelLoReloc) : Except (RelocError × List Byte) (List Byte) :=
  match riscvFindPcrelHiReloc his r.address with
  | none => .error (.pcrelLoMissingHi, contents)
  | some entry =>
    if entry.type = .gotHi20 ∧ r.rel.addend ≠ 0 then .error (.pcrelLoGotAddend, contents)
    else if constHighPart entry.value ≠ constHighPart (entry.value + r.rel.addend) then
      .error (.pcrelLoOverflow, contents)
    else .ok (performRelocation tgt r.rel entry.value secAddr contents).2

/-- `riscv_resolve_pcrel_lo_relocs`. -/
def riscvResolvePcrelLoRelocs (tgt : Target) (secAddr : Vma) (his : List PcrelHiReloc) :
    List PcrelLoReloc → List Byte → Except (RelocError × List Byte) (List Byte)
  | [], contents => .ok contents
  | r :: rs, contents =>
    match resolvePcrelLoReloc tgt secAddr his contents r with
    | .error e => .error e
    | .ok contents => riscvResolvePcrelLoRelocs tgt secAddr his rs contents

/-! ## The symbol of a relocation -/

/-- What the loop knows about the symbol: its address, its hash entry unless it is local, its section,
whether it is a section symbol, and `unresolved_reloc`.  The addend of the relocation may change. -/
structure RelocSym where
  rel : Rela
  relocation : Vma
  h : Option (Nat × HashEntry) := none
  sec : Option Nat := none
  sectionSym : Bool := false
  unresolved : Bool := false

/-- `_bfd_elf_rela_local_sym`. -/
def bfdElfRelaLocalSym (link : Link) (isym : LocalSym) (sec : Nat) (rel : Rela) : Rela × Nat × Vma :=
  let s := link.sections sec
  let relocation := link.secAddr sec + isym.value
  if s.merge ∧ isym.type = .section ∧ s.infoMerge then
    let merged := link.mergedSectionOffset sec (isym.value + rel.addend)
    ({ rel with addend := merged.2 - relocation + link.secAddr merged.1 }, merged.1, relocation)
  else (rel, sec, relocation)

/-- A local symbol; an IFUNC has an entry in the hash table of its own. -/
def localRelocSym (link : Link) (inp : Input) (rel : Rela) (isym : LocalSym) : Except RelocError RelocSym :=
  let found := bfdElfRelaLocalSym link isym (inp.elfSections isym.shndx) rel
  let s : RelocSym :=
    { rel := found.1, sec := some found.2.1, relocation := found.2.2, sectionSym := isym.type = .section }
  if link.type ≠ .relocatable ∧ isym.type = .gnuIfunc then
    match (inp.localIfunc rel.sym).bind fun p => inp.hashes[p]?.map fun e => (p, e) with
    | none => .error .aborted
    | some h => .ok { s with h := some h, sectionSym := h.2.type = .section }
  else .ok s

/-- `RELOC_FOR_GLOBAL_SYMBOL`; an undefined symbol is diagnosed and stands at the start of the section. -/
def globalRelocSym (link : Link) (inp : Input) (rel : Rela) (p : Nat) (h : HashEntry) : RelocSym :=
  let s : RelocSym := { rel, relocation := 0, h := some (p, h), sectionSym := h.type = .section }
  if h.rootType = .defined ∨ h.rootType = .defweak then
    match h.defSection with
    | none => { s with unresolved := true }
    | some sec =>
      if (link.sections sec).output.isNone then { s with sec := some sec, unresolved := true }
      else { s with sec := some sec, relocation := h.defValue + link.secAddr sec }
  else if h.rootType = .undefweak then s
  else if link.ignoreUnresolved ∧ h.other = .stvDefault then s
  else if link.type ≠ .relocatable then
    { s with relocation := ((link.sections inp.sec).output.map fun o => (link.outputs o).vma).getD 0 }
  else s

def relocSymbol (link : Link) (inp : Input) (rel : Rela) : Except RelocError RelocSym :=
  match inp.locals[rel.sym]? with
  | some isym => localRelocSym link inp rel isym
  | none =>
    let unwrap := link.wrapHash ∧ (link.sections inp.sec).debugging
    let first := inp.symHashes[rel.sym - inp.locals.length]?.map fun p =>
      if unwrap then link.unwrapHashLookup p else p
    match first.bind (followLink inp.hashes (inp.hashes.length + 1)) with
    | none => .error .aborted
    | some p =>
      match inp.hashes[p]? with
      | none => .error .aborted
      | some h => .ok (globalRelocSym link inp rel p h)

/-- `_bfd_clear_contents`, for a relocation against a discarded section. -/
def bfdClearContents (link : Link) (sec : Nat) (type : RelocType) (contents : List Byte) (off : Nat) :
    List Byte :=
  let h := howto type
  let n := h.bitsize / 8
  if contents.length < off + n then contents
  else
    let x := (if link.bigEndian then getb n contents off else getl n contents off) &&& ~~~h.dstMask
    let x := if (link.sections sec).debugRanges ∧ h.dstMask &&& 1 ≠ 0 then x ||| 1 else x
    if link.bigEndian then putb n x contents off else putl n x contents off

/-! ## GOT entries -/

/-- `bfd_put_NN` to a GOT section. -/
def RelocState.putGot (st : RelocState) (sec : Nat) (off value : Vma) : RelocState :=
  { st with gotWrites := ⟨sec, off, value⟩ :: st.gotWrites }

/-- `riscv_elf_append_rela`. -/
def RelocState.appendRela (st : RelocState) (sec : RelaSection) (rela : Rela) : RelocState :=
  { st with relas := (sec, rela) :: st.relas }

/-- `got.offset`, or the local symbol's. -/
def RelocState.gotOffset (st : RelocState) (s : RelocSym) : Vma :=
  match s.h with
  | some (p, _) => st.globalGot p
  | none => st.localGot s.rel.sym

/-- `got.offset |= 1`. -/
def RelocState.markGot (st : RelocState) (s : RelocSym) : RelocState :=
  match s.h with
  | some (p, _) => { st with globalGot := Function.update st.globalGot p (st.globalGot p ||| 1) }
  | none => { st with localGot := Function.update st.localGot s.rel.sym (st.localGot s.rel.sym ||| 1) }

/-- The GOT entry of an `R_RISCV_GOT_HI20`: its offset, after it has been filled in where that is the
linker's task. -/
def fillGot (link : Link) (sgot : Nat) (st : RelocState) (s : RelocSym) : RelocState × Vma :=
  let off := st.gotOffset s
  match s.h with
  | some (_, h) =>
    if riscvResolvedLocally link h then
      if off &&& 1 ≠ 0 then (st, off &&& ~~~1)
      else ((st.putGot sgot off s.relocation).markGot s, off)
    else (st, off)
  | none =>
    if off &&& 1 ≠ 0 then (st, off &&& ~~~1)
    else if link.pic then
      -- `R_RISCV_RELATIVE` for the dynamic linker
      let st := st.appendRela .srelgot ⟨link.secAddr sgot + off, 0, .relative, s.relocation⟩
      ((st.putGot sgot off 0).markGot s, off)
    else ((st.putGot sgot off s.relocation).markGot s, off)

/-- `_bfd_riscv_elf_tls_type`. -/
def RelocSym.tlsType (inp : Input) (s : RelocSym) : GotType :=
  match s.h with
  | some (_, h) => h.tlsType
  | none => inp.localGotTlsType s.rel.sym

/-- The IE word follows the two GD words when the symbol has both. -/
def ieOff (xlen : Xlen) (t : GotType) : Vma :=
  if t.gd ∧ t.ie then BitVec.ofNat 64 (2 * xlen.wordBytes) else 0

def Xlen.tlsDtpmod : Xlen → RelocType
  | .rv32 => .tlsDtpmod32
  | .rv64 => .tlsDtpmod64

def Xlen.tlsDtprel : Xlen → RelocType
  | .rv32 => .tlsDtprel32
  | .rv64 => .tlsDtprel64

def Xlen.tlsTprel : Xlen → RelocType
  | .rv32 => .tlsTprel32
  | .rv64 => .tlsTprel64

/-- The two GD words. -/
def fillTlsGd (link : Link) (sgot : Nat) (st : RelocState) (relocation off : Vma) (indx : Int) (needRelocs : Bool) :
    RelocState :=
  let word := BitVec.ofNat 64 link.xlen.wordBytes
  let slot := link.secAddr sgot + off
  if needRelocs then
    let st := st.putGot sgot off 0
    let st := st.appendRela .srelgot ⟨slot, indx.toNat, link.xlen.tlsDtpmod, 0⟩
    if indx = 0 then st.putGot sgot (off + word) (dtpoff link relocation)
    else
      let st := st.putGot sgot (off + word) 0
      st.appendRela .srelgot ⟨slot + word, indx.toNat, link.xlen.tlsDtprel, 0⟩
  else
    let st := st.putGot sgot off 1
    st.putGot sgot (off + word) (dtpoff link relocation)

/-- The IE word. -/
def fillTlsIe (link : Link) (sgot : Nat) (st : RelocState) (relocation off : Vma) (indx : Int) (needRelocs : Bool) :
    RelocState :=
  if needRelocs then
    let st := st.putGot sgot off 0
    let addend := if indx = 0 then tpoff link relocation else 0
    st.appendRela .srelgot ⟨link.secAddr sgot + off, indx.toNat, link.xlen.tlsTprel, addend⟩
  else st.putGot sgot off (tpoff link relocation)

/-- The GOT entries of an `R_RISCV_TLS_GOT_HI20` or `R_RISCV_TLS_GD_HI20`, filled in at the first use. -/
def fillTlsGot (link : Link) (inp : Input) (sgot : Nat) (st : RelocState) (s : RelocSym) : RelocState × Vma :=
  let off := st.gotOffset s
  let st := st.markGot s
  let t := s.tlsType inp
  if off &&& 1 ≠ 0 then (st, off &&& ~~~1)
  else
    let indx := (riscvTlsGdIeNeedDynReloc link (s.h.map (·.2))).1
    let needRelocs := (riscvTlsGdIeNeedDynReloc link (s.h.map (·.2))).2
    let st := if t.gd then fillTlsGd link sgot st s.relocation off indx needRelocs else st
    let st := if t.ie then fillTlsIe link sgot st s.relocation (off + ieOff link.xlen t) indx needRelocs else st
    (st, off)

/-! ## Placing a relocation -/

/-- `do_relocation`, for a relocation that was not refused. -/
def doRelocation (link : Link) (inp : Input) (st : RelocState) (rel : Rela) (relocation : Vma) :
    RelocOutcome :=
  match performRelocation link.target rel relocation (link.secAddr inp.sec) st.contents with
  | (.ok, contents) => .ok { st with contents }
  | (status, contents) => .error (.status status, { st with contents })

/-- The end of the switch: an unresolved relocation is an error outside debugging sections. -/
def placeRelocation (link : Link) (inp : Input) (st : RelocState) (s : RelocSym) (unresolved : Bool) (rel : Rela)
    (relocation : Vma) : RelocOutcome :=
  if unresolved ∧ ¬((link.sections inp.sec).debugging ∧ s.h.any (·.2.defDynamic))
      ∧ link.sectionOffset inp.sec rel.offset ≠ -1 then .error (.unresolvable, st)
  else doRelocation link inp st rel relocation

/-- Replace the base register of an instruction. -/
def setRs1 (reg : Vma) (contents : List Byte) (off : Nat) : List Byte :=
  putl 4 ((getl 4 contents off &&& ~~~(0x1f#64 <<< 15)) ||| (reg <<< 15)) contents off

/-- `R_RISCV_32` and `R_RISCV_64` in an allocated section of a dynamic link: the dynamic relocation, and
whether the field is relocated as well. -/
def dynamicData (link : Link) (inp : Input) (s : RelocSym) (resolvedToZero : Bool) : Option (Rela × Bool) :=
  let rel := s.rel
  if riscvGenerateDynamicReloc (howto rel.type).pcRelative link (s.h.map (·.2)) resolvedToZero then
    let offset := link.sectionOffset inp.sec rel.offset
    let absSym := s.h.filter fun h => bfdIsAbsSymbol link h.2
    let (skip, relocate) :=
      if offset = -1 then (true, false)
      else if offset = -2 then (true, true)
      else
        match absSym with
        | some (_, h) => (h.forcedLocal || h.dynindx = -1, h.forcedLocal || h.dynindx = -1)
        | none => (false, false)
    let outrel : Rela :=
      if skip then ⟨0, 0, .none, 0⟩
      else if riscvCopyInputReloc link (s.h.map (·.2)) then
        ⟨offset + link.secAddr inp.sec, (s.h.map fun h => h.2.dynindx.toNat).getD 0, rel.type, rel.addend⟩
      else ⟨offset + link.secAddr inp.sec, 0, .relative, s.relocation + rel.addend⟩
    some (outrel, relocate)
  else none

/-- A PC-relative high part against an address: turned into a LUI if need be, recorded with `value`, placed. -/
def placePcrelHi (link : Link) (inp : Input) (st : RelocState) (s : RelocSym) (unresolved : Bool)
    (relocation value : Vma) : RelocOutcome :=
  let pc := link.secAddr inp.sec + s.rel.offset
  let zero := riscvZeroPcrelHiReloc link s.rel pc relocation st.contents
  let st := riscvRecordPcrelHiReloc { st with contents := zero.2.2 } pc value s.rel.type zero.1
  placeRelocation link inp st s unresolved zero.2.1 relocation

/-- The word of an `R_RISCV_SUB6`, from the old one. -/
def sub6Value (old relocation : Vma) : Vma :=
  let mask := (howto .sub6).dstMask
  (old &&& ~~~mask) ||| (((old &&& mask) - relocation) &&& mask)

/-- `R_RISCV_CALL` against an undefined weak symbol jumps to address zero through `x0`. -/
def callUndefweak (link : Link) (s : RelocSym) : Bool :=
  s.h.any fun h => h.2.rootType = .undefweak ∧ (link.pic = false ∨ h.2.pltOffset = -1)

/-- The common part of `R_RISCV_CALL`, `R_RISCV_JAL` and `R_RISCV_RVC_JUMP`. -/
def placeJump (link : Link) (inp : Input) (st : RelocState) (s : RelocSym) (relocation : Vma) :
    RelocOutcome :=
  match (if link.pic then s.h else none) with
  | none => placeRelocation link inp st s s.unresolved s.rel relocation
  | some (_, h) =>
    if h.pltOffset ≠ -1 then
      placeRelocation link inp st s false s.rel (link.secAddr link.splt + h.pltOffset)
    else if symbolReferencesLocal link h = false ∧ (link.sections inp.sec).alloc
        ∧ (link.sections inp.sec).readonly ∧ h.other = .stvDefault then .error (.mayBindExternally, st)
    else placeRelocation link inp st s s.unresolved s.rel relocation

/-- The switch over the relocation types. -/
def relocatePlain (link : Link) (inp : Input) (st : RelocState) (s : RelocSym) : RelocOutcome :=
  let rel := s.rel
  let off := rel.offset.toNat
  let old := getWord link.target (howto rel.type) st.contents off
  match rel.type with
  | .none | .relax | .tprelAdd | .copy | .jumpSlot | .relative => .ok st
  | .hi20 | .branch | .rvcBranch | .rvcLui | .lo12I | .lo12S | .set6 | .set8 | .set16 | .set32 | .pcrel32
  | .delete => placeRelocation link inp st s s.unresolved rel s.relocation
  | .setUleb128 =>
    match st.uleb128Set with
    | none => .ok { st with uleb128Set := some (s.relocation, rel) }
    | some _ => .error (.mismatchedSetUleb128, st)
  | .subUleb128 =>
    match st.uleb128Set with
    | none => .error (.mismatchedSubUleb128, st)
    | some (vma, set) =>
      if set.offset = rel.offset then
        placeRelocation link inp { st with uleb128Set := none } s s.unresolved rel (vma - s.relocation + set.addend)
      else .error (.mismatchedSubUleb128, st)
  | .gotHi20 =>
    match link.sgot with
    | none => .error (.aborted, st)
    | some sgot =>
      let filled := fillGot link sgot st s
      if rel.addend ≠ 0 then .error (.gotHi20Addend, filled.1)
      else
        let slot := link.secAddr sgot + filled.2
        -- an entry that the dynamic linker fills in resolves the relocation
        let unresolved := s.unresolved ∧ s.h.any fun h => riscvResolvedLocally link h.2
        placePcrelHi link inp filled.1 s unresolved slot slot
  | .add8 | .add16 | .add32 | .add64 => placeRelocation link inp st s s.unresolved rel (old + s.relocation)
  | .sub6 => placeRelocation link inp st s s.unresolved rel (sub6Value old s.relocation)
  | .sub8 | .sub16 | .sub32 | .sub64 => placeRelocation link inp st s s.unresolved rel (old - s.relocation)
  | .call | .callPlt =>
    if callUndefweak link s then
      let st := { st with contents := setRs1 0 st.contents (off + 4) }
      placeJump link inp st s (link.secAddr inp.sec + rel.offset)
    else placeJump link inp st s s.relocation
  | .jal | .rvcJump => placeJump link inp st s s.relocation
  | .tprelHi20 | .tprelLo12I | .tprelLo12S => placeRelocation link inp st s s.unresolved rel (tpoff link s.relocation)
  | .tprelI | .tprelS =>
    let relocation := tpoff link s.relocation
    if validItypeImm (relocation + rel.addend) then
      placeRelocation link inp { st with contents := setRs1 4 st.contents off } s s.unresolved rel relocation
    else .error (.status .overflow, st)
  | .gprelI | .gprelS =>
    let gp := riscvGlobalPointerValue link
    if validItypeImm (s.relocation + rel.addend) then
      placeRelocation link inp { st with contents := setRs1 0 st.contents off } s s.unresolved rel s.relocation
    else if validItypeImm (s.relocation + rel.addend - gp) then
      placeRelocation link inp { st with contents := setRs1 3 st.contents off } s s.unresolved
        { rel with addend := rel.addend - gp } s.relocation
    else .error (.status .overflow, st)
  | .pcrelHi20 => placePcrelHi link inp st s s.unresolved s.relocation (s.relocation + rel.addend)
  | .pcrelLo12I | .pcrelLo12S =>
    if s.sectionSym ∧ rel.addend ≠ 0 then .error (.sectionSymbolAddend, st)
    else .ok { st with loRelocs := ⟨s.relocation, rel⟩ :: st.loRelocs }
  | .tlsDtprel32 | .tlsDtprel64 => placeRelocation link inp st s s.unresolved rel (dtpoff link s.relocation)
  | .r32 | .r64 =>
    let zero := s.h.any fun h => undefweakNoDynamicReloc link h.2
    if (rel.type = .r32 ∧ link.xlen = .rv64) ∨ (link.sections inp.sec).alloc = false then
      placeRelocation link inp st s s.unresolved rel s.relocation
    else
      match dynamicData link inp s zero with
      | none => placeRelocation link inp st s s.unresolved rel s.relocation
      | some (outrel, relocate) =>
        let st := st.appendRela .sreloc outrel
        if relocate then placeRelocation link inp st s s.unresolved rel s.relocation else .ok st
  | .tlsGotHi20 | .tlsGdHi20 =>
    match link.sgot with
    | none => .error (.aborted, st)
    | some sgot =>
      let filled := fillTlsGot link inp sgot st s
      let ie := if rel.type = .tlsGotHi20 then ieOff link.xlen (s.tlsType inp) else 0
      let slot := link.secAddr sgot + filled.2 + ie
      let st := riscvRecordPcrelHiReloc filled.1 (link.secAddr inp.sec + rel.offset) slot rel.type false
      placeRelocation link inp st s false rel slot
  | _ => .error (.status .notsupported, st)

/-! ## IFUNC symbols -/

/-- The `R_RISCV_32` and `R_RISCV_64` case: the dynamic relocation for an IFUNC, when there is to be one. -/
def ifuncData (link : Link) (inp : Input) (st : RelocState) (rel : Rela) (h : HashEntry) (plt : Vma) :
    RelocOutcome :=
  if rel.addend ≠ 0 then .error (.ifuncAddend, st)
  else if (link.pic ∧ h.nonGotRef) ∨ h.pltOffset = -1 then
    let offset := link.sectionOffset inp.sec rel.offset
    if offset = -1 ∨ offset = -2 then .error (.aborted, st)
    else
      let offset := offset + link.secAddr inp.sec
      let outrel : Rela :=
        if h.dynindx = -1 ∨ h.forcedLocal ∨ link.executable then
          ⟨offset, 0, .irelative, h.defValue + (h.defSection.map link.secAddr).getD 0⟩
        else ⟨offset, h.dynindx.toNat, rel.type, 0⟩
      let sec := if link.pic then .irelifunc else if link.hasSplt then .srelgot else .irelplt
      .ok (st.appendRela sec outrel)
  else doRelocation link inp st rel plt

/-- The GOT entry that belongs to a PLT entry: its section and offset.  `PLT_HEADER_SIZE` is 32,
`PLT_ENTRY_SIZE` is 16 and `GOTPLT_HEADER_SIZE` two words. -/
def ifuncPltSlot (link : Link) (h : HashEntry) : Nat × Vma :=
  let word := BitVec.ofNat 64 link.xlen.wordBytes
  if link.hasSplt then (link.sgotplt, 2 * word + ((h.pltOffset - 32) / 16) * word)
  else (link.igotplt, (h.pltOffset / 16) * word)

/-- The GOT entry of an IFUNC: the one in `.got`, or the one that belongs to its PLT entry. -/
def ifuncGot (link : Link) (st : RelocState) (p : Nat) (h : HashEntry) (plt : Vma) : Option (RelocState × Vma) :=
  match link.sgot with
  | none => none
  | some sgot =>
    let off := st.globalGot p
    if off ≠ -1 then some (st, link.secAddr sgot + off)
    else
      let base := (ifuncPltSlot link h).1
      let off := (ifuncPltSlot link h).2
      if h.dynindx = -1 ∨ h.forcedLocal ∨ link.symbolic then
        if off &&& 1 ≠ 0 then some (st, link.secAddr base + (off &&& ~~~1))
        else
          let st := st.putGot base off plt
          some ({ st with globalGot := Function.update st.globalGot p (st.globalGot p ||| 1) },
            link.secAddr base + off)
      else some (st, link.secAddr base + off)

/-- A relocation against an IFUNC that is defined in a regular object: it goes through the PLT. -/
def relocateIfunc (link : Link) (inp : Input) (st : RelocState) (s : RelocSym) (p : Nat) (h : HashEntry) :
    RelocOutcome :=
  let rel := s.rel
  let pc := link.secAddr inp.sec + rel.offset
  let plt := link.secAddr (if link.hasSplt then link.splt else link.iplt) + h.pltOffset
  let noPlt : Bool := h.pltOffset = -1
  match rel.type with
  | .r32 | .r64 => ifuncData link inp st rel h plt
  | .gotHi20 =>
    match ifuncGot link st p h plt with
    | none => .error (.aborted, st)
    | some (st, slot) => doRelocation link inp (riscvRecordPcrelHiReloc st pc slot rel.type false) rel slot
  | .hi20 | .lo12I | .lo12S => doRelocation link inp st rel plt
  | .call | .callPlt => if noPlt then .error (.ifuncNotSupported, st) else doRelocation link inp st rel plt
  | .pcrelHi20 =>
    if noPlt then .error (.ifuncNotSupported, st)
    else doRelocation link inp (riscvRecordPcrelHiReloc st pc plt rel.type false) rel plt
  | _ => .error (.ifuncNotSupported, st)

/-! ## The loop -/

/-- The entry through which an IFUNC symbol is handled: it has to be defined in a regular object. -/
def RelocSym.ifunc (s : RelocSym) : Option (Nat × HashEntry) :=
  s.h.filter fun h => h.2.type = .gnuIfunc ∧ h.2.defRegular

/-- One round of the loop of `riscv_elf_relocate_section`. -/
def relocateOne (link : Link) (inp : Input) (st : RelocState) (rel : Rela) : RelocOutcome :=
  match relocSymbol link inp rel with
  | .error e => .error (e, st)
  | .ok s =>
    if s.sec.any link.discardedSection then
      .ok { st with contents := bfdClearContents link inp.sec rel.type st.contents rel.offset.toNat }
    else if link.type = .relocatable then .ok st
    else
      match s.ifunc with
      | none => relocatePlain link inp st s
      | some (p, h) =>
        let isec := link.sections inp.sec
        if isec.alloc then relocateIfunc link inp st s p h
        else if isec.note then relocatePlain link inp st s
        else if isec.debugging then .ok st
        else .error (.aborted, st)

/-- The loop. -/
def relocateLoop (link : Link) (inp : Input) : List Rela → RelocState → RelocOutcome
  | [], st => .ok st
  | rel :: rels, st =>
    match relocateOne link inp st rel with
    | .error e => .error e
    | .ok st => relocateLoop link inp rels st

/-- `riscv_elf_relocate_section`. -/
def riscvElfRelocateSection (link : Link) (inp : Input) (relocs : List Rela) (st : RelocState) :
    RelocOutcome :=
  match relocateLoop link inp relocs st with
  | .error e => .error e
  | .ok st =>
    match riscvResolvePcrelLoRelocs link.target (link.secAddr inp.sec) st.hiRelocs st.loRelocs st.contents with
    | .error (e, contents) => .error (e, { st with contents })
    | .ok contents => .ok { st with contents }

/-! ## What a round may change -/

theorem bfdElfRelaLocalSym_rel (link : Link) (isym : LocalSym) (sec : Nat) (rel : Rela) :
    (bfdElfRelaLocalSym link isym sec rel).1 =
    { rel with addend := (bfdElfRelaLocalSym link isym sec rel).1.addend } := by
  unfold bfdElfRelaLocalSym
  dsimp only
  split <;> rfl

/-- Looking up the symbol may change the addend of the relocation, nothing else. -/
theorem relocSymbol_rel {link : Link} {inp : Input} {rel : Rela} {s : RelocSym} (h : relocSymbol link inp rel = .ok s) :
    s.rel = { rel with addend := s.rel.addend } := by
  unfold relocSymbol at h
  split at h
  · rename_i isym _
    have hrel := bfdElfRelaLocalSym_rel link isym (inp.elfSections isym.shndx) rel
    unfold localRelocSym at h
    dsimp only at h
    split at h
    · split at h
      · exact absurd h (by simp)
      · cases h
        exact hrel
    · cases h
      exact hrel
  · dsimp only at h
    split at h
    · exact absurd h (by simp)
    · split at h
      · exact absurd h (by simp)
      · cases h
        unfold globalRelocSym
        dsimp only
        split
        · split
          · rfl
          · split <;> rfl
        · split
          · rfl
          · split
            · rfl
            · split <;> rfl

/-- The high parts that are recorded, and the low parts that look for them. -/
def RelocType.isPcrelHi : RelocType → Bool
  | .pcrelHi20 | .gotHi20 | .tlsGotHi20 | .tlsGdHi20 => true
  | _ => false

def RelocType.isPcrelLo : RelocType → Bool
  | .pcrelLo12I | .pcrelLo12S => true
  | _ => false

/-- What the round for `rel` may do to the bytes and to the two records. -/
structure Round (link : Link) (inp : Input) (rel : Rela) (st st' : RelocState) : Prop where
  bytes : rel.offset.toNat + extent rel.type st.contents rel.offset.toNat ≤ st.contents.length →
    SameOutside rel.offset.toNat (extent rel.type st.contents rel.offset.toNat) st.contents st'.contents
  hi : st'.hiRelocs = st.hiRelocs ∨
    ∃ e, rel.type.isPcrelHi ∧ e.address = link.secAddr inp.sec + rel.offset ∧ st'.hiRelocs = e :: st.hiRelocs
  lo : st'.loRelocs = st.loRelocs ∨
    ∃ r, rel.type.isPcrelLo ∧ r.rel = { rel with addend := r.rel.addend } ∧ st'.loRelocs = r :: st.loRelocs

section Frame

variable {link : Link} {inp : Input} {st st' : RelocState} {s : RelocSym} {rel : Rela}

/-- The bytes and the records are as before. -/
theorem Round.same (hb : st'.contents = st.contents) (hh : st'.hiRelocs = st.hiRelocs)
    (hl : st'.loRelocs = st.loRelocs) : Round link inp rel st st' :=
  ⟨fun _ => hb ▸ .refl .., .inl hh, .inl hl⟩

theorem doRelocation_ok {value : Vma} (h : doRelocation link inp st rel value = .ok st') :
    (performRelocation link.target rel value (link.secAddr inp.sec) st.contents).1 = .ok ∧
      st' = { st with
        contents := (performRelocation link.target rel value (link.secAddr inp.sec) st.contents).2 } := by
  unfold doRelocation at h
  split at h
  · rename_i contents heq
    cases h
    rw [heq]
    exact ⟨rfl, rfl⟩
  · exact absurd h (by simp)

theorem placeRelocation_ok {unresolved : Bool} {value : Vma}
    (h : placeRelocation link inp st s unresolved rel value = .ok st') :
    doRelocation link inp st rel value = .ok st' := by
  unfold placeRelocation at h
  split at h
  · exact absurd h (by simp)
  · exact h

/-- Placing the relocation at the end of a round. -/
theorem Round.place {st₁ : RelocState} {rel₁ : Rela} {value : Vma} (hpre : Round link inp rel st st₁)
    (hoff : rel₁.offset = rel.offset)
    (hext : extent rel₁.type st₁.contents rel.offset.toNat = extent rel.type st.contents rel.offset.toNat)
    (h : doRelocation link inp st₁ rel₁ value = .ok st') : Round link inp rel st st' := by
  obtain ⟨-, rfl⟩ := doRelocation_ok h
  refine ⟨fun hin => ?_, hpre.hi, hpre.lo⟩
  have hfirst := hpre.bytes hin
  have hin₁ : rel₁.offset.toNat + extent rel₁.type st₁.contents rel₁.offset.toNat ≤ st₁.contents.length := by
    rw [hoff, hext, hfirst.length]
    exact hin
  have hplace := performRelocation_sameOutside link.target rel₁ value (link.secAddr inp.sec) hin₁
  rw [hoff, hext] at hplace
  exact hfirst.trans hplace

/-- A round that places the relocation and does nothing else to the bytes and the records. -/
theorem Round.placed {st₁ : RelocState} {unresolved : Bool} {value : Vma}
    (h : placeRelocation link inp st₁ s unresolved rel value = .ok st') (hc : st₁.contents = st.contents)
    (hh : st₁.hiRelocs = st.hiRelocs) (hl : st₁.loRelocs = st.loRelocs) : Round link inp rel st st' :=
  (Round.same hc hh hl).place rfl (by rw [hc]) (placeRelocation_ok h)

variable (link inp st) in
/-- The base register of an instruction of four bytes, `k` bytes into the field. -/
theorem Round.setRs1 (reg : Vma) (k : Nat) (htype : rel.type ≠ .subUleb128)
    (hk : k + 4 ≤ (howto rel.type).bitsize / 8) :
    Round link inp rel st { st with contents := setRs1 reg st.contents (rel.offset.toNat + k) } := by
  refine ⟨fun hin => ?_, .inl rfl, .inl rfl⟩
  rw [extent, if_neg htype] at hin ⊢
  exact (sameOutside_putl _ (by omega)).mono (by omega) (by omega)

theorem extent_of_ne (type : RelocType) (h : type ≠ .subUleb128) (c c' : List Byte) (off : Nat) :
    extent type c off = extent type c' off := by
  rw [extent, extent, if_neg h, if_neg h]

theorem placeJump_round {st₁ : RelocState} {value : Vma} (hpre : Round link inp s.rel st st₁)
    (htype : s.rel.type ≠ .subUleb128) (h : placeJump link inp st₁ s value = .ok st') :
    Round link inp s.rel st st' := by
  have hext := extent_of_ne s.rel.type htype st₁.contents st.contents s.rel.offset.toNat
  unfold placeJump at h
  split at h
  · exact hpre.place rfl hext (placeRelocation_ok h)
  · split at h
    · exact hpre.place rfl hext (placeRelocation_ok h)
    · split at h
      · exact absurd h (by simp)
      · exact hpre.place rfl hext (placeRelocation_ok h)

/-! GOT entries and dynamic relocations are kept apart from the bytes and the records. -/

@[simp] theorem putGot_contents (sec : Nat) (off value : Vma) : (st.putGot sec off value).contents = st.contents := rfl
@[simp] theorem putGot_hiRelocs (sec : Nat) (off value : Vma) : (st.putGot sec off value).hiRelocs = st.hiRelocs := rfl
@[simp] theorem putGot_loRelocs (sec : Nat) (off value : Vma) : (st.putGot sec off value).loRelocs = st.loRelocs := rfl
@[simp] theorem appendRela_contents (sec : RelaSection) (r : Rela) : (st.appendRela sec r).contents = st.contents := rfl
@[simp] theorem appendRela_hiRelocs (sec : RelaSection) (r : Rela) : (st.appendRela sec r).hiRelocs = st.hiRelocs := rfl
@[simp] theorem appendRela_loRelocs (sec : RelaSection) (r : Rela) : (st.appendRela sec r).loRelocs = st.loRelocs := rfl

@[simp] theorem markGot_contents : (st.markGot s).contents = st.contents := by
  unfold RelocState.markGot
  split <;> rfl

@[simp] theorem markGot_hiRelocs : (st.markGot s).hiRelocs = st.hiRelocs := by
  unfold RelocState.markGot
  split <;> rfl

@[simp] theorem markGot_loRelocs : (st.markGot s).loRelocs = st.loRelocs := by
  unfold RelocState.markGot
  split <;> rfl

variable (link st s) in
theorem fillGot_frame (sgot : Nat) :
    (fillGot link sgot st s).1.contents = st.contents ∧ (fillGot link sgot st s).1.hiRelocs = st.hiRelocs ∧
      (fillGot link sgot st s).1.loRelocs = st.loRelocs := by
  unfold fillGot
  dsimp only
  split
  · split
    · split <;> simp
    · simp
  · split
    · simp
    · split <;> simp

theorem fillTlsGd_frame (sgot : Nat) (v off : Vma) (indx : Int) (need : Bool) :
    (fillTlsGd link sgot st v off indx need).contents = st.contents ∧
      (fillTlsGd link sgot st v off indx need).hiRelocs = st.hiRelocs ∧
      (fillTlsGd link sgot st v off indx need).loRelocs = st.loRelocs := by
  unfold fillTlsGd
  dsimp only
  split
  · split <;> simp
  · simp

theorem fillTlsIe_frame (sgot : Nat) (v off : Vma) (indx : Int) (need : Bool) :
    (fillTlsIe link sgot st v off indx need).contents = st.contents ∧
      (fillTlsIe link sgot st v off indx need).hiRelocs = st.hiRelocs ∧
      (fillTlsIe link sgot st v off indx need).loRelocs = st.loRelocs := by
  unfold fillTlsIe
  dsimp only
  split <;> simp

variable (link inp st s) in
theorem fillTlsGot_frame (sgot : Nat) :
    (fillTlsGot link inp sgot st s).1.contents = st.contents ∧
      (fillTlsGot link inp sgot st s).1.hiRelocs = st.hiRelocs ∧
      (fillTlsGot link inp sgot st s).1.loRelocs = st.loRelocs := by
  unfold fillTlsGot
  dsimp only
  split
  · simp
  · split <;> split <;> simp [fillTlsIe_frame, fillTlsGd_frame]

theorem ifuncGot_frame {p : Nat} {h : HashEntry} {plt slot : Vma} (hg : ifuncGot link st p h plt = some (st', slot)) :
    st'.contents = st.contents ∧ st'.hiRelocs = st.hiRelocs ∧ st'.loRelocs = st.loRelocs := by
  unfold ifuncGot at hg
  split at hg
  · exact absurd hg (by simp)
  · dsimp only at hg
    split at hg
    · cases hg
      exact ⟨rfl, rfl, rfl⟩
    · split at hg
      · split at hg
        · cases hg
          exact ⟨rfl, rfl, rfl⟩
        · cases hg
          exact ⟨rfl, rfl, rfl⟩
      · cases hg
        exact ⟨rfl, rfl, rfl⟩

theorem riscvZeroPcrelHiReloc_cases (link : Link) (rel : Rela) (pc addr : Vma) (c : List Byte) :
    riscvZeroPcrelHiReloc link rel pc addr c = (false, rel, c) ∨
      (link.xlen = .rv64 ∧ riscvZeroPcrelHiReloc link rel pc addr c =
        (true, { rel with sym := addr.toNat % 2 ^ 32, type := .hi20 },
          putl 4 ((getl 4 c rel.offset.toNat &&& ~~~maskAuipc) ||| matchLui) c rel.offset.toNat)) := by
  unfold riscvZeroPcrelHiReloc
  split
  · exact .inl rfl
  · split
    · exact .inl rfl
    · rename_i hreach
      split
      · exact .inl rfl
      · refine .inr ⟨?_, rfl⟩
        cases hx : link.xlen with
        | rv32 => exact absurd (.inl hx) hreach
        | rv64 => rfl

/-- The record of a high part at the place of `rel`. -/
theorem Round.record {st₁ : RelocState} {value : Vma} {type : RelocType} {absolute : Bool}
    (htype : rel.type.isPcrelHi) (hpre : Round link inp rel st st₁) (hh : st₁.hiRelocs = st.hiRelocs) :
    Round link inp rel st
      (riscvRecordPcrelHiReloc st₁ (link.secAddr inp.sec + rel.offset) value type absolute) :=
  ⟨hpre.bytes, .inr ⟨_, htype, rfl, congrArg _ hh⟩, hpre.lo⟩

theorem isPcrelHi_extent (type : RelocType) (h : type.isPcrelHi) (c : List Byte) (off : Nat) :
    extent type c off = 4 := by
  cases type <;> first | rfl | exact absurd h (by decide)

theorem placePcrelHi_round {st₁ : RelocState} {unresolved : Bool} {relocation value : Vma}
    (htype : s.rel.type.isPcrelHi) (hpre : Round link inp s.rel st st₁) (hh : st₁.hiRelocs = st.hiRelocs)
    (h : placePcrelHi link inp st₁ s unresolved relocation value = .ok st') : Round link inp s.rel st st' := by
  have hext := isPcrelHi_extent _ htype
  unfold placePcrelHi at h
  dsimp only at h
  rcases riscvZeroPcrelHiReloc_cases link s.rel (link.secAddr inp.sec + s.rel.offset) relocation st₁.contents with
    hz | ⟨-, hz⟩
  · rw [hz] at h
    exact Round.place (Round.record htype hpre hh) rfl (by rw [hext, hext]) (placeRelocation_ok h)
  · rw [hz] at h
    refine Round.place (Round.record htype ?_ ?_) ?_ ?_ (placeRelocation_ok h)
    · refine ⟨fun hin => (hpre.bytes hin).trans ?_, hpre.hi, hpre.lo⟩
      have hlen := (hpre.bytes hin).length
      rw [hext] at hin ⊢
      exact sameOutside_putl _ (by omega)
    · exact hh
    · rfl
    · rw [hext]
      simp [extent, howto]

/-- The switch changes nothing outside the place of the relocation. -/
theorem relocatePlain_round (h : relocatePlain link inp st s = .ok st') : Round link inp s.rel st st' := by
  unfold relocatePlain at h
  dsimp only at h
  split at h
  -- the types that need nothing beyond `perform_relocation`, nothing at all, or are not supported
  any_goals exact .placed h rfl rfl rfl
  any_goals (cases h; done)
  any_goals (cases h; exact .same rfl rfl rfl)
  all_goals rename_i htype
  case h_19 =>
    split at h
    · cases h
      exact .same rfl rfl rfl
    · exact absurd h (by simp)
  case h_20 =>
    split at h
    · exact absurd h (by simp)
    · split at h
      · exact .placed h rfl rfl rfl
      · exact absurd h (by simp)
  case h_21 =>
    split at h
    · exact absurd h (by simp)
    · rename_i sgot _
      obtain ⟨hc, hh, hl⟩ := fillGot_frame link st s sgot
      split at h
      · exact absurd h (by simp)
      · exact placePcrelHi_round (htype ▸ rfl) (.same hc hh hl) hh h
  case h_31 | h_32 =>
    have hne : s.rel.type ≠ .subUleb128 := by rw [htype]; decide
    split at h
    · exact placeJump_round (.setRs1 link inp st 0 4 hne (by rw [htype]; decide)) hne h
    · exact placeJump_round (.same rfl rfl rfl) hne h
  case h_33 | h_34 => exact placeJump_round (.same rfl rfl rfl) (by rw [htype]; decide) h
  case h_38 | h_39 =>
    have hne : s.rel.type ≠ .subUleb128 := by rw [htype]; decide
    split at h
    · exact Round.place (.setRs1 link inp st 4 0 hne (by rw [htype]; decide)) rfl (extent_of_ne s.rel.type hne ..)
        (placeRelocation_ok h)
    · exact absurd h (by simp)
  case h_40 | h_41 =>
    have hne : s.rel.type ≠ .subUleb128 := by rw [htype]; decide
    have hrs1 (reg : Vma) := Round.setRs1 link inp st reg 0 hne (by rw [htype]; decide)
    split at h
    · exact Round.place (hrs1 0) rfl (extent_of_ne s.rel.type hne ..) (placeRelocation_ok h)
    · split at h
      · have hdo := placeRelocation_ok h
        refine Round.place (hrs1 3) ?_ ?_ hdo
        · rfl
        · exact extent_of_ne s.rel.type hne ..
      · exact absurd h (by simp)
  case h_42 => exact placePcrelHi_round (htype ▸ rfl) (.same rfl rfl rfl) rfl h
  case h_43 | h_44 =>
    split at h
    · exact absurd h (by simp)
    · cases h
      exact ⟨fun _ => .refl .., .inl rfl, .inr ⟨_, htype ▸ rfl, rfl, rfl⟩⟩
  case h_47 | h_48 =>
    split at h
    · exact .placed h rfl rfl rfl
    · split at h
      · exact .placed h rfl rfl rfl
      · split at h
        · exact .placed h rfl rfl rfl
        · cases h
          exact .same rfl rfl rfl
  case h_49 | h_50 =>
    split at h
    · exact absurd h (by simp)
    · rename_i sgot _
      obtain ⟨hc, hh, hl⟩ := fillTlsGot_frame link inp st s sgot
      have hext := isPcrelHi_extent s.rel.type (htype ▸ rfl)
      exact Round.place (Round.record (htype ▸ rfl) (.same hc hh hl) hh) rfl (by rw [hext, hext])
        (placeRelocation_ok h)

theorem relocateIfunc_round {p : Nat} {e : HashEntry} (h : relocateIfunc link inp st s p e = .ok st') :
    Round link inp s.rel st st' := by
  have hdo {value : Vma} (h : doRelocation link inp st s.rel value = .ok st') : Round link inp s.rel st st' :=
    (Round.same rfl rfl rfl).place rfl rfl h
  unfold relocateIfunc at h
  dsimp only at h
  split at h
  any_goals exact hdo h
  any_goals cases h
  all_goals rename_i htype
  case h_1 | h_2 =>
    unfold ifuncData at h
    split at h
    · exact absurd h (by simp)
    · split at h
      · dsimp only at h
        split at h
        · exact absurd h (by simp)
        · cases h
          exact .same rfl rfl rfl
      · exact hdo h
  case h_3 =>
    split at h
    · exact absurd h (by simp)
    · rename_i hgot
      obtain ⟨hc, hh, hl⟩ := ifuncGot_frame hgot
      have hext := isPcrelHi_extent s.rel.type (htype ▸ rfl)
      exact Round.place (Round.record (htype ▸ rfl) (.same hc hh hl) hh) rfl (by rw [hext, hext]) h
  case h_9 =>
    split at h
    · exact absurd h (by simp)
    · have hext := isPcrelHi_extent s.rel.type (htype ▸ rfl)
      exact Round.place (Round.record (htype ▸ rfl) (.same rfl rfl rfl) rfl) rfl (by rw [hext, hext]) h
  all_goals
    split at h
    · exact absurd h (by simp)
    · exact hdo h

theorem bfdClearContents_sameOutside (sec : Nat) (type : RelocType) {c : List Byte} {off : Nat}
    (hin : off + extent type c off ≤ c.length) :
    SameOutside off (extent type c off) c (bfdClearContents link sec type c off) := by
  by_cases htype : type = .subUleb128
  · subst htype
    have hzero : (howto .subUleb128).bitsize / 8 = 0 := by decide
    unfold bfdClearContents
    dsimp only
    rw [hzero]
    split
    · exact .refl ..
    · have hput {v : Vma} := sameOutside_putl (n := 0) v (show off + 0 ≤ c.length by omega)
      have hputb {v : Vma} := sameOutside_putb (n := 0) v (show off + 0 ≤ c.length by omega)
      split
      · exact hputb.mono le_rfl (by omega)
      · exact hput.mono le_rfl (by omega)
  · rw [extent, if_neg htype] at hin ⊢
    unfold bfdClearContents
    dsimp only
    split
    · exact .refl ..
    · split
      · exact sameOutside_putb _ hin
      · exact sameOutside_putl _ hin

/-- What one round may change, whatever the relocation is. -/
theorem relocateOne_round (h : relocateOne link inp st rel = .ok st') : Round link inp rel st st' := by
  unfold relocateOne at h
  split at h
  · exact absurd h (by simp)
  · rename_i s hs
    have hrel := relocSymbol_rel hs
    have hround (hr : Round link inp s.rel st st') : Round link inp rel st st' := by
      rw [hrel] at hr
      exact ⟨hr.bytes, hr.hi, hr.lo⟩
    split at h
    · cases h
      exact ⟨fun hin => bfdClearContents_sameOutside inp.sec rel.type hin, .inl rfl, .inl rfl⟩
    · split at h
      · cases h
        exact .same rfl rfl rfl
      · split at h
        · exact hround (relocatePlain_round h)
        · dsimp only at h
          split at h
          · exact hround (relocateIfunc_round h)
          · split at h
            · exact hround (relocatePlain_round h)
            · split at h
              · cases h
                exact .same rfl rfl rfl
              · exact absurd h (by simp)

end Frame

/-! ## Runs -/

section Run

variable {link : Link} {inp : Input} {relocs : List Rela} {st : RelocState}

/-- One more relocation at the end. -/
theorem relocateLoop_concat (xs : List Rela) (rel : Rela) (st : RelocState) :
    relocateLoop link inp (xs ++ [rel]) st =
      match relocateLoop link inp xs st with
      | .error e => .error e
      | .ok st => relocateOne link inp st rel := by
  induction xs generalizing st with
  | nil =>
    simp only [List.nil_append, relocateLoop]
    split <;> (rename_i h; rw [h])
  | cons x xs ih =>
    simp only [List.cons_append, relocateLoop]
    split
    · rfl
    · exact ih _

/-- The round after `k` relocations. -/
theorem relocateLoop_take_succ {k : Nat} {s' : RelocState} (hk : k < relocs.length)
    (h : relocateLoop link inp (relocs.take (k + 1)) st = .ok s') :
    ∃ rel s, relocs[k]? = some rel ∧ relocateLoop link inp (relocs.take k) st = .ok s ∧
      relocateOne link inp s rel = .ok s' := by
  rw [List.take_succ_eq_append_getElem hk, relocateLoop_concat] at h
  split at h
  · exact absurd h (by simp)
  · rename_i s hs
    exact ⟨relocs[k], s, List.getElem?_eq_getElem hk, hs, h⟩

/-- A run that gets to position `b` has been at every earlier one. -/
theorem relocateLoop_reaches {a b : Nat} {sb : RelocState} (hab : a ≤ b) (hb : b ≤ relocs.length)
    (h : relocateLoop link inp (relocs.take b) st = .ok sb) :
    ∃ sa, relocateLoop link inp (relocs.take a) st = .ok sa := by
  induction b generalizing sb with
  | zero => exact ⟨sb, by rwa [Nat.le_zero.mp hab]⟩
  | succ b ih =>
    rcases Nat.lt_or_ge a (b + 1) with hlt | hge
    · obtain ⟨rel, s, -, hs, -⟩ := relocateLoop_take_succ (by omega) h
      exact ih (by omega) (by omega) hs
    · exact ⟨sb, by rwa [show a = b + 1 by omega]⟩

/-- The invariant rule: what every round between `a` and `b` keeps holds at `b` if it holds at `a`. -/
theorem relocateLoop_invariant {P : RelocState → Prop} {a b : Nat} {sa sb : RelocState} (hab : a ≤ b)
    (hb : b ≤ relocs.length) (ha : relocateLoop link inp (relocs.take a) st = .ok sa) (hP : P sa)
    (hstep : ∀ k rel s s', a ≤ k → k < b → relocs[k]? = some rel → relocateLoop link inp (relocs.take k) st = .ok s →
      relocateOne link inp s rel = .ok s' → P s → P s')
    (h : relocateLoop link inp (relocs.take b) st = .ok sb) : P sb := by
  induction b generalizing sb with
  | zero =>
    obtain rfl : a = 0 := Nat.le_zero.mp hab
    rw [ha] at h
    cases h
    exact hP
  | succ b ih =>
    rcases Nat.lt_or_ge a (b + 1) with hlt | hge
    · obtain ⟨rel, s, hrel, hs, hone⟩ := relocateLoop_take_succ (by omega) h
      have hPs := ih (by omega) (by omega)
        (fun k rel s s' hk hkb => hstep k rel s s' hk (by omega)) hs
      exact hstep b rel s sb (by omega) (by omega) hrel hs hone hPs
    · obtain rfl : a = b + 1 := by omega
      rw [ha] at h
      cases h
      exact hP

/-- The round of a relocation in a run to the end: the states before and after it. -/
theorem relocateLoop_round {i : Nat} {rel : Rela} {s' : RelocState} (hrel : relocs[i]? = some rel)
    (h : relocateLoop link inp relocs st = .ok s') :
    ∃ s₀ s₁, relocateLoop link inp (relocs.take i) st = .ok s₀ ∧ relocateOne link inp s₀ rel = .ok s₁ ∧
      relocateLoop link inp (relocs.take (i + 1)) st = .ok s₁ := by
  have hi : i < relocs.length := (List.getElem?_eq_some_iff.mp hrel).1
  rw [← List.take_length (l := relocs)] at h
  obtain ⟨s₁, hs₁⟩ := relocateLoop_reaches hi le_rfl h
  obtain ⟨rel', s₀, hrel', hs₀, hone⟩ := relocateLoop_take_succ hi hs₁
  rw [hrel] at hrel'
  cases hrel'
  exact ⟨s₀, s₁, hs₀, hone, hs₁⟩

end Run

end RiscvBinutils.Bfd
