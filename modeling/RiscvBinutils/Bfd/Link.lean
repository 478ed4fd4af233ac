/-
The link: its options, its sections and the symbols of an input file, and the questions about a symbol
that decide whether it is bound at link time (bfd/elf-bfd.h, bfd/elflink.c, bfd/elfnn-riscv.c).
-/
import RiscvBinutils.Bfd.Perform

namespace RiscvBinutils.Bfd

/-- An input section: where it goes, and the flags the linker looks at. -/
structure Asection where
  /-- `output_section`; `none` for a null pointer. -/
  output : Option Nat
  outputOffset : Vma := 0
  /-- `flags & SEC_MERGE`. -/
  merge : Bool := false
  /-- `flags & SEC_CODE`. -/
  code : Bool := false
  /-- `flags & SEC_ALLOC`. -/
  alloc : Bool := true
  /-- `flags & SEC_READONLY`. -/
  readonly : Bool := false
  /-- `flags & SEC_DEBUGGING`. -/
  debugging : Bool := false
  /-- `elf_section_type == SHT_NOTE`. -/
  note : Bool := false
  /-- The section is called `.debug_ranges`. -/
  debugRanges : Bool := false
  /-- `sec_info_type == SEC_INFO_TYPE_MERGE`. -/
  infoMerge : Bool := false
  /-- `sec_info_type == SEC_INFO_TYPE_JUST_SYMS`. -/
  justSyms : Bool := false
  deriving DecidableEq, Repr

structure OutputSection where
  vma : Vma
  size : Vma := 0
  alignmentPower : Nat := 0
  deriving DecidableEq, Repr

/-- `enum output_type`. -/
inductive OutputType
  | pde | dll | relocatable | pie
  deriving DecidableEq, Repr

/-- The link: sections, options and the global pointer.  None of it changes while sections are relaxed
and relocated. -/
structure Link where
  xlen : Xlen
  bigEndian : Bool := false
  /-- `info->type`. -/
  type : OutputType := .pde
  sections : Nat → Asection
  outputs : Nat → OutputSection
  /-- The sections of the output file, in order. -/
  ownerSections : List Nat
  /-- `bfd_abs_section_ptr`, as a section and as an output section. -/
  absSection : Nat := 0
  absOutput : Nat
  /-- `bfd_und_section_ptr`. -/
  undSection : Nat
  /-- `htab->elf.splt`, when `hasSplt`. -/
  splt : Nat
  hasSplt : Bool := true
  /-- `htab->elf.iplt`. -/
  iplt : Nat := 0
  /-- `htab->elf.sgot`; `none` for a null pointer. -/
  sgot : Option Nat := none
  /-- `htab->elf.sgotplt`. -/
  sgotplt : Nat := 0
  /-- `htab->elf.igotplt`. -/
  igotplt : Nat := 0
  dynamicSectionsCreated : Bool := false
  symbolic : Bool := false
  /-- `info->dynamic`. -/
  dynamic : Bool := false
  /-- `info->dynamic_undefined_weak == 0`. -/
  noDynamicUndefinedWeak : Bool := false
  /-- `info->indirect_extern_access > 0`. -/
  indirectExternAccess : Bool := false
  /-- `info->extern_protected_data > 0`; the back end's own default is false. -/
  externProtectedData : Bool := false
  /-- `info->unresolved_syms_in_objects == RM_IGNORE`. -/
  ignoreUnresolved : Bool := false
  /-- `info->wrap_hash != NULL`. -/
  wrapHash : Bool := false
  relro : Bool := false
  /-- `params->relax_gp`. -/
  relaxGp : Bool := true
  /-- `__global_pointer$`, when it is defined: its section and value. -/
  gpSymbol : Option (Nat × Vma) := none
  /-- The address of `tls_sec`. -/
  tlsSec : Option Vma := none
  /-- `_bfd_merged_section_offset`, from bfd/merge.c. -/
  mergedSectionOffset : Nat → Vma → Nat × Vma := fun sec off => (sec, off)
  /-- `_bfd_elf_section_offset`, from bfd/elf.c. -/
  sectionOffset : Nat → Vma → Vma := fun _ off => off
  /-- `unwrap_hash_lookup`, from bfd/linker.c. -/
  unwrapHashLookup : Nat → Nat := id

/-- `bfd_link_pic (info)`. -/
def Link.pic (link : Link) : Bool := link.type = .dll ∨ link.type = .pie

/-- `bfd_link_executable (info)`. -/
def Link.executable (link : Link) : Bool := link.type = .pde ∨ link.type = .pie

def Link.target (link : Link) : Target := { xlen := link.xlen, bigEndian := link.bigEndian }

/-- The input file: its section table, local symbols and hash entries. -/
structure Input where
  /-- The section being relaxed or relocated. -/
  sec : Nat
  /-- `e_flags & EF_RISCV_RVC`. -/
  rvc : Bool := false
  /-- `elf_elfsections (abfd)[shndx]->bfd_section`. -/
  elfSections : Nat → Nat
  locals : List LocalSym
  symHashes : List Nat
  hashes : List HashEntry
  /-- `riscv_elf_get_local_sym_hash`: the entry made for a local IFUNC symbol. -/
  localIfunc : Nat → Option Nat := fun _ => none
  /-- `_bfd_riscv_elf_local_got_tls_type`. -/
  localGotTlsType : Nat → GotType := fun _ => {}

/-! ## Addresses -/

/-- `sec_addr`. -/
def Link.secAddr (link : Link) (sec : Nat) : Vma :=
  let s := link.sections sec
  match s.output with
  | some o => (link.outputs o).vma + s.outputOffset
  | none => s.outputOffset

/-- `discarded_section`. -/
def Link.discardedSection (link : Link) (sec : Nat) : Bool :=
  let s := link.sections sec
  sec ≠ link.absSection ∧ s.output = some link.absOutput ∧ s.infoMerge = false ∧ s.justSyms = false

/-- `riscv_global_pointer_value`. -/
def riscvGlobalPointerValue (link : Link) : Vma :=
  match link.gpSymbol with
  | none => 0
  | some (sec, value) => value + link.secAddr sec

/-- `tpoff`, with `TP_OFFSET` zero. -/
def tpoff (link : Link) (address : Vma) : Vma :=
  match link.tlsSec with
  | none => 0
  | some vma => address - vma - 0

/-- `dtpoff`, with `DTP_OFFSET`. -/
def dtpoff (link : Link) (address : Vma) : Vma :=
  match link.tlsSec with
  | none => 0
  | some vma => address - vma - 0x800

/-- `RISCV_ELF_WORD_BYTES` and `GOT_ENTRY_SIZE`. -/
def Xlen.wordBytes : Xlen → Nat
  | .rv32 => 4
  | .rv64 => 8

/-! ## Symbols -/

/-- Follow indirect and warning entries; `fuel` bounds the length of the chain. -/
def followLink (hashes : List HashEntry) : (fuel : Nat) → Nat → Option Nat
  | 0, _ => none
  | fuel + 1, p =>
    match hashes[p]? with
    | none => none
    | some h => if h.rootType = .indirect ∨ h.rootType = .warning then followLink hashes fuel h.link else some p

/-- The position of the entry a relocation against a global symbol refers to. -/
def Input.globalIndex (inp : Input) (sym : Nat) : Option Nat :=
  inp.symHashes[sym - inp.locals.length]?.bind (followLink inp.hashes (inp.hashes.length + 1))

/-- The entry of a relocation against a global symbol. -/
def Input.globalEntry (inp : Input) (sym : Nat) : Option HashEntry :=
  (inp.globalIndex sym).bind (inp.hashes[·]?)

/-- `_bfd_elf_is_function_type`. -/
def SymType.isFunction : SymType → Bool
  | .func | .gnuIfunc => true
  | _ => false

/-- `SYMBOLIC_BIND`. -/
def symbolicBind (link : Link) (h : HashEntry) : Bool :=
  !h.uniqueGlobal && (link.symbolic || h.startStop || (link.dynamic && !h.dynamic))

/-- `bfd_is_abs_symbol`. -/
def bfdIsAbsSymbol (link : Link) (h : HashEntry) : Bool :=
  (h.rootType = .defined || h.rootType = .defweak) && h.defSection = some link.absSection && !h.relFromAbs

/-- `ELF_COMMON_DEF_P`. -/
def elfCommonDef (h : HashEntry) : Bool :=
  !h.defRegular && !h.defDynamic && h.rootType = .defined

/-- `_bfd_elf_symbol_refs_local_p`, for an entry of the hash table. -/
def symbolRefsLocal (link : Link) (h : HashEntry) (localProtected : Bool) : Bool :=
  if h.other = .stvHidden ∨ h.other = .stvInternal then true
  else if h.forcedLocal then true
  else if !elfCommonDef h && !h.defRegular then false
  else if h.dynindx = -1 then true
  else if link.executable || symbolicBind link h then true
  else if h.other = .stvDefault then false
  else if link.indirectExternAccess then true
  else if !link.externProtectedData && !h.type.isFunction then true
  else localProtected

/-- `SYMBOL_REFERENCES_LOCAL`. -/
def symbolReferencesLocal (link : Link) (h : HashEntry) : Bool := symbolRefsLocal link h false

/-- `SYMBOL_CALLS_LOCAL`; a null entry is a local symbol. -/
def symbolCallsLocal (link : Link) : Option HashEntry → Bool
  | none => true
  | some h => symbolRefsLocal link h true

/-- `WILL_CALL_FINISH_DYNAMIC_SYMBOL`. -/
def willCallFinishDynamicSymbol (link : Link) (h : HashEntry) : Bool :=
  link.dynamicSectionsCreated && (link.pic || !h.forcedLocal) && (h.dynindx ≠ -1 || h.forcedLocal)

/-- `UNDEFWEAK_NO_DYNAMIC_RELOC`. -/
def undefweakNoDynamicReloc (link : Link) (h : HashEntry) : Bool :=
  h.rootType = .undefweak ∧ h.linkerDef = false ∧ (h.other ≠ .stvDefault ∨ link.noDynamicUndefinedWeak = true)

/-- `RISCV_RESOLVED_LOCALLY`. -/
def riscvResolvedLocally (link : Link) (h : HashEntry) : Bool :=
  !willCallFinishDynamicSymbol link h || (link.pic && symbolReferencesLocal link h)

/-- `RISCV_GENERATE_DYNAMIC_RELOC`. -/
def riscvGenerateDynamicReloc (pcrel : Bool) (link : Link) (h : Option HashEntry) (resolvedToZero : Bool) : Bool :=
  (link.pic
    && (match h with
      | none => true
      | some h => (h.other = .stvDefault && !resolvedToZero) || h.rootType ≠ .undefweak)
    && (!pcrel || !symbolCallsLocal link h))
  || (!link.pic
    && (match h with
      | none => false
      | some h => h.dynindx ≠ -1 && !h.nonGotRef
        && ((h.defDynamic && !h.defRegular) || h.rootType = .undefweak || h.rootType = .undefined)))

/-- `RISCV_COPY_INPUT_RELOC`. -/
def riscvCopyInputReloc (link : Link) : Option HashEntry → Bool
  | none => false
  | some h => h.dynindx ≠ -1 && (!link.pic || !symbolicBind link h || !h.defRegular)

/-- `RISCV_TLS_GD_IE_NEED_DYN_RELOC`: the dynamic index, zero for none, and whether relocations are needed. -/
def riscvTlsGdIeNeedDynReloc (link : Link) (h : Option HashEntry) : Int × Bool :=
  let indx : Int :=
    match h with
    | none => 0
    | some h =>
      if h.dynindx ≠ -1 ∧ willCallFinishDynamicSymbol link h
          ∧ (link.type = .dll ∨ symbolReferencesLocal link h = false)
      then h.dynindx else 0
  let needReloc : Bool :=
    (link.type = .dll || indx ≠ 0)
      && (match h with
      | none => true
      | some h => h.other = .stvDefault || h.rootType ≠ .undefweak)
  (indx, needReloc)

end RiscvBinutils.Bfd
