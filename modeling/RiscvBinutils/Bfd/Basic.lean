/-
The linker's data model: relocations, symbols and the section being relaxed.
Sources: include/elf/riscv.h (relocation types), include/bfdlink.h and bfd/elf-bfd.h (hash
entries), bfd/elfnn-riscv.c (the pcgp records).
-/
import Mathlib.Tactic

namespace RiscvBinutils.Bfd

/-- `bfd_vma`: addresses, offsets and addends are 64 bits wide for both ELF classes. -/
abbrev Vma := BitVec 64

/-- `bfd_byte`. -/
abbrev Byte := BitVec 8

/-- The relocation types; the last six exist only inside the relaxation pass. -/
inductive RelocType
  | none | r32 | r64 | relative | copy | jumpSlot
  | tlsDtpmod32 | tlsDtpmod64 | tlsDtprel32 | tlsDtprel64 | tlsTprel32 | tlsTprel64
  | branch | jal | call | callPlt | gotHi20 | tlsGotHi20 | tlsGdHi20
  | pcrelHi20 | pcrelLo12I | pcrelLo12S | hi20 | lo12I | lo12S
  | tprelHi20 | tprelLo12I | tprelLo12S | tprelAdd
  | add8 | add16 | add32 | add64 | sub8 | sub16 | sub32 | sub64
  | align | rvcBranch | rvcJump | relax
  | sub6 | set6 | set8 | set16 | set32 | pcrel32 | irelative | setUleb128 | subUleb128
  | delete | rvcLui | gprelI | gprelS | tprelI | tprelS
  deriving DecidableEq, Repr

/-- `Elf_Internal_Rela`, with `r_info` split into symbol index and type. -/
structure Rela where
  offset : Vma
  sym : Nat
  type : RelocType
  addend : Vma
  deriving DecidableEq, Repr

/-- The `STT_*` symbol types. -/
inductive SymType
  | notype | object | func | section | file | common | tls | gnuIfunc
  deriving DecidableEq, Repr

/-- `Elf_Internal_Sym`, the fields the relaxation reads. -/
structure LocalSym where
  value : Vma
  size : Vma
  shndx : Nat
  type : SymType := .notype
  deriving DecidableEq, Repr

/-- `enum bfd_link_hash_type`. -/
inductive LinkHashType
  | new | undefined | undefweak | defined | defweak | common | indirect | warning
  deriving DecidableEq, Repr

/-- `enum elf_symbol_version`. -/
inductive SymbolVersion
  | unknown | unversioned | versioned | versionedHidden
  deriving DecidableEq, Repr

/-- `ELF_ST_VISIBILITY`. -/
inductive Visibility
  | stvDefault | stvInternal | stvHidden | stvProtected
  deriving DecidableEq, Repr

/-- The bits of `tls_type`: how the GOT entry of a symbol is used. -/
structure GotType where
  /-- `GOT_NORMAL`. -/
  normal : Bool := false
  /-- `GOT_TLS_GD`. -/
  gd : Bool := false
  /-- `GOT_TLS_IE`. -/
  ie : Bool := false
  /-- `GOT_TLS_LE`. -/
  le : Bool := false
  deriving DecidableEq, Repr

/-- `struct elf_link_hash_entry`, the fields the modelled functions read.  Sections and other entries are
named by their position in the tables of the link. -/
structure HashEntry where
  rootType : LinkHashType
  /-- `root.u.def.section`. -/
  defSection : Option Nat := Option.none
  /-- `root.u.def.value`. -/
  defValue : Vma := 0
  /-- `root.u.i.link`, meaningful for `indirect` and `warning`. -/
  link : Nat := 0
  linkerDef : Bool := false
  relFromAbs : Bool := false
  size : Vma := 0
  type : SymType := .notype
  versioned : SymbolVersion := .unversioned
  /-- `plt.offset`; all ones when there is no PLT entry. -/
  pltOffset : Vma := -1
  /-- `ELF_ST_VISIBILITY (other)`. -/
  other : Visibility := .stvDefault
  defRegular : Bool := false
  defDynamic : Bool := false
  forcedLocal : Bool := false
  nonGotRef : Bool := false
  dynamic : Bool := false
  uniqueGlobal : Bool := false
  startStop : Bool := false
  /-- `dynindx`, `-1` when the symbol is not dynamic. -/
  dynindx : Int := -1
  /-- `tls_type` of `struct riscv_elf_link_hash_entry`. -/
  tlsType : GotType := {}
  deriving DecidableEq, Repr

/-- `riscv_pcgp_hi_reloc`. -/
structure PcgpHiReloc where
  hiSecOff : Vma
  hiAddend : Vma
  hiAddr : Vma
  hiSym : Nat
  symSec : Nat
  undefinedWeak : Bool
  deriving DecidableEq, Repr

/-- `riscv_pcgp_relocs`: the high parts already relaxed, and the offsets of high parts whose low
part was seen first.  Both lists are in the order of the C lists, newest first. -/
structure PcgpRelocs where
  hi : List PcgpHiReloc := []
  lo : List Vma := []
  deriving DecidableEq, Repr

/-- What deleting bytes may change: the section, its relocations, the local symbols of the input
file and the linker's hash entries. -/
structure SecState where
  size : Vma
  contents : List Byte
  relocs : List Rela
  locals : List LocalSym
  hashes : List HashEntry
  deriving DecidableEq, Repr

/-- What stays fixed: which section it is, the `sym_hashes` of the input file (entries of the hash
table, possibly repeated), and whether `--wrap` is in use. -/
structure SecInfo where
  sec : Nat
  shndx : Nat
  symHashes : List Nat
  wrapHash : Bool := false
  deriving DecidableEq, Repr

end RiscvBinutils.Bfd
