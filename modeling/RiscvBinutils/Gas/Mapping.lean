/-
The mapping symbols in the assembler (gas/config/tc-riscv.c): `make_mapping_symbol`,
`riscv_mapping_state`, `riscv_handle_align` and `riscv_check_mapping_symbols`, for one text section
that is assembled without relaxation, with the frags of gas/frags.c that the symbols belong to.
-/
import RiscvBinutils.Base.Marks
import RiscvBinutils.Opcode.Mapping
import Mathlib.Tactic

namespace RiscvBinutils.Gas

open RiscvBinutils.Base RiscvBinutils.Opcode

/-! ## Frags -/

/-- `arch_str` of the subset list. -/
structure ArchStr where
  text : List Char
  rv : "rv".toList <+: text

/-- What a byte of the section was emitted as. -/
inductive ByteKind
  | data
  | insn (arch : List Char)
  /-- The zero byte of an odd padding. -/
  | oddPadding
  /-- A byte of a nop in a padding. -/
  | nop
  deriving DecidableEq, Repr

/-- A mapping symbol; its value is the offset in the frag. -/
abbrev MapSymbol := Mark (List Char)

/-- `fr_type`, with `fr_offset` and `fr_subtype` of the alignments. -/
inductive FragType
  | rsFill
  | rsAlign (alignment max : Nat)
  | rsAlignCode (alignment max : Nat)
  deriving DecidableEq, Repr

/-- A frag with the symbols that are in it. The length of `content` is `fr_fix`. -/
structure Frag where
  address : Nat := 0
  content : List ByteKind := []
  type : FragType := .rsFill
  firstMapSymbol : Option MapSymbol := none
  lastMapSymbol : Option MapSymbol := none
  /-- The symbols of the frag in the symbol table. -/
  symbols : List MapSymbol := []
  deriving DecidableEq, Repr

/-- `symbol_remove`. -/
def Frag.symbolRemove (frag : Frag) (symbol : MapSymbol) : Frag := { frag with symbols := frag.symbols.erase symbol }

/-! ## Making a symbol -/

/-- The name of the symbol for a state. -/
def mapName (state : MapState) (archStr : Option (List Char)) : List Char :=
  match state, archStr with
  | .mapData, _ => dataName
  | _, none => insnName
  | _, some arch => insnName ++ arch

/-- The symbol is added to the frag; what it replaces is the symbol at the same offset. -/
def Frag.addSymbol (frag : Frag) (symbol : MapSymbol) : Frag × Option MapSymbol :=
  let removed :=
    if symbol.value = 0 then frag.firstMapSymbol
    else frag.lastMapSymbol.filter fun last => last.value = symbol.value
  ({ frag with
      symbols := frag.symbols ++ [symbol]
      firstMapSymbol := if symbol.value = 0 then some symbol else frag.firstMapSymbol
      lastMapSymbol := some symbol }, removed)

/-- `make_mapping_symbol`. -/
def makeMappingSymbol (state : MapState) (value : Nat) (frag : Frag) (archStr : Option (List Char)) : Frag :=
  let (frag, removed) := frag.addSymbol ⟨mapName state archStr, value⟩
  match removed with
  | none => frag
  | some removed => frag.symbolRemove removed

/-- `make_mapping_symbol` with `odd_data_padding`: an architecture that is removed is added to the next `$x`. -/
def makeOddMappingSymbol (state : MapState) (value : Nat) (frag : Frag) (archStr : Option (List Char)) : Frag :=
  let (frag, removed) := frag.addSymbol ⟨mapName state archStr, value⟩
  match removed with
  | none => frag
  | some removed =>
    let str := if isArchName removed.name then some (removed.name.drop 2) else none
    (makeMappingSymbol .mapInsn (frag.content.length + 1) frag str).symbolRemove removed

/-! ## Reading the source -/

/-- The section while the source is read: `frag_now`, the frags before it, and `tc_segment_info_data`. -/
structure SegState where
  closed : List Frag := []
  fragNow : Frag := {}
  mapState : MapState := .mapNone
  archMapSymbol : Option MapSymbol := none
  /-- `riscv_rps_as.subset_list->arch_str`. -/
  arch : ArchStr
  rvc : Bool

/-- `riscv_mapping_state`; the symbol is in front of what is reserved for the frag's variable part. -/
def riscvMappingState (s : SegState) (toState : MapState) (frAlignCode : Bool) : SegState :=
  let make (archStr : Option (List Char)) : SegState :=
    let value := s.fragNow.content.length
    { s with
      mapState := toState
      fragNow := makeMappingSymbol toState value s.fragNow archStr
      archMapSymbol := if archStr.isSome then some ⟨mapName toState archStr, value⟩ else s.archMapSymbol }
  match s.archMapSymbol with
  | none =>
    if toState = .mapInsn then make (some s.arch.text)
    else if s.mapState = toState then s
    else make none
  | some segArchSymbol =>
    if toState = .mapInsn ∧ frAlignCode = false ∧ s.arch.text ≠ segArchSymbol.name.drop 2 then make (some s.arch.text)
    else if s.mapState = toState then s
    else make none

/-- `frag_new`, after the type of the frag is set. -/
def fragNew (s : SegState) (type : FragType) : SegState :=
  { s with closed := s.closed ++ [{ s.fragNow with type }], fragNow := {} }

/-- What a directive or an instruction emits behind its mapping symbol: bytes, and new frags where there is no room or
one is asked for. -/
inductive Piece
  | bytes (n : Nat)
  | newFrag
  deriving DecidableEq, Repr

def emitPiece (kind : ByteKind) (s : SegState) : Piece → SegState
  | .bytes n => { s with fragNow := { s.fragNow with content := s.fragNow.content ++ List.replicate n kind } }
  | .newFrag => fragNew s .rsFill

def emitPieces (kind : ByteKind) (s : SegState) (pieces : List Piece) : SegState :=
  pieces.foldl (emitPiece kind) s

def Piece.size : Piece → Nat
  | .bytes n => n
  | .newFrag => 0

/-- `frag_grow`, where `n` frags are begun until there is room. -/
def fragGrow (s : SegState) (n : Nat) : SegState := emitPieces .data s (List.replicate n .newFrag)

/-- `frag_align_code`: `riscv_init_frag` is called from `frag_var` for the frag that is closed. -/
def fragAlignCode (s : SegState) (alignment max grown : Nat) : SegState :=
  fragNew (riscvMappingState (fragGrow s grown) .mapInsn true) (.rsAlignCode alignment max)

/-- `frag_align` and `frag_align_pattern`. -/
def fragAlign (s : SegState) (alignment max grown : Nat) : SegState :=
  fragNew (riscvMappingState (fragGrow s grown) .mapData false) (.rsAlign alignment max)

/-- What is read from the source for the section. -/
inductive MapOp
  /-- An instruction, or a macro: `md_assemble` and `.insn`. -/
  | insn (pieces : List Piece) (emits : 0 < (pieces.map Piece.size).sum)
  /-- A data directive, which may be without a byte. -/
  | data (pieces : List Piece)
  /-- `.align` without a fill value. -/
  | alignCode (n max grown : Nat)
  /-- `.align` with a fill value. -/
  | align (n max grown : Nat)
  /-- `.option arch` and what else sets the architecture. -/
  | optionArch (arch : ArchStr) (rvc : Bool)

def applyOp (s : SegState) : MapOp → SegState
  | .insn pieces _ => emitPieces (.insn s.arch.text) (riscvMappingState s .mapInsn false) pieces
  | .data pieces => emitPieces .data (riscvMappingState s .mapData false) pieces
  | .alignCode n max grown =>
    -- `riscv_frag_align_code`, where `relax` is off
    if 2 ^ n ≤ (if s.rvc then 2 else 4) then s else fragAlignCode s n max grown
  | .align n max grown => if n = 0 then s else fragAlign s n max grown
  | .optionArch arch rvc => { s with arch, rvc }

/-- `subsegs_finish_section`: the section is aligned, and an empty frag is the last. -/
def subsegsFinish (s : SegState) (alignment grown : Nat) : List Frag :=
  let s := fragAlignCode s alignment 0 grown
  s.closed ++ [s.fragNow]

/-! ## Writing the section -/

/-- `relax_align`. -/
def relaxAlign (address alignment : Nat) : Nat :=
  (address + (2 ^ alignment - 1)) / 2 ^ alignment * 2 ^ alignment - address

/-- The padding of an alignment whose fixed part ends at `address`. -/
def FragType.padding (address : Nat) : FragType → Nat
  | .rsFill => 0
  | .rsAlign alignment max | .rsAlignCode alignment max =>
    let offset := relaxAlign address alignment
    if max ≠ 0 ∧ max < offset then 0 else offset

/-- The bytes of `riscv_make_nops`. -/
def riscvMakeNops (bytes : Nat) : List ByteKind :=
  (if bytes % 2 = 1 then [.oddPadding] else []) ++ List.replicate (bytes - bytes % 2) .nop

/-- `riscv_handle_align`, and what `write_contents` fills behind it. -/
def riscvHandleAlign (frag : Frag) : Frag :=
  let bytes := frag.type.padding (frag.address + frag.content.length)
  match frag.type with
  | .rsFill => frag
  | .rsAlign _ _ => { frag with content := frag.content ++ List.replicate bytes .data }
  | .rsAlignCode _ _ =>
    if bytes = 0 then frag
    else
      let excess := bytes % 4
      let frag := if excess % 2 = 1 then makeOddMappingSymbol .mapData frag.content.length frag none else frag
      { frag with content := frag.content ++ riscvMakeNops excess ++ List.replicate (bytes - excess) .nop }

/-- The addresses after `relax_segment`. -/
def relaxSegment (address : Nat) : List Frag → List Frag
  | [] => []
  | frag :: frags =>
    { frag with address } ::
      relaxSegment (address + frag.content.length + frag.type.padding (address + frag.content.length)) frags

/-- The inner loop of `riscv_check_mapping_symbols`: whether the last symbol of a frag is removed, and the frags behind
it. -/
def checkNext (last : MapSymbol) : List Frag → Bool × List Frag
  | [] => (false, [])
  | next :: frags =>
    match next.firstMapSymbol with
    | some nextFirst =>
      if isArchName last.name ∧ nextFirst.name = insnName then (false, next.symbolRemove nextFirst :: frags)
      else (true, next :: frags)
    | none =>
      match frags with
      | [] => (true, next :: frags)
      | next' :: _ =>
        if next.address ≠ next'.address then (false, next :: frags)
        else
          let (removed, frags) := checkNext last frags
          (removed, next :: frags)

/-- One frag of `riscv_check_mapping_symbols`. -/
def checkFrag (frag : Frag) (frags : List Frag) : Frag × List Frag :=
  match frag.lastMapSymbol, frags with
  | some last, next :: _ =>
    if frag.address + last.value < next.address then (frag, frags)
    else
      let (removed, frags) := checkNext last frags
      (if removed then frag.symbolRemove last else frag, frags)
  | _, _ => (frag, frags)

/-- `riscv_check_mapping_symbols`, for as many frags as there are. -/
def riscvCheckMappingSymbols : Nat → List Frag → List Frag
  | 0, frags => frags
  | _ + 1, [] => []
  | n + 1, frag :: frags =>
    let (frag, frags) := checkFrag frag frags
    frag :: riscvCheckMappingSymbols n frags

/-- The frags of the section with their addresses. -/
def relaxedFrags (arch : ArchStr) (rvc : Bool) (ops : List MapOp) (alignment grown : Nat) : List Frag :=
  relaxSegment 0 (subsegsFinish (ops.foldl applyOp { arch, rvc }) alignment grown)

/-- The frags before the last check. -/
def alignedFrags (arch : ArchStr) (rvc : Bool) (ops : List MapOp) (alignment grown : Nat) : List Frag :=
  (relaxedFrags arch rvc ops alignment grown).map riscvHandleAlign

/-- The frags of the section as they are written. -/
def assembledFrags (arch : ArchStr) (rvc : Bool) (ops : List MapOp) (alignment grown : Nat) : List Frag :=
  let frags := alignedFrags arch rvc ops alignment grown
  riscvCheckMappingSymbols frags.length frags

/-- The bytes of the section. -/
def sectionBytes (frags : List Frag) : List ByteKind := frags.flatMap Frag.content

/-- The mapping symbols that remain, with their values in the section. -/
def remainingSymbols (frags : List Frag) : List MapSymbol :=
  frags.flatMap fun frag => frag.symbols.map fun symbol => ⟨symbol.name, frag.address + symbol.value⟩

end RiscvBinutils.Gas
