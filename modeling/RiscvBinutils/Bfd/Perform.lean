/-
Placing a relocation (bfd/elfnn-riscv.c, `perform_relocation`) and the howto table it reads
(bfd/elfxx-riscv.c, `howto_table`).
-/
import RiscvBinutils.Base.Bytes
import RiscvBinutils.Bfd.Basic
import RiscvBinutils.Opcode.Imm

namespace RiscvBinutils.Bfd

open RiscvBinutils.Base RiscvBinutils.Opcode

/-- `ARCH_SIZE` in the linker, `xlen` in the assembler. -/
inductive Xlen
  | rv32 | rv64
  deriving DecidableEq, Repr

/-- The width of a register. -/
def Xlen.bits : Xlen → Nat
  | .rv32 => 32
  | .rv64 => 64

/-- What the link fixes about the target: the ELF class and the byte order of data. -/
structure Target where
  xlen : Xlen
  bigEndian : Bool := false
  deriving DecidableEq, Repr

/-- `bfd_reloc_status_type`, the values used here. -/
inductive RelocStatus
  | ok | overflow | outofrange | notsupported | undefined | dangerous
  deriving DecidableEq, Repr

/-- `reloc_howto_type`, the fields `perform_relocation` reads. -/
structure Howto where
  bitsize : Nat
  pcRelative : Bool
  dstMask : Vma
  deriving DecidableEq, Repr

/-- `-1U` as the argument of the `ENCODE_*` macros in the table. -/
abbrev allOnes32 : Vma := 0xffffffff

/-- `howto_table` and `howto_table_internal`. -/
def howto : RelocType → Howto
  | .none | .copy | .tprelAdd | .align | .relax | .setUleb128 | .subUleb128 | .delete => ⟨0, false, 0⟩
  | .r32 | .relative | .tlsDtpmod32 | .tlsDtprel32 | .tlsTprel32 | .irelative => ⟨32, false, allOnes32⟩
  | .r64 | .tlsDtpmod64 | .tlsDtprel64 | .tlsTprel64 => ⟨64, false, -1⟩
  | .jumpSlot => ⟨64, false, 0⟩
  | .branch => ⟨32, true, encodeBtypeImm allOnes32⟩
  | .jal => ⟨32, true, encodeJtypeImm allOnes32⟩
  | .call | .callPlt => ⟨64, true, encodeUtypeImm allOnes32 ||| (encodeItypeImm allOnes32 <<< 32)⟩
  | .gotHi20 | .tlsGotHi20 | .tlsGdHi20 | .pcrelHi20 => ⟨32, true, encodeUtypeImm allOnes32⟩
  | .hi20 | .tprelHi20 => ⟨32, false, encodeUtypeImm allOnes32⟩
  | .pcrelLo12I | .lo12I | .tprelLo12I | .gprelI | .tprelI => ⟨32, false, encodeItypeImm allOnes32⟩
  | .pcrelLo12S | .lo12S | .tprelLo12S | .gprelS | .tprelS => ⟨32, false, encodeStypeImm allOnes32⟩
  | .add8 | .sub8 | .set8 => ⟨8, false, 0xff⟩
  | .add16 | .sub16 | .set16 => ⟨16, false, 0xffff⟩
  | .add32 | .sub32 | .set32 => ⟨32, false, allOnes32⟩
  | .add64 | .sub64 => ⟨64, false, -1⟩
  | .sub6 | .set6 => ⟨8, false, 0x3f⟩
  | .rvcBranch => ⟨16, true, encodeCbtypeImm allOnes32⟩
  | .rvcJump => ⟨16, true, encodeCjtypeImm allOnes32⟩
  | .rvcLui => ⟨16, false, encodeCitypeImm allOnes32⟩
  | .pcrel32 => ⟨32, true, allOnes32⟩

/-- `riscv_is_insn_reloc`. -/
def riscvIsInsnReloc (h : Howto) : Bool :=
  8 < h.bitsize ∧ h.dstMask ≠ 0 ∧ ~~~(h.dstMask ||| (if h.bitsize < 64 then (-1 : Vma) <<< h.bitsize else 0)) ≠ 0

/-- `riscv_get_insn` for instructions, `bfd_get` in the byte order of the target for data. -/
def getWord (tgt : Target) (h : Howto) (contents : List Byte) (off : Nat) : Vma :=
  if riscvIsInsnReloc h ∨ tgt.bigEndian = false then getl (h.bitsize / 8) contents off
  else getb (h.bitsize / 8) contents off

def putWord (tgt : Target) (h : Howto) (v : Vma) (contents : List Byte) (off : Nat) : List Byte :=
  if riscvIsInsnReloc h ∨ tgt.bigEndian = false then putl (h.bitsize / 8) v contents off
  else putb (h.bitsize / 8) v contents off

/-- The end of `perform_relocation`: replace the bits of the mask. -/
def emplace (tgt : Target) (type : RelocType) (value : Vma) (contents : List Byte) (off : Nat) : List Byte :=
  let h := howto type
  let word := getWord tgt h contents off
  putWord tgt h ((word &&& ~~~h.dstMask) ||| (value &&& h.dstMask)) contents off

/-- The switch of `perform_relocation`, for the cases that only compute the field value. -/
def relocField (xlen : Xlen) (type : RelocType) (value : Vma) : Except RelocStatus Vma :=
  match type with
  | .hi20 | .tprelHi20 | .pcrelHi20 | .gotHi20 | .tlsGotHi20 | .tlsGdHi20 =>
    if xlen = .rv64 ∧ !validUtypeImm (constHighPart value) then .error .overflow
    else .ok (encodeUtypeImm (constHighPart value))
  | .lo12I | .gprelI | .tprelLo12I | .tprelI | .pcrelLo12I => .ok (encodeItypeImm value)
  | .lo12S | .gprelS | .tprelLo12S | .tprelS | .pcrelLo12S => .ok (encodeStypeImm value)
  | .call | .callPlt =>
    if xlen = .rv64 ∧ !validUtypeImm (constHighPart value) then .error .overflow
    else .ok (encodeUtypeImm (constHighPart value) ||| (encodeItypeImm value <<< 32))
  | .jal => if validJtypeImm value then .ok (encodeJtypeImm value) else .error .overflow
  | .branch => if validBtypeImm value then .ok (encodeBtypeImm value) else .error .overflow
  | .rvcBranch => if validCbtypeImm value then .ok (encodeCbtypeImm value) else .error .overflow
  | .rvcJump => if validCjtypeImm value then .ok (encodeCjtypeImm value) else .error .overflow
  | .r32 | .r64 | .add8 | .add16 | .add32 | .add64 | .sub6 | .sub8 | .sub16 | .sub32 | .sub64
  | .set6 | .set8 | .set16 | .set32 | .pcrel32 | .tlsDtprel32 | .tlsDtprel64 => .ok value
  | _ => .error .notsupported

/-! ### The ULEB128 case -/

/-- `_bfd_read_unsigned_leb128`, the number of bytes it reads. -/
def ulebLength : List Byte → Nat
  | [] => 1
  | b :: bs => if b &&& 0x80 = 0 then 1 else ulebLength bs + 1

/-- The loop that counts the seven-bit groups of `val_t`, an `unsigned int`; five always suffice. -/
def ulebGroups : (fuel : Nat) → Nat → Nat
  | 0, _ => 0
  | fuel + 1, v => if v / 128 = 0 then 1 else ulebGroups fuel (v / 128) + 1

/-- `_bfd_write_unsigned_leb128` with room for `room` bytes: the bytes written, and whether the whole
value fitted. -/
def writeUnsignedLeb128 : (room : Nat) → Vma → List Byte × Bool
  | 0, _ => ([], false)
  | room + 1, v =>
    let c : Byte := (v &&& 0x7f).setWidth 8
    if v >>> 7 = 0 then ([c], true)
    else
      let rest := writeUnsignedLeb128 room (v >>> 7)
      ((c ||| 0x80) :: rest.1, rest.2)

/-- The `R_RISCV_SUB_ULEB128` case: the old length is kept, the old bytes are cleared first. -/
def performUleb128 (value : Vma) (contents : List Byte) (off : Nat) : RelocStatus × List Byte :=
  let len := ulebLength (contents.drop off)
  let cleared := splice contents off (List.replicate (len - 1) 0x80 ++ [0])
  if len < ulebGroups 5 (value.toNat % 2 ^ 32) then (.dangerous, cleared)
  else
    let written := writeUnsignedLeb128 len value
    let bytes :=
      if written.2 ∧ written.1.length < len
      then written.1.modify (written.1.length - 1) (· ||| 0x80) else written.1
    (.ok, splice cleared off bytes)

def matchCLui : Vma := 0x6001
def matchCLi : Vma := 0x4001

/-- `perform_relocation`; `secAddr` is `sec_addr (input_section)`. -/
def performRelocation (tgt : Target) (rel : Rela) (value secAddr : Vma) (contents : List Byte) :
    RelocStatus × List Byte :=
  let value := if (howto rel.type).pcRelative then value - (secAddr + rel.offset) else value
  let value := if rel.type = .subUleb128 then value else value + rel.addend
  let off := rel.offset.toNat
  match rel.type with
  | .rvcLui =>
    if constHighPart value = 0 then
      -- `c.lui` does not accept zero: make it a `c.li`
      let insn := getl 2 contents off
      let contents := putl 2 ((insn &&& ~~~matchCLui) ||| matchCLi) contents off
      (.ok, emplace tgt .rvcLui (encodeCitypeImm 0) contents off)
    else if validCitypeLuiImm (constHighPart value) then
      (.ok, emplace tgt .rvcLui (encodeCitypeLuiImm (constHighPart value)) contents off)
    else (.overflow, contents)
  | .subUleb128 => performUleb128 value contents off
  | .delete => (.ok, contents)
  | type =>
    match relocField tgt.xlen type value with
    | .error status => (status, contents)
    | .ok value => (.ok, emplace tgt type value contents off)

/-! ### What a relocation writes -/

/-- The number of bytes a relocation may write. -/
def extent (type : RelocType) (contents : List Byte) (off : Nat) : Nat :=
  if type = .subUleb128 then ulebLength (contents.drop off) else (howto type).bitsize / 8

theorem putWord_sameOutside (tgt : Target) (h : Howto) (v : Vma) {contents : List Byte} {off : Nat}
    (hin : off + h.bitsize / 8 ≤ contents.length) :
    SameOutside off (h.bitsize / 8) contents (putWord tgt h v contents off) := by
  unfold putWord
  split
  · exact sameOutside_putl v hin
  · exact sameOutside_putb v hin

theorem emplace_sameOutside (tgt : Target) (type : RelocType) (value : Vma) {contents : List Byte} {off : Nat}
    (hin : off + (howto type).bitsize / 8 ≤ contents.length) :
    SameOutside off ((howto type).bitsize / 8) contents (emplace tgt type value contents off) :=
  putWord_sameOutside tgt _ _ hin

theorem ulebLength_pos (bs : List Byte) : 0 < ulebLength bs := by
  cases bs with
  | nil => exact Nat.one_pos
  | cons b bs =>
    rw [ulebLength]
    split <;> omega

theorem writeUnsignedLeb128_length (room : Nat) (v : Vma) : (writeUnsignedLeb128 room v).1.length ≤ room := by
  induction room generalizing v with
  | zero => exact le_rfl
  | succ room ih =>
    have hrest := ih (v >>> 7)
    rw [writeUnsignedLeb128]
    split
    · simp
    · simp only [List.length_cons]
      omega

theorem performUleb128_sameOutside (value : Vma) {contents : List Byte} {off : Nat}
    (hin : off + ulebLength (contents.drop off) ≤ contents.length) :
    SameOutside off (ulebLength (contents.drop off)) contents (performUleb128 value contents off).2 := by
  have hpos := ulebLength_pos (contents.drop off)
  have hwrite := writeUnsignedLeb128_length (ulebLength (contents.drop off)) value
  have hclear : SameOutside off (ulebLength (contents.drop off)) contents
      (splice contents off (List.replicate (ulebLength (contents.drop off) - 1) 0x80 ++ [0])) := by
    apply SameOutside.splice hin
    rw [List.length_append, List.length_replicate, List.length_singleton]
    omega
  unfold performUleb128
  dsimp only
  split
  · exact hclear
  · refine hclear.trans (SameOutside.splice (hclear.length.symm ▸ hin) ?_)
    split
    · rwa [List.length_modify]
    · exact hwrite

/-- The cases of `perform_relocation` that compute the field from the value alone. -/
theorem performRelocation_field {tgt : Target} {rel : Rela} {value secAddr : Vma} {contents : List Byte}
    (hlui : rel.type ≠ .rvcLui) (huleb : rel.type ≠ .subUleb128) (hdelete : rel.type ≠ .delete) :
    performRelocation tgt rel value secAddr contents =
      match relocField tgt.xlen rel.type
        ((if (howto rel.type).pcRelative then value - (secAddr + rel.offset) else value) + rel.addend) with
      | .error status => (status, contents)
      | .ok field => (.ok, emplace tgt rel.type field contents rel.offset.toNat) := by
  unfold performRelocation
  simp only [if_neg huleb]

/-- Nothing is written outside the extent. -/
theorem performRelocation_sameOutside (tgt : Target) (rel : Rela) (value secAddr : Vma) {contents : List Byte}
    (hin : rel.offset.toNat + extent rel.type contents rel.offset.toNat ≤ contents.length) :
    SameOutside rel.offset.toNat (extent rel.type contents rel.offset.toNat) contents
      (performRelocation tgt rel value secAddr contents).2 := by
  unfold performRelocation
  extract_lets pcValue value off
  split
  · rename_i htype
    rw [htype] at hin ⊢
    have hput (v : Vma) := sameOutside_putl (n := 2) v hin
    split
    · exact (hput _).trans (emplace_sameOutside tgt .rvcLui _ ((hput _).length.symm ▸ hin))
    · split
      · exact emplace_sameOutside tgt .rvcLui _ hin
      · exact .refl ..
  · rename_i htype
    rw [htype] at hin ⊢
    exact performUleb128_sameOutside _ hin
  · exact .refl ..
  · rename_i hlui huleb hdelete
    rw [extent, if_neg huleb] at hin ⊢
    split
    · exact .refl ..
    · exact emplace_sameOutside tgt rel.type _ hin

end RiscvBinutils.Bfd
