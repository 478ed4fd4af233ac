/-
Instructions that the disassembler does not know (opcodes/riscv-dis.c, `riscv_disassemble_insn`).
Their bits are printed in the form of the directive `.insn`, which the assembler reads back.
-/
import RiscvBinutils.Gas.InsnWritten

namespace RiscvBinutils.Dis

open RiscvBinutils.Base RiscvBinutils.Opcode RiscvBinutils.Gas

/-! ## The table -/

/-- `struct riscv_opcode`; `κ` is the type of the instruction classes. -/
structure RiscvOpcode (κ : Type) where
  name : List Char
  xlenRequirement : Nat
  insnClass : κ
  matchBits : BitVec 64
  matchFunc : BitVec 64 → Bool
  /-- `pinfo == INSN_MACRO`. -/
  macroInsn : Bool
  /-- `pinfo & INSN_ALIAS`. -/
  aliasInsn : Bool

/-- The options of the disassembler, and what the architecture supports. -/
structure DisOptions (κ : Type) where
  noAliases : Bool
  xlen : Nat
  supports : κ → Bool

section Disassemble

variable {κ : Type}

/-- `OP_HASH_IDX`. -/
def opHashIdx (i : BitVec 64) : BitVec 64 := i &&& if riscvInsnLength i = 2 then 0x3#64 else 0x7f#64

/-- The entry that is printed; the search begins at the first entry with the same hash. -/
def findOpcode (options : DisOptions κ) (opcodes : List (RiscvOpcode κ)) (word : BitVec 64) : Option (RiscvOpcode κ) :=
  (opcodes.dropWhile fun op => opHashIdx op.matchBits ≠ opHashIdx word).find? fun op =>
    !op.macroInsn && op.matchFunc word && !(options.noAliases && op.aliasInsn) &&
      (op.xlenRequirement = 0 || op.xlenRequirement = options.xlen) && options.supports op.insnClass

/-! ## The text -/

/-- The halfwords of a packet, as `bfd_get_bits` reads them. -/
def halfwords : List (BitVec 8) → List (BitVec 16)
  | b₀ :: b₁ :: bs => (b₁ ++ b₀) :: halfwords bs
  | _ => []

/-- `%04x`. -/
def hexWord (word : BitVec 16) : List Char :=
  [12, 8, 4, 0].map fun s => Nat.digitChar (word.toNat / 2 ^ s % 16)

/-- The loop over the halfwords, from the last one on; leading zeros are left out. -/
def printWords (printed : Bool) : List (BitVec 16) → List Char
  | [] => []
  | word :: words =>
    if word = 0 ∧ printed = false then printWords printed words else hexWord word ++ printWords true words

/-- The text for an instruction that is not in the table. -/
def insnText (insnlen : Nat) (packet : List (BitVec 8)) : List Char :=
  ".insn\t".toList ++ Nat.toDigits 10 insnlen ++ ", 0x".toList ++ printWords false (halfwords packet).reverse

/-- `riscv_disassemble_insn`: the entry whose name and operands are printed, or the text. -/
def riscvDisassembleInsn (options : DisOptions κ) (opcodes : List (RiscvOpcode κ)) (word : BitVec 64)
    (packet : List (BitVec 8)) : RiscvOpcode κ ⊕ List Char :=
  match findOpcode options opcodes word with
  | some op => .inl op
  | none => .inr (insnText (riscvInsnLength word) packet)

/-- A packet as `print_insn_riscv` fetches it: its length is that of its first halfword. -/
structure Packet where
  bytes : List (BitVec 8)
  length : bytes.length = riscvInsnLength (getl 2 bytes 0)

/-- The word of a packet, which are its first eight bytes. -/
def Packet.word (packet : Packet) : BitVec 64 := BitVec.ofNat 64 (fromBytes packet.bytes)

end Disassemble

/-! ## Printed numbers -/

section Print

theorem hexValue_digitChar : ∀ n < 16, hexValue (Nat.digitChar n) = n := by decide

theorem hexWord_value (word : BitVec 16) : ofDigits 16 ((hexWord word).map hexValue) = word.toNat := by
  have hlt := word.isLt
  have hdigit (s : Nat) : hexValue (Nat.digitChar (word.toNat / 2 ^ s % 16)) = word.toNat / 2 ^ s % 16 :=
    hexValue_digitChar _ (Nat.mod_lt _ (by decide))
  simp only [hexWord, List.map_cons, List.map_nil, hdigit, ofDigits, List.foldl_cons, List.foldl_nil]
  norm_num only
  omega

theorem hexWord_digits (word : BitVec 16) : ∀ c ∈ hexWord word, hexValue c < 16 := by
  intro c hc
  obtain ⟨s, -, rfl⟩ := List.mem_map.mp hc
  rw [hexValue_digitChar _ (Nat.mod_lt _ (by decide))]
  exact Nat.mod_lt _ (by decide)

theorem printWords_true (words : List (BitVec 16)) : printWords true words = words.flatMap hexWord := by
  induction words with
  | nil => rfl
  | cons word words ih => rw [printWords, if_neg (by simp), ih, List.flatMap_cons]

/-- Without the leading zeros. -/
theorem printWords_false (words : List (BitVec 16)) :
    printWords false words = (words.dropWhile (· = 0)).flatMap hexWord := by
  induction words with
  | nil => rfl
  | cons word words ih =>
    rw [printWords]
    by_cases hzero : word = 0
    · rw [if_pos ⟨hzero, rfl⟩, ih, List.dropWhile_cons_of_pos (by simpa using hzero)]
    · rw [if_neg fun h => hzero h.1, printWords_true, List.dropWhile_cons_of_neg (by simpa using hzero),
        List.flatMap_cons]

theorem flatMap_hexWord_length (words : List (BitVec 16)) : (words.flatMap hexWord).length = 4 * words.length := by
  induction words with
  | nil => rfl
  | cons word words ih =>
    rw [List.flatMap_cons, List.length_append, ih, List.length_cons, hexWord, List.length_map]
    simp only [List.length_cons, List.length_nil]
    omega

/-- The digits of halfwords spell the number of which they are the limbs. -/
theorem flatMap_hexWord_value (words : List (BitVec 16)) :
    ofDigits 16 ((words.flatMap hexWord).map hexValue) = fromLimbs words.reverse := by
  induction words with
  | nil => rfl
  | cons word words ih =>
    rw [List.flatMap_cons, List.map_append, ofDigits_append, ih, hexWord_value, List.length_map, flatMap_hexWord_length,
      List.reverse_cons, fromLimbs_append, List.length_reverse, fromLimbs, fromLimbs, Nat.pow_mul,
      show (16 : Nat) ^ 4 = 2 ^ 16 by norm_num]
    ring

theorem printWords_value (words : List (BitVec 16)) :
    ofDigits 16 ((printWords false words).map hexValue) = fromLimbs words.reverse := by
  rw [printWords_false, flatMap_hexWord_value, fromLimbs_dropWhile]

theorem printWords_digits (words : List (BitVec 16)) : ∀ c ∈ printWords false words, hexValue c < 16 := by
  intro c hc
  rw [printWords_false] at hc
  obtain ⟨word, -, hword⟩ := List.mem_flatMap.mp hc
  exact hexWord_digits word c hword

theorem fromLimbs_halfwords : ∀ {bytes : List (BitVec 8)}, bytes.length % 2 = 0 →
    fromLimbs (halfwords bytes) = fromBytes bytes
  | [], _ => rfl
  | [_], h => by cases h
  | b₀ :: b₁ :: bs, h => by
    have hrest := @fromLimbs_halfwords bs (by rw [List.length_cons, List.length_cons] at h; omega)
    have hlow := b₀.isLt
    have hword : (b₁ ++ b₀ : BitVec 16).toNat = b₀.toNat + 256 * b₁.toNat := by
      rw [BitVec.toNat_append, Nat.shiftLeft_eq, Nat.mul_comm, ← Nat.two_pow_add_eq_or_of_lt hlow]
      omega
    rw [halfwords, fromLimbs, hrest, hword, fromBytes, fromBytes]
    ring

end Print

/-! ## Numbers that are read back -/

section Read

variable (env : ExprEnv) (bignum : GenericBignum)

/-- The length of an instruction is read as a constant. -/
theorem expression_length {n : Nat} (hn : n ∈ [2, 4, 6, 8, 10, 12, 14, 16, 18, 20, 22]) (tail : List Char) :
    expression env bignum (Nat.toDigits 10 n ++ ',' :: tail) =
      { operand := .constant (BitVec.ofNat 64 n), rest := ',' :: tail, bignum } := by
  fin_cases hn <;> rfl

/-- The name of a type cannot begin with a digit. -/
theorem length_not_type {n : Nat} (hn : n ∈ [2, 4, 6, 8, 10, 12, 14, 16, 18, 20, 22]) (tail : List Char) :
    (Nat.toDigits 10 n ++ ',' :: ' ' :: tail).takeWhile (fun c => !isSpace c) ∉ riscvInsnTypes := by
  have hname : (Nat.toDigits 10 n ++ ',' :: ' ' :: tail).takeWhile (fun c => !isSpace c) =
      Nat.toDigits 10 n ++ [','] := by
    fin_cases hn <;> rfl
  have htypes : ∀ n ∈ [2, 4, 6, 8, 10, 12, 14, 16, 18, 20, 22], Nat.toDigits 10 n ++ [','] ∉ riscvInsnTypes := by
    decide
  rw [hname]
  exact htypes n hn

variable {env bignum}

theorem hexNumeral_digits {digits : List Char} (hne : digits ≠ []) (hdigits : ∀ c ∈ digits, hexValue c < 16) :
    hexNumeral digits = some (.digits 16 (digits.map hexValue), []) := by
  have hall : ∀ c ∈ digits, decide (hexValue c < 16) = true := fun c hc => decide_eq_true (hdigits c hc)
  have htake : digits.takeWhile (fun c => decide (hexValue c < 16)) = digits := List.takeWhile_eq_self_iff.mpr hall
  have hdrop : digits.dropWhile (fun c => decide (hexValue c < 16)) = [] := List.dropWhile_eq_nil_iff.mpr hall
  unfold hexNumeral digitsOf behindDigits
  rw [htake, hdrop, if_neg (by simp), if_neg (by simpa using hne)]
  rfl

/-- A hexadecimal number is read as it is. -/
theorem expression_hex {digits : List Char} (hne : digits ≠ []) (hdigits : ∀ c ∈ digits, hexValue c < 16)
    (hfits : ofDigits 16 (digits.map hexValue) < (2 ^ 16) ^ sizeOfLargeNumber) :
    (expression env bignum (" 0x".toList ++ digits)).rest = [] ∧
      ReadsInteger (expression env bignum (" 0x".toList ++ digits)) (ofDigits 16 (digits.map hexValue)) := by
  have hnumeral : numeral (skipWhitespace (" 0x".toList ++ digits)) = some (.digits 16 (digits.map hexValue), []) :=
    hexNumeral_digits hne hdigits
  obtain ⟨hrest, hreads⟩ := expression_reads env bignum hnumeral (.inl rfl)
  refine ⟨hrest, ?_⟩
  rcases hreads.plain fun h => absurd h.1 (by decide) with hvalue | ⟨hfull, -⟩
  · exact hvalue
  · exact absurd hfull (Nat.not_le.mpr hfits)

end Read

/-! ## The packet comes back -/

/-- The text is the directive with the length of the packet and its number, which has a digit, and the assembler
makes the packet of it. -/
structure Lossless (packet : List (BitVec 8)) (text : List Char)
    (assemble : List Char → Option (Except HardcodeError (List (BitVec 8)))) : Prop where
  number : ∃ digits, text = ".insn\t".toList ++ Nat.toDigits 10 packet.length ++ ", 0x".toList ++ digits ∧
    digits ≠ [] ∧ (∀ c ∈ digits, hexValue c < 16) ∧ ofDigits 16 (digits.map hexValue) = fromBytes packet
  assembles : assemble (text.drop ".insn\t".length) = some (.ok packet)

section Packet

/-- What is behind the name of the directive. -/
theorem directive_drop (length digits : List Char) :
    (".insn\t".toList ++ length ++ ", 0x".toList ++ digits).drop ".insn\t".length =
      length ++ ',' :: (" 0x".toList ++ digits) := by
  have hcomma : ", 0x".toList = ',' :: " 0x".toList := by decide
  have hname : ".insn\t".toList.length = ".insn\t".length := String.length_toList
  rw [List.append_assoc, List.append_assoc, hcomma, List.cons_append]
  exact List.drop_left' hname

theorem Packet.insnBytes_eq (packet : Packet) : insnBytes (fromBytes packet.bytes) = packet.bytes.length := by
  have htwo := two_le_riscvInsnLength (getl 2 packet.bytes 0)
  have hlength := packet.length
  rw [hlength, eq_comm]
  apply insnBytes_congr
  rw [getl, BitVec.toNat_ofNat, slice, List.drop_zero]
  rcases hbytes : packet.bytes with _ | ⟨b₀, _ | ⟨b₁, bs⟩⟩
  · rw [← hlength, hbytes] at htwo
    cases htwo
  · rw [← hlength, hbytes] at htwo
    cases htwo with | step h => cases h
  · have h₀ := b₀.isLt
    have h₁ := b₁.isLt
    rw [List.take_succ_cons, List.take_succ_cons, List.take_zero, fromBytes, fromBytes, fromBytes, fromBytes, fromBytes]
    omega

theorem Packet.length_mem (packet : Packet) : packet.bytes.length ∈ [2, 4, 6, 8, 10, 12, 14, 16, 18, 20, 22] := by
  have htwo := two_le_riscvInsnLength (getl 2 packet.bytes 0)
  obtain ⟨hle, heven⟩ := riscvInsnLength_le (getl 2 packet.bytes 0)
  rw [← packet.length] at htwo hle heven
  unfold riscvMaxInsnLen at hle
  simp only [List.mem_cons, List.not_mem_nil, or_false]
  omega

/-- Only a halfword can be zero. -/
theorem Packet.eq_zero (packet : Packet) (h : fromBytes packet.bytes = 0) : packet.bytes = [0, 0] := by
  have hlength := packet.insnBytes_eq
  rw [h, show insnBytes 0 = 2 by decide] at hlength
  rw [← toBytes_fromBytes packet.bytes, h, ← hlength]
  rfl

/-- The number of a packet is read back as the packet. -/
theorem sRiscvInsn_packet (packet : Packet) {digits : List Char} (hne : digits ≠ [])
    (hdigits : ∀ c ∈ digits, hexValue c < 16) (hvalue : ofDigits 16 (digits.map hexValue) = fromBytes packet.bytes)
    (typed : List Char → Option (List (BitVec 8))) (env : ExprEnv) (bignum : GenericBignum) (long : LongOpcode) :
    sRiscvInsn typed (expression env) bignum long
      (Nat.toDigits 10 packet.bytes.length ++ ',' :: (" 0x".toList ++ digits)) = some (.ok packet.bytes) := by
  have hlength := packet.insnBytes_eq
  have hlt := fromBytes_lt packet.bytes
  have hfits : ofDigits 16 (digits.map hexValue) < (2 ^ 16) ^ sizeOfLargeNumber := by
    have hle := (riscvInsnLength_le (getl 2 packet.bytes 0)).1
    rw [← packet.length] at hle
    calc ofDigits 16 (digits.map hexValue) < 256 ^ packet.bytes.length := hvalue ▸ hlt
      _ ≤ 256 ^ 22 := Nat.pow_le_pow_right (by decide) hle
      _ ≤ (2 ^ 16) ^ sizeOfLargeNumber := by decide
  have hfirst := expression_length env bignum packet.length_mem (" 0x".toList ++ digits)
  obtain ⟨hrest, hlast⟩ := @expression_hex env bignum digits hne hdigits hfits
  rw [hvalue] at hlast
  have htext : HardcodeText (expression env) bignum
      (Nat.toDigits 10 packet.bytes.length ++ ',' :: (" 0x".toList ++ digits))
      (some (Nat.toDigits 10 packet.bytes.length ++ ',' :: (" 0x".toList ++ digits))) bignum
      (" 0x".toList ++ digits) := by
    have htwo := @HardcodeText.two (expression env) bignum
      (Nat.toDigits 10 packet.bytes.length ++ ',' :: (" 0x".toList ++ digits)) _ (by rw [hfirst])
    rw [hfirst] at htwo
    exact htwo hrest
  have hlengthReads : FirstReads env bignum
      (some (Nat.toDigits 10 packet.bytes.length ++ ',' :: (" 0x".toList ++ digits)))
      (insnBytes (fromBytes packet.bytes)) := by
    rintro text ⟨⟩
    rw [hfirst, hlength]
  rw [← hlength] at hlt
  obtain ⟨insn, hok, hinstall⟩ := htext.accepted long hlast.value
    (Parsed.fits_of_lt hlast.value hlt hlast.top) hlengthReads
  have hname : (Nat.toDigits 10 packet.bytes.length ++ ',' :: (" 0x".toList ++ digits)).takeWhile
    (fun c => !isSpace c) ∉
      riscvInsnTypes := length_not_type packet.length_mem ('0' :: 'x' :: digits)
  unfold sRiscvInsn
  dsimp only
  rw [if_neg (fun h => hname (List.contains_iff_mem.mp h)), hok]
  show some (Except.ok (installInsn insn)) = _
  rw [hinstall, hlength, toBytes_fromBytes]

end Packet

/-- What is printed for a packet that is not in the table comes back from the assembler as the packet, unless it is
the halfword zero, for which no digit is printed. -/
theorem insnText_lossless_iff {κ : Type} (options : DisOptions κ) (opcodes : List (RiscvOpcode κ)) (packet : Packet)
    (hnone : findOpcode options opcodes packet.word = none) (typed : List Char → Option (List (BitVec 8)))
    (env : ExprEnv) (bignum : GenericBignum) (long : LongOpcode) :
    ∃ text, riscvDisassembleInsn options opcodes packet.word packet.bytes = .inr text ∧
      (Lossless packet.bytes text (sRiscvInsn typed (expression env) bignum long) ↔ packet.bytes ≠ [0, 0]) := by
  have hlength : riscvInsnLength packet.word = packet.bytes.length := packet.insnBytes_eq
  refine ⟨insnText packet.bytes.length packet.bytes, ?_, ?_⟩
  · rw [riscvDisassembleInsn, hnone, hlength]
  · have hvalue := printWords_value (halfwords packet.bytes).reverse
    have heven : packet.bytes.length % 2 = 0 := by
      rw [packet.length]
      exact (riscvInsnLength_le _).2
    rw [List.reverse_reverse, fromLimbs_halfwords heven] at hvalue
    constructor
    · rintro ⟨⟨digits, htext, hne, -⟩, -⟩ hzero
      have hdigits := List.append_cancel_left htext
      rw [hzero] at hdigits
      exact hne hdigits.symm
    · intro hzero
      have hne : printWords false (halfwords packet.bytes).reverse ≠ [] := by
        intro hnil
        rw [hnil] at hvalue
        exact hzero (packet.eq_zero hvalue.symm)
      refine ⟨⟨_, rfl, hne, printWords_digits _, hvalue⟩, ?_⟩
      have hread := sRiscvInsn_packet packet hne (printWords_digits _) hvalue typed env bignum long
      rw [← directive_drop] at hread
      exact hread

/-! ## The halfword zero -/

/-- `match_opcode`. -/
def matchOpcode (opMatch opMask insn : BitVec 64) : Bool := (insn ^^^ opMatch) &&& opMask = 0

/-- The classes of the rows below. -/
inductive UnimpClass
  | insnClassC
  | insnClassI
  deriving DecidableEq

/-- The rows of `riscv_opcodes` that print `unimp`. -/
def unimpRows : List (RiscvOpcode UnimpClass) :=
  [⟨"unimp".toList, 0, .insnClassC, 0, matchOpcode 0 0xffff, false, true⟩,
   ⟨"unimp".toList, 0, .insnClassI, 0xc0001073, matchOpcode 0xc0001073 0xffffffff, false, false⟩,
   ⟨"c.unimp".toList, 0, .insnClassC, 0, matchOpcode 0 0xffff, false, false⟩]

/-- An architecture without compressed instructions. -/
def plainOptions : DisOptions UnimpClass := ⟨false, 32, (· = .insnClassI)⟩

/-- The major opcode custom-1 with nothing in the other fields, which is in no table. -/
def customPacket : Packet := ⟨[0x2b, 0, 0, 0], by decide⟩

theorem insnText_lossless_custom :
    ∃ text, riscvDisassembleInsn plainOptions unimpRows customPacket.word customPacket.bytes = .inr text ∧
      (Lossless customPacket.bytes text
        (sRiscvInsn (fun _ => none) (expression plainEnv) zeroBignum zeroLongOpcode) ↔ customPacket.bytes ≠ [0, 0]) :=
  insnText_lossless_iff plainOptions unimpRows customPacket (by decide) (fun _ => none) plainEnv zeroBignum
    zeroLongOpcode

def zeroPacket : Packet := ⟨[0, 0], by decide⟩

/-- The text of the halfword zero is without a digit, and it is not read back. -/
theorem insnText_zero_lost : findOpcode plainOptions unimpRows zeroPacket.word = none ∧
    riscvDisassembleInsn plainOptions unimpRows zeroPacket.word zeroPacket.bytes = .inr ".insn\t2, 0x".toList ∧
    sRiscvInsn (fun _ => none) (expression plainEnv) zeroBignum zeroLongOpcode "2, 0x".toList =
      some (.error .notConstant) ∧
    ¬ Lossless zeroPacket.bytes ".insn\t2, 0x".toList
      (sRiscvInsn (fun _ => none) (expression plainEnv) zeroBignum zeroLongOpcode) := by
  refine ⟨by decide, ?_, rfl, ?_⟩
  · rw [riscvDisassembleInsn, show findOpcode plainOptions unimpRows zeroPacket.word = none by decide]
    rfl
  · rintro ⟨⟨digits, htext, hne, -⟩, -⟩
    have htext_eq : ".insn\t2, 0x".toList =
        ".insn\t".toList ++ Nat.toDigits 10 zeroPacket.bytes.length ++ ", 0x".toList := by decide
    rw [htext_eq] at htext
    exact hne (List.self_eq_append_right.mp htext)

end RiscvBinutils.Dis
