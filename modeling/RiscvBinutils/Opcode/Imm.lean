/-
The immediates of the instruction formats (include/opcode/riscv.h): `ENCODE_*`, `EXTRACT_*` and
`VALID_*`, and the split of a value into a high and a low part.
A field `⟨imm, width, pos⟩` stands for `RV_X (x, imm, width) << pos` in `ENCODE_*` and for
`RV_X (x, pos, width) << imm` in `EXTRACT_*`.
-/
import RiscvBinutils.Base.Bits

namespace RiscvBinutils.Opcode

open RiscvBinutils.Base

/-- `insn_t`. -/
abbrev Insn := BitVec 64

/-! ## 32-bit formats -/

def encodeItypeImm (x : Insn) : Insn := scatter [⟨0, 12, 20⟩] x
def extractItypeImm (x : Insn) : Insn := gatherSigned [⟨0, 12, 20⟩] 31 12 x
def validItypeImm (x : Insn) : Bool := extractItypeImm (encodeItypeImm x) = x

def encodeStypeImm (x : Insn) : Insn := scatter [⟨0, 5, 7⟩, ⟨5, 7, 25⟩] x
def extractStypeImm (x : Insn) : Insn := gatherSigned [⟨0, 5, 7⟩, ⟨5, 7, 25⟩] 31 12 x
def validStypeImm (x : Insn) : Bool := extractStypeImm (encodeStypeImm x) = x

def encodeBtypeImm (x : Insn) : Insn := scatter [⟨1, 4, 8⟩, ⟨5, 6, 25⟩, ⟨11, 1, 7⟩, ⟨12, 1, 31⟩] x
def extractBtypeImm (x : Insn) : Insn := gatherSigned [⟨1, 4, 8⟩, ⟨5, 6, 25⟩, ⟨11, 1, 7⟩] 31 12 x
def validBtypeImm (x : Insn) : Bool := extractBtypeImm (encodeBtypeImm x) = x

def encodeUtypeImm (x : Insn) : Insn := scatter [⟨12, 20, 12⟩] x
def extractUtypeImm (x : Insn) : Insn := gatherSigned [⟨12, 20, 12⟩] 31 32 x
def validUtypeImm (x : Insn) : Bool := extractUtypeImm (encodeUtypeImm x) = x

def encodeJtypeImm (x : Insn) : Insn := scatter [⟨1, 10, 21⟩, ⟨11, 1, 20⟩, ⟨12, 8, 12⟩, ⟨20, 1, 31⟩] x
def extractJtypeImm (x : Insn) : Insn := gatherSigned [⟨1, 10, 21⟩, ⟨11, 1, 20⟩, ⟨12, 8, 12⟩] 31 20 x
def validJtypeImm (x : Insn) : Bool := extractJtypeImm (encodeJtypeImm x) = x

/-! ## 16-bit formats -/

def encodeCitypeImm (x : Insn) : Insn := scatter [⟨0, 5, 2⟩, ⟨5, 1, 12⟩] x
def extractCitypeImm (x : Insn) : Insn := gatherSigned [⟨0, 5, 2⟩] 12 5 x
def validCitypeImm (x : Insn) : Bool := extractCitypeImm (encodeCitypeImm x) = x

def encodeCitypeLuiImm (x : Insn) : Insn := encodeCitypeImm (x >>> 12)
def extractCitypeLuiImm (x : Insn) : Insn := extractCitypeImm x <<< 12
/-- A zero immediate is reserved in `c.lui`. -/
def validCitypeLuiImm (x : Insn) : Bool :=
  encodeCitypeLuiImm x ≠ 0 ∧ extractCitypeLuiImm (encodeCitypeLuiImm x) = x

def encodeCitypeAddi16spImm (x : Insn) : Insn :=
  scatter [⟨4, 1, 6⟩, ⟨5, 1, 2⟩, ⟨6, 1, 5⟩, ⟨7, 2, 3⟩, ⟨9, 1, 12⟩] x
def extractCitypeAddi16spImm (x : Insn) : Insn :=
  gatherSigned [⟨4, 1, 6⟩, ⟨5, 1, 2⟩, ⟨6, 1, 5⟩, ⟨7, 2, 3⟩] 12 9 x
/-- A zero immediate is reserved in `c.addi16sp`. -/
def validCitypeAddi16spImm (x : Insn) : Bool :=
  encodeCitypeAddi16spImm x ≠ 0 ∧ extractCitypeAddi16spImm (encodeCitypeAddi16spImm x) = x

def encodeCitypeLwspImm (x : Insn) : Insn := scatter [⟨2, 3, 4⟩, ⟨5, 1, 12⟩, ⟨6, 2, 2⟩] x
def extractCitypeLwspImm (x : Insn) : Insn := gather [⟨2, 3, 4⟩, ⟨5, 1, 12⟩, ⟨6, 2, 2⟩] x
def validCitypeLwspImm (x : Insn) : Bool := extractCitypeLwspImm (encodeCitypeLwspImm x) = x

def encodeCitypeLdspImm (x : Insn) : Insn := scatter [⟨3, 2, 5⟩, ⟨5, 1, 12⟩, ⟨6, 3, 2⟩] x
def extractCitypeLdspImm (x : Insn) : Insn := gather [⟨3, 2, 5⟩, ⟨5, 1, 12⟩, ⟨6, 3, 2⟩] x
def validCitypeLdspImm (x : Insn) : Bool := extractCitypeLdspImm (encodeCitypeLdspImm x) = x

def encodeCsstypeImm (x : Insn) : Insn := scatter [⟨0, 6, 7⟩] x
def extractCsstypeImm (x : Insn) : Insn := gather [⟨0, 6, 7⟩] x
def validCsstypeImm (x : Insn) : Bool := extractCsstypeImm (encodeCsstypeImm x) = x

def encodeCsstypeSwspImm (x : Insn) : Insn := scatter [⟨2, 4, 9⟩, ⟨6, 2, 7⟩] x
def extractCsstypeSwspImm (x : Insn) : Insn := gather [⟨2, 4, 9⟩, ⟨6, 2, 7⟩] x
def validCsstypeSwspImm (x : Insn) : Bool := extractCsstypeSwspImm (encodeCsstypeSwspImm x) = x

def encodeCsstypeSdspImm (x : Insn) : Insn := scatter [⟨3, 3, 10⟩, ⟨6, 3, 7⟩] x
def extractCsstypeSdspImm (x : Insn) : Insn := gather [⟨3, 3, 10⟩, ⟨6, 3, 7⟩] x
def validCsstypeSdspImm (x : Insn) : Bool := extractCsstypeSdspImm (encodeCsstypeSdspImm x) = x

def encodeCiwtypeImm (x : Insn) : Insn := scatter [⟨0, 8, 5⟩] x
def extractCiwtypeImm (x : Insn) : Insn := gather [⟨0, 8, 5⟩] x
def validCiwtypeImm (x : Insn) : Bool := extractCiwtypeImm (encodeCiwtypeImm x) = x

def encodeCiwtypeAddi4spnImm (x : Insn) : Insn := scatter [⟨2, 1, 6⟩, ⟨3, 1, 5⟩, ⟨4, 2, 11⟩, ⟨6, 4, 7⟩] x
def extractCiwtypeAddi4spnImm (x : Insn) : Insn := gather [⟨2, 1, 6⟩, ⟨3, 1, 5⟩, ⟨4, 2, 11⟩, ⟨6, 4, 7⟩] x
def validCiwtypeAddi4spnImm (x : Insn) : Bool := extractCiwtypeAddi4spnImm (encodeCiwtypeAddi4spnImm x) = x

def encodeCltypeImm (x : Insn) : Insn := scatter [⟨0, 2, 5⟩, ⟨2, 3, 10⟩] x
def extractCltypeImm (x : Insn) : Insn := gather [⟨0, 2, 5⟩, ⟨2, 3, 10⟩] x
def validCltypeImm (x : Insn) : Bool := extractCltypeImm (encodeCltypeImm x) = x

def encodeCltypeLwImm (x : Insn) : Insn := scatter [⟨2, 1, 6⟩, ⟨3, 3, 10⟩, ⟨6, 1, 5⟩] x
def extractCltypeLwImm (x : Insn) : Insn := gather [⟨2, 1, 6⟩, ⟨3, 3, 10⟩, ⟨6, 1, 5⟩] x
def validCltypeLwImm (x : Insn) : Bool := extractCltypeLwImm (encodeCltypeLwImm x) = x

def encodeCltypeLdImm (x : Insn) : Insn := scatter [⟨3, 3, 10⟩, ⟨6, 2, 5⟩] x
def extractCltypeLdImm (x : Insn) : Insn := gather [⟨3, 3, 10⟩, ⟨6, 2, 5⟩] x
def validCltypeLdImm (x : Insn) : Bool := extractCltypeLdImm (encodeCltypeLdImm x) = x

def encodeCbtypeImm (x : Insn) : Insn :=
  scatter [⟨1, 2, 3⟩, ⟨3, 2, 10⟩, ⟨5, 1, 2⟩, ⟨6, 2, 5⟩, ⟨8, 1, 12⟩] x
def extractCbtypeImm (x : Insn) : Insn :=
  gatherSigned [⟨1, 2, 3⟩, ⟨3, 2, 10⟩, ⟨5, 1, 2⟩, ⟨6, 2, 5⟩] 12 8 x
def validCbtypeImm (x : Insn) : Bool := extractCbtypeImm (encodeCbtypeImm x) = x

def encodeCjtypeImm (x : Insn) : Insn :=
  scatter [⟨1, 3, 3⟩, ⟨4, 1, 11⟩, ⟨5, 1, 2⟩, ⟨6, 1, 7⟩, ⟨7, 1, 6⟩, ⟨8, 2, 9⟩, ⟨10, 1, 8⟩, ⟨11, 1, 12⟩] x
def extractCjtypeImm (x : Insn) : Insn :=
  gatherSigned [⟨1, 3, 3⟩, ⟨4, 1, 11⟩, ⟨5, 1, 2⟩, ⟨6, 1, 7⟩, ⟨7, 1, 6⟩, ⟨8, 2, 9⟩, ⟨10, 1, 8⟩] 12 11 x
def validCjtypeImm (x : Insn) : Bool := extractCjtypeImm (encodeCjtypeImm x) = x

/-! ## Vectors and `zcb` -/

def encodeRvvVbImm (x : Insn) : Insn := scatter [⟨0, 10, 20⟩] x
def extractRvvVbImm (x : Insn) : Insn := gather [⟨0, 10, 20⟩] x
def validRvvVbImm (x : Insn) : Bool := extractRvvVbImm (encodeRvvVbImm x) = x

def encodeRvvVcImm (x : Insn) : Insn := scatter [⟨0, 11, 20⟩] x
def extractRvvVcImm (x : Insn) : Insn := gather [⟨0, 11, 20⟩] x
def validRvvVcImm (x : Insn) : Bool := extractRvvVcImm (encodeRvvVcImm x) = x

/-- There is no `VALID_RVV_VI_UIMM6`: the assembler compares with 0 and 63. -/
def encodeRvvViUimm6 (x : Insn) : Insn := scatter [⟨0, 5, 15⟩, ⟨5, 1, 26⟩] x
def extractRvvViUimm6 (x : Insn) : Insn := gather [⟨0, 5, 15⟩, ⟨5, 1, 26⟩] x

def encodeZcbByteUimm (x : Insn) : Insn := scatter [⟨0, 1, 6⟩, ⟨1, 1, 5⟩] x
def extractZcbByteUimm (x : Insn) : Insn := gather [⟨0, 1, 6⟩, ⟨1, 1, 5⟩] x
def validZcbByteUimm (x : Insn) : Bool := extractZcbByteUimm (encodeZcbByteUimm x) = x

def encodeZcbHalfwordUimm (x : Insn) : Insn := scatter [⟨1, 1, 5⟩] x
def extractZcbHalfwordUimm (x : Insn) : Insn := gather [⟨1, 1, 5⟩] x
def validZcbHalfwordUimm (x : Insn) : Bool := extractZcbHalfwordUimm (encodeZcbHalfwordUimm x) = x

/-! ## What the formats hold -/

theorem itype_format : SignedFormat 64 [⟨0, 12, 20⟩] [⟨0, 12, 20⟩] 31 12 12 0 := by decide

theorem stype_format :
    SignedFormat 64 [⟨0, 5, 7⟩, ⟨5, 7, 25⟩] [⟨0, 5, 7⟩, ⟨5, 7, 25⟩] 31 12 12 0 := by decide

theorem btype_format :
    SignedFormat 64 [⟨1, 4, 8⟩, ⟨5, 6, 25⟩, ⟨11, 1, 7⟩, ⟨12, 1, 31⟩] [⟨1, 4, 8⟩, ⟨5, 6, 25⟩, ⟨11, 1, 7⟩]
      31 12 13 1 := by decide

theorem utype_format : SignedFormat 64 [⟨12, 20, 12⟩] [⟨12, 20, 12⟩] 31 32 32 12 := by decide

theorem jtype_format :
    SignedFormat 64 [⟨1, 10, 21⟩, ⟨11, 1, 20⟩, ⟨12, 8, 12⟩, ⟨20, 1, 31⟩]
      [⟨1, 10, 21⟩, ⟨11, 1, 20⟩, ⟨12, 8, 12⟩] 31 20 21 1 := by decide

theorem citype_format : SignedFormat 64 [⟨0, 5, 2⟩, ⟨5, 1, 12⟩] [⟨0, 5, 2⟩] 12 5 6 0 := by decide

theorem cbtype_format :
    SignedFormat 64 [⟨1, 2, 3⟩, ⟨3, 2, 10⟩, ⟨5, 1, 2⟩, ⟨6, 2, 5⟩, ⟨8, 1, 12⟩]
      [⟨1, 2, 3⟩, ⟨3, 2, 10⟩, ⟨5, 1, 2⟩, ⟨6, 2, 5⟩] 12 8 9 1 := by decide

theorem cjtype_format :
    SignedFormat 64
      [⟨1, 3, 3⟩, ⟨4, 1, 11⟩, ⟨5, 1, 2⟩, ⟨6, 1, 7⟩, ⟨7, 1, 6⟩, ⟨8, 2, 9⟩, ⟨10, 1, 8⟩, ⟨11, 1, 12⟩]
      [⟨1, 3, 3⟩, ⟨4, 1, 11⟩, ⟨5, 1, 2⟩, ⟨6, 1, 7⟩, ⟨7, 1, 6⟩, ⟨8, 2, 9⟩, ⟨10, 1, 8⟩] 12 11 12 1 := by decide

theorem extract_encodeItypeImm (x : Insn) : extractItypeImm (encodeItypeImm x) = sext 12 x :=
  itype_format.round_eq_sext x

/-- The immediate of the format is one field. -/
theorem extractItypeImm_eq (x : Insn) : extractItypeImm x = (x.extractLsb' 20 12).signExtend 64 := by
  have hagree : AgreeOn [⟨0, 12, 20⟩] x (encodeItypeImm ((x.extractLsb' 20 12).setWidth 64)) := by
    intro f hf i hi
    rw [encodeItypeImm, getLsbD_scatter_field _ itype_format.fits itype_format.apart hf hi]
    obtain rfl := List.mem_singleton.mp hf
    have hi' : i < 12 := hi
    rw [BitVec.getLsbD_setWidth, BitVec.getLsbD_extractLsb']
    simp [hi', show i < 64 by omega]
  calc extractItypeImm x
      = extractItypeImm (encodeItypeImm ((x.extractLsb' 20 12).setWidth 64)) := itype_format.congr hagree
    _ = sext 12 ((x.extractLsb' 20 12).setWidth 64) := extract_encodeItypeImm _
    _ = (x.extractLsb' 20 12).signExtend 64 := by
      rw [sext, BitVec.setWidth_setWidth_of_le _ (by decide), BitVec.setWidth_eq]

theorem extract_encodeStypeImm (x : Insn) : extractStypeImm (encodeStypeImm x) = sext 12 x :=
  stype_format.round_eq_sext x

theorem extract_encodeUtypeImm {x : Insn} (hx : x.toNat % 4096 = 0) :
    extractUtypeImm (encodeUtypeImm x) = sext 32 x := by
  apply BitVec.eq_of_getLsbD_eq
  intro i hi
  rw [extractUtypeImm, encodeUtypeImm, utype_format.getLsbD_round x hi]
  by_cases h : 12 ≤ i
  · simp [h]
  · have hzero := (low_bits_zero_iff x 12).mpr hx i (by omega)
    rw [getLsbD_sext x (by decide) hi, Nat.min_eq_left (by omega), hzero]
    simp

theorem validItypeImm_iff (x : Insn) : validItypeImm x = true ↔ -2048 ≤ x.toInt ∧ x.toInt < 2048 := by
  rw [validItypeImm, decide_eq_true_iff]
  simpa [extractItypeImm, encodeItypeImm, Nat.mod_one] using itype_format.round_eq_self_iff x

theorem validBtypeImm_iff (x : Insn) :
    validBtypeImm x = true ↔ (-4096 ≤ x.toInt ∧ x.toInt < 4096) ∧ x.toNat % 2 = 0 := by
  rw [validBtypeImm, decide_eq_true_iff]
  simpa [extractBtypeImm, encodeBtypeImm] using btype_format.round_eq_self_iff x

theorem validUtypeImm_iff (x : Insn) :
    validUtypeImm x = true ↔ (-2147483648 ≤ x.toInt ∧ x.toInt < 2147483648) ∧ x.toNat % 4096 = 0 := by
  rw [validUtypeImm, decide_eq_true_iff]
  simpa [extractUtypeImm, encodeUtypeImm] using utype_format.round_eq_self_iff x

theorem validJtypeImm_iff (x : Insn) :
    validJtypeImm x = true ↔ (-1048576 ≤ x.toInt ∧ x.toInt < 1048576) ∧ x.toNat % 2 = 0 := by
  rw [validJtypeImm, decide_eq_true_iff]
  simpa [extractJtypeImm, encodeJtypeImm] using jtype_format.round_eq_self_iff x

theorem validCbtypeImm_iff (x : Insn) :
    validCbtypeImm x = true ↔ (-256 ≤ x.toInt ∧ x.toInt < 256) ∧ x.toNat % 2 = 0 := by
  rw [validCbtypeImm, decide_eq_true_iff]
  simpa [extractCbtypeImm, encodeCbtypeImm] using cbtype_format.round_eq_self_iff x

theorem validCjtypeImm_iff (x : Insn) :
    validCjtypeImm x = true ↔ (-2048 ≤ x.toInt ∧ x.toInt < 2048) ∧ x.toNat % 2 = 0 := by
  rw [validCjtypeImm, decide_eq_true_iff]
  simpa [extractCjtypeImm, encodeCjtypeImm] using cjtype_format.round_eq_self_iff x

/-! ## High and low part -/

/-- `RISCV_CONST_HIGH_PART`. -/
def constHighPart (value : Insn) : Insn := (value + 2048#64) &&& ~~~4095#64

/-- `RISCV_CONST_LOW_PART`. -/
def constLowPart (value : Insn) : Insn := value - constHighPart value

theorem constHighPart_toNat (x : Insn) :
    (constHighPart x).toNat = (x.toNat + 2048) % 2 ^ 64 / 4096 * 4096 := by
  have hmask : (4095#64 : Insn) = (1#64 <<< 12) - 1#64 := by decide
  rw [constHighPart, hmask, toNat_and_not_mask _ (by decide), BitVec.toNat_add]
  rfl

/-- The low part is what a 12-bit signed immediate can hold of the value. -/
theorem constHighPart_add_sext (x : Insn) : constHighPart x + sext 12 x = x := by
  have hlow := toInt_sext x (n := 12) (by decide)
  rw [Int.bmod_def, BitVec.toInt_eq_toNat_cond, BitVec.toInt_eq_toNat_cond] at hlow
  apply BitVec.eq_of_toNat_eq
  rw [BitVec.toNat_add, constHighPart_toNat]
  omega

/-- The two parts in 32 bits. -/
theorem constHighPart_add_low_32 (x : Insn) :
    (constHighPart x).setWidth 32 + (x.setWidth 12).signExtend 32 = x.setWidth 32 := by
  have hsum := congrArg (BitVec.setWidth 32) (constHighPart_add_sext x)
  rwa [BitVec.setWidth_add _ _ (by decide), sext, setWidth_signExtend _ (by decide)] at hsum

theorem constHighPart_mod (x : Insn) : (constHighPart x).toNat % 4096 = 0 := by
  rw [constHighPart_toNat, Nat.mul_mod_left]

/-- The high part moves along exactly with a multiple of 4096. -/
theorem constHighPart_add_eq_iff (x a : Insn) :
    constHighPart (x + a) = constHighPart x + a ↔ a.toNat % 4096 = 0 := by
  have hx := constHighPart_toNat x
  have hxa := constHighPart_toNat (x + a)
  rw [BitVec.toNat_add] at hxa
  rw [← BitVec.toNat_inj, BitVec.toNat_add, hx, hxa]
  omega

end RiscvBinutils.Opcode
