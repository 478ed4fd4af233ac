/-
The immediate formats together (include/opcode/riscv.h): which values each of them holds and in which bits of the
word, that `VALID_*` accepts these values, and that `ENCODE_*` and `EXTRACT_*` are inverse.
-/
import RiscvBinutils.Opcode.Imm

namespace RiscvBinutils.Opcode

open RiscvBinutils.Base

/-! ## The formats -/

/-- The formats with both an `ENCODE_*` and an `EXTRACT_*` macro. -/
inductive ImmFormat
  | itype | stype | btype | utype | jtype
  | citype | citypeLui | citypeAddi16sp | citypeLwsp | citypeLdsp
  | csstype | csstypeSwsp | csstypeSdsp | ciwtype | ciwtypeAddi4spn
  | cltype | cltypeLw | cltypeLd | cbtype | cjtype
  | rvvVb | rvvVc | rvvViUimm6 | zcbByte | zcbHalfword
  deriving DecidableEq, Repr

namespace ImmFormat

/-- `ENCODE_*`. -/
def encode : ImmFormat → Insn → Insn
  | itype => encodeItypeImm
  | stype => encodeStypeImm
  | btype => encodeBtypeImm
  | utype => encodeUtypeImm
  | jtype => encodeJtypeImm
  | citype => encodeCitypeImm
  | citypeLui => encodeCitypeLuiImm
  | citypeAddi16sp => encodeCitypeAddi16spImm
  | citypeLwsp => encodeCitypeLwspImm
  | citypeLdsp => encodeCitypeLdspImm
  | csstype => encodeCsstypeImm
  | csstypeSwsp => encodeCsstypeSwspImm
  | csstypeSdsp => encodeCsstypeSdspImm
  | ciwtype => encodeCiwtypeImm
  | ciwtypeAddi4spn => encodeCiwtypeAddi4spnImm
  | cltype => encodeCltypeImm
  | cltypeLw => encodeCltypeLwImm
  | cltypeLd => encodeCltypeLdImm
  | cbtype => encodeCbtypeImm
  | cjtype => encodeCjtypeImm
  | rvvVb => encodeRvvVbImm
  | rvvVc => encodeRvvVcImm
  | rvvViUimm6 => encodeRvvViUimm6
  | zcbByte => encodeZcbByteUimm
  | zcbHalfword => encodeZcbHalfwordUimm

/-- `EXTRACT_*`. -/
def extract : ImmFormat → Insn → Insn
  | itype => extractItypeImm
  | stype => extractStypeImm
  | btype => extractBtypeImm
  | utype => extractUtypeImm
  | jtype => extractJtypeImm
  | citype => extractCitypeImm
  | citypeLui => extractCitypeLuiImm
  | citypeAddi16sp => extractCitypeAddi16spImm
  | citypeLwsp => extractCitypeLwspImm
  | citypeLdsp => extractCitypeLdspImm
  | csstype => extractCsstypeImm
  | csstypeSwsp => extractCsstypeSwspImm
  | csstypeSdsp => extractCsstypeSdspImm
  | ciwtype => extractCiwtypeImm
  | ciwtypeAddi4spn => extractCiwtypeAddi4spnImm
  | cltype => extractCltypeImm
  | cltypeLw => extractCltypeLwImm
  | cltypeLd => extractCltypeLdImm
  | cbtype => extractCbtypeImm
  | cjtype => extractCjtypeImm
  | rvvVb => extractRvvVbImm
  | rvvVc => extractRvvVcImm
  | rvvViUimm6 => extractRvvViUimm6
  | zcbByte => extractZcbByteUimm
  | zcbHalfword => extractZcbHalfwordUimm

/-- `VALID_*`, where there is one. -/
def valid : ImmFormat → Option (Insn → Bool)
  | itype => some validItypeImm
  | stype => some validStypeImm
  | btype => some validBtypeImm
  | utype => some validUtypeImm
  | jtype => some validJtypeImm
  | citype => some validCitypeImm
  | citypeLui => some validCitypeLuiImm
  | citypeAddi16sp => some validCitypeAddi16spImm
  | citypeLwsp => some validCitypeLwspImm
  | citypeLdsp => some validCitypeLdspImm
  | csstype => some validCsstypeImm
  | csstypeSwsp => some validCsstypeSwspImm
  | csstypeSdsp => some validCsstypeSdspImm
  | ciwtype => some validCiwtypeImm
  | ciwtypeAddi4spn => some validCiwtypeAddi4spnImm
  | cltype => some validCltypeImm
  | cltypeLw => some validCltypeLwImm
  | cltypeLd => some validCltypeLdImm
  | cbtype => some validCbtypeImm
  | cjtype => some validCjtypeImm
  | rvvVb => some validRvvVbImm
  | rvvVc => some validRvvVcImm
  | rvvViUimm6 => none
  | zcbByte => some validZcbByteUimm
  | zcbHalfword => some validZcbHalfwordUimm

end ImmFormat

/-! ## What the architecture says of them -/

/-- Signed or unsigned values of `bits` bits, multiples of `2 ^ align`. -/
structure ImmRange where
  signed : Bool
  bits : Nat
  align : Nat
  deriving DecidableEq, Repr

structure ImmRange.Mem (r : ImmRange) (x : Insn) : Prop where
  range : if r.signed then -(2 ^ (r.bits - 1) : Int) ≤ x.toInt ∧ x.toInt < 2 ^ (r.bits - 1) else x.toNat < 2 ^ r.bits
  aligned : x.toNat % 2 ^ r.align = 0

namespace ImmFormat

def range : ImmFormat → ImmRange
  | itype | stype => ⟨true, 12, 0⟩
  | btype => ⟨true, 13, 1⟩
  | utype => ⟨true, 32, 12⟩
  | jtype => ⟨true, 21, 1⟩
  | citype => ⟨true, 6, 0⟩
  | citypeLui => ⟨true, 18, 12⟩
  | citypeAddi16sp => ⟨true, 10, 4⟩
  | citypeLwsp | csstypeSwsp => ⟨false, 8, 2⟩
  | citypeLdsp | csstypeSdsp => ⟨false, 9, 3⟩
  | csstype | rvvViUimm6 => ⟨false, 6, 0⟩
  | ciwtype => ⟨false, 8, 0⟩
  | ciwtypeAddi4spn => ⟨false, 10, 2⟩
  | cltype => ⟨false, 5, 0⟩
  | cltypeLw => ⟨false, 7, 2⟩
  | cltypeLd => ⟨false, 8, 3⟩
  | cbtype => ⟨true, 9, 1⟩
  | cjtype => ⟨true, 12, 1⟩
  | rvvVb => ⟨false, 10, 0⟩
  | rvvVc => ⟨false, 11, 0⟩
  | zcbByte => ⟨false, 2, 0⟩
  | zcbHalfword => ⟨false, 2, 1⟩

/-- The instructions whose immediate zero is reserved: `c.lui`, `c.addi16sp` and `c.addi4spn`. -/
def reservesZero : ImmFormat → Bool
  | citypeLui | citypeAddi16sp | ciwtypeAddi4spn => true
  | _ => false

/-- The formats whose `VALID_*` leaves zero out.  For `c.addi4spn` the assembler compares with zero itself. -/
def checksZero : ImmFormat → Bool
  | citypeLui | citypeAddi16sp => true
  | _ => false

/-- Where the immediate stands in the word: first bit and number of bits. -/
def places : ImmFormat → List (Nat × Nat)
  | itype => [(20, 12)]
  | stype | btype => [(7, 5), (25, 7)]
  | utype | jtype => [(12, 20)]
  | citype | citypeLui | citypeAddi16sp | citypeLwsp | citypeLdsp => [(2, 5), (12, 1)]
  | csstype | csstypeSwsp | csstypeSdsp => [(7, 6)]
  | ciwtype | ciwtypeAddi4spn => [(5, 8)]
  | cltype | cltypeLw | cltypeLd => [(5, 2), (10, 3)]
  | cbtype => [(2, 5), (10, 3)]
  | cjtype => [(2, 11)]
  | rvvVb => [(20, 10)]
  | rvvVc => [(20, 11)]
  | rvvViUimm6 => [(15, 5), (26, 1)]
  | zcbByte => [(5, 2)]
  | zcbHalfword => [(5, 1)]

/-- The bits of the word that belong to the immediate. -/
def mask (f : ImmFormat) : Insn := f.places.foldl (fun m p => m ||| (((1 <<< p.2) - 1) <<< p.1)) 0

end ImmFormat

/-! ## Encoding and extracting -/

/-- The two ways an immediate is scattered. -/
inductive Shape : (encode extract : Insn → Insn) → ImmRange → Prop
  | unsigned {fs : List Field} {n a : Nat} (h : Holds 64 fs n a) : Shape (scatter fs) (gather fs) ⟨false, n, a⟩
  | signed {fs es : List Field} {signPos signImm n a : Nat} (h : SignedFormat 64 fs es signPos signImm n a)
    (hall : Holds 64 fs n a) : Shape (scatter fs) (gatherSigned es signPos signImm) ⟨true, n, a⟩

section Shape

variable {encode extract : Insn → Insn} {r : ImmRange}

theorem Shape.extract_encode_iff (h : Shape encode extract r) (x : Insn) : extract (encode x) = x ↔ r.Mem x := by
  cases h with
  | unsigned h =>
    rw [h.gather_scatter_eq_self_iff x]
    exact ⟨fun hx => ⟨hx.1, hx.2⟩, fun hx => ⟨hx.range, hx.aligned⟩⟩
  | signed h hall =>
    rw [h.round_eq_self_iff x]
    exact ⟨fun hx => ⟨hx.1, hx.2⟩, fun hx => ⟨hx.range, hx.aligned⟩⟩

theorem Shape.encode_extract (h : Shape encode extract r) (w : Insn) :
    encode (extract w) = w &&& encode (-1#64) := by
  rw [BitVec.neg_one_eq_allOnes]
  cases h with
  | unsigned h => exact h.scatter_gather w
  | signed h hall => exact h.scatter_gatherSigned hall w

/-- Every word that is written has its bits where those of minus one are. -/
theorem Shape.encode_and (h : Shape encode extract r) (x : Insn) : encode x &&& ~~~encode (-1#64) = 0 := by
  have hfits {fs : List Field} (hf : Fits 64 fs) (ha : Apart fs) :
      scatter fs x &&& ~~~scatter fs (BitVec.allOnes 64) = 0 := by
    apply BitVec.eq_of_getLsbD_eq
    intro i hi
    rw [BitVec.getLsbD_and, BitVec.getLsbD_not]
    by_cases hin : ∃ f ∈ fs, f.pos ≤ i ∧ i < f.pos + f.width
    · obtain ⟨f, hmem, hlo, hhi⟩ := hin
      obtain ⟨k, rfl⟩ := Nat.exists_eq_add_of_le hlo
      have hones := getLsbD_scatter_field (BitVec.allOnes 64) hf ha hmem (k := k) (by omega)
      obtain ⟨-, -, himm⟩ := hf f hmem
      rw [BitVec.getLsbD_allOnes, decide_eq_true (by omega : f.imm + k < 64)] at hones
      rw [hones, Bool.not_true, Bool.and_false, Bool.and_false]
      exact BitVec.getLsbD_zero.symm
    · rw [getLsbD_scatter_outside x hf, Bool.false_and]
      · simp
      · intro f hmem
        by_contra hnot
        exact hin ⟨f, hmem, by omega, by omega⟩
  rw [BitVec.neg_one_eq_allOnes]
  cases h with
  | unsigned h => exact hfits h.fits h.apart
  | signed h _ => exact hfits h.fits h.apart

end Shape

/-- `c.lui` has the immediate of `c.li`, twelve bits higher. -/
theorem encodeCitypeLuiImm_eq : encodeCitypeLuiImm = scatter [⟨12, 5, 2⟩, ⟨17, 1, 12⟩] := by
  funext x
  simp only [encodeCitypeLuiImm, encodeCitypeImm, scatter, List.foldr_cons, List.foldr_nil, bitsAt,
    ← BitVec.shiftRight_add, Nat.reduceAdd]

theorem extractCitypeLuiImm_eq : extractCitypeLuiImm = gatherSigned [⟨12, 5, 2⟩] 12 17 := by
  funext x
  simp only [extractCitypeLuiImm, extractCitypeImm, gatherSigned, gather, List.foldr_cons, List.foldr_nil,
    BitVec.shiftLeft_or_distrib, ← BitVec.shiftLeft_add, Nat.reduceAdd, BitVec.shiftLeft_zero, BitVec.ofNat_eq_ofNat,
    BitVec.or_zero]

theorem ImmFormat.shape (f : ImmFormat) : Shape f.encode f.extract f.range := by
  cases f with
  | itype => exact .signed itype_format (by decide)
  | stype => exact .signed stype_format (by decide)
  | btype => exact .signed btype_format (by decide)
  | utype => exact .signed utype_format (by decide)
  | jtype => exact .signed jtype_format (by decide)
  | citype => exact .signed citype_format (by decide)
  | citypeLui =>
    rw [encode, extract, encodeCitypeLuiImm_eq, extractCitypeLuiImm_eq]
    exact .signed (by decide) (by decide)
  | citypeAddi16sp =>
    have hformat : SignedFormat 64 [⟨4, 1, 6⟩, ⟨5, 1, 2⟩, ⟨6, 1, 5⟩, ⟨7, 2, 3⟩, ⟨9, 1, 12⟩]
        [⟨4, 1, 6⟩, ⟨5, 1, 2⟩, ⟨6, 1, 5⟩, ⟨7, 2, 3⟩] 12 9 10 4 := by
      decide
    exact .signed hformat (by decide)
  | cbtype => exact .signed cbtype_format (by decide)
  | cjtype => exact .signed cjtype_format (by decide)
  | citypeLwsp | citypeLdsp | csstype | csstypeSwsp | csstypeSdsp | ciwtype | ciwtypeAddi4spn | cltype | cltypeLw
  | cltypeLd | rvvVb | rvvVc | rvvViUimm6 | zcbByte | zcbHalfword => exact .unsigned (by decide)

theorem ImmFormat.encode_minus_one (f : ImmFormat) : f.encode (-1#64) = f.mask := by
  cases f <;> decide

/-- `VALID_*` is the comparison of what comes back, for some formats with a test for zero before it. -/
theorem ImmFormat.valid_iff_encode (f : ImmFormat) {v : Insn → Bool} (hv : f.valid = some v) (x : Insn) :
    v x = true ↔ (f.checksZero = true → f.encode x ≠ 0) ∧ f.extract (f.encode x) = x := by
  have hplain {p : Prop} [Decidable p] {q : Prop} : decide p = true ↔ (false = true → q) ∧ p :=
    ⟨fun h => ⟨fun hfalse => (by cases hfalse), of_decide_eq_true h⟩, fun h => decide_eq_true h.2⟩
  have hcheck {p q : Prop} [Decidable (q ∧ p)] : decide (q ∧ p) = true ↔ (true = true → q) ∧ p :=
    ⟨fun h => ⟨fun _ => (of_decide_eq_true h).1, (of_decide_eq_true h).2⟩, fun h => decide_eq_true ⟨h.1 rfl, h.2⟩⟩
  cases f <;> cases hv <;> first | exact hplain | exact hcheck

theorem ImmFormat.encode_extract_zero (f : ImmFormat) : f.encode 0 = 0 ∧ f.extract 0 = 0 := by
  cases f <;> decide

/-- An immediate that comes back is written as zero only if it is zero. -/
theorem ImmFormat.valid_iff (f : ImmFormat) {v : Insn → Bool} (hv : f.valid = some v) (x : Insn) :
    v x = true ↔ f.range.Mem x ∧ (f.checksZero = true → x ≠ 0) := by
  obtain ⟨hencode, hextract⟩ := f.encode_extract_zero
  rw [f.valid_iff_encode hv x, f.shape.extract_encode_iff, and_comm]
  refine and_congr_right fun hmem => forall_congr' fun _ => not_congr ⟨fun hzero => ?_, fun hzero => ?_⟩
  · rw [← (f.shape.extract_encode_iff x).mpr hmem, hzero, hextract]
  · rw [hzero, hencode]

/-! ## High and low part -/

theorem constHighPart_add_constLowPart (x : Insn) : constHighPart x + constLowPart x = x := by
  rw [constLowPart, BitVec.add_comm, BitVec.sub_add_cancel]

theorem constLowPart_eq_sext (x : Insn) : constLowPart x = sext 12 x := by
  have hsum := constHighPart_add_sext x
  rw [constLowPart]
  nth_rewrite 1 [← hsum]
  rw [BitVec.add_comm, BitVec.add_sub_cancel]

theorem constLowPart_range (x : Insn) : -2048 ≤ (constLowPart x).toInt ∧ (constLowPart x).toInt ≤ 2047 := by
  have hlo := Int.le_bmod (x := x.toInt) (m := 2 ^ 12) (by decide)
  have hhi := Int.bmod_lt (x := x.toInt) (m := 2 ^ 12) (by decide)
  rw [constLowPart_eq_sext, toInt_sext x (by decide)]
  omega

/-! ## The formats are inverse -/

/-- What holds of a format, a value and a word; `reserved` says whether zero is left out. -/
structure Inverse (f : ImmFormat) (reserved : Bool) (x w : Insn) : Prop where
  valid : ∀ v, f.valid = some v → (v x = true ↔ f.range.Mem x ∧ (reserved = true → x ≠ 0))
  back : f.range.Mem x → f.extract (f.encode x) = x
  kept : f.encode (f.extract w) = w &&& f.encode (-1#64)
  field : f.encode (-1#64) = f.mask
  inside : f.encode x &&& ~~~f.mask = 0
  parts : constHighPart x + constLowPart x = x
  low : -2048 ≤ (constLowPart x).toInt ∧ (constLowPart x).toInt ≤ 2047
  high : (constHighPart x).toNat % 4096 = 0

/-- The macros are inverse, where zero is left out by the macros that compare with it. -/
theorem immFormat_inverse (f : ImmFormat) (x w : Insn) : Inverse f f.checksZero x w where
  valid v hv := f.valid_iff hv x
  back := (f.shape.extract_encode_iff x).mpr
  kept := f.shape.encode_extract w
  field := f.encode_minus_one
  inside := by
    rw [← f.encode_minus_one]
    exact f.shape.encode_and x
  parts := constHighPart_add_constLowPart x
  low := constLowPart_range x
  high := constHighPart_mod x

/-- `VALID_CIWTYPE_ADDI4SPN_IMM` accepts zero, which `c.addi4spn` reserves. -/
theorem addi4spn_accepts_zero : ¬ ∀ (f : ImmFormat) (x w : Insn), Inverse f f.reservesZero x w := by
  intro h
  have hvalid := (h .ciwtypeAddi4spn 0 0).valid _ rfl
  exact (hvalid.mp (by decide)).2 rfl rfl

end RiscvBinutils.Opcode
