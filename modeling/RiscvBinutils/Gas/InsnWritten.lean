/-
What the form of `.insn` with given bits emits (gas/config/tc-riscv.c, `riscv_ip_hardcode`), for the numbers that are
written in its text.
-/
import RiscvBinutils.Gas.Numeral

namespace RiscvBinutils.Gas

open RiscvBinutils.Base RiscvBinutils.Opcode

section Text

variable (env : ExprEnv) (bignum : GenericBignum) (long : LongOpcode) (str : List Char)

/-- No access is outside of an array; what is accepted is emitted as it is written, in the bytes of its length, which
is what a first value has to be; and an integer with more bytes than that is rejected. -/
structure EmitsWritten : Prop where
  inBounds : riscvIpHardcode (expression env) bignum long str ≠ none
  emits : ∀ insn, riscvIpHardcode (expression env) bignum long str = some (.ok insn) →
    ∃ first b last v, HardcodeText (expression env) bignum str first b last ∧ denoted env b last = some v ∧
      v < 256 ^ insnBytes v ∧ installInsn insn = toBytes (insnBytes v) v ∧
      ∀ text ∈ first, denoted env bignum text = some (insnBytes v)
  rejects : ∀ first b last v, HardcodeText (expression env) bignum str first b last → denoted env b last = some v →
    256 ^ insnBytes v ≤ v → ∃ e, riscvIpHardcode (expression env) bignum long str = some (.error e)

/-- A first value is read as the length `n`. -/
def FirstReads (first : Option (List Char)) (n : Nat) : Prop :=
  ∀ text ∈ first, (expression env bignum text).operand = .constant (BitVec.ofNat 64 n)

/-- The last value is a float, and a first value is the length that is taken from what `generic_bignum` holds. -/
def EndsInFloat : Prop :=
  ∃ first b last addNumber bound, HardcodeText (expression env) bignum str first b last ∧
    (expression env b last).operand = .big addNumber bound ∧ addNumber ≤ 0 ∧
    FirstReads env bignum first (riscvInsnLength (expression env b last).bignum.toInt32)

/-- An octal value has more than 64 bits, and what is left without those passes all tests. -/
def PassesOverflow : Prop :=
  ∃ first b last v, HardcodeText (expression env) bignum str first b last ∧ (expression env b last).value = some v ∧
    (expression env b last).Fits (insnBytes v) ∧ FirstReads env bignum first (insnBytes v) ∧
    (OctalOverflow last ∨ ∃ text ∈ first, OctalOverflow text)

variable {env bignum long str} {first : Option (List Char)} {b : GenericBignum} {last : List Char} {v : Nat}

theorem firstReads_iff {n : Nat} : FirstReads env bignum first n ↔ FirstConstant (expression env) bignum first ∧
    ∀ x ∈ firstNumber (expression env) bignum first, x = BitVec.ofNat 64 n := by
  unfold FirstReads FirstConstant firstNumber
  cases first with
  | none => simp
  | some text =>
    simp only [Option.mem_def, Option.some.injEq, forall_eq', Option.bind_some]
    constructor
    · intro hop
      refine ⟨⟨_, hop⟩, fun x hx => ?_⟩
      rw [Parsed.number, hop] at hx
      exact (Option.some.inj hx).symm
    · rintro ⟨⟨x, hop⟩, hx⟩
      rw [hop, hx x (by rw [Parsed.number, hop])]

/-- An integer that fits into its length, behind that length, is accepted. -/
theorem HardcodeText.accepted (long : LongOpcode) (h : HardcodeText (expression env) bignum str first b last)
    (hvalue : (expression env b last).value = some v) (hfits : (expression env b last).Fits (insnBytes v))
    (hfirst : FirstReads env bignum first (insnBytes v)) :
    ∃ insn, riscvIpHardcode (expression env) bignum long str = some (.ok insn) ∧
      installInsn insn = toBytes (insnBytes v) v := by
  obtain ⟨m, hnumber⟩ := Parsed.number_of_value hvalue
  obtain ⟨hconstant, hlength⟩ := firstReads_iff.mp hfirst
  rw [h.finish hconstant hnumber]
  exact (finishHardcode_spec h.rest hvalue hnumber).2.2.1 ⟨hlength, hfits⟩

/-- Nothing else is accepted. -/
theorem riscvIpHardcode_read {insn : ClInsn}
    (h : riscvIpHardcode (expression env) bignum long str = some (.ok insn)) :
    ∃ first b last v, HardcodeText (expression env) bignum str first b last ∧
      (expression env b last).value = some v ∧ (expression env b last).Fits (insnBytes v) ∧ v < 256 ^ insnBytes v ∧
      FirstReads env bignum first (insnBytes v) ∧ installInsn insn = toBytes (insnBytes v) v := by
  rcases riscvIpHardcode_cases (expression env) bignum long str with
    ⟨first, b, last, m, htext, hconstant, hnumber, heq⟩ | ⟨e, he⟩
  · rw [heq] at h
    rcases Parsed.number_cases hnumber with ⟨v, hvalue⟩ | ⟨addNumber, bound, hop, hneg, rfl⟩
    · obtain ⟨-, hlt, haccept, hreject⟩ := @finishHardcode_spec _ v m
        (firstNumber (expression env) bignum first) long htext.rest hvalue hnumber
      by_cases hall : (∀ x ∈ firstNumber (expression env) bignum first, x = BitVec.ofNat 64 (insnBytes v)) ∧
          (expression env b last).Fits (insnBytes v)
      · obtain ⟨insn', hok, hbytes⟩ := haccept hall
        rw [hok] at h
        cases h
        exact ⟨first, b, last, v, htext, hvalue, hall.2, hlt hall.2, firstReads_iff.mpr ⟨hconstant, hall.1⟩, hbytes⟩
      · rw [hreject hall] at h
        cases h
    · rw [finishHardcode_float htext.rest hop hneg] at h
      split at h <;> cases h
  · rw [he] at h
    cases h

/-- Only a float at the end is read outside of `generic_bignum`. -/
theorem riscvIpHardcode_none :
    riscvIpHardcode (expression env) bignum long str = none ↔ EndsInFloat env bignum str := by
  constructor
  · intro h
    rcases riscvIpHardcode_cases (expression env) bignum long str with
      ⟨first, b, last, m, htext, hconstant, hnumber, heq⟩ | ⟨e, he⟩
    · rw [heq] at h
      rcases Parsed.number_cases hnumber with ⟨v, hvalue⟩ | ⟨addNumber, bound, hop, hneg, rfl⟩
      · obtain ⟨-, -, haccept, hreject⟩ := @finishHardcode_spec _ v m
          (firstNumber (expression env) bignum first) long htext.rest hvalue hnumber
        by_cases hall : (∀ x ∈ firstNumber (expression env) bignum first, x = BitVec.ofNat 64 (insnBytes v)) ∧
            (expression env b last).Fits (insnBytes v)
        · obtain ⟨insn, hok, -⟩ := haccept hall
          rw [hok] at h
          cases h
        · rw [hreject hall] at h
          cases h
      · rw [finishHardcode_float htext.rest hop hneg] at h
        split at h
        · cases h
        · rename_i hmatch
          refine ⟨first, b, last, addNumber, bound, htext, hop, hneg, firstReads_iff.mpr ⟨hconstant, ?_⟩⟩
          intro x hx
          by_contra hne
          apply hmatch
          rw [Option.mem_def.mp hx]
          simpa using hne
    · rw [he] at h
      cases h
  · rintro ⟨first, b, last, addNumber, bound, htext, hop, hneg, hfirst⟩
    obtain ⟨hconstant, hlength⟩ := firstReads_iff.mp hfirst
    have hnumber : (expression env b last).number = some (expression env b last).bignum.toInt32 := by
      rw [Parsed.number, hop]
    rw [htext.finish hconstant hnumber, finishHardcode_float htext.rest hop hneg, if_neg]
    cases hfirst : firstNumber (expression env) bignum first with
    | none => simp
    | some x => simp [hlength x hfirst]

theorem insnBytes_le (v : Nat) : insnBytes v ≤ riscvMaxInsnLen := (riscvInsnLength_le _).1

/-- A value that is read as a length is one, unless it overflows. -/
theorem denoted_length {text : List Char} {n : Nat} (hn : n ≤ riscvMaxInsnLen) (hno : ¬OctalOverflow text)
    (hop : (expression env bignum text).operand = .constant (BitVec.ofNat 64 n)) :
    denoted env bignum text = some n := by
  unfold riscvMaxInsnLen at hn
  rcases denoted_cases env bignum text with ⟨hoverflow, -⟩ | ⟨-, hvalue⟩ | ⟨-, bound, hbig⟩
  · exact absurd hoverflow hno
  · rw [hvalue, Parsed.value, hop]
    dsimp only
    rw [BitVec.toNat_ofNat, Nat.mod_eq_of_lt (by omega)]
  · rw [hop] at hbig
    cases hbig

/-- A value that fits into its length is read as it is written, unless it overflows. -/
theorem denoted_value {text : List Char} (hno : ¬OctalOverflow text)
    (hvalue : (expression env bignum text).value = some v) (hfits : (expression env bignum text).Fits (insnBytes v)) :
    denoted env bignum text = some v := by
  rcases denoted_cases env bignum text with ⟨hoverflow, -⟩ | ⟨-, heq⟩ | ⟨-, bound, hbig⟩
  · exact absurd hoverflow hno
  · rw [heq, hvalue]
  · exact absurd hfits (Parsed.not_fits_full (insnBytes_le v) hbig)

/-- Floats are read as digits and points; there are no labels, names or operators. -/
def plainEnv : ExprEnv where
  labelDefined _ := false
  floatBehindF _ := true
  atof bignum text := (text.dropWhile fun c => hexValue c < 10 || c = '.', bignum, false)
  otherOperand bignum text := { operand := .other, rest := text, bignum }
  operators p := p

def zeroBignum : GenericBignum := ⟨List.replicate bignumSize 0, by decide⟩

-- the bit 64 of an octal number is lost
example : writtenNumeral "02000000000000000000023".toList = some (.digits 8 (2 :: List.replicate 19 0 ++ [2, 3])) ∧
    ofDigits 8 (2 :: List.replicate 19 0 ++ [2, 3]) = 2 ^ 64 + 0x13 ∧
    sRiscvInsn (fun _ => none) (expression plainEnv) zeroBignum zeroLongOpcode "02000000000000000000023".toList =
      some (.ok [0x13, 0, 0, 0]) := by
  decide

end Text

end RiscvBinutils.Gas
