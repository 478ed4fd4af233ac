/-
Instructions given by their bits (gas/config/tc-riscv.c, `riscv_ip_hardcode` and `install_insn`).
One value is the instruction; of two values the first is its length.
-/
import RiscvBinutils.Base.Bytes
import RiscvBinutils.Gas.Expr
import RiscvBinutils.Opcode.Length

namespace RiscvBinutils.Gas

open RiscvBinutils.Base RiscvBinutils.Opcode

/-! ## The instruction -/

/-- `insn_long_opcode`. -/
structure LongOpcode where
  bytes : List (BitVec 8)
  size : bytes.length = riscvMaxInsnLen
  deriving DecidableEq, Repr

/-- Store the low `n` bytes of `v`; `none` if that is not in the array. -/
def LongOpcode.store (long : LongOpcode) (off n : Nat) (v : BitVec 64) : Option LongOpcode :=
  if h : off + n ≤ riscvMaxInsnLen then
    some ⟨putl n v long.bytes off, (sameOutside_putl v (long.size.symm ▸ h)).length.trans long.size⟩
  else none

/-- Read one littlenum; `none` if that is not in the array. -/
def GenericBignum.read (b : GenericBignum) (i : Int) : Option Littlenum :=
  if 0 ≤ i then b.nums[i.toNat]? else none

/-- `generic_bignum_to_int32`. -/
def GenericBignum.toInt32 (b : GenericBignum) : BitVec 64 := BitVec.ofNat 64 (fromLimbs (b.nums.take 2))

/-- `struct riscv_cl_insn`, as far as it is emitted. -/
structure ClInsn where
  insnOpcode : BitVec 64
  insnLongOpcode : LongOpcode
  deriving DecidableEq, Repr

def zeroLongOpcode : LongOpcode := ⟨List.replicate riscvMaxInsnLen 0, by decide⟩

/-- `create_insn`: the first byte of `insn_long_opcode` tells that it is not used. -/
def createInsn (long : LongOpcode) (m : BitVec 64) : ClInsn where
  insnOpcode := m
  insnLongOpcode := ⟨putl 1 0 long.bytes 0, (sameOutside_putl 0 (by rw [long.size]; decide)).length.trans long.size⟩

/-- `install_insn`: the bytes that are emitted. -/
def installInsn (insn : ClInsn) : List (BitVec 8) :=
  if insn.insnLongOpcode.bytes.head? ≠ some 0 then insn.insnLongOpcode.bytes.take (riscvInsnLength insn.insnOpcode)
  else toBytes (riscvInsnLength insn.insnOpcode) insn.insnOpcode.toNat

/-! ## Its values -/

inductive HardcodeError
  /-- The error of `riscv_ip`: the first value is not constant. -/
  | given
  | notConstant
  | unrecognized
  | conflict
  deriving DecidableEq, Repr

def HardcodeError.text (error : String) : HardcodeError → String
  | .given => error
  | .notConstant => "values must be constant"
  | .unrecognized => "unrecognized values"
  | .conflict => "value conflicts with instruction length"

/-- The number of bytes of a littlenum without its leading zeros. -/
def littlenumLength (d : Littlenum) : Nat := if d = 0 then 0 else if d >>> 8 = 0 then 1 else 2

/-- The loop over all littlenums but the last one. -/
def storeNums (b : GenericBignum) : Nat → LongOpcode → Option LongOpcode
  | 0, long => some long
  | k + 1, long => do (← storeNums b k long).store (k * 2) 2 ((← b.read k).setWidth 64)

/-- The last littlenum, of which the first `llen` bytes are not zero. -/
def storeLast (b : GenericBignum) (num llen : Nat) (long : LongOpcode) : Option LongOpcode :=
  if llen ≠ 0 then (b.read num).bind fun d => long.store (num * 2) llen (d.setWidth 64) else some long

/-- The part of `riscv_ip_hardcode` for `O_big`; `none` is an access outside of an array. -/
def hardcodeBig (ip : ClInsn) (bytes : Nat) (addNumber : Int) (b : GenericBignum) :
    Option (Except HardcodeError ClInsn) := do
  let llen := littlenumLength (← b.read (addNumber - 1))
  let reprBytes := (((addNumber - 1) * 2 + llen) % 2 ^ 32).toNat
  if bytes < reprBytes then some (.error .conflict)
  else
    let num := (addNumber - 1).toNat
    let long ← storeNums b num ip.insnLongOpcode
    let long ← storeLast b num llen long
    let long ← long.store reprBytes (bytes - reprBytes) 0
    some (.ok { ip with insnLongOpcode := long })

/-- The value of an operand that is constant. -/
def Parsed.number (p : Parsed) : Option (BitVec 64) :=
  match p.operand with
  | .constant x => some x
  | .big .. => some p.bignum.toInt32
  | _ => none

/-- The part of `riscv_ip_hardcode` behind its loop. -/
def finishHardcode (long : LongOpcode) (first : Option (BitVec 64)) (last : BitVec 64) (p : Parsed) :
    Option (Except HardcodeError ClInsn) :=
  if p.rest ≠ [] then some (.error .unrecognized)
  else
    let ip := createInsn long last
    let bytes := riscvInsnLength last
    if first.any (· ≠ BitVec.ofNat 64 bytes) then some (.error .conflict)
    else
      match p.operand with
      | .big addNumber _ => hardcodeBig ip bytes addNumber p.bignum
      | _ => if bytes < 8 ∧ last >>> (8 * bytes) ≠ 0 then some (.error .conflict) else some (.ok ip)

/-- `riscv_ip_hardcode`, where `expr` is `expression`; the loop is left after a second value or a big number. -/
def riscvIpHardcode (expr : GenericBignum → List Char → Parsed) (bignum : GenericBignum) (long : LongOpcode)
    (str : List Char) : Option (Except HardcodeError ClInsn) :=
  let p := expr bignum str
  match p.number with
  | none => some (.error .given)
  | some v =>
    match p.operand, p.rest with
    | .constant _, ',' :: rest =>
      let q := expr p.bignum rest
      match q.number with
      | none => some (.error .notConstant)
      | some v' => finishHardcode long (some v) v' q
    | _, _ => finishHardcode long none v p

/-! ## The directive -/

/-- The names of `riscv_insn_types`. -/
def riscvInsnTypes : List (List Char) :=
  ["r", "r4", "i", "s", "sb", "b", "u", "uj", "j", "ca", "cb", "ci", "ciw", "cj", "cl", "cr", "cs", "css"].map
    String.toList

/-- `s_riscv_insn`: the bytes that are emitted.  A type with operands, which `typed` assembles, comes first. -/
def sRiscvInsn (typed : List Char → Option (List (BitVec 8))) (expr : GenericBignum → List Char → Parsed)
    (bignum : GenericBignum) (long : LongOpcode) (str : List Char) : Option (Except HardcodeError (List (BitVec 8))) :=
  let name := str.takeWhile fun c => !isSpace c
  match if riscvInsnTypes.contains name then typed str else none with
  | some bytes => some (.ok bytes)
  | none => (riscvIpHardcode expr bignum long str).map fun r => r.map installInsn

/-! ## Big numbers -/

section Big

variable {b : GenericBignum} {long : LongOpcode} {k : Nat}

theorem LongOpcode.store_take {off n : Nat} (h : off + n ≤ riscvMaxInsnLen) (v : BitVec 64) :
    ∃ long', long.store off n v = some long' ∧
      long'.bytes.take (off + n) = long.bytes.take off ++ toBytes n v.toNat := by
  refine ⟨_, dif_pos h, take_putl v ?_⟩
  rw [long.size]
  omega

theorem GenericBignum.read_eq (h : k < bignumSize) :
    ∃ d, b.read k = some d ∧ b.nums.take (k + 1) = b.nums.take k ++ [d] := by
  have hk : k < b.nums.length := b.size.symm ▸ h
  refine ⟨b.nums.get ⟨k, hk⟩, ?_, ?_⟩
  · rw [GenericBignum.read, if_pos (by omega), Int.toNat_natCast]
    exact List.getElem?_eq_getElem hk
  · rw [List.take_add_one, List.getElem?_eq_getElem hk]
    rfl

theorem pow_littlenum (k : Nat) : (2 ^ 16) ^ k = 256 ^ (k * 2) := by
  rw [Nat.mul_comm k 2, Nat.pow_mul, show (256 : Nat) ^ 2 = 2 ^ 16 by norm_num]

theorem fromLimbs_take_lt (h : k ≤ bignumSize) : fromLimbs (b.nums.take k) < 256 ^ (k * 2) := by
  have hlt := fromLimbs_lt (b.nums.take k)
  rw [List.length_take_of_le (b.size.symm ▸ h), pow_littlenum] at hlt
  exact hlt

theorem fromLimbs_take_succ (h : k < bignumSize) {d : Littlenum} (hd : b.nums.take (k + 1) = b.nums.take k ++ [d]) :
    fromLimbs (b.nums.take (k + 1)) = fromLimbs (b.nums.take k) + 256 ^ (k * 2) * d.toNat := by
  have hlen : (b.nums.take k).length = k := List.length_take_of_le (by rw [b.size]; omega)
  rw [hd, fromLimbs_append, hlen, pow_littlenum, fromLimbs, fromLimbs, Nat.mul_zero, Nat.add_zero]

/-- The loop stores the littlenums one after the other. -/
theorem storeNums_take (hk : k * 2 ≤ riscvMaxInsnLen) :
    ∃ long', storeNums b k long = some long' ∧
      long'.bytes.take (k * 2) = toBytes (k * 2) (fromLimbs (b.nums.take k)) := by
  induction k with
  | zero => exact ⟨long, rfl, rfl⟩
  | succ k ih =>
    have hsize : riscvMaxInsnLen < bignumSize := by decide
    obtain ⟨mid, hmid, hbytes⟩ := ih (by omega)
    obtain ⟨d, hd, htake⟩ := @GenericBignum.read_eq b k (by omega)
    obtain ⟨long', hstore, hbytes'⟩ := @LongOpcode.store_take mid (k * 2) 2 (by omega) (d.setWidth 64)
    have hd64 : (d.setWidth 64).toNat = d.toNat := BitVec.toNat_setWidth_of_le (by decide)
    refine ⟨long', ?_, ?_⟩
    · rw [storeNums, hmid, hd]
      exact hstore
    · rw [show (k + 1) * 2 = k * 2 + 2 by omega, hbytes', hbytes, fromLimbs_take_succ (by omega) htake, hd64,
        toBytes_split (fromLimbs_take_lt (by omega))]

theorem littlenumLength_spec (d : Littlenum) :
    littlenumLength d ≤ 2 ∧ d.toNat < 256 ^ littlenumLength d ∧ (d ≠ 0 → 256 ^ (littlenumLength d - 1) ≤ d.toNat) := by
  have hlt := d.isLt
  unfold littlenumLength
  split
  · rename_i hzero
    rw [hzero]
    exact ⟨by decide, by decide, fun h => absurd rfl h⟩
  · rename_i hzero
    have hpos : d.toNat ≠ 0 := fun h => hzero (BitVec.eq_of_toNat_eq h)
    split
    · rename_i hhigh
      have hsmall := congrArg BitVec.toNat hhigh
      rw [BitVec.toNat_ushiftRight, Nat.shiftRight_eq_div_pow] at hsmall
      change d.toNat / 256 = 0 at hsmall
      exact ⟨by decide, by omega, fun _ => by omega⟩
    · rename_i hhigh
      have hlarge : d.toNat / 256 ≠ 0 := by
        intro h
        apply hhigh
        apply BitVec.eq_of_toNat_eq
        rw [BitVec.toNat_ushiftRight, Nat.shiftRight_eq_div_pow]
        exact h
      exact ⟨by decide, by omega, fun _ => by omega⟩

/-- A big number is refused if it has too many bytes, and is otherwise stored with zeros behind it. -/
theorem hardcodeBig_spec (ip : ClInsn) {bytes : Nat} (hbytes : bytes ≤ riscvMaxInsnLen) (hk : k < bignumSize)
    {d : Littlenum} (hd : b.read k = some d) :
    fromLimbs (b.nums.take (k + 1)) < 256 ^ (k * 2 + littlenumLength d) ∧
      (d ≠ 0 → 256 ^ (k * 2 + littlenumLength d - 1) ≤ fromLimbs (b.nums.take (k + 1))) ∧
      (bytes < k * 2 + littlenumLength d → hardcodeBig ip bytes (k + 1) b = some (.error .conflict)) ∧
      (k * 2 + littlenumLength d ≤ bytes →
        ∃ long', hardcodeBig ip bytes (k + 1) b = some (.ok { ip with insnLongOpcode := long' }) ∧
          long'.bytes.take bytes = toBytes bytes (fromLimbs (b.nums.take (k + 1)))) := by
  obtain ⟨d', hd', htake⟩ := @GenericBignum.read_eq b k hk
  obtain rfl : d = d' := Option.some.inj (hd.symm.trans hd')
  obtain ⟨hllen, hlt, hge⟩ := littlenumLength_spec d
  have hvalue := fromLimbs_take_succ hk htake
  have hlow := @fromLimbs_take_lt b k (by omega)
  have hd64 : (d.setWidth 64).toNat = d.toNat := BitVec.toNat_setWidth_of_le (by decide)
  have hrepr : (((k + 1 : Int) - 1) * 2 + (littlenumLength d : Int)) % 2 ^ 32 = (k * 2 + littlenumLength d : Nat) := by
    have hsize : bignumSize = 26 := rfl
    omega
  have hread : b.read ((k + 1 : Int) - 1) = some d := by
    rw [show (k + 1 : Int) - 1 = k by omega]
    exact hd
  have hnum : ((k + 1 : Int) - 1).toNat = k := by omega
  have hsmall : fromLimbs (b.nums.take (k + 1)) < 256 ^ (k * 2 + littlenumLength d) := by
    calc fromLimbs (b.nums.take (k + 1)) < 256 ^ (k * 2) * (d.toNat + 1) := by
          rw [hvalue, Nat.mul_add, Nat.mul_one]
          omega
      _ ≤ 256 ^ (k * 2) * 256 ^ littlenumLength d := Nat.mul_le_mul_left _ hlt
      _ = 256 ^ (k * 2 + littlenumLength d) := (Nat.pow_add _ _ _).symm
  refine ⟨hsmall, ?_, ?_, ?_⟩
  · intro hne
    have hpos : 0 < littlenumLength d := by
      by_contra hzero
      rw [Nat.eq_zero_of_not_pos hzero] at hlt
      exact hne (BitVec.eq_of_toNat_eq (Nat.lt_one_iff.mp hlt))
    calc 256 ^ (k * 2 + littlenumLength d - 1) = 256 ^ (k * 2) * 256 ^ (littlenumLength d - 1) := by
          rw [← Nat.pow_add]
          congr 1
          omega
      _ ≤ 256 ^ (k * 2) * d.toNat := Nat.mul_le_mul_left _ (hge hne)
      _ ≤ fromLimbs (b.nums.take (k + 1)) := by
          rw [hvalue]
          exact Nat.le_add_left _ _
  · intro hshort
    rw [hardcodeBig, hread]
    dsimp only [Option.bind_eq_bind, Option.bind_some]
    rw [hrepr, Int.toNat_natCast, if_pos hshort]
  · intro hfits
    obtain ⟨mid, hmid, hbytes₁⟩ := @storeNums_take b ip.insnLongOpcode k (by omega)
    -- the last littlenum without its leading zeros
    obtain ⟨mid', hmid', hbytes₂⟩ : ∃ mid', storeLast b k (littlenumLength d) mid = some mid' ∧
        mid'.bytes.take (k * 2 + littlenumLength d) =
          toBytes (k * 2 + littlenumLength d) (fromLimbs (b.nums.take (k + 1))) := by
      unfold storeLast
      by_cases hzero : littlenumLength d = 0
      · rw [if_neg (not_not.mpr hzero), hvalue, toBytes_split hlow, hzero]
        exact ⟨mid, rfl, by rw [Nat.add_zero, hbytes₁, toBytes, List.append_nil]⟩
      · obtain ⟨mid', hstore, hbytes'⟩ :=
          @LongOpcode.store_take mid (k * 2) (littlenumLength d) (by omega) (d.setWidth 64)
        rw [if_pos hzero, hd, hvalue, toBytes_split hlow, ← hd64, ← hbytes₁]
        exact ⟨mid', hstore, hbytes'⟩
    obtain ⟨long', hstore, hbytes₃⟩ := @LongOpcode.store_take mid' (k * 2 + littlenumLength d)
      (bytes - (k * 2 + littlenumLength d)) (by omega) 0
    refine ⟨long', ?_, ?_⟩
    · rw [hardcodeBig, hread]
      dsimp only [Option.bind_eq_bind, Option.bind_some]
      rw [hrepr, Int.toNat_natCast, if_neg (by omega), hnum, hmid]
      dsimp only [Option.bind_some]
      rw [hmid']
      dsimp only [Option.bind_some]
      rw [hstore]
      rfl
    · have hlen : k * 2 + littlenumLength d + (bytes - (k * 2 + littlenumLength d)) = bytes := by omega
      have hzeros := @toBytes_split _ (bytes - (k * 2 + littlenumLength d)) _ 0 hsmall
      rw [hlen, Nat.mul_zero, Nat.add_zero] at hzeros
      rw [hlen, hbytes₂] at hbytes₃
      rw [hbytes₃, hzeros]
      rfl

end Big

/-! ## What is emitted -/

/-- The value of an operand that is an integer. -/
def Parsed.value (p : Parsed) : Option Nat :=
  match p.operand with
  | .constant x => some x.toNat
  | .big addNumber _ => if 0 < addNumber then some (fromLimbs (p.bignum.nums.take addNumber.toNat)) else none
  | _ => none

/-- The length of the instruction with the given bits. -/
def insnBytes (v : Nat) : Nat := riscvInsnLength (BitVec.ofNat 64 v)

section Finish

variable {p : Parsed} {v : Nat} {m : BitVec 64} {first : Option (BitVec 64)} {long : LongOpcode}

theorem insnBytes_toNat (m : BitVec 64) : insnBytes m.toNat = riscvInsnLength m := by
  rw [insnBytes, BitVec.ofNat_toNat, BitVec.setWidth_eq]

/-- The low 32 bits have the same first halfword. -/
theorem toInt32_low (b : GenericBignum) (k : Nat) :
    b.toInt32.toNat % 65536 = fromLimbs (b.nums.take (k + 1)) % 65536 := by
  obtain ⟨nums, hsize⟩ := b
  match nums with
  | [] => cases hsize
  | d :: ds =>
    have hlow (n : Nat) : fromLimbs ((d :: ds).take (n + 1)) % 65536 = d.toNat := by
      have hd := d.isLt
      rw [List.take_succ_cons, fromLimbs]
      omega
    rw [GenericBignum.toInt32, BitVec.toNat_ofNat, hlow k, Nat.mod_mod_of_dvd _ (by decide)]
    exact hlow 1

theorem insnBytes_congr {v : Nat} (h : m.toNat % 65536 = v % 65536) : riscvInsnLength m = insnBytes v := by
  apply riscvInsnLength_congr
  intro i hi
  have hbit (n : Nat) : n.testBit i = (n % 2 ^ 16).testBit i := by
    rw [Nat.testBit_mod_two_pow, decide_eq_true hi, Bool.true_and]
  rw [BitVec.getLsbD_ofNat, decide_eq_true (by omega : i < 64), Bool.true_and, BitVec.getLsbD, hbit, hbit v]
  exact congrArg (Nat.testBit · i) h

/-- The bytes of an instruction whose long form holds its value. -/
theorem installInsn_long {insn : ClInsn} (hlow : insn.insnOpcode.toNat % 65536 = v % 65536)
    (h : insn.insnLongOpcode.bytes.take (insnBytes v) = toBytes (insnBytes v) v) :
    installInsn insn = toBytes (insnBytes v) v := by
  have hlen := insnBytes_congr hlow
  unfold installInsn
  rw [hlen]
  split
  · exact h
  · rename_i hzero
    -- a first byte of zero is that of a compressed instruction
    have htwo : insnBytes v = 2 := by
      obtain ⟨n, hn⟩ : ∃ n, insnBytes v = n + 1 := Nat.exists_eq_add_of_le' (by
        have := two_le_riscvInsnLength insn.insnOpcode
        omega)
      have hhead := congrArg List.head? h
      rw [hn, List.head?_take, if_neg (Nat.succ_ne_zero n), not_not.mp hzero, toBytes, List.head?_cons] at hhead
      have hbyte := congrArg BitVec.toNat (Option.some.inj hhead)
      rw [BitVec.toNat_ofNat] at hbyte
      by_contra hne
      have htwo := two_le_riscvInsnLength insn.insnOpcode
      have hne' := @low_byte_ne_zero insn.insnOpcode (by omega)
      change 0 = v % 256 at hbyte
      omega
    rw [htwo, toBytes_inj]
    exact hlow

theorem installInsn_create (long : LongOpcode) (m : BitVec 64) :
    installInsn (createInsn long m) = toBytes (riscvInsnLength m) m.toNat := by
  have hhead : (createInsn long m).insnLongOpcode.bytes.head? = some 0 := by
    have htake := @take_putl 1 0 long.bytes 0 (Nat.zero_le _)
    have hfirst := congrArg List.head? htake
    rw [List.head?_take, if_neg (by decide)] at hfirst
    exact hfirst
  rw [installInsn, if_neg (not_not.mpr hhead)]
  rfl

/-- The operand has no more than `n` bytes. -/
def Parsed.Fits (p : Parsed) (n : Nat) : Prop :=
  match p.operand with
  | .constant x => x.toNat < 256 ^ n
  | .big addNumber _ => ∀ d ∈ p.bignum.read (addNumber - 1), (addNumber - 1).toNat * 2 + littlenumLength d ≤ n
  | _ => True

/-- An integer is emitted in the bytes of its length, or refused if the first value is another length or if it has
more bytes. -/
theorem finishHardcode_spec (hrest : p.rest = []) (hvalue : p.value = some v) (hnumber : p.number = some m) :
    riscvInsnLength m = insnBytes v ∧ (p.Fits (insnBytes v) → v < 256 ^ insnBytes v) ∧
      ((∀ x ∈ first, x = BitVec.ofNat 64 (insnBytes v)) ∧ p.Fits (insnBytes v) →
        ∃ insn, finishHardcode long first m p = some (.ok insn) ∧
          installInsn insn = toBytes (insnBytes v) v) ∧
      (¬((∀ x ∈ first, x = BitVec.ofNat 64 (insnBytes v)) ∧ p.Fits (insnBytes v)) →
        finishHardcode long first m p = some (.error .conflict)) := by
  have hany (n : Nat) : (first.any (· ≠ BitVec.ofNat 64 n)) = true ↔ ¬ ∀ x ∈ first, x = BitVec.ofNat 64 n := by
    cases first <;> simp
  unfold Parsed.value at hvalue
  unfold Parsed.number at hnumber
  rw [finishHardcode, if_neg (not_not.mpr hrest)]
  dsimp only
  cases hop : p.operand with
  | absent =>
    rw [hop] at hvalue
    cases hvalue
  | other =>
    rw [hop] at hvalue
    cases hvalue
  | constant x =>
    rw [hop] at hvalue hnumber
    cases hvalue
    cases hnumber
    have hfits : p.Fits (insnBytes m.toNat) ↔ m.toNat < 256 ^ insnBytes m.toNat := by
      unfold Parsed.Fits
      rw [hop]
    have hcheck : riscvInsnLength m < 8 ∧ m >>> (8 * riscvInsnLength m) ≠ 0 ↔
        ¬ m.toNat < 256 ^ riscvInsnLength m := by
      have hshift : m >>> (8 * riscvInsnLength m) = 0 ↔ m.toNat < 256 ^ riscvInsnLength m := by
        rw [← BitVec.toNat_inj, BitVec.toNat_ushiftRight, Nat.shiftRight_eq_div_pow, Nat.pow_mul]
        exact Nat.div_eq_zero_iff_lt (by positivity)
      constructor
      · rintro ⟨-, hne⟩ hlt
        exact hne (hshift.mpr hlt)
      · intro hlarge
        refine ⟨?_, fun hzero => hlarge (hshift.mp hzero)⟩
        by_contra hlong
        apply hlarge
        calc m.toNat < 256 ^ 8 := m.isLt
          _ ≤ 256 ^ riscvInsnLength m := Nat.pow_le_pow_right (by decide) (by omega)
    refine ⟨(insnBytes_toNat m).symm, hfits.mp, ?_, ?_⟩
    · rintro ⟨hfirst, hlt⟩
      rw [hfits] at hlt
      rw [insnBytes_toNat] at hfirst hlt ⊢
      rw [if_neg (fun h => (hany _).mp h hfirst)]
      dsimp only
      rw [if_neg (fun h => hcheck.mp h hlt)]
      exact ⟨_, rfl, installInsn_create long m⟩
    · intro hno
      rw [hfits, insnBytes_toNat] at hno
      split
      · rfl
      · rename_i hfirst
        rw [hany, not_not] at hfirst
        exact if_pos (hcheck.mpr fun hlt => hno ⟨hfirst, hlt⟩)
  | big addNumber bound =>
    rw [hop] at hvalue hnumber
    dsimp only at hvalue
    split at hvalue
    · rename_i hpos
      obtain ⟨k, rfl⟩ : ∃ k : Nat, addNumber = k + 1 := ⟨(addNumber - 1).toNat, by omega⟩
      have hk : k < bignumSize := by exact_mod_cast bound
      have htake : ((k : Int) + 1).toNat = k + 1 := by omega
      rw [htake] at hvalue
      cases hvalue
      cases hnumber
      have hlen := insnBytes_congr (toInt32_low p.bignum k)
      obtain ⟨d, hd, -⟩ := @GenericBignum.read_eq p.bignum k hk
      obtain ⟨hlt, -, hshort, hstored⟩ := hardcodeBig_spec (createInsn long p.bignum.toInt32)
        (riscvInsnLength_le (BitVec.ofNat 64 (fromLimbs (p.bignum.nums.take (k + 1))))).1 hk hd
      have hfits (n : Nat) : p.Fits n ↔ k * 2 + littlenumLength d ≤ n := by
        unfold Parsed.Fits
        rw [hop]
        dsimp only
        rw [show ((k : Int) + 1 - 1) = k by omega, hd, Int.toNat_natCast]
        exact ⟨fun h => h d rfl, by rintro h d' ⟨⟩; exact h⟩
      rw [hlen, hfits]
      refine ⟨rfl, fun hle => hlt.trans_le (Nat.pow_le_pow_right (by decide) hle), ?_, ?_⟩
      · rintro ⟨hfirst, hle⟩
        rw [if_neg (fun h => (hany _).mp h hfirst)]
        obtain ⟨long', hok, hbytes⟩ := hstored hle
        exact ⟨_, hok, installInsn_long (toInt32_low p.bignum k) hbytes⟩
      · intro hno
        split
        · rfl
        · rename_i hfirst
          rw [hany, not_not] at hfirst
          exact hshort (Nat.lt_of_not_le fun hle => hno ⟨hfirst, hle⟩)
    · cases hvalue

/-- An integer without leading zeros has as many bytes as it needs. -/
theorem Parsed.fits_of_lt {n : Nat} (hvalue : p.value = some v) (hlt : v < 256 ^ n)
    (htop : ∀ addNumber bound, p.operand = .big addNumber bound → ∃ d, p.bignum.read (addNumber - 1) = some d ∧ d ≠ 0) :
    p.Fits n := by
  unfold Parsed.value at hvalue
  unfold Parsed.Fits
  cases hop : p.operand with
  | absent => trivial
  | other => trivial
  | constant x =>
    rw [hop] at hvalue
    cases hvalue
    exact hlt
  | big addNumber bound =>
    obtain ⟨d, hread, hd⟩ := htop addNumber bound hop
    rw [hop] at hvalue
    dsimp only at hvalue
    split at hvalue
    · rename_i hpos
      obtain ⟨k, rfl⟩ : ∃ k : Nat, addNumber = k + 1 := ⟨(addNumber - 1).toNat, by omega⟩
      have hk : k < bignumSize := by exact_mod_cast bound
      rw [show ((k : Int) + 1).toNat = k + 1 by omega] at hvalue
      cases hvalue
      dsimp only
      rw [show (k : Int) + 1 - 1 = k by omega] at hread ⊢
      rw [hread, Int.toNat_natCast]
      rintro d' ⟨⟩
      have hge := (hardcodeBig_spec (createInsn zeroLongOpcode 0) (Nat.zero_le _) hk hread).2.1 hd
      by_contra hmore
      have hpow : 256 ^ n ≤ 256 ^ (k * 2 + littlenumLength d - 1) := Nat.pow_le_pow_right (by decide) (by omega)
      omega
    · cases hvalue

/-- A number that takes all littlenums is longer than any instruction. -/
theorem Parsed.not_fits_full {n : Nat} (hn : n ≤ riscvMaxInsnLen) {bound : (sizeOfLargeNumber : Int) ≤ bignumSize}
    (hop : p.operand = .big sizeOfLargeNumber bound) : ¬p.Fits n := by
  intro hfits
  unfold Parsed.Fits at hfits
  rw [hop] at hfits
  dsimp only at hfits
  obtain ⟨d, hd, -⟩ := @GenericBignum.read_eq p.bignum 19 (by decide)
  have hbytes := hfits d hd
  rw [show ((sizeOfLargeNumber : Int) - 1).toNat = 19 from rfl] at hbytes
  unfold riscvMaxInsnLen at hn
  omega

/-- A float at the end is read as a big number, whose last littlenum is not in the array. -/
theorem finishHardcode_float {addNumber : Int} {bound : addNumber ≤ bignumSize} (hrest : p.rest = [])
    (hop : p.operand = .big addNumber bound) (hneg : addNumber ≤ 0) :
    finishHardcode long first p.bignum.toInt32 p =
      if first.any (· ≠ BitVec.ofNat 64 (riscvInsnLength p.bignum.toInt32)) then some (.error .conflict) else none := by
  have hread : p.bignum.read (addNumber - 1) = none := if_neg (by omega)
  rw [finishHardcode, if_neg (not_not.mpr hrest), hop]
  dsimp only
  rw [hardcodeBig, hread]
  rfl

/-- A constant operand is an integer or a float. -/
theorem Parsed.number_cases (h : p.number = some m) :
    (∃ v, p.value = some v) ∨
      ∃ addNumber bound, p.operand = .big addNumber bound ∧ addNumber ≤ 0 ∧ m = p.bignum.toInt32 := by
  unfold Parsed.number at h
  unfold Parsed.value
  split at h
  · exact .inl ⟨_, rfl⟩
  · rename_i addNumber bound hop
    rw [hop]
    by_cases hpos : 0 < addNumber
    · exact .inl ⟨_, if_pos hpos⟩
    · exact .inr ⟨addNumber, bound, rfl, by omega, (Option.some.inj h).symm⟩
  · cases h

/-- An integer operand is constant. -/
theorem Parsed.number_of_value (h : p.value = some v) : ∃ m, p.number = some m := by
  unfold Parsed.value at h
  unfold Parsed.number
  split at h
  · exact ⟨_, rfl⟩
  · exact ⟨_, rfl⟩
  · cases h

end Finish

/-! ## Operand texts -/

section Text

variable (expr : GenericBignum → List Char → Parsed) (bignum : GenericBignum) (str : List Char)

/-- A text of one value, or of a first one and a last one; `b` is in `generic_bignum` before the last one. -/
inductive HardcodeText : Option (List Char) → GenericBignum → List Char → Prop
  | one (hend : (expr bignum str).rest = []) : HardcodeText none bignum str
  | two {last : List Char} (hrest : (expr bignum str).rest = ',' :: last)
      (hend : (expr (expr bignum str).bignum last).rest = []) : HardcodeText (some str) (expr bignum str).bignum last

variable {expr bignum str} {first : Option (List Char)} {b : GenericBignum} {last : List Char}

theorem HardcodeText.rest (h : HardcodeText expr bignum str first b last) : (expr b last).rest = [] := by
  cases h with
  | one hend => exact hend
  | two _ hend => exact hend

/-- The values of a text are determined. -/
theorem HardcodeText.unique {first' : Option (List Char)} {b' : GenericBignum} {last' : List Char}
    (h : HardcodeText expr bignum str first b last) (h' : HardcodeText expr bignum str first' b' last') :
    first = first' ∧ b = b' ∧ last = last' := by
  cases h with
  | one hend =>
    cases h' with
    | one => exact ⟨rfl, rfl, rfl⟩
    | two hrest => simp [hend] at hrest
  | two hrest =>
    cases h' with
    | one hend => simp [hend] at hrest
    | two hrest' =>
      rw [hrest] at hrest'
      cases hrest'
      exact ⟨rfl, rfl, rfl⟩

/-- The constant that the first value is. -/
def firstNumber (expr : GenericBignum → List Char → Parsed) (bignum : GenericBignum) (first : Option (List Char)) :
    Option (BitVec 64) :=
  first.bind fun text => (expr bignum text).number

/-- The first value is not a big number. -/
def FirstConstant (expr : GenericBignum → List Char → Parsed) (bignum : GenericBignum) (first : Option (List Char)) :
    Prop :=
  ∀ text ∈ first, ∃ x, (expr bignum text).operand = .constant x

/-- A text of constant values comes behind the loop. -/
theorem HardcodeText.finish {long : LongOpcode} (h : HardcodeText expr bignum str first b last)
    (hfirst : FirstConstant expr bignum first) {m : BitVec 64} (hnumber : (expr b last).number = some m) :
    riscvIpHardcode expr bignum long str = finishHardcode long (firstNumber expr bignum first) m (expr b last) := by
  unfold riscvIpHardcode
  cases h with
  | one hend =>
    dsimp only
    rw [hnumber, hend]
    cases (expr bignum str).operand <;> rfl
  | two hrest hend =>
    obtain ⟨x, hop⟩ := hfirst str rfl
    have hx : (expr bignum str).number = some x := by rw [Parsed.number, hop]
    dsimp only [firstNumber, Option.bind_some]
    rw [hx, hop, hrest]
    simp only [hnumber]

/-- Any other text is an error. -/
theorem riscvIpHardcode_cases (expr : GenericBignum → List Char → Parsed) (bignum : GenericBignum) (long : LongOpcode)
    (str : List Char) :
    (∃ first b last m, HardcodeText expr bignum str first b last ∧ FirstConstant expr bignum first ∧
      (expr b last).number = some m ∧
      riscvIpHardcode expr bignum long str = finishHardcode long (firstNumber expr bignum first) m (expr b last)) ∨
    ∃ e, riscvIpHardcode expr bignum long str = some (.error e) := by
  have hfinish {first : Option (BitVec 64)} {p : Parsed} {m : BitVec 64} (hrest : p.rest ≠ []) :
      finishHardcode long first m p = some (.error .unrecognized) := by
    rw [finishHardcode, if_pos hrest]
  cases hnumber : (expr bignum str).number with
  | none =>
    refine .inr ⟨.given, ?_⟩
    unfold riscvIpHardcode
    dsimp only
    rw [hnumber]
  | some v =>
    by_cases hone : (expr bignum str).rest = []
    · have htext := HardcodeText.one hone
      have hconstant : FirstConstant expr bignum none := fun _ h => by cases h
      exact .inl ⟨none, bignum, str, v, htext, hconstant, hnumber, htext.finish hconstant hnumber⟩
    · unfold riscvIpHardcode
      dsimp only
      rw [hnumber]
      dsimp only
      split
      · rename_i x last hop hrest
        obtain rfl : v = x := by
          rw [Parsed.number, hop] at hnumber
          exact (Option.some.inj hnumber).symm
        cases hnumber' : (expr (expr bignum str).bignum last).number with
        | none => exact .inr ⟨.notConstant, rfl⟩
        | some m =>
          by_cases hend : (expr (expr bignum str).bignum last).rest = []
          · refine .inl ⟨some str, _, last, m, .two hrest hend, ?_, hnumber', ?_⟩
            · rintro text ⟨⟩
              exact ⟨v, hop⟩
            · rw [firstNumber, Option.bind_some, hnumber]
          · exact .inr ⟨.unrecognized, hfinish hend⟩
      · exact .inr ⟨.unrecognized, hfinish hone⟩

end Text

end RiscvBinutils.Gas
