/-
The difference of two addresses stored as a ULEB128 field (bfd/elfnn-riscv.c, the `R_RISCV_SUB_ULEB128` case
of `perform_relocation`; bfd/libbfd.c, `_bfd_read_unsigned_leb128` and `_bfd_write_unsigned_leb128`).
The room of the field is tested against the low 32 bits of the value only, and the writer is trusted after it.
-/
import RiscvBinutils.Bfd.Perform

namespace RiscvBinutils.Bfd

open RiscvBinutils.Base

/-! ## Reading a field -/

/-- The loop of `_bfd_read_unsigned_leb128`: the value and the number of bytes read. -/
def readUnsignedLeb128Loop (shift : Nat) (result : Vma) : List Byte → Vma × Nat
  | [] => (result, 1)
  | b :: bs =>
    -- groups past bit 64 are counted and dropped
    let result := if shift < 64 then result ||| ((b.setWidth 64 &&& 0x7f) <<< shift) else result
    let shift := if shift < 64 then shift + 7 else shift
    if b &&& 0x80 = 0 then (result, 1)
    else
      let rest := readUnsignedLeb128Loop shift result bs
      (rest.1, rest.2 + 1)

/-- `_bfd_read_unsigned_leb128`. -/
def readUnsignedLeb128 (bytes : List Byte) : Vma × Nat :=
  readUnsignedLeb128Loop 0 0 bytes

theorem readUnsignedLeb128Loop_length (shift : Nat) (result : Vma) (bytes : List Byte) :
    (readUnsignedLeb128Loop shift result bytes).2 = ulebLength bytes := by
  induction bytes generalizing shift result with
  | nil => rfl
  | cons b bs ih =>
    rw [readUnsignedLeb128Loop, ulebLength]
    by_cases hlast : b &&& 0x80 = 0
    · rw [if_pos hlast, if_pos hlast]
    · rw [if_neg hlast, if_neg hlast, ← ih]

/-- The field of `n` bytes that spells the low groups of `v`, padded with zero groups. -/
def ulebField : (n : Nat) → Vma → List Byte
  | 0, _ => []
  | 1, v => [(v &&& 0x7f).setWidth 8]
  | n + 2, v => ((v &&& 0x7f).setWidth 8 ||| 0x80) :: ulebField (n + 1) (v >>> 7)

theorem ulebField_length (n : Nat) (v : Vma) : (ulebField n v).length = n := by
  induction n generalizing v with
  | zero => rfl
  | succ n ih =>
    cases n with
    | zero => rfl
    | succ n => rw [ulebField, List.length_cons, ih]

/-! ## Seven-bit groups -/

theorem group_getLsbD (v : Vma) (i : Nat) : (v &&& 0x7f).getLsbD i = (decide (i < 7) && v.getLsbD i) := by
  have hmask : (0x7f : Vma).getLsbD i = decide (i < 7) := by
    rw [show (0x7f : Vma) = BitVec.ofNat 64 (2 ^ 7 - 1) from rfl, BitVec.getLsbD_ofNat, Nat.testBit_two_pow_sub_one]
    by_cases hi : i < 7
    · simp [hi, show i < 64 by omega]
    · simp [hi]
  rw [BitVec.getLsbD_and, hmask, Bool.and_comm]

theorem continuation_getLsbD (i : Nat) : (0x80 : Byte).getLsbD i = decide (i = 7) := by
  rw [show (0x80 : Byte) = BitVec.ofNat 8 (2 ^ 7) from rfl, BitVec.getLsbD_ofNat, Nat.testBit_two_pow]
  by_cases hi : i = 7
  · simp [hi]
  · simp [hi, show 7 ≠ i by omega]

theorem continued_ne_zero (c : Byte) : (c ||| 0x80) &&& 0x80 ≠ 0 := by
  intro h
  have hbit := congrArg (·.getLsbD 7) h
  simp at hbit

theorem group_last (v : Vma) : (v &&& 0x7f).setWidth 8 &&& (0x80 : Byte) = 0 := by
  apply BitVec.eq_of_getLsbD_eq
  intro i hi
  rw [BitVec.getLsbD_and, BitVec.getLsbD_setWidth, group_getLsbD, continuation_getLsbD]
  by_cases h7 : i < 7
  · simp [show i ≠ 7 by omega]
  · simp [h7]

theorem group_of_last (v : Vma) : (((v &&& 0x7f).setWidth 8 : Byte).setWidth 64 &&& 0x7f) = v &&& 0x7f := by
  apply BitVec.eq_of_getLsbD_eq
  intro i hi
  rw [group_getLsbD, group_getLsbD, BitVec.getLsbD_setWidth, BitVec.getLsbD_setWidth, group_getLsbD]
  by_cases h7 : i < 7
  · simp [h7, hi, show i < 8 by omega]
  · simp [h7]

theorem group_of_continued (v : Vma) :
    (((v &&& 0x7f).setWidth 8 ||| 0x80 : Byte).setWidth 64 &&& 0x7f) = v &&& 0x7f := by
  apply BitVec.eq_of_getLsbD_eq
  intro i hi
  rw [group_getLsbD, group_getLsbD, BitVec.getLsbD_setWidth, BitVec.getLsbD_or, BitVec.getLsbD_setWidth, group_getLsbD,
    continuation_getLsbD]
  by_cases h7 : i < 7
  · simp [h7, hi, show i < 8 by omega, show i ≠ 7 by omega]
  · simp [h7]

/-- A value shifted into place is its low group and the groups above it. -/
theorem shiftLeft_groups (v : Vma) (s : Nat) : ((v &&& 0x7f) <<< s) ||| ((v >>> 7) <<< (s + 7)) = v <<< s := by
  apply BitVec.eq_of_getLsbD_eq
  intro i hi
  rw [BitVec.getLsbD_or, BitVec.getLsbD_shiftLeft, BitVec.getLsbD_shiftLeft, BitVec.getLsbD_shiftLeft,
    group_getLsbD, BitVec.getLsbD_ushiftRight]
  by_cases hs : i < s
  · simp [hs, show i < s + 7 by omega]
  · by_cases h7 : i - s < 7
    · simp [hi, hs, h7, show i < s + 7 by omega]
    · simp [hi, hs, h7, show ¬ i < s + 7 by omega, show 7 + (i - (s + 7)) = i - s by omega]

theorem toNat_shiftRight_seven (v : Vma) : (v >>> 7).toNat = v.toNat / 128 := by
  rw [BitVec.toNat_ushiftRight, Nat.shiftRight_eq_div_pow]

theorem shiftRight_seven_eq_zero_iff (v : Vma) : v >>> 7 = 0 ↔ v.toNat / 128 = 0 := by
  rw [← BitVec.toNat_inj, toNat_shiftRight_seven]
  rfl

theorem pow_seven_succ (n : Nat) : 2 ^ (7 * (n + 1)) = 2 ^ (7 * n) * 128 := by
  rw [Nat.mul_succ, Nat.pow_add]

theorem group_of_small {v : Vma} (h : v.toNat / 128 = 0) : v &&& 0x7f = v := by
  apply BitVec.eq_of_toNat_eq
  have hmask : (0x7f : Vma).toNat = 2 ^ 7 - 1 := rfl
  rw [BitVec.toNat_and, hmask, Nat.and_two_pow_sub_one_eq_mod]
  omega

/-- A field wide enough for the value is read back as the value. -/
theorem readUnsignedLeb128Loop_ulebField {n : Nat} (hn : 0 < n) {v : Vma} (hv : v.toNat < 2 ^ (7 * n)) (shift : Nat)
    (result : Vma) (rest : List Byte) :
    readUnsignedLeb128Loop shift result (ulebField n v ++ rest) = (result ||| (v <<< shift), n) := by
  induction n generalizing v shift result with
  | zero => omega
  | succ n ih =>
    -- past bit 64 nothing is added, and nothing is left to add
    have hbeyond (x : Vma) (h : ¬ shift < 64) : result ||| (x <<< shift) = result := by
      rw [BitVec.shiftLeft_eq_zero (by omega), BitVec.or_zero]
    cases n with
    | zero =>
      have hsmall : v.toNat / 128 = 0 := by omega
      rw [ulebField, List.singleton_append, readUnsignedLeb128Loop, if_pos (group_last v), group_of_last,
        group_of_small hsmall]
      split
      · rfl
      · rename_i hshift
        rw [hbeyond v hshift]
    | succ n =>
      have hv' : (v >>> 7).toNat < 2 ^ (7 * (n + 1)) := by
        rw [toNat_shiftRight_seven]
        rw [pow_seven_succ] at hv
        omega
      rw [ulebField, List.cons_append, readUnsignedLeb128Loop, if_neg (continued_ne_zero _), group_of_continued]
      by_cases hshift : shift < 64
      · simp only [if_pos hshift, ih (Nat.succ_pos n) hv', BitVec.or_assoc, shiftLeft_groups]
      · simp only [if_neg hshift, ih (Nat.succ_pos n) hv', hbeyond _ hshift]

/-! ## Writing a field -/

theorem ulebGroups_le_iff {fuel n v : Nat} (hv : v < 2 ^ (7 * fuel)) (hne : v ≠ 0 ∨ 0 < n) :
    ulebGroups fuel v ≤ n ↔ v < 2 ^ (7 * n) := by
  induction fuel generalizing n v with
  | zero =>
    have hzero : v = 0 := by simpa using hv
    rw [hzero, ulebGroups]
    simp
  | succ fuel ih =>
    rw [pow_seven_succ] at hv
    rw [ulebGroups]
    cases n with
    | zero =>
      have hpos : v ≠ 0 := by omega
      split <;> simp [hpos]
    | succ n =>
      have hpow := Nat.two_pow_pos (7 * n)
      rw [pow_seven_succ]
      split
      · constructor
        · intro _
          omega
        · intro _
          omega
      · rename_i hmore
        have hrest := ih (n := n) (v := v / 128) (by omega) (.inl hmore)
        omega

theorem writeUnsignedLeb128_fits_iff {room : Nat} (hroom : 0 < room) (v : Vma) :
    (writeUnsignedLeb128 room v).2 = true ↔ v.toNat < 2 ^ (7 * room) := by
  induction room generalizing v with
  | zero => omega
  | succ room ih =>
    have hpow := Nat.two_pow_pos (7 * room)
    rw [writeUnsignedLeb128, pow_seven_succ]
    by_cases hlast : v >>> 7 = 0
    · have hsmall := (shiftRight_seven_eq_zero_iff v).mp hlast
      rw [if_pos hlast]
      constructor
      · intro _
        omega
      · intro _
        rfl
    · have hmore : ¬ v.toNat / 128 = 0 := fun h => hlast ((shiftRight_seven_eq_zero_iff v).mpr h)
      rw [if_neg hlast]
      cases room with
      | zero =>
        constructor
        · intro h
          exact absurd h Bool.false_ne_true
        · intro h
          omega
      | succ room =>
        have hrest := ih (Nat.succ_pos room) (v >>> 7)
        rw [toNat_shiftRight_seven] at hrest
        rw [hrest]
        omega

theorem writeUnsignedLeb128_ne_nil {room : Nat} (hroom : 0 < room) (v : Vma) : (writeUnsignedLeb128 room v).1 ≠ [] := by
  obtain ⟨room, rfl⟩ := Nat.exists_eq_add_of_lt hroom
  rw [Nat.zero_add, writeUnsignedLeb128]
  split
  · exact List.cons_ne_nil _ _
  · exact List.cons_ne_nil _ _

/-- The bytes of the cleared field. -/
def clearedField (len : Nat) : List Byte :=
  List.replicate (len - 1) 0x80 ++ [0]

theorem clearedField_succ (n : Nat) : clearedField (n + 2) = 0x80 :: clearedField (n + 1) := by
  rw [clearedField, clearedField, Nat.add_sub_cancel, show n + 2 - 1 = n + 1 from rfl, List.replicate_succ,
    List.cons_append]

theorem clearedField_length {len : Nat} (h : 0 < len) : (clearedField len).length = len := by
  rw [clearedField, List.length_append, List.length_replicate, List.length_singleton]
  omega

theorem clearedField_eq {len : Nat} (h : 0 < len) : clearedField len = ulebField len 0 := by
  obtain ⟨n, rfl⟩ := Nat.exists_eq_add_of_lt h
  rw [Nat.zero_add]
  clear h
  induction n with
  | zero => rfl
  | succ n ih =>
    rw [clearedField_succ, ih]
    rfl

/-- The last byte written is given its continuation bit back when the field goes on. -/
def continueField (len : Nat) (bytes : List Byte) : List Byte :=
  if bytes.length < len then bytes.modify (bytes.length - 1) (· ||| 0x80) else bytes

theorem continueField_length (len : Nat) (bytes : List Byte) : (continueField len bytes).length = bytes.length := by
  rw [continueField]
  split
  · exact List.length_modify ..
  · rfl

theorem continueField_cons (len : Nat) (b : Byte) {bytes : List Byte} (h : bytes ≠ []) :
    continueField (len + 1) (b :: bytes) = b :: continueField len bytes := by
  obtain ⟨c, cs, rfl⟩ := List.exists_cons_of_ne_nil h
  rw [continueField, continueField]
  simp only [List.length_cons, Nat.add_lt_add_iff_right, Nat.add_sub_cancel]
  split
  · rw [List.modify_succ_cons]
  · rfl

/-- A value that fits fills the cleared field with its padded spelling. -/
theorem continueField_write {len : Nat} (hlen : 0 < len) {v : Vma} (hv : v.toNat < 2 ^ (7 * len)) :
    continueField len (writeUnsignedLeb128 len v).1 ++ (clearedField len).drop (writeUnsignedLeb128 len v).1.length =
      ulebField len v := by
  induction len generalizing v with
  | zero => omega
  | succ n ih =>
    cases n with
    | zero =>
      have hlast : v >>> 7 = 0 := (shiftRight_seven_eq_zero_iff v).mpr (by omega)
      rw [writeUnsignedLeb128, if_pos hlast]
      rfl
    | succ n =>
      rw [writeUnsignedLeb128]
      by_cases hlast : v >>> 7 = 0
      · -- one group is written, the rest of the field is the padding
        rw [if_pos hlast, clearedField_succ, ulebField, hlast, ← clearedField_eq (Nat.succ_pos n)]
        rfl
      · have hv' : (v >>> 7).toNat < 2 ^ (7 * (n + 1)) := by
          rw [toNat_shiftRight_seven]
          rw [pow_seven_succ] at hv
          omega
        rw [if_neg hlast, continueField_cons _ _ (writeUnsignedLeb128_ne_nil (Nat.succ_pos n) _), clearedField_succ,
          List.length_cons, List.drop_succ_cons, List.cons_append, ih (Nat.succ_pos n) hv', ulebField]

/-! ## The relocation -/

section Relocation

variable {value : Vma} {contents : List Byte} {off : Nat}

theorem performUleb128_eq (value : Vma) (contents : List Byte) (off : Nat) :
    performUleb128 value contents off =
      if ulebLength (contents.drop off) < ulebGroups 5 (value.toNat % 2 ^ 32) then
        (.dangerous, splice contents off (clearedField (ulebLength (contents.drop off))))
      else
        (.ok, splice (splice contents off (clearedField (ulebLength (contents.drop off)))) off
          (if (writeUnsignedLeb128 (ulebLength (contents.drop off)) value).2
            then continueField (ulebLength (contents.drop off))
              (writeUnsignedLeb128 (ulebLength (contents.drop off)) value).1
            else (writeUnsignedLeb128 (ulebLength (contents.drop off)) value).1)) := by
  unfold performUleb128 clearedField continueField
  by_cases hfit : (writeUnsignedLeb128 (ulebLength (contents.drop off)) value).2 = true
  · simp only [hfit, true_and, if_true]
  · rw [Bool.not_eq_true] at hfit
    simp only [hfit, Bool.false_eq_true, false_and, if_false]

/-- The room is tested against the low half of the value. -/
theorem performUleb128_dangerous_iff (value : Vma) (contents : List Byte) (off : Nat) :
    (performUleb128 value contents off).1 = .dangerous ↔
      2 ^ (7 * ulebLength (contents.drop off)) ≤ value.toNat % 2 ^ 32 := by
  have hpos := ulebLength_pos (contents.drop off)
  have hlow : value.toNat % 2 ^ 32 < 2 ^ (7 * 5) := by omega
  have hgroups := ulebGroups_le_iff hlow (.inr hpos)
  rw [performUleb128_eq]
  split
  · simp only [true_iff]
    omega
  · simp only [reduceCtorEq, false_iff]
    omega

theorem performUleb128_ok_of_fits (hin : off + ulebLength (contents.drop off) ≤ contents.length)
    (hfit : value.toNat < 2 ^ (7 * ulebLength (contents.drop off))) :
    performUleb128 value contents off =
      (.ok, splice contents off (ulebField (ulebLength (contents.drop off)) value)) := by
  have hpos := ulebLength_pos (contents.drop off)
  have hlow : value.toNat % 2 ^ 32 < 2 ^ (7 * 5) := by omega
  have hgroups := (ulebGroups_le_iff hlow (.inr hpos)).mpr ((Nat.mod_le _ _).trans_lt hfit)
  have hwritten := (writeUnsignedLeb128_fits_iff hpos value).mpr hfit
  have hlength := writeUnsignedLeb128_length (ulebLength (contents.drop off)) value
  rw [performUleb128_eq, if_neg (by omega), if_pos hwritten, splice_splice (by omega), continueField_length,
    continueField_write hpos hfit]
  rw [continueField_length, clearedField_length hpos]
  exact hlength

end Relocation

/-- Exact or reported: a successful relocation leaves a field of the old length that spells the value and touches
nothing else, and the assertion on the writer never fails. -/
structure UlebExact (tgt : Target) (rel : Rela) (value secAddr : Vma) (contents : List Byte) : Prop where
  decodes : (performRelocation tgt rel value secAddr contents).1 = .ok →
    readUnsignedLeb128 ((performRelocation tgt rel value secAddr contents).2.drop rel.offset.toNat) =
      (value, (readUnsignedLeb128 (contents.drop rel.offset.toNat)).2)
  outside : (performRelocation tgt rel value secAddr contents).1 = .ok →
    SameOutside rel.offset.toNat (ulebLength (contents.drop rel.offset.toNat)) contents
      (performRelocation tgt rel value secAddr contents).2
  asserted : (performRelocation tgt rel value secAddr contents).1 ≠ .dangerous →
    (writeUnsignedLeb128 (ulebLength (contents.drop rel.offset.toNat)) value).2 = true

theorem performRelocation_subUleb128 {tgt : Target} {rel : Rela} {value secAddr : Vma} {contents : List Byte}
    (htype : rel.type = .subUleb128) :
    performRelocation tgt rel value secAddr contents = performUleb128 value contents rel.offset.toNat := by
  unfold performRelocation
  simp only [htype]
  rfl

/-- The relocation is exact or reported when the value fits the field, or when its low 32 bits alone do not. -/
theorem ulebExact_iff {tgt : Target} {rel : Rela} {value secAddr : Vma} {contents : List Byte}
    (htype : rel.type = .subUleb128)
    (hin : rel.offset.toNat + ulebLength (contents.drop rel.offset.toNat) ≤ contents.length) :
    UlebExact tgt rel value secAddr contents ↔
      value.toNat < 2 ^ (7 * ulebLength (contents.drop rel.offset.toNat)) ∨
        2 ^ (7 * ulebLength (contents.drop rel.offset.toNat)) ≤ value.toNat % 2 ^ 32 := by
  have hpos := ulebLength_pos (contents.drop rel.offset.toNat)
  have hperform : performRelocation tgt rel value secAddr contents = performUleb128 value contents rel.offset.toNat :=
    performRelocation_subUleb128 htype
  constructor
  · rintro ⟨-, -, hassert⟩
    by_cases hdangerous : (performRelocation tgt rel value secAddr contents).1 = .dangerous
    · rw [hperform, performUleb128_dangerous_iff] at hdangerous
      exact .inr hdangerous
    · exact .inl ((writeUnsignedLeb128_fits_iff hpos value).mp (hassert hdangerous))
  · rintro (hfit | hnot)
    · have hok := performUleb128_ok_of_fits hin hfit
      rw [← hperform] at hok
      refine ⟨fun _ => ?_, fun _ => ?_, fun _ => (writeUnsignedLeb128_fits_iff hpos value).mpr hfit⟩
      · rw [hok, drop_splice _ (by omega), readUnsignedLeb128, readUnsignedLeb128Loop_ulebField hpos hfit,
          BitVec.shiftLeft_zero, readUnsignedLeb128, readUnsignedLeb128Loop_length]
        exact congrArg (·, _) BitVec.zero_or
      · rw [hok]
        exact SameOutside.splice hin (ulebField_length _ _).le
    · have hdangerous := (performUleb128_dangerous_iff value contents rel.offset.toNat).mpr hnot
      rw [← hperform] at hdangerous
      refine ⟨fun h => ?_, fun h => ?_, fun h => absurd hdangerous h⟩
      · rw [hdangerous] at h
        cases h
      · rw [hdangerous] at h
        cases h

theorem ulebExact_padded :
    UlebExact ⟨.rv64, false⟩ ⟨1, 0, .subUleb128, 0⟩ 5 0 [0xff, 0x81, 0x80, 0x00, 0xff] :=
  (ulebExact_iff rfl (by decide)).mpr (.inl (by decide))

/-- A difference of 2^32 in a field of one byte is accepted, and the field runs into the byte after it. -/
theorem uleb_high_half_lost :
    performRelocation ⟨.rv64, false⟩ ⟨0, 0, .subUleb128, 0⟩ 0x100000000 0 [0x01, 0x05] = (.ok, [0x80, 0x05]) ∧
      readUnsignedLeb128 [0x80, 0x05] = (0x280, 2) ∧
      ¬ UlebExact ⟨.rv64, false⟩ ⟨0, 0, .subUleb128, 0⟩ 0x100000000 0 [0x01, 0x05] := by
  refine ⟨by decide, by decide, fun h => ?_⟩
  have hassert := h.asserted (by decide)
  revert hassert
  decide

end RiscvBinutils.Bfd
