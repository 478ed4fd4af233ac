/-
What the instruction relocations place (bfd/elfnn-riscv.c, `perform_relocation`).
A value is either refused and nothing is written, or the immediates of the patched instructions add up to it
again and no other bit of them changes.
-/
import RiscvBinutils.Bfd.Distance
import RiscvBinutils.Bfd.PcrelPair

namespace RiscvBinutils.Bfd

open RiscvBinutils.Base RiscvBinutils.Opcode

/-- The value that is placed: the distance for a PC-relative type, and the addend. -/
def relocValue (rel : Rela) (value secAddr : Vma) : Vma :=
  (if (howto rel.type).pcRelative then value - (secAddr + rel.offset) else value) + rel.addend

/-- The instruction word at a relocation. -/
def insnWord (rel : Rela) (contents : List Byte) : Vma :=
  getl ((howto rel.type).bitsize / 8) contents rel.offset.toNat

/-- The outcome of a relocation whose value is accepted when `fits`: refused and nothing written, or placed
such that the patched word has the property `decodes`.  Apart from the immediate no bit changes. -/
structure Placed (tgt : Target) (rel : Rela) (value secAddr : Vma) (contents : List Byte) (fits : Prop)
    (decodes : Vma → Prop) : Prop where
  overflow : (performRelocation tgt rel value secAddr contents).1 = .overflow ↔ ¬ fits
  ok : (performRelocation tgt rel value secAddr contents).1 = .ok ↔ fits
  refused : ¬ fits → (performRelocation tgt rel value secAddr contents).2 = contents
  field : fits → decodes (insnWord rel (performRelocation tgt rel value secAddr contents).2)
  bits : ∀ i < (howto rel.type).bitsize, (howto rel.type).dstMask.getLsbD i = false →
    (insnWord rel (performRelocation tgt rel value secAddr contents).2).getLsbD i = (insnWord rel contents).getLsbD i
  outside : SameOutside rel.offset.toNat ((howto rel.type).bitsize / 8) contents
    (performRelocation tgt rel value secAddr contents).2

/-! ## The patched word -/

/-- A howto of an instruction: whole bytes, and a mask inside them. -/
def InsnHowto (h : Howto) : Prop :=
  riscvIsInsnReloc h = true ∧ h.bitsize % 8 = 0 ∧ h.bitsize ≤ 64 ∧
    ∀ i < 64, h.dstMask.getLsbD i = true → i < h.bitsize

instance (h : Howto) : Decidable (InsnHowto h) := inferInstanceAs (Decidable (_ ∧ _ ∧ _ ∧ _))

section Word

variable {tgt : Target} {rel : Rela} {contents : List Byte}

theorem insnWord_emplace_getLsbD (h : InsnHowto (howto rel.type)) (hoff : rel.offset.toNat ≤ contents.length)
    (field : Vma) {i : Nat} (hi : i < (howto rel.type).bitsize) :
    (insnWord rel (emplace tgt rel.type field contents rel.offset.toNat)).getLsbD i =
      if (howto rel.type).dstMask.getLsbD i then field.getLsbD i else (insnWord rel contents).getLsbD i := by
  obtain ⟨hinsn, hbytes, hsize, -⟩ := h
  have hput : emplace tgt rel.type field contents rel.offset.toNat =
      putl ((howto rel.type).bitsize / 8)
        ((insnWord rel contents &&& ~~~(howto rel.type).dstMask) ||| (field &&& (howto rel.type).dstMask))
        contents rel.offset.toNat := by
    simp [emplace, putWord, getWord, insnWord, hinsn]
  rw [hput, insnWord, getLsbD_getl_putl _ hoff (by omega) (by omega), BitVec.getLsbD_or, BitVec.getLsbD_and,
    BitVec.getLsbD_not, BitVec.getLsbD_and]
  have hi64 : i < 64 := by omega
  cases hm : (howto rel.type).dstMask.getLsbD i with
  | false => simp [hi64]
  | true => simp

/-- A relocation of the plain kind, from what it makes of the value and what it does with the field. -/
theorem placed_of_relocField {value secAddr : Vma} {fits : Prop} {decodes : Vma → Prop} (field : Vma)
    (hplain : rel.type ≠ .rvcLui ∧ rel.type ≠ .subUleb128 ∧ rel.type ≠ .delete)
    (hhowto : InsnHowto (howto rel.type))
    (hin : rel.offset.toNat + (howto rel.type).bitsize / 8 ≤ contents.length)
    (hfits : fits → relocField tgt.xlen rel.type (relocValue rel value secAddr) = .ok field)
    (hnot : ¬ fits → relocField tgt.xlen rel.type (relocValue rel value secAddr) = .error .overflow)
    (hdecodes : fits → ∀ word : Vma,
      (∀ i < 64, (howto rel.type).dstMask.getLsbD i = true → word.getLsbD i = field.getLsbD i) → decodes word) :
    Placed tgt rel value secAddr contents fits decodes := by
  unfold relocValue at hfits hnot
  have hperform : performRelocation tgt rel value secAddr contents = _ :=
    performRelocation_field hplain.1 hplain.2.1 hplain.2.2
  have hoff : rel.offset.toNat ≤ contents.length := by omega
  by_cases h : fits
  · rw [hfits h] at hperform
    dsimp only at hperform
    constructor
    · simp [hperform, h]
    · simp [hperform, h]
    · exact fun hn => absurd h hn
    · intro _
      rw [hperform]
      refine hdecodes h _ fun i hi hbit => ?_
      rw [insnWord_emplace_getLsbD hhowto hoff field (hhowto.2.2.2 i hi hbit), if_pos hbit]
    · intro i hi hbit
      rw [hperform, insnWord_emplace_getLsbD hhowto hoff field hi, if_neg (by simp [hbit])]
    · rw [hperform]
      exact emplace_sameOutside tgt rel.type field hin
  · rw [hnot h] at hperform
    dsimp only at hperform
    constructor
    · simp [hperform, h]
    · simp [hperform, h]
    · exact fun _ => by rw [hperform]
    · exact fun hf => absurd hf h
    · intro i _ _
      rw [hperform]
    · rw [hperform]
      exact .refl ..

end Word

/-! ## High and low parts -/

/-- The values that a pair of an upper and a lower immediate reaches. -/
def InHighRange (xlen : Xlen) (v : Vma) : Prop :=
  xlen = .rv64 → -2147485696 ≤ v.toInt ∧ v.toInt < 2147481600

theorem validUtypeImm_constHighPart_iff (v : Vma) :
    validUtypeImm (constHighPart v) = true ↔ -2147485696 ≤ v.toInt ∧ v.toInt < 2147481600 := by
  have hhigh := constHighPart_toNat v
  have hmod := constHighPart_mod v
  rw [validUtypeImm_iff, BitVec.toInt_eq_toNat_cond, BitVec.toInt_eq_toNat_cond, hhigh]
  omega

/-- The immediates of the two parts add up to the value. -/
theorem sext_high_add_low {xlen : Xlen} {v : Vma} (h : InHighRange xlen v) :
    xlen.Congr (sext 32 (constHighPart v) + sext 12 v) v := by
  have hsum := constHighPart_add_sext v
  cases xlen with
  | rv64 =>
    have hv := (validUtypeImm_constHighPart_iff v).mpr (h rfl)
    rw [validUtypeImm, decide_eq_true_iff, extract_encodeUtypeImm (constHighPart_mod v)] at hv
    rw [Xlen.Congr, hv, hsum]
  | rv32 =>
    have hsext := toNat_sext_mod (constHighPart v) (n := 32) (by decide) (by decide)
    have hnat := congrArg BitVec.toNat hsum
    rw [BitVec.toNat_add] at hnat
    rw [Xlen.congr_rv32, BitVec.toNat_add]
    omega

/-- The types of a lone upper immediate. -/
def RelocType.isHi20 (type : RelocType) : Bool :=
  type = .hi20 ∨ type = .pcrelHi20 ∨ type = .gotHi20 ∨ type = .tprelHi20 ∨ type = .tlsGotHi20 ∨ type = .tlsGdHi20

/-- The types of a low part, in the I or in the S format. -/
def RelocType.isLo12I (type : RelocType) : Bool :=
  type = .lo12I ∨ type = .pcrelLo12I ∨ type = .tprelLo12I ∨ type = .gprelI ∨ type = .tprelI

def RelocType.isLo12S (type : RelocType) : Bool :=
  type = .lo12S ∨ type = .pcrelLo12S ∨ type = .tprelLo12S ∨ type = .gprelS ∨ type = .tprelS

def RelocType.isCall (type : RelocType) : Bool := type = .call ∨ type = .callPlt

/-- The immediate of a low part in its own format. -/
def lowImm (type : RelocType) (word : Vma) : Vma :=
  if type.isLo12S then extractStypeImm word else extractItypeImm word

theorem isHi20_howto (type : RelocType) (h : type.isHi20) :
    (type ≠ .rvcLui ∧ type ≠ .subUleb128 ∧ type ≠ .delete) ∧ InsnHowto (howto type) ∧
      (howto type).dstMask = encodeUtypeImm allOnes32 ∧
      ∀ xlen v, relocField xlen type v = if xlen = .rv64 ∧ !validUtypeImm (constHighPart v) then .error .overflow
        else .ok (encodeUtypeImm (constHighPart v)) := by
  cases type <;> first
    | exact absurd h (by decide)
    | exact ⟨by decide, by decide, rfl, fun _ _ => rfl⟩

theorem isLo12I_howto (type : RelocType) (h : type.isLo12I) :
    (type ≠ .rvcLui ∧ type ≠ .subUleb128 ∧ type ≠ .delete) ∧ InsnHowto (howto type) ∧ type.isLo12S = false ∧
      howto type = ⟨32, false, encodeItypeImm allOnes32⟩ ∧
      ∀ xlen v, relocField xlen type v = .ok (encodeItypeImm v) := by
  cases type <;> first
    | exact absurd h (by decide)
    | exact ⟨by decide, by decide, rfl, rfl, fun _ _ => rfl⟩

theorem isLo12S_howto (type : RelocType) (h : type.isLo12S) :
    (type ≠ .rvcLui ∧ type ≠ .subUleb128 ∧ type ≠ .delete) ∧ InsnHowto (howto type) ∧
      howto type = ⟨32, false, encodeStypeImm allOnes32⟩ ∧
      ∀ xlen v, relocField xlen type v = .ok (encodeStypeImm v) := by
  cases type <;> first
    | exact absurd h (by decide)
    | exact ⟨by decide, by decide, rfl, fun _ _ => rfl⟩

theorem isCall_howto (type : RelocType) (h : type.isCall) :
    (type ≠ .rvcLui ∧ type ≠ .subUleb128 ∧ type ≠ .delete) ∧ InsnHowto (howto type) ∧
      (howto type).dstMask = encodeUtypeImm allOnes32 ||| (encodeItypeImm allOnes32 <<< 32) ∧
      ∀ xlen v, relocField xlen type v = if xlen = .rv64 ∧ !validUtypeImm (constHighPart v) then .error .overflow
        else .ok (encodeUtypeImm (constHighPart v) ||| (encodeItypeImm v <<< 32)) := by
  cases type <;> first
    | exact absurd h (by decide)
    | exact ⟨by decide, by decide, rfl, fun _ _ => rfl⟩

/-- The fields under the mask hold what was placed. -/
theorem agreeOn_of_mask {fs : List Field} {m word field : Vma} (hm : AgreeOn fs m (BitVec.allOnes 64))
    (hf : Fits 64 fs) (h : ∀ i < 64, m.getLsbD i = true → word.getLsbD i = field.getLsbD i) :
    AgreeOn fs word field := by
  intro f hfs i hi
  obtain ⟨-, hpos, -⟩ := hf f hfs
  refine h _ (by omega) ?_
  rw [hm f hfs i hi, BitVec.getLsbD_allOnes]
  exact decide_eq_true (by omega)

/-- The range test of `perform_relocation`, for a pair of immediates. -/
theorem highRange_test (xlen : Xlen) (v field : Vma) :
    (InHighRange xlen v → (if xlen = .rv64 ∧ !validUtypeImm (constHighPart v) then .error .overflow
      else .ok field : Except RelocStatus Vma) = .ok field) ∧
    (¬ InHighRange xlen v → (if xlen = .rv64 ∧ !validUtypeImm (constHighPart v) then .error .overflow
      else .ok field : Except RelocStatus Vma) = .error .overflow) := by
  have hiff := validUtypeImm_constHighPart_iff v
  constructor
  · intro h
    refine if_neg ?_
    rintro ⟨hx, hv⟩
    rw [hiff.mpr (h hx)] at hv
    cases hv
  · intro h
    rw [InHighRange, Classical.not_imp] at h
    refine if_pos ⟨h.1, ?_⟩
    rw [Bool.not_eq_true', Bool.eq_false_iff]
    exact fun hv => h.2 (hiff.mp hv)

section Parts

variable {tgt : Target} {rel : Rela} {contents : List Byte}

theorem placed_lo12 (value secAddr : Vma) (htype : rel.type.isLo12I ∨ rel.type.isLo12S)
    (hin : rel.offset.toNat + 4 ≤ contents.length) :
    Placed tgt rel value secAddr contents True fun word =>
      lowImm rel.type word = sext 12 (relocValue rel value secAddr) := by
  rcases htype with htype | htype
  · obtain ⟨hplain, hhowto, hform, hentry, hfield⟩ := isLo12I_howto rel.type htype
    refine placed_of_relocField _ hplain hhowto (by rw [hentry]; exact hin) (fun _ => hfield ..)
      (fun h => absurd trivial h) fun _ word hword => ?_
    rw [hentry] at hword
    rw [lowImm, hform, if_neg Bool.false_ne_true, ← extract_encodeItypeImm]
    exact itype_format.congr (agreeOn_of_mask (by decide) itype_format.fits hword)
  · obtain ⟨hplain, hhowto, hentry, hfield⟩ := isLo12S_howto rel.type htype
    refine placed_of_relocField _ hplain hhowto (by rw [hentry]; exact hin) (fun _ => hfield ..)
      (fun h => absurd trivial h) fun _ word hword => ?_
    rw [hentry] at hword
    rw [lowImm, if_pos htype, ← extract_encodeStypeImm]
    exact stype_format.congr (agreeOn_of_mask (by decide) stype_format.fits hword)

theorem placed_hi20 (value secAddr : Vma) (htype : rel.type.isHi20)
    (hin : rel.offset.toNat + (howto rel.type).bitsize / 8 ≤ contents.length) :
    Placed tgt rel value secAddr contents (InHighRange tgt.xlen (relocValue rel value secAddr)) fun word =>
      extractUtypeImm word = sext 32 (constHighPart (relocValue rel value secAddr)) := by
  obtain ⟨hplain, hhowto, hmask, hfield⟩ := isHi20_howto rel.type htype
  have htest := highRange_test tgt.xlen (relocValue rel value secAddr)
    (encodeUtypeImm (constHighPart (relocValue rel value secAddr)))
  rw [← hfield] at htest
  refine placed_of_relocField _ hplain hhowto hin htest.1 htest.2 fun _ word hword => ?_
  rw [hmask] at hword
  rw [← extract_encodeUtypeImm (constHighPart_mod _)]
  exact utype_format.congr (agreeOn_of_mask (by decide) utype_format.fits hword)

/-- The upper immediate of the pair is in the first instruction, the lower one in the second. -/
theorem placed_call (value secAddr : Vma) (htype : rel.type.isCall)
    (hin : rel.offset.toNat + (howto rel.type).bitsize / 8 ≤ contents.length) :
    Placed tgt rel value secAddr contents (InHighRange tgt.xlen (relocValue rel value secAddr)) fun word =>
      extractUtypeImm word = sext 32 (constHighPart (relocValue rel value secAddr)) ∧
        extractItypeImm (word >>> 32) = sext 12 (relocValue rel value secAddr) := by
  obtain ⟨hplain, hhowto, hmask, hfield⟩ := isCall_howto rel.type htype
  generalize hv : relocValue rel value secAddr = v
  have htest := highRange_test tgt.xlen v
    (encodeUtypeImm (constHighPart v) ||| (encodeItypeImm v <<< 32))
  rw [← hfield, ← hv] at htest
  refine hv ▸ placed_of_relocField _ hplain hhowto hin htest.1 htest.2 fun _ word hword => ?_
  rw [hmask] at hword
  rw [hv] at hword ⊢
  constructor
  · -- the encoded low part lies above the first word
    rw [← extract_encodeUtypeImm (constHighPart_mod _)]
    refine utype_format.congr ((agreeOn_of_mask (by decide) utype_format.fits hword).trans ?_)
    intro f hf i hi
    obtain rfl := List.mem_singleton.mp hf
    have hi' : i < 20 := hi
    rw [BitVec.getLsbD_or, BitVec.getLsbD_shiftLeft]
    simp [show 12 + i < 32 by omega]
  · -- and the encoded high part below the second
    rw [← extract_encodeItypeImm]
    refine itype_format.congr ?_
    intro f hf i hi
    obtain rfl := List.mem_singleton.mp hf
    have hi' : i < 12 := hi
    have hbit := hword (32 + (20 + i)) (by omega)
      (by revert i; decide)
    have hhigh : (encodeUtypeImm (constHighPart v)).getLsbD (32 + (20 + i)) = false :=
      getLsbD_scatter_outside _ utype_format.fits (by
        intro f hf
        obtain rfl := List.mem_singleton.mp hf
        dsimp only
        omega)
    rw [BitVec.getLsbD_ushiftRight, hbit, BitVec.getLsbD_or, hhigh, BitVec.getLsbD_shiftLeft]
    simp [show 32 + (20 + i) < 64 by omega]

end Parts

/-! ## Branches and jumps -/

/-- The types of a branch or jump distance. -/
def RelocType.isJump (type : RelocType) : Bool :=
  type = .jal ∨ type = .branch ∨ type = .rvcBranch ∨ type = .rvcJump

/-- The distance in a branch or jump, in its own format. -/
def jumpImm : RelocType → Vma → Vma
  | .jal, word => extractJtypeImm word
  | .branch, word => extractBtypeImm word
  | .rvcBranch, word => extractCbtypeImm word
  | _, word => extractCjtypeImm word

/-- An even distance within the reach of the format. -/
def InReach (reach : Int) (v : Vma) : Prop :=
  (-reach ≤ v.toInt ∧ v.toInt < reach) ∧ v.toNat % 2 = 0

section Jump

variable {tgt : Target} {rel : Rela} {contents : List Byte}

/-- One format of a distance: it is tested, encoded and read back by the same bits. -/
theorem placed_format {value secAddr : Vma} {fs es : List Field} {signPos signImm n a : Nat} {reach : Int}
    (hformat : SignedFormat 64 fs es signPos signImm n a)
    (hplain : rel.type ≠ .rvcLui ∧ rel.type ≠ .subUleb128 ∧ rel.type ≠ .delete)
    (hhowto : InsnHowto (howto rel.type))
    (hmask : AgreeOn fs (howto rel.type).dstMask (BitVec.allOnes 64))
    (hin : rel.offset.toNat + (howto rel.type).bitsize / 8 ≤ contents.length)
    (hvalid : ∀ v, decide (gatherSigned es signPos signImm (scatter fs v) = v) = true ↔ InReach reach v)
    (hfield : ∀ v, relocField tgt.xlen rel.type v =
      if decide (gatherSigned es signPos signImm (scatter fs v) = v) then .ok (scatter fs v) else .error .overflow) :
    Placed tgt rel value secAddr contents (InReach reach (relocValue rel value secAddr)) fun word =>
      gatherSigned es signPos signImm word = relocValue rel value secAddr := by
  refine placed_of_relocField (scatter fs (relocValue rel value secAddr)) hplain hhowto hin (fun h => ?_) (fun h => ?_)
    fun h word hword => ?_
  · rw [hfield, if_pos ((hvalid _).mpr h)]
  · rw [hfield, if_neg fun hv => h ((hvalid _).mp hv)]
  · rw [hformat.congr (agreeOn_of_mask hmask hformat.fits hword)]
    exact of_decide_eq_true ((hvalid _).mpr h)

theorem placed_jump (value secAddr : Vma) (htype : rel.type.isJump)
    (hin : rel.offset.toNat + (howto rel.type).bitsize / 8 ≤ contents.length) :
    Placed tgt rel value secAddr contents (InReach (branchReach rel.type) (relocValue rel value secAddr)) fun word =>
      jumpImm rel.type word = relocValue rel value secAddr := by
  have hplain : rel.type ≠ .rvcLui ∧ rel.type ≠ .subUleb128 ∧ rel.type ≠ .delete := by
    refine ⟨?_, ?_, ?_⟩ <;> (intro h; rw [h] at htype; exact absurd htype (by decide))
  simp only [RelocType.isJump, decide_eq_true_eq] at htype
  rcases htype with h | h | h | h
  · rw [h]
    exact placed_format jtype_format hplain (by rw [h]; decide) (by rw [h]; decide) hin validJtypeImm_iff
      (by rw [h]; exact fun _ => rfl)
  · rw [h]
    exact placed_format btype_format hplain (by rw [h]; decide) (by rw [h]; decide) hin validBtypeImm_iff
      (by rw [h]; exact fun _ => rfl)
  · rw [h]
    exact placed_format cbtype_format hplain (by rw [h]; decide) (by rw [h]; decide) hin validCbtypeImm_iff
      (by rw [h]; exact fun _ => rfl)
  · rw [h]
    exact placed_format cjtype_format hplain (by rw [h]; decide) (by rw [h]; decide) hin validCjtypeImm_iff
      (by rw [h]; exact fun _ => rfl)

end Jump

/-! ## Exact or reported -/

/-- A placed relocation has every property that follows from the one of its word. -/
theorem Placed.imp {tgt : Target} {rel : Rela} {value secAddr : Vma} {contents : List Byte} {fits : Prop}
    {decodes decodes' : Vma → Prop} (h : Placed tgt rel value secAddr contents fits decodes)
    (himp : fits → ∀ word, decodes word → decodes' word) : Placed tgt rel value secAddr contents fits decodes' :=
  ⟨h.overflow, h.ok, h.refused, fun hf => himp hf _ (h.field hf), h.bits, h.outside⟩

/-- Every instruction relocation is exact or refused.  An upper immediate is refused on RV64 outside of what it
reaches together with a low part, and otherwise the immediates of the two add up to the value, whichever
instruction has the low part; the pair of a call holds both; a branch or jump takes the even distances in its
reach. -/
theorem performRelocation_exact (tgt : Target) (rel : Rela) (value secAddr : Vma) (contents : List Byte)
    (hin : rel.offset.toNat + (howto rel.type).bitsize / 8 ≤ contents.length) :
    (rel.type.isHi20 → Placed tgt rel value secAddr contents (InHighRange tgt.xlen (relocValue rel value secAddr))
      fun word => ∀ (lo : Rela) (value' secAddr' : Vma) (contents' : List Byte),
        (lo.type.isLo12I ∨ lo.type.isLo12S) → lo.offset.toNat + 4 ≤ contents'.length →
        relocValue lo value' secAddr' = relocValue rel value secAddr →
        Placed tgt lo value' secAddr' contents' True fun loWord =>
          tgt.xlen.Congr (extractUtypeImm word + lowImm lo.type loWord) (relocValue rel value secAddr)) ∧
    (rel.type.isCall → Placed tgt rel value secAddr contents (InHighRange tgt.xlen (relocValue rel value secAddr))
      fun word => tgt.xlen.Congr (extractUtypeImm word + extractItypeImm (word >>> 32))
        (relocValue rel value secAddr)) ∧
    (rel.type.isJump → Placed tgt rel value secAddr contents
      (InReach (branchReach rel.type) (relocValue rel value secAddr))
      fun word => jumpImm rel.type word = relocValue rel value secAddr) := by
  refine ⟨fun htype => ?_, fun htype => ?_, fun htype => placed_jump value secAddr htype hin⟩
  · refine (placed_hi20 value secAddr htype hin).imp fun hfits word hword => ?_
    intro lo value' secAddr' contents' hlo hin' hsame
    refine (placed_lo12 value' secAddr' hlo hin').imp fun _ loWord hloWord => ?_
    rw [hword, hloWord, hsame]
    exact sext_high_add_low hfits
  · refine (placed_call value secAddr htype hin).imp fun hfits word hword => ?_
    rw [hword.1, hword.2]
    exact sext_high_add_low hfits

/-- The pair `auipc ra, 0; jalr ra` for a target whose low part carries into the upper immediate. -/
theorem call_carry_exact :
    Placed ⟨.rv64, false⟩ ⟨0, 0, .call, 0⟩ 0x1800 0 [0x97, 0, 0, 0, 0xe7, 0x80, 0, 0] (InHighRange .rv64 0x1800)
      fun word => Xlen.rv64.Congr (extractUtypeImm word + extractItypeImm (word >>> 32)) 0x1800 :=
  (performRelocation_exact ⟨.rv64, false⟩ ⟨0, 0, .call, 0⟩ 0x1800 0 [0x97, 0, 0, 0, 0xe7, 0x80, 0, 0]
    (by decide)).2.1 (by decide)

end RiscvBinutils.Bfd
