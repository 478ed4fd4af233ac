/-
The relocations that add to or subtract from a field (`R_RISCV_ADD8` to `R_RISCV_SUB64` and `R_RISCV_SUB6`).
They are implemented twice: by their special function (bfd/elfxx-riscv.c, `riscv_elf_add_sub_reloc`), and by
`riscv_elf_relocate_section` together with `perform_relocation`.
-/
import RiscvBinutils.Bfd.Relocate

namespace RiscvBinutils.Bfd

open RiscvBinutils.Base

/-! ## The special function -/

inductive AddSub
  | add | sub
  deriving DecidableEq, Repr

/-- Which of the types add and which subtract. -/
def RelocType.addSub : RelocType → Option AddSub
  | .add8 | .add16 | .add32 | .add64 => some .add
  | .sub6 | .sub8 | .sub16 | .sub32 | .sub64 => some .sub
  | _ => Option.none

/-- How the special function ends: with a status, or with `bfd_reloc_continue`. -/
inductive SpecialStatus
  | status (r : RelocStatus)
  | continue
  deriving DecidableEq, Repr

/-- The switch of `riscv_elf_add_sub_reloc`; `relocation` includes the addend. -/
def addSubValue (type : RelocType) (old relocation : Vma) : Vma :=
  match type with
  | .add8 | .add16 | .add32 | .add64 => old + relocation
  | .sub6 => sub6Value old relocation
  | .sub8 | .sub16 | .sub32 | .sub64 => old - relocation
  | _ => relocation

/-- `riscv_elf_add_sub_reloc`: the status, the address of the entry and the bytes.  `output` holds
`output_offset` when `output_bfd` is given, `symbol` is the address of the symbol; `partial_inplace` is false
for all of these types. -/
def riscvElfAddSubReloc (tgt : Target) (output : Option Vma) (sectionSym : Bool) (symbol : Vma) (rel : Rela)
    (contents : List Byte) : SpecialStatus × Vma × List Byte :=
  let h := howto rel.type
  match output with
  | some outputOffset =>
    if sectionSym = false then (.status .ok, rel.offset + outputOffset, contents)
    else (.continue, rel.offset, contents)
  | none =>
    let relocation := symbol + rel.addend
    let off := rel.offset.toNat
    if contents.length < off + h.bitsize / 8 then (.status .outofrange, rel.offset, contents)
    else
      let old := getWord tgt h contents off
      (.status .ok, rel.offset, putWord tgt h (addSubValue rel.type old relocation) contents off)

/-! ## Stores that agree -/

section Stores

theorem splice_inj {buf bs bs' : List Byte} {off : Nat} (hoff : off ≤ buf.length) (hlen : bs.length = bs'.length) :
    splice buf off bs = splice buf off bs' ↔ bs = bs' := by
  constructor
  · intro h
    have hs := slice_splice_same bs hoff
    rw [h, hlen, slice_splice_same bs' hoff] at hs
    exact hs.symm
  · rintro rfl
    rfl

/-- Two stores of a word leave the same bytes exactly when the words agree in the bits stored. -/
theorem putWord_inj (tgt : Target) {h : Howto} (hbits : 8 ∣ h.bitsize) {v w : Vma}
    {contents : List Byte} {off : Nat} (hoff : off ≤ contents.length) :
    putWord tgt h v contents off = putWord tgt h w contents off ↔ v.setWidth h.bitsize = w.setWidth h.bitsize := by
  have hpow : 256 ^ (h.bitsize / 8) = 2 ^ h.bitsize := by
    rw [show 256 = 2 ^ 8 by rfl, ← Nat.pow_mul, Nat.mul_div_cancel' hbits]
  have hword : v.setWidth h.bitsize = w.setWidth h.bitsize ↔
      toBytes (h.bitsize / 8) v.toNat = toBytes (h.bitsize / 8) w.toNat := by
    rw [toBytes_inj, hpow, ← BitVec.toNat_inj, BitVec.toNat_setWidth, BitVec.toNat_setWidth]
  unfold putWord
  split
  · rw [putl, putl, splice_inj hoff (by simp), hword]
  · rw [putb, putb, splice_inj hoff (by simp), hword]
    exact List.reverse_inj

end Stores

/-! ## The two implementations -/

section Agree

/-- A mask of `k` low ones keeps what `setWidth k` keeps. -/
theorem and_lowMask_eq_zero_iff {mask : Vma} {k : Nat} (hmask : mask.toNat = 2 ^ k - 1) (x : Vma) :
    x &&& mask = 0 ↔ x.setWidth k = 0 := by
  rw [← BitVec.toNat_inj, ← BitVec.toNat_inj, BitVec.toNat_and, hmask, Nat.and_two_pow_sub_one_eq_mod,
    BitVec.toNat_setWidth]
  simp

theorem setWidth_insert {mask : Vma} {k : Nat} (hk : k ≤ 64) (hmask : mask.toNat = 2 ^ k - 1) (old v : Vma) :
    ((old &&& ~~~mask) ||| (v &&& mask)).setWidth k = v.setWidth k := by
  have hones : mask.setWidth k = BitVec.allOnes k := by
    apply BitVec.eq_of_toNat_eq
    rw [BitVec.toNat_setWidth, hmask, BitVec.toNat_allOnes]
    have := Nat.two_pow_pos k
    exact Nat.mod_eq_of_lt (by omega)
  rw [BitVec.setWidth_or, BitVec.setWidth_and, BitVec.setWidth_and, hones, BitVec.setWidth_not hk, hones]
  simp

/-- Subtracting the sum and adding the addend after the subtraction agree modulo `2 ^ k` exactly when twice the
addend is zero there. -/
theorem sub_add_agree_iff {k : Nat} (hk : k ≤ 64) (old S A : Vma) :
    (old - S + A).setWidth k = (old - (S + A)).setWidth k ↔ (A + A).setWidth k = 0 := by
  have hsplit : old - S + A = (old - (S + A)) + (A + A) := by bv_omega
  rw [hsplit, BitVec.setWidth_add _ _ hk]
  exact BitVec.add_right_eq_self

theorem setWidth_sub_lowMask {mask : Vma} {k : Nat} (hk : k ≤ 64) (hmask : mask.toNat = 2 ^ k - 1) (old v : Vma) :
    ((old &&& mask) - v).setWidth k = (old - v).setWidth k := by
  have hold : (old &&& mask).setWidth k = old.setWidth k := by
    have h := setWidth_insert hk hmask 0#64 old
    rwa [BitVec.zero_and, BitVec.zero_or] at h
  rw [BitVec.sub_eq_add_neg, BitVec.sub_eq_add_neg, BitVec.setWidth_add _ _ hk, BitVec.setWidth_add _ _ hk, hold]

theorem insert_agree_iff {mask : Vma} {k n : Nat} (hkn : k ≤ n) (hn : n ≤ 64) (hmask : mask.toNat = 2 ^ k - 1)
    (old x y : Vma) :
    ((old &&& ~~~mask) ||| (x &&& mask)).setWidth n = ((old &&& ~~~mask) ||| (y &&& mask)).setWidth n ↔
      x.setWidth k = y.setWidth k := by
  constructor
  · intro h
    have hk := congrArg (BitVec.setWidth k) h
    rw [BitVec.setWidth_setWidth_of_le _ hkn, BitVec.setWidth_setWidth_of_le _ hkn] at hk
    rwa [setWidth_insert (hkn.trans hn) hmask, setWidth_insert (hkn.trans hn) hmask] at hk
  · intro h
    have hand : x &&& mask = y &&& mask := by
      apply BitVec.eq_of_toNat_eq
      have hnat := congrArg BitVec.toNat h
      rw [BitVec.toNat_setWidth, BitVec.toNat_setWidth] at hnat
      rw [BitVec.toNat_and, BitVec.toNat_and, hmask, Nat.and_two_pow_sub_one_eq_mod,
        Nat.and_two_pow_sub_one_eq_mod, hnat]
    rw [hand]

variable {rel : Rela}

/-- All but `R_RISCV_SUB6` fill their field. -/
theorem addSub_fullMask {op : AddSub} (hop : rel.type.addSub = some op) (h6 : rel.type ≠ .sub6) :
    8 ∣ (howto rel.type).bitsize ∧ (howto rel.type).bitsize ≤ 64 ∧
      (howto rel.type).dstMask.toNat = 2 ^ (howto rel.type).bitsize - 1 := by
  revert hop h6
  generalize rel.type = t
  cases t <;> simp [RelocType.addSub, howto, allOnes32]

theorem addSubValue_add (hop : rel.type.addSub = some .add) (old relocation : Vma) :
    addSubValue rel.type old relocation = old + relocation := by
  revert hop
  generalize rel.type = t
  cases t <;> simp [RelocType.addSub, addSubValue]

theorem addSubValue_sub (hop : rel.type.addSub = some .sub) (h6 : rel.type ≠ .sub6) (old relocation : Vma) :
    addSubValue rel.type old relocation = old - relocation := by
  revert hop h6
  generalize rel.type = t
  cases t <;> simp [RelocType.addSub, addSubValue]

/-- The word `perform_relocation` stores against the word the special function stores. -/
theorem addSub_word_iff {op : AddSub} (hop : rel.type.addSub = some op) (old S : Vma) :
    ((old &&& ~~~(howto rel.type).dstMask) |||
        ((addSubValue rel.type old S + rel.addend) &&& (howto rel.type).dstMask)).setWidth (howto rel.type).bitsize =
      (addSubValue rel.type old (S + rel.addend)).setWidth (howto rel.type).bitsize ↔
    op = .add ∨ (rel.addend + rel.addend) &&& (howto rel.type).dstMask = 0 := by
  by_cases h6 : rel.type = .sub6
  · have hsub : op = .sub := by
      rw [h6] at hop
      exact (Option.some.inj hop).symm
    have hmask : (howto .sub6).dstMask.toNat = 2 ^ 6 - 1 := rfl
    -- both words keep the old bits above the field
    have hlow : (sub6Value old S + rel.addend).setWidth 6 = (old - S + rel.addend).setWidth 6 := by
      rw [BitVec.setWidth_add _ _ (by decide), BitVec.setWidth_add _ _ (by decide), sub6Value,
        setWidth_insert (by decide) hmask, setWidth_sub_lowMask (by decide) hmask]
    rw [h6, addSubValue, addSubValue, and_lowMask_eq_zero_iff hmask, ← sub_add_agree_iff (by decide) old S]
    rw [sub6Value.eq_def old (S + rel.addend)]
    dsimp only
    rw [insert_agree_iff (by decide) (by decide) hmask, hlow, setWidth_sub_lowMask (by decide) hmask]
    simp [hsub]
  · obtain ⟨-, hle, hmask⟩ := addSub_fullMask hop h6
    rw [setWidth_insert hle hmask]
    cases op with
    | add =>
      rw [addSubValue_add hop, addSubValue_add hop, BitVec.add_assoc]
      simp
    | sub =>
      rw [addSubValue_sub hop h6, addSubValue_sub hop h6, sub_add_agree_iff hle, and_lowMask_eq_zero_iff hmask]
      simp

variable {link : Link} {inp : Input} {st : RelocState} {s : RelocSym}

/-- The loop places what the special function would, with the addend left for `perform_relocation`. -/
theorem relocatePlain_addSub {op : AddSub} (hop : s.rel.type.addSub = some op) :
    relocatePlain link inp st s = placeRelocation link inp st s s.unresolved s.rel
      (addSubValue s.rel.type (getWord link.target (howto s.rel.type) st.contents s.rel.offset.toNat)
        s.relocation) := by
  obtain ⟨⟨offset, sym, type, addend⟩, relocation, h, sec, sectionSym, unresolved⟩ := s
  cases type <;> cases hop <;> rfl

theorem performRelocation_addSub {op : AddSub} (hop : rel.type.addSub = some op) (tgt : Target)
    (value secAddr : Vma) (contents : List Byte) :
    performRelocation tgt rel value secAddr contents =
      (.ok, emplace tgt rel.type (value + rel.addend) contents rel.offset.toNat) := by
  rw [performRelocation_field]
  · revert hop
    cases htype : rel.type <;> simp [RelocType.addSub, relocField, howto]
  all_goals
    intro htype
    rw [htype] at hop
    cases hop

variable (link inp st s) in
/-- For a relocation in range the two implementations write the same bytes exactly when the type adds, or
twice the addend is zero in the field. -/
theorem addSub_bytes_iff {op : AddSub} (hop : s.rel.type.addSub = some op) (sectionSym : Bool)
    (hin : s.rel.offset.toNat + (howto s.rel.type).bitsize / 8 ≤ st.contents.length) :
    (s.unresolved = true ∧ relocatePlain link inp st s = .error (.unresolvable, st)) ∨
    ∃ st', relocatePlain link inp st s = .ok st' ∧
      (st'.contents = (riscvElfAddSubReloc link.target none sectionSym s.relocation s.rel st.contents).2.2 ↔
        op = .add ∨ (s.rel.addend + s.rel.addend) &&& (howto s.rel.type).dstMask = 0) := by
  rw [relocatePlain_addSub hop, placeRelocation]
  split
  · rename_i hrefused
    exact .inl ⟨hrefused.1, rfl⟩
  · rw [doRelocation, performRelocation_addSub hop]
    refine .inr ⟨_, rfl, ?_⟩
    have hbits : 8 ∣ (howto s.rel.type).bitsize := by
      revert hop
      cases htype : s.rel.type <;> simp [RelocType.addSub, howto]
    rw [riscvElfAddSubReloc]
    dsimp only
    rw [if_neg (by omega), emplace, putWord_inj link.target hbits (by omega)]
    exact addSub_word_iff hop _ _

/-- A section of data at 0x10000 and a label at 0x20000. -/
def dataLink : Link where
  xlen := .rv64
  sections := fun n => { output := some n }
  outputs := fun n => { vma := if n = 0 then 0x10000 else 0x20000 }
  ownerSections := [0, 1]
  absOutput := 9
  undSection := 8
  splt := 7

def dataInput : Input where
  sec := 0
  elfSections := fun shndx => shndx - 1
  locals := [{ value := 0, size := 0, shndx := 0 }, { value := 0, size := 0, shndx := 2 }]
  symHashes := []
  hashes := []

/-- `R_RISCV_SUB8` against the label plus 1, over a byte that holds 5: 6 from the loop, 4 from the special
function. -/
theorem sub8_addend_differs :
    ((relocatePlain dataLink dataInput { contents := [5] }
        { rel := ⟨0, 1, .sub8, 1⟩, relocation := 0x20000, sec := some 1 }).toOption.map (·.contents)) = some [6] ∧
      (riscvElfAddSubReloc dataLink.target none false 0x20000 ⟨0, 1, .sub8, 1⟩ [5]).2.2 = [4] := by
  decide

/-- `R_RISCV_SUB8` with an addend of 128. -/
theorem sub8_half_agrees : ∃ st',
    relocatePlain dataLink dataInput { contents := [5] }
        { rel := ⟨0, 1, .sub8, 128⟩, relocation := 0x20000, sec := some 1 } = .ok st' ∧
      st'.contents = (riscvElfAddSubReloc dataLink.target none false 0x20000 ⟨0, 1, .sub8, 128⟩ [5]).2.2 := by
  obtain ⟨hun, -⟩ | ⟨st', hok, hiff⟩ := addSub_bytes_iff dataLink dataInput { contents := [5] }
      { rel := ⟨0, 1, .sub8, 128⟩, relocation := 0x20000, sec := some 1 } rfl false (by decide)
  · cases hun
  · exact ⟨st', hok, hiff.mpr (.inr (by decide))⟩

end Agree

end RiscvBinutils.Bfd
